import MeetingPlatform.Attendance.Steps
import MeetingPlatform.Lib.CheckedInsert

/- The record of an attendance is made by the device at the door or by the host. Both look for an
   earlier one first; no index and no lock is there to stop the other in between. -/
namespace Attendance
open KeyedTable Guards LabelledRuns CallPools CheckedInserts
open MeetingBooking (Meeting MeetingStatus)

section Calls

inductive AttendanceRequest where
  | onVerify (input : VerifyInput)
  | createManual (meetingId actorUserId : Nat) (dto : CreateManualAttendanceDto)

/-- `seen` is the number of records when the call has looked for one. -/
inductive AttendanceCall where
  | verifying (input : VerifyInput)
  | detecting (input : VerifyInput) (meeting : Meeting) (existing : Option Nat) (seen : Nat)
  | checkingOut (input : VerifyInput) (meeting : Meeting) (recordId : Nat)
  | creating (meetingId actorUserId : Nat) (dto : CreateManualAttendanceDto)
  | inserting (record : AttendanceRecord) (seen : Nat)

variable (s : AttendanceStore)

def lookUp (input : VerifyInput) : Option AttendanceCall := do
  let meeting ← s.surroundings.meetings.get? input.meetingId
  match input.direction with
  | .leaving => (s.checkOutRecord input meeting).map fun found => .checkingOut input meeting found.1
  | .entering =>
    if meetingClosed meeting input.verifyTime then none
    else
      let existing := (s.findRecord input.meetingId input.userId).map Prod.fst
      some (.detecting input meeting existing s.records.rows.length)

def AttendanceCall.access (now : Int) : AttendanceCall → AttendanceStore × Option AttendanceCall
  | .verifying input => (s, lookUp s input)
  | .detecting input meeting existing _ => (s.detect input meeting now existing, none)
  | .checkingOut input meeting recordId => (s.writeCheckOut input meeting now recordId, none)
  | .creating meetingId actorUserId dto =>
    (s, (newManualRecord s meetingId actorUserId now dto).toOption.map
      (.inserting · s.records.rows.length))
  | .inserting record _ => (s.insertRecord record, none)

def recording : Service AttendanceStore AttendanceCall AttendanceRequest where
  clock _ := 0
  admits _ _ := True
  enter _
    | .onVerify input => .verifying input
    | .createManual meetingId actorUserId dto => .creating meetingId actorUserId dto
  act now c s := c.access s now

instance (r : AttendanceRequest) : Decidable (recording.admits s r) :=
  inferInstanceAs (Decidable True)

end Calls

section OneRecord
variable {s : AttendanceStore} {c : AttendanceCall} {now : Nat}

def AttendanceCall.adds : AttendanceCall → Option (Nat × Nat)
  | .detecting input _ none _ => some (input.meetingId, input.userId)
  | .inserting record _ => some record.attends
  | _ => none

def AttendanceCall.since : AttendanceCall → Nat
  | .detecting _ _ _ seen | .inserting _ seen => seen
  | _ => 0

theorem access_appends (s : AttendanceStore) (now : Nat) (c : AttendanceCall) :
    (recording.act now c s).1.attendances = s.attendances ++ c.adds.toList := by
  have nothing : s.attendances = s.attendances ++ (none : Option (Nat × Nat)).toList :=
    (List.append_nil _).symm
  cases c with
  | verifying input => exact nothing
  | creating meetingId actorUserId dto => exact nothing
  | detecting input meeting existing seen =>
    cases existing with
    | none => exact attendances_insert s.records _
    | some recordId =>
      have same : (s.detect input meeting now (some recordId)).attendances = s.attendances :=
        column_update AttendanceRecord.attends fun _ _ => rfl
      exact same.trans nothing
  | checkingOut input meeting recordId =>
    have same : (s.writeCheckOut input meeting now recordId).attendances = s.attendances :=
      column_update AttendanceRecord.attends fun _ _ => rfl
    exact same.trans nothing
  | inserting record seen => exact attendances_insert s.records record

def recordInserts : Inserting recording (Nat × Nat) where
  rows s := s.attendances
  clash attends later := attends = later
  adds _ _ c := c.adds
  since c := c.since
  appends := access_appends

instance (s : AttendanceStore) (now : Nat) (c : AttendanceCall) :
    Decidable (Undisturbed recordInserts s now c) :=
  inferInstanceAs (Decidable (∀ attends ∈ c.adds, ∀ r ∈ s.attendances.drop c.since, ¬ r = attends))

/-- A call that is about to insert did not find its attendance among those there were. -/
structure HasLooked (s : AttendanceStore) (c : AttendanceCall) : Prop where
  within : c.since ≤ s.attendances.length
  unmatched : ∀ attends ∈ c.adds, attends ∉ s.attendances.take c.since

theorem hasLooked_of_idle (since : c.since = 0) : HasLooked s c := by
  constructor
  · rw [since]
    exact Nat.zero_le _
  · rw [since, List.take_zero]
    exact fun _ _ => List.not_mem_nil

theorem attendances_length (s : AttendanceStore) : s.attendances.length = s.records.rows.length :=
  List.length_map _

theorem hasLooked_of_unmet (since : c.since = s.records.rows.length)
    (unmet : ∀ attends ∈ c.adds, attends ∉ s.attendances) : HasLooked s c := by
  rw [← attendances_length] at since
  constructor
  · exact Nat.le_of_eq since
  · rw [since, List.take_length]
    exact unmet

theorem next_hasLooked {c' : AttendanceCall} (next : (recording.act now c s).2 = some c') :
    HasLooked (recording.act now c s).1 c' := by
  cases c with
  | verifying input =>
    have found : lookUp s input = some c' := next
    simp only [lookUp, Option.bind_eq_bind, Option.bind_eq_some_iff] at found
    obtain ⟨meeting, -, found⟩ := found
    split at found
    · obtain ⟨r, -, rfl⟩ := Option.map_eq_some_iff.mp found
      exact hasLooked_of_idle rfl
    · split at found
      · cases found
      · cases found
        refine hasLooked_of_unmet rfl ?_
        intro attends added
        change attends ∉ s.attendances
        cases lookup : s.findRecord input.meetingId input.userId with
        | none =>
          rw [lookup] at added
          cases added
          exact unmet_of_findRecord lookup
        | some r =>
          rw [lookup] at added
          cases added
  | creating meetingId actorUserId dto =>
    obtain ⟨record, made, rfl⟩ := Option.map_eq_some_iff.mp next
    obtain ⟨unmet, meeting, participantId, rfl⟩ := newManualRecord_ok (toOption_eq_some.mp made)
    refine hasLooked_of_unmet rfl ?_
    intro attends added
    cases added
    exact unmet_of_findRecord unmet
  | detecting input meeting existing seen => cases next
  | checkingOut input meeting recordId => cases next
  | inserting record seen => cases next

theorem other_hasLooked {d : AttendanceCall} (looked : HasLooked s d) :
    HasLooked (recording.act now c s).1 d := by
  have after := access_appends s now c
  constructor
  · rw [after, List.length_append]
    exact Nat.le_trans looked.within (Nat.le_add_right _ _)
  · rw [after, List.take_append_of_le_length looked.within]
    exact looked.unmatched

theorem recording_keeps :
    Keeps recording (fun _ => True) HasLooked (fun _ _ => True) (fun _ _ _ => True) where
  symm _ _ _ := trivial
  enters s r _ _ := by
    cases r with
    | onVerify input => exact hasLooked_of_idle rfl
    | createManual meetingId actorUserId dto => exact hasLooked_of_idle rfl
  alone _ _ _ _ _ _ := trivial
  inv _ _ _ _ _ _ _ := trivial
  next _ _ _ _ _ _ _ _ next := next_hasLooked next
  others _ _ _ _ _ _ looked _ _ _ := other_hasLooked looked
  still_apart _ _ _ _ _ _ _ _ _ _ _ _ := trivial

def OneRecordEach (s : AttendanceStore) : Prop :=
  ∀ meetingId userId,
    (s.records.rows.filter fun r => r.2.attends = (meetingId, userId)).length ≤ 1

theorem distinct_iff_one (s : AttendanceStore) : Distinct recordInserts s ↔ OneRecordEach s := by
  refine (distinct_keys_iff id s.attendances).trans ?_
  rw [Prod.forall]
  refine forall₂_congr fun meetingId userId => ?_
  rw [AttendanceStore.attendances, List.filter_map, List.length_map]
  exact Iff.rfl

variable {p : Pool AttendanceStore AttendanceCall}
  {moves : List (Move (Pool AttendanceStore AttendanceCall) (Turn AttendanceRequest))}

/-- The records stay one for each user and meeting exactly as long as no call inserts a record of an
    attendance that another call has recorded since it looked. -/
theorem one_record_each_iff (start : OneRecordEach s)
    (run : Run (Step recording) (Pool.idle s) moves p) :
    (∀ a ∈ visited (Pool.idle s) moves, OneRecordEach a.shared) ↔
      Heeds (Allows (Undisturbed recordInserts)) moves := by
  have looked : ∀ s c, HasLooked s c → Looked recordInserts s c := by
    intro s c looked _ attends added r there same
    exact looked.unmatched attends added (same ▸ there)
  have iff := distinct_iff recording_keeps looked trivial ((distinct_iff_one s).mpr start) run
  simpa only [distinct_iff_one] using iff

def passing (t : Int) : AttendanceRequest := .onVerify (report .entering t)

def byHand : AttendanceRequest := .createManual 0 1 ⟨2, some 60000, none⟩

/-- Two events of one person at the door, and the host who adds the record by hand, where all three
    look before any of them writes. -/
def burst : List (Turn AttendanceRequest) :=
  [.enter 0 (passing 60000), .enter 1 (passing 61000), .enter 2 byHand, .act 0 61100, .act 1 61150,
    .act 2 61200, .act 0 61300, .act 1 61350, .act 2 61400]

theorem recorded_three_times : ¬ ∀ s moves p, OneRecordEach s →
    Run (Step recording) (Pool.idle s) moves p →
    ∀ a ∈ visited (Pool.idle s) moves, OneRecordEach a.shared := by
  intro claimed
  have follows : Follows recording (fun _ _ _ => True) (Pool.idle emptyHall) burst := by decide +kernel
  obtain ⟨moves, run, -⟩ := follows_run follows
  have start : OneRecordEach emptyHall := fun _ _ => Nat.zero_le 1
  have one := claimed _ _ _ start run _ (end_visited run) 0 2
  exact absurd one (by decide +kernel)

def inTurn : List (Turn AttendanceRequest) :=
  [.enter 0 (passing 60000), .act 0 61100, .act 0 61300, .enter 1 (passing 61000), .enter 2 byHand,
    .act 1 61350, .act 2 61400, .act 1 61450]

theorem recorded_in_turn : ∃ moves p, Run (Step recording) (Pool.idle emptyHall) moves p ∧
    p.shared.events.length = 2 ∧
    ∀ a ∈ visited (Pool.idle emptyHall) moves, OneRecordEach a.shared := by
  have follows : Follows recording (Undisturbed recordInserts) (Pool.idle emptyHall) inTurn := by
    decide +kernel
  obtain ⟨moves, run, heeds⟩ := follows_run follows
  have start : OneRecordEach emptyHall := fun _ _ => Nat.zero_le 1
  exact ⟨moves, _, run, by decide +kernel, (one_record_each_iff start run).mpr heeds⟩

end OneRecord
end Attendance
