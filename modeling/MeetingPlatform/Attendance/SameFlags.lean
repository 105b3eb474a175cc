import MeetingPlatform.Attendance.Steps

/- One visit to a meeting, once as the devices record it and once as the host writes it down. Both
   flows read the same grace, and so they agree on who is late; they do not round a part of a minute
   the same way, and they do not take the same time for the end of the meeting. -/
namespace Attendance
open KeyedTable Guards
open MeetingBooking (Meeting MeetingStatus)

/-- `actualEndTime` is what the meeting has of it when the person leaves. -/
structure Visit where
  meetingId : Nat
  userId : Nat
  startTime : Int
  endTime : Int
  actualEndTime : Option Int
  graceMinutes : Int
  enteredAt : Int
  leftAt : Option Int

def AttendanceRecord.flags (record : AttendanceRecord) : Bool × Option Int × Bool :=
  (record.isLate, record.lateMinutes, record.leftEarly)

section Flows
variable (v : Visit)

/-- The status and the rest of the row are left free: they may change during the visit. -/
structure Visit.Finds (w : Surroundings) (meeting : Meeting) : Prop where
  row : w.meetings.get? v.meetingId = some meeting
  start : meeting.startTime = v.startTime
  stop : meeting.endTime = v.endTime
  grace : w.lateGraceMinutes = v.graceMinutes

structure Visit.Reported (input : VerifyInput) (direction : Direction) (verifyTime : Int) : Prop where
  meetingId : input.meetingId = v.meetingId
  userId : input.userId = v.userId
  direction : input.direction = direction
  verifyTime : input.verifyTime = verifyTime

inductive EntersByCamera (s : AttendanceStore) : AttendanceStore → Prop where
  | recorded {input : VerifyInput} {meeting : Meeting} {now : Int} (finds : v.Finds s.surroundings meeting)
      (reported : v.Reported input .entering v.enteredAt)
      (accepted : meetingClosed meeting v.enteredAt = false)
      (first : s.findRecord v.meetingId v.userId = none) : EntersByCamera s (s.onVerify input now)

inductive LeavesByCamera (s : AttendanceStore) : AttendanceStore → Prop where
  | stays (stays : v.leftAt = none) : LeavesByCamera s s
  | recorded {input : VerifyInput} {meeting : Meeting} {now t : Int} (left : v.leftAt = some t)
      (finds : v.Finds s.surroundings meeting) (actual : meeting.actualEndTime = v.actualEndTime)
      (reported : v.Reported input .leaving t)
      (accepted : (s.checkOutRecord input meeting).isSome) : LeavesByCamera s (s.onVerify input now)

inductive EntersByHand (s s' : AttendanceStore) : Prop where
  | recorded {meeting : Meeting} {actorUserId : Nat} {now : Int} {dto : CreateManualAttendanceDto}
      (finds : v.Finds s.surroundings meeting) (userId : dto.userId = v.userId)
      (enteredAt : dto.checkInTime.getD now = v.enteredAt)
      (accepted : createManual s v.meetingId actorUserId now dto = .ok s')

inductive LeavesByHand (s s' : AttendanceStore) : Prop where
  | stays (stays : v.leftAt = none) (same : s' = s)
  | recorded {meeting : Meeting} {recordId actorUserId : Nat} {record : AttendanceRecord} {now t : Int}
      (left : v.leftAt = some t) (finds : v.Finds s.surroundings meeting)
      (found : s.findRecord v.meetingId v.userId = some (recordId, record))
      (accepted : updateProfile s v.meetingId recordId actorUserId now { checkOutTime := some t } =
        .ok s')

/-- A visit as a whole. What the calls only read may be another when the person leaves. -/
def ThenLeaves (enters leaves : AttendanceStore → AttendanceStore → Prop) (s t : AttendanceStore) :
    Prop :=
  ∃ s' w, enters s s' ∧ leaves { s' with surroundings := w } t

def Visit.ByCamera : AttendanceStore → AttendanceStore → Prop :=
  ThenLeaves (EntersByCamera v) (LeavesByCamera v)

def Visit.ByHand : AttendanceStore → AttendanceStore → Prop :=
  ThenLeaves (EntersByHand v) (LeavesByHand v)

def AttendanceStore.flagsOf (s : AttendanceStore) : Option (Bool × Option Int × Bool) :=
  (s.findRecord v.meetingId v.userId).map fun found => found.2.flags

end Flows

section Rows
variable {s s' : AttendanceStore} {meetingId userId : Nat} {record : AttendanceRecord}

def AttendanceStore.attending (s : AttendanceStore) (meetingId userId : Nat) :
    List (Nat × AttendanceRecord) :=
  s.records.select fun r => r.2.attends = (meetingId, userId)

theorem findRecord_eq_head (s : AttendanceStore) (meetingId userId : Nat) :
    s.findRecord meetingId userId = (s.attending meetingId userId).head? := rfl

theorem attending_inserted (first : s.findRecord meetingId userId = none)
    (who : record.attends = (meetingId, userId)) (records : s'.records = s.records.insert record) :
    s'.attending meetingId userId = [(s.records.next, record)] := by
  have nobody : s.attending meetingId userId = [] := List.head?_eq_none_iff.mp first
  rw [AttendanceStore.attending] at nobody ⊢
  rw [records, select_insert, nobody, if_pos (decide_eq_true who), List.nil_append]

theorem attending_updated {recordId : Nat} {write : AttendanceRecord → AttendanceRecord}
    (one : s.attending meetingId userId = [(recordId, record)])
    (who : (write record).attends = record.attends)
    (records : s'.records = s.records.update recordId write) :
    s'.attending meetingId userId = [(recordId, write record)] := by
  have here : (recordId, record) ∈ s.attending meetingId userId :=
    one ▸ List.mem_singleton.mpr rfl
  have same : record.attends = (meetingId, userId) := of_decide_eq_true (mem_select.mp here).2
  rw [AttendanceStore.attending, records, select_update one]
  exact if_pos (decide_eq_true (who.trans same))

theorem attending_found {found : Nat × AttendanceRecord}
    {recordId : Nat} (one : s.attending meetingId userId = [(recordId, record)])
    (lookup : s.findRecord meetingId userId = some found) : found = (recordId, record) := by
  rw [findRecord_eq_head, one] at lookup
  exact (Option.some.inj lookup).symm

end Rows

section Camera
variable {v : Visit} {s s' : AttendanceStore}

def Visit.seenLate (v : Visit) : Bool × Option Int :=
  let isLate := isLateAt v.enteredAt v.startTime v.graceMinutes
  (isLate, some (if isLate then max 0 (minutesRounded (v.enteredAt - v.startTime)) else 0))

def Visit.effectiveEnd (v : Visit) : Int := v.actualEndTime.getD v.endTime

theorem camera_entered (enters : EntersByCamera v s s') : ∃ recordId record,
    s'.attending v.meetingId v.userId = [(recordId, record)] ∧
      (record.isLate, record.lateMinutes) = v.seenLate ∧ record.leftEarly = false := by
  obtain ⟨finds, ⟨meetingId, userId, direction, verifyTime⟩, accepted, first⟩ := enters
  rename_i input meeting now
  rw [← meetingId, ← userId] at first
  rw [← verifyTime] at accepted
  have row := finds.row
  rw [← meetingId] at row
  have records : (s.onVerify input now).records =
      s.records.insert (input.record s.surroundings meeting now) := by
    simp only [AttendanceStore.onVerify, row, direction, accepted, first]
    rfl
  rw [← meetingId, ← userId]
  refine ⟨_, _, attending_inserted first rfl records, ?_, rfl⟩
  simp only [VerifyInput.record, Visit.seenLate, finds.start, finds.grace, verifyTime]

theorem camera_left {recordId : Nat} {record : AttendanceRecord} (leaves : LeavesByCamera v s s')
    (one : s.attending v.meetingId v.userId = [(recordId, record)])
    (still : record.leftEarly = false) : ∃ after,
    s'.attending v.meetingId v.userId = [(recordId, after)] ∧
      (after.isLate, after.lateMinutes) = (record.isLate, record.lateMinutes) ∧
      after.leftEarly = leavesEarly v.leftAt v.effectiveEnd := by
  cases leaves with
  | stays stays => exact ⟨record, one, rfl, by rw [still, stays]; rfl⟩
  | @recorded input meeting now t left finds actual reported accepted =>
    obtain ⟨meetingId, userId, direction, verifyTime⟩ := reported
    obtain ⟨found, some_found⟩ := Option.isSome_iff_exists.mp accepted
    have row := finds.row
    rw [← meetingId] at row
    have records : (s.onVerify input now).records =
        s.records.update found.1 (input.checkedOut meeting now) := by
      simp only [AttendanceStore.onVerify, row, direction, AttendanceStore.checkOut, some_found]
      rfl
    have same : found = (recordId, record) := by
      obtain ⟨there, who, -⟩ := checkOutRecord_some some_found
      have here : found ∈ s.attending v.meetingId v.userId :=
        mem_select.mpr ⟨there, decide_eq_true (by rw [who, meetingId, userId])⟩
      rw [one] at here
      exact List.mem_singleton.mp here
    rw [same] at records
    refine ⟨_, attending_updated one rfl records, rfl, ?_⟩
    simp only [VerifyInput.checkedOut, verifyTime, left, leavesEarly, Option.any_some,
      Visit.effectiveEnd, Attendance.effectiveEnd, actual, finds.stop]
    rfl

theorem camera_flags (camera : v.ByCamera s s') : s'.flagsOf v =
    some (v.seenLate.1, v.seenLate.2, leavesEarly v.leftAt v.effectiveEnd) := by
  obtain ⟨entered, w, enters, leaves⟩ := camera
  obtain ⟨recordId, record, one, late, still⟩ := camera_entered enters
  obtain ⟨after, one_after, kept, early⟩ := camera_left leaves one still
  have both := kept.trans late
  rw [AttendanceStore.flagsOf, findRecord_eq_head, one_after, List.head?_cons, Option.map_some]
  rw [AttendanceRecord.flags, ← early, ← both]

end Camera

section Hand
variable {v : Visit} {s s' : AttendanceStore}

def Visit.computed (v : Visit) (checkOutTime : Option Int) : LateFlags :=
  computeLateFlags v.enteredAt v.startTime checkOutTime v.endTime v.graceMinutes

def LateFlags.stored (flags : LateFlags) : Bool × Option Int × Bool :=
  (flags.isLate, some flags.lateMinutes, flags.leftEarly)

theorem hand_entered (enters : EntersByHand v s s') : ∃ recordId record,
    s'.attending v.meetingId v.userId = [(recordId, record)] ∧
      record.checkInTime = some v.enteredAt ∧ record.flags = (v.computed none).stored := by
  obtain ⟨finds, userId, enteredAt, accepted⟩ := enters
  rename_i meeting actorUserId now dto
  simp only [createManual, newManualRecord, bind_eq_ok, pure_eq_ok, require_eq_ok] at accepted
  obtain ⟨_, ⟨other, gated, participant, -, -, first, rfl⟩, rfl⟩ := accepted
  cases (findMeeting_some (gate_ok gated).1).symm.trans finds.row
  rw [← userId]
  refine ⟨_, _, attending_inserted first rfl rfl, ?_, ?_⟩
  · exact congrArg some enteredAt
  · simp only [CreateManualAttendanceDto.record, AttendanceRecord.flags, Visit.computed,
      LateFlags.stored, enteredAt, finds.start, finds.stop, finds.grace]

theorem hand_left {recordId : Nat} {record : AttendanceRecord} (leaves : LeavesByHand v s s')
    (one : s.attending v.meetingId v.userId = [(recordId, record)])
    (entered : record.checkInTime = some v.enteredAt)
    (flags : record.flags = (v.computed none).stored) : ∃ after,
    s'.attending v.meetingId v.userId = [(recordId, after)] ∧
      after.flags = (v.computed v.leftAt).stored := by
  cases leaves with
  | stays stays same =>
    rw [same, stays]
    exact ⟨record, one, flags⟩
  | @recorded meeting k actorUserId found now t left finds lookup accepted =>
    cases attending_found one lookup
    obtain ⟨other, _, row, -, -, -, rfl⟩ := updateProfile_ok accepted
    cases row.symm.trans finds.row
    obtain ⟨stamp, saves⟩ := saved_with_stamp now
      (UpdateAttendanceProfileDto.write { checkOutTime := some t } meeting
        s.surroundings.lateGraceMinutes) record
    have written := written_profile { checkOutTime := some t } meeting
      s.surroundings.lateGraceMinutes record
    refine ⟨_, attending_updated one ?_ rfl, ?_⟩
    · rw [saves]
      exact written.1
    · rw [saves]
      simp only [AttendanceRecord.stamped, AttendanceRecord.flags, UpdateAttendanceProfileDto.write,
        Option.none_or, entered, Option.some_or, Visit.computed, LateFlags.stored, left, finds.start,
        finds.stop, finds.grace]

theorem hand_flags (hand : v.ByHand s s') : s'.flagsOf v = some (v.computed v.leftAt).stored := by
  obtain ⟨entered, w, enters, leaves⟩ := hand
  obtain ⟨recordId, record, one, checkIn, flags⟩ := hand_entered enters
  obtain ⟨after, one_after, same⟩ := hand_left leaves one checkIn flags
  rw [AttendanceStore.flagsOf, findRecord_eq_head, one_after, List.head?_cons, Option.map_some, same]

end Hand

section Agreement
variable (v : Visit)

/-- The part of a minute that a late person is late by is rounded up by both flows, or there is none. -/
def Visit.RoundsUp : Prop :=
  v.startTime + v.graceMinutes * 60000 < v.enteredAt →
    (v.enteredAt - v.startTime) % 60000 = 0 ∨ 30000 ≤ (v.enteredAt - v.startTime) % 60000

/-- The person does not leave between the scheduled and the actual end. -/
def Visit.NotBetweenEnds : Prop :=
  ∀ t ∈ v.leftAt, ∀ actualEnd ∈ v.actualEndTime, (t < actualEnd ↔ t < v.endTime)

variable {v} {s t s' t' : AttendanceStore}

theorem minutes_same_iff {ms : Int} (late : 0 < ms) :
    max 0 (minutesRounded ms) = max 1 (minutesUp ms) ↔ ms % 60000 = 0 ∨ 30000 ≤ ms % 60000 := by
  unfold minutesRounded minutesUp
  omega

theorem late_same_iff (grace : 0 ≤ v.graceMinutes) :
    v.seenLate = ((v.computed v.leftAt).isLate, some (v.computed v.leftAt).lateMinutes) ↔
      v.RoundsUp := by
  simp only [Visit.seenLate, Visit.computed, computeLateFlags, Prod.mk.injEq, true_and,
    Option.some.injEq, Visit.RoundsUp, isLateAt, decide_eq_true_eq]
  by_cases late : v.startTime + v.graceMinutes * 60000 < v.enteredAt
  · rw [if_pos late, if_pos late, minutes_same_iff (by omega)]
    exact ⟨fun rounded _ => rounded, fun rounded => rounded late⟩
  · rw [if_neg late, if_neg late]
    exact ⟨fun _ is_late => absurd is_late late, fun _ => rfl⟩

theorem early_same_iff :
    leavesEarly v.leftAt v.effectiveEnd = (v.computed v.leftAt).leftEarly ↔ v.NotBetweenEnds := by
  obtain ⟨_, _, _, stop, actual, _, _, left⟩ := v
  simp only [Visit.computed, computeLateFlags, Visit.NotBetweenEnds, Visit.effectiveEnd, leavesEarly]
  cases left with
  | none => exact iff_of_true rfl (by rintro t ⟨⟩)
  | some t =>
    cases actual with
    | none => exact iff_of_true rfl (by rintro t there e ⟨⟩)
    | some e =>
      simp only [Option.any_some, Option.getD_some, Option.mem_def, Option.some.injEq, forall_eq']
      exact decide_eq_decide

/-- The two flows leave the same flags of a visit exactly when no part of a minute under a half is lost
    to the rounding of the devices and the person does not leave between the two ends. -/
theorem same_flags_iff (camera : v.ByCamera s t) (hand : v.ByHand s' t')
    (grace : 0 ≤ v.graceMinutes) :
    (∃ flags, t.flagsOf v = some flags ∧ t'.flagsOf v = some flags) ↔
      v.RoundsUp ∧ v.NotBetweenEnds := by
  rw [camera_flags camera, hand_flags hand, ← late_same_iff grace, ← early_same_iff]
  constructor
  · rintro ⟨flags, seen, computed⟩
    have same := Option.some.inj (seen.trans computed.symm)
    simp only [LateFlags.stored, Prod.mk.injEq] at same
    exact ⟨Prod.ext same.1 same.2.1, same.2.2⟩
  · rintro ⟨late, early⟩
    rw [late, early]
    exact ⟨_, rfl, rfl⟩

def hallVisit (enteredAt : Int) (leftAt : Option Int) : Visit :=
  ⟨0, 2, 0, 3600000, none, 0, enteredAt, leftAt⟩

def enteredByHand (enteredAt : Int) : CreateManualAttendanceDto := ⟨2, some enteredAt, none⟩

theorem hall_finds (enteredAt : Int) (leftAt : Option Int) :
    (hallVisit enteredAt leftAt).Finds emptyHall.surroundings hourMeeting :=
  ⟨rfl, rfl, rfl, rfl⟩

theorem ten_seconds_late : ¬ ∀ (v : Visit) (s t s' t' : AttendanceStore), v.ByCamera s t →
    v.ByHand s' t' → 0 ≤ v.graceMinutes → (∀ left ∈ v.leftAt, v.enteredAt ≤ left) →
    ∃ flags, t.flagsOf v = some flags ∧ t'.flagsOf v = some flags := by
  intro claimed
  have camera : (hallVisit 10000 none).ByCamera emptyHall
      (emptyHall.onVerify (report .entering 10000) 10100) :=
    ⟨emptyHall.onVerify (report .entering 10000) 10100, emptyHall.surroundings, .recorded (hall_finds _ _)
      ⟨rfl, rfl, rfl, rfl⟩ (by decide) (by decide), .stays rfl⟩
  obtain ⟨stored, created⟩ : ∃ stored, createManual emptyHall 0 1 20000 (enteredByHand 10000) =
      .ok stored := ⟨_, rfl⟩
  have hand : (hallVisit 10000 none).ByHand emptyHall stored :=
    ⟨_, _, .recorded (hall_finds _ _) rfl rfl created, .stays rfl rfl⟩
  obtain ⟨flags, seen, computed⟩ := claimed _ _ _ _ _ camera hand le_rfl (by rintro _ ⟨⟩)
  rw [camera_flags camera] at seen
  rw [hand_flags hand, ← seen] at computed
  exact absurd computed (by decide)

theorem same_flags_of_half_minutes : ∃ t t', (hallVisit 150000 (some 3000000)).ByCamera emptyHall t ∧
    (hallVisit 150000 (some 3000000)).ByHand emptyHall t' ∧
    ∃ flags, t.flagsOf (hallVisit 150000 (some 3000000)) = some flags ∧
      t'.flagsOf (hallVisit 150000 (some 3000000)) = some flags := by
  have camera : (hallVisit 150000 (some 3000000)).ByCamera emptyHall
      ((emptyHall.onVerify (report .entering 150000) 150100).onVerify (report .leaving 3000000)
        3000100) := by
    refine ⟨emptyHall.onVerify (report .entering 150000) 150100, emptyHall.surroundings,
      .recorded (hall_finds _ _) ⟨rfl, rfl, rfl, rfl⟩ (by decide) (by decide), ?_⟩
    have accepted : ((emptyHall.onVerify (report .entering 150000) 150100).checkOutRecord
        (report .leaving 3000000) hourMeeting).isSome := by decide
    exact .recorded rfl (hall_finds _ _) rfl ⟨rfl, rfl, rfl, rfl⟩ accepted
  obtain ⟨created, creates⟩ : ∃ created, createManual emptyHall 0 1 160000 (enteredByHand 150000) =
      .ok created := ⟨_, rfl⟩
  obtain ⟨updated, updates⟩ : ∃ updated,
      updateProfile created 0 0 1 3100000 { checkOutTime := some 3000000 } = .ok updated := by
    cases creates
    exact ⟨_, rfl⟩
  have hand : (hallVisit 150000 (some 3000000)).ByHand emptyHall updated := by
    refine ⟨created, created.surroundings, .recorded (hall_finds _ _) rfl rfl creates, ?_⟩
    cases creates
    exact .recorded rfl (hall_finds _ _) rfl updates
  exact ⟨_, _, camera, hand, (same_flags_iff camera hand le_rfl).mpr
    ⟨fun _ => Or.inr (by decide), by rintro t - e ⟨⟩⟩⟩

end Agreement

end Attendance
