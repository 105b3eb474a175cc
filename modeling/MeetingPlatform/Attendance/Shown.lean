import MeetingPlatform.Attendance.Steps
import Mathlib.Data.List.Sort

/- The attendance list of a meeting. What it shows for a participant is worked out from the latest
   record: from the time of check-in, the flag of an early leave, and only then the status. -/
namespace Attendance
open KeyedTable Guards LabelledRuns
open MeetingBooking (Meeting MeetingStatus)
open Participants (ParticipantRole InvitationStatus)

section List

inductive ShownStatus where
  | present | late | absent | leftEarly | notCheckedIn | pendingReview
  deriving DecidableEq, Repr

structure AttendanceStatusResult where
  attendanceStatus : ShownStatus
  isLate : Bool
  lateMinutes : Int
  deriving DecidableEq, Repr

def deriveAttendanceStatus (record : Option AttendanceRecord) (meetingStatus : MeetingStatus)
    (meetingStartTime : Int) : AttendanceStatusResult :=
  match record.bind fun r => r.checkInTime.map fun checkInTime => (r, checkInTime) with
  | none => ⟨if meetingStatus = .completed then .absent else .notCheckedIn, false, 0⟩
  | some (record, checkInTime) =>
    if record.leftEarly ∨ record.attendanceStatus = .leftEarly then
      ⟨.leftEarly, record.isLate, record.lateMinutes.getD 0⟩
    else
      match record.attendanceStatus with
      | .pendingReview => ⟨.pendingReview, record.isLate, record.lateMinutes.getD 0⟩
      | .present => ⟨.present, false, 0⟩
      | .late => ⟨.late, true, record.lateMinutes.getD 0⟩
      | .absent => ⟨.absent, false, 0⟩
      | .leftEarly | .invalidated =>
        if meetingStartTime < checkInTime then
          ⟨.late, true, max 1 (minutesUp (checkInTime - meetingStartTime))⟩
        else ⟨.present, false, 0⟩

structure ListedUser where
  fullName : String
  avatarUrl : Option String := none
  departmentName : Option String := none
  positionTitle : Option String := none
  deletedAt : Option Int := none
  deriving DecidableEq, Repr

structure AttendanceItem where
  id : Option Nat
  participantId : Nat
  userId : Nat
  fullName : String
  avatarUrl : Option String
  departmentName : Option String
  positionTitle : Option String
  participantRole : ParticipantRole
  attendanceStatus : ShownStatus
  checkInTime : Option Int
  attendanceSource : Option AttendanceSource
  checkInMethod : Option CheckInMethod
  isLate : Bool
  lateMinutes : Int
  deriving DecidableEq, Repr

/-- The order by `updated_at` and then `created_at`, newest first. -/
def newer (a b : Nat × AttendanceRecord) : Prop :=
  b.2.updatedAt < a.2.updatedAt ∨ b.2.updatedAt = a.2.updatedAt ∧ b.2.createdAt ≤ a.2.createdAt

instance : DecidableRel newer := fun _ _ => inferInstanceAs (Decidable (_ ∨ _))

variable (s : AttendanceStore) (users : Nat → Option ListedUser) (meetingId : Nat)

def AttendanceStore.latestRecord (userId : Nat) : Option (Nat × AttendanceRecord) :=
  ((s.records.select fun r => r.2.attends = (meetingId, userId)).insertionSort newer).head?

def listedParticipants : List (Nat × MeetingParticipant × ListedUser) :=
  (s.surroundings.participants.select fun r =>
    r.2.meetingId = meetingId ∧ r.2.invitationStatus ≠ .declined).filterMap fun r =>
      ((users r.2.userId).filter fun user => user.deletedAt = none).map fun user => (r.1, r.2, user)

def attendanceItem (meeting : Meeting) (p : Nat × MeetingParticipant × ListedUser) : AttendanceItem :=
  let record := s.latestRecord meetingId p.2.1.userId
  let derived := deriveAttendanceStatus (record.map Prod.snd) meeting.status meeting.startTime
  { id := record.map Prod.fst
    participantId := p.1
    userId := p.2.1.userId
    fullName := p.2.2.fullName
    avatarUrl := p.2.2.avatarUrl
    departmentName := p.2.2.departmentName
    positionTitle := p.2.2.positionTitle
    participantRole := p.2.1.participantRole
    attendanceStatus := derived.attendanceStatus
    checkInTime := record.bind fun r => r.2.checkInTime
    attendanceSource := record.map fun r => r.2.attendanceSource
    checkInMethod := record.map fun r => r.2.checkInMethod
    isLate := derived.isLate
    lateMinutes := derived.lateMinutes }

structure AttendanceSummary where
  scope : String := "internal_participants_only"
  totalParticipants : Nat
  checkedInCount : Nat
  presentCount : Nat
  lateCount : Nat
  absentCount : Nat
  notCheckedInCount : Nat
  deriving DecidableEq, Repr

def buildSummary (items : List AttendanceItem) (meetingStatus : MeetingStatus) : AttendanceSummary :=
  let count (status : ShownStatus) := items.countP fun item => item.attendanceStatus = status
  { totalParticipants := items.length
    checkedInCount := count .present + count .late + count .leftEarly
    presentCount := count .present
    lateCount := count .late
    absentCount :=
      if meetingStatus = .completed then count .absent + count .notCheckedIn else 0
    notCheckedInCount := if meetingStatus ≠ .completed then count .notCheckedIn else 0 }

def attendanceNotViewable : AttendanceError :=
  ⟨.conflict, "ATTENDANCE_NOT_OPEN_YET", "Meeting is not in a state that allows viewing attendance"⟩

/-- The list that is shown to those who may see it, before it is filtered and cut into pages. -/
def getAttendanceList : Except AttendanceError (AttendanceSummary × List AttendanceItem) := do
  let meeting ← expect (s.surroundings.findMeeting meetingId) meetingNotFound
  require (meeting.status ∈ [.scheduled, .inProgress, .completed]) attendanceNotViewable
  let items := (listedParticipants s users meetingId).map (attendanceItem s meetingId meeting)
  return (buildSummary items meeting.status, items)

end List

section Shown
variable {s s' t : AttendanceStore} {users : Nat → Option ListedUser} {meetingId : Nat} {now : Int}

def AttendanceRecordStatus.shown : AttendanceRecordStatus → Option ShownStatus
  | .present => some .present
  | .absent => some .absent
  | .late => some .late
  | .leftEarly => some .leftEarly
  | .invalidated => none
  | .pendingReview => some .pendingReview

def ShownStatus.checkedIn : ShownStatus → Bool
  | .present | .late | .leftEarly => true
  | .absent | .notCheckedIn | .pendingReview => false

theorem checkedInCount_eq (items : List AttendanceItem) (meetingStatus : MeetingStatus) :
    (buildSummary items meetingStatus).checkedInCount =
      items.countP fun item => item.attendanceStatus.checkedIn := by
  unfold buildSummary
  induction items with
  | nil => rfl
  | cons item rest ih =>
    simp only [List.countP_cons] at ih ⊢
    rw [← ih]
    cases item.attendanceStatus <;> simp [ShownStatus.checkedIn] <;> omega

theorem derived_status {record : AttendanceRecord} {shown : ShownStatus} {meetingStatus : MeetingStatus}
    {meetingStartTime : Int} (checked_in : record.checkInTime.isSome)
    (named : record.attendanceStatus.shown = some shown) :
    (deriveAttendanceStatus (some record) meetingStatus meetingStartTime).attendanceStatus =
      if record.leftEarly then .leftEarly else shown := by
  obtain ⟨checkInTime, entered⟩ := Option.isSome_iff_exists.mp checked_in
  simp only [deriveAttendanceStatus, Option.bind_some, entered, Option.map_some]
  cases record.leftEarly with
  | true => rfl
  | false =>
    cases status : record.attendanceStatus <;> rw [status] at named <;> cases named <;> rfl

theorem latestRecord_of_distinct (distinct : s.attendances.Nodup) {r : Nat × AttendanceRecord}
    (there : r ∈ s.records.rows) : s.latestRecord r.2.meetingId r.2.userId = some r := by
  have only : s.records.select (fun q => q.2.attends = (r.2.meetingId, r.2.userId)) = [r] :=
    filter_own_value distinct there
  rw [AttendanceStore.latestRecord, only]
  rfl

theorem item_status (distinct : s.attendances.Nodup) {r : Nat × AttendanceRecord}
    (there : r ∈ s.records.rows) (checked_in : r.2.checkInTime.isSome) {shown : ShownStatus}
    (named : r.2.attendanceStatus.shown = some shown) {meeting : Meeting}
    {p : Nat × MeetingParticipant × ListedUser} (ofUser : p.2.1.userId = r.2.userId) :
    (attendanceItem s r.2.meetingId meeting p).attendanceStatus =
      if r.2.leftEarly then .leftEarly else shown := by
  simp only [attendanceItem, ofUser, latestRecord_of_distinct distinct there, Option.map_some]
  exact derived_status checked_in named

theorem listed_of_open (users : Nat → Option ListedUser) {meeting : Meeting} (found : s.surroundings.findMeeting meetingId = some meeting)
    (opened : meeting.status ∈ [.scheduled, .inProgress, .completed]) :
    ∃ summary, getAttendanceList s users meetingId =
      .ok (summary, (listedParticipants s users meetingId).map (attendanceItem s meetingId meeting)) := by
  refine ⟨buildSummary ((listedParticipants s users meetingId).map (attendanceItem s meetingId meeting))
    meeting.status, ?_⟩
  simp only [getAttendanceList, bind_eq_ok, pure_eq_ok, expect_eq_ok, require_eq_ok]
  exact ⟨meeting, found, (), opened, rfl⟩

theorem shown_after_one {recordId actorUserId : Nat} {attendanceStatus : AttendanceRecordStatus}
    (distinct : s.attendances.Nodup)
    (done : Performed s (now, .updateStatus meetingId recordId actorUserId attendanceStatus) s')
    {record : AttendanceRecord} (row : (recordId, record) ∈ s.records.rows)
    (checked_in : record.checkInTime.isSome) :
    ∃ summary items, getAttendanceList s' users meetingId = .ok (summary, items) ∧
      items.map AttendanceItem.participantId = (listedParticipants s' users meetingId).map Prod.fst ∧
      ∀ item ∈ items, item.userId = record.userId →
        some item.attendanceStatus =
          if record.leftEarly then some .leftEarly else attendanceStatus.shown := by
  have after_distinct := changes_distinct (performed_changes done) distinct
  obtain ⟨meeting, record', gated, row', ofMeeting, allowed, rfl⟩ := updateStatus_ok (performed_ok.mp done)
  obtain rfl := key_unique _ row row'
  obtain ⟨found, opened⟩ := gate_ok gated
  let write (r : AttendanceRecord) : AttendanceRecord := { r with attendanceStatus := attendanceStatus }
  obtain ⟨stamp, saves⟩ := saved_with_stamp now write record
  have now_there : (recordId, (write record).stamped stamp) ∈
      (s.saveRecord now recordId write).records.rows :=
    (mem_update row).mpr (Or.inr (saves ▸ rfl))
  obtain ⟨summary, list⟩ := listed_of_open (s := s.saveRecord now recordId write) users found opened
  refine ⟨summary, _, list, ?_, ?_⟩
  · rw [List.map_map]
    exact List.map_congr_left fun _ _ => rfl
  · intro item there ofUser
    obtain ⟨p, listed, rfl⟩ := List.mem_map.mp there
    obtain ⟨shown, named⟩ : ∃ shown, attendanceStatus.shown = some shown := by
      cases attendanceStatus with
      | invalidated => exact absurd rfl allowed
      | _ => exact ⟨_, rfl⟩
    have status : (attendanceItem _ record.meetingId meeting p).attendanceStatus = _ :=
      item_status after_distinct now_there checked_in named ofUser
    subst ofMeeting
    rw [named, ← apply_ite some]
    exact congrArg some status

variable {moves : List (Move AttendanceStore (Int × AttendanceOp))}

/-- Directly after a status has been set the list shows an early leave where the flag of one is set,
    and that status otherwise, whatever has been done to the records before. -/
theorem shown_after_update_status (users : Nat → Option ListedUser) (run : Run Performed s moves t)
    (distinct : s.attendances.Nodup) :
    ∀ m ∈ moves, ∀ now meetingId recordId actorUserId attendanceStatus,
      m.label = (now, .updateStatus meetingId recordId actorUserId attendanceStatus) →
      ∀ record, (recordId, record) ∈ m.before.records.rows → record.checkInTime.isSome →
      ∃ summary items, getAttendanceList m.after users meetingId = .ok (summary, items) ∧
        items.map AttendanceItem.participantId =
          (listedParticipants m.after users meetingId).map Prod.fst ∧
        ∀ item ∈ items, item.userId = record.userId →
          some item.attendanceStatus =
            if record.leftEarly then some .leftEarly else attendanceStatus.shown := by
  have free : Heeds (fun _ _ => True) moves := fun _ _ => trivial
  have all := moves_invariant (fun a => a.attendances.Nodup) run distinct free
    fun inv done _ => changes_distinct (performed_changes done) inv
  intro m there now meetingId recordId actorUserId attendanceStatus label record row checked_in
  obtain ⟨inv, done⟩ := all m there
  rw [label] at done
  exact shown_after_one inv done row checked_in

def visitedHall : AttendanceStore :=
  (emptyHall.onVerify (report .entering 0) 100).onVerify (report .leaving 1800000) 1800100

def markedPresent : Int × AttendanceOp := (3600000, .updateStatus 0 0 1 .present)

def markedHall : AttendanceStore :=
  visitedHall.saveRecord 3600000 0 fun record => { record with attendanceStatus := .present }

def staff (userId : Nat) : Option ListedUser :=
  if userId = 2 then some ⟨"User 2", none, some "Sales", none, none⟩ else none

theorem marked_run : ∃ earlier,
    Run Performed emptyHall (earlier ++ [⟨visitedHall, markedPresent, markedHall⟩]) markedHall := by
  have comes : Performed emptyHall (100, .onVerify (report .entering 0))
    (emptyHall.onVerify (report .entering 0) 100) := rfl
  have goes : Performed (emptyHall.onVerify (report .entering 0) 100)
    (1800100, .onVerify (report .leaving 1800000)) visitedHall := rfl
  have marks : Performed visitedHall markedPresent markedHall := rfl
  exact ⟨_, ((Run.nil.snoc comes).snoc goes).snoc marks⟩

theorem shown_after_marked : ∃ summary items,
    getAttendanceList markedHall staff 0 = .ok (summary, items) ∧
      items.map AttendanceItem.participantId = [0] ∧
        ∀ item ∈ items, item.userId = 2 → some item.attendanceStatus = some .leftEarly := by
  obtain ⟨earlier, run⟩ := marked_run
  obtain ⟨record, row, user, entered, flag⟩ : ∃ record, (0, record) ∈ visitedHall.records.rows ∧
      record.userId = 2 ∧ record.checkInTime.isSome ∧ record.leftEarly = true := by
    refine ⟨_, List.mem_singleton.mpr rfl, ?_⟩
    decide +kernel
  have distinct : emptyHall.attendances.Nodup := List.nodup_nil
  have shown := shown_after_update_status staff run distinct _
    (List.mem_append.mpr (Or.inr (List.mem_singleton.mpr rfl))) 3600000 0 0 1 .present rfl record row entered
  rw [flag, user] at shown
  exact shown

theorem decision_not_shown : ¬ ∀ s moves t, Run Performed s moves t → s.attendances.Nodup →
    ∀ m ∈ moves, ∀ now meetingId recordId actorUserId attendanceStatus,
      m.label = (now, .updateStatus meetingId recordId actorUserId attendanceStatus) →
      ∀ record, (recordId, record) ∈ m.before.records.rows → record.checkInTime.isSome →
      ∀ users summary items, getAttendanceList m.after users meetingId = .ok (summary, items) →
        ∀ item ∈ items, item.userId = record.userId →
          some item.attendanceStatus = attendanceStatus.shown := by
  intro claimed
  obtain ⟨earlier, run⟩ := marked_run
  obtain ⟨record, row, user, entered⟩ : ∃ record, (0, record) ∈ visitedHall.records.rows ∧
      record.userId = 2 ∧ record.checkInTime.isSome := by
    refine ⟨_, List.mem_singleton.mpr rfl, ?_⟩
    decide +kernel
  obtain ⟨summary, items, list, item, there, ofUser, early⟩ : ∃ summary items,
      getAttendanceList markedHall staff 0 = .ok (summary, items) ∧
        ∃ item ∈ items, item.userId = 2 ∧ item.attendanceStatus = .leftEarly := by
    refine ⟨_, _, rfl, ?_⟩
    decide +kernel
  have shown := claimed _ _ _ run List.nodup_nil _
    (List.mem_append.mpr (Or.inr (List.mem_singleton.mpr rfl))) 3600000 0 0 1 .present rfl record row entered
    staff summary items list item there (ofUser.trans user.symm)
  rw [early] at shown
  exact absurd shown (by decide)

end Shown
end Attendance
