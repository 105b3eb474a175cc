import MeetingPlatform.Attendance.Records
import MeetingPlatform.Lib.TableHistory
import MeetingPlatform.Lib.Runs

/- What each of the operations can do to the records, and the runs they make up. A call that throws
   leaves everything as it is. -/
namespace Attendance
open KeyedTable Guards LabelledRuns
open MeetingBooking (Meeting MeetingStatus)

inductive AttendanceOp where
  | onVerify (input : VerifyInput)
  | createManual (meetingId actorUserId : Nat) (dto : CreateManualAttendanceDto)
  | updateStatus (meetingId recordId actorUserId : Nat) (attendanceStatus : AttendanceRecordStatus)
  | updateProfile (meetingId recordId actorUserId : Nat) (dto : UpdateAttendanceProfileDto)
  | invalidate (meetingId recordId actorUserId : Nat) (reasonGiven : Bool)

def AttendanceStore.perform (s : AttendanceStore) (now : Int) :
    AttendanceOp → Except AttendanceError AttendanceStore
  | .onVerify input => .ok (s.onVerify input now)
  | .createManual meetingId actorUserId dto => createManual s meetingId actorUserId now dto
  | .updateStatus meetingId recordId actorUserId attendanceStatus =>
    updateStatus s meetingId recordId actorUserId now attendanceStatus
  | .updateProfile meetingId recordId actorUserId dto =>
    updateProfile s meetingId recordId actorUserId now dto
  | .invalidate meetingId recordId actorUserId reasonGiven =>
    invalidate s meetingId recordId actorUserId now reasonGiven

def exec (call : Int × AttendanceOp) (s : AttendanceStore) : Option AttendanceStore :=
  (s.perform call.1 call.2).toOption

/-- A call that does not throw, with the instant it is made at. -/
def Performed (s : AttendanceStore) (call : Int × AttendanceOp) (t : AttendanceStore) : Prop :=
  exec call s = some t

variable {s s' : AttendanceStore} {meetingId recordId actorUserId : Nat} {now : Int}

theorem performed_ok {op : AttendanceOp} : Performed s (now, op) s' ↔ s.perform now op = .ok s' :=
  toOption_eq_some

section Lookups

theorem findRecord_some {userId : Nat} {found : Nat × AttendanceRecord}
    (h : s.findRecord meetingId userId = some found) :
    found ∈ s.records.rows ∧ found.2.attends = (meetingId, userId) := by
  obtain ⟨there, selected⟩ := findOne_mem h
  exact ⟨there, of_decide_eq_true selected⟩

theorem findRecord_none {userId : Nat} (h : s.findRecord meetingId userId = none) :
    ∀ r ∈ s.records.rows, r.2.attends ≠ (meetingId, userId) := by
  intro r there same
  rw [AttendanceStore.findRecord, Table.findOne, List.head?_eq_none_iff, Table.select,
    List.filter_eq_nil_iff] at h
  exact h r there (decide_eq_true same)

def AttendanceStore.attendances (s : AttendanceStore) : List (Nat × Nat) :=
  s.records.rows.map fun r => r.2.attends

theorem unmet_of_findRecord {userId : Nat} (unmet : s.findRecord meetingId userId = none) :
    (meetingId, userId) ∉ s.attendances := by
  intro there
  obtain ⟨r, row, same⟩ := List.mem_map.mp there
  exact findRecord_none unmet r row same

theorem attendances_insert (t : Table AttendanceRecord) (record : AttendanceRecord) :
    (t.insert record).rows.map (fun r => r.2.attends) =
      t.rows.map (fun r => r.2.attends) ++ [record.attends] :=
  List.map_append

theorem findMeeting_some {w : Surroundings} {meeting : Meeting}
    (h : w.findMeeting meetingId = some meeting) : w.meetings.get? meetingId = some meeting :=
  (Option.filter_eq_some_iff.mp h).1

theorem loadRecord_ok {record : AttendanceRecord}
    (h : loadRecord s meetingId recordId = .ok record) :
    (recordId, record) ∈ s.records.rows ∧ record.meetingId = meetingId := by
  rw [loadRecord, expect_eq_ok, Option.filter_eq_some_iff] at h
  exact ⟨get?_eq_some.mp h.1, of_decide_eq_true h.2⟩

theorem gate_ok {meeting : Meeting} (h : gate s meetingId actorUserId = .ok meeting) :
    s.surroundings.findMeeting meetingId = some meeting ∧
      meeting.status ∈ [.scheduled, .inProgress, .completed] := by
  simp only [gate, loadMeetingAndGate, assertMeetingOpen, bind_eq_ok, pure_eq_ok, expect_eq_ok,
    require_eq_ok] at h
  obtain ⟨_, ⟨_, found, _, opened, rfl⟩, _, _, rfl⟩ := h
  exact ⟨found, opened⟩

end Lookups

section Writes

theorem saved_with_stamp (now : Int) (write : AttendanceRecord → AttendanceRecord)
    (record : AttendanceRecord) :
    ∃ stamp, saved now write record = (write record).stamped stamp := by
  unfold saved
  by_cases same : write record = record
  · refine ⟨record.updatedAt, ?_⟩
    rw [if_pos same, same]
    rfl
  · exact ⟨now, if_neg same⟩

/-- All that an operation can do to the records. Who attends which meeting is never written again, and
    a time of check-in is never taken away. -/
inductive Changes (s s' : AttendanceStore) : Prop where
  | nothing (same : s'.records = s.records)
  | added (record : AttendanceRecord) (records : s'.records = s.records.insert record)
    (unmet : s.findRecord record.meetingId record.userId = none)
    (checked_in : record.checkInTime.isSome)
  | written (recordId : Nat) (record : AttendanceRecord) (write : AttendanceRecord → AttendanceRecord)
    (row : (recordId, record) ∈ s.records.rows) (records : s'.records = s.records.update recordId write)
    (attends : (write record).attends = record.attends)
    (checked_in : record.checkInTime.isSome → (write record).checkInTime.isSome)

theorem saveRecord_changes {record : AttendanceRecord} {write : AttendanceRecord → AttendanceRecord}
    (row : (recordId, record) ∈ s.records.rows) (attends : (write record).attends = record.attends)
    (checked_in : record.checkInTime.isSome → (write record).checkInTime.isSome) :
    Changes s (s.saveRecord now recordId write) := by
  obtain ⟨stamp, saves⟩ := saved_with_stamp now write record
  refine .written recordId record _ row rfl ?_ ?_
  · rw [saves]
    exact attends
  · rw [saves]
    exact checked_in

theorem checkOutRecord_some {input : VerifyInput} {meeting : Meeting} {found : Nat × AttendanceRecord}
    (h : s.checkOutRecord input meeting = some found) :
    found ∈ s.records.rows ∧ found.2.attends = (input.meetingId, input.userId) ∧
      found.2.checkInTime.isSome ∧ ∀ checkOut ∈ found.2.checkOutTime, checkOut < input.verifyTime := by
  unfold AttendanceStore.checkOutRecord at h
  split at h
  · cases h
  · simp only [Option.bind_eq_bind, Option.pure_def, Option.bind_eq_some_iff] at h
    obtain ⟨r, lookup, h⟩ := h
    split at h
    · cases h
    · rename_i free
      cases h
      rw [not_or] at free
      refine ⟨(findRecord_some lookup).1, (findRecord_some lookup).2, ?_, ?_⟩
      · exact Option.isSome_iff_ne_none.mpr free.1
      · intro checkOut there
        rw [Option.mem_def.mp there, Option.any_some, decide_eq_true_eq] at free
        omega

theorem onVerify_changes (s : AttendanceStore) (input : VerifyInput) (now : Int) :
    Changes s (s.onVerify input now) := by
  unfold AttendanceStore.onVerify
  split
  · exact .nothing rfl
  · rename_i meeting known
    cases input.direction with
    | leaving =>
      simp only [AttendanceStore.checkOut]
      split
      · exact .nothing rfl
      · rename_i found lookup
        exact .written found.1 found.2 _ (checkOutRecord_some lookup).1 rfl rfl id
    | entering =>
      simp only
      split
      · exact .nothing rfl
      · cases lookup : s.findRecord input.meetingId input.userId with
        | none => exact .added _ rfl lookup rfl
        | some found => exact .written found.1 found.2 _ (findRecord_some lookup).1 rfl rfl id

theorem newManualRecord_ok {dto : CreateManualAttendanceDto} {record : AttendanceRecord}
    (h : newManualRecord s meetingId actorUserId now dto = .ok record) :
    s.findRecord meetingId dto.userId = none ∧
      ∃ meeting participantId, record = dto.record s meetingId actorUserId now meeting participantId := by
  simp only [newManualRecord, bind_eq_ok, pure_eq_ok, require_eq_ok] at h
  obtain ⟨meeting, _, participant, _, _, unmet, rfl⟩ := h
  exact ⟨unmet, meeting, participant.1, rfl⟩

theorem createManual_changes {dto : CreateManualAttendanceDto}
    (h : createManual s meetingId actorUserId now dto = .ok s') : Changes s s' := by
  simp only [createManual, bind_eq_ok, pure_eq_ok] at h
  obtain ⟨record, made, rfl⟩ := h
  obtain ⟨unmet, meeting, participantId, rfl⟩ := newManualRecord_ok made
  exact .added _ rfl unmet rfl

theorem updateStatus_ok {attendanceStatus : AttendanceRecordStatus}
    (h : updateStatus s meetingId recordId actorUserId now attendanceStatus = .ok s') :
    ∃ meeting record, gate s meetingId actorUserId = .ok meeting ∧
      (recordId, record) ∈ s.records.rows ∧ record.meetingId = meetingId ∧
      attendanceStatus ≠ .invalidated ∧
      s' = s.saveRecord now recordId fun record =>
        { record with attendanceStatus := attendanceStatus } := by
  simp only [updateStatus, bind_eq_ok, pure_eq_ok, require_eq_ok] at h
  obtain ⟨meeting, gated, _, allowed, record, loaded, rfl⟩ := h
  obtain ⟨row, ofMeeting⟩ := loadRecord_ok loaded
  exact ⟨meeting, record, gated, row, ofMeeting, allowed, rfl⟩

theorem updateProfile_ok {dto : UpdateAttendanceProfileDto}
    (h : updateProfile s meetingId recordId actorUserId now dto = .ok s') :
    ∃ meeting record, s.surroundings.meetings.get? meetingId = some meeting ∧
      (recordId, record) ∈ s.records.rows ∧ record.meetingId = meetingId ∧
      ¬ endsBeforeStart (dto.checkInTime.or record.checkInTime)
        (dto.checkOutTime.or record.checkOutTime) = true ∧
      s' = s.saveRecord now recordId (dto.write meeting s.surroundings.lateGraceMinutes) := by
  simp only [updateProfile, bind_eq_ok, pure_eq_ok, require_eq_ok] at h
  obtain ⟨meeting, gated, record, loaded, _, ordered, rfl⟩ := h
  obtain ⟨row, ofMeeting⟩ := loadRecord_ok loaded
  exact ⟨meeting, record, findMeeting_some (gate_ok gated).1, row, ofMeeting, ordered, rfl⟩

theorem invalidate_ok {reasonGiven : Bool}
    (h : invalidate s meetingId recordId actorUserId now reasonGiven = .ok s') :
    ∃ record, (recordId, record) ∈ s.records.rows ∧ record.meetingId = meetingId ∧
      s' = s.saveRecord now recordId fun record => { record with attendanceStatus := .invalidated } := by
  simp only [invalidate, bind_eq_ok, pure_eq_ok, require_eq_ok] at h
  obtain ⟨record, loaded, _, _, _, _, _, _, _, _, _, _, rfl⟩ := h
  obtain ⟨row, ofMeeting⟩ := loadRecord_ok loaded
  exact ⟨record, row, ofMeeting, rfl⟩

theorem written_profile (dto : UpdateAttendanceProfileDto) (meeting : Meeting) (graceMinutes : Int)
    (record : AttendanceRecord) :
    let edited := dto.write meeting graceMinutes record
    edited.attends = record.attends ∧ edited.checkInTime = dto.checkInTime.or record.checkInTime ∧
      edited.checkOutTime = dto.checkOutTime.or record.checkOutTime ∧
      edited.lastDetectedAt = record.lastDetectedAt ∧
      edited.attendanceStatus = record.attendanceStatus ∧
      edited.leftEarly = leavesEarly (dto.checkOutTime.or record.checkOutTime) meeting.endTime := by
  unfold UpdateAttendanceProfileDto.write
  cases entered : dto.checkInTime.or record.checkInTime with
  | none => exact ⟨rfl, rfl, rfl, rfl, rfl, rfl⟩
  | some checkIn => exact ⟨rfl, rfl, rfl, rfl, rfl, rfl⟩

theorem performed_changes {call : Int × AttendanceOp} (done : Performed s call s') : Changes s s' := by
  obtain ⟨now, op⟩ := call
  rw [performed_ok] at done
  cases op with
  | onVerify input =>
    cases done
    exact onVerify_changes s input now
  | createManual meetingId actorUserId dto => exact createManual_changes done
  | updateStatus meetingId recordId actorUserId attendanceStatus =>
    obtain ⟨meeting, record, -, row, -, -, rfl⟩ := updateStatus_ok done
    exact saveRecord_changes row rfl id
  | updateProfile meetingId recordId actorUserId dto =>
    obtain ⟨meeting, record, -, row, -, -, rfl⟩ := updateProfile_ok done
    obtain ⟨attends, entered, -⟩ :=
      written_profile dto meeting s.surroundings.lateGraceMinutes record
    refine saveRecord_changes row attends ?_
    intro checked_in
    rw [entered, Option.isSome_or, checked_in, Bool.or_true]
  | invalidate meetingId recordId actorUserId reasonGiven =>
    obtain ⟨record, row, -, rfl⟩ := invalidate_ok done
    exact saveRecord_changes row rfl id

theorem performed_surroundings {call : Int × AttendanceOp} (done : Performed s call s') :
    s'.surroundings = s.surroundings := by
  obtain ⟨now, op⟩ := call
  rw [performed_ok] at done
  cases op with
  | onVerify input =>
    cases done
    unfold AttendanceStore.onVerify AttendanceStore.checkOut AttendanceStore.writeCheckOut
      AttendanceStore.detect
    repeat' split
    all_goals rfl
  | createManual meetingId actorUserId dto =>
    simp only [AttendanceStore.perform, createManual, bind_eq_ok, pure_eq_ok] at done
    obtain ⟨record, _, rfl⟩ := done
    rfl
  | updateStatus meetingId recordId actorUserId attendanceStatus =>
    obtain ⟨_, _, -, -, -, -, rfl⟩ := updateStatus_ok done
    rfl
  | updateProfile meetingId recordId actorUserId dto =>
    obtain ⟨_, _, -, -, -, -, rfl⟩ := updateProfile_ok done
    rfl
  | invalidate meetingId recordId actorUserId reasonGiven =>
    obtain ⟨_, -, -, rfl⟩ := invalidate_ok done
    rfl

theorem changes_distinct (changes : Changes s s') (distinct : s.attendances.Nodup) :
    s'.attendances.Nodup := by
  cases changes with
  | nothing same =>
    rw [AttendanceStore.attendances, same]
    exact distinct
  | added record records unmet _ =>
    rw [AttendanceStore.attendances, records, attendances_insert]
    refine List.nodup_append.mpr ⟨distinct, List.nodup_singleton _, ?_⟩
    intro attends there other new same
    rw [same, List.mem_singleton.mp new] at there
    exact unmet_of_findRecord unmet there
  | written recordId record write row records attends _ =>
    rw [AttendanceStore.attendances, records, column_update AttendanceRecord.attends]
    · exact distinct
    · intro v there
      rw [key_unique _ there row]
      exact attends

end Writes

def hourMeeting : Meeting :=
  ⟨1, some 1, some 5, 0, 3600000, .inProgress, some 0, none, none, none, none, none⟩

def emptyHall : AttendanceStore where
  surroundings :=
    { meetings := Table.empty.insert hourMeeting
      participants := Table.empty.insert ⟨0, 2, .attendee, .accepted⟩
      roleCodes := fun _ => [] }
  records := .empty

def report (direction : Direction) (t : Int) : VerifyInput := ⟨7, some 5, 2, 0, t, direction⟩

end Attendance
