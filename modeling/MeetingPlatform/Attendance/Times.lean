import MeetingPlatform.Attendance.Steps

/- The times of attendance. The devices report entries and exits in any order, and the host corrects
   both times by hand, where an inverted interval is refused. -/
namespace Attendance
open KeyedTable Guards LabelledRuns
open MeetingBooking (Meeting MeetingStatus)

section Consistency

def TimesOrdered (record : AttendanceRecord) : Prop :=
  ∀ checkIn ∈ record.checkInTime, ∀ checkOut ∈ record.checkOutTime, checkIn ≤ checkOut

def EarlyExact (w : Surroundings) (record : AttendanceRecord) : Prop :=
  ∀ meeting ∈ w.meetings.get? record.meetingId,
    record.leftEarly = leavesEarly record.checkOutTime (effectiveEnd meeting)

def TimesConsistent (w : Surroundings) (record : AttendanceRecord) : Prop :=
  TimesOrdered record ∧ EarlyExact w record

def DetectedForward (record later : AttendanceRecord) : Prop :=
  ∀ t ∈ record.lastDetectedAt, ∃ u ∈ later.lastDetectedAt, t ≤ u

def AttendanceStore.Consistent (s : AttendanceStore) : Prop :=
  s.records.All (TimesConsistent s.surroundings)

def Onward (s t : AttendanceStore) : Prop := GoesOn DetectedForward s.records t.records

theorem consistent_before_exit {w : Surroundings} {record : AttendanceRecord}
    (inside : record.checkOutTime = none) (stayed : record.leftEarly = false) :
    TimesConsistent w record := by
  constructor
  · intro _ _ checkOut there
    rw [inside] at there
    cases there
  · intro meeting _
    rw [stayed, inside]
    rfl

theorem detectedForward_of_eq {record later : AttendanceRecord}
    (same : later.lastDetectedAt = record.lastDetectedAt) : DetectedForward record later := by
  intro t there
  exact ⟨t, same ▸ there, le_refl t⟩

theorem detectedForward_trans {a b c : AttendanceRecord} (first : DetectedForward a b)
    (second : DetectedForward b c) : DetectedForward a c := by
  intro t there
  obtain ⟨u, between, near⟩ := first t there
  obtain ⟨v, last, far⟩ := second u between
  exact ⟨v, last, le_trans near far⟩

theorem onward_refl (s : AttendanceStore) : Onward s s :=
  goesOn_refl (fun _ => detectedForward_of_eq rfl) s.records

theorem onward_trans {a b c : AttendanceStore} (first : Onward a b) (second : Onward b c) : Onward a c :=
  goesOn_trans (R := DetectedForward) detectedForward_trans first second

end Consistency

section Order
variable (s : AttendanceStore)

/-- An entry that is noted comes after the person was last seen, and an exit that is noted after the
    check-in it belongs to. -/
def AttendanceStore.seenInOrder (input : VerifyInput) : Bool :=
  (s.surroundings.meetings.get? input.meetingId).all fun meeting =>
    match input.direction with
    | .entering => meetingClosed meeting input.verifyTime ||
        (s.findRecord input.meetingId input.userId).all fun found =>
          found.2.lastDetectedAt.all (· ≤ input.verifyTime)
    | .leaving => (s.checkOutRecord input meeting).all fun found =>
        found.2.checkInTime.all (· ≤ input.verifyTime)

/-- The time of check-out that the host leaves lies on the same side of the scheduled end and of the
    effective one. -/
def AttendanceStore.endsAgree (meetingId recordId : Nat) (dto : UpdateAttendanceProfileDto) : Bool :=
  (s.surroundings.meetings.get? meetingId).all fun meeting =>
    (s.records.get? recordId).all fun record =>
      let newCheckOut := dto.checkOutTime.or record.checkOutTime
      leavesEarly newCheckOut meeting.endTime = leavesEarly newCheckOut (effectiveEnd meeting)

def InOrder (call : Int × AttendanceOp) : Prop :=
  match call.2 with
  | .onVerify input => s.seenInOrder input = true
  | .updateProfile meetingId recordId _ dto => s.endsAgree meetingId recordId dto = true
  | _ => True

instance (call : Int × AttendanceOp) : Decidable (InOrder s call) := by
  obtain ⟨now, op⟩ := call
  unfold InOrder
  cases op <;> infer_instance

end Order

section Steps
variable {s s' : AttendanceStore} {now : Int}

theorem unwritten_good (consistent : s.Consistent) (surroundings : s'.surroundings = s.surroundings)
    (records : s'.records = s.records) : s'.Consistent ∧ Onward s s' := by
  constructor
  · rw [AttendanceStore.Consistent, surroundings, records]
    exact consistent
  · rw [Onward, records]
    exact onward_refl s

theorem added_good {record : AttendanceRecord} (consistent : s.Consistent)
    (records : s'.records = s.records.insert record) (surroundings : s'.surroundings = s.surroundings) :
    s'.Consistent ∧ Onward s s' ↔ TimesConsistent s.surroundings record := by
  rw [AttendanceStore.Consistent, Onward, surroundings, records, all_insert consistent]
  exact and_iff_left (goesOn_insert fun _ => detectedForward_of_eq rfl)

theorem written_good {recordId : Nat} {record : AttendanceRecord}
    {write : AttendanceRecord → AttendanceRecord} (consistent : s.Consistent)
    (row : (recordId, record) ∈ s.records.rows)
    (records : s'.records = s.records.update recordId write)
    (surroundings : s'.surroundings = s.surroundings) :
    s'.Consistent ∧ Onward s s' ↔
      TimesConsistent s.surroundings (write record) ∧ DetectedForward record (write record) := by
  rw [AttendanceStore.Consistent, Onward, surroundings, records, all_update consistent row,
    goesOn_update (fun _ => detectedForward_of_eq rfl) row]

theorem saved_good {recordId : Nat} {record : AttendanceRecord}
    {write : AttendanceRecord → AttendanceRecord} (consistent : s.Consistent)
    (row : (recordId, record) ∈ s.records.rows) :
    (s.saveRecord now recordId write).Consistent ∧ Onward s (s.saveRecord now recordId write) ↔
      TimesConsistent s.surroundings (write record) ∧ DetectedForward record (write record) := by
  have updated : (s.saveRecord now recordId write).records = s.records.update recordId (saved now write) :=
    rfl
  obtain ⟨stamp, saves⟩ := saved_with_stamp now write record
  rw [written_good consistent row updated rfl, saves]
  exact Iff.rfl

theorem detect_good {input : VerifyInput} {meeting : Meeting} {found : Option (Nat × AttendanceRecord)}
    (consistent : s.Consistent) (lookup : s.findRecord input.meetingId input.userId = found) :
    (s.detect input meeting now (found.map Prod.fst)).Consistent ∧
        Onward s (s.detect input meeting now (found.map Prod.fst)) ↔
      found.all (fun r => r.2.lastDetectedAt.all (· ≤ input.verifyTime)) = true := by
  cases found with
  | none =>
    have one_more : (s.detect input meeting now none).records =
      s.records.insert (input.record s.surroundings meeting now) := rfl
    exact (added_good consistent one_more rfl).trans
      (iff_of_true (consistent_before_exit rfl rfl) rfl)
  | some r =>
    obtain ⟨recordId, record⟩ := r
    have row : (recordId, record) ∈ s.records.rows := (findRecord_some lookup).1
    have as_before := consistent _ row
    have updated : (s.detect input meeting now (some recordId)).records =
      s.records.update recordId (input.detected now) := rfl
    refine (written_good consistent row updated rfl).trans ((and_iff_right as_before).trans ?_)
    simp [DetectedForward, VerifyInput.detected, Option.all_eq_true]

theorem checkOut_good {input : VerifyInput} {meeting : Meeting} (consistent : s.Consistent)
    (known : s.surroundings.meetings.get? input.meetingId = some meeting) :
    (s.checkOut input meeting now).Consistent ∧ Onward s (s.checkOut input meeting now) ↔
      (s.checkOutRecord input meeting).all
        (fun found => found.2.checkInTime.all (· ≤ input.verifyTime)) = true := by
  cases lookup : s.checkOutRecord input meeting with
  | none =>
    rw [AttendanceStore.checkOut, lookup]
    exact iff_of_true (unwritten_good consistent rfl rfl) rfl
  | some found =>
    obtain ⟨row, attends, -⟩ := checkOutRecord_some lookup
    have ofMeeting : found.2.meetingId = input.meetingId := congrArg Prod.fst attends
    have updated : (s.checkOut input meeting now).records =
        s.records.update found.1 (input.checkedOut meeting now) := by
      rw [AttendanceStore.checkOut, lookup]
      rfl
    have elsewhere : (s.checkOut input meeting now).surroundings = s.surroundings := by
      rw [AttendanceStore.checkOut, lookup]
      rfl
    refine (written_good consistent row updated elsewhere).trans ?_
    have as_before : DetectedForward found.2 (input.checkedOut meeting now found.2) :=
      detectedForward_of_eq rfl
    rw [and_iff_left as_before, TimesConsistent, TimesOrdered, EarlyExact]
    simp [VerifyInput.checkedOut, ofMeeting, known, leavesEarly, Option.all_eq_true]

theorem onVerify_good (consistent : s.Consistent) (input : VerifyInput) :
    (s.onVerify input now).Consistent ∧ Onward s (s.onVerify input now) ↔
      s.seenInOrder input = true := by
  unfold AttendanceStore.onVerify AttendanceStore.seenInOrder
  cases known : s.surroundings.meetings.get? input.meetingId with
  | none => exact iff_of_true (unwritten_good consistent rfl rfl) rfl
  | some meeting =>
    cases input.direction with
    | leaving => exact checkOut_good consistent known
    | entering =>
      simp only [Option.all_some, Bool.or_eq_true]
      cases closed : meetingClosed meeting input.verifyTime with
      | true => exact iff_of_true (unwritten_good consistent rfl rfl) (Or.inl rfl)
      | false =>
        rw [if_neg Bool.false_ne_true, detect_good consistent rfl]
        exact (or_iff_right Bool.false_ne_true).symm

theorem updateProfile_good {meetingId recordId actorUserId : Nat} {dto : UpdateAttendanceProfileDto}
    (consistent : s.Consistent)
    (done : updateProfile s meetingId recordId actorUserId now dto = .ok s') :
    s'.Consistent ∧ Onward s s' ↔ s.endsAgree meetingId recordId dto = true := by
  obtain ⟨meeting, record, known, row, ofMeeting, ordered, rfl⟩ := updateProfile_ok done
  obtain ⟨attends, entered, left, seen, -, early⟩ :=
    written_profile dto meeting s.surroundings.lateGraceMinutes record
  rw [saved_good consistent row, and_iff_left (detectedForward_of_eq seen), TimesConsistent,
    EarlyExact]
  generalize dto.write meeting s.surroundings.lateGraceMinutes record = edited at *
  have sameMeeting : edited.meetingId = meetingId := (congrArg Prod.fst attends).trans ofMeeting
  have forward : TimesOrdered edited := by
    intro checkIn start checkOut stop
    rw [entered, Option.mem_def] at start
    rw [left, Option.mem_def] at stop
    simp only [endsBeforeStart, start, stop, Option.any_some, decide_eq_true_eq] at ordered
    omega
  have found : s.records.get? recordId = some record := get?_eq_some.mpr row
  rw [and_iff_right forward]
  simp only [sameMeeting, known, left, early, AttendanceStore.endsAgree, found, Option.all_some,
    Option.mem_def, Option.some.injEq, forall_eq', decide_eq_true_eq]

theorem performed_good {call : Int × AttendanceOp} (consistent : s.Consistent)
    (done : Performed s call s') : s'.Consistent ∧ Onward s s' ↔ InOrder s call := by
  have elsewhere := performed_surroundings done
  obtain ⟨now, op⟩ := call
  rw [performed_ok] at done
  cases op with
  | onVerify input =>
    cases done
    exact onVerify_good consistent input
  | updateProfile meetingId recordId actorUserId dto => exact updateProfile_good consistent done
  | createManual meetingId actorUserId dto =>
    simp only [AttendanceStore.perform, createManual, bind_eq_ok, pure_eq_ok] at done
    obtain ⟨record, made, rfl⟩ := done
    obtain ⟨-, meeting, participantId, rfl⟩ := newManualRecord_ok made
    have one_more : (s.insertRecord (dto.record s meetingId actorUserId now meeting participantId)).records =
      s.records.insert (dto.record s meetingId actorUserId now meeting participantId) := rfl
    exact (added_good consistent one_more rfl).trans
      (iff_of_true (consistent_before_exit rfl rfl) trivial)
  | updateStatus meetingId recordId actorUserId attendanceStatus =>
    obtain ⟨meeting, record, -, row, -, -, rfl⟩ := updateStatus_ok done
    exact (saved_good consistent row).trans
      (iff_of_true ⟨consistent _ row, detectedForward_of_eq rfl⟩ trivial)
  | invalidate meetingId recordId actorUserId reasonGiven =>
    obtain ⟨record, row, -, rfl⟩ := invalidate_ok done
    exact (saved_good consistent row).trans
      (iff_of_true ⟨consistent _ row, detectedForward_of_eq rfl⟩ trivial)

end Steps

section Runs
variable {s t : AttendanceStore} {moves : List (Move AttendanceStore (Int × AttendanceOp))}

/-- In every run the times of all records are consistent, and are detected forwards only, exactly as
    long as every event that is noted comes in order and every correction reads the two ends alike. -/
theorem attendance_times_iff (run : Run Performed s moves t) (consistent : s.Consistent) :
    (∀ a ∈ visited s moves, a.Consistent) ∧ (visited s moves).Pairwise Onward ↔ Heeds InOrder moves := by
  rw [forall_visited, and_iff_right consistent, visited_pairwise_iff onward_refl onward_trans run]
  rw [← forall₂_and]
  refine run_good_iff AttendanceStore.Consistent (fun a _ b => b.Consistent ∧ Onward a b) run
    consistent ?_ ?_
  · intro a call b inv done here
    exact ((performed_good inv done).mpr here).1
  · intro a call b inv done
    exact performed_good inv done

def corrected (dto : UpdateAttendanceProfileDto) : AttendanceOp := .updateProfile 0 0 1 dto

/-- In, seen again, out, and the check-in corrected. -/
def wholeVisit : List (Int × AttendanceOp) :=
  [(600100, .onVerify (report .entering 600000)), (900100, .onVerify (report .entering 900000)),
    (3000100, .onVerify (report .leaving 3000000)), (4000000, corrected ⟨some 500000, none, none⟩)]

theorem attendance_times_kept : ∃ moves t, Run Performed emptyHall moves t ∧ moves.length = 4 ∧
    (∀ a ∈ visited emptyHall moves, a.Consistent) ∧ (visited emptyHall moves).Pairwise Onward := by
  have run : Run Performed emptyHall _ _ := run_followed exec wholeVisit emptyHall
  have start : emptyHall.Consistent := by
    rintro r ⟨⟩
  exact ⟨_, _, run, by decide +kernel, (attendance_times_iff run start).mpr (by decide +kernel)⟩

def entered : AttendanceStore := emptyHall.onVerify (report .entering 600000) 600100

def overtaken (direction : Direction) : AttendanceStore :=
  entered.onVerify (report direction 300000) 600200

def endedHall : AttendanceStore where
  surroundings := { emptyHall.surroundings with
    meetings := Table.empty.insert { hourMeeting with
      status := .completed
      actualEndTime := some 2400000 } }
  records := entered.records

/-- A check-out after the end of the meeting, and before the end it was to have. -/
def lateCorrection : List (Int × AttendanceOp) := [(4000000, corrected ⟨none, some 3000000, none⟩)]

theorem attendance_times_fail :
    (¬ ∀ s moves t, Run Performed s moves t → s.Consistent → t.records.All TimesOrdered) ∧
    (¬ ∀ s moves t, Run Performed s moves t → s.Consistent → (visited s moves).Pairwise Onward) ∧
    ¬ ∀ s moves t, Run Performed s moves t → s.Consistent →
      t.records.All (EarlyExact t.surroundings) := by
  have start : emptyHall.Consistent := by
    rintro r ⟨⟩
  have comes : Performed emptyHall (600100, .onVerify (report .entering 600000)) entered := rfl
  have late (direction : Direction) :
    Performed entered (600200, .onVerify (report direction 300000)) (overtaken direction) := rfl
  have overtakes (direction : Direction) : Run Performed emptyHall _ (overtaken direction) :=
    (Run.nil.snoc comes).snoc (late direction)
  refine ⟨?_, ?_, ?_⟩
  · intro claimed
    have row : ∃ r ∈ (overtaken .leaving).records.rows,
        r.2.checkInTime = some 600000 ∧ r.2.checkOutTime = some 300000 := by decide +kernel
    obtain ⟨r, there, startTime, stopTime⟩ := row
    have ordered := claimed _ _ _ (overtakes .leaving) start r there 600000 startTime 300000 stopTime
    omega
  · intro claimed
    have all := claimed _ _ _ (overtakes .entering) start
    rw [visited_pairwise_iff onward_refl onward_trans (overtakes .entering)] at all
    have forward := all _ (List.mem_append.mpr (Or.inr (List.mem_singleton.mpr rfl)))
    have rows : entered.records.rows.map (fun r => r.2.lastDetectedAt) = [some 600000] ∧
        (overtaken .entering).records.rows.map (fun r => r.2.lastDetectedAt) = [some 300000] := by
      decide +kernel
    obtain ⟨r, there, seen⟩ := List.mem_map.mp (rows.1 ▸ List.mem_singleton.mpr rfl)
    obtain ⟨later, there', onward⟩ := forward r there
    obtain ⟨u, seen', le⟩ := onward 600000 seen
    have now : later.lastDetectedAt = some 300000 :=
      List.mem_singleton.mp (rows.2 ▸ List.mem_map.mpr ⟨_, there', rfl⟩)
    rw [now, Option.mem_some_iff] at seen'
    omega
  · intro claimed
    have run : Run Performed endedHall _ _ := run_followed exec lateCorrection endedHall
    have unseen : endedHall.Consistent := by
      have only : ∀ r ∈ endedHall.records.rows, r.2.checkOutTime = none ∧ r.2.leftEarly = false := by
        decide +kernel
      intro r there
      exact consistent_before_exit (only r there).1 (only r there).2
    have flags := claimed _ _ _ run unseen
    have row : ∃ r ∈ (followed exec lateCorrection endedHall).2.records.rows,
        r.2.leftEarly = true ∧ r.2.checkOutTime = some 3000000 ∧
          (endedHall.surroundings.meetings.get? r.2.meetingId).map effectiveEnd = some 2400000 := by
      decide +kernel
    obtain ⟨r, there, early, stopTime, ends⟩ := row
    obtain ⟨meeting, known, effective⟩ := Option.map_eq_some_iff.mp ends
    have flag := flags r there meeting known
    rw [early, stopTime, effective] at flag
    exact absurd flag (by decide)

end Runs
end Attendance
