import MeetingPlatform.Lib.Runs
import MeetingPlatform.Lib.Table
import MeetingPlatform.Transcripts.Store

/- The version numbers of the transcripts of a recording session. A job takes the next number from a
   transcript that it looks up by its status, so it sees none once the earlier jobs have ended. -/
namespace Transcripts
open KeyedTable LabelledRuns MeetingBooking Guards

section Operations

abbrev TranscriptTable := Table Transcript

def jobAlreadyRunning : ApiError :=
  ⟨.conflict, "TRANSCRIPTION_JOB_ALREADY_RUNNING",
    "Da co job dang xu ly cho recording session nay.", []⟩

/-- The rows that the lookup for a running job may return. -/
def isRunning (recordingSessionId : Nat) (r : Nat × Transcript) : Bool :=
  r.2.recordingSessionId = some recordingSessionId ∧ r.2.status = .processing

structure TranscriptionJobDto where
  meetingId : Nat
  recordingSessionId : Nat
  forceRerun : Bool
  deriving DecidableEq, Repr

def nextVersion (existing : Option (Nat × Transcript)) : Nat :=
  match existing with
  | some r => r.2.versionNo + 1
  | none => 1

/-- A job with the row `existing` that its lookup has returned; the new row fails at once where the
    job cannot be put into the queue. -/
def createTranscriptionJob (ts : TranscriptTable) (dto : TranscriptionJobDto)
    (existing : Option (Nat × Transcript)) (enqueued : Bool) : Except ApiError TranscriptTable := do
  require (existing = none ∨ dto.forceRerun = true) jobAlreadyRunning
  let created := ts.insert (newTranscript dto.meetingId dto.recordingSessionId (nextVersion existing))
  return if enqueued then created else created.update ts.next failTranscript

inductive TranscriptEvent where
  | createJob (dto : TranscriptionJobDto) (existing : Option (Nat × Transcript)) (enqueued : Bool)
  | result (id : Nat) (result : TranscriptionResult)
  | fail (id : Nat)
  | setStatus (id : Nat) (caller : Caller) (requested : TranscriptStatusTransition) (now : Nat)
  | hide (id : Nat) (caller : Caller)

/-- The lookup has no order: it returns any of the rows that match, and nothing only where none does. -/
def Returns (ts : TranscriptTable) (recordingSessionId : Nat) : Option (Nat × Transcript) → Prop
  | some r => r ∈ ts.select (isRunning recordingSessionId)
  | none => ts.select (isRunning recordingSessionId) = []

instance (ts : TranscriptTable) (recordingSessionId : Nat) (existing : Option (Nat × Transcript)) :
    Decidable (Returns ts recordingSessionId existing) :=
  match existing with
  | some _ => inferInstanceAs (Decidable (_ ∈ _))
  | none => inferInstanceAs (Decidable (_ = _))

def Possible (ts : TranscriptTable) : TranscriptEvent → Prop
  | .createJob dto existing _ => Returns ts dto.recordingSessionId existing
  | _ => True

instance (ts : TranscriptTable) (e : TranscriptEvent) : Decidable (Possible ts e) :=
  match e with
  | .createJob _ _ _ => inferInstanceAs (Decidable (Returns _ _ _))
  | .result _ _ => inferInstanceAs (Decidable True)
  | .fail _ => inferInstanceAs (Decidable True)
  | .setStatus _ _ _ _ => inferInstanceAs (Decidable True)
  | .hide _ _ => inferInstanceAs (Decidable True)

def nextTable (ts : TranscriptTable) : TranscriptEvent → TranscriptTable
  | .createJob dto existing enqueued =>
    match createTranscriptionJob ts dto existing enqueued with
    | .ok created => created
    | .error _ => ts
  | .result id result => ts.update id fun t => updateTranscriptResult t result
  | .fail id => ts.update id failTranscript
  | .setStatus id caller requested now =>
    match checkStatusUpdate (ts.get? id) caller requested with
    | .ok () => ts.update id fun t => setStatus t caller requested now
    | .error _ => ts
  | .hide id caller =>
    match checkHide (ts.get? id) caller with
    | .ok () => ts.update id setHidden
    | .error _ => ts

def VersionStep (ts : TranscriptTable) (e : TranscriptEvent) (us : TranscriptTable) : Prop :=
  Possible ts e ∧ us = nextTable ts e

end Operations

section Versions

def ofSession (recordingSessionId : Nat) (r : Nat × Transcript) : Bool :=
  r.2.recordingSessionId = some recordingSessionId

/-- The version numbers of a session's transcripts, in creation order. -/
def versions (ts : TranscriptTable) (recordingSessionId : Nat) : List Nat :=
  (ts.select (ofSession recordingSessionId)).map fun r => r.2.versionNo

def VersionsIncrease (ts : TranscriptTable) : Prop :=
  ∀ recordingSessionId, (versions ts recordingSessionId).Pairwise (· < ·)

/-- A job that is created finds the latest transcript of its session still processing, or is the
    first one of the session. -/
def FindsLatest (ts : TranscriptTable) : TranscriptEvent → Prop
  | .createJob dto existing _ => existing = none ∨ dto.forceRerun = true →
      existing = (ts.select (ofSession dto.recordingSessionId)).getLast?
  | _ => True

instance (ts : TranscriptTable) (e : TranscriptEvent) : Decidable (FindsLatest ts e) :=
  match e with
  | .createJob _ _ _ => inferInstanceAs (Decidable (_ → _ = _))
  | .result _ _ => inferInstanceAs (Decidable True)
  | .fail _ => inferInstanceAs (Decidable True)
  | .setStatus _ _ _ _ => inferInstanceAs (Decidable True)
  | .hide _ _ => inferInstanceAs (Decidable True)

variable {ts us : TranscriptTable} {e : TranscriptEvent} {recordingSessionId : Nat}

theorem versions_update {id : Nat} {f : Transcript → Transcript}
    (session : ∀ t, (f t).recordingSessionId = t.recordingSessionId)
    (version : ∀ t, (f t).versionNo = t.versionNo) :
    versions (ts.update id f) recordingSessionId = versions ts recordingSessionId := by
  simp only [versions, Table.select, Table.update, Table.updateWhere]
  generalize ts.rows = rows
  induction rows with
  | nil => rfl
  | cons r rest ih =>
    have same_session : ofSession recordingSessionId (touch (fun r => decide (r.1 = id)) f r) =
        ofSession recordingSessionId r := by
      unfold ofSession touch
      split
      · rw [session]
      · rfl
    have same_version : (touch (fun r => decide (r.1 = id)) f r).2.versionNo = r.2.versionNo := by
      unfold touch
      split
      · exact version r.2
      · rfl
    rw [List.map_cons, List.filter_cons, List.filter_cons, same_session]
    split
    · rw [List.map_cons, List.map_cons, same_version, ih]
    · exact ih

theorem versions_insert {t : Transcript} : versions (ts.insert t) recordingSessionId =
    versions ts recordingSessionId ++
      if t.recordingSessionId = some recordingSessionId then [t.versionNo] else [] := by
  rw [versions, select_insert, List.map_append]
  congr 1
  by_cases same : t.recordingSessionId = some recordingSessionId
  · simp [ofSession, same]
  · simp [ofSession, same]

theorem versions_created (recordingSessionId : Nat) {dto : TranscriptionJobDto} {existing : Option (Nat × Transcript)}
    {enqueued : Bool} (created : createTranscriptionJob ts dto existing enqueued = .ok us) :
    (existing = none ∨ dto.forceRerun = true) ∧ versions us recordingSessionId =
      versions ts recordingSessionId ++
        if recordingSessionId = dto.recordingSessionId then [nextVersion existing] else [] := by
  simp only [createTranscriptionJob, bind_eq_ok, require_eq_ok, pure_eq_ok] at created
  obtain ⟨-, accepted, rfl⟩ := created
  refine ⟨accepted, ?_⟩
  have inserted : versions (ts.insert (newTranscript dto.meetingId dto.recordingSessionId
      (nextVersion existing))) recordingSessionId = versions ts recordingSessionId ++
        if recordingSessionId = dto.recordingSessionId then [nextVersion existing] else [] := by
    rw [versions_insert]
    by_cases same : recordingSessionId = dto.recordingSessionId
    · subst same
      simp [newTranscript]
    · have other : ¬ dto.recordingSessionId = recordingSessionId := fun equal => same equal.symm
      simp [newTranscript, same, other]
  cases enqueued with
  | true => exact inserted
  | false =>
    rw [if_neg Bool.false_ne_true, versions_update (f := failTranscript) (fun _ => rfl) fun _ => rfl]
    exact inserted

theorem versions_step (step : VersionStep ts e us) :
    (∀ session, versions us session = versions ts session) ∨
      ∃ dto existing enqueued, e = .createJob dto existing enqueued ∧
        createTranscriptionJob ts dto existing enqueued = .ok us := by
  obtain ⟨-, rfl⟩ := step
  cases e with
  | createJob dto existing enqueued =>
    rw [nextTable]
    cases created : createTranscriptionJob ts dto existing enqueued with
    | ok us => exact Or.inr ⟨dto, existing, enqueued, rfl, created⟩
    | error _ => exact Or.inl fun _ => rfl
  | result id result => exact Or.inl fun _ => versions_update (fun _ => rfl) fun _ => rfl
  | fail id => exact Or.inl fun _ => versions_update (fun _ => rfl) fun _ => rfl
  | setStatus id caller requested now =>
    refine Or.inl fun session => ?_
    rw [nextTable]
    split
    · exact versions_update (fun t => setStatus_session t caller requested now)
        fun t => setStatus_versionNo t caller requested now
    · rfl
  | hide id caller =>
    refine Or.inl fun session => ?_
    rw [nextTable]
    split
    · exact versions_update (fun _ => rfl) fun _ => rfl
    · rfl

def Positive (ts : TranscriptTable) : Prop := ∀ session, ∀ v ∈ versions ts session, 0 < v

theorem nextVersion_pos (existing : Option (Nat × Transcript)) : 0 < nextVersion existing := by
  cases existing with
  | none => exact Nat.one_pos
  | some r => exact Nat.succ_pos _

theorem positive_step (positive : Positive ts) (step : VersionStep ts e us) : Positive us := by
  intro session v there
  rcases versions_step step with same | ⟨dto, existing, enqueued, -, created⟩
  · rw [same] at there
    exact positive session v there
  · rw [(versions_created _ created).2] at there
    rcases List.mem_append.mp there with old | new
    · exact positive session v old
    · split at new
      · rw [List.mem_singleton.mp new]
        exact nextVersion_pos existing
      · cases new

theorem increasing_append {versions : List Nat} {v : Nat} (increasing : versions.Pairwise (· < ·)) :
    (versions ++ [v]).Pairwise (· < ·) ↔ ∀ u ∈ versions.getLast?, u < v := by
  rw [List.pairwise_append]
  constructor
  · rintro ⟨-, -, below⟩ u last
    exact below u (List.mem_of_getLast? last) v (List.mem_singleton.mpr rfl)
  · intro above_last
    refine ⟨increasing, List.pairwise_singleton _ _, ?_⟩
    intro u there w new
    rw [List.mem_singleton.mp new]
    have nonempty : versions ≠ [] := List.ne_nil_of_mem there
    have last := above_last _ (List.getLast?_eq_some_getLast nonempty)
    rw [← List.dropLast_append_getLast nonempty] at there increasing
    rcases List.mem_append.mp there with early | late
    · have lt := (List.pairwise_append.mp increasing).2.2 u early _ (List.mem_singleton.mpr rfl)
      exact Nat.lt_trans lt last
    · rw [List.mem_singleton.mp late]
      exact last

theorem returned_of_session {session : Nat} {r : Nat × Transcript}
    (returned : Returns ts session (some r)) : r ∈ ts.select (ofSession session) := by
  obtain ⟨row, running⟩ := mem_select.mp returned
  rw [isRunning, decide_eq_true_eq] at running
  exact mem_select.mpr ⟨row, decide_eq_true running.1⟩

theorem nextVersion_above_iff {session : Nat} {existing : Option (Nat × Transcript)}
    (positive : Positive ts) (increasing : (versions ts session).Pairwise (· < ·))
    (returned : Returns ts session existing) :
    (∀ u ∈ (versions ts session).getLast?, u < nextVersion existing) ↔
      existing = (ts.select (ofSession session)).getLast? := by
  have listed : (versions ts session).getLast? =
      ((ts.select (ofSession session)).getLast?).map fun r => r.2.versionNo := List.getLast?_map
  cases last : (ts.select (ofSession session)).getLast? with
  | none =>
    rw [listed, last]
    cases existing with
    | none => exact iff_of_true (fun u there => by cases there) rfl
    | some r =>
      have row := returned_of_session returned
      rw [List.getLast?_eq_none_iff.mp last] at row
      cases row
  | some newest =>
    rw [listed, last]
    have newest_row := List.mem_of_getLast? last
    have newest_version : newest.2.versionNo ∈ versions ts session :=
      List.mem_map.mpr ⟨newest, newest_row, rfl⟩
    cases existing with
    | none =>
      have pos := positive session _ newest_version
      refine iff_of_false ?_ fun contrary => by cases contrary
      intro above
      have low : newest.2.versionNo < 1 := above _ rfl
      omega
    | some r =>
      have row := returned_of_session returned
      rw [Option.some.injEq]
      constructor
      · intro above
        have close : newest.2.versionNo < r.2.versionNo + 1 := above _ rfl
        by_contra other
        -- an earlier row than the last one has a smaller version
        obtain ⟨front, split⟩ := List.getLast?_eq_some_iff.mp last
        rw [split] at row
        rw [versions, split, List.map_append, List.pairwise_append] at increasing
        rcases List.mem_append.mp row with early | late
        · have lt := increasing.2.2 _ (List.mem_map.mpr ⟨r, early, rfl⟩) newest.2.versionNo
            (List.mem_singleton.mpr rfl)
          omega
        · exact other (List.mem_singleton.mp late)
      · rintro rfl u there
        cases there
        exact Nat.lt_succ_self _

theorem versions_increase_step_iff (positive : Positive ts) (increase : VersionsIncrease ts)
    (step : VersionStep ts e us) : VersionsIncrease us ↔ FindsLatest ts e := by
  have possible := step.1
  have changes := versions_step step
  constructor
  · intro later
    cases e with
    | createJob dto existing enqueued =>
      intro accepted
      rcases changes with same | ⟨_, _, _, same_event, created⟩
      · have created : createTranscriptionJob ts dto existing enqueued = .ok us := by
          obtain ⟨-, rfl⟩ := step
          rw [nextTable, createTranscriptionJob, require, if_pos accepted]
          rfl
        have grown := (versions_created dto.recordingSessionId created).2
        rw [same, if_pos rfl] at grown
        exact absurd grown.symm (by simp)
      · cases same_event
        have here := later dto.recordingSessionId
        rw [(versions_created _ created).2, if_pos rfl, increasing_append (increase _)] at here
        exact (nextVersion_above_iff positive (increase _) possible).mp here
    | result id result => trivial
    | fail id => trivial
    | setStatus id caller requested now => trivial
    | hide id caller => trivial
  · intro finds session
    rcases changes with same | ⟨dto, existing, enqueued, rfl, created⟩
    · rw [same]
      exact increase session
    · obtain ⟨accepted, grown⟩ := versions_created session created
      rw [grown]
      by_cases here : session = dto.recordingSessionId
      · subst here
        rw [if_pos rfl, increasing_append (increase _)]
        exact (nextVersion_above_iff positive (increase _) possible).mpr (finds accepted)
      · rw [if_neg here, List.append_nil]
        exact increase session

variable {moves : List (Move TranscriptTable TranscriptEvent)}

theorem versions_increase_iff (run : Run VersionStep Table.empty moves us) :
    (∀ ts ∈ visited Table.empty moves, VersionsIncrease ts) ↔ Heeds FindsLatest moves := by
  refine states_safe_iff Positive VersionsIncrease run ?_ ?_ ?_ ?_
  · intro session v there
    cases there
  · intro session
    exact List.Pairwise.nil
  · intro a l b positive step
    exact positive_step positive step
  · intro a l b positive increase step
    exact versions_increase_step_iff positive increase step

end Versions

section Runs

def rerunWhileRunning : List TranscriptEvent :=
  [.createJob ⟨1, 7, false⟩ none true, .createJob ⟨1, 7, true⟩ (some (0, newTranscript 1 7 1)) true]

theorem versions_increase_running :
    (∀ ts ∈ visited Table.empty (trail nextTable Table.empty rerunWhileRunning), VersionsIncrease ts) ∧
      versions (rerunWhileRunning.foldl nextTable Table.empty) 7 = [1, 2] := by
  have run : Run VersionStep Table.empty (trail nextTable Table.empty rerunWhileRunning)
      (rerunWhileRunning.foldl nextTable Table.empty) := run_trail (by decide)
  exact ⟨(versions_increase_iff run).mpr (by decide), by decide⟩

def rerunOfDraft : List TranscriptEvent :=
  [.createJob ⟨1, 7, false⟩ none true, .result 0 ⟨[], []⟩, .createJob ⟨1, 7, true⟩ none true]

theorem version_given_twice :
    ¬ ∀ (moves : List (Move TranscriptTable TranscriptEvent)) (us : TranscriptTable),
      Run VersionStep Table.empty moves us → ∀ ts ∈ visited Table.empty moves, VersionsIncrease ts := by
  intro claimed
  have run : Run VersionStep Table.empty (trail nextTable Table.empty rerunOfDraft)
      (rerunOfDraft.foldl nextTable Table.empty) := run_trail (by decide)
  have increase := claimed _ _ run _ (end_visited run) 7
  exact absurd increase (by decide)

end Runs

end Transcripts
