import MeetingPlatform.Lib.CallPool
import MeetingPlatform.Transcripts.Store
import Mathlib.Data.List.Infix

/- The status of one transcript, under calls that run at the same time. The users' calls read the
   status and write later; the worker writes without a look, and may do it once more on a retry. -/
namespace Transcripts
open LabelledRuns CallPools Guards

def maxAttempts : Nat := 3

section Worker

def nonRetryableTexts : List String :=
  ["not found", "NOT_FOUND", "UNSUPPORTED", "AUDIO_TOO_LONG_FOR_LOCAL_PROFILE",
    "PIPELINE_RESULT_INVALID_SCHEMA", "CUDA_NOT_AVAILABLE_FOR_PROFILE",
    "TRANSCRIPTION_PROVIDER_NOT_SUPPORTED", "NOT_PRELOADED", "AI_WORKER_NOT_BUILT",
    "MINIO_NOT_CONFIGURED", "SOURCE_AUDIO_INVALID_PATH", "Invalid endPoint"]

def isNonRetryableError (message : String) : Bool :=
  nonRetryableTexts.any fun part => decide (part.toList <:+: message.toList)

/-- One attempt at a job: the error of the step before the transcription, its result or error, and
    the error of a step after the result has been stored. -/
structure Attempt where
  attemptsMade : Nat
  beforehand : Option String
  result : Except String TranscriptionResult
  afterwards : Option String

def Attempt.givesUp (a : Attempt) (message : String) : Bool :=
  isNonRetryableError message || decide (maxAttempts ≤ a.attemptsMade + 1)

end Worker

section Calls

inductive TranscriptRequest where
  | updateTranscriptStatus (caller : Caller) (requested : TranscriptStatusTransition)
  | hideTranscript (caller : Caller)
  | process (attempt : Attempt)
  | enqueueFailed

/-- How far a call has got; a user's call goes on with the transcript that it has read. -/
inductive TranscriptCall where
  | checking (caller : Caller) (requested : TranscriptStatusTransition)
  | setting (caller : Caller) (requested : TranscriptStatusTransition) (transcript : Transcript)
  | checkingHide (caller : Caller)
  | settingHidden (caller : Caller) (transcript : Transcript)
  | working (attempt : Attempt)
  | storing (attempt : Attempt) (result : TranscriptionResult)
  | failing (attempt : Attempt) (message : String)
  | enqueueFailing

def Transcript.access (t : Transcript) (now : Nat) : TranscriptCall → Transcript × Option TranscriptCall
  | .checking caller requested =>
    match checkStatusUpdate (some t) caller requested with
    | .ok () => (t, some (.setting caller requested t))
    | .error _ => (t, none)
  | .setting caller requested _ => (setStatus t caller requested now, none)
  | .checkingHide caller =>
    match checkHide (some t) caller with
    | .ok () => (t, some (.settingHidden caller t))
    | .error _ => (t, none)
  | .settingHidden _ _ => (setHidden t, none)
  | .working attempt =>
    match attempt.beforehand, attempt.result with
    | some message, _ => (t, some (.failing attempt message))
    | none, .error message => (t, some (.failing attempt message))
    | none, .ok result => (t, some (.storing attempt result))
  | .storing attempt result =>
    (updateTranscriptResult t result, attempt.afterwards.map (.failing attempt))
  | .failing attempt message => (if attempt.givesUp message then failTranscript t else t, none)
  | .enqueueFailing => (failTranscript t, none)

def transcriptService : Service Transcript TranscriptCall TranscriptRequest where
  clock _ := 0
  admits _
    | .process attempt => attempt.attemptsMade < maxAttempts
    | _ => True
  enter _
    | .updateTranscriptStatus caller requested => .checking caller requested
    | .hideTranscript caller => .checkingHide caller
    | .process attempt => .working attempt
    | .enqueueFailed => .enqueueFailing
  act now c t := t.access now c

instance (t : Transcript) (r : TranscriptRequest) : Decidable (transcriptService.admits t r) :=
  match r with
  | .process attempt => inferInstanceAs (Decidable (attempt.attemptsMade < maxAttempts))
  | .updateTranscriptStatus _ _ => inferInstanceAs (Decidable True)
  | .hideTranscript _ => inferInstanceAs (Decidable True)
  | .enqueueFailed => inferInstanceAs (Decidable True)

end Calls

section Forward

def forwardChanges : List (TranscriptStatus × TranscriptStatus) :=
  [(.processing, .draft), (.processing, .failed), (.failed, .draft), (.draft, .reviewed),
    (.draft, .approved), (.reviewed, .approved), (.draft, .hidden), (.failed, .hidden)]

/-- A change is a forward one, and there is none once the transcript is approved or hidden. -/
def StatusForward (before after : TranscriptStatus) : Prop :=
  (before = after ∨ (before, after) ∈ forwardChanges) ∧
    (before = .approved ∨ before = .hidden → after = before)

instance (before after : TranscriptStatus) : Decidable (StatusForward before after) :=
  inferInstanceAs (Decidable ((_ ∨ _) ∧ (_ → _)))

theorem forward_refl (status : TranscriptStatus) : StatusForward status status :=
  ⟨Or.inl rfl, fun _ => rfl⟩

/-- No other call has changed the status since a user's call has read it, and the worker, which reads
    nothing, comes before the users. -/
def Unraced (t : Transcript) (_ : Nat) : TranscriptCall → Prop
  | .setting _ _ transcript | .settingHidden _ transcript => t.status = transcript.status
  | .storing _ _ => t.status ∈ [TranscriptStatus.processing, .failed, .draft]
  | .failing attempt message =>
    attempt.givesUp message = true → t.status ∈ [TranscriptStatus.processing, .failed]
  | .enqueueFailing => t.status ∈ [TranscriptStatus.processing, .failed]
  | .checking _ _ | .checkingHide _ | .working _ => True

instance decidableUnraced (t : Transcript) (now : Nat) (c : TranscriptCall) :
    Decidable (Unraced t now c) :=
  match c with
  | .setting _ _ _ => inferInstanceAs (Decidable (_ = _))
  | .settingHidden _ _ => inferInstanceAs (Decidable (_ = _))
  | .storing _ _ => inferInstanceAs (Decidable (_ ∈ _))
  | .failing _ _ => inferInstanceAs (Decidable (_ → _))
  | .enqueueFailing => inferInstanceAs (Decidable (_ ∈ _))
  | .checking _ _ => inferInstanceAs (Decidable True)
  | .checkingHide _ => inferInstanceAs (Decidable True)
  | .working _ => inferInstanceAs (Decidable True)

def Checked : TranscriptCall → Prop
  | .setting caller requested transcript => checkStatusUpdate (some transcript) caller requested = .ok ()
  | .settingHidden caller transcript => checkHide (some transcript) caller = .ok ()
  | _ => True

theorem forward_of_checked {transcript : Transcript} {caller : Caller}
    {requested : TranscriptStatusTransition}
    (checked : checkStatusUpdate (some transcript) caller requested = .ok ()) :
    StatusForward transcript.status requested.target := by
  simp only [checkStatusUpdate, bind_eq_ok, expect_eq_ok, require_eq_ok] at checked
  obtain ⟨_, same, _, -, allowed⟩ := checked
  cases same
  generalize transcript.status = status at allowed ⊢
  cases status <;> cases requested <;> revert allowed <;> decide

theorem forward_of_hideable {transcript : Transcript} {caller : Caller}
    (checked : checkHide (some transcript) caller = .ok ()) :
    StatusForward transcript.status .hidden := by
  simp only [checkHide, bind_eq_ok, expect_eq_ok, require_eq_ok] at checked
  obtain ⟨_, same, _, -, hideable⟩ := checked
  cases same
  generalize transcript.status = status at hideable ⊢
  cases status <;> revert hideable <;> decide

theorem forward_to_draft {status : TranscriptStatus}
    (early : status ∈ [TranscriptStatus.processing, .failed, .draft]) :
    StatusForward status .draft := by
  cases status <;> revert early <;> decide

theorem forward_to_failed {status : TranscriptStatus}
    (early : status ∈ [TranscriptStatus.processing, .failed]) : StatusForward status .failed := by
  cases status <;> revert early <;> decide

theorem access_forward {t : Transcript} {now : Nat} {c : TranscriptCall} (checked : Checked c)
    (unraced : Unraced t now c) : StatusForward t.status (t.access now c).1.status := by
  have unchanged : ∀ {u : Transcript}, u = t → StatusForward t.status u.status := by
    rintro u rfl
    exact forward_refl _
  cases c with
  | checking caller requested =>
    refine unchanged ?_
    rw [Transcript.access]
    split <;> rfl
  | setting caller requested transcript =>
    rw [Transcript.access, setStatus_status, show t.status = transcript.status from unraced]
    exact forward_of_checked checked
  | checkingHide caller =>
    refine unchanged ?_
    rw [Transcript.access]
    split <;> rfl
  | settingHidden caller transcript =>
    rw [Transcript.access, show t.status = transcript.status from unraced]
    exact forward_of_hideable checked
  | working attempt =>
    refine unchanged ?_
    rw [Transcript.access]
    split <;> rfl
  | storing attempt result => exact forward_to_draft unraced
  | failing attempt message =>
    rw [Transcript.access]
    split
    · rename_i gives_up
      exact forward_to_failed (unraced gives_up)
    · exact forward_refl _
  | enqueueFailing => exact forward_to_failed unraced

theorem access_checked {t : Transcript} {now : Nat} {c c' : TranscriptCall}
    (goes : (t.access now c).2 = some c') : Checked c' := by
  unfold Transcript.access at goes
  cases c with
  | checking caller requested =>
    dsimp only at goes
    split at goes
    · rename_i passed
      cases goes
      exact passed
    · cases goes
  | checkingHide caller =>
    dsimp only at goes
    split at goes
    · rename_i passed
      cases goes
      exact passed
    · cases goes
  | setting caller requested transcript => cases goes
  | settingHidden caller transcript => cases goes
  | working attempt =>
    dsimp only at goes
    split at goes <;> cases goes <;> trivial
  | storing attempt result =>
    obtain ⟨message, -, rfl⟩ := Option.map_eq_some_iff.mp goes
    trivial
  | failing attempt message => cases goes
  | enqueueFailing => cases goes

theorem calls_checked : Keeps transcriptService (fun _ => True) (fun _ c => Checked c)
    (fun _ _ => True) (fun _ _ _ => True) where
  symm _ _ _ := trivial
  enters _ r _ _ := by
    cases r <;> trivial
  alone _ _ _ _ _ _ := trivial
  inv _ _ _ _ _ _ _ := trivial
  next _ _ _ _ _ _ _ _ goes := access_checked goes
  others _ _ _ _ _ _ other _ _ _ := other
  still_apart _ _ _ _ _ _ _ _ _ _ _ _ := trivial

variable {t : Transcript} {p : Pool Transcript TranscriptCall}
  {moves : List (Move (Pool Transcript TranscriptCall) (Turn TranscriptRequest))}

theorem status_forward (run : Run (Step transcriptService) (Pool.idle t) moves p)
    (unraced : Heeds (Allows Unraced) moves) :
    ∀ m ∈ moves, StatusForward m.before.shared.status m.after.shared.status := by
  intro m there
  obtain ⟨checked, step⟩ := sound_moves calls_checked trivial run m there
  have allowed := unraced m there
  generalize m.after = b at step ⊢
  generalize m.label = turn at step allowed
  cases step with
  | enter free admitted => exact forward_refl _
  | act waiting order => exact access_forward (checked.fits _ _ waiting) (allowed _ waiting)

end Forward

section Runs

def host : Caller := ⟨1, true, false⟩

def shortResult : TranscriptionResult := ⟨[plainSegment "seg-0001" 0 1000 "a" "Speaker_1"], []⟩

def reviewedAndApproved : List (Turn TranscriptRequest) :=
  [.enter 0 (.process ⟨0, none, .ok shortResult, none⟩), .act 0 0, .act 0 0,
    .enter 0 (.updateTranscriptStatus host .reviewed), .act 0 1, .act 0 1,
    .enter 0 (.updateTranscriptStatus host .approved), .act 0 2, .act 0 2]

theorem status_forward_approved : ∃ moves p,
    Run (Step transcriptService) (Pool.idle (newTranscript 1 1 1)) moves p ∧
      p.shared.status = .approved ∧
      ∀ m ∈ moves, StatusForward m.before.shared.status m.after.shared.status := by
  have follows : Follows transcriptService Unraced (Pool.idle (newTranscript 1 1 1))
      reviewedAndApproved := by decide
  obtain ⟨moves, run, heeds⟩ := follows_run follows
  exact ⟨moves, _, run, rfl, status_forward run heeds⟩

/-- The host approves and hides a draft at the same time; both calls have read `draft`. -/
def approvedThenHidden : List (Turn TranscriptRequest) :=
  [.enter 0 (.process ⟨0, none, .ok shortResult, none⟩), .act 0 0, .act 0 0,
    .enter 0 (.updateTranscriptStatus host .approved), .enter 1 (.hideTranscript host),
    .act 0 1, .act 1 1, .act 0 2]

theorem status_hidden_after_approved :
    ¬ ∀ (t : Transcript) (p : Pool Transcript TranscriptCall)
      (moves : List (Move (Pool Transcript TranscriptCall) (Turn TranscriptRequest))),
      Run (Step transcriptService) (Pool.idle t) moves p →
        ∀ m ∈ moves, StatusForward m.before.shared.status m.after.shared.status := by
  intro claimed
  have follows : Follows transcriptService (fun _ _ _ => True) (Pool.idle (newTranscript 1 1 1))
      approvedThenHidden := by decide
  obtain ⟨moves, run, -⟩ := follows_run follows
  have ready : Ready transcriptService
      (approvedThenHidden.foldl (Pool.after transcriptService) (Pool.idle (newTranscript 1 1 1)))
      (.act 1 2) := by decide
  have forward := claimed _ _ _ (run.snoc (step_after ready)) _
    (List.mem_append.mpr (Or.inr (List.mem_singleton.mpr rfl)))
  exact absurd forward (by decide)

end Runs

end Transcripts
