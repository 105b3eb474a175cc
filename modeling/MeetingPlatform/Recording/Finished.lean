import MeetingPlatform.Recording.FailedResume

/- A recording that has ended is to stay as it has ended, with its file if it was stopped. The exit
   handlers write `failed` without the lock, so that depends on when a process dies. -/
namespace Recording
open LabelledRuns

section Conditions

def LockedRequest.Stops : LockedRequest → Prop
  | .stopVideo _ | .stopListed _ => True
  | .pauseVideo | .resumeVideo _ => False

instance : (request : LockedRequest) → Decidable request.Stops
  | .stopVideo _ | .stopListed _ => inferInstanceAs (Decidable True)
  | .pauseVideo | .resumeVideo _ => inferInstanceAs (Decidable False)

def LockedCall.Stops : LockedCall → Prop
  | .stopRead _ _ | .stopStopping _ _ _ => True
  | .pauseRead _ | .pauseStopping _ _ | .resumeRead _ | .resumeProbing _ _ _ | .resumeCapturing _ _
  | .resumeStopping _ _ | .stopReturning => False

instance : (call : LockedCall) → Decidable call.Stops
  | .stopRead _ _ | .stopStopping _ _ _ => inferInstanceAs (Decidable True)
  | .pauseRead _ | .pauseStopping _ _ | .resumeRead _ | .resumeProbing _ _ _ | .resumeCapturing _ _
  | .resumeStopping _ _ | .stopReturning => inferInstanceAs (Decidable False)

def LockedCall.ToStop : LockedCall → Prop
  | .stopRead _ _ => True
  | .pauseRead _ | .pauseStopping _ _ | .resumeRead _ | .resumeProbing _ _ _ | .resumeCapturing _ _
  | .resumeStopping _ _ | .stopStopping _ _ _ | .stopReturning => False

instance : (call : LockedCall) → Decidable call.ToStop
  | .stopRead _ _ => inferInstanceAs (Decidable True)
  | .pauseRead _ | .pauseStopping _ _ | .resumeRead _ | .resumeProbing _ _ _ | .resumeCapturing _ _
  | .resumeStopping _ _ | .stopStopping _ _ _ | .stopReturning => inferInstanceAs (Decidable False)

/-- A `resumeVideo` that will throw, and so leave the row alone. -/
def LockedCall.Doomed (m : ProcessManager) : LockedCall → Prop
  | .resumeProbing _ _ _ => ∀ p ∈ m.get, p.state = .exited
  | .resumeStopping _ _ => True
  | .pauseRead _ | .pauseStopping _ _ | .resumeRead _ | .resumeCapturing _ _ | .stopRead _ _
  | .stopStopping _ _ _ | .stopReturning => False

instance (m : ProcessManager) : (call : LockedCall) → Decidable (call.Doomed m)
  | .resumeProbing _ _ _ => inferInstanceAs (Decidable (∀ p ∈ m.get, p.state = .exited))
  | .resumeStopping _ _ => inferInstanceAs (Decidable True)
  | .pauseRead _ | .pauseStopping _ _ | .resumeRead _ | .resumeCapturing _ _ | .stopRead _ _
  | .stopStopping _ _ _ | .stopReturning => inferInstanceAs (Decidable False)

/-- A failure that is recorded now will not be written over. -/
def RecordingState.Yields (s : RecordingState) : Prop :=
  ∀ call ∈ s.holder, call.Suspends → call.Doomed s.manager

instance (s : RecordingState) : Decidable s.Yields :=
  inferInstanceAs (Decidable (∀ call ∈ s.holder, call.Suspends → call.Doomed s.manager))

/-- From the moment at which `stopVideo` takes the lock until it has seen to the process, no process
    dies and `startVideo` does not give up, nor has that just happened. Elsewhere a failure is recorded
    only while nobody is about to write the row. -/
def RecordingState.DiesInOrder (s : RecordingState) (t : RecordingTurn) : Prop :=
  match t.action with
  | .begin request => (∃ session ∈ s.row, request.Accepted session) →
      s.starter ≠ .created ∧ (request.Stops → s.manager.Quiet ∧ ¬ s.starter.GivesUp)
  | .starter => (s.starter.GivesUp → s.Yields) ∧
      ((∃ call ∈ s.holder, call.Stops) → ¬ s.starter.RunsOut s.manager s.files t.now)
  | .markFailed _ => s.Yields
  | .exits pid _ _ => (∃ call ∈ s.holder, call.ToStop) → ∀ p ∈ s.manager.procs[pid]?, p.stopping = true
  | .startVideo | .holder | .stopAllActiveForMeeting | .kills _ | .data _ | .forgets _ => True

instance (s : RecordingState) : (t : RecordingTurn) → Decidable (s.DiesInOrder t)
  | ⟨_, .begin request⟩ => inferInstanceAs (Decidable ((∃ session ∈ s.row, request.Accepted session) →
      s.starter ≠ .created ∧ (request.Stops → s.manager.Quiet ∧ ¬ s.starter.GivesUp)))
  | ⟨now, .starter⟩ => inferInstanceAs (Decidable ((s.starter.GivesUp → s.Yields) ∧
      ((∃ call ∈ s.holder, call.Stops) → ¬ s.starter.RunsOut s.manager s.files now)))
  | ⟨_, .markFailed _⟩ => inferInstanceAs (Decidable s.Yields)
  | ⟨_, .exits pid _ _⟩ => inferInstanceAs (Decidable
      ((∃ call ∈ s.holder, call.ToStop) → ∀ p ∈ s.manager.procs[pid]?, p.stopping = true))
  | ⟨_, .startVideo⟩ | ⟨_, .holder⟩ | ⟨_, .stopAllActiveForMeeting⟩ | ⟨_, .kills _⟩ | ⟨_, .data _⟩
  | ⟨_, .forgets _⟩ => inferInstanceAs (Decidable True)

end Conditions

section Phases

/-- What a `stopVideo` can count on: no failure is still to be recorded, or can come up. -/
def LockedCall.Secure (s : RecordingState) : LockedCall → Prop
  | .stopRead session _ => s.row = some session ∧ s.manager.Quiet ∧ ¬ s.starter.GivesUp
  | .stopStopping session _ _ => s.row = some session ∧ Calm s.manager ∧ ¬ s.starter.GivesUp
  | .stopReturning => False
  | .pauseRead _ | .pauseStopping _ _ | .resumeRead _ | .resumeProbing _ _ _ | .resumeCapturing _ _
  | .resumeStopping _ _ => True

structure Going (s : RecordingState) : Prop where
  tracked : Tracked s.core
  active : ∀ session, s.row = some session → session.status.IsActive
  secure : ∀ call, s.holder = some call → call.Secure s
  media : s.media = []

structure Stopped (s : RecordingState) : Prop where
  row : ∃ session, s.row = some session ∧ session.status = .stopped
  calm : Calm s.manager
  empty : s.manager.current = none
  began : s.starter ≠ .absent ∧ s.starter ≠ .created
  going : ¬ s.starter.GivesUp
  holder : ∀ call, s.holder = some call → call = .stopReturning
  media : s.media.length ≤ 1

structure Failed (s : RecordingState) : Prop where
  row : ∃ session, s.row = some session ∧ session.status = .failed
  began : s.starter ≠ .absent ∧ s.starter ≠ .created
  holder : ∀ call, s.holder = some call → call.Doomed s.manager
  media : s.media = []

inductive Phase (s : RecordingState) : Prop where
  | going (here : Going s)
  | stopped (here : Stopped s)
  | failed (here : Failed s)

end Phases

section Ends
variable {s u : RecordingState} {t : RecordingTurn} {session : RecordingSession} {call : LockedCall}
  {m : ProcessManager} {now : Nat}

theorem accepted_active {request : LockedRequest} (accepted : request.Accepted session) :
    session.status.IsActive := by
  cases request with
  | pauseVideo => exact Or.inr (Or.inl accepted)
  | resumeVideo configured => exact Or.inr (Or.inr accepted.1)
  | stopVideo input => exact accepted
  | stopListed input => exact accepted

theorem begin_refused (ended : ¬ session.status.IsActive) (request : LockedRequest) :
    ∃ listed, s.begin session request = { s with listed := listed } := by
  obtain ⟨listed, ⟨-, refused⟩ | ⟨accepted, -⟩⟩ := begin_cases s session request
  · exact ⟨listed, refused⟩
  · exact absurd (accepted_active accepted) ended

theorem stopped_frame (stopped : Stopped s) (files : List StoragePath) (listed : Nat) :
    Stopped { s with files := files, listed := listed } :=
  ⟨stopped.row, stopped.calm, stopped.empty, stopped.began, stopped.going, stopped.holder, stopped.media⟩

theorem stopped_starter (stopped : Stopped s) (going : s.starter ≠ .absent ∧ s.starter ≠ .returned) :
    Stopped (s.starterGoes now) := by
  have how := starter_cases now going
  generalize s.starterGoes now = after at how
  cases how with
  | spawns stage => exact absurd stage stopped.began.2
  | probes => exact stopped
  | returns deadline stage =>
    exact ⟨stopped.row, stopped.calm, stopped.empty, ⟨nofun, nofun⟩, id, stopped.holder, stopped.media⟩
  | givesUp deadline stage verdict =>
    simp [ProcessManager.probeStart, ProcessManager.get, stopped.empty] at verdict
  | fails w stage =>
    have going := stopped.going
    rw [stage] at going
    exact absurd trivial going

theorem stopped_step (stopped : Stopped s) (step : RecordingStep s t u) : Stopped u := by
  obtain ⟨ready, rfl⟩ := step
  obtain ⟨now, action⟩ := t
  obtain ⟨session, row, status⟩ := stopped.row
  have ended : ¬ session.status.IsActive := by
    rw [status]
    decide
  have settled : ∀ {pid : Nat} {p : ProcEntry}, s.manager.procs[pid]? = some p → p.markFailed.Idle :=
    fun found => stopped.calm.quiet _ _ found
  cases action with
  | startVideo => exact absurd ready stopped.began.1
  | starter => exact stopped_starter stopped ⟨ready.1, ready.2.1⟩
  | begin request =>
    simp only [RecordingState.after, row]
    obtain ⟨listed, refused⟩ := begin_refused (s := s) ended request
    rw [refused]
    exact stopped_frame stopped s.files listed
  | holder =>
    obtain ⟨call, held, -⟩ := ready
    obtain rfl := stopped.holder call held
    simp only [RecordingState.after, Option.mem_def.mp held]
    refine ⟨⟨session, row, status⟩, stopped.calm, stopped.empty, stopped.began, stopped.going, ?_,
      stopped.media⟩
    intro call held
    cases held
  | stopAllActiveForMeeting =>
    simp only [RecordingState.after, row, if_neg ended]
    exact stopped
  | exits pid code errorMessage =>
    obtain ⟨p, found, running⟩ := ready
    exact ⟨stopped.row, calm_exits stopped.calm found running code errorMessage,
      exits_empty stopped.empty pid code errorMessage, stopped.began, stopped.going, stopped.holder,
      stopped.media⟩
  | kills pid =>
    exact ⟨stopped.row, calm_change stopped.calm pid fun _ => ⟨rfl, rfl, rfl⟩, stopped.empty,
      stopped.began, stopped.going, stopped.holder, stopped.media⟩
  | data pid =>
    simp only [RecordingState.after]
    split
    · exact stopped
    · exact stopped_frame stopped _ s.listed
  | markFailed pid =>
    obtain ⟨p, found, pending⟩ := ready
    exact absurd (settled found) (toUpdate_busy pending)
  | forgets pid =>
    obtain ⟨p, found, pending⟩ := ready
    have idle := settled found
    rw [pending] at idle
    exact idle.elim

theorem get_found {p : ProcEntry} (found : m.get = some p) :
    ∃ pid, m.current = some pid ∧ m.procs[pid]? = some p :=
  Option.bind_eq_some_iff.mp found

theorem doomed_of_empty (doomed : call.Doomed s.manager) (empty : m.current = none) :
    call.Doomed m := by
  cases call with
  | resumeProbing session outPath deadline =>
    intro p there
    obtain ⟨pid, here, -⟩ := get_found there
    rw [empty] at here
    cases here
  | resumeStopping session w => trivial
  | _ => exact doomed.elim

theorem doomed_same (doomed : call.Doomed s.manager) (same : m.current = s.manager.current)
    (states : ∀ (i : Nat) (q : ProcEntry), m.procs[i]? = some q → ∃ p, s.manager.procs[i]? = some p ∧
      (p.state = .exited → q.state = .exited)) : call.Doomed m := by
  cases call with
  | resumeProbing session outPath deadline =>
    intro q there
    obtain ⟨pid, here, found⟩ := get_found there
    obtain ⟨p, old, keeps⟩ := states pid q found
    have place : s.manager.get = some p := by simp [ProcessManager.get, ← same, here, old]
    exact keeps (doomed p place)
  | resumeStopping session w => trivial
  | _ => exact doomed.elim

theorem doomed_change (doomed : call.Doomed s.manager) (i : Nat) {f : ProcEntry → ProcEntry}
    (keeps : ∀ p, (f p).state = p.state) : call.Doomed (s.manager.change i f) := by
  refine doomed_same doomed rfl ?_
  intro j q there
  obtain ⟨p, old, ⟨-, rfl⟩ | ⟨-, rfl⟩⟩ := change_found there
  · exact ⟨p, old, fun exited => (keeps p).trans exited⟩
  · exact ⟨q, old, id⟩

theorem doomed_stop (doomed : call.Doomed s.manager) : call.Doomed s.manager.stop.1 := by
  rcases stop_current s.manager with empty | same
  · exact doomed_of_empty doomed empty
  · refine doomed_same doomed same ?_
    intro j q there
    obtain ⟨p, old, marked⟩ := stop_found there
    exact ⟨p, old, fun exited => marked.state.trans exited⟩

theorem doomed_exits {pid : Nat} {p : ProcEntry} (doomed : call.Doomed s.manager)
    (found : s.manager.procs[pid]? = some p) (running : p.state = .running) (code : Bool)
    (errorMessage : String) : call.Doomed (s.manager.exits pid code errorMessage) := by
  rcases exits_current s.manager pid code errorMessage with ⟨-, -, -, empty⟩ | ⟨same, -⟩
  · exact doomed_of_empty doomed empty
  · refine doomed_same doomed same ?_
    intro j q there
    obtain ⟨r, old, ⟨rfl, rfl⟩ | ⟨-, rfl⟩⟩ := exits_found there
    · refine ⟨r, old, fun exited => ?_⟩
      rw [found] at old
      cases old
      rw [running] at exited
      cases exited
    · exact ⟨q, old, id⟩

theorem failed_frame (failed : Failed s) (files : List StoragePath) (listed : Nat) :
    Failed { s with files := files, listed := listed } :=
  ⟨failed.row, failed.began, failed.holder, failed.media⟩

theorem failed_starter (failed : Failed s) (going : s.starter ≠ .absent ∧ s.starter ≠ .returned) :
    Failed (s.starterGoes now) := by
  have how := starter_cases now going
  generalize s.starterGoes now = after at how
  obtain ⟨session, row, status⟩ := failed.row
  cases how with
  | spawns stage => exact absurd stage failed.began.2
  | probes => exact failed
  | returns deadline stage => exact ⟨failed.row, ⟨nofun, nofun⟩, failed.holder, failed.media⟩
  | givesUp deadline stage verdict =>
    exact ⟨failed.row, ⟨nofun, nofun⟩, fun call held => doomed_stop (failed.holder call held),
      failed.media⟩
  | fails w stage =>
    refine ⟨⟨session.fail now "no video data received from camera", ?_, rfl⟩, ⟨nofun, nofun⟩,
      failed.holder, failed.media⟩
    simp [RecordingState.update, row]

theorem failed_holder (failed : Failed s) (held : s.holder = some call) :
    Failed (s.holderGoes now call) := by
  have doomed := failed.holder call held
  cases call with
  | resumeProbing session outPath deadline =>
    have verdict : s.manager.probeStart s.files outPath deadline now = some .exited := by
      unfold ProcessManager.probeStart
      cases place : s.manager.get with
      | none => rfl
      | some p => exact if_pos (doomed p place)
    simp only [RecordingState.holderGoes, verdict]
    refine ⟨failed.row, failed.began, ?_, failed.media⟩
    intro call same
    cases same
    trivial
  | resumeStopping session w =>
    refine ⟨failed.row, failed.began, ?_, failed.media⟩
    intro call same
    cases same
  | _ => exact doomed.elim

theorem failed_step (failed : Failed s) (step : RecordingStep s t u) : Failed u := by
  obtain ⟨ready, rfl⟩ := step
  obtain ⟨now, action⟩ := t
  obtain ⟨session, row, status⟩ := failed.row
  have ended : ¬ session.status.IsActive := by
    rw [status]
    decide
  cases action with
  | startVideo => exact absurd ready failed.began.1
  | starter => exact failed_starter failed ⟨ready.1, ready.2.1⟩
  | begin request =>
    simp only [RecordingState.after, row]
    obtain ⟨listed, refused⟩ := begin_refused (s := s) ended request
    rw [refused]
    exact failed_frame failed s.files listed
  | holder =>
    obtain ⟨call, held, -⟩ := ready
    simp only [RecordingState.after, Option.mem_def.mp held]
    exact failed_holder failed held
  | stopAllActiveForMeeting =>
    simp only [RecordingState.after, row, if_neg ended]
    exact failed
  | exits pid code errorMessage =>
    obtain ⟨p, found, running⟩ := ready
    exact ⟨failed.row, failed.began,
      fun call held => doomed_exits (failed.holder call held) found running code errorMessage,
      failed.media⟩
  | kills pid =>
    exact ⟨failed.row, failed.began,
      fun call held => doomed_change (failed.holder call held) pid fun _ => rfl, failed.media⟩
  | data pid =>
    simp only [RecordingState.after]
    split
    · exact failed
    · exact failed_frame failed _ s.listed
  | markFailed pid =>
    obtain ⟨p, found, pending⟩ := ready
    simp only [RecordingState.after, Option.mem_def.mp found]
    refine ⟨⟨session.fail now p.markFailed.message, ?_, rfl⟩, failed.began, ?_, failed.media⟩
    · simp [RecordingState.update, row]
    · exact fun call held => doomed_change (failed.holder call held) pid fun _ => rfl
  | forgets pid =>
    exact ⟨failed.row, failed.began, fun call held => doomed_of_empty (failed.holder call held) rfl,
      failed.media⟩

end Ends

section Course
variable {s u : RecordingState} {t : RecordingTurn} {session : RecordingSession} {call : LockedCall}
  {now : Nat}

theorem secure_quiet (secure : call.Secure s) (stops : call.Stops) :
    s.manager.Quiet ∧ ¬ s.starter.GivesUp := by
  cases call with
  | stopRead session input => exact secure.2
  | stopStopping session input w => exact ⟨Calm.to_quiet secure.2.1, secure.2.2⟩
  | _ => exact stops.elim

theorem secure_other (secure : call.Secure s) (apart : ¬ call.Stops) : call.Secure u := by
  cases call with
  | stopRead => exact absurd trivial apart
  | stopStopping => exact absurd trivial apart
  | stopReturning => exact secure
  | _ => trivial

theorem secure_suspends (secure : call.Secure s) (apart : ¬ call.Stops) : call.Suspends := by
  cases call with
  | stopRead => exact absurd trivial apart
  | stopStopping => exact absurd trivial apart
  | stopReturning => exact secure
  | _ => trivial

theorem suspends_secure (suspends : call.Suspends) : call.Secure s := by
  cases call with
  | stopRead => exact suspends.elim
  | stopStopping => exact suspends.elim
  | stopReturning => exact suspends
  | _ => trivial

theorem secure_keeps (secure : call.Secure s) (row : u.row = s.row)
    (quiet : call.ToStop → s.manager.Quiet → u.manager.Quiet)
    (calm : Calm s.manager → Calm u.manager)
    (unfailing : ¬ s.starter.GivesUp → ¬ u.starter.GivesUp) : call.Secure u := by
  cases call with
  | stopRead session input =>
    exact ⟨row.trans secure.1, quiet trivial secure.2.1, unfailing secure.2.2⟩
  | stopStopping session input w => exact ⟨row.trans secure.1, calm secure.2.1, unfailing secure.2.2⟩
  | stopReturning => exact secure
  | _ => trivial

theorem going_frame (going : Going s) (files : List StoragePath) (listed : Nat) :
    Going { s with files := files, listed := listed } := by
  refine ⟨going.tracked, going.active, ?_, going.media⟩
  exact fun call held => secure_keeps (going.secure call held) rfl (fun _ => id) id id

theorem going_fails (going : Going s) (yields : s.Yields)
    (apart : ∀ call, s.holder = some call → ¬ call.Stops)
    (row : ∃ session, u.row = some session ∧ session.status = .failed)
    (began : u.starter ≠ .absent ∧ u.starter ≠ .created)
    (same : u.holder = s.holder ∧ u.media = s.media)
    (doomed : ∀ call : LockedCall, call.Doomed s.manager → call.Doomed u.manager) : Failed u := by
  refine ⟨row, began, ?_, same.2.trans going.media⟩
  intro call held
  rw [same.1] at held
  have suspends := secure_suspends (going.secure call held) (apart call held)
  exact doomed call (yields call held suspends)

theorem going_starter (going : Going s) (unfinished : s.starter ≠ .absent ∧ s.starter ≠ .returned)
    (inOrder : (s.starter.GivesUp → s.Yields) ∧
      ((∃ call ∈ s.holder, call.Stops) → ¬ s.starter.RunsOut s.manager s.files now))
    (tracked : ¬ s.starter.GivesUp → Tracked (s.starterGoes now).core) : Phase (s.starterGoes now) := by
  have how := starter_cases now unfinished
  generalize s.starterGoes now = after at how tracked
  cases how with
  | spawns stage =>
    obtain ⟨-, nobody⟩ := going.tracked.untouched (Or.inr stage)
    refine .going ⟨tracked (by rw [stage]; exact id), going.active, ?_, going.media⟩
    intro call held
    rw [show s.holder = none from nobody] at held
    cases held
  | probes => exact .going going
  | returns deadline stage =>
    refine .going ⟨tracked (by rw [stage]; exact id), going.active, ?_, going.media⟩
    exact fun call held => secure_keeps (going.secure call held) rfl (fun _ => id) id fun _ => id
  | givesUp deadline stage verdict =>
    refine .going ⟨tracked (by rw [stage]; exact id), going.active, ?_, going.media⟩
    intro call held
    refine secure_other (going.secure call held) ?_
    intro stops
    refine inOrder.2 ⟨call, held, stops⟩ ?_
    rw [stage]
    exact verdict
  | fails w stage =>
    have gives_up : s.starter.GivesUp := by
      rw [stage]
      trivial
    refine .failed (going_fails going (inOrder.1 gives_up) ?_ ?_ ⟨nofun, nofun⟩ ⟨rfl, rfl⟩ fun _ => id)
    · intro call held stops
      exact (secure_quiet (going.secure call held) stops).2 gives_up
    · obtain ⟨session, row⟩ := row_present going.tracked unfinished.1
      refine ⟨session.fail now "no video data received from camera", ?_, rfl⟩
      simp [RecordingState.update, row]

theorem going_begin (going : Going s) (row : s.row = some session) (request : LockedRequest)
    (inOrder : request.Accepted session → request.Stops → s.manager.Quiet ∧ ¬ s.starter.GivesUp)
    (tracked : Tracked (s.begin session request).core) : Going (s.begin session request) := by
  obtain ⟨listed, ⟨-, refused⟩ | ⟨accepted, taken⟩⟩ := begin_cases s session request
  · rw [refused]
    exact going_frame going s.files listed
  · rw [taken] at tracked ⊢
    refine ⟨tracked, going.active, ?_, going.media⟩
    intro call same
    cases same
    cases request with
    | pauseVideo => trivial
    | resumeVideo configured => trivial
    | stopVideo input => exact ⟨row, inOrder accepted trivial⟩
    | stopListed input => exact ⟨row, inOrder accepted trivial⟩

theorem going_suspends (going : Going s) (suspends : call.Suspends)
    (tracked : Tracked (s.holderGoes now call).core) : Going (s.holderGoes now call) := by
  have written : ∀ {f : RecordingSession → RecordingSession}, (∀ row, (f row).status.IsActive) →
      ∀ session, s.row.map f = some session → session.status.IsActive := by
    intro f active session there
    obtain ⟨row, -, rfl⟩ := Option.map_eq_some_iff.mp there
    exact active row
  have holds : ∀ {next : LockedCall} {a : RecordingState}, next.Suspends →
      ∀ call, some next = some call → call.Secure a := by
    intro next a still call same
    cases same
    exact suspends_secure still
  have nobody : ∀ {a : RecordingState} (call : LockedCall), none = some call → call.Secure a := by
    intro a call no
    cases no
  cases call with
  | pauseRead session => exact ⟨tracked, going.active, holds trivial, going.media⟩
  | pauseStopping session w =>
    exact ⟨tracked, written fun row => Or.inr (Or.inr rfl), nobody, going.media⟩
  | resumeRead session => exact ⟨tracked, going.active, holds trivial, going.media⟩
  | resumeProbing session outPath deadline =>
    simp only [RecordingState.holderGoes] at tracked ⊢
    cases verdict : s.manager.probeStart s.files outPath deadline now with
    | none => exact going
    | some result =>
      simp only [verdict] at tracked
      cases result with
      | capturing => exact ⟨tracked, going.active, holds trivial, going.media⟩
      | exited => exact ⟨tracked, going.active, holds trivial, going.media⟩
      | noData => exact ⟨tracked, going.active, holds trivial, going.media⟩
  | resumeCapturing session outPath =>
    exact ⟨tracked, written fun row => Or.inr (Or.inl rfl), nobody, going.media⟩
  | resumeStopping session w => exact ⟨tracked, going.active, nobody, going.media⟩
  | _ => exact suspends.elim

theorem going_stopRead {input : StopInput} (going : Going s)
    (held : s.holder = some (.stopRead session input))
    (tracked : Tracked (s.holderGoes now (.stopRead session input)).core) :
    Going (s.holderGoes now (.stopRead session input)) := by
  obtain ⟨row, quiet, unfailing⟩ := going.secure _ held
  have live := going.tracked.live session row (going.active session row)
  simp only [RecordingState.holderGoes] at tracked ⊢
  by_cases paused : session.status = .paused
  · rw [if_pos paused] at tracked ⊢
    have empty : s.manager.current = none := going.tracked.clears _ held paused
    refine ⟨tracked, going.active, ?_, going.media⟩
    intro call same
    cases same
    refine ⟨row, ⟨fun i p found => quiet_found quiet found, ?_⟩, unfailing⟩
    intro i p found loose
    have place : s.manager.current = some i := live.loose unfailing i p found loose
    rw [empty] at place
    cases place
  · rw [if_neg paused] at tracked ⊢
    refine ⟨tracked, going.active, ?_, going.media⟩
    intro call same
    cases same
    refine ⟨row, calm_stop ?_ ?_, unfailing⟩
    · exact fun i p found => quiet_found quiet found
    · exact fun i q found => stop_no_loose live unfailing found

theorem going_finish {input : StopInput} {w : Stopping} (going : Going s)
    (held : s.holder = some (.stopStopping session input w)) (waited : s.manager.isOver w = true)
    (tracked : Tracked (s.finishStop now session input w).core) :
    Phase (s.finishStop now session input w) := by
  obtain ⟨row, calm, unfailing⟩ := going.secure _ held
  have began : s.starter ≠ .absent ∧ s.starter ≠ .created := by
    refine holder_began going.tracked ?_
    rw [held]
    exact Option.some_ne_none _
  have cleared : s.manager.Cleared w := going.tracked.clears _ held
  have empty : s.manager.current = none := cleared.empty waited
  have written : ∀ f : RecordingSession → RecordingSession,
      (s.update f).row = some (f session) := by
    intro f
    simp [RecordingState.update, row]
  rcases finish_cases s now session input w with same | same | ⟨file, same⟩
  · rw [same] at tracked ⊢
    refine .going ⟨tracked, going.active, ?_, going.media⟩
    intro call no
    cases no
  · rw [same]
    refine .stopped ⟨⟨_, written _, rfl⟩, calm, empty, began, unfailing, ?_, ?_⟩
    · intro call no
      cases no
    · show s.media.length ≤ 1
      rw [going.media]
      exact Nat.zero_le 1
  · rw [same]
    refine .stopped ⟨⟨_, written _, rfl⟩, calm, empty, began, unfailing, ?_, ?_⟩
    · intro call same
      cases same
      rfl
    · show (s.media ++ [file]).length ≤ 1
      rw [going.media]
      exact Nat.le_refl 1

theorem going_holder (going : Going s) (held : s.holder = some call)
    (waited : s.manager.isOver call.waits = true) (tracked : Tracked (s.holderGoes now call).core) :
    Phase (s.holderGoes now call) := by
  by_cases stops : call.Stops
  · cases call with
    | stopRead session input => exact .going (going_stopRead going held tracked)
    | stopStopping session input w => exact going_finish going held waited tracked
    | _ => exact stops.elim
  · have suspends := secure_suspends (going.secure call held) stops
    exact .going (going_suspends going suspends tracked)

theorem going_exits {pid : Nat} {p : ProcEntry} {code : Bool} {errorMessage : String}
    (going : Going s) (found : s.manager.procs[pid]? = some p) (running : p.state = .running)
    (inOrder : (∃ call ∈ s.holder, call.ToStop) → ∀ q ∈ s.manager.procs[pid]?, q.stopping = true)
    (tracked : Tracked { s with manager := s.manager.exits pid code errorMessage }.core) :
    Going { s with manager := s.manager.exits pid code errorMessage } := by
  refine ⟨tracked, going.active, ?_, going.media⟩
  intro call held
  refine secure_keeps (going.secure call held) rfl ?_ ?_ id
  · intro to_stop quiet q there
    have stopping : p.stopping = true := inOrder ⟨call, held, to_stop⟩ p found
    obtain ⟨i, placed⟩ := List.mem_iff_getElem?.mp there
    obtain ⟨r, old, ⟨rfl, rfl⟩ | ⟨-, rfl⟩⟩ := exits_found placed
    · rw [found] at old
      cases old
      refine onExit_idle (quiet_found quiet found) ?_ running code errorMessage
      exact fun loose => Bool.false_ne_true (loose.2.symm.trans stopping)
    · exact quiet_found quiet old
  · exact fun calm => calm_exits calm found running code errorMessage

theorem going_kills {pid : Nat} (going : Going s)
    (tracked : Tracked { s with manager := s.manager.kill pid }.core) :
    Going { s with manager := s.manager.kill pid } := by
  refine ⟨tracked, going.active, ?_, going.media⟩
  intro call held
  refine secure_keeps (going.secure call held) rfl ?_ ?_ id
  · intro _ quiet q there
    obtain ⟨i, placed⟩ := List.mem_iff_getElem?.mp there
    obtain ⟨r, old, ⟨-, rfl⟩ | ⟨-, rfl⟩⟩ := change_found placed
    · exact quiet_found (p := r) quiet old
    · exact quiet_found quiet old
  · exact fun calm => calm_change calm pid fun _ => ⟨rfl, rfl, rfl⟩

theorem going_markFailed {pid : Nat} {p : ProcEntry} (going : Going s)
    (found : s.manager.procs[pid]? = some p) (pending : p.markFailed.ToUpdate) (yields : s.Yields)
    (errorMessage : String) :
    Failed { s.update fun session => session.fail now errorMessage with
      manager := s.manager.updated pid } := by
  have began := found_began going.tracked found
  refine going_fails going yields ?_ ?_ began ⟨rfl, rfl⟩ ?_
  · intro call held stops
    have quiet := (secure_quiet (going.secure call held) stops).1
    exact toUpdate_busy pending (quiet_found quiet found)
  · obtain ⟨session, row⟩ := row_present going.tracked began.1
    refine ⟨session.fail now errorMessage, ?_, rfl⟩
    simp [RecordingState.update, row]
  · exact fun call doomed => doomed_change doomed pid fun _ => rfl

theorem going_step (going : Going s) (step : RecordingStep s t u) (inOrder : s.DiesInOrder t) :
    Phase u := by
  have tracked : s.Spaced t → Tracked u.core := tracked_step going.tracked step
  obtain ⟨ready, rfl⟩ := step
  obtain ⟨now, action⟩ := t
  cases action with
  | startVideo =>
    obtain ⟨-, free⟩ := going.tracked.untouched (Or.inl ready)
    refine .going ⟨tracked trivial, ?_, ?_, going.media⟩
    · intro session row
      cases row
      exact Or.inr (Or.inl rfl)
    · intro call held
      have nobody : none = some call := free.symm.trans held
      cases nobody
  | starter =>
    refine going_starter going ⟨ready.1, ready.2.1⟩ inOrder ?_
    exact fun unfailing => tracked fun gives_up => absurd gives_up unfailing
  | begin request =>
    have next := tracked fun accepted => (inOrder accepted).1
    simp only [RecordingState.after] at next ⊢
    cases row : s.row with
    | none => exact .going going
    | some session =>
      simp only [row] at next
      refine .going (going_begin going row request ?_ next)
      exact fun accepted => (inOrder ⟨session, row, accepted⟩).2
  | holder =>
    obtain ⟨call, held, waited⟩ := ready
    have next := tracked trivial
    simp only [RecordingState.after, Option.mem_def.mp held] at next ⊢
    exact going_holder going held waited next
  | stopAllActiveForMeeting =>
    simp only [RecordingState.after]
    split
    · exact .going going
    · split
      · exact .going (going_frame going s.files (s.listed + 1))
      · exact .going going
  | exits pid code errorMessage =>
    obtain ⟨p, found, running⟩ := ready
    exact .going (going_exits going found running inOrder (tracked trivial))
  | kills pid => exact .going (going_kills going (tracked trivial))
  | data pid =>
    simp only [RecordingState.after]
    split
    · exact .going going
    · exact .going (going_frame going _ s.listed)
  | markFailed pid =>
    obtain ⟨p, found, pending⟩ := ready
    simp only [RecordingState.after, Option.mem_def.mp found]
    exact .failed (going_markFailed going found pending inOrder p.markFailed.message)
  | forgets pid =>
    obtain ⟨p, found, pending⟩ := ready
    obtain ⟨session, row⟩ := row_present going.tracked (found_began going.tracked found).1
    have live := going.tracked.live session row (going.active session row)
    exact absurd pending (live.handlers pid p found).1

theorem phase_step (phase : Phase s) (step : RecordingStep s t u) (inOrder : s.DiesInOrder t) :
    Phase u := by
  cases phase with
  | going here => exact going_step here step inOrder
  | stopped here => exact .stopped (stopped_step here step)
  | failed here => exact .failed (failed_step here step)

theorem phase_initial : Phase .initial := by
  refine .going ⟨tracked_initial, ?_, ?_, rfl⟩
  · intro session row
    cases row
  · intro call held
    cases held

end Course

section Outcome
variable {s t u : RecordingState}

def RecordingStatus.IsFinal (status : RecordingStatus) : Prop := status = .stopped ∨ status = .failed

instance (status : RecordingStatus) : Decidable status.IsFinal :=
  inferInstanceAs (Decidable (_ ∨ _))

/-- A recording that has ended before the move has the same status after it. -/
def StaysFinished (s u : RecordingState) : Prop :=
  ∀ session ∈ s.row, session.status.IsFinal → ∃ later ∈ u.row, later.status = session.status

instance (s u : RecordingState) : Decidable (StaysFinished s u) :=
  inferInstanceAs (Decidable (∀ session ∈ s.row, session.status.IsFinal →
    ∃ later ∈ u.row, later.status = session.status))

/-- There is at most one media file, and none but of a recording that was stopped. -/
def RecordingState.FilesStopped (s : RecordingState) : Prop :=
  s.media.length ≤ 1 ∧ (s.media ≠ [] → ∃ session ∈ s.row, session.status = .stopped)

instance (s : RecordingState) : Decidable s.FilesStopped := inferInstanceAs (Decidable (_ ∧ (_ → _)))

theorem active_unfinished {status : RecordingStatus} (active : status.IsActive) : ¬ status.IsFinal := by
  rcases active with rfl | rfl | rfl <;> decide

theorem phase_files (phase : Phase s) : s.FilesStopped := by
  cases phase with
  | going here =>
    rw [RecordingState.FilesStopped, here.media]
    exact ⟨Nat.zero_le 1, fun some_file => absurd rfl some_file⟩
  | stopped here => exact ⟨here.media, fun _ => here.row⟩
  | failed here =>
    rw [RecordingState.FilesStopped, here.media]
    exact ⟨Nat.zero_le 1, fun some_file => absurd rfl some_file⟩

theorem phase_stays {turn : RecordingTurn} (phase : Phase s) (step : RecordingStep s turn u) :
    StaysFinished s u := by
  intro session row final
  cases phase with
  | going here => exact absurd final (active_unfinished (here.active session row))
  | stopped here =>
    obtain ⟨before, there, status⟩ := here.row
    obtain ⟨later, after, same⟩ := (stopped_step here step).row
    obtain rfl : before = session := Option.some.inj (there.symm.trans row)
    exact ⟨later, after, same.trans status.symm⟩
  | failed here =>
    obtain ⟨before, there, status⟩ := here.row
    obtain ⟨later, after, same⟩ := (failed_step here step).row
    obtain rfl : before = session := Option.some.inj (there.symm.trans row)
    exact ⟨later, after, same.trans status.symm⟩

variable {moves : List (Move RecordingState RecordingTurn)}

/-- Where processes die in order, a recording that has ended stays as it has ended, with at most one
    file, and that only if it was stopped. -/
theorem finished_stays (run : Run RecordingStep .initial moves t)
    (inOrder : Heeds RecordingState.DiesInOrder moves) :
    (∀ m ∈ moves, StaysFinished m.before m.after) ∧
      ∀ a ∈ visited .initial moves, a.FilesStopped := by
  constructor
  · intro m there
    obtain ⟨phase, step⟩ := moves_invariant Phase run phase_initial inOrder phase_step m there
    exact phase_stays phase step
  · intro a there
    exact phase_files (visited_invariant Phase run phase_initial inOrder phase_step a there)

def orderlyRecording : List RecordingTurn :=
  [⟨0, .startVideo⟩, ⟨0, .starter⟩, ⟨900, .data 0⟩, ⟨1000, .starter⟩,
   ⟨9000, .begin .pauseVideo⟩, ⟨9000, .holder⟩, ⟨9100, .exits 0 true ""⟩, ⟨9100, .holder⟩,
   ⟨60000, .begin (.resumeVideo true)⟩, ⟨60000, .holder⟩, ⟨60800, .data 1⟩, ⟨61000, .holder⟩,
   ⟨61000, .holder⟩, ⟨70000, .stopAllActiveForMeeting⟩, ⟨70000, .begin (.stopListed ⟨true, some 17⟩)⟩,
   ⟨70000, .holder⟩, ⟨70100, .exits 1 true ""⟩, ⟨70200, .holder⟩, ⟨70200, .holder⟩,
   ⟨80000, .begin (.stopVideo ⟨true, none⟩)⟩]

theorem orderly_recording_stays :
    (orderlyRecording.foldl RecordingState.after .initial).media = [⟨.final, 17⟩] ∧
    (∀ m ∈ trail RecordingState.after .initial orderlyRecording, StaysFinished m.before m.after) ∧
      ∀ a ∈ visited .initial (trail RecordingState.after .initial orderlyRecording), a.FilesStopped :=
  ⟨by decide, finished_stays (run_trail (by decide)) (by decide)⟩

/-- The process crashes, and `stopVideo` runs before the exit handler has written the row. -/
def crashBeforeStop : List RecordingTurn :=
  [⟨0, .startVideo⟩, ⟨0, .starter⟩, ⟨900, .data 0⟩, ⟨1000, .starter⟩,
   ⟨9000, .exits 0 true "ffmpeg exited code=1; "⟩, ⟨9000, .begin (.stopVideo ⟨true, some 8⟩)⟩,
   ⟨9000, .holder⟩, ⟨9050, .holder⟩, ⟨9050, .holder⟩, ⟨9060, .markFailed 0⟩]

theorem crash_unfinishes : ¬ ∀ (moves : List (Move RecordingState RecordingTurn)) (s : RecordingState),
    Run RecordingStep .initial moves s →
      (∀ m ∈ moves, StaysFinished m.before m.after) ∧
        ∀ a ∈ visited .initial moves, a.FilesStopped := by
  intro all
  have run : Run RecordingStep .initial (trail RecordingState.after .initial crashBeforeStop)
      (crashBeforeStop.foldl RecordingState.after .initial) := run_trail (by decide)
  exact absurd (all _ _ run).1 (by decide)

end Outcome
end Recording
