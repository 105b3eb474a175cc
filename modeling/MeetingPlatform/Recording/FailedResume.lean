import MeetingPlatform.Recording.Tracking

/- A `resumeVideo` that finds no video is to leave the session as it was. It does where its process
   lives until the probe has run out; an exit before that is taken for a failure of the recording. -/
namespace Recording
open LabelledRuns

section Conditions

def LockedCall.Resumes : LockedCall → Prop
  | .resumeRead _ | .resumeProbing _ _ _ | .resumeCapturing _ _ | .resumeStopping _ _ => True
  | .pauseRead _ | .pauseStopping _ _ | .stopRead _ _ | .stopStopping _ _ _ | .stopReturning => False

instance : (call : LockedCall) → Decidable call.Resumes
  | .resumeRead _ | .resumeProbing _ _ _ | .resumeCapturing _ _ | .resumeStopping _ _ =>
    inferInstanceAs (Decidable True)
  | .pauseRead _ | .pauseStopping _ _ | .stopRead _ _ | .stopStopping _ _ _ | .stopReturning =>
    inferInstanceAs (Decidable False)

/-- `startVideo` finds at this instant that its time is up and there is no data. -/
def StartStage.RunsOut (m : ProcessManager) (files : List StoragePath) (now : Nat) : StartStage → Prop
  | .probing deadline => m.probeStart files .main deadline now = some .noData
  | .absent | .created | .stopping _ | .returned => False

instance (m : ProcessManager) (files : List StoragePath) (now : Nat) :
    (stage : StartStage) → Decidable (stage.RunsOut m files now)
  | .probing _ => inferInstanceAs (Decidable (_ = _))
  | .absent | .created | .stopping _ | .returned => inferInstanceAs (Decidable False)

/-- The process that `resumeVideo` probes is gone before the probe has come to an end. -/
def LockedCall.FindsExit (m : ProcessManager) : LockedCall → Prop
  | .resumeProbing _ _ _ => ∃ p ∈ m.get, p.state = .exited
  | .pauseRead _ | .pauseStopping _ _ | .resumeRead _ | .resumeCapturing _ _ | .resumeStopping _ _
  | .stopRead _ _ | .stopStopping _ _ _ | .stopReturning => False

instance (m : ProcessManager) : (call : LockedCall) → Decidable (call.FindsExit m)
  | .resumeProbing _ _ _ => inferInstanceAs (Decidable (∃ p ∈ m.get, p.state = .exited))
  | .pauseRead _ | .pauseStopping _ _ | .resumeRead _ | .resumeCapturing _ _ | .resumeStopping _ _
  | .stopRead _ _ | .stopStopping _ _ _ | .stopReturning => inferInstanceAs (Decidable False)

/-- A `resumeVideo` reads the row when no earlier failure is still to be recorded, its process
    does not end while it is probed, and `startVideo` does not give up meanwhile. -/
def RecordingState.ResumesInTime (s : RecordingState) (t : RecordingTurn) : Prop :=
  s.Spaced t ∧
    match t.action with
    | .begin (.resumeVideo configured) =>
      (∃ session ∈ s.row, (LockedRequest.resumeVideo configured).Accepted session) →
        s.manager.Quiet ∧ ¬ s.starter.GivesUp
    | .holder => ¬ ∃ call ∈ s.holder, call.FindsExit s.manager
    | .starter => (∃ call ∈ s.holder, call.Resumes) → ¬ s.starter.RunsOut s.manager s.files t.now
    | .begin .pauseVideo | .begin (.stopVideo _) | .begin (.stopListed _) | .startVideo
    | .stopAllActiveForMeeting | .exits _ _ _ | .kills _ | .data _ | .markFailed _ | .forgets _ => True

instance (s : RecordingState) : (t : RecordingTurn) → Decidable (s.ResumesInTime t)
  | ⟨_, .begin (.resumeVideo configured)⟩ => inferInstanceAs (Decidable (s.Spaced _ ∧
      ((∃ session ∈ s.row, (LockedRequest.resumeVideo configured).Accepted session) →
        s.manager.Quiet ∧ ¬ s.starter.GivesUp)))
  | ⟨_, .holder⟩ =>
    inferInstanceAs (Decidable (s.Spaced _ ∧ ¬ ∃ call ∈ s.holder, call.FindsExit s.manager))
  | ⟨now, .starter⟩ => inferInstanceAs (Decidable (s.Spaced _ ∧
      ((∃ call ∈ s.holder, call.Resumes) → ¬ s.starter.RunsOut s.manager s.files now)))
  | ⟨_, .begin .pauseVideo⟩ | ⟨_, .begin (.stopVideo _)⟩ | ⟨_, .begin (.stopListed _)⟩
  | ⟨_, .startVideo⟩ | ⟨_, .stopAllActiveForMeeting⟩ | ⟨_, .exits _ _ _⟩ | ⟨_, .kills _⟩
  | ⟨_, .data _⟩ | ⟨_, .markFailed _⟩ | ⟨_, .forgets _⟩ =>
    inferInstanceAs (Decidable (s.Spaced _ ∧ True))

end Conditions

section Invariant

/-- Nothing is left to record, and no process can add to it. -/
structure Calm (m : ProcessManager) : Prop where
  quiet : ∀ (i : Nat) (p : ProcEntry), m.procs[i]? = some p → p.markFailed.Idle
  tame : ∀ (i : Nat) (p : ProcEntry), m.procs[i]? = some p → ¬ p.Loose

/-- Only the process that `resumeVideo` has started can still fail. -/
structure Probed (m : ProcessManager) (pid : Nat) (first : ProcEntry) : Prop where
  place : m.current = some pid
  found : m.procs[pid]? = some first
  alone : first.awaited = false
  rest : ∀ (i : Nat) (p : ProcEntry), m.procs[i]? = some p → i ≠ pid → p.markFailed.Idle ∧ ¬ p.Loose

def LockedCall.Steady (m : ProcessManager) (starter : StartStage) : LockedCall → Prop
  | .resumeRead _ => Calm m ∧ ¬ starter.GivesUp
  | .resumeProbing _ _ _ | .resumeCapturing _ _ =>
    (∃ pid first, Probed m pid first) ∧ ¬ starter.GivesUp
  | .resumeStopping _ w => w = .hung ∨ Calm m ∧ ¬ starter.GivesUp
  | .pauseRead _ | .pauseStopping _ _ | .stopRead _ _ | .stopStopping _ _ _ | .stopReturning => True

/-- What stands once `RECORDING_NO_VIDEO` has been thrown. -/
structure Kept (s : RecordingState) (session : RecordingSession) : Prop where
  free : s.holder = none
  row : s.row = some session
  paused : session.status = .paused
  empty : s.manager.current = none
  calm : Calm s.manager
  going : ¬ s.starter.GivesUp

structure ResumeKept (s : RecordingState) : Prop where
  tracked : Tracked s.core
  steady : ∀ call, s.holder = some call → call.Steady s.manager s.starter
  kept : ∀ session, s.failedResume = some session → Kept s session

end Invariant

section Processes
variable {m : ProcessManager} {i : Nat} {p : ProcEntry}

theorem quiet_found (quiet : m.Quiet) (found : m.procs[i]? = some p) : p.markFailed.Idle :=
  quiet p (List.mem_of_getElem? found)

theorem Calm.to_quiet (calm : Calm m) : m.Quiet := by
  intro p there
  obtain ⟨i, found⟩ := List.mem_iff_getElem?.mp there
  exact calm.quiet i p found

theorem toUpdate_busy {h : MarkFailed} (pending : h.ToUpdate) : ¬ h.Idle := by
  cases h with
  | idle => exact absurd rfl pending.1
  | toUpdate errorMessage => exact id
  | toDelete => exact id
  | done => exact absurd rfl pending.2.2

theorem onExit_idle (idle : p.markFailed.Idle) (tame : ¬ p.Loose) (running : p.state = .running)
    (code : Bool) (errorMessage : String) : (p.onExit code errorMessage).markFailed.Idle := by
  have stopping : p.stopping = true := by
    cases set : p.stopping with
    | true => rfl
    | false => exact absurd ⟨running, set⟩ tame
  simpa [ProcEntry.onExit, stopping] using idle

theorem onExit_tame (p : ProcEntry) (code : Bool) (errorMessage : String) :
    ¬ (p.onExit code errorMessage).Loose :=
  fun loose => onExit_stopped p code errorMessage loose.1

theorem calm_exits (calm : Calm m) (found : m.procs[i]? = some p) (running : p.state = .running)
    (code : Bool) (errorMessage : String) : Calm (m.exits i code errorMessage) := by
  constructor
  · intro j q there
    obtain ⟨r, old, ⟨rfl, rfl⟩ | ⟨-, rfl⟩⟩ := exits_found there
    · rw [found] at old
      cases old
      exact onExit_idle (calm.quiet i p found) (calm.tame i p found) running code errorMessage
    · exact calm.quiet j q old
  · intro j q there
    obtain ⟨r, old, ⟨rfl, rfl⟩ | ⟨-, rfl⟩⟩ := exits_found there
    · exact onExit_tame r code errorMessage
    · exact calm.tame j q old

theorem calm_change {f : ProcEntry → ProcEntry} (calm : Calm m) (i : Nat)
    (keeps : ∀ q, (f q).state = q.state ∧ (f q).stopping = q.stopping ∧
      (f q).markFailed = q.markFailed) : Calm (m.change i f) := by
  constructor
  · intro j q there
    obtain ⟨r, old, ⟨-, rfl⟩ | ⟨-, rfl⟩⟩ := change_found there
    · rw [(keeps r).2.2]
      exact calm.quiet j r old
    · exact calm.quiet j q old
  · intro j q there loose
    obtain ⟨r, old, ⟨-, rfl⟩ | ⟨-, rfl⟩⟩ := change_found there
    · exact calm.tame j r old ⟨(keeps r).1.symm.trans loose.1, (keeps r).2.1.symm.trans loose.2⟩
    · exact calm.tame j q old loose

theorem probed_start (calm : Calm m) (outPath : StoragePath) :
    Probed (m.start outPath) m.procs.length (.spawn outPath) where
  place := rfl
  found := List.getElem?_concat_length ..
  alone := rfl
  rest := by
    intro j q there other
    rcases start_found outPath there with old | ⟨same, -⟩
    · exact ⟨calm.quiet j q old, calm.tame j q old⟩
    · exact absurd same other

theorem probed_change {pid : Nat} {first : ProcEntry} (probed : Probed m pid first) (i : Nat)
    {f : ProcEntry → ProcEntry}
    (keeps : ∀ q, (f q).awaited = q.awaited)
    (rest : ∀ q, m.procs[i]? = some q → i ≠ pid → (f q).markFailed.Idle ∧ ¬ (f q).Loose) :
    ∃ next, Probed (m.change i f) pid next := by
  refine ⟨if i = pid then f first else first, probed.place, ?_, ?_, ?_⟩
  · rw [change_get, probed.found]
    split <;> rfl
  · split
    · exact (keeps first).trans probed.alone
    · exact probed.alone
  · intro j q there other
    obtain ⟨r, old, ⟨rfl, rfl⟩ | ⟨-, rfl⟩⟩ := change_found there
    · exact rest r old other
    · exact probed.rest j q old other

theorem probed_kill {pid : Nat} {first : ProcEntry} (probed : Probed m pid first) (i : Nat) :
    ∃ next, Probed (m.kill i) pid next :=
  probed_change probed i (fun _ => rfl) fun q there other => probed.rest i q there other

theorem probed_exits {pid : Nat} {first : ProcEntry} (probed : Probed m pid first)
    (found : m.procs[i]? = some p) (running : p.state = .running) (alone : p.awaited = false)
    (code : Bool) (errorMessage : String) : ∃ next, Probed (m.exits i code errorMessage) pid next := by
  have ends : m.exits i code errorMessage = m.change i (ProcEntry.onExit code errorMessage) := by
    simp [ProcessManager.exits, found, alone]
  rw [ends]
  refine probed_change probed i (fun _ => rfl) ?_
  intro q there other
  rw [found] at there
  cases there
  have quiet := probed.rest i p found other
  exact ⟨onExit_idle quiet.1 quiet.2 running code errorMessage, onExit_tame p code errorMessage⟩

theorem Probed.get {pid : Nat} {first : ProcEntry} (probed : Probed m pid first) : m.get = some first := by
  simp [ProcessManager.get, probed.place, probed.found]

theorem probed_stop {pid : Nat} {first : ProcEntry} (probed : Probed m pid first)
    (alive : first.state ≠ .exited) (killed : first.killed = true → first.awaited = true) :
    m.stop.2 = .hung ∨ first.state = .running := by
  have how := stop_cases m
  generalize m.stop = done at how
  have mine : ∀ {i : Nat} {p : ProcEntry}, m.current = some i → m.procs[i]? = some p → p = first := by
    intro i p here there
    rw [probed.place] at here
    cases here
    exact Option.some.inj (there.symm.trans probed.found)
  cases how with
  | orphan missing =>
    rw [probed.get] at missing
    cases missing
  | finished i p here there ended =>
    obtain rfl := mine here there
    rcases ended with exited | was_killed
    · exact absurd exited alive
    · have awaited := killed was_killed
      rw [probed.alone] at awaited
      cases awaited
  | hung i p here there signalled => exact Or.inl rfl
  | exit i p here there running unkilled =>
    obtain rfl := mine here there
    exact Or.inr running

theorem calm_stop
    (idle : ∀ (i : Nat) (p : ProcEntry), m.procs[i]? = some p → p.markFailed.Idle)
    (tame : ∀ (i : Nat) (q : ProcEntry), m.stop.1.procs[i]? = some q → ¬ q.Loose) :
    Calm m.stop.1 := by
  refine ⟨?_, tame⟩
  intro i q found
  obtain ⟨p, old, marked⟩ := stop_found found
  rw [marked.markFailed]
  exact idle i p old

theorem probed_idle {pid : Nat} {first : ProcEntry} (probed : Probed m pid first)
    (idle : first.markFailed = .idle) (found : m.procs[i]? = some p) : p.markFailed.Idle := by
  by_cases mine : i = pid
  · rw [mine, probed.found] at found
    cases found
    rw [idle]
    trivial
  · exact (probed.rest i p found mine).1

end Processes

section Runs
variable {s u : RecordingState} {t : RecordingTurn} {session : RecordingSession} {call : LockedCall}
  {now : Nat}

theorem Resumes.suspends (resumes : call.Resumes) : call.Suspends := by
  cases call <;> trivial

theorem steady_other {m : ProcessManager} {starter : StartStage} (other : ¬ call.Resumes) :
    call.Steady m starter := by
  cases call with
  | resumeRead => exact absurd trivial other
  | resumeProbing => exact absurd trivial other
  | resumeCapturing => exact absurd trivial other
  | resumeStopping => exact absurd trivial other
  | _ => trivial

theorem suspends_live (tracked : Tracked s.core) (held : s.holder = some call)
    (suspends : call.Suspends) : ∃ session, s.row = some session ∧ Live s.core session := by
  have read := tracked.hasRead call held
  have found : ∃ session, s.row = some session ∧ session.status.IsActive := by
    cases call with
    | pauseRead session => exact ⟨session, read.1, Or.inr (Or.inl read.2)⟩
    | pauseStopping session w => exact ⟨session, read.1, Or.inr (Or.inl read.2)⟩
    | resumeRead session => exact ⟨session, read.1, Or.inr (Or.inr read.2)⟩
    | resumeProbing session => exact ⟨session, read.1, Or.inr (Or.inr read.2)⟩
    | resumeCapturing session => exact ⟨session, read.1, Or.inr (Or.inr read.2)⟩
    | resumeStopping session => exact ⟨session, read.1, Or.inr (Or.inr read.2)⟩
    | _ => exact suspends.elim
  obtain ⟨session, row, active⟩ := found
  exact ⟨session, row, tracked.live session row active⟩

theorem Kept.live (kept : Kept s session) (tracked : Tracked s.core) : Live s.core session :=
  tracked.live session kept.row (Or.inr (Or.inr kept.paused))

theorem ResumeKept.forgotten (inv : ResumeKept s) (gone : ∀ session, ¬ Kept s session) :
    s.failedResume = none := by
  refine Option.eq_none_iff_forall_ne_some.mpr ?_
  intro session thrown
  exact gone session (inv.kept session thrown)

theorem Kept.not_held (held : s.holder = some call) : ¬ Kept s session := by
  intro kept
  have free := kept.free
  rw [held] at free
  cases free

theorem resumeKept_apart (tracked : Tracked u.core)
    (apart : ∀ call, u.holder = some call → ¬ call.Resumes) (forgotten : u.failedResume = none) :
    ResumeKept u := by
  refine ⟨tracked, fun call held => steady_other (apart call held), ?_⟩
  intro session thrown
  rw [forgotten] at thrown
  cases thrown

theorem nobody_resumes (free : u.holder = none) : ∀ next, u.holder = some next → ¬ next.Resumes := by
  intro next held
  rw [free] at held
  cases held

theorem resumeKept_released (tracked : Tracked u.core) (free : u.holder = none)
    (forgotten : u.failedResume = none) : ResumeKept u :=
  resumeKept_apart tracked (nobody_resumes free) forgotten

theorem resumeKept_frame (inv : ResumeKept s) (files : List StoragePath) (listed : Nat) :
    ResumeKept { s with files := files, listed := listed } := by
  refine ⟨inv.tracked, inv.steady, ?_⟩
  intro session thrown
  have kept := inv.kept session thrown
  exact ⟨kept.free, kept.row, kept.paused, kept.empty, kept.calm, kept.going⟩

theorem resumeKept_manager {m : ProcessManager} (inv : ResumeKept s)
    (tracked : Tracked { s with manager := m }.core) (calm : Calm s.manager → Calm m)
    (empty : s.manager.current = none → m.current = none)
    (probed : ∀ call, s.holder = some call → call.Suspends → call.waits = .finished →
      ¬ s.starter.GivesUp → ∀ pid first, Probed s.manager pid first →
        ∃ next, Probed m pid next) : ResumeKept { s with manager := m } := by
  refine ⟨tracked, ?_, ?_⟩
  · intro call held
    have steady := inv.steady call held
    cases call with
    | resumeRead session => exact ⟨calm steady.1, steady.2⟩
    | resumeProbing session outPath deadline =>
      obtain ⟨⟨pid, first, before⟩, going⟩ := steady
      exact ⟨⟨pid, probed _ held trivial rfl going pid first before⟩, going⟩
    | resumeCapturing session outPath =>
      obtain ⟨⟨pid, first, before⟩, going⟩ := steady
      exact ⟨⟨pid, probed _ held trivial rfl going pid first before⟩, going⟩
    | resumeStopping session w =>
      rcases steady with hung | ⟨before, going⟩
      · exact Or.inl hung
      · exact Or.inr ⟨calm before, going⟩
    | _ => trivial
  · intro session thrown
    have kept := inv.kept session thrown
    exact ⟨kept.free, kept.row, kept.paused, empty kept.empty, calm kept.calm, kept.going⟩

theorem paused_calm (tracked : Tracked s.core) (free : s.holder = none) (row : s.row = some session)
    (paused : session.status = .paused) (quiet : s.manager.Quiet) (going : ¬ s.starter.GivesUp) :
    Calm s.manager := by
  have live := tracked.live session row (Or.inr (Or.inr paused))
  have empty : s.manager.current = none := by
    refine live.paused paused ?_
    intro call held
    rw [show s.core.holder = none from free] at held
    cases held
  constructor
  · exact fun i p found => quiet_found quiet found
  · intro i p found loose
    have place := live.loose going i p found loose
    rw [show s.core.manager.current = none from empty] at place
    cases place

theorem resumeKept_begin (inv : ResumeKept s) (free : s.holder = none) (row : s.row = some session)
    (request : LockedRequest) (tracked : Tracked (s.begin session request).core)
    (intime : ∀ configured, request = .resumeVideo configured → request.Accepted session →
      s.manager.Quiet ∧ ¬ s.starter.GivesUp) : ResumeKept (s.begin session request) := by
  obtain ⟨listed, ⟨-, refused⟩ | ⟨accepted, taken⟩⟩ := begin_cases s session request
  · rw [refused]
    exact resumeKept_frame inv s.files listed
  · rw [taken] at tracked ⊢
    refine ⟨tracked, ?_, ?_⟩
    · intro call same
      cases same
      cases request with
      | resumeVideo configured =>
        obtain ⟨quiet, going⟩ := intime configured rfl accepted
        exact ⟨paused_calm (s := s) inv.tracked free row accepted.1 quiet going, going⟩
      | _ => trivial
    · intro session thrown
      cases thrown

theorem resume_stops {outPath : StoragePath} {deadline : Nat} (inv : ResumeKept s)
    (held : s.holder = some (.resumeProbing session outPath deadline))
    (alive : ¬ (LockedCall.resumeProbing session outPath deadline).FindsExit s.manager) :
    (LockedCall.resumeStopping session s.manager.stop.2).Steady s.manager.stop.1 s.starter := by
  obtain ⟨⟨pid, first, probed⟩, going⟩ := inv.steady _ held
  have alive_first : first.state ≠ .exited := fun exited => alive ⟨first, probed.get, exited⟩
  rcases probed_stop probed alive_first (inv.tracked.killed pid first probed.found) with hung | running
  · exact Or.inl hung
  · obtain ⟨other, -, live⟩ := suspends_live inv.tracked held trivial
    have idle := inv.tracked.idle pid first probed.found running
    refine Or.inr ⟨calm_stop ?_ ?_, going⟩
    · exact fun i p found => probed_idle probed idle found
    · exact fun i q found => stop_no_loose live going found

theorem apart_goes (s : RecordingState) (now : Nat) (apart : ¬ call.Resumes) :
    (∀ next, (s.holderGoes now call).holder = some next → ¬ next.Resumes) ∧
      (s.holderGoes now call).failedResume = s.failedResume := by
  cases call with
  | pauseRead session =>
    refine ⟨?_, rfl⟩
    intro next same
    cases same
    exact id
  | pauseStopping session w => exact ⟨nobody_resumes rfl, rfl⟩
  | stopRead session input =>
    simp only [RecordingState.holderGoes]
    by_cases paused : session.status = .paused
    · rw [if_pos paused]
      refine ⟨?_, rfl⟩
      intro next same
      cases same
      exact id
    · rw [if_neg paused]
      refine ⟨?_, rfl⟩
      intro next same
      cases same
      exact id
  | stopStopping session input w =>
    simp only [RecordingState.holderGoes]
    rcases finish_cases s now session input w with same | same | ⟨file, same⟩
    · rw [same]
      exact ⟨nobody_resumes rfl, rfl⟩
    · rw [same]
      exact ⟨nobody_resumes rfl, rfl⟩
    · rw [same]
      refine ⟨?_, rfl⟩
      intro next same
      cases same
      exact id
  | stopReturning => exact ⟨nobody_resumes rfl, rfl⟩
  | _ => exact absurd trivial apart

theorem resumeKept_goes {next : LockedCall} (tracked : Tracked u.core) (held : u.holder = some next)
    (steady : next.Steady u.manager u.starter) (forgotten : u.failedResume = none) : ResumeKept u := by
  refine ⟨tracked, ?_, ?_⟩
  · intro call same
    rw [held] at same
    cases same
    exact steady
  · intro session thrown
    rw [forgotten] at thrown
    cases thrown

theorem resumeKept_throws {w : Stopping} (inv : ResumeKept s)
    (held : s.holder = some (.resumeStopping session w)) (waited : s.manager.isOver w = true)
    (tracked : Tracked (s.noVideo session).core) : ResumeKept (s.noVideo session) := by
  have read : s.row = some session ∧ session.status = .paused := inv.tracked.hasRead _ held
  have cleared : s.manager.Cleared w := inv.tracked.clears _ held
  have calm : Calm s.manager ∧ ¬ s.starter.GivesUp := by
    rcases inv.steady _ held with rfl | calm
    · cases waited
    · exact calm
  refine ⟨tracked, ?_, ?_⟩
  · intro call same
    cases same
  · intro other thrown
    cases thrown
    exact ⟨rfl, read.1, read.2, cleared.empty waited, calm.1, calm.2⟩

theorem resumeKept_holder (inv : ResumeKept s) (held : s.holder = some call)
    (waited : s.manager.isOver call.waits = true) (tracked : Tracked (s.holderGoes now call).core)
    (intime : ¬ call.FindsExit s.manager) : ResumeKept (s.holderGoes now call) := by
  have forgotten := inv.forgotten fun _ => Kept.not_held held
  have steady := inv.steady call held
  by_cases resumes : call.Resumes
  · cases call with
    | resumeRead session =>
      have probed := probed_start steady.1 session.segNew
      exact resumeKept_goes tracked rfl ⟨⟨_, _, probed⟩, steady.2⟩ forgotten
    | resumeProbing session outPath deadline =>
      have stopped := resume_stops inv held intime
      simp only [RecordingState.holderGoes] at tracked ⊢
      cases verdict : s.manager.probeStart s.files outPath deadline now with
      | none => exact inv
      | some result =>
        simp only [verdict] at tracked
        cases result with
        | capturing => exact resumeKept_goes tracked rfl steady forgotten
        | exited => exact resumeKept_goes tracked rfl stopped forgotten
        | noData => exact resumeKept_goes tracked rfl stopped forgotten
    | resumeCapturing session outPath => exact resumeKept_released tracked rfl forgotten
    | resumeStopping session w => exact resumeKept_throws inv held waited tracked
    | _ => exact resumes.elim
  · obtain ⟨apart, same⟩ := apart_goes s now resumes
    exact resumeKept_apart tracked apart (same.trans forgotten)

theorem resumeKept_starter (inv : ResumeKept s) (going : s.starter ≠ .absent ∧ s.starter ≠ .returned)
    (tracked : Tracked (s.starterGoes now).core)
    (spaced : s.starter.GivesUp → ¬ s.Suspending)
    (intime : (∃ call ∈ s.holder, call.Resumes) → ¬ s.starter.RunsOut s.manager s.files now) :
    ResumeKept (s.starterGoes now) := by
  have how := starter_cases now going
  generalize s.starterGoes now = after at how tracked
  cases how with
  | spawns stage =>
    obtain ⟨-, nobody⟩ := inv.tracked.untouched (Or.inr stage)
    refine resumeKept_released tracked nobody (inv.forgotten ?_)
    · intro session kept
      have recording := inv.tracked.created stage session kept.row
      rw [kept.paused] at recording
      cases recording
  | probes => exact inv
  | returns deadline stage =>
    refine ⟨tracked, ?_, ?_⟩
    · intro call held
      have steady := inv.steady call held
      cases call with
      | resumeRead session => exact ⟨steady.1, id⟩
      | resumeProbing session outPath deadline => exact ⟨steady.1, id⟩
      | resumeCapturing session outPath => exact ⟨steady.1, id⟩
      | resumeStopping session w => exact steady.imp_right fun calm => ⟨calm.1, id⟩
      | _ => trivial
    · intro session thrown
      have kept := inv.kept session thrown
      exact ⟨kept.free, kept.row, kept.paused, kept.empty, kept.calm, id⟩
  | givesUp deadline stage verdict =>
    have runs_out : s.starter.RunsOut s.manager s.files now := by
      rw [stage]
      exact verdict
    refine resumeKept_apart tracked ?_ ?_
    · intro call held resumes
      exact intime ⟨call, held, resumes⟩ runs_out
    · refine inv.forgotten ?_
      intro session kept
      simp [ProcessManager.probeStart, ProcessManager.get, kept.empty] at verdict
  | fails w stage =>
    have gives_up : s.starter.GivesUp := by
      rw [stage]
      trivial
    refine resumeKept_apart tracked ?_ ?_
    · intro call held resumes
      exact spaced gives_up ⟨call, held, Resumes.suspends resumes⟩
    · exact inv.forgotten fun session kept => kept.going gives_up

theorem resumeKept_exits {pid : Nat} {p : ProcEntry} (inv : ResumeKept s)
    (found : s.manager.procs[pid]? = some p) (running : p.state = .running) (code : Bool)
    (errorMessage : String)
    (tracked : Tracked { s with manager := s.manager.exits pid code errorMessage }.core) :
    ResumeKept { s with manager := s.manager.exits pid code errorMessage } := by
  refine resumeKept_manager inv tracked ?_ ?_ ?_
  · exact fun calm => calm_exits calm found running code errorMessage
  · exact fun empty => exits_empty empty pid code errorMessage
  · intro call held suspends waits going at_pid first probed
    obtain ⟨session, -, live⟩ := suspends_live inv.tracked held suspends
    have alone : p.awaited = false := by
      refine nothing_awaited live going ?_ found running
      intro other same
      rw [held] at same
      cases same
      rw [waits]
      rfl
    exact probed_exits probed found running alone code errorMessage

theorem resumeKept_markFailed {pid : Nat} {p : ProcEntry} (inv : ResumeKept s)
    (found : s.manager.procs[pid]? = some p) (pending : ¬ p.markFailed.Idle)
    (tracked : Tracked u.core) (same : u.holder = s.holder ∧ u.failedResume = s.failedResume)
    (apart : ¬ s.Suspending) : ResumeKept u := by
  refine resumeKept_apart tracked ?_ ?_
  · intro call held resumes
    exact apart ⟨call, same.1.symm.trans held, Resumes.suspends resumes⟩
  · rw [same.2]
    exact inv.forgotten fun session kept => pending (kept.calm.quiet pid p found)

theorem resumeKept_step (inv : ResumeKept s) (step : RecordingStep s t u) (intime : s.ResumesInTime t) :
    ResumeKept u := by
  have tracked := tracked_step inv.tracked step intime.1
  obtain ⟨ready, rfl⟩ := step
  obtain ⟨now, action⟩ := t
  cases action with
  | startVideo =>
    have absent : s.starter = .absent := ready
    have missing : s.row = none := inv.tracked.started.mpr absent
    obtain ⟨-, free⟩ := inv.tracked.untouched (Or.inl absent)
    refine resumeKept_released tracked free (inv.forgotten ?_)
    intro session kept
    exact Option.some_ne_none session (kept.row.symm.trans missing)
  | starter => exact resumeKept_starter inv ⟨ready.1, ready.2.1⟩ tracked intime.1 intime.2
  | begin request =>
    simp only [RecordingState.after] at tracked ⊢
    cases row : s.row with
    | none => exact inv
    | some session =>
      simp only [row] at tracked
      refine resumeKept_begin inv (begin_free ready) row request tracked ?_
      intro configured same accepted
      subst same
      exact intime.2 ⟨session, row, accepted⟩
  | holder =>
    obtain ⟨call, held, waited⟩ := ready
    simp only [RecordingState.after, Option.mem_def.mp held] at tracked ⊢
    exact resumeKept_holder inv held waited tracked fun ended => intime.2 ⟨call, held, ended⟩
  | stopAllActiveForMeeting =>
    simp only [RecordingState.after]
    split
    · exact inv
    · split
      · exact resumeKept_frame inv s.files (s.listed + 1)
      · exact inv
  | exits pid code errorMessage =>
    obtain ⟨p, found, running⟩ := ready
    exact resumeKept_exits inv found running code errorMessage tracked
  | kills pid =>
    refine resumeKept_manager inv tracked ?_ id ?_
    · exact fun calm => calm_change calm pid fun _ => ⟨rfl, rfl, rfl⟩
    · exact fun _ _ _ _ _ _ _ probed => probed_kill probed pid
  | data pid =>
    simp only [RecordingState.after]
    split
    · exact inv
    · exact resumeKept_frame inv _ s.listed
  | markFailed pid =>
    obtain ⟨p, found, pending⟩ := ready
    simp only [RecordingState.after, Option.mem_def.mp found] at tracked ⊢
    exact resumeKept_markFailed inv found (toUpdate_busy pending) tracked ⟨rfl, rfl⟩ intime.1
  | forgets pid =>
    obtain ⟨p, found, pending⟩ := ready
    have not_idle : ¬ p.markFailed.Idle := by
      rw [pending]
      exact id
    refine resumeKept_markFailed inv found not_idle tracked ⟨rfl, rfl⟩ ?_
    rintro ⟨call, held, suspends⟩
    obtain ⟨session, -, live⟩ := suspends_live inv.tracked held suspends
    exact (live.handlers pid p found).1 pending

theorem resumeKept_initial : ResumeKept .initial := resumeKept_released tracked_initial rfl rfl

end Runs

section Outcome
variable {s t : RecordingState} {session : RecordingSession}

/-- A `stopVideo` that nobody comes between. -/
def stopTurns (input : StopInput) (begun asked now : Nat) : List RecordingTurn :=
  [⟨begun, .begin (.stopVideo input)⟩, ⟨asked, .holder⟩, ⟨now, .holder⟩]

/-- A `stopVideo` can run now, and makes a media file of the segments that hold data. -/
def RecordingState.Finalises (s : RecordingState) (session : RecordingSession) : Prop :=
  ∀ (input : StopInput) (begun asked now : Nat), input.concatSucceeds = true →
    (∃ path ∈ session.metadata.segments, path ∈ s.files) →
      Heeds RecordingState.Ready (trail RecordingState.after s (stopTurns input begun asked now)) ∧
        ∃ key, session.resolveStopFile s.files true = some (some key) ∧
          ((stopTurns input begun asked now).foldl RecordingState.after s).row =
            some (session.finalize session input .finished now) ∧
          ((stopTurns input begun asked now).foldl RecordingState.after s).media =
            s.media ++ [⟨key, input.duration (session.wallClock now)⟩]

/-- Once no exit handler has anything left to do, a `resumeVideo` that has thrown
    `RECORDING_NO_VIDEO` has left the row as it was. -/
def RecordingState.ResumeUndone (s : RecordingState) : Prop :=
  ∀ session, s.failedResume = some session → s.manager.Quiet →
    s.row = some session ∧ session.status = .paused ∧ session.stoppedAt = none ∧ s.Finalises session

theorem resolveStopFile_segments {files : List StoragePath}
    (data : ∃ path ∈ session.metadata.segments, path ∈ files) :
    ∃ key, session.resolveStopFile files true = some (some key) ∧ key.HasData files := by
  obtain ⟨path, there, with_data⟩ := data
  have member : path ∈ session.metadata.segments.filter fun path => path ∈ files :=
    List.mem_filter.mpr ⟨there, decide_eq_true with_data⟩
  unfold RecordingSession.resolveStopFile
  cases found : session.metadata.segments.filter fun path => path ∈ files with
  | nil =>
    rw [found] at member
    cases member
  | cons first rest =>
    have first_data : first ∈ files := by
      have mine : first ∈ session.metadata.segments.filter fun path => path ∈ files := by
        rw [found]
        exact List.mem_cons_self
      exact of_decide_eq_true (List.mem_filter.mp mine).2
    cases rest with
    | nil => exact ⟨first, rfl, Or.inr first_data⟩
    | cons second rest => exact ⟨.final, rfl, Or.inl rfl⟩

theorem stop_paused (row : s.row = some session) (paused : session.status = .paused)
    (input : StopInput) (begun asked now : Nat) :
    let begins := { s.hold (.stopRead session input) with failedResume := none }
    let stops := begins.hold (.stopStopping session input .finished)
    s.after ⟨begun, .begin (.stopVideo input)⟩ = begins ∧ begins.after ⟨asked, .holder⟩ = stops ∧
      stops.after ⟨now, .holder⟩ = stops.finishStop now session input .finished := by
  have active : session.status.IsActive := Or.inr (Or.inr paused)
  refine ⟨?_, ?_, rfl⟩
  · simp only [RecordingState.after, row, RecordingState.begin, if_pos active]
  · simp only [RecordingState.after, RecordingState.hold, RecordingState.holderGoes, if_pos paused]

theorem finishStop_file {input : StopInput} {key : StoragePath} {w : Stopping} (now : Nat)
    (resolved : session.resolveStopFile s.files input.concatSucceeds = some (some key))
    (data : key.HasData s.files) :
    s.finishStop now session input w =
      { (s.update fun row => row.finalize session input w now).hold .stopReturning with
        media := s.media ++ [⟨key, input.duration (session.wallClock now)⟩] } := by
  have looked : (some key).filter (fun path => path.HasData s.files) = some key := by
    simp [Option.filter, data]
  simp only [RecordingState.finishStop, resolved, looked]

theorem kept_finalises (kept : Kept s session) : s.Finalises session := by
  intro input begun asked now concat data
  obtain ⟨key, resolved, with_data⟩ := resolveStopFile_segments data
  obtain ⟨begins, stops, finishes⟩ := stop_paused kept.row kept.paused input begun asked now
  simp only [stopTurns, trail, List.foldl_cons, List.foldl_nil, begins, stops, finishes]
  constructor
  · intro move there
    simp only [List.mem_cons, List.not_mem_nil, or_false] at there
    rcases there with rfl | rfl | rfl
    · exact kept.free
    · exact ⟨_, rfl, rfl⟩
    · exact ⟨_, rfl, rfl⟩
  · have closes := finishStop_file (s := { s.hold (.stopRead session input) with failedResume := none }.hold
      (.stopStopping session input .finished)) (w := .finished) now (concat ▸ resolved) with_data
    refine ⟨key, resolved, ?_⟩
    rw [closes]
    simp [RecordingState.update, RecordingState.hold, kept.row, RecordingSession.finalize]

theorem kept_undone (inv : ResumeKept s) : s.ResumeUndone := by
  intro session thrown _
  have kept := inv.kept session thrown
  exact ⟨kept.row, kept.paused, (kept.live inv.tracked).stoppedAt, kept_finalises kept⟩

/-- In a run whose every `resumeVideo` finds its process alive until the probe has come to an end, a
    failed one changes nothing. -/
theorem failed_resume_undone {moves : List (Move RecordingState RecordingTurn)}
    (run : Run RecordingStep .initial moves t)
    (intime : Heeds RecordingState.ResumesInTime moves) :
    ∀ a ∈ visited .initial moves, a.ResumeUndone := by
  intro a there
  refine kept_undone ?_
  exact visited_invariant ResumeKept run resumeKept_initial intime resumeKept_step a there

def silentResume : List RecordingTurn :=
  [⟨0, .startVideo⟩, ⟨0, .starter⟩, ⟨900, .data 0⟩, ⟨1000, .starter⟩,
   ⟨9000, .begin .pauseVideo⟩, ⟨9000, .holder⟩, ⟨9100, .exits 0 true ""⟩, ⟨9100, .holder⟩,
   ⟨60000, .begin (.resumeVideo true)⟩, ⟨60000, .holder⟩, ⟨65000, .holder⟩,
   ⟨68000, .kills 1⟩, ⟨68001, .exits 1 false ""⟩, ⟨68001, .holder⟩]

theorem silent_resume_undone :
    ((silentResume.foldl RecordingState.after .initial).failedResume.isSome ∧
      (silentResume.foldl RecordingState.after .initial).manager.Quiet) ∧
    ∀ a ∈ visited .initial (trail RecordingState.after .initial silentResume), a.ResumeUndone :=
  ⟨by decide, failed_resume_undone (run_trail (by decide)) (by decide)⟩

def earlyExit : List RecordingTurn :=
  [⟨0, .startVideo⟩, ⟨0, .starter⟩, ⟨900, .data 0⟩, ⟨1000, .starter⟩,
   ⟨9000, .begin .pauseVideo⟩, ⟨9000, .holder⟩, ⟨9100, .exits 0 true ""⟩, ⟨9100, .holder⟩,
   ⟨60000, .begin (.resumeVideo true)⟩, ⟨60000, .holder⟩,
   ⟨60050, .exits 1 true "ffmpeg exited code=1; "⟩, ⟨60300, .holder⟩, ⟨60300, .holder⟩,
   ⟨60310, .markFailed 1⟩, ⟨60310, .forgets 1⟩]

theorem early_exit_fails : ¬ ∀ (moves : List (Move RecordingState RecordingTurn)) (s : RecordingState),
    Run RecordingStep .initial moves s → s.ResumeUndone := by
  intro all
  have run : Run RecordingStep .initial (trail RecordingState.after .initial earlyExit)
      (earlyExit.foldl RecordingState.after .initial) := run_trail (by decide)
  obtain ⟨session, thrown⟩ : ∃ session,
      (earlyExit.foldl RecordingState.after .initial).failedResume = some session :=
    Option.isSome_iff_exists.mp (by decide)
  obtain ⟨row, -⟩ := all _ _ run session thrown (by decide)
  exact absurd (row.trans thrown.symm) (by decide)

end Outcome
end Recording
