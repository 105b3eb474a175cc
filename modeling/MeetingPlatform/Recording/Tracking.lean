import MeetingPlatform.Recording.Sessions

/- What the row says of the processes as long as no failure is written into a `pauseVideo` or a
   `resumeVideo`: an active session knows every process whose end would be taken for a failure. -/
namespace Recording
open LabelledRuns

section Conditions

/-- A call that writes the row back on the strength of what it has read. -/
def LockedCall.Suspends : LockedCall → Prop
  | .pauseRead _ | .pauseStopping _ _ | .resumeRead _ | .resumeProbing _ _ _ | .resumeCapturing _ _
  | .resumeStopping _ _ => True
  | .stopRead _ _ | .stopStopping _ _ _ | .stopReturning => False

instance : (call : LockedCall) → Decidable call.Suspends
  | .pauseRead _ | .pauseStopping _ _ | .resumeRead _ | .resumeProbing _ _ _ | .resumeCapturing _ _
  | .resumeStopping _ _ => inferInstanceAs (Decidable True)
  | .stopRead _ _ | .stopStopping _ _ _ | .stopReturning => inferInstanceAs (Decidable False)

def LockedRequest.Accepted (session : RecordingSession) : LockedRequest → Prop
  | .pauseVideo => session.status = .recording
  | .resumeVideo configured => session.status = .paused ∧ configured = true
  | .stopVideo _ | .stopListed _ => session.status.IsActive

instance (session : RecordingSession) : (request : LockedRequest) →
    Decidable (request.Accepted session)
  | .pauseVideo => inferInstanceAs (Decidable (session.status = .recording))
  | .resumeVideo _ => inferInstanceAs (Decidable (_ ∧ _))
  | .stopVideo _ | .stopListed _ => inferInstanceAs (Decidable session.status.IsActive)

/-- `startVideo` has found no data and is about to record that. -/
def StartStage.GivesUp : StartStage → Prop
  | .stopping _ => True
  | .absent | .created | .probing _ | .returned => False

instance : (stage : StartStage) → Decidable stage.GivesUp
  | .stopping _ => inferInstanceAs (Decidable True)
  | .absent | .created | .probing _ | .returned => inferInstanceAs (Decidable False)

def RecordingState.Suspending (s : RecordingState) : Prop := ∃ call ∈ s.holder, call.Suspends

instance (s : RecordingState) : Decidable s.Suspending :=
  inferInstanceAs (Decidable (∃ call ∈ s.holder, call.Suspends))

/-- A session is left alone until its first process has been started, and a failure is not written
    while `pauseVideo` or `resumeVideo` is under way. -/
def RecordingState.Spaced (s : RecordingState) (t : RecordingTurn) : Prop :=
  match t.action with
  | .begin request => (∃ session ∈ s.row, request.Accepted session) → s.starter ≠ .created
  | .starter => s.starter.GivesUp → ¬ s.Suspending
  | .markFailed _ => ¬ s.Suspending
  | .startVideo | .holder | .stopAllActiveForMeeting | .exits _ _ _ | .kills _ | .data _
  | .forgets _ => True

instance (s : RecordingState) : (t : RecordingTurn) → Decidable (s.Spaced t)
  | ⟨_, .begin request⟩ => inferInstanceAs
      (Decidable ((∃ session ∈ s.row, request.Accepted session) → s.starter ≠ .created))
  | ⟨_, .starter⟩ => inferInstanceAs (Decidable (s.starter.GivesUp → ¬ s.Suspending))
  | ⟨_, .markFailed _⟩ => inferInstanceAs (Decidable (¬ s.Suspending))
  | ⟨_, .startVideo⟩ | ⟨_, .holder⟩ | ⟨_, .stopAllActiveForMeeting⟩ | ⟨_, .exits _ _ _⟩
  | ⟨_, .kills _⟩ | ⟨_, .data _⟩ | ⟨_, .forgets _⟩ => inferInstanceAs (Decidable True)

end Conditions

section Invariant

structure RecordingCore where
  row : Option RecordingSession
  manager : ProcessManager
  starter : StartStage
  holder : Option LockedCall

def RecordingState.core (s : RecordingState) : RecordingCore :=
  ⟨s.row, s.manager, s.starter, s.holder⟩

/-- A `resumeVideo` that has started its process. -/
def LockedCall.Spawned : LockedCall → Prop
  | .resumeProbing _ _ _ | .resumeCapturing _ _ | .resumeStopping _ _ => True
  | .pauseRead _ | .pauseStopping _ _ | .resumeRead _ | .stopRead _ _ | .stopStopping _ _ _
  | .stopReturning => False

def LockedCall.HasRead (row : Option RecordingSession) : LockedCall → Prop
  | .pauseRead session | .pauseStopping session _ => row = some session ∧ session.status = .recording
  | .resumeRead session | .resumeProbing session _ _ | .resumeCapturing session _
  | .resumeStopping session _ => row = some session ∧ session.status = .paused
  | .stopRead _ _ | .stopStopping _ _ _ | .stopReturning => row ≠ none

/-- What the call has seen to in the process manager. -/
def LockedCall.Clears (m : ProcessManager) : LockedCall → Prop
  | .pauseStopping _ w | .resumeStopping _ w | .stopStopping _ _ w => m.Cleared w
  | .stopRead session _ => session.status = .paused → m.current = none
  | .pauseRead _ | .resumeRead _ | .resumeProbing _ _ _ | .resumeCapturing _ _ | .stopReturning =>
    True

structure Live (c : RecordingCore) (session : RecordingSession) : Prop where
  kind : session.status = .recording ∨ session.status = .paused
  stoppedAt : session.stoppedAt = none
  handlers : ∀ (i : Nat) (p : ProcEntry), c.manager.procs[i]? = some p →
    p.markFailed ≠ .toDelete ∧ p.markFailed ≠ .done
  paused : session.status = .paused → (∀ call, c.holder = some call → ¬ call.Spawned) →
    c.manager.current = none
  loose : ¬ c.starter.GivesUp → ∀ (i : Nat) (p : ProcEntry), c.manager.procs[i]? = some p →
    p.Loose → c.manager.current = some i
  awaited : ¬ c.starter.GivesUp → ∀ (i : Nat) (p : ProcEntry), c.manager.procs[i]? = some p →
    p.state = .running → p.awaited = true →
      c.manager.current = some i ∧ ∃ call, c.holder = some call ∧ call.waits = .exit i

structure Tracked (c : RecordingCore) : Prop where
  started : c.row = none ↔ c.starter = .absent
  untouched : c.starter = .absent ∨ c.starter = .created → c.manager = .empty ∧ c.holder = none
  created : c.starter = .created → ∀ session, c.row = some session → session.status = .recording
  hasRead : ∀ call, c.holder = some call → call.HasRead c.row
  clears : ∀ call, c.holder = some call → call.Clears c.manager
  idle : ∀ (i : Nat) (p : ProcEntry), c.manager.procs[i]? = some p → p.state = .running →
    p.markFailed = .idle
  killed : ∀ (i : Nat) (p : ProcEntry), c.manager.procs[i]? = some p → p.killed = true →
    p.awaited = true
  live : ∀ session, c.row = some session → session.status.IsActive → Live c session

end Invariant

section Steps
variable {row : Option RecordingSession} {session : RecordingSession} {m : ProcessManager}
  {starter : StartStage} {holder : Option LockedCall} {call : LockedCall} {now : Nat}

theorem no_process {i : Nat} {p : ProcEntry} (found : ProcessManager.empty.procs[i]? = some p) :
    False := by
  simp [ProcessManager.empty] at found

theorem fail_inactive (session : RecordingSession) (now : Nat) (errorMessage : String) :
    ¬ (session.fail now errorMessage).status.IsActive := by
  simp [RecordingSession.fail, RecordingStatus.IsActive]

theorem tracked_initial : Tracked RecordingState.initial.core where
  started := ⟨fun _ => rfl, fun _ => rfl⟩
  untouched := fun _ => ⟨rfl, rfl⟩
  created := fun no => by cases no
  hasRead := fun _ no => by cases no
  clears := fun _ no => by cases no
  idle := fun _ _ found => (no_process found).elim
  killed := fun _ _ found => (no_process found).elim
  live := fun _ no => by cases no

theorem tracked_create (tracked : Tracked ⟨row, m, .absent, holder⟩) :
    Tracked ⟨some (.create now), m, .created, holder⟩ := by
  obtain ⟨empty, nobody⟩ := tracked.untouched (Or.inl rfl)
  dsimp only at empty nobody
  subst empty nobody
  constructor
  · constructor <;> intro no <;> cases no
  · exact fun _ => ⟨rfl, rfl⟩
  · intro _ session row
    cases row
    rfl
  · intro call held
    cases held
  · intro call held
    cases held
  · exact fun _ _ found => (no_process found).elim
  · exact fun _ _ found => (no_process found).elim
  · intro session row _
    cases row
    constructor
    · exact Or.inl rfl
    · rfl
    · exact fun _ _ found => (no_process found).elim
    · intro no
      cases no
    · exact fun _ _ _ found => (no_process found).elim
    · exact fun _ _ _ found => (no_process found).elim

theorem Tracked.present (tracked : Tracked ⟨row, m, starter, holder⟩) (began : starter ≠ .absent) :
    row ≠ none := fun missing => began (tracked.started.mp missing)

theorem tracked_began (present : row ≠ none) (began : starter ≠ .absent ∧ starter ≠ .created)
    (hasRead : ∀ call, holder = some call → call.HasRead row)
    (clears : ∀ call, holder = some call → call.Clears m)
    (idle : ∀ (i : Nat) (p : ProcEntry), m.procs[i]? = some p → p.state = .running →
      p.markFailed = .idle)
    (killed : ∀ (i : Nat) (p : ProcEntry), m.procs[i]? = some p → p.killed = true → p.awaited = true)
    (live : ∀ session, row = some session → session.status.IsActive →
      Live ⟨row, m, starter, holder⟩ session) : Tracked ⟨row, m, starter, holder⟩ where
  started := iff_of_false present began.1
  untouched := fun no => no.elim (fun no => absurd no began.1) fun no => absurd no began.2
  created := fun no => absurd no began.2
  hasRead := hasRead
  clears := clears
  idle := idle
  killed := killed
  live := live

theorem tracked_spawn (tracked : Tracked ⟨row, m, .created, holder⟩) (outPath : StoragePath)
    (deadline : Nat) : Tracked ⟨row, m.start outPath, .probing deadline, holder⟩ := by
  obtain ⟨empty, nobody⟩ := tracked.untouched (Or.inr rfl)
  dsimp only at empty nobody
  subst empty nobody
  have only : ∀ {i : Nat} {p : ProcEntry},
      (ProcessManager.empty.start outPath).procs[i]? = some p → i = 0 ∧ p = .spawn outPath := by
    intro i p found
    rcases start_found outPath found with old | new
    · exact (no_process old).elim
    · exact new
  refine tracked_began (tracked.present nofun) ⟨nofun, nofun⟩ ?_ ?_ ?_ ?_ ?_
  · intro call held
    cases held
  · intro call held
    cases held
  · intro i p found _
    obtain ⟨-, rfl⟩ := only found
    rfl
  · intro i p found killed
    obtain ⟨-, rfl⟩ := only found
    cases killed
  · intro session there active
    have before := tracked.live session there active
    constructor
    · exact before.kind
    · exact before.stoppedAt
    · intro i p found
      obtain ⟨-, rfl⟩ := only found
      exact ⟨nofun, nofun⟩
    · intro paused _
      rw [tracked.created rfl session there] at paused
      cases paused
    · intro _ i p found _
      obtain ⟨rfl, -⟩ := only found
      rfl
    · intro _ i p found _ awaited
      obtain ⟨-, rfl⟩ := only found
      cases awaited

theorem tracked_returned {deadline : Nat} (tracked : Tracked ⟨row, m, .probing deadline, holder⟩) :
    Tracked ⟨row, m, .returned, holder⟩ := by
  refine tracked_began (tracked.present nofun) ⟨nofun, nofun⟩ ?_ ?_ ?_ ?_ ?_
  · exact tracked.hasRead
  · exact tracked.clears
  · exact tracked.idle
  · exact tracked.killed
  · intro session there active
    have before := tracked.live session there active
    exact ⟨before.kind, before.stoppedAt, before.handlers, before.paused,
      fun _ => before.loose id, fun _ => before.awaited id⟩

theorem stop_idle (idle : ∀ (i : Nat) (p : ProcEntry), m.procs[i]? = some p → p.state = .running →
    p.markFailed = .idle) : ∀ (i : Nat) (p : ProcEntry), m.stop.1.procs[i]? = some p →
    p.state = .running → p.markFailed = .idle := by
  intro i q found running
  obtain ⟨p, old, marked⟩ := stop_found found
  rw [marked.markFailed]
  exact idle i p old (marked.state.symm.trans running)

theorem stop_killed (killed : ∀ (i : Nat) (p : ProcEntry), m.procs[i]? = some p → p.killed = true →
    p.awaited = true) : ∀ (i : Nat) (p : ProcEntry), m.stop.1.procs[i]? = some p →
    p.killed = true → p.awaited = true := by
  intro i q found was_killed
  obtain ⟨p, old, marked⟩ := stop_found found
  exact marked.awaited (killed i p old (marked.killed.symm.trans was_killed))

theorem stop_handlers (handlers : ∀ (i : Nat) (p : ProcEntry), m.procs[i]? = some p →
    p.markFailed ≠ .toDelete ∧ p.markFailed ≠ .done) :
    ∀ (i : Nat) (p : ProcEntry), m.stop.1.procs[i]? = some p →
      p.markFailed ≠ .toDelete ∧ p.markFailed ≠ .done := by
  intro i q found
  obtain ⟨p, old, marked⟩ := stop_found found
  rw [marked.markFailed]
  exact handlers i p old

theorem stop_empty (empty : m.current = none) : m.stop.1.current = none := by
  rcases stop_current m with gone | same
  · exact gone
  · exact same.trans empty

theorem clears_of {m' : ProcessManager} (clears : call.Clears m) (cleared : ∀ w, m.Cleared w → m'.Cleared w)
    (empty : m.current = none → m'.current = none) : call.Clears m' := by
  cases call with
  | pauseStopping session w => exact cleared w clears
  | resumeStopping session w => exact cleared w clears
  | stopStopping session input w => exact cleared w clears
  | stopRead session input => exact fun paused => empty (clears paused)
  | pauseRead => trivial
  | resumeRead => trivial
  | resumeProbing => trivial
  | resumeCapturing => trivial
  | stopReturning => trivial

theorem clears_stop (clears : call.Clears m) : call.Clears m.stop.1 := by
  refine clears_of clears ?_ stop_empty
  intro w before
  exact before.stop

theorem tracked_givesUp {deadline : Nat} (tracked : Tracked ⟨row, m, .probing deadline, holder⟩) :
    Tracked ⟨row, m.stop.1, .stopping m.stop.2, holder⟩ := by
  refine tracked_began (tracked.present nofun) ⟨nofun, nofun⟩ ?_ ?_ ?_ ?_ ?_
  · exact tracked.hasRead
  · exact fun call held => clears_stop (tracked.clears call held)
  · exact stop_idle tracked.idle
  · exact stop_killed tracked.killed
  · intro session there active
    have before := tracked.live session there active
    constructor
    · exact before.kind
    · exact before.stoppedAt
    · exact stop_handlers before.handlers
    · exact fun paused unspawned => stop_empty (before.paused paused unspawned)
    · exact fun no => absurd trivial no
    · exact fun no => absurd trivial no

theorem tracked_failed {m' : ProcessManager} {starter' : StartStage} {errorMessage : String}
    (tracked : Tracked ⟨row, m, starter, holder⟩)
    (alone : ¬ ∃ call ∈ holder, call.Suspends)
    (began : starter ≠ .absent ∧ starter' ≠ .absent ∧ starter' ≠ .created)
    (same : ∀ (i : Nat) (q : ProcEntry), m'.procs[i]? = some q → ∃ p, m.procs[i]? = some p ∧
      q.state = p.state ∧ q.killed = p.killed ∧ q.awaited = p.awaited ∧
      (p.state = .running → q.markFailed = p.markFailed))
    (clears : ∀ call, holder = some call → call.Clears m') :
    Tracked ⟨row.map fun session => session.fail now errorMessage, m', starter', holder⟩ := by
  have present : (row.map fun session => session.fail now errorMessage) ≠ none :=
    fun missing => tracked.present began.1 (Option.map_eq_none_iff.mp missing)
  refine tracked_began present began.2 ?_ ?_ ?_ ?_ ?_
  · intro call held
    have read := tracked.hasRead call held
    dsimp only at held read ⊢
    cases call with
    | stopRead => exact fun missing => read (Option.map_eq_none_iff.mp missing)
    | stopStopping => exact fun missing => read (Option.map_eq_none_iff.mp missing)
    | stopReturning => exact fun missing => read (Option.map_eq_none_iff.mp missing)
    | _ => exact absurd ⟨_, held, trivial⟩ alone
  · exact clears
  · intro i q found running
    obtain ⟨p, old, state, -, -, handler⟩ := same i q found
    have was_running := state.symm.trans running
    exact (handler was_running).trans (tracked.idle i p old was_running)
  · intro i q found killed
    obtain ⟨p, old, -, was_killed, awaited, -⟩ := same i q found
    exact awaited.trans (tracked.killed i p old (was_killed.symm.trans killed))
  · intro session there active
    obtain ⟨before, -, rfl⟩ := Option.map_eq_some_iff.mp there
    exact absurd active (fail_inactive before now errorMessage)

theorem nothing_awaited (live : Live ⟨row, m, starter, holder⟩ session) (going : ¬ starter.GivesUp)
    (waited : ∀ call, holder = some call → m.isOver call.waits = true) {i : Nat} {p : ProcEntry}
    (found : m.procs[i]? = some p) (running : p.state = .running) : p.awaited = false := by
  refine Bool.eq_false_iff.mpr fun awaited => ?_
  obtain ⟨-, call, held, waits⟩ := live.awaited going i p found running awaited
  have ended := waited call held
  rw [waits] at ended
  exact absurd running (of_decide_eq_true ended p found)

theorem live_moves {row' : Option RecordingSession} {session' : RecordingSession}
    {holder' : Option LockedCall} (live : Live ⟨row, m, starter, holder⟩ session)
    (waited : ∀ call, holder = some call → m.isOver call.waits = true)
    (kind : session'.status = .recording ∨ session'.status = .paused)
    (stoppedAt : session'.stoppedAt = none)
    (paused : session'.status = .paused → (∀ call, holder' = some call → ¬ call.Spawned) →
      m.current = none) : Live ⟨row', m, starter, holder'⟩ session' where
  kind := kind
  stoppedAt := stoppedAt
  handlers := live.handlers
  paused := paused
  loose := live.loose
  awaited := by
    intro going i p found running awaited
    rw [nothing_awaited live going waited found running] at awaited
    cases awaited

theorem live_stops (live : Live ⟨row, m, starter, holder⟩ session)
    (waited : ∀ call, holder = some call → m.isOver call.waits = true) (waits : call.waits = m.stop.2)
    (paused : session.status = .paused → ¬ call.Spawned → m.current = none) :
    Live ⟨row, m.stop.1, starter, some call⟩ session where
  kind := live.kind
  stoppedAt := live.stoppedAt
  handlers := stop_handlers live.handlers
  paused := fun is_paused unspawned => stop_empty (paused is_paused (unspawned call rfl))
  loose := by
    intro going i q found loose
    obtain ⟨p, old, marked⟩ := stop_found found
    obtain ⟨was_loose, away⟩ := marked.loose loose
    exact absurd (live.loose going i p old was_loose) away
  awaited := by
    intro going i q found running awaited
    obtain ⟨p, old, marked⟩ := stop_found found
    rcases marked.awaits awaited with before | now_waits
    · have never := nothing_awaited live going waited old (marked.state.symm.trans running)
      rw [never] at before
      cases before
    · exact ⟨stop_exit now_waits, call, rfl, waits.trans now_waits⟩

theorem stop_no_loose (live : Live ⟨row, m, starter, holder⟩ session) (going : ¬ starter.GivesUp)
    {i : Nat} {q : ProcEntry} (found : m.stop.1.procs[i]? = some q) : ¬ q.Loose := by
  intro loose
  obtain ⟨p, old, marked⟩ := stop_found found
  obtain ⟨was_loose, away⟩ := marked.loose loose
  exact away (live.loose going i p old was_loose)

theorem holder_began (tracked : Tracked ⟨row, m, starter, holder⟩) (held : holder ≠ none) :
    starter ≠ .absent ∧ starter ≠ .created := by
  constructor
  · intro absent
    exact held (tracked.untouched (Or.inl absent)).2
  · intro created
    exact held (tracked.untouched (Or.inr created)).2

theorem tracked_moves {row' : Option RecordingSession} {holder' : Option LockedCall}
    (tracked : Tracked ⟨row, m, starter, holder⟩)
    (began : starter ≠ .absent ∧ starter ≠ .created)
    (waited : ∀ call, holder = some call → m.isOver call.waits = true)
    (rows : row' = none ↔ row = none)
    (hasRead : ∀ call, holder' = some call → call.HasRead row')
    (clears : ∀ call, holder' = some call → call.Clears m)
    (live : ∀ session', row' = some session' → session'.status.IsActive →
      ∃ session, row = some session ∧ session.status.IsActive ∧ session'.stoppedAt = session.stoppedAt ∧
        (session'.status = .recording ∨ session'.status = .paused) ∧
        (session'.status = .paused → (∀ call, holder' = some call → ¬ call.Spawned) →
          m.current = none)) : Tracked ⟨row', m, starter, holder'⟩ := by
  have present : row' ≠ none := fun missing => tracked.present began.1 (rows.mp missing)
  refine tracked_began present began hasRead clears tracked.idle tracked.killed ?_
  intro session' there active
  obtain ⟨session, old, was_active, stoppedAt, kind, paused⟩ := live session' there active
  have before := tracked.live session old was_active
  exact live_moves before waited kind (stoppedAt.trans before.stoppedAt) paused

theorem tracked_stops {call' : LockedCall} (tracked : Tracked ⟨row, m, starter, some call⟩)
    (waited : m.isOver call.waits = true) (waits : call'.waits = m.stop.2)
    (hasRead : call'.HasRead row) (clears : call'.Clears m.stop.1)
    (paused : ∀ session, row = some session → session.status.IsActive → session.status = .paused →
      ¬ call'.Spawned → m.current = none) :
    Tracked ⟨row, m.stop.1, starter, some call'⟩ := by
  obtain ⟨present, spawned⟩ := holder_began tracked (by simp)
  have over_all : ∀ held, some call = some held → m.isOver held.waits = true := by
    intro held same
    cases same
    exact waited
  refine tracked_began (tracked.present present) ⟨present, spawned⟩ ?_ ?_ ?_ ?_ ?_
  · intro held same
    cases same
    exact hasRead
  · intro held same
    cases same
    exact clears
  · exact stop_idle tracked.idle
  · exact stop_killed tracked.killed
  · intro session there active
    exact live_stops (tracked.live session there active) over_all waits (paused session there active)

theorem tracked_resumes (tracked : Tracked ⟨row, m, starter, some (.resumeRead session)⟩)
    (outPath : StoragePath) (deadline : Nat) :
    Tracked ⟨row, m.start outPath, starter, some (.resumeProbing session outPath deadline)⟩ := by
  obtain ⟨present, spawned⟩ := holder_began tracked (by simp)
  have read : row = some session ∧ session.status = .paused := tracked.hasRead _ rfl
  refine tracked_began (tracked.present present) ⟨present, spawned⟩ ?_ ?_ ?_ ?_ ?_
  · intro call same
    cases same
    exact read
  · intro call same
    cases same
    trivial
  · intro i p found running
    rcases start_found outPath found with old | ⟨-, rfl⟩
    · exact tracked.idle i p old running
    · rfl
  · intro i p found killed
    rcases start_found outPath found with old | ⟨-, rfl⟩
    · exact tracked.killed i p old killed
    · cases killed
  · intro other there active
    have before := tracked.live other there active
    obtain rfl : session = other := Option.some.inj (read.1.symm.trans there)
    have empty : m.current = none := by
      refine before.paused read.2 ?_
      intro call same
      cases same
      exact id
    have waited : ∀ call, some (LockedCall.resumeRead session) = some call →
        m.isOver call.waits = true := by
      intro call same
      cases same
      rfl
    constructor
    · exact before.kind
    · exact before.stoppedAt
    · intro i p found
      rcases start_found outPath found with old | ⟨-, rfl⟩
      · exact before.handlers i p old
      · exact ⟨nofun, nofun⟩
    · intro _ unspawned
      exact absurd trivial (unspawned _ rfl)
    · intro going i p found loose
      rcases start_found outPath found with old | ⟨rfl, -⟩
      · have place := before.loose going i p old loose
        dsimp only at place
        rw [empty] at place
        cases place
      · rfl
    · intro going i p found running awaited
      rcases start_found outPath found with old | ⟨-, rfl⟩
      · rw [nothing_awaited before going waited old running] at awaited
        cases awaited
      · cases awaited

theorem clears_change {f : ProcEntry → ProcEntry} (clears : call.Clears m) (i : Nat)
    (keeps : ∀ p, (f p).state = p.state ∧ (f p).awaited = p.awaited) :
    call.Clears (m.change i f) := by
  refine clears_of clears ?_ id
  intro w before
  exact before.change i keeps

theorem clears_exits (clears : call.Clears m) (i : Nat) (code : Bool) (errorMessage : String) :
    call.Clears (m.exits i code errorMessage) := by
  refine clears_of clears ?_ ?_
  · intro w before
    exact before.exits i code errorMessage
  · intro empty
    exact exits_empty empty i code errorMessage

theorem clears_empty (empty : m.current = none) (call : LockedCall) : call.Clears m := by
  cases call with
  | pauseStopping session w => exact .of_empty empty
  | resumeStopping session w => exact .of_empty empty
  | stopStopping session input w => exact .of_empty empty
  | stopRead session input => exact fun _ => empty
  | pauseRead => trivial
  | resumeRead => trivial
  | resumeProbing => trivial
  | resumeCapturing => trivial
  | stopReturning => trivial

theorem onExit_stopped (p : ProcEntry) (code : Bool) (errorMessage : String) :
    (p.onExit code errorMessage).state ≠ .running := by
  cases code <;> simp [ProcEntry.onExit]

theorem exits_place (live : Live ⟨row, m, starter, holder⟩ session) (going : ¬ starter.GivesUp)
    {i j : Nat} {code : Bool} {errorMessage : String} (running : ∀ p, m.procs[i]? = some p →
      p.state = .running) (other : i ≠ j) (place : m.current = some j) :
    (m.exits i code errorMessage).current = some j := by
  rcases exits_current m i code errorMessage with ⟨p, there, awaited, -⟩ | ⟨same, -⟩
  · have mine := (live.awaited going i p there (running p there) awaited).1
    exact absurd (Option.some.inj (mine.symm.trans place)) other
  · exact same.trans place

theorem found_began (tracked : Tracked ⟨row, m, starter, holder⟩) {i : Nat} {p : ProcEntry}
    (found : m.procs[i]? = some p) : starter ≠ .absent ∧ starter ≠ .created := by
  have empty : starter = .absent ∨ starter = .created → False := by
    intro no
    have nothing := (tracked.untouched no).1
    dsimp only at nothing
    subst nothing
    exact no_process found
  exact ⟨fun no => empty (Or.inl no), fun no => empty (Or.inr no)⟩

theorem tracked_exits (tracked : Tracked ⟨row, m, starter, holder⟩) {i : Nat}
    {first : ProcEntry} (found : m.procs[i]? = some first) (alive : first.state = .running)
    (code : Bool) (errorMessage : String) :
    Tracked ⟨row, m.exits i code errorMessage, starter, holder⟩ := by
  obtain ⟨present, spawned⟩ := found_began tracked found
  have running : ∀ p, m.procs[i]? = some p → p.state = .running := by
    intro p there
    rw [found] at there
    cases there
    exact alive
  refine tracked_began (tracked.present present) ⟨present, spawned⟩ ?_ ?_ ?_ ?_ ?_
  · exact tracked.hasRead
  · exact fun call held => clears_exits (tracked.clears call held) i code errorMessage
  · intro j q found running
    obtain ⟨p, old, ⟨-, rfl⟩ | ⟨-, rfl⟩⟩ := exits_found found
    · exact absurd running (onExit_stopped p code errorMessage)
    · exact tracked.idle j q old running
  · intro j q found killed
    obtain ⟨p, old, ⟨-, rfl⟩ | ⟨-, rfl⟩⟩ := exits_found found
    · exact tracked.killed j p old killed
    · exact tracked.killed j q old killed
  · intro session row active
    have before := tracked.live session row active
    constructor
    · exact before.kind
    · exact before.stoppedAt
    · intro j q found
      obtain ⟨p, old, ⟨-, rfl⟩ | ⟨-, rfl⟩⟩ := exits_found found
      · have kept := before.handlers j p old
        unfold ProcEntry.onExit
        by_cases stopping : p.stopping = true
        · simpa [stopping] using kept
        · simp [stopping]
      · exact before.handlers j q old
    · exact fun paused unspawned => exits_empty (before.paused paused unspawned) i code errorMessage
    · intro going j q found loose
      obtain ⟨p, old, ⟨-, rfl⟩ | ⟨other, rfl⟩⟩ := exits_found found
      · exact absurd loose.1 (onExit_stopped p code errorMessage)
      · exact exits_place before going running other (before.loose going j q old loose)
    · intro going j q found still awaited
      obtain ⟨p, old, ⟨-, rfl⟩ | ⟨other, rfl⟩⟩ := exits_found found
      · exact absurd still (onExit_stopped p code errorMessage)
      · obtain ⟨place, waiting⟩ := before.awaited going j q old still awaited
        exact ⟨exits_place before going running other place, waiting⟩

theorem tracked_change {i : Nat} {f : ProcEntry → ProcEntry} {p : ProcEntry}
    (tracked : Tracked ⟨row, m, starter, holder⟩) (found : m.procs[i]? = some p)
    (keeps : ∀ q, (f q).state = q.state ∧ (f q).awaited = q.awaited ∧ (f q).stopping = q.stopping ∧
      (f q).markFailed = q.markFailed)
    (killed : (f p).killed = true → p.awaited = true) :
    Tracked ⟨row, m.change i f, starter, holder⟩ := by
  obtain ⟨present, spawned⟩ := found_began tracked found
  refine tracked_began (tracked.present present) ⟨present, spawned⟩ ?_ ?_ ?_ ?_ ?_
  · exact tracked.hasRead
  · intro call held
    exact clears_change (tracked.clears call held) i fun q => ⟨(keeps q).1, (keeps q).2.1⟩
  · intro j q there running
    obtain ⟨r, old, ⟨-, rfl⟩ | ⟨-, rfl⟩⟩ := change_found there
    · exact (keeps r).2.2.2.trans (tracked.idle j r old ((keeps r).1.symm.trans running))
    · exact tracked.idle j q old running
  · intro j q there was_killed
    obtain ⟨r, old, ⟨rfl, rfl⟩ | ⟨-, rfl⟩⟩ := change_found there
    · rw [found] at old
      cases old
      exact (keeps p).2.1.trans (killed was_killed)
    · exact tracked.killed j q old was_killed
  · intro session row active
    have before := tracked.live session row active
    constructor
    · exact before.kind
    · exact before.stoppedAt
    · intro j q there
      obtain ⟨r, old, ⟨-, rfl⟩ | ⟨-, rfl⟩⟩ := change_found there
      · rw [(keeps r).2.2.2]
        exact before.handlers j r old
      · exact before.handlers j q old
    · exact before.paused
    · intro going j q there loose
      obtain ⟨r, old, ⟨-, rfl⟩ | ⟨-, rfl⟩⟩ := change_found there
      · exact before.loose going j r old
          ⟨(keeps r).1.symm.trans loose.1, (keeps r).2.2.1.symm.trans loose.2⟩
      · exact before.loose going j q old loose
    · intro going j q there running awaited
      obtain ⟨r, old, ⟨-, rfl⟩ | ⟨-, rfl⟩⟩ := change_found there
      · exact before.awaited going j r old ((keeps r).1.symm.trans running)
          ((keeps r).2.1.symm.trans awaited)
      · exact before.awaited going j q old running awaited

theorem tracked_forgets (tracked : Tracked ⟨row, m, starter, holder⟩) {i : Nat} {p : ProcEntry}
    (found : m.procs[i]? = some p) (pending : p.markFailed = .toDelete) :
    Tracked ⟨row, m.forget i, starter, holder⟩ := by
  obtain ⟨present, spawned⟩ := found_began tracked found
  refine tracked_began (tracked.present present) ⟨present, spawned⟩ ?_ ?_ ?_ ?_ ?_
  · exact tracked.hasRead
  · exact fun call held => clears_empty rfl call
  · intro j q there running
    obtain ⟨r, old, ⟨rfl, rfl⟩ | ⟨-, rfl⟩⟩ := change_found there
    · have idle := tracked.idle i r old running
      rw [found] at old
      cases old
      rw [pending] at idle
      cases idle
    · exact tracked.idle j q old running
  · intro j q there killed
    obtain ⟨r, old, ⟨rfl, rfl⟩ | ⟨-, rfl⟩⟩ := change_found there
    · exact tracked.killed i r old killed
    · exact tracked.killed j q old killed
  · intro session row active
    exact absurd pending ((tracked.live session row active).handlers i p found).1

end Steps

section Runs
variable {s u : RecordingState} {t : RecordingTurn} {session : RecordingSession} {now : Nat}

/-- The stage at which a request starts that the guard lets through. -/
def LockedRequest.opens (session : RecordingSession) : LockedRequest → LockedCall
  | .pauseVideo => .pauseRead session
  | .resumeVideo _ => .resumeRead session
  | .stopVideo input | .stopListed input => .stopRead session input

theorem begin_cases (s : RecordingState) (session : RecordingSession) (request : LockedRequest) :
    ∃ listed, (¬ request.Accepted session ∧ s.begin session request = { s with listed := listed }) ∨
      request.Accepted session ∧ s.begin session request =
        { s.hold (request.opens session) with failedResume := none, listed := listed } := by
  cases request with
  | pauseVideo =>
    refine ⟨s.listed, ?_⟩
    by_cases accepted : session.status = .recording
    · exact Or.inr ⟨accepted, if_pos accepted⟩
    · exact Or.inl ⟨accepted, if_neg accepted⟩
  | resumeVideo configured =>
    refine ⟨s.listed, ?_⟩
    by_cases accepted : session.status = .paused ∧ configured = true
    · exact Or.inr ⟨accepted, if_pos accepted⟩
    · exact Or.inl ⟨accepted, if_neg accepted⟩
  | stopVideo input =>
    refine ⟨s.listed, ?_⟩
    by_cases accepted : session.status.IsActive
    · exact Or.inr ⟨accepted, if_pos accepted⟩
    · exact Or.inl ⟨accepted, if_neg accepted⟩
  | stopListed input =>
    refine ⟨s.listed - 1, ?_⟩
    by_cases accepted : session.status.IsActive
    · exact Or.inr ⟨accepted, if_pos accepted⟩
    · exact Or.inl ⟨accepted, if_neg accepted⟩

theorem begin_free {request : LockedRequest} (ready : s.Ready ⟨now, .begin request⟩) :
    s.holder = none := by
  cases request with
  | stopListed input => exact ready.1
  | pauseVideo => exact ready
  | resumeVideo configured => exact ready
  | stopVideo input => exact ready

theorem finish_cases (s : RecordingState) (now : Nat) (session : RecordingSession) (input : StopInput)
    (w : Stopping) :
    s.finishStop now session input w = s.release ∨
      (s.finishStop now session input w = (s.update fun row => row.stopEmpty session w now).release) ∨
      ∃ file, s.finishStop now session input w =
        { (s.update fun row => row.finalize session input w now).hold .stopReturning with
          media := s.media ++ [file] } := by
  unfold RecordingState.finishStop
  cases session.resolveStopFile s.files input.concatSucceeds with
  | none => exact Or.inl rfl
  | some path =>
    cases looked : path.filter fun path => path.HasData s.files with
    | none =>
      exact Or.inr (Or.inl (by simp only [looked]))
    | some key =>
      exact Or.inr (Or.inr ⟨_, by simp only [looked]; rfl⟩)

theorem stopEmpty_inactive (row read : RecordingSession) (w : Stopping) (now : Nat) :
    ¬ (row.stopEmpty read w now).status.IsActive := by
  simp [RecordingSession.stopEmpty, RecordingStatus.IsActive]

theorem finalize_inactive (row read : RecordingSession) (input : StopInput) (w : Stopping) (now : Nat) :
    ¬ (row.finalize read input w now).status.IsActive := by
  simp [RecordingSession.finalize, RecordingStatus.IsActive]

theorem tracked_begin (tracked : Tracked s.core) (free : s.holder = none) (row : s.row = some session)
    (request : LockedRequest) (spaced : request.Accepted session → s.starter ≠ .created) :
    Tracked (s.begin session request).core := by
  obtain ⟨listed, ⟨-, refused⟩ | ⟨accepted, taken⟩⟩ := begin_cases s session request
  · rw [refused]
    exact tracked
  · rw [taken]
    have present : s.starter ≠ .absent := by
      intro absent
      have missing := tracked.started.mpr absent
      exact Option.some_ne_none session (row.symm.trans missing)
    have nobody : ∀ call, s.holder = some call → s.manager.isOver call.waits = true := by
      intro call held
      rw [free] at held
      cases held
    refine tracked_moves tracked ⟨present, spaced accepted⟩ nobody Iff.rfl ?_ ?_ ?_
    · intro call same
      cases same
      cases request with
      | pauseVideo => exact ⟨row, accepted⟩
      | resumeVideo configured => exact ⟨row, accepted.1⟩
      | stopVideo input =>
        intro missing
        exact Option.some_ne_none session (row.symm.trans missing)
      | stopListed input =>
        intro missing
        exact Option.some_ne_none session (row.symm.trans missing)
    · intro call same
      cases same
      have before : session.status.IsActive → Live s.core session :=
        fun active => tracked.live session row active
      have unspawned : ∀ call, s.core.holder = some call → ¬ call.Spawned := by
        intro call held
        rw [show s.core.holder = none from free] at held
        cases held
      cases request with
      | pauseVideo => trivial
      | resumeVideo configured => trivial
      | stopVideo input => exact fun paused => (before accepted).paused paused unspawned
      | stopListed input => exact fun paused => (before accepted).paused paused unspawned
    · intro session' row' active
      have live := tracked.live session' row' active
      refine ⟨session', row', active, rfl, live.kind, ?_⟩
      intro paused _
      refine live.paused paused ?_
      intro call held
      rw [show s.core.holder = none from free] at held
      cases held

theorem over_all {call : LockedCall} {m : ProcessManager} (waited : m.isOver call.waits = true) :
    ∀ held, some call = some held → m.isOver held.waits = true := by
  intro held same
  cases same
  exact waited

theorem tracked_ends {row' : Option RecordingSession} {call : LockedCall}
    (tracked : Tracked s.core) (held : s.holder = some call)
    (waited : s.manager.isOver call.waits = true) (rows : row' = none ↔ s.row = none)
    (live : ∀ session', row' = some session' → session'.status.IsActive →
      ∃ session, s.row = some session ∧ session.status.IsActive ∧
        session'.stoppedAt = session.stoppedAt ∧
        (session'.status = .recording ∨ session'.status = .paused) ∧
        (session'.status = .paused → s.manager.current = none)) :
    Tracked ⟨row', s.manager, s.starter, none⟩ := by
  have core : s.core = ⟨s.row, s.manager, s.starter, some call⟩ := by rw [← held]; rfl
  rw [core] at tracked
  refine tracked_moves tracked (holder_began tracked (by simp)) (over_all waited) rows ?_ ?_ ?_
  · intro call none_held
    cases none_held
  · intro call none_held
    cases none_held
  · intro session' there active
    obtain ⟨session, row, was, stoppedAt, kind, paused⟩ := live session' there active
    exact ⟨session, row, was, stoppedAt, kind, fun is_paused _ => paused is_paused⟩

theorem tracked_finish {input : StopInput} {w : Stopping} (tracked : Tracked s.core)
    (held : s.holder = some (.stopStopping session input w)) (waited : s.manager.isOver w = true) :
    Tracked (s.finishStop now session input w).core := by
  have cleared : s.manager.Cleared w := tracked.clears _ held
  have empty : s.manager.current = none := cleared.empty waited
  rcases finish_cases s now session input w with same | same | ⟨file, same⟩
  · rw [same]
    refine tracked_ends (s := s) tracked held waited Iff.rfl ?_
    intro session' row active
    exact ⟨session', row, active, rfl, (tracked.live session' row active).kind, fun _ => empty⟩
  · rw [same]
    refine tracked_ends (s := s) tracked held waited Option.map_eq_none_iff ?_
    intro session' row active
    obtain ⟨before, -, rfl⟩ := Option.map_eq_some_iff.mp row
    exact absurd active (stopEmpty_inactive before session w now)
  · rw [same]
    have core : s.core = ⟨s.row, s.manager, s.starter, some (.stopStopping session input w)⟩ := by
      rw [← held]
      rfl
    have read : s.row ≠ none := tracked.hasRead _ held
    rw [core] at tracked
    refine tracked_moves tracked (holder_began tracked (by simp)) (over_all waited)
      Option.map_eq_none_iff ?_ ?_ ?_
    · intro call same
      cases same
      exact fun missing => read (Option.map_eq_none_iff.mp missing)
    · intro call same
      cases same
      trivial
    · intro session' row active
      obtain ⟨before, -, rfl⟩ := Option.map_eq_some_iff.mp row
      exact absurd active (finalize_inactive before session input w now)

theorem tracked_probing {outPath : StoragePath} {deadline : Nat} (tracked : Tracked s.core)
    (held : s.holder = some (.resumeProbing session outPath deadline)) :
    Tracked (s.holderGoes now (.resumeProbing session outPath deadline)).core := by
  have core : s.core = ⟨s.row, s.manager, s.starter, some (.resumeProbing session outPath deadline)⟩ := by
    rw [← held]
    rfl
  have read : s.row = some session ∧ session.status = .paused := tracked.hasRead _ held
  have inside := core ▸ tracked
  simp only [RecordingState.holderGoes]
  cases s.manager.probeStart s.files outPath deadline now with
  | none => exact tracked
  | some result =>
    cases result with
    | capturing =>
      refine tracked_moves inside (holder_began inside (by simp)) (over_all rfl) Iff.rfl ?_ ?_ ?_
      · intro call same
        cases same
        exact read
      · intro call same
        cases same
        trivial
      · intro session' row active
        have live := inside.live session' row active
        exact ⟨session', row, active, rfl, live.kind, fun _ unspawned =>
          absurd trivial (unspawned _ rfl)⟩
    | exited =>
      refine tracked_stops inside rfl rfl read (stop_cleared s.manager) ?_
      exact fun _ _ _ _ unspawned => absurd trivial unspawned
    | noData =>
      refine tracked_stops inside rfl rfl read (stop_cleared s.manager) ?_
      exact fun _ _ _ _ unspawned => absurd trivial unspawned

theorem tracked_stopRead {input : StopInput} (tracked : Tracked s.core)
    (held : s.holder = some (.stopRead session input)) :
    Tracked (s.holderGoes now (.stopRead session input)).core := by
  have core : s.core = ⟨s.row, s.manager, s.starter, some (.stopRead session input)⟩ := by
    rw [← held]
    rfl
  have read : s.row ≠ none := tracked.hasRead _ held
  have cleared : session.status = .paused → s.manager.current = none := tracked.clears _ held
  have inside := core ▸ tracked
  simp only [RecordingState.holderGoes]
  split
  case isTrue paused =>
    refine tracked_moves inside (holder_began inside (by simp)) (over_all rfl) Iff.rfl ?_ ?_ ?_
    · intro call same
      cases same
      exact read
    · intro call same
      cases same
      exact cleared paused
    · intro session' row active
      have live := inside.live session' row active
      exact ⟨session', row, active, rfl, live.kind, fun _ _ => cleared paused⟩
  case isFalse going =>
    refine tracked_stops inside rfl rfl read (stop_cleared s.manager) ?_
    intro other row active paused _
    refine (inside.live other row active).paused paused ?_
    intro call same
    cases same
    exact id

theorem tracked_holder {call : LockedCall} (tracked : Tracked s.core) (held : s.holder = some call)
    (waited : s.manager.isOver call.waits = true) : Tracked (s.holderGoes now call).core := by
  have core : s.core = ⟨s.row, s.manager, s.starter, some call⟩ := by rw [← held]; rfl
  have read := tracked.hasRead _ held
  have cleared := tracked.clears _ held
  have inside : Tracked ⟨s.row, s.manager, s.starter, some call⟩ := core ▸ tracked
  cases call with
  | pauseRead session =>
    refine tracked_stops inside rfl rfl read (stop_cleared s.manager) ?_
    intro other row _ paused
    obtain rfl : session = other := Option.some.inj (read.1.symm.trans row)
    exact absurd (read.2.symm.trans paused) (by decide)
  | pauseStopping session w =>
    refine tracked_ends (s := s) tracked held waited Option.map_eq_none_iff ?_
    intro session' row active
    obtain ⟨before, there, rfl⟩ := Option.map_eq_some_iff.mp row
    obtain rfl : session = before := Option.some.inj (read.1.symm.trans there)
    exact ⟨session, there, Or.inr (Or.inl read.2), rfl, Or.inr rfl,
      fun _ => ProcessManager.Cleared.empty cleared waited⟩
  | resumeRead session => exact tracked_resumes inside session.segNew (now + startProbeMs)
  | resumeProbing session outPath deadline => exact tracked_probing tracked held
  | resumeCapturing session outPath =>
    refine tracked_ends (s := s) tracked held waited Option.map_eq_none_iff ?_
    intro session' row active
    obtain ⟨before, there, rfl⟩ := Option.map_eq_some_iff.mp row
    obtain rfl : session = before := Option.some.inj (read.1.symm.trans there)
    exact ⟨session, there, Or.inr (Or.inr read.2), rfl, Or.inl rfl, fun paused => by cases paused⟩
  | resumeStopping session w =>
    refine tracked_ends (s := s) tracked held waited Iff.rfl ?_
    intro session' row active
    exact ⟨session', row, active, rfl, (tracked.live session' row active).kind,
      fun _ => ProcessManager.Cleared.empty cleared waited⟩
  | stopRead session input => exact tracked_stopRead tracked held
  | stopStopping session input w => exact tracked_finish tracked held waited
  | stopReturning =>
    refine tracked_ends (s := s) tracked held waited Iff.rfl ?_
    intro session' row active
    have live := tracked.live session' row active
    refine ⟨session', row, active, rfl, live.kind, fun paused => live.paused paused ?_⟩
    intro call same
    rw [core] at same
    cases same
    exact id

/-- The ways `startVideo` can go on. -/
inductive StarterCase (s : RecordingState) (now : Nat) : RecordingState → Prop where
  | spawns (stage : s.starter = .created) : StarterCase s now
      { s with manager := s.manager.start .main, starter := .probing (now + startProbeMs) }
  | probes : StarterCase s now s
  | returns (deadline : Nat) (stage : s.starter = .probing deadline) :
      StarterCase s now { s with starter := .returned }
  | givesUp (deadline : Nat) (stage : s.starter = .probing deadline)
      (verdict : s.manager.probeStart s.files .main deadline now = some .noData) :
      StarterCase s now
        { s with manager := s.manager.stop.1, starter := .stopping s.manager.stop.2 }
  | fails (w : Stopping) (stage : s.starter = .stopping w) : StarterCase s now
      { s.update fun session => session.fail now "no video data received from camera" with
        starter := .returned }

theorem starter_cases (now : Nat) (going : s.starter ≠ .absent ∧ s.starter ≠ .returned) :
    StarterCase s now (s.starterGoes now) := by
  unfold RecordingState.starterGoes
  cases stage : s.starter with
  | absent => exact absurd stage going.1
  | returned => exact absurd stage going.2
  | created => exact .spawns stage
  | probing deadline =>
    cases verdict : s.manager.probeStart s.files .main deadline now with
    | none =>
      simp only [verdict]
      exact .probes
    | some result =>
      cases result with
      | exited =>
        simp only [verdict]
        exact .returns deadline stage
      | capturing =>
        simp only [verdict]
        exact .returns deadline stage
      | noData =>
        simp only [verdict]
        exact .givesUp deadline stage verdict
  | stopping w => exact .fails w stage

theorem tracked_starter (tracked : Tracked s.core)
    (going : s.starter ≠ .absent ∧ s.starter ≠ .returned)
    (spaced : s.starter.GivesUp → ¬ s.Suspending) : Tracked (s.starterGoes now).core := by
  have core : s.core = ⟨s.row, s.manager, s.starter, s.holder⟩ := rfl
  have how := starter_cases now going
  generalize s.starterGoes now = after at how
  cases how with
  | spawns stage =>
    rw [core, stage] at tracked
    exact tracked_spawn tracked .main (now + startProbeMs)
  | probes => exact tracked
  | returns deadline stage =>
    rw [core, stage] at tracked
    exact tracked_returned tracked
  | givesUp deadline stage verdict =>
    rw [core, stage] at tracked
    exact tracked_givesUp tracked
  | fails w stage =>
    rw [core, stage] at tracked
    rw [stage] at spaced
    refine tracked_failed tracked (spaced trivial) ⟨nofun, nofun, nofun⟩ ?_ tracked.clears
    intro i q found
    exact ⟨q, found, rfl, rfl, rfl, fun _ => rfl⟩

theorem tracked_markFailed {pid : Nat} {p : ProcEntry} (tracked : Tracked s.core)
    (found : s.manager.procs[pid]? = some p) (pending : p.markFailed.ToUpdate)
    (spaced : ¬ s.Suspending) (errorMessage : String) :
    Tracked ⟨s.row.map fun session => session.fail now errorMessage, s.manager.updated pid, s.starter,
      s.holder⟩ := by
  obtain ⟨present, spawned⟩ := found_began tracked found
  refine tracked_failed tracked spaced ⟨present, present, spawned⟩ ?_ ?_
  · intro i q there
    obtain ⟨r, old, ⟨rfl, rfl⟩ | ⟨-, rfl⟩⟩ := change_found there
    · refine ⟨r, old, rfl, rfl, rfl, ?_⟩
      intro running
      have idle := tracked.idle pid r old running
      rw [found] at old
      cases old
      exact absurd idle pending.1
    · exact ⟨q, old, rfl, rfl, rfl, fun _ => rfl⟩
  · intro call held
    exact clears_change (tracked.clears call held) pid fun _ => ⟨rfl, rfl⟩

theorem row_present (tracked : Tracked s.core) (present : s.starter ≠ .absent) :
    ∃ session, s.row = some session :=
  Option.ne_none_iff_exists'.mp fun missing => present (tracked.started.mp missing)

theorem tracked_step (tracked : Tracked s.core) (step : RecordingStep s t u) (spaced : s.Spaced t) :
    Tracked u.core := by
  obtain ⟨ready, rfl⟩ := step
  obtain ⟨now, action⟩ := t
  cases action with
  | startVideo =>
    have core : s.core = ⟨s.row, s.manager, s.starter, s.holder⟩ := rfl
    rw [core, show s.starter = .absent from ready] at tracked
    exact tracked_create tracked
  | starter => exact tracked_starter tracked ⟨ready.1, ready.2.1⟩ spaced
  | begin request =>
    simp only [RecordingState.after]
    cases row : s.row with
    | none => exact tracked
    | some session =>
      exact tracked_begin tracked (begin_free ready) row request fun accepted => spaced ⟨session, row, accepted⟩
  | holder =>
    obtain ⟨call, held, waited⟩ := ready
    simp only [RecordingState.after, Option.mem_def.mp held]
    exact tracked_holder tracked held waited
  | stopAllActiveForMeeting =>
    simp only [RecordingState.after]
    split
    · exact tracked
    · split <;> exact tracked
  | exits pid code errorMessage =>
    obtain ⟨p, found, running⟩ := ready
    exact tracked_exits tracked found running code errorMessage
  | kills pid =>
    obtain ⟨p, found, -, awaited⟩ := ready
    exact tracked_change tracked found (fun _ => ⟨rfl, rfl, rfl, rfl⟩) fun _ => awaited
  | data pid =>
    simp only [RecordingState.after]
    split <;> exact tracked
  | markFailed pid =>
    obtain ⟨p, found, pending⟩ := ready
    simp only [RecordingState.after, Option.mem_def.mp found]
    exact tracked_markFailed tracked found pending spaced p.markFailed.message
  | forgets pid =>
    obtain ⟨p, found, pending⟩ := ready
    exact tracked_forgets tracked found pending

end Runs
end Recording
