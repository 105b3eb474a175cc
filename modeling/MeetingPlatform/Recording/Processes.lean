import Mathlib.Tactic.Common

/- The ffmpeg processes of one recording session: what the process manager knows of them, and the
   exit handlers that are still to run. -/
namespace Recording

section Manager

inductive StoragePath where
  | main
  | segment (n : Nat)
  | final
  deriving DecidableEq, Repr

/-- A process that a signal has ended keeps its `exitCode` null. -/
inductive ProcState where
  | running | exited | signalled
  deriving DecidableEq, Repr

/-- How far `markFailed` has come for a process. -/
inductive MarkFailed where
  | idle
  | toUpdate (errorMessage : String)
  | toDelete
  | done
  deriving DecidableEq, Repr

/-- `awaited` is set while a `stop` listens for the exit, `killed` once its time is up. -/
structure ProcEntry where
  outPath : StoragePath
  state : ProcState
  killed : Bool
  stopping : Bool
  awaited : Bool
  markFailed : MarkFailed
  deriving DecidableEq, Repr

structure ProcessManager where
  procs : List ProcEntry
  current : Option Nat
  deriving DecidableEq, Repr

/-- What a `stop` that has been called waits for. `hung` waits for an event that has passed. -/
inductive Stopping where
  | orphan
  | finished
  | exit (pid : Nat)
  | hung
  deriving DecidableEq, Repr

def ProcessManager.empty : ProcessManager := ⟨[], none⟩

def ProcEntry.spawn (outPath : StoragePath) : ProcEntry :=
  ⟨outPath, .running, false, false, false, .idle⟩

variable (m : ProcessManager)

def ProcessManager.start (outPath : StoragePath) : ProcessManager :=
  ⟨m.procs ++ [.spawn outPath], some m.procs.length⟩

def ProcessManager.get : Option ProcEntry := m.current.bind fun pid => m.procs[pid]?

def ProcessManager.change (pid : Nat) (f : ProcEntry → ProcEntry) : ProcessManager :=
  { m with procs := m.procs.modify pid f }

def ProcessManager.delete : ProcessManager := { m with current := none }

def ProcessManager.markStopping : ProcessManager :=
  match m.current with
  | none => m
  | some pid => m.change pid fun p => { p with stopping := true }

def ProcessManager.stop : ProcessManager × Stopping :=
  match m.current, m.get with
  | some pid, some p =>
    if p.state = .exited ∨ p.killed = true then (m.markStopping.delete, .finished)
    else if p.state = .signalled then (m.markStopping, .hung)
    else (m.markStopping.change pid fun p => { p with awaited := true }, .exit pid)
  | _, _ => (m.delete, .orphan)

def ProcessManager.isOver : Stopping → Bool
  | .orphan | .finished => true
  | .exit pid => decide (∀ p ∈ m.procs[pid]?, p.state ≠ .running)
  | .hung => false

/-- The handlers that `start` and `stop` have put on the event. -/
def ProcEntry.onExit (code : Bool) (errorMessage : String) (p : ProcEntry) : ProcEntry :=
  { p with
    state := if code then .exited else .signalled
    markFailed := if p.stopping then p.markFailed else .toUpdate errorMessage }

def ProcessManager.exits (pid : Nat) (code : Bool) (errorMessage : String) : ProcessManager :=
  match m.procs[pid]? with
  | none => m
  | some p =>
    let ended := m.change pid (ProcEntry.onExit code errorMessage)
    if p.awaited then ended.delete else ended

/-- SIGKILL at the end of `STOP_TIMEOUT_MS`. -/
def ProcessManager.kill (pid : Nat) : ProcessManager := m.change pid fun p => { p with killed := true }

def ProcessManager.updated (pid : Nat) : ProcessManager :=
  m.change pid fun p => { p with markFailed := .toDelete }

/-- The `finally` of `markFailed`. -/
def ProcessManager.forget (pid : Nat) : ProcessManager :=
  (m.change pid fun p => { p with markFailed := .done }).delete

inductive ProbeResult where
  | capturing | exited | noData
  deriving DecidableEq, Repr

/-- One round of `probeStart`, over the files that hold data. -/
def ProcessManager.probeStart (files : List StoragePath) (outPath : StoragePath) (deadline now : Nat) :
    Option ProbeResult :=
  match m.get with
  | none => some .exited
  | some p =>
    if p.state = .exited then some .exited
    else if outPath ∈ files then some .capturing
    else if deadline ≤ now then some .noData
    else none

end Manager

section Facts
variable {m : ProcessManager} {i j : Nat} {p q : ProcEntry}

def ProcEntry.Loose (p : ProcEntry) : Prop := p.state = .running ∧ p.stopping = false

instance (p : ProcEntry) : Decidable p.Loose := inferInstanceAs (Decidable (_ ∧ _))

def MarkFailed.Idle : MarkFailed → Prop
  | .idle | .done => True
  | .toUpdate _ | .toDelete => False

instance : (h : MarkFailed) → Decidable h.Idle
  | .idle | .done => inferInstanceAs (Decidable True)
  | .toUpdate _ | .toDelete => inferInstanceAs (Decidable False)

def ProcessManager.Quiet (m : ProcessManager) : Prop := ∀ p ∈ m.procs, p.markFailed.Idle

instance (m : ProcessManager) : Decidable m.Quiet :=
  inferInstanceAs (Decidable (∀ p ∈ m.procs, p.markFailed.Idle))

theorem change_get (f : ProcEntry → ProcEntry) :
    (m.change i f).procs[j]? = if i = j then m.procs[j]?.map f else m.procs[j]? := by
  simp only [ProcessManager.change, List.getElem?_modify]
  split <;> simp

theorem change_found {f : ProcEntry → ProcEntry} (found : (m.change i f).procs[j]? = some q) :
    ∃ p, m.procs[j]? = some p ∧ (i = j ∧ q = f p ∨ i ≠ j ∧ q = p) := by
  rw [change_get] at found
  split at found
  case isTrue same =>
    obtain ⟨p, there, rfl⟩ := Option.map_eq_some_iff.mp found
    exact ⟨p, there, Or.inl ⟨same, rfl⟩⟩
  case isFalse other => exact ⟨q, found, Or.inr ⟨other, rfl⟩⟩

theorem start_found (outPath : StoragePath) (found : (m.start outPath).procs[j]? = some q) :
    m.procs[j]? = some q ∨ j = m.procs.length ∧ q = .spawn outPath := by
  simp only [ProcessManager.start] at found
  rw [List.getElem?_append] at found
  split at found
  · exact Or.inl found
  · rw [List.getElem?_singleton] at found
    split at found
    · cases found
      exact Or.inr ⟨by omega, rfl⟩
    · cases found

/-- What `stop` does to a process, before and after. -/
structure Marked (m : ProcessManager) (j : Nat) (p q : ProcEntry) : Prop where
  state : q.state = p.state
  markFailed : q.markFailed = p.markFailed
  killed : q.killed = p.killed
  keeps : p.stopping = true → q.stopping = true
  marks : m.current = some j → q.stopping = true
  awaited : p.awaited = true → q.awaited = true
  awaits : q.awaited = true → p.awaited = true ∨ m.stop.2 = .exit j

theorem Marked.same (other : m.current ≠ some j) : Marked m j p p :=
  ⟨rfl, rfl, rfl, id, fun here => absurd here other, id, Or.inl⟩

theorem markStopping_found (found : m.markStopping.procs[j]? = some q) :
    ∃ p, m.procs[j]? = some p ∧
      (m.current = some j ∧ q = { p with stopping := true } ∨ m.current ≠ some j ∧ q = p) := by
  unfold ProcessManager.markStopping at found
  split at found
  case h_1 nobody => exact ⟨q, found, Or.inr ⟨by simp [nobody], rfl⟩⟩
  case h_2 pid here =>
    obtain ⟨p, there, changed⟩ := change_found found
    refine ⟨p, there, ?_⟩
    rcases changed with ⟨rfl, rfl⟩ | ⟨other, rfl⟩
    · exact Or.inl ⟨here, rfl⟩
    · exact Or.inr ⟨fun same => other (Option.some.inj (here.symm.trans same)), rfl⟩

inductive StopCase (m : ProcessManager) : ProcessManager × Stopping → Prop where
  | orphan (missing : m.get = none) : StopCase m (m.delete, .orphan)
  | finished (pid : Nat) (p : ProcEntry) (here : m.current = some pid) (there : m.procs[pid]? = some p)
      (ended : p.state = .exited ∨ p.killed = true) : StopCase m (m.markStopping.delete, .finished)
  | hung (pid : Nat) (p : ProcEntry) (here : m.current = some pid) (there : m.procs[pid]? = some p)
      (signalled : p.state = .signalled) : StopCase m (m.markStopping, .hung)
  | exit (pid : Nat) (p : ProcEntry) (here : m.current = some pid) (there : m.procs[pid]? = some p)
      (running : p.state = .running) (alive : p.killed = false) :
      StopCase m (m.markStopping.change pid fun p => { p with awaited := true }, .exit pid)

theorem stop_cases (m : ProcessManager) : StopCase m m.stop := by
  cases here : m.current with
  | none =>
    have missing : m.get = none := by simp [ProcessManager.get, here]
    simp only [ProcessManager.stop, here]
    exact .orphan missing
  | some pid =>
    cases there : m.procs[pid]? with
    | none =>
      have missing : m.get = none := by simp [ProcessManager.get, here, there]
      simp only [ProcessManager.stop, here, missing]
      exact .orphan missing
    | some p =>
      have found : m.get = some p := by simp [ProcessManager.get, here, there]
      simp only [ProcessManager.stop, here, found]
      split
      case isTrue ended => exact .finished pid p here there ended
      case isFalse alive =>
        rw [not_or] at alive
        cases state : p.state with
        | running =>
          simp only [if_neg (by decide : ¬ ProcState.running = .signalled)]
          exact .exit pid p here there state (Bool.eq_false_iff.mpr alive.2)
        | exited => exact absurd state alive.1
        | signalled =>
          simp only [if_true]
          exact .hung pid p here there state

theorem not_current (missing : m.get = none) (there : m.procs[j]? = some p) : m.current ≠ some j := by
  intro here
  simp [ProcessManager.get, here, there] at missing

theorem stop_found (found : m.stop.1.procs[j]? = some q) :
    ∃ p, m.procs[j]? = some p ∧ Marked m j p q := by
  have how := stop_cases m
  obtain ⟨after, w, done⟩ : ∃ after w, m.stop = (after, w) := ⟨_, _, rfl⟩
  rw [done] at found how
  cases how with
  | orphan missing => exact ⟨q, found, .same (not_current missing found)⟩
  | finished pid first here there ended =>
    obtain ⟨p, old, ⟨mine, rfl⟩ | ⟨other, rfl⟩⟩ := markStopping_found found
    · exact ⟨p, old, rfl, rfl, rfl, fun _ => rfl, fun _ => rfl, id, Or.inl⟩
    · exact ⟨q, old, .same other⟩
  | hung pid first here there signalled =>
    obtain ⟨p, old, ⟨mine, rfl⟩ | ⟨other, rfl⟩⟩ := markStopping_found found
    · exact ⟨p, old, rfl, rfl, rfl, fun _ => rfl, fun _ => rfl, id, Or.inl⟩
    · exact ⟨q, old, .same other⟩
  | exit pid first here there running alive =>
    obtain ⟨r, marked, changed⟩ := change_found found
    obtain ⟨p, old, ⟨mine, rfl⟩ | ⟨other, rfl⟩⟩ := markStopping_found marked
    · rcases changed with ⟨rfl, rfl⟩ | ⟨away, rfl⟩
      · have waits : m.stop.2 = .exit pid := by rw [done]
        exact ⟨p, old, rfl, rfl, rfl, fun _ => rfl, fun _ => rfl, fun _ => rfl, fun _ => Or.inr waits⟩
      · exact absurd (Option.some.inj (here.symm.trans mine)) away
    · rcases changed with ⟨rfl, rfl⟩ | ⟨away, rfl⟩
      · exact absurd here other
      · exact ⟨q, old, .same other⟩

theorem Marked.loose (marked : Marked m j p q) (loose : q.Loose) : p.Loose ∧ m.current ≠ some j := by
  refine ⟨⟨marked.state.symm.trans loose.1, ?_⟩, ?_⟩
  · refine Bool.eq_false_iff.mpr fun set => ?_
    exact Bool.false_ne_true (loose.2.symm.trans (marked.keeps set))
  · intro here
    exact Bool.false_ne_true (loose.2.symm.trans (marked.marks here))

/-- What holds while a `stop` waits: its process is being listened to, or the place is empty. -/
def ProcessManager.Cleared (m : ProcessManager) : Stopping → Prop
  | .orphan | .finished => m.current = none
  | .exit pid => (∃ p, m.procs[pid]? = some p ∧ p.state = .running ∧ p.awaited = true) ∨ m.current = none
  | .hung => True

theorem ProcessManager.Cleared.empty {w : Stopping} (cleared : m.Cleared w) (waited : m.isOver w = true) :
    m.current = none := by
  cases w with
  | orphan => exact cleared
  | finished => exact cleared
  | exit pid =>
    rcases cleared with ⟨p, there, running, -⟩ | empty
    · exact absurd running (of_decide_eq_true waited p there)
    · exact empty
  | hung => cases waited

theorem ProcessManager.Cleared.of_empty {w : Stopping} (empty : m.current = none) : m.Cleared w := by
  cases w with
  | orphan => exact empty
  | finished => exact empty
  | exit pid => exact Or.inr empty
  | hung => trivial

theorem stop_current (m : ProcessManager) : m.stop.1.current = none ∨ m.stop.1.current = m.current := by
  have how := stop_cases m
  generalize m.stop = done at how
  cases how with
  | orphan missing => exact Or.inl rfl
  | finished pid p here there ended => exact Or.inl rfl
  | hung pid p here there signalled =>
    right
    simp [ProcessManager.markStopping, here, ProcessManager.change]
  | exit pid p here there running alive =>
    right
    simp [ProcessManager.markStopping, here, ProcessManager.change]

theorem stop_exit {pid : Nat} (waits : m.stop.2 = .exit pid) : m.stop.1.current = some pid := by
  have how := stop_cases m
  obtain ⟨after, w, done⟩ : ∃ after w, m.stop = (after, w) := ⟨_, _, rfl⟩
  rw [done] at how waits ⊢
  cases how with
  | orphan missing => cases waits
  | finished first p here there ended => cases waits
  | hung first p here there signalled => cases waits
  | exit first p here there running alive =>
    cases waits
    simp [ProcessManager.markStopping, here, ProcessManager.change]

theorem stop_cleared (m : ProcessManager) : m.stop.1.Cleared m.stop.2 := by
  have how := stop_cases m
  generalize m.stop = done at how
  cases how with
  | orphan missing => rfl
  | finished pid p here there ended => rfl
  | hung pid p here there signalled => trivial
  | exit pid p here there running alive =>
    refine Or.inl ⟨{ p with stopping := true, awaited := true }, ?_, running, rfl⟩
    simp [ProcessManager.markStopping, here, change_get, there]

theorem exits_found {code : Bool} {errorMessage : String}
    (found : (m.exits i code errorMessage).procs[j]? = some q) :
    ∃ p, m.procs[j]? = some p ∧ (i = j ∧ q = p.onExit code errorMessage ∨ i ≠ j ∧ q = p) := by
  unfold ProcessManager.exits at found
  split at found
  case h_1 nobody =>
    refine ⟨q, found, Or.inr ⟨?_, rfl⟩⟩
    intro same
    rw [same, found] at nobody
    cases nobody
  case h_2 p there =>
    split at found
    · exact change_found found
    · exact change_found found

theorem exits_current (m : ProcessManager) (i : Nat) (code : Bool) (errorMessage : String) :
    (∃ p, m.procs[i]? = some p ∧ p.awaited = true ∧ (m.exits i code errorMessage).current = none) ∨
      (m.exits i code errorMessage).current = m.current ∧
        ∀ p, m.procs[i]? = some p → p.awaited = false := by
  unfold ProcessManager.exits
  split
  case h_1 nobody => exact Or.inr ⟨rfl, fun p there => by rw [nobody] at there; cases there⟩
  case h_2 p there =>
    split
    case isTrue awaited => exact Or.inl ⟨p, there, awaited, rfl⟩
    case isFalse alone =>
      refine Or.inr ⟨rfl, fun q found => ?_⟩
      rw [there] at found
      cases found
      exact Bool.eq_false_iff.mpr alone

theorem exits_empty (empty : m.current = none) (i : Nat) (code : Bool) (errorMessage : String) :
    (m.exits i code errorMessage).current = none := by
  rcases exits_current m i code errorMessage with ⟨-, -, -, gone⟩ | ⟨same, -⟩
  · exact gone
  · exact same.trans empty

theorem ProcessManager.Cleared.exits {w : Stopping} (cleared : m.Cleared w) (i : Nat) (code : Bool)
    (errorMessage : String) : (m.exits i code errorMessage).Cleared w := by
  rcases exits_current m i code errorMessage with ⟨-, -, -, empty⟩ | ⟨same, alone⟩
  · exact .of_empty empty
  · cases w with
    | orphan => exact same.trans cleared
    | finished => exact same.trans cleared
    | hung => trivial
    | exit pid =>
      rcases cleared with ⟨p, there, running, awaited⟩ | empty
      · by_cases mine : i = pid
        · rw [alone p (mine ▸ there)] at awaited
          cases awaited
        · refine Or.inl ⟨p, ?_, running, awaited⟩
          unfold ProcessManager.exits
          split
          · exact there
          · split
            · exact (change_get _).trans ((if_neg mine).trans there)
            · exact (change_get _).trans ((if_neg mine).trans there)
      · exact Or.inr (same.trans empty)

theorem markStopping_length (m : ProcessManager) : m.markStopping.procs.length = m.procs.length := by
  unfold ProcessManager.markStopping
  split
  · rfl
  · exact List.length_modify _ _ _

theorem stop_length (m : ProcessManager) : m.stop.1.procs.length = m.procs.length := by
  have how := stop_cases m
  generalize m.stop = done at how
  cases how with
  | orphan missing => rfl
  | finished pid p here there ended => exact markStopping_length m
  | hung pid p here there signalled => exact markStopping_length m
  | exit pid p here there running alive =>
    exact (List.length_modify _ _ _).trans (markStopping_length m)

theorem stop_kept (there : m.procs[j]? = some p) :
    ∃ q, m.stop.1.procs[j]? = some q ∧ Marked m j p q := by
  have inside : j < m.stop.1.procs.length := by
    rw [stop_length]
    exact (List.getElem?_eq_some_iff.mp there).1
  obtain ⟨r, old, marked⟩ := stop_found (List.getElem?_eq_getElem inside)
  rw [there] at old
  cases old
  exact ⟨_, List.getElem?_eq_getElem inside, marked⟩

theorem ProcessManager.Cleared.change {w : Stopping} {f : ProcEntry → ProcEntry}
    (cleared : m.Cleared w) (i : Nat)
    (keeps : ∀ p, (f p).state = p.state ∧ (f p).awaited = p.awaited) : (m.change i f).Cleared w := by
  cases w with
  | orphan => exact cleared
  | finished => exact cleared
  | hung => trivial
  | exit pid =>
    rcases cleared with ⟨p, there, running, awaited⟩ | empty
    · left
      rw [change_get, there]
      split
      · exact ⟨f p, rfl, (keeps p).1.trans running, (keeps p).2.trans awaited⟩
      · exact ⟨p, rfl, running, awaited⟩
    · exact Or.inr empty

theorem ProcessManager.Cleared.stop {w : Stopping} (cleared : m.Cleared w) : m.stop.1.Cleared w := by
  have place := stop_current m
  have empties : m.current = none → m.stop.1.current = none := by
    intro empty
    rcases place with gone | same
    · exact gone
    · exact same.trans empty
  cases w with
  | orphan => exact empties cleared
  | finished => exact empties cleared
  | hung => trivial
  | exit pid =>
    rcases cleared with ⟨p, there, running, awaited⟩ | empty
    · obtain ⟨q, found, marked⟩ := stop_kept there
      exact Or.inl ⟨q, found, marked.state.trans running, marked.awaited awaited⟩
    · exact Or.inr (empties empty)

end Facts
end Recording
