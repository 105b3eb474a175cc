import MeetingPlatform.Lib.CallPool
import MeetingPlatform.Gates.GateLogs

/- Immediate and batch pairings that run at the same time, statement by statement: the rows a
   transaction holds `FOR UPDATE`, what it has written and not committed, and the index. -/
namespace Gates
open LabelledRuns CallPools

section Transactions

/-- `logs` are the committed rows, `locked` the ids held `FOR UPDATE`, and `writing` the entries
    of the index that are not committed. -/
structure GateStore where
  logs : List GateAccessLog
  locked : List Nat
  writing : List (Nat × Nat)
  deriving DecidableEq, Repr

def GateStore.empty : GateStore := ⟨[], [], []⟩

/-- The statement a transaction comes to next. `found` is what is left of the rows that the select
    read in its snapshot. -/
inductive PairingStage where
  | lockLeave (leaveId : Nat)
  | selectEnter (leave : GateAccessLog)
  | lockEnter (leave : GateAccessLog) (found : List GateAccessLog)
  | updateLeave (leave enter : GateAccessLog)
  | updateEnter (leave enter : GateAccessLog)
  | commit (leave enter : GateAccessLog)
  | close (held : List Nat)
  deriving DecidableEq, Repr

/-- `rest` are the leave rows that a batch still has to go through. -/
inductive GateCall where
  | write (id : Nat) (input : WriteGateLogInput)
  | scan
  | pair (stage : PairingStage) (rest : List Nat)
  deriving DecidableEq, Repr

inductive GateRequest where
  | writeGateLog (id : Nat) (input : WriteGateLogInput)
  | pairForLeaveLog (leaveId : Nat)
  | pairBatch
  deriving DecidableEq, Repr

inductive IndexAnswer where
  | accepts | refuses | waits
  deriving DecidableEq, Repr

def GateStore.index (store : GateStore) (id pairedLogId : Nat) : IndexAnswer :=
  if Claimed store.logs id pairedLogId then .refuses
  else if ∃ w ∈ store.writing, w.1 ≠ id ∧ w.2 = pairedLogId then .waits
  else .accepts

/-- `SKIP LOCKED`: a row that is held is passed over. -/
def GateStore.freeLeave (store : GateStore) (leaveId : Nat) : Option GateAccessLog :=
  store.logs.find? fun r => IsUnpairedLeave leaveId r ∧ r.id ∉ store.locked

def GateStore.freeEnter (store : GateStore) (cfg : PairingConfig) (leave : GateAccessLog) (id : Nat) :
    Option GateAccessLog :=
  store.logs.find? fun r => r.id = id ∧ IsCandidate cfg leave r ∧ r.id ∉ store.locked

def GateStore.lock (store : GateStore) (id : Nat) : GateStore :=
  { store with locked := id :: store.locked }

def GateStore.write (store : GateStore) (id pairedLogId : Nat) : GateStore :=
  { store with writing := (id, pairedLogId) :: store.writing }

def GateStore.release (store : GateStore) (held : List Nat) : GateStore :=
  { store with
    locked := store.locked.filter fun id => id ∉ held
    writing := store.writing.filter fun w => w.1 ∉ held }

def proceed : List Nat → Option GateCall
  | [] => none
  | id :: rest => some (.pair (.lockLeave id) rest)

variable (cfg : PairingConfig)

def PairingStage.act (rest : List Nat) (store : GateStore) :
    PairingStage → GateStore × Option GateCall
  | .lockLeave leaveId =>
    match store.freeLeave leaveId with
    | none => (store, proceed rest)
    | some leave => (store.lock leave.id, some (.pair (.selectEnter leave) rest))
  | .selectEnter leave =>
    (store, some (.pair (.lockEnter leave (candidates cfg store.logs leave)) rest))
  | .lockEnter leave [] => (store, some (.pair (.close [leave.id]) rest))
  | .lockEnter leave (r :: found) =>
    match store.freeEnter cfg leave r.id with
    | none => (store, some (.pair (.lockEnter leave found) rest))
    | some enter => (store.lock enter.id, some (.pair (.updateLeave leave enter) rest))
  | .updateLeave leave enter =>
    match store.index leave.id enter.id with
    | .waits => (store, some (.pair (.updateLeave leave enter) rest))
    | .refuses => (store, some (.pair (.close [leave.id, enter.id]) rest))
    | .accepts => (store.write leave.id enter.id, some (.pair (.updateEnter leave enter) rest))
  | .updateEnter leave enter =>
    match store.index enter.id leave.id with
    | .waits => (store, some (.pair (.updateEnter leave enter) rest))
    | .refuses => (store, some (.pair (.close [leave.id, enter.id]) rest))
    | .accepts => (store.write enter.id leave.id, some (.pair (.commit leave enter) rest))
  | .commit leave enter =>
    ({ store.release [leave.id, enter.id] with logs := writePair store.logs leave enter },
      proceed rest)
  | .close held => (store.release held, proceed rest)

def gateService : Service GateStore GateCall GateRequest where
  clock _ := 0
  admits _ _ := True
  enter _
    | .writeGateLog id input => .write id input
    | .pairForLeaveLog leaveId => .pair (.lockLeave leaveId) []
    | .pairBatch => .scan
  act now call store :=
    match call with
    | .write id input => ({ store with logs := writeGateLog store.logs id input }, none)
    | .scan => (store, proceed ((scannedLeaves cfg store.logs now).map GateAccessLog.id))
    | .pair stage rest => stage.act cfg rest store

end Transactions

section Locks
variable {cfg : PairingConfig} {store : GateStore}

def PairingStage.held : PairingStage → List Nat
  | .lockLeave _ => []
  | .selectEnter leave | .lockEnter leave _ => [leave.id]
  | .updateLeave leave enter | .updateEnter leave enter | .commit leave enter => [leave.id, enter.id]
  | .close held => held

def GateCall.held : GateCall → List Nat
  | .write _ _ | .scan => []
  | .pair stage _ => stage.held

/-- A leave row as the first select of a transaction has read and locked it. -/
structure Taken (store : GateStore) (leave : GateAccessLog) : Prop where
  there : leave ∈ store.logs
  leaves : leave.direction = .leave
  free : leave.pairedLogId = none
  locked : leave.id ∈ store.locked

structure BothTaken (cfg : PairingConfig) (store : GateStore) (leave enter : GateAccessLog) :
    Prop where
  pairable : Pairable cfg store.logs leave enter
  leave_locked : leave.id ∈ store.locked
  enter_locked : enter.id ∈ store.locked

def PairingStage.Fits (cfg : PairingConfig) (store : GateStore) : PairingStage → Prop
  | .lockLeave _ => True
  | .selectEnter leave | .lockEnter leave _ => Taken store leave
  | .updateLeave leave enter | .updateEnter leave enter | .commit leave enter =>
    BothTaken cfg store leave enter
  | .close held => ∀ id ∈ held, id ∈ store.locked

def GateCall.Fits (cfg : PairingConfig) (store : GateStore) : GateCall → Prop
  | .write _ _ | .scan => True
  | .pair stage _ => stage.Fits cfg store

theorem Taken.both {leave enter : GateAccessLog} (taken : Taken store leave)
    (there : enter ∈ store.logs) (candidate : IsCandidate cfg leave enter) :
    Pairable cfg store.logs leave enter :=
  ⟨taken.there, taken.leaves, taken.free, there, candidate⟩

theorem held_locked {c : GateCall} (fits : c.Fits cfg store) : ∀ id ∈ c.held, id ∈ store.locked := by
  intro id mine
  match c with
  | .write _ _ | .scan => cases mine
  | .pair (.lockLeave _) _ => cases mine
  | .pair (.selectEnter leave) _ | .pair (.lockEnter leave _) _ =>
    rw [List.mem_singleton.mp mine]
    exact Taken.locked fits
  | .pair (.updateLeave leave enter) _ | .pair (.updateEnter leave enter) _
  | .pair (.commit leave enter) _ =>
    rcases List.mem_cons.mp mine with rfl | second
    · exact BothTaken.leave_locked fits
    · rw [List.mem_singleton.mp second]
      exact BothTaken.enter_locked fits
  | .pair (.close held) _ => exact fits id mine

/-- What a transaction leaves alone: rows and locks other than those it holds. -/
structure Spares (held : List Nat) (before after : GateStore) : Prop where
  rows : ∀ r ∈ before.logs, r.id ∉ held → r ∈ after.logs
  locks : ∀ id ∈ before.locked, id ∉ held → id ∈ after.locked

theorem Spares.refl (held : List Nat) : Spares held store store :=
  ⟨fun _ there _ => there, fun _ there _ => there⟩

theorem spares_lock (held : List Nat) (id : Nat) : Spares held store (store.lock id) :=
  ⟨fun _ there _ => there, fun _ there _ => List.mem_cons_of_mem _ there⟩

theorem spares_release (held : List Nat) : Spares held store (store.release held) := by
  constructor
  · intro r there _
    exact there
  · intro id there apart
    simp only [GateStore.release, List.mem_filter, decide_eq_true_eq]
    exact ⟨there, apart⟩

theorem mem_writePair_old {logs : List GateAccessLog} {leave enter r : GateAccessLog} (there : r ∈ logs)
    (apart : r.id ∉ [leave.id, enter.id]) : r ∈ writePair logs leave enter := by
  simp only [List.mem_cons, List.not_mem_nil, or_false, not_or] at apart
  exact mem_setPaired.mpr (Or.inr ⟨mem_setPaired.mpr (Or.inr ⟨there, apart.1⟩), apart.2⟩)

theorem mem_writeGateLog_old {logs : List GateAccessLog} {r : GateAccessLog} (there : r ∈ logs)
    (id : Nat) (input : WriteGateLogInput) : r ∈ writeGateLog logs id input := by
  unfold writeGateLog
  split
  · exact List.mem_append_left _ there
  · exact there

theorem act_spares (now : Nat) (c : GateCall) :
    Spares c.held store ((gateService cfg).act now c store).1 := by
  match c with
  | .write id input => exact ⟨fun _ there _ => mem_writeGateLog_old there id input, fun _ there _ => there⟩
  | .scan => exact .refl _
  | .pair (.lockLeave leaveId) rest =>
    simp only [gateService, PairingStage.act]
    split
    · exact .refl _
    · exact spares_lock _ _
  | .pair (.selectEnter _) _ | .pair (.lockEnter _ []) _ => exact .refl _
  | .pair (.lockEnter leave (r :: found)) rest =>
    simp only [gateService, PairingStage.act]
    split
    · exact .refl _
    · exact spares_lock _ _
  | .pair (.updateLeave leave enter) rest | .pair (.updateEnter leave enter) rest =>
    simp only [gateService, PairingStage.act]
    split
    · exact .refl _
    · exact .refl _
    · exact ⟨fun _ there _ => there, fun _ there _ => there⟩
  | .pair (.commit leave enter) rest =>
    exact ⟨fun _ there apart => mem_writePair_old there apart, (spares_release _).locks⟩
  | .pair (.close held) rest => exact spares_release held

theorem taken_spared {held : List Nat} {after : GateStore} {leave : GateAccessLog}
    (taken : Taken store leave) (spares : Spares held store after) (apart : leave.id ∉ held) :
    Taken after leave where
  there := spares.rows _ taken.there apart
  leaves := taken.leaves
  free := taken.free
  locked := spares.locks _ taken.locked apart

theorem bothTaken_spared {held : List Nat} {after : GateStore} {leave enter : GateAccessLog}
    (taken : BothTaken cfg store leave enter) (spares : Spares held store after)
    (apart : ∀ id ∈ [leave.id, enter.id], id ∉ held) : BothTaken cfg after leave enter := by
  have leave_apart := apart _ (List.mem_cons.mpr (Or.inl rfl))
  have enter_apart := apart _ (List.mem_cons_of_mem _ (List.mem_singleton.mpr rfl))
  constructor
  · exact ⟨spares.rows _ taken.pairable.leave_there leave_apart, taken.pairable.leaves,
      taken.pairable.leave_free, spares.rows _ taken.pairable.enter_there enter_apart,
      taken.pairable.candidate⟩
  · exact spares.locks _ taken.leave_locked leave_apart
  · exact spares.locks _ taken.enter_locked enter_apart

theorem fits_spared {held : List Nat} {after : GateStore} {c : GateCall} (fits : c.Fits cfg store)
    (spares : Spares held store after) (apart : ∀ id ∈ c.held, id ∉ held) : c.Fits cfg after := by
  match c with
  | .write _ _ | .scan | .pair (.lockLeave _) _ => trivial
  | .pair (.selectEnter leave) _ | .pair (.lockEnter leave _) _ =>
    exact taken_spared fits spares (apart _ (List.mem_singleton.mpr rfl))
  | .pair (.updateLeave leave enter) _ | .pair (.updateEnter leave enter) _
  | .pair (.commit leave enter) _ => exact bothTaken_spared fits spares apart
  | .pair (.close ids) _ => exact fun id mine => spares.locks id (fits id mine) (apart id mine)

/-- What a call is after one of its accesses: it fits the store it left, and what it holds it held
    before or has found free. -/
structure Continues (cfg : PairingConfig) (store after : GateStore) (c rest : GateCall) : Prop where
  fits : rest.Fits cfg after
  holds : ∀ id ∈ rest.held, id ∈ c.held ∨ id ∉ store.locked

theorem proceeds {after : GateStore} {c next : GateCall} {rest : List Nat}
    (some_next : proceed rest = some next) : Continues cfg store after c next := by
  cases rest with
  | nil => cases some_next
  | cons id ids =>
    cases some_next
    exact ⟨trivial, fun _ mine => absurd mine List.not_mem_nil⟩

theorem continues_of {after : GateStore} {c next : GateCall} (fits : next.Fits cfg after)
    (same : next.held = c.held) : Continues cfg store after c next :=
  ⟨fits, fun _ mine => Or.inl (same ▸ mine)⟩

theorem freeLeave_taken {leaveId : Nat} {leave : GateAccessLog}
    (found : store.freeLeave leaveId = some leave) :
    Taken (store.lock leave.id) leave ∧ leave.id ∉ store.locked := by
  have there := List.mem_of_find?_eq_some found
  have holds := List.find?_some found
  simp only [decide_eq_true_eq] at holds
  obtain ⟨⟨-, leaves, free⟩, unlocked⟩ := holds
  exact ⟨⟨there, leaves, free, List.mem_cons_self⟩, unlocked⟩

theorem freeEnter_taken {leave enter : GateAccessLog} {id : Nat} (taken : Taken store leave)
    (found : store.freeEnter cfg leave id = some enter) :
    BothTaken cfg (store.lock enter.id) leave enter ∧ enter.id ∉ store.locked := by
  have there := List.mem_of_find?_eq_some found
  have holds := List.find?_some found
  simp only [decide_eq_true_eq] at holds
  obtain ⟨-, candidate, unlocked⟩ := holds
  have pairable : Pairable cfg store.logs leave enter := taken.both there candidate
  exact ⟨⟨pairable, List.mem_cons_of_mem _ taken.locked, List.mem_cons_self⟩, unlocked⟩

theorem both_close {leave enter : GateAccessLog} (taken : BothTaken cfg store leave enter) :
    ∀ id ∈ [leave.id, enter.id], id ∈ store.locked := by
  intro id mine
  rcases List.mem_cons.mp mine with rfl | second
  · exact taken.leave_locked
  · rw [List.mem_singleton.mp second]
    exact taken.enter_locked

theorem bothTaken_write {leave enter : GateAccessLog} (taken : BothTaken cfg store leave enter)
    (id pairedLogId : Nat) : BothTaken cfg (store.write id pairedLogId) leave enter :=
  ⟨taken.pairable, taken.leave_locked, taken.enter_locked⟩

theorem act_continues (now : Nat) {c next : GateCall} (fits : c.Fits cfg store)
    (more : ((gateService cfg).act now c store).2 = some next) :
    Continues cfg store ((gateService cfg).act now c store).1 c next := by
  match c with
  | .write id input => cases more
  | .scan => exact proceeds more
  | .pair (.lockLeave leaveId) rest =>
    simp only [gateService, PairingStage.act] at more ⊢
    cases found : store.freeLeave leaveId with
    | none =>
      rw [found] at more
      exact proceeds more
    | some leave =>
      rw [found] at more
      cases more
      obtain ⟨taken, unlocked⟩ := freeLeave_taken found
      exact ⟨taken, fun id mine => Or.inr (List.mem_singleton.mp mine ▸ unlocked)⟩
  | .pair (.selectEnter leave) rest =>
    cases more
    exact continues_of fits rfl
  | .pair (.lockEnter leave []) rest =>
    cases more
    refine continues_of ?_ rfl
    intro id mine
    rw [List.mem_singleton.mp mine]
    exact Taken.locked fits
  | .pair (.lockEnter leave (r :: found)) rest =>
    simp only [gateService, PairingStage.act] at more ⊢
    cases again : store.freeEnter cfg leave r.id with
    | none =>
      rw [again] at more
      cases more
      exact continues_of fits rfl
    | some enter =>
      rw [again] at more
      cases more
      obtain ⟨taken, unlocked⟩ := freeEnter_taken fits again
      refine ⟨taken, ?_⟩
      intro id mine
      rcases List.mem_cons.mp mine with rfl | second
      · exact Or.inl (List.mem_singleton.mpr rfl)
      · exact Or.inr (List.mem_singleton.mp second ▸ unlocked)
  | .pair (.updateLeave leave enter) rest | .pair (.updateEnter leave enter) rest =>
    simp only [gateService, PairingStage.act] at more ⊢
    -- the index lets the transaction wait, refuses the value or takes it
    split at more
    · cases more
      exact continues_of fits rfl
    · cases more
      exact continues_of (both_close fits) rfl
    · cases more
      exact continues_of (bothTaken_write fits _ _) rfl
  | .pair (.commit leave enter) rest => exact proceeds more
  | .pair (.close held) rest => exact proceeds more

end Locks

section Runs
variable {cfg : PairingConfig} {store : GateStore}

theorem act_matching (now : Nat) {c : GateCall} (matching : Matching cfg store.logs)
    (fits : c.Fits cfg store) : Matching cfg ((gateService cfg).act now c store).1.logs := by
  match c with
  | .write id input => exact matching_writeGateLog matching id input
  | .scan => exact matching
  | .pair (.lockLeave leaveId) rest =>
    simp only [gateService, PairingStage.act]
    split <;> exact matching
  | .pair (.selectEnter _) _ | .pair (.lockEnter _ []) _ => exact matching
  | .pair (.lockEnter leave (r :: found)) rest =>
    simp only [gateService, PairingStage.act]
    split <;> exact matching
  | .pair (.updateLeave leave enter) rest | .pair (.updateEnter leave enter) rest =>
    simp only [gateService, PairingStage.act]
    split <;> exact matching
  | .pair (.commit leave enter) rest => exact matching_writePair matching (BothTaken.pairable fits)
  | .pair (.close held) rest => exact matching

def Apart (c d : GateCall) : Prop := ∀ id ∈ c.held, id ∉ d.held

theorem gate_keeps (cfg : PairingConfig) :
    Keeps (gateService cfg) (fun store => Matching cfg store.logs) (fun store c => c.Fits cfg store)
      Apart fun _ _ _ => True where
  symm := by
    intro c d apart id theirs mine
    exact apart id mine theirs
  enters := by
    intro store r _ _
    cases r <;> trivial
  alone := by
    intro store r d _ _ _ id mine
    cases r <;> cases mine
  inv := by
    intro store now c matching fits _ _
    exact act_matching now matching fits
  next := by
    intro store now c next _ fits _ _ more
    exact (act_continues now fits more).fits
  others := by
    intro store now c d _ _ fits apart _ _
    refine fits_spared fits (act_spares now c) ?_
    intro id theirs mine
    exact apart id mine theirs
  still_apart := by
    intro store now c next d _ fits other apart _ _ more id mine theirs
    rcases (act_continues now fits more).holds id mine with held | unlocked
    · exact apart id held theirs
    · exact unlocked (held_locked other id theirs)

variable {moves : List (Move (Pool GateStore GateCall) (Turn GateRequest))}
  {p : Pool GateStore GateCall}

/-- Whatever the interleaving, the committed rows are matched. -/
theorem pairs_match (run : Run (Step (gateService cfg)) (Pool.idle .empty) moves p) :
    ∀ q ∈ visited (Pool.idle .empty) moves, Matching cfg q.shared.logs := by
  have heeds : Heeds (Allows fun _ _ _ => True) moves := by
    intro m _
    cases m.label with
    | enter => trivial
    | act => exact fun _ _ => trivial
  intro q there
  exact (sound_visited (gate_keeps cfg) matching_nil run heeds q there).shared

instance (store : GateStore) (r : GateRequest) : Decidable ((gateService cfg).admits store r) :=
  isTrue trivial

def crossing : List (Turn GateRequest) :=
  [.enter 0 (.writeGateLog 1 ⟨some 7, .enter, 1000⟩), .act 0 0,
   .enter 0 (.writeGateLog 2 ⟨some 7, .enter, 2000⟩), .act 0 0,
   .enter 0 (.writeGateLog 3 ⟨some 7, .leave, 5000⟩), .act 0 0,
   .enter 0 (.writeGateLog 4 ⟨some 7, .leave, 6500⟩), .act 0 0,
   .enter 0 (.pairForLeaveLog 3), .enter 1 .pairBatch,
   .act 0 7000, .act 0 7000, .act 0 7000,
   .act 1 7000, .act 1 7000, .act 1 7000, .act 1 7000, .act 1 7000, .act 1 7000,
   .act 0 7000, .act 1 7000, .act 1 7000, .act 0 7000, .act 1 7000, .act 0 7000]

theorem crossing_matched :
    (crossing.foldl (Pool.after (gateService .default)) (Pool.idle .empty)).shared.logs =
        [⟨1, some 7, .enter, 1000, some 4, some 5⟩, ⟨2, some 7, .enter, 2000, some 3, some 3⟩,
         ⟨3, some 7, .leave, 5000, some 2, some 3⟩, ⟨4, some 7, .leave, 6500, some 1, some 5⟩] ∧
      ∃ moves, Run (Step (gateService .default)) (Pool.idle .empty) moves
          (crossing.foldl (Pool.after (gateService .default)) (Pool.idle .empty)) ∧
        ∀ q ∈ visited (Pool.idle .empty) moves, Matching .default q.shared.logs := by
  have follows : Follows (gateService .default) (fun _ _ _ => True) (Pool.idle .empty) crossing := by
    decide +kernel
  obtain ⟨moves, run, -⟩ := follows_run follows
  exact ⟨by decide +kernel, moves, run, pairs_match run⟩

end Runs
end Gates
