import Mathlib.Data.List.Sort
import Mathlib.Tactic.Common

/- The gate log and the pairing of its leave rows with enter rows, each transaction on its own. -/
namespace Gates

section Rows

inductive GateDirection where
  | enter | leave
  deriving DecidableEq, Repr

/-- A row of `gate_access_logs`. Instants are milliseconds. -/
structure GateAccessLog where
  id : Nat
  userId : Option Nat
  direction : GateDirection
  accessTime : Nat
  pairedLogId : Option Nat
  durationSeconds : Option Nat
  deriving DecidableEq, Repr

structure WriteGateLogInput where
  userId : Option Nat
  direction : GateDirection
  accessTime : Nat
  deriving DecidableEq, Repr

structure PairingConfig where
  windowH : Nat
  bufferH : Nat
  deriving DecidableEq, Repr

def PairingConfig.default : PairingConfig := ⟨24, 1⟩

def batch : Nat := 300
def msPerHour : Nat := 3600000

def PairingConfig.window (cfg : PairingConfig) : Nat := cfg.windowH * msPerHour
def PairingConfig.scan (cfg : PairingConfig) : Nat := (cfg.windowH + cfg.bufferH) * msPerHour

inductive PairOutcome where
  | paired | skipped
  deriving DecidableEq, Repr

structure PairBatchResult where
  scanned : Nat
  paired : Nat
  skipped : Nat
  deriving DecidableEq, Repr

/-- Postgres 23505 on `UQ_gate_logs_paired`. -/
inductive UniqueViolation where
  | pairedLogId
  deriving DecidableEq, Repr

def WriteGateLogInput.row (input : WriteGateLogInput) (id : Nat) : GateAccessLog where
  id := id
  userId := input.userId
  direction := input.direction
  accessTime := input.accessTime
  pairedLogId := none
  durationSeconds := none

end Rows

section Statements
variable (cfg : PairingConfig) (logs : List GateAccessLog)

/-- An id is drawn at random; where the table has it already the insertion fails. -/
def writeGateLog (id : Nat) (input : WriteGateLogInput) : List GateAccessLog :=
  if ∀ r ∈ logs, r.id ≠ id then logs ++ [input.row id] else logs

def IsUnpairedLeave (id : Nat) (r : GateAccessLog) : Prop :=
  r.id = id ∧ r.direction = .leave ∧ r.pairedLogId = none

instance (id : Nat) (r : GateAccessLog) : Decidable (IsUnpairedLeave id r) :=
  inferInstanceAs (Decidable (_ ∧ _ ∧ _))

def unpairedLeave (id : Nat) : Option GateAccessLog :=
  logs.find? fun r => IsUnpairedLeave id r

/-- The `WHERE` of the second select. A `user_id` that is NULL equals none. -/
def IsCandidate (leave r : GateAccessLog) : Prop :=
  r.direction = .enter ∧ r.pairedLogId = none ∧ r.userId.isSome = true ∧ r.userId = leave.userId ∧
    r.accessTime < leave.accessTime ∧ leave.accessTime ≤ r.accessTime + cfg.window

instance (leave r : GateAccessLog) : Decidable (IsCandidate cfg leave r) :=
  inferInstanceAs (Decidable (_ ∧ _ ∧ _ ∧ _ ∧ _ ∧ _))

def candidates (leave : GateAccessLog) : List GateAccessLog :=
  (logs.filter fun r => IsCandidate cfg leave r).insertionSort fun a b => b.accessTime ≤ a.accessTime

def durationSeconds (leave enter : GateAccessLog) : Nat :=
  (leave.accessTime - enter.accessTime) / 1000

def GateAccessLog.pairWith (r : GateAccessLog) (pairedLogId duration : Nat) : GateAccessLog :=
  { r with pairedLogId := some pairedLogId, durationSeconds := some duration }

def setPaired (id pairedLogId duration : Nat) : List GateAccessLog :=
  logs.map fun r => if r.id = id then r.pairWith pairedLogId duration else r

/-- Another row has this `paired_log_id`. -/
def Claimed (id pairedLogId : Nat) : Prop :=
  ∃ r ∈ logs, r.id ≠ id ∧ r.pairedLogId = some pairedLogId

instance (id pairedLogId : Nat) : Decidable (Claimed logs id pairedLogId) :=
  inferInstanceAs (Decidable (∃ r ∈ logs, r.id ≠ id ∧ r.pairedLogId = some pairedLogId))

def updatePaired (id pairedLogId duration : Nat) : Except UniqueViolation (List GateAccessLog) :=
  if Claimed logs id pairedLogId then .error .pairedLogId
  else .ok (setPaired logs id pairedLogId duration)

def pairOneWithManager (leaveId : Nat) : Except UniqueViolation (PairOutcome × List GateAccessLog) :=
  match unpairedLeave logs leaveId with
  | none => .ok (.skipped, logs)
  | some leave =>
    match (candidates cfg logs leave).head? with
    | none => .ok (.skipped, logs)
    | some enter => do
      let duration := durationSeconds leave enter
      let leaveSet ← updatePaired logs leave.id enter.id duration
      let bothSet ← updatePaired leaveSet enter.id leave.id duration
      return (.paired, bothSet)

/-- A violation of the index rolls the transaction back and counts as skipped. -/
def pairOneInOwnTx (leaveId : Nat) : PairOutcome × List GateAccessLog :=
  match pairOneWithManager cfg logs leaveId with
  | .ok done => done
  | .error .pairedLogId => (.skipped, logs)

def pairForLeaveLog (leaveId : Nat) : PairOutcome × List GateAccessLog :=
  pairOneInOwnTx cfg logs leaveId

def IsScanned (now : Nat) (r : GateAccessLog) : Prop :=
  r.direction = .leave ∧ r.pairedLogId = none ∧ r.userId.isSome = true ∧
    now ≤ r.accessTime + cfg.scan

instance (now : Nat) (r : GateAccessLog) : Decidable (IsScanned cfg now r) :=
  inferInstanceAs (Decidable (_ ∧ _ ∧ _ ∧ _))

def scannedLeaves (now : Nat) : List GateAccessLog :=
  (((logs.filter fun r => IsScanned cfg now r).insertionSort
    fun a b => a.accessTime ≤ b.accessTime).take batch)

def PairBatchResult.count (result : PairBatchResult) : PairOutcome → PairBatchResult
  | .paired => ⟨result.scanned + 1, result.paired + 1, result.skipped⟩
  | .skipped => ⟨result.scanned + 1, result.paired, result.skipped + 1⟩

/-- The loop of `pairBatch` over the ids of its select. -/
def pairEach : List Nat → PairBatchResult → List GateAccessLog → PairBatchResult × List GateAccessLog
  | [], result, logs => (result, logs)
  | id :: ids, result, logs =>
    let one := pairOneInOwnTx cfg logs id
    pairEach ids (result.count one.1) one.2

def pairBatch (now : Nat) : PairBatchResult × List GateAccessLog :=
  pairEach cfg ((scannedLeaves cfg logs now).map GateAccessLog.id) ⟨0, 0, 0⟩ logs

end Statements

section Matching
variable (cfg : PairingConfig)

structure Session (enter leave : GateAccessLog) : Prop where
  enters : enter.direction = .enter
  leaves : leave.direction = .leave
  identified : enter.userId.isSome = true
  same_user : enter.userId = leave.userId
  before : enter.accessTime < leave.accessTime
  within : leave.accessTime ≤ enter.accessTime + cfg.window
  enter_duration : enter.durationSeconds = some (durationSeconds leave enter)
  leave_duration : leave.durationSeconds = some (durationSeconds leave enter)

/-- The `paired_log_id` of a table are a matching of its rows. -/
structure Matching (logs : List GateAccessLog) : Prop where
  keyed : (logs.map GateAccessLog.id).Nodup
  symmetric : ∀ a ∈ logs, ∀ b ∈ logs, a.pairedLogId = some b.id ↔ b.pairedLogId = some a.id
  once : ∀ a ∈ logs, ∀ b ∈ logs, ∀ i, a.pairedLogId = some i → b.pairedLogId = some i → a = b
  joins : ∀ a ∈ logs, ∀ i, a.pairedLogId = some i →
    ∃ b ∈ logs, b.id = i ∧ (Session cfg a b ∨ Session cfg b a)

variable {cfg : PairingConfig} {logs : List GateAccessLog}

/-- Both rows of a pair, as the transaction leaves them. -/
def writePair (logs : List GateAccessLog) (leave enter : GateAccessLog) : List GateAccessLog :=
  setPaired (setPaired logs leave.id enter.id (durationSeconds leave enter)) enter.id leave.id
    (durationSeconds leave enter)

theorem mem_setPaired {id pairedLogId duration : Nat} {r : GateAccessLog} :
    r ∈ setPaired logs id pairedLogId duration ↔
      (∃ old ∈ logs, old.id = id ∧ r = old.pairWith pairedLogId duration) ∨ r ∈ logs ∧ r.id ≠ id := by
  simp only [setPaired, List.mem_map]
  constructor
  · intro changed
    obtain ⟨old, there, rfl⟩ := changed
    by_cases same : old.id = id
    · exact Or.inl ⟨old, there, same, by simp [same]⟩
    · exact Or.inr (by simpa [same] using there)
  · intro found
    rcases found with ⟨old, there, same, rfl⟩ | ⟨there, other⟩
    · exact ⟨old, there, by simp [same]⟩
    · exact ⟨r, there, by simp [other]⟩

theorem setPaired_ids (logs : List GateAccessLog) (id pairedLogId duration : Nat) :
    (setPaired logs id pairedLogId duration).map GateAccessLog.id = logs.map GateAccessLog.id := by
  simp only [setPaired, List.map_map]
  apply List.map_congr_left
  intro r there
  by_cases same : r.id = id <;> simp [same, GateAccessLog.pairWith]

theorem writePair_ids (logs : List GateAccessLog) (leave enter : GateAccessLog) :
    (writePair logs leave enter).map GateAccessLog.id = logs.map GateAccessLog.id := by
  rw [writePair, setPaired_ids, setPaired_ids]

theorem row_unique (keyed : (logs.map GateAccessLog.id).Nodup) {a b : GateAccessLog}
    (ha : a ∈ logs) (hb : b ∈ logs) (same : a.id = b.id) : a = b :=
  List.inj_on_of_nodup_map keyed ha hb same

theorem nobody_points_at (matching : Matching cfg logs) {a b : GateAccessLog} (ha : a ∈ logs)
    (hb : b ∈ logs) (unpaired : a.pairedLogId = none) : b.pairedLogId ≠ some a.id := by
  intro points
  have back := (matching.symmetric b hb a ha).mp points
  rw [unpaired] at back
  cases back

/-- A transaction about to pair: both rows are free, and the one is a candidate of the other. -/
structure Pairable (cfg : PairingConfig) (logs : List GateAccessLog) (leave enter : GateAccessLog) :
    Prop where
  leave_there : leave ∈ logs
  leaves : leave.direction = .leave
  leave_free : leave.pairedLogId = none
  enter_there : enter ∈ logs
  candidate : IsCandidate cfg leave enter

section Written
variable {leave enter : GateAccessLog}

theorem Pairable.ids_differ (keyed : (logs.map GateAccessLog.id).Nodup)
    (pairable : Pairable cfg logs leave enter) : leave.id ≠ enter.id := by
  intro same
  have rows := row_unique keyed pairable.leave_there pairable.enter_there same
  have turned := pairable.candidate.1
  rw [← rows, pairable.leaves] at turned
  cases turned

theorem mem_writePair (keyed : (logs.map GateAccessLog.id).Nodup)
    (pairable : Pairable cfg logs leave enter) {r : GateAccessLog} :
    r ∈ writePair logs leave enter ↔
      r = leave.pairWith enter.id (durationSeconds leave enter) ∨
        r = enter.pairWith leave.id (durationSeconds leave enter) ∨
        r ∈ logs ∧ r.id ≠ leave.id ∧ r.id ≠ enter.id := by
  have differ := pairable.ids_differ keyed
  rw [writePair, mem_setPaired]
  constructor
  · intro written
    rcases written with ⟨old, there, same, rfl⟩ | ⟨there, other⟩
    · rcases mem_setPaired.mp there with ⟨first, -, first_id, rfl⟩ | ⟨first, -⟩
      · exact absurd (first_id.symm.trans same) differ
      · rw [row_unique keyed first pairable.enter_there same]
        exact Or.inr (Or.inl rfl)
    · rcases mem_setPaired.mp there with ⟨first, first_there, first_id, rfl⟩ | ⟨first, away⟩
      · rw [row_unique keyed first_there pairable.leave_there first_id]
        exact Or.inl rfl
      · exact Or.inr (Or.inr ⟨first, away, other⟩)
  · intro listed
    rcases listed with rfl | rfl | ⟨there, away, other⟩
    · exact Or.inr ⟨mem_setPaired.mpr (Or.inl ⟨leave, pairable.leave_there, rfl, rfl⟩), differ⟩
    · have kept : enter ∈ logs ∧ enter.id ≠ leave.id := ⟨pairable.enter_there, Ne.symm differ⟩
      exact Or.inl ⟨enter, mem_setPaired.mpr (Or.inr kept), rfl, rfl⟩
    · exact Or.inr ⟨mem_setPaired.mpr (Or.inr ⟨there, away⟩), other⟩

theorem Pairable.session (pairable : Pairable cfg logs leave enter) :
    Session cfg (enter.pairWith leave.id (durationSeconds leave enter))
      (leave.pairWith enter.id (durationSeconds leave enter)) := by
  obtain ⟨enters, -, identified, same_user, before, within⟩ := pairable.candidate
  exact ⟨enters, pairable.leaves, identified, same_user, before, within, rfl, rfl⟩

theorem matching_writePair (matching : Matching cfg logs) (pairable : Pairable cfg logs leave enter) :
    Matching cfg (writePair logs leave enter) := by
  have differ := pairable.ids_differ matching.keyed
  have rows : ∀ {r}, r ∈ writePair logs leave enter ↔ _ := mem_writePair matching.keyed pairable
  have no_leave : ∀ r ∈ logs, r.pairedLogId ≠ some leave.id := fun r there =>
    nobody_points_at matching pairable.leave_there there pairable.leave_free
  have no_enter : ∀ r ∈ logs, r.pairedLogId ≠ some enter.id := fun r there =>
    nobody_points_at matching pairable.enter_there there pairable.candidate.2.1
  constructor
  · rw [writePair_ids]
    exact matching.keyed
  · intro a ha b hb
    rcases rows.mp ha with rfl | rfl | ⟨old_a, away_a, other_a⟩ <;>
      rcases rows.mp hb with rfl | rfl | ⟨old_b, away_b, other_b⟩
    · exact Iff.rfl
    · simp [GateAccessLog.pairWith]
    · simp [GateAccessLog.pairWith, no_leave b old_b, Ne.symm other_b]
    · simp [GateAccessLog.pairWith]
    · exact Iff.rfl
    · simp [GateAccessLog.pairWith, no_enter b old_b, Ne.symm away_b]
    · simp [GateAccessLog.pairWith, no_leave a old_a, Ne.symm other_a]
    · simp [GateAccessLog.pairWith, no_enter a old_a, Ne.symm away_a]
    · exact matching.symmetric a old_a b old_b
  · intro a ha b hb i points_a points_b
    rcases rows.mp ha with rfl | rfl | ⟨old_a, -, -⟩ <;>
      rcases rows.mp hb with rfl | rfl | ⟨old_b, -, -⟩
    · rfl
    · exact absurd (Option.some.inj (points_b.trans points_a.symm)) differ
    · exact absurd (points_b.trans points_a.symm) (no_enter b old_b)
    · exact absurd (Option.some.inj (points_a.trans points_b.symm)) differ
    · rfl
    · exact absurd (points_b.trans points_a.symm) (no_leave b old_b)
    · exact absurd (points_a.trans points_b.symm) (no_enter a old_a)
    · exact absurd (points_a.trans points_b.symm) (no_leave a old_a)
    · exact matching.once a old_a b old_b i points_a points_b
  · intro a ha i points
    rcases rows.mp ha with rfl | rfl | ⟨old, -, -⟩
    · exact ⟨_, rows.mpr (Or.inr (Or.inl rfl)), Option.some.inj points, Or.inr pairable.session⟩
    · exact ⟨_, rows.mpr (Or.inl rfl), Option.some.inj points, Or.inl pairable.session⟩
    · obtain ⟨b, there, same, session⟩ := matching.joins a old i points
      refine ⟨b, rows.mpr (Or.inr (Or.inr ⟨there, ?_, ?_⟩)), same, session⟩
      · intro is_leave
        exact no_leave a old (points.trans (by rw [← same, is_leave]))
      · intro is_enter
        exact no_enter a old (points.trans (by rw [← same, is_enter]))

theorem matching_writeGateLog (matching : Matching cfg logs) (id : Nat) (input : WriteGateLogInput) :
    Matching cfg (writeGateLog logs id input) := by
  unfold writeGateLog
  split
  case isFalse => exact matching
  case isTrue fresh =>
    have unpointed : ∀ r ∈ logs, r.pairedLogId ≠ some id := by
      intro r there points
      obtain ⟨b, hb, same, -⟩ := matching.joins r there id points
      exact fresh b hb same
    have rows : ∀ {r}, r ∈ logs ++ [input.row id] ↔ r ∈ logs ∨ r = input.row id := by
      intro r
      rw [List.mem_append, List.mem_singleton]
    constructor
    · rw [List.map_append, List.nodup_append]
      refine ⟨matching.keyed, List.nodup_singleton _, ?_⟩
      intro i old j new same
      obtain ⟨r, there, rfl⟩ := List.mem_map.mp old
      exact fresh r there (same.trans (List.mem_singleton.mp new))
    · intro a ha b hb
      rcases rows.mp ha with old_a | rfl <;> rcases rows.mp hb with old_b | rfl
      · exact matching.symmetric a old_a b old_b
      · simp [WriteGateLogInput.row, unpointed a old_a]
      · simp [WriteGateLogInput.row, unpointed b old_b]
      · exact Iff.rfl
    · intro a ha b hb i points_a points_b
      rcases rows.mp ha with old_a | rfl <;> rcases rows.mp hb with old_b | rfl
      · exact matching.once a old_a b old_b i points_a points_b
      · cases points_b
      · cases points_a
      · rfl
    · intro a ha i points
      rcases rows.mp ha with old | rfl
      · obtain ⟨b, there, rest⟩ := matching.joins a old i points
        exact ⟨b, rows.mpr (Or.inl there), rest⟩
      · cases points

theorem matching_nil : Matching cfg [] where
  keyed := List.nodup_nil
  symmetric := fun _ there => absurd there List.not_mem_nil
  once := fun _ there => absurd there List.not_mem_nil
  joins := fun _ there => absurd there List.not_mem_nil

theorem unclaimed (matching : Matching cfg logs) (pairable : Pairable cfg logs leave enter) :
    ¬ Claimed logs leave.id enter.id := by
  intro claimed
  obtain ⟨r, there, -, points⟩ := claimed
  exact nobody_points_at matching pairable.enter_there there pairable.candidate.2.1 points

theorem unclaimed_then (matching : Matching cfg logs) (pairable : Pairable cfg logs leave enter) :
    ¬ Claimed (setPaired logs leave.id enter.id (durationSeconds leave enter)) enter.id leave.id := by
  intro claimed
  obtain ⟨r, there, -, points⟩ := claimed
  rcases mem_setPaired.mp there with ⟨old, -, -, rfl⟩ | ⟨old, -⟩
  · exact pairable.ids_differ matching.keyed (Option.some.inj points).symm
  · exact nobody_points_at matching pairable.leave_there old pairable.leave_free points

end Written
end Matching
end Gates
