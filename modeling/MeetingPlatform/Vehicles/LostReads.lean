import MeetingPlatform.Lib.AbortedTransactions
import MeetingPlatform.Vehicles.PlateReads

/- The transaction in which a read is merged or stored, statement by statement. A failed merge is
   caught, and the read is to be stored instead. -/
namespace Anpr
open LabelledRuns AbortedTransactions

section Statements

/-- A call, and which statements of its merge fail. -/
structure VehicleAttempt where
  call : VehicleCall
  lookupFails : Bool
  updateFails : Bool

def VehicleLog.merge (s : VehicleLog) (r : VehicleRow) (call : VehicleCall) : VehicleLog :=
  ⟨s.rows.map fun q => if q.id = r.id then q.bump call else q,
    s.reads ++ [⟨call.evt.plateNumber, r.id, false⟩]⟩

def VehicleLog.store (s : VehicleLog) (call : VehicleCall) : VehicleLog :=
  ⟨s.rows ++ [s.insert call], s.reads ++ [⟨call.evt.plateNumber, s.rows.length, true⟩]⟩

variable (a : VehicleAttempt)

def lookUp : Program VehicleLog (Option VehicleRow) :=
  statement a.lookupFails fun s => (a.call.recent, s)

def mergeInto (recent : Option VehicleRow) : Program VehicleLog Bool :=
  match recent.filter fun r => isSimilarPlate a.call.evt.plateNumber r.plateNumber with
  | none => pure false
  | some r => do
    statement a.updateFails fun s => ((), s.merge r a.call)
    pure true

/-- `mergeIntoRecentEvent` with its `catch`, which stands for "nothing to merge into". -/
def tryMerge : Program VehicleLog Bool :=
  caught (do mergeInto a (← lookUp a)) (pure false)

def takeLock : Program VehicleLog Unit := statement false fun s => ((), s)

def insertRead : Program VehicleLog Unit :=
  caught (statement false fun s => ((), s.store a.call)) (pure ())

def insertUnlessMerged (merged : Bool) : Program VehicleLog Bool := do
  if merged then pure true
  else
    insertRead a
    pure false

def mergeOrInsert : Program VehicleLog Bool := do
  let merged ← (do takeLock; tryMerge a)
  insertUnlessMerged a merged

def handleRead (s : VehicleLog) (a : VehicleAttempt) : VehicleLog :=
  match a.call.deviceId with
  | none => s
  | some _ => (transaction (mergeOrInsert a) s).2

def AttemptStep (s : VehicleLog) (a : VehicleAttempt) (t : VehicleLog) : Prop :=
  Selects (candidates s a.call) a.call.recent ∧ t = handleRead s a

end Statements

section Failures
variable {s t : VehicleLog} {a : VehicleAttempt}

/-- The device is there, the lookup succeeds, and so does the update, if it comes to one. -/
def MergeSucceeds (_ : VehicleLog) (a : VehicleAttempt) : Prop :=
  a.call.deviceId.isSome = true ∧ a.lookupFails = false ∧
    ((mergeIntoRecentEvent a.call).isSome = true → a.updateFails = false)

theorem mergeInto_none (unlike : mergeIntoRecentEvent a.call = none) :
    mergeInto a a.call.recent = pure false := by
  unfold mergeIntoRecentEvent at unlike
  rw [mergeInto, unlike]

theorem mergeInto_some {r : VehicleRow} (found : mergeIntoRecentEvent a.call = some r) :
    mergeInto a a.call.recent =
      (do statement a.updateFails fun s => ((), s.merge r a.call); pure true) := by
  unfold mergeIntoRecentEvent at found
  rw [mergeInto, found]

theorem lookUp_then (looks : a.lookupFails = false) :
    (do mergeInto a (← lookUp a)) ⟨s, false⟩ = mergeInto a a.call.recent ⟨s, false⟩ := by
  refine bind_ok ?_
  rw [lookUp, looks]
  rfl

theorem locked {α : Type} (rest : Program VehicleLog α) :
    (do takeLock; rest) ⟨s, false⟩ = rest ⟨s, false⟩ := bind_ok rfl

theorem tryMerge_unlike (looks : a.lookupFails = false) (unlike : mergeIntoRecentEvent a.call = none) :
    tryMerge a ⟨s, false⟩ = (.ok false, ⟨s, false⟩) := by
  refine caught_ok ?_
  rw [lookUp_then looks, mergeInto_none unlike]
  rfl

theorem tryMerge_merges {r : VehicleRow} (looks : a.lookupFails = false) (updates : a.updateFails = false)
    (found : mergeIntoRecentEvent a.call = some r) :
    tryMerge a ⟨s, false⟩ = (.ok true, ⟨s.merge r a.call, false⟩) := by
  refine caught_ok ?_
  rw [lookUp_then looks, mergeInto_some found, updates]
  exact bind_ok rfl

theorem tryMerge_aborts (fails : ¬ (a.lookupFails = false ∧
    ((mergeIntoRecentEvent a.call).isSome = true → a.updateFails = false))) :
    tryMerge a ⟨s, false⟩ = (.ok false, ⟨s, true⟩) := by
  cases looks : a.lookupFails with
  | true =>
    have stops : lookUp a ⟨s, false⟩ = (.error (), ⟨s, true⟩) := by
      rw [lookUp, looks]
      exact statement_fails _ _
    exact caught_error (bind_error stops)
  | false =>
    have reached : ¬ ((mergeIntoRecentEvent a.call).isSome = true → a.updateFails = false) :=
      fun updates => fails ⟨looks, updates⟩
    obtain ⟨similar, stops⟩ := Classical.not_imp.mp reached
    obtain ⟨r, found⟩ := Option.isSome_iff_exists.mp similar
    have updates : a.updateFails = true := Bool.not_eq_false _ ▸ stops
    have aborted : mergeInto a a.call.recent ⟨s, false⟩ = (.error (), ⟨s, true⟩) := by
      rw [mergeInto_some found, updates]
      exact bind_error (statement_fails _ _)
    exact caught_error ((lookUp_then looks).trans aborted)

theorem insertUnlessMerged_powerless (merged : Bool) : Powerless (insertUnlessMerged a merged) := by
  cases merged with
  | true => exact powerless_pure true
  | false =>
    exact powerless_bind (powerless_caught (powerless_statement _ _) (powerless_pure ()))
      fun _ => powerless_pure false

theorem handleRead_loses (fails : ¬ MergeSucceeds s a) : handleRead s a = s := by
  unfold handleRead
  cases device : a.call.deviceId with
  | none => rfl
  | some id =>
    have aborts := tryMerge_aborts (s := s) fun both => fails ⟨by rw [device]; rfl, both⟩
    refine nothing_committed ?_ insertUnlessMerged_powerless
    rw [locked, aborts]

theorem handleRead_succeeds (succeeds : MergeSucceeds s a) : handleRead s a = onVehicleEvent s a.call := by
  obtain ⟨device, looks, updates⟩ := succeeds
  obtain ⟨id, device⟩ := Option.isSome_iff_exists.mp device
  unfold handleRead onVehicleEvent
  rw [device]
  dsimp only
  cases found : mergeIntoRecentEvent a.call with
  | none =>
    have ran : mergeOrInsert a ⟨s, false⟩ = (.ok false, ⟨s.store a.call, false⟩) := by
      refine (bind_ok ((locked _).trans (tryMerge_unlike looks found))).trans ?_
      exact bind_ok (caught_ok (statement_runs _ s))
    rw [committed ran]
    rfl
  | some r =>
    rw [found] at updates
    have ran : mergeOrInsert a ⟨s, false⟩ = (.ok true, ⟨s.merge r a.call, false⟩) :=
      (bind_ok ((locked _).trans (tryMerge_merges looks (updates rfl) found))).trans rfl
    rw [committed ran]
    rfl

/-- The read is in a stored row, the one it was merged into or one of its own. -/
def Recorded (s : VehicleLog) (a : VehicleAttempt) (t : VehicleLog) : Prop :=
  ∃ read, t.reads = s.reads ++ [read] ∧ read.plateNumber = a.call.evt.plateNumber ∧
    ∃ row ∈ t.rows, row.id = read.row ∧ a.call.evt.plateNumber ∈ row.rawReads

theorem bump_keeps_read (r : VehicleRow) (call : VehicleCall) :
    call.evt.plateNumber ∈ (r.bump call).rawReads := by
  rw [VehicleRow.bump]
  dsimp only
  rw [List.drop_append_of_le_length]
  · exact List.mem_append_right _ (List.mem_singleton.mpr rfl)
  · rw [List.length_append, List.length_singleton]
    omega

theorem recorded_of_handled (device : a.call.deviceId.isSome = true)
    (selected : Selects (candidates s a.call) a.call.recent) :
    Recorded s a (onVehicleEvent s a.call) := by
  rcases onVehicleEvent_cases s a.call with
    ⟨missing, -, -⟩ | ⟨-, r, found, -, -, same⟩ | ⟨-, -, -, same⟩
  · rw [missing] at device
    cases device
  · rw [found] at selected
    have there : r ∈ s.rows := (List.mem_filter.mp selected.1).1
    rw [same]
    refine ⟨_, rfl, rfl, r.bump a.call, ?_, bump_id r, bump_keeps_read r a.call⟩
    exact List.mem_map.mpr ⟨r, there, if_pos rfl⟩
  · rw [same]
    refine ⟨_, rfl, rfl, s.insert a.call, ?_, rfl, List.mem_singleton.mpr rfl⟩
    exact List.mem_append_right _ (List.mem_singleton.mpr rfl)

theorem recorded_iff (step : AttemptStep s a t) : Recorded s a t ↔ MergeSucceeds s a := by
  obtain ⟨selected, rfl⟩ := step
  constructor
  · rintro ⟨read, grown, -⟩
    by_contra fails
    rw [handleRead_loses fails] at grown
    exact absurd (congrArg List.length grown) (by simp)
  · intro succeeds
    rw [handleRead_succeeds succeeds]
    exact recorded_of_handled succeeds.1 selected

/-- No read of a run is lost exactly when no merge of it fails. -/
theorem no_read_lost_iff {moves : List (Move VehicleLog VehicleAttempt)}
    (run : Run AttemptStep VehicleLog.start moves s) :
    (∀ m ∈ moves, Recorded m.before m.label m.after) ↔ Heeds MergeSucceeds moves := by
  refine run_good_iff (fun _ => True) Recorded run trivial ?_ ?_
  · intro a l b _ _ _
    trivial
  · intro a l b _ step
    exact recorded_iff step

end Failures

section Runs

instance (s : VehicleLog) (a : VehicleAttempt) : Decidable (MergeSucceeds s a) :=
  inferInstanceAs (Decidable (_ ∧ _ ∧ (_ → _)))

theorem read_lost_after_update : ∃ moves s, Run AttemptStep VehicleLog.start moves s ∧
    ¬ ∀ m ∈ moves, Recorded m.before m.label m.after := by
  let first : VehicleAttempt := ⟨readAt 0 "30A12345" none, false, false⟩
  let second : VehicleAttempt := ⟨readAt 2000 "30A12346" (some (firstRow "30A12345")), false, true⟩
  have allowed : Heeds (fun s a => Selects (candidates s a.call) a.call.recent)
      (trail handleRead VehicleLog.start [first, second]) := by
    decide +kernel
  refine ⟨_, _, run_trail allowed, ?_⟩
  intro kept
  obtain ⟨read, grown, -⟩ := kept _ (List.mem_of_getElem? (i := 1) rfl)
  have before : (handleRead VehicleLog.start first).reads = [⟨"30A12345", 0, true⟩] := by
    decide +kernel
  have after : (handleRead (handleRead VehicleLog.start first) second).reads =
      [⟨"30A12345", 0, true⟩] := by
    decide +kernel
  have both : [(⟨"30A12345", 0, true⟩ : VehicleRead)] = [⟨"30A12345", 0, true⟩] ++ [read] :=
    after.symm.trans (grown.trans (congrArg (· ++ [read]) before))
  exact absurd (congrArg List.length both) (by simp)

theorem no_read_lost_of_two : ∃ moves s, Run AttemptStep VehicleLog.start moves s ∧
    moves.length = 2 ∧ ∀ m ∈ moves, Recorded m.before m.label m.after := by
  let first : VehicleAttempt := ⟨readAt 0 "30A12345" none, false, true⟩
  let second : VehicleAttempt := ⟨readAt 2000 "30A12346" (some (firstRow "30A12345")), false, false⟩
  have allowed : Heeds (fun s a => Selects (candidates s a.call) a.call.recent)
      (trail handleRead VehicleLog.start [first, second]) := by
    decide +kernel
  have heeds : Heeds MergeSucceeds (trail handleRead VehicleLog.start [first, second]) := by
    decide +kernel
  have run := run_trail allowed
  exact ⟨_, _, run, rfl, (no_read_lost_iff run).mpr heeds⟩

end Runs
end Anpr
