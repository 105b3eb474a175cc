import MeetingPlatform.Lib.Runs
import Mathlib.Data.List.Infix

/- Plates as the cameras at the gates read them. A read that resembles the latest one of its channel
   and direction is merged into that one's row; every other read gets a row of its own and is put
   to the control list. -/
namespace Anpr
open LabelledRuns

section Similarity

/-- One row of the table of distances. `diagonal :: above` is what is left of the row before. -/
def levenshteinRow (c : Char) : List Char → Nat → List Nat → Nat → List Nat
  | d :: b, diagonal, up :: above, left =>
    let here := min (min (up + 1) (left + 1)) (diagonal + if c = d then 0 else 1)
    here :: levenshteinRow c b up above here
  | _, _, _, _ => []

def levenshteinRows (b : List Char) : List Char → Nat → List Nat → List Nat
  | [], _, prev => prev
  | c :: a, i, diagonal :: above =>
    levenshteinRows b a (i + 1) ((i + 1) :: levenshteinRow c b diagonal above (i + 1))
  | _ :: _, _, [] => []

def levenshteinDistance (a b : String) : Nat :=
  if a.length = 0 then b.length
  else if b.length = 0 then a.length
  else (levenshteinRows b.toList a.toList 0 (List.range (b.length + 1))).getLastD 0

def maxAllowedDistance (minLen : Nat) : Nat :=
  if minLen ≤ 4 then 1 else if minLen ≤ 6 then 2 else 3

def isSimilarPlate (a b : String) : Bool :=
  if a = "" ∨ b = "" then false
  else if a = b then true
  else
    let shorter := if a.length ≤ b.length then a else b
    let longer := if a.length ≤ b.length then b else a
    if shorter.toList <:+: longer.toList then true
    else decide (levenshteinDistance a b ≤ maxAllowedDistance shorter.length)

example : isSimilarPlate "699" "30G699" = true ∧ isSimilarPlate "30A12345" "30A12878" = true ∧
    isSimilarPlate "30A12345" "51F67890" = false := by decide +kernel

end Similarity

section Events

inductive Direction where
  | enter | leave | seen
  deriving DecidableEq, Repr

def isWhiteSpace (c : Char) : Bool :=
  c.toNat ∈ [9, 10, 11, 12, 13, 32, 160, 5760, 8232, 8233, 8239, 8287, 12288, 65279] ||
    (8192 ≤ c.toNat && c.toNat ≤ 8202)

def trim (text : List Char) : List Char :=
  ((text.dropWhile isWhiteSpace).reverse.dropWhile isWhiteSpace).reverse

def normalizeVehicleDirection (action : Option String) : Direction :=
  match action with
  | none => .seen
  | some action =>
    let a := String.ofList ((trim action.toList).map Char.toLower)
    if a ∈ ["enter", "in", "entry", "1"] then .enter
    else if a ∈ ["leave", "out", "exit", "2"] then .leave
    else .seen

/-- `utc` is the instant that the text of the event denotes, if it denotes one. -/
structure VehicleEvent where
  channelId : Nat
  plateNumber : String
  eventAction : Option String
  utc : Option Int
  deriving DecidableEq, Repr

def parseUtc (utc : Option Int) (now : Int) : Int × Bool :=
  match utc with
  | none => (now, true)
  | some t => if (now - t).natAbs ≤ 60 * 60 * 1000 then (t, false) else (now, true)

structure VehicleRow where
  id : Nat
  channelId : Nat
  direction : Direction
  plateNumber : String
  rawReads : List String
  eventTime : Int
  createdAt : Int
  snapshotFileId : Option Nat
  deriving DecidableEq, Repr

/-- What became of a read: the row that it is in, and whether `evaluate` was called for it. -/
structure VehicleRead where
  plateNumber : String
  row : Nat
  evaluated : Bool
  deriving DecidableEq, Repr

structure VehicleLog where
  rows : List VehicleRow
  reads : List VehicleRead

/-- One call with what it finds: the clocks of the server and of the database, the device of the
    bridge, the stored picture, the row that is selected, and the plates on the control list. -/
structure VehicleCall where
  evt : VehicleEvent
  now : Int
  dbNow : Int
  deviceId : Option Nat
  snapshotFileId : Option Nat
  recent : Option VehicleRow
  controlList : List String

def VehicleCall.direction (call : VehicleCall) : Direction :=
  normalizeVehicleDirection call.evt.eventAction

def VehicleCall.eventTime (call : VehicleCall) : Int := (parseUtc call.evt.utc call.now).1

/-- The rows that the statement of `mergeIntoRecentEvent` selects from. -/
def candidates (s : VehicleLog) (call : VehicleCall) : List VehicleRow :=
  s.rows.filter fun r => r.channelId = call.evt.channelId ∧ r.direction = call.direction ∧
    call.eventTime - 15 * 1000 < r.eventTime ∧ call.dbNow - 90 * 1000 < r.createdAt

/-- `ORDER BY event_time DESC LIMIT 1`; among equal instants any row may come first. -/
def Selects (rows : List VehicleRow) : Option VehicleRow → Prop
  | none => rows = []
  | some r => r ∈ rows ∧ ∀ q ∈ rows, q.eventTime ≤ r.eventTime

instance (rows : List VehicleRow) (r : Option VehicleRow) : Decidable (Selects rows r) :=
  match r with
  | none => inferInstanceAs (Decidable (rows = []))
  | some _ => inferInstanceAs (Decidable (_ ∧ ∀ q ∈ rows, _))

def VehicleRow.bump (r : VehicleRow) (call : VehicleCall) : VehicleRow :=
  let reads := r.rawReads ++ [call.evt.plateNumber]
  { r with
    eventTime := call.eventTime
    rawReads := reads.drop (reads.length - 12)
    snapshotFileId := r.snapshotFileId <|> call.snapshotFileId }

def mergeIntoRecentEvent (call : VehicleCall) : Option VehicleRow :=
  call.recent.filter fun r => isSimilarPlate call.evt.plateNumber r.plateNumber

def VehicleLog.insert (s : VehicleLog) (call : VehicleCall) : VehicleRow where
  id := s.rows.length
  channelId := call.evt.channelId
  direction := call.direction
  plateNumber := call.evt.plateNumber
  rawReads := [call.evt.plateNumber]
  eventTime := call.eventTime
  createdAt := call.dbNow
  snapshotFileId := call.snapshotFileId

def outcome (s : VehicleLog) (call : VehicleCall) : Option VehicleRead :=
  match call.deviceId with
  | none => none
  | some _ =>
    match mergeIntoRecentEvent call with
    | some r => some ⟨call.evt.plateNumber, r.id, false⟩
    | none => some ⟨call.evt.plateNumber, s.rows.length, true⟩

def onVehicleEvent (s : VehicleLog) (call : VehicleCall) : VehicleLog :=
  match call.deviceId with
  | none => s
  | some _ =>
    match mergeIntoRecentEvent call with
    | some r =>
      ⟨s.rows.map fun q => if q.id = r.id then q.bump call else q,
        s.reads ++ [⟨call.evt.plateNumber, r.id, false⟩]⟩
    | none =>
      ⟨s.rows ++ [s.insert call], s.reads ++ [⟨call.evt.plateNumber, s.rows.length, true⟩]⟩

def ReadStep (s : VehicleLog) (call : VehicleCall) (t : VehicleLog) : Prop :=
  Selects (candidates s call) call.recent ∧ t = onVehicleEvent s call

def VehicleLog.start : VehicleLog := ⟨[], []⟩

end Events

section Hits

/-- A read of a plate on the control list is evaluated, or an earlier read of that very plate in
    its row was. -/
def NotSwallowed (s : VehicleLog) (call : VehicleCall) (_ : VehicleLog) : Prop :=
  call.evt.plateNumber ∈ call.controlList → ∃ read, outcome s call = some read ∧
    (read.evaluated = true ∨ ∃ earlier ∈ s.reads, earlier.row = read.row ∧
      earlier.evaluated = true ∧ earlier.plateNumber = call.evt.plateNumber)

/-- A listed plate finds the device, and a row that it resembles is one of the same plate. -/
def MeetsItsOwn (_ : VehicleLog) (call : VehicleCall) : Prop :=
  call.evt.plateNumber ∈ call.controlList → call.deviceId.isSome = true ∧
    ∀ r ∈ call.recent, isSimilarPlate call.evt.plateNumber r.plateNumber = true →
      r.plateNumber = call.evt.plateNumber

structure RowsTold (s : VehicleLog) : Prop where
  told : ∀ r ∈ s.rows, ⟨r.plateNumber, r.id, true⟩ ∈ s.reads
  only : ∀ read ∈ s.reads, read.evaluated = true → ∀ r ∈ s.rows, r.id = read.row →
    r.plateNumber = read.plateNumber
  numbered : ∀ r ∈ s.rows, r.id < s.rows.length
  placed : ∀ read ∈ s.reads, read.row < s.rows.length

variable {s t : VehicleLog} {call : VehicleCall}

theorem rowsTold_start : RowsTold VehicleLog.start where
  told := by simp [VehicleLog.start]
  only := by simp [VehicleLog.start]
  numbered := by simp [VehicleLog.start]
  placed := by simp [VehicleLog.start]

theorem onVehicleEvent_cases (s : VehicleLog) (call : VehicleCall) :
    (call.deviceId = none ∧ outcome s call = none ∧ onVehicleEvent s call = s) ∨
    (call.deviceId.isSome = true ∧ ∃ r, call.recent = some r ∧
      isSimilarPlate call.evt.plateNumber r.plateNumber = true ∧
      outcome s call = some ⟨call.evt.plateNumber, r.id, false⟩ ∧
      onVehicleEvent s call = ⟨s.rows.map fun q => if q.id = r.id then q.bump call else q,
        s.reads ++ [⟨call.evt.plateNumber, r.id, false⟩]⟩) ∨
    (call.deviceId.isSome = true ∧
      (∀ r ∈ call.recent, isSimilarPlate call.evt.plateNumber r.plateNumber = false) ∧
      outcome s call = some ⟨call.evt.plateNumber, s.rows.length, true⟩ ∧
      onVehicleEvent s call =
        ⟨s.rows ++ [s.insert call], s.reads ++ [⟨call.evt.plateNumber, s.rows.length, true⟩]⟩) := by
  unfold outcome onVehicleEvent
  cases device : call.deviceId with
  | none => exact Or.inl ⟨rfl, rfl, rfl⟩
  | some id =>
    refine Or.inr ?_
    cases merged : mergeIntoRecentEvent call with
    | some r =>
      obtain ⟨found, similar⟩ := Option.filter_eq_some_iff.mp merged
      exact Or.inl ⟨rfl, r, found, similar, rfl, rfl⟩
    | none =>
      refine Or.inr ⟨rfl, ?_, rfl, rfl⟩
      intro r there
      simpa using Option.filter_eq_none_iff.mp merged r there

theorem bump_plateNumber (r : VehicleRow) : (r.bump call).plateNumber = r.plateNumber := by
  rw [VehicleRow.bump]

theorem bump_id (r : VehicleRow) : (r.bump call).id = r.id := by
  rw [VehicleRow.bump]

theorem merged_row {rows : List VehicleRow} {id : Nat} {q : VehicleRow}
    (there : q ∈ rows.map fun q => if q.id = id then q.bump call else q) :
    ∃ r ∈ rows, q.id = r.id ∧ q.plateNumber = r.plateNumber := by
  obtain ⟨r, old, rfl⟩ := List.mem_map.mp there
  refine ⟨r, old, ?_⟩
  split
  · exact ⟨bump_id r, bump_plateNumber r⟩
  · exact ⟨rfl, rfl⟩

theorem rowsTold_step (told : RowsTold s) (step : ReadStep s call t) : RowsTold t := by
  obtain ⟨selected, rfl⟩ := step
  rcases onVehicleEvent_cases s call with
    ⟨-, -, same⟩ | ⟨-, r, found, -, -, same⟩ | ⟨-, -, -, same⟩
  · rw [same]
    exact told
  · rw [same]
    have there : r ∈ s.rows := by
      rw [found] at selected
      exact (List.mem_filter.mp selected.1).1
    constructor
    · intro q merged
      obtain ⟨old, before, id, plate⟩ := merged_row merged
      rw [id, plate]
      exact List.mem_append.mpr (Or.inl (told.told old before))
    · intro read given evaluated q merged same_row
      obtain ⟨old, before, id, plate⟩ := merged_row merged
      rcases List.mem_append.mp given with earlier | new
      · rw [plate]
        exact told.only read earlier evaluated old before (id ▸ same_row)
      · rw [List.mem_singleton.mp new] at evaluated
        cases evaluated
    · intro q merged
      obtain ⟨old, before, id, -⟩ := merged_row merged
      rw [id, List.length_map]
      exact told.numbered old before
    · intro read given
      rw [List.length_map]
      rcases List.mem_append.mp given with earlier | new
      · exact told.placed read earlier
      · rw [List.mem_singleton.mp new]
        exact told.numbered r there
  · rw [same]
    constructor
    · intro q given
      rcases List.mem_append.mp given with old | new
      · exact List.mem_append.mpr (Or.inl (told.told q old))
      · rw [List.mem_singleton.mp new]
        exact List.mem_append.mpr (Or.inr (List.mem_singleton.mpr rfl))
    · intro read given evaluated q there same_row
      rcases List.mem_append.mp given with earlier | newRead <;>
        rcases List.mem_append.mp there with old | new
      · exact told.only read earlier evaluated q old same_row
      · rw [List.mem_singleton.mp new] at same_row
        exact absurd same_row (Nat.ne_of_gt (told.placed read earlier))
      · rw [List.mem_singleton.mp newRead] at same_row
        exact absurd same_row (Nat.ne_of_lt (told.numbered q old))
      · rw [List.mem_singleton.mp newRead, List.mem_singleton.mp new]
        rfl
    · intro q given
      rw [List.length_append]
      rcases List.mem_append.mp given with old | new
      · exact Nat.lt_succ_of_lt (told.numbered q old)
      · rw [List.mem_singleton.mp new]
        exact Nat.lt_succ_self _
    · intro read given
      rw [List.length_append]
      rcases List.mem_append.mp given with earlier | new
      · exact Nat.lt_succ_of_lt (told.placed read earlier)
      · rw [List.mem_singleton.mp new]
        exact Nat.lt_succ_self _

theorem notSwallowed_exact (told : RowsTold s) (step : ReadStep s call t) :
    NotSwallowed s call t ↔ MeetsItsOwn s call := by
  obtain ⟨selected, -⟩ := step
  refine forall_congr' fun listed => ?_
  rcases onVehicleEvent_cases s call with
    ⟨missing, skipped, -⟩ | ⟨device, r, found, similar, merged, -⟩ | ⟨device, unlike, inserted, -⟩
  · rw [skipped, missing]
    constructor
    · rintro ⟨read, found, -⟩
      cases found
    · rintro ⟨there, -⟩
      cases there
  · have there : r ∈ s.rows := by
      rw [found] at selected
      exact (List.mem_filter.mp selected.1).1
    rw [merged, found]
    constructor
    · rintro ⟨read, same, evaluated | ⟨earlier, given, row, evaluated, plate⟩⟩
      · cases same
        cases evaluated
      · cases same
        refine ⟨device, ?_⟩
        intro q same_row _
        cases same_row
        exact (told.only earlier given evaluated r there row.symm).trans plate
    · rintro ⟨-, own⟩
      refine ⟨_, rfl, Or.inr ⟨_, told.told r there, rfl, rfl, ?_⟩⟩
      exact own r rfl similar
  · rw [inserted]
    constructor
    · intro _
      refine ⟨device, ?_⟩
      intro r there similar
      rw [unlike r there] at similar
      cases similar
    · intro _
      exact ⟨_, rfl, Or.inl rfl⟩

/-- No read of a listed plate is swallowed, throughout a run, exactly when each of them finds the
    device of the bridge and is merged into no row that began with another plate. -/
theorem no_hit_swallowed_iff {moves : List (Move VehicleLog VehicleCall)}
    (run : Run ReadStep VehicleLog.start moves s) :
    (∀ m ∈ moves, NotSwallowed m.before m.label m.after) ↔ Heeds MeetsItsOwn moves := by
  refine run_good_iff RowsTold NotSwallowed run rowsTold_start ?_ ?_
  · intro a l b told step _
    exact rowsTold_step told step
  · intro a l b told step
    exact notSwallowed_exact told step

end Hits

section Runs

instance (s : VehicleLog) (call : VehicleCall) : Decidable (MeetsItsOwn s call) :=
  inferInstanceAs (Decidable (_ → _ ∧ ∀ r ∈ call.recent, _ → _))

def readAt (now : Int) (plateNumber : String) (recent : Option VehicleRow) : VehicleCall where
  evt := ⟨1, plateNumber, some "seen", some now⟩
  now := now
  dbNow := now
  deviceId := some 0
  snapshotFileId := none
  recent := recent
  controlList := ["30A12345"]

def firstRow (plateNumber : String) : VehicleRow where
  id := 0
  channelId := 1
  direction := .seen
  plateNumber := plateNumber
  rawReads := [plateNumber]
  eventTime := 0
  createdAt := 0
  snapshotFileId := none

theorem hit_swallowed : ∃ moves s, Run ReadStep VehicleLog.start moves s ∧
    ¬ ∀ m ∈ moves, NotSwallowed m.before m.label m.after := by
  let calls := [readAt 0 "30A12846" none, readAt 2000 "30A12345" (some (firstRow "30A12846"))]
  have allowed : Heeds (fun s call => Selects (candidates s call) call.recent)
      (trail onVehicleEvent VehicleLog.start calls) := by
    decide +kernel
  refine ⟨_, _, run_trail allowed, ?_⟩
  intro safe
  obtain ⟨read, found, told⟩ := safe _ (List.mem_of_getElem? (i := 1) rfl) (by decide +kernel)
  have merged : outcome (onVehicleEvent VehicleLog.start (readAt 0 "30A12846" none))
      (readAt 2000 "30A12345" (some (firstRow "30A12846"))) = some ⟨"30A12345", 0, false⟩ := by
    decide +kernel
  have before : (onVehicleEvent VehicleLog.start (readAt 0 "30A12846" none)).reads =
      [⟨"30A12846", 0, true⟩] := by
    decide +kernel
  obtain rfl := Option.some.inj (found.symm.trans merged)
  rcases told with evaluated | ⟨earlier, given, -, -, plate⟩
  · cases evaluated
  · have only : earlier = ⟨"30A12846", 0, true⟩ := List.mem_singleton.mp (before ▸ given)
    rw [only] at plate
    exact absurd plate (by decide)

theorem hit_told_once : ∃ moves s, Run ReadStep VehicleLog.start moves s ∧ moves.length = 2 ∧
    ∀ m ∈ moves, NotSwallowed m.before m.label m.after := by
  let calls := [readAt 0 "30A12345" none, readAt 2000 "30A12345" (some (firstRow "30A12345"))]
  have allowed : Heeds (fun s call => Selects (candidates s call) call.recent)
      (trail onVehicleEvent VehicleLog.start calls) := by
    decide +kernel
  have heeds : Heeds MeetsItsOwn (trail onVehicleEvent VehicleLog.start calls) := by
    decide +kernel
  have run := run_trail allowed
  exact ⟨_, _, run, rfl, (no_hit_swallowed_iff run).mpr heeds⟩

end Runs
end Anpr
