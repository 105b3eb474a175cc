import Mathlib.Data.List.Basic
import Mathlib.Tactic.Common

/- Maps that keep their keys in the order in which they were first set, as lists of entries. -/
namespace OrderedMap
variable {K V W : Type} [DecidableEq K]

def get (m : List (K × V)) (k : K) : Option V := (m.find? fun e => decide (e.1 = k)).map Prod.snd

def set : List (K × V) → K → V → List (K × V)
  | [], k, v => [(k, v)]
  | e :: rest, k, v => if e.1 = k then (k, v) :: rest else e :: set rest k v

def ofEntries (entries : List (K × V)) : List (K × V) :=
  entries.foldl (fun m e => set m e.1 e.2) []

/-- The values of each key, in the order of the entries. -/
def group (entries : List (K × V)) : List (K × List V) :=
  entries.foldl (fun m e => set m e.1 ((get m e.1).getD [] ++ [e.2])) []

def valuesOf (entries : List (K × V)) (k : K) : List V :=
  (entries.filter fun e => decide (e.1 = k)).map Prod.snd

variable {m entries : List (K × V)} {k j : K} {v : V}

theorem get_cons {e : K × V} : get (e :: m) k = if e.1 = k then some e.2 else get m k := by
  rw [get, List.find?_cons]
  by_cases same : e.1 = k
  · rw [if_pos same, decide_eq_true same]
    rfl
  · rw [if_neg same, decide_eq_false same]
    rfl

theorem get_set : get (set m k v) j = if j = k then some v else get m j := by
  induction m with
  | nil =>
    rw [set, get_cons]
    simp only [eq_comm]
  | cons e rest ih =>
    rw [set]
    by_cases here : e.1 = k
    · rw [if_pos here, get_cons, get_cons]
      by_cases same : j = k
      · rw [if_pos same.symm, if_pos same]
      · rw [if_neg fun equal => same equal.symm, if_neg same,
          if_neg fun equal => same (equal.symm.trans here)]
    · rw [if_neg here, get_cons, get_cons, ih]
      by_cases same : e.1 = j
      · rw [if_pos same, if_pos same, if_neg fun equal => here (same.trans equal)]
      · rw [if_neg same, if_neg same]

theorem mem_of_get (found : get m k = some v) : (k, v) ∈ m := by
  obtain ⟨e, there, rfl⟩ := Option.map_eq_some_iff.mp found
  have key : e.1 = k := by simpa using List.find?_some there
  subst key
  exact List.mem_of_find?_eq_some there

theorem get_map {f : V → W} : get (m.map fun e => (e.1, f e.2)) k = (get m k).map f := by
  induction m with
  | nil => rfl
  | cons e rest ih =>
    rw [List.map_cons, get_cons, get_cons, ih]
    split
    · rfl
    · rfl

theorem set_keys : (set m k v).map Prod.fst =
    if k ∈ m.map Prod.fst then m.map Prod.fst else m.map Prod.fst ++ [k] := by
  induction m with
  | nil => rfl
  | cons e rest ih =>
    rw [set]
    by_cases here : e.1 = k
    · rw [if_pos here, if_pos (by rw [List.map_cons, here]; exact List.mem_cons_self),
        List.map_cons, List.map_cons, here]
    · rw [if_neg here, List.map_cons, ih, List.map_cons]
      by_cases later : k ∈ rest.map Prod.fst
      · rw [if_pos later, if_pos (List.mem_cons_of_mem _ later)]
      · have nowhere : k ∉ e.1 :: rest.map Prod.fst := by
          intro there
          rcases List.mem_cons.mp there with same | there
          · exact here same.symm
          · exact later there
        rw [if_neg later, if_neg nowhere, List.cons_append]

theorem set_nodup (unique : (m.map Prod.fst).Nodup) : ((set m k v).map Prod.fst).Nodup := by
  rw [set_keys]
  split
  · exact unique
  · rename_i new
    rw [List.nodup_append]
    refine ⟨unique, List.pairwise_singleton _ k, ?_⟩
    intro a old b last same
    rw [List.mem_singleton.mp last] at same
    exact new (same ▸ old)

theorem foldl_set_nodup (value : List (K × V) → K × W → V) (start : List (K × V))
    (unique : (start.map Prod.fst).Nodup) (entries : List (K × W)) :
    ((entries.foldl (fun m e => set m e.1 (value m e)) start).map Prod.fst).Nodup := by
  induction entries generalizing start with
  | nil => exact unique
  | cons e rest ih => exact ih _ (set_nodup unique)

theorem ofEntries_nodup : ((ofEntries entries).map Prod.fst).Nodup :=
  foldl_set_nodup (fun _ e => e.2) [] List.nodup_nil entries

theorem group_nodup : ((group entries).map Prod.fst).Nodup :=
  foldl_set_nodup (fun m e => (get m e.1).getD [] ++ [e.2]) [] List.nodup_nil entries

theorem get_of_mem (unique : (m.map Prod.fst).Nodup) (there : (k, v) ∈ m) : get m k = some v := by
  induction m with
  | nil => cases there
  | cons e rest ih =>
    rw [List.map_cons, List.nodup_cons] at unique
    rw [get_cons]
    rcases List.mem_cons.mp there with rfl | later
    · exact if_pos rfl
    · have other : e.1 ≠ k := by
        rintro rfl
        exact unique.1 (List.mem_map.mpr ⟨(e.1, v), later, rfl⟩)
      rw [if_neg other]
      exact ih unique.2 later

theorem get_ofEntries : get (ofEntries entries) k = (valuesOf entries k).getLast? := by
  have from_start : ∀ start : List (K × V), get (entries.foldl (fun m e => set m e.1 e.2) start) k =
      ((valuesOf entries k).getLast?).or (get start k) := by
    induction entries with
    | nil => exact fun _ => rfl
    | cons e rest ih =>
      intro start
      rw [List.foldl_cons, ih, get_set, valuesOf, valuesOf, List.filter_cons]
      by_cases here : e.1 = k
      · rw [if_pos here.symm, if_pos (decide_eq_true here), List.map_cons, List.getLast?_cons]
        cases (List.map Prod.snd (rest.filter fun e => decide (e.1 = k))).getLast? with
        | none => rfl
        | some last => rfl
      · rw [if_neg fun equal => here equal.symm, decide_eq_false here, if_neg Bool.false_ne_true]
  rw [ofEntries, from_start]
  exact Option.or_none

theorem get_group : get (group entries) k =
    if valuesOf entries k = [] then none else some (valuesOf entries k) := by
  have from_start : ∀ start : List (K × List V),
      get (entries.foldl (fun m e => set m e.1 ((get m e.1).getD [] ++ [e.2])) start) k =
        if valuesOf entries k = [] then get start k
        else some ((get start k).getD [] ++ valuesOf entries k) := by
    induction entries with
    | nil => exact fun _ => (if_pos rfl).symm
    | cons e rest ih =>
      intro start
      rw [List.foldl_cons, ih, get_set]
      by_cases here : e.1 = k
      · have more : valuesOf (e :: rest) k = e.2 :: valuesOf rest k := by
          rw [valuesOf, List.filter_cons, if_pos (decide_eq_true here)]
          rfl
        rw [more, if_pos here.symm, here, if_neg (List.cons_ne_nil _ _)]
        split
        · rename_i none_left
          rw [none_left]
        · rw [Option.getD_some, List.append_assoc]
          rfl
      · have same : valuesOf (e :: rest) k = valuesOf rest k := by
          rw [valuesOf, List.filter_cons, decide_eq_false here, if_neg Bool.false_ne_true]
          rfl
        rw [same]
        simp only [if_neg fun equal => here (Eq.symm equal)]
  rw [group, from_start]
  rfl

theorem mem_valuesOf : v ∈ valuesOf entries k ↔ (k, v) ∈ entries := by
  rw [valuesOf, List.mem_map]
  constructor
  · rintro ⟨e, there, rfl⟩
    obtain ⟨listed, key⟩ := List.mem_filter.mp there
    rw [← of_decide_eq_true key]
    exact listed
  · intro there
    exact ⟨(k, v), List.mem_filter.mpr ⟨there, decide_eq_true rfl⟩, rfl⟩

end OrderedMap
