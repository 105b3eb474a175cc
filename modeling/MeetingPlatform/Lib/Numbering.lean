import MeetingPlatform.Lib.OrderedMap
import Mathlib.Data.List.Nodup
import Mathlib.Data.List.Perm.Basic
import Mathlib.Data.List.Perm.Subperm

/- Lists whose numbers are 1..n, each once. -/
namespace Numbering

def places (n : Nat) : List Int := (List.range n).map fun i : Nat => (i : Int) + 1

def Numbered (numbers : List Int) : Prop := numbers.Perm (places numbers.length)

instance (numbers : List Int) : Decidable (Numbered numbers) :=
  inferInstanceAs (Decidable (numbers.Perm _))

@[simp] theorem places_length (n : Nat) : (places n).length = n := by
  rw [places, List.length_map, List.length_range]

theorem mem_places {n : Nat} {k : Int} : k ∈ places n ↔ 1 ≤ k ∧ k ≤ n := by
  simp only [places, List.mem_map, List.mem_range]
  constructor
  · rintro ⟨i, inside, rfl⟩
    omega
  · rintro ⟨low, high⟩
    exact ⟨(k - 1).toNat, by omega, by omega⟩

theorem places_nodup (n : Nat) : (places n).Nodup := by
  refine List.nodup_range.map ?_
  intro i j same
  have same : (i : Int) + 1 = j + 1 := same
  omega

theorem numbered_iff {numbers : List Int} :
    Numbered numbers ↔ numbers.Nodup ∧ ∀ k ∈ numbers, 1 ≤ k ∧ k ≤ numbers.length := by
  constructor
  · intro numbered
    refine ⟨numbered.nodup_iff.mpr (places_nodup _), ?_⟩
    intro k there
    exact mem_places.mp (numbered.mem_iff.mp there)
  · rintro ⟨once, inside⟩
    have within : numbers ⊆ places numbers.length := fun k there => mem_places.mpr (inside k there)
    refine (List.subperm_of_subset once within).perm_of_length_le ?_
    exact Nat.le_of_eq (places_length _)

theorem numbered_places (n : Nat) : Numbered (places n) := by
  rw [Numbered, places_length]

theorem numbered_perm {numbers others : List Int} (same : numbers.Perm others) :
    Numbered numbers ↔ Numbered others := by
  rw [Numbered, Numbered, same.length_eq]
  exact ⟨same.symm.trans, same.trans⟩

/-- The numbers after the one that has been taken out move up. -/
def closeGap (k j : Int) : Int := if k < j then j - 1 else j

theorem numbered_closeGap {k : Int} {rest : List Int} (numbered : Numbered (k :: rest)) :
    Numbered (rest.map (closeGap k)) := by
  rw [numbered_iff] at numbered ⊢
  obtain ⟨once, inside⟩ := numbered
  obtain ⟨absent, once⟩ := List.nodup_cons.mp once
  have apart : ∀ j ∈ rest, j ≠ k := fun j there same => absent (same ▸ there)
  rw [List.length_cons] at inside
  obtain ⟨low, high⟩ := inside k List.mem_cons_self
  constructor
  · refine once.map_on ?_
    intro i hi j hj same
    have := apart i hi
    have := apart j hj
    unfold closeGap at same
    split at same <;> split at same <;> omega
  · intro j' there
    obtain ⟨j, member, rfl⟩ := List.mem_map.mp there
    have := apart j member
    have := inside j (List.mem_cons_of_mem _ member)
    rw [List.length_map]
    unfold closeGap
    split <;> omega

theorem numbered_append_iff {numbers others : List Int} (once : numbers.Nodup) (others_once : others.Nodup)
    (positive : ∀ k ∈ numbers, 1 ≤ k) (others_positive : ∀ k ∈ others, 1 ≤ k) :
    Numbered (numbers ++ others) ↔ (∀ j ∈ numbers, ∀ k ∈ others, j ≠ k) ∧
      (∀ k ∈ numbers, k ≤ (numbers.length + others.length : Nat)) ∧
      ∀ k ∈ others, k ≤ (numbers.length + others.length : Nat) := by
  rw [numbered_iff, List.nodup_append, List.length_append]
  constructor
  · rintro ⟨⟨-, -, apart⟩, inside⟩
    refine ⟨apart, ?_, ?_⟩
    · intro k there
      exact (inside k (List.mem_append_left _ there)).2
    · intro k there
      exact (inside k (List.mem_append_right _ there)).2
  · rintro ⟨apart, first, second⟩
    refine ⟨⟨once, others_once, apart⟩, ?_⟩
    intro k there
    rcases List.mem_append.mp there with left | right
    · exact ⟨positive k left, first k left⟩
    · exact ⟨others_positive k right, second k right⟩

section Moves
variable {A K : Type}

theorem zipIdx_keys {key : A → K} {l : List A} : l.zipIdx.map (fun w => key w.1) = l.map key := by
  conv => rhs; rw [← List.zipIdx_map_fst 0 l]
  rw [List.map_map]
  rfl

/-- The element at one place is taken out and put in at another. -/
def moveTo (l : List A) (i j : Nat) : List A :=
  match l[i]? with
  | some a => (l.eraseIdx i).insertIdx j a
  | none => l

theorem moveTo_perm (l : List A) (i : Nat) {j : Nat} (inside : j + 1 ≤ l.length) : (moveTo l i j).Perm l := by
  unfold moveTo
  split
  · rename_i a found
    obtain ⟨bound, rfl⟩ := List.getElem?_eq_some_iff.mp found
    have left : j ≤ (l.eraseIdx i).length := by
      rw [List.length_eraseIdx_of_lt bound]
      omega
    exact (List.perm_insertIdx _ _ left).trans (List.getElem_cons_eraseIdx_perm bound)
  · exact List.Perm.refl l

/-- The places of the elements that have another number. -/
def corrections (key : A → K) (number : A → Int) (l : List A) : List (K × Int) :=
  (l.zipIdx.filter fun w => number w.1 ≠ (w.2 : Int) + 1).map fun w => (key w.1, (w.2 : Int) + 1)

variable {key : A → K} {number : A → Int} {l : List A}

theorem corrections_once (once : (l.map key).Nodup) : ((corrections key number l).map Prod.fst).Nodup := by
  rw [corrections, List.map_map]
  rw [← zipIdx_keys] at once
  exact once.sublist (List.filter_sublist.map _)

variable [DecidableEq K]

def corrected (key : A → K) (number : A → Int) (l : List A) (a : A) : Int :=
  (OrderedMap.get (corrections key number l) (key a)).getD (number a)

theorem corrected_place (once : (l.map key).Nodup) {w : A × Nat} (there : w ∈ l.zipIdx) :
    corrected key number l w.1 = (w.2 : Int) + 1 := by
  unfold corrected
  by_cases right : number w.1 = (w.2 : Int) + 1
  · cases found : OrderedMap.get (corrections key number l) (key w.1) with
    | none => exact right
    | some k =>
      obtain ⟨w', member, same⟩ := List.mem_map.mp (OrderedMap.mem_of_get found)
      obtain ⟨there', wrong⟩ := List.mem_filter.mp member
      obtain ⟨same_key, -⟩ := Prod.mk.inj same
      rw [← zipIdx_keys] at once
      rw [List.inj_on_of_nodup_map once there' there same_key] at wrong
      exact absurd right (of_decide_eq_true wrong)
  · have member : (key w.1, (w.2 : Int) + 1) ∈ corrections key number l := by
      refine List.mem_map.mpr ⟨w, List.mem_filter.mpr ⟨there, ?_⟩, rfl⟩
      exact decide_eq_true right
    rw [OrderedMap.get_of_mem (corrections_once once) member]
    rfl

theorem corrected_numbered (once : (l.map key).Nodup) : l.map (corrected key number l) = places l.length := by
  have elements : l.map (corrected key number l) = l.zipIdx.map fun w => corrected key number l w.1 :=
    zipIdx_keys.symm
  have numbers : l.zipIdx.map (fun w => corrected key number l w.1) =
      l.zipIdx.map fun w => (w.2 : Int) + 1 :=
    List.map_congr_left fun w there => corrected_place once there
  rw [elements, numbers, places, List.range_eq_range', ← List.zipIdx_map_snd, List.map_map]
  rfl

end Moves
end Numbering
