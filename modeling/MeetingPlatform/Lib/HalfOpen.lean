import Mathlib.Order.Interval.Set.Disjoint
import Mathlib.Order.CompletePartialOrder
import Mathlib.Logic.Function.Basic
import Mathlib.Tactic.Common

/- Half-open time spans. -/
namespace HalfOpen

section Order
variable {T : Type} [LinearOrder T]

def Apart (s e s' e' : T) : Prop := Disjoint (Set.Ico s e) (Set.Ico s' e')

theorem apart_comm {s e s' e' : T} : Apart s e s' e' ↔ Apart s' e' s e := disjoint_comm

theorem apart_of_order {s e s' e' : T} (h : e ≤ s' ∨ e' ≤ s) : Apart s e s' e' := by
  rw [Apart, Set.Ico_disjoint_Ico]
  rcases h with h | h
  · exact (min_le_left _ _).trans (h.trans (le_max_right _ _))
  · exact (min_le_right _ _).trans (h.trans (le_max_left _ _))

theorem apart_iff {s e s' e' : T} (h : s < e) (h' : s' < e') :
    Apart s e s' e' ↔ e ≤ s' ∨ e' ≤ s := by
  refine ⟨fun apart => ?_, apart_of_order⟩
  rw [Apart, Set.Ico_disjoint_Ico] at apart
  rcases le_total e e' with he | he
  · rw [min_eq_left he] at apart
    rcases le_max_iff.mp apart with late | late
    · exact absurd h (not_lt.mpr late)
    · exact Or.inl late
  · rw [min_eq_right he] at apart
    rcases le_max_iff.mp apart with late | late
    · exact Or.inr late
    · exact absurd h' (not_lt.mpr late)

end Order

section Buffer

/-- The overlap test of a query that keeps `buffer` free on both sides of the target. -/
def Clashes (buffer s e s' e' : Int) : Prop := s' < e + buffer ∧ s - buffer < e'

instance (buffer s e s' e' : Int) : Decidable (Clashes buffer s e s' e') :=
  inferInstanceAs (Decidable (_ ∧ _))

theorem apart_of_not_clashes {buffer s e s' e' : Int} (free : 0 ≤ buffer)
    (h : ¬ Clashes buffer s e s' e') : Apart s e s' e' := by
  apply apart_of_order
  unfold Clashes at h
  omega

end Buffer

section Calendar
variable {K R T : Type} [LinearOrder T] {c : K → Option (R × T × T)}

/-- Entries of a calendar, each a resource taken for a span, that never take one
    resource twice at a time. -/
def ClashFree (c : K → Option (R × T × T)) : Prop :=
  ∀ k k' r s e s' e', k ≠ k' → c k = some (r, s, e) → c k' = some (r, s', e') → Apart s e s' e'

theorem clash_free_of_fewer {c' : K → Option (R × T × T)} (free : ClashFree c)
    (fewer : ∀ k x, c' k = some x → c k = some x) : ClashFree c' := by
  intro k k' r s e s' e' other here there
  exact free k k' r s e s' e' other (fewer k _ here) (fewer k' _ there)

variable [DecidableEq K]

theorem clash_free_drop (free : ClashFree c) (k : K) : ClashFree (Function.update c k none) := by
  apply clash_free_of_fewer free
  intro j x entry
  by_cases here : j = k
  · subst here
    simp at entry
  · rwa [Function.update_of_ne here] at entry

theorem clash_free_put_iff (free : ClashFree c) {k : K} {r : R} {s e : T} :
    ClashFree (Function.update c k (some (r, s, e))) ↔
      ∀ k' s' e', k' ≠ k → c k' = some (r, s', e') → Apart s e s' e' := by
  constructor
  · intro still k' s' e' other entry
    refine still k k' r s e s' e' other.symm (Function.update_self ..) ?_
    rwa [Function.update_of_ne other]
  · intro apart i j r' s₁ e₁ s₂ e₂ other first second
    by_cases hi : i = k
    · subst hi
      rw [Function.update_self] at first
      rw [Function.update_of_ne other.symm] at second
      cases first
      exact apart j s₂ e₂ other.symm second
    · rw [Function.update_of_ne hi] at first
      by_cases hj : j = k
      · subst hj
        rw [Function.update_self] at second
        cases second
        exact apart_comm.mp (apart i s₁ e₁ other first)
      · rw [Function.update_of_ne hj] at second
        exact free i j r' s₁ e₁ s₂ e₂ other first second

end Calendar

end HalfOpen
