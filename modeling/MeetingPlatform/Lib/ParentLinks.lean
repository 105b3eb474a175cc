import Mathlib.Data.List.Nodup
import Mathlib.Logic.Function.Basic
import Mathlib.Tactic.Common

/- Parent links, as a partial function on keys. A key's path to its root has at most `n` keys exactly
   when the climb of `n` links from it ends. -/
namespace ParentLinks
variable {Key : Type}

def climb (up : Key → Option Key) : Nat → Key → Option Key
  | 0, k => some k
  | n + 1, k => (up k).bind (climb up n)

/-- A root is reached after finitely many links. -/
def Ends (up : Key → Option Key) (k : Key) : Prop := ∃ n, climb up n k = none

def Forest (up : Key → Option Key) : Prop := ∀ k, Ends up k

variable {up : Key → Option Key} {k p : Key} {m n : Nat}

@[simp] theorem climb_zero : climb up 0 k = some k := rfl

theorem climb_succ : climb up (n + 1) k = (up k).bind (climb up n) := rfl

theorem climb_root (root : up k = none) : climb up (n + 1) k = none := by
  rw [climb_succ, root, Option.bind_none]

theorem climb_link (link : up k = some p) : climb up (n + 1) k = climb up n p := by
  rw [climb_succ, link, Option.bind_some]

theorem climb_add : climb up (m + n) k = (climb up m k).bind (climb up n) := by
  induction m generalizing k with
  | zero => rw [Nat.zero_add, climb_zero, Option.bind_some]
  | succ m ih =>
    rw [Nat.succ_add]
    cases link : up k with
    | none => rw [climb_root link, climb_root link, Option.bind_none]
    | some p => rw [climb_link link, climb_link link, ih]

theorem climb_from {a : Key} (there : climb up m k = some a) :
    climb up (m + n) k = climb up n a := by
  rw [climb_add, there, Option.bind_some]

theorem climb_mono (ended : climb up m k = none) (le : m ≤ n) : climb up n k = none := by
  obtain ⟨more, rfl⟩ := Nat.exists_eq_add_of_le le
  rw [climb_add, ended, Option.bind_none]

theorem ends_link (link : up k = some p) : Ends up k ↔ Ends up p := by
  constructor
  · rintro ⟨n, ended⟩
    have further : climb up (n + 1) k = none := climb_mono ended (Nat.le_succ n)
    exact ⟨n, (climb_link link).symm.trans further⟩
  · rintro ⟨n, ended⟩
    exact ⟨n + 1, (climb_link link).trans ended⟩

theorem ends_climb {a : Key} (there : climb up m k = some a) : Ends up k ↔ Ends up a := by
  induction m generalizing k with
  | zero =>
    rw [climb_zero, Option.some.injEq] at there
    rw [there]
  | succ m ih =>
    cases link : up k with
    | none =>
      rw [climb_root link] at there
      cases there
    | some p =>
      rw [climb_link link] at there
      rw [ends_link link]
      exact ih there

theorem climb_cycle (again : climb up (m + 1) k = some k) : ¬ Ends up k := by
  have rounds : ∀ r, climb up (r * (m + 1)) k = some k := by
    intro r
    induction r with
    | zero => rw [Nat.zero_mul, climb_zero]
    | succ r ih =>
      rw [Nat.succ_mul, climb_from ih]
      exact again
  rintro ⟨n, ended⟩
  have le : n ≤ n * (m + 1) := Nat.le_mul_of_pos_right n (Nat.succ_pos m)
  have contrary := climb_mono ended le
  rw [rounds] at contrary
  cases contrary

theorem climb_injective {a : Key} (ends : Ends up k) (first : climb up m k = some a)
    (second : climb up n k = some a) : m = n := by
  have ordered : ∀ {i j : Nat}, climb up i k = some a → climb up j k = some a → ¬ i < j := by
    intro i j here later lt
    obtain ⟨more, rfl⟩ := Nat.exists_eq_add_of_lt lt
    have again : climb up (more + 1) a = some a := by
      rw [← climb_from here]
      exact later
    exact climb_cycle again ((ends_climb here).mp ends)
  have := ordered first second
  have := ordered second first
  omega

/-- The keys with a parent that a walk of `n` links leaves behind. -/
def passed (up : Key → Option Key) : Nat → Key → List Key
  | 0, _ => []
  | n + 1, k =>
    match up k with
    | none => []
    | some p => k :: passed up n p

theorem mem_passed {a : Key} (there : a ∈ passed up n k) :
    up a ≠ none ∧ ∃ i < n, climb up i k = some a := by
  induction n generalizing k with
  | zero => cases there
  | succ n ih =>
    cases link : up k with
    | none =>
      rw [passed, link] at there
      cases there
    | some p =>
      rw [passed, link] at there
      rcases List.mem_cons.mp there with rfl | later
      · exact ⟨by rw [link]; exact Option.some_ne_none p, 0, Nat.succ_pos n, climb_zero⟩
      · obtain ⟨linked, i, lt, reached⟩ := ih later
        exact ⟨linked, i + 1, Nat.succ_lt_succ lt, (climb_link link).trans reached⟩

theorem passed_nodup (ends : Ends up k) : (passed up n k).Nodup := by
  induction n generalizing k with
  | zero => exact List.nodup_nil
  | succ n ih =>
    cases link : up k with
    | none =>
      rw [passed, link]
      exact List.nodup_nil
    | some p =>
      rw [passed, link]
      refine List.nodup_cons.mpr ⟨?_, ih ((ends_link link).mp ends)⟩
      intro again
      obtain ⟨-, i, -, reached⟩ := mem_passed again
      exact climb_cycle ((climb_link link).trans reached) ends

theorem passed_length (goes_on : climb up n k ≠ none) : (passed up n k).length = n := by
  induction n generalizing k with
  | zero => rfl
  | succ n ih =>
    cases link : up k with
    | none => exact absurd (climb_root link) goes_on
    | some p =>
      rw [climb_link link] at goes_on
      rw [passed, link, List.length_cons, ih goes_on]

theorem ends_within (keys : List Key) (linked : ∀ a, up a ≠ none → a ∈ keys) (ends : Ends up k) :
    climb up (keys.length + 1) k = none := by
  by_contra goes_on
  have long := passed_length goes_on
  have short : (passed up (keys.length + 1) k).length ≤ keys.length := by
    apply (passed_nodup ends).length_le_of_subset
    intro a there
    exact linked a (mem_passed there).1
  omega

theorem climb_fewer {fewer : Key → Option Key} (old : ∀ a b, fewer a = some b → up a = some b)
    (ended : climb up n k = none) : climb fewer n k = none := by
  induction n generalizing k with
  | zero => cases ended
  | succ n ih =>
    cases link : fewer k with
    | none => exact climb_root link
    | some p =>
      rw [climb_link (old k p link)] at ended
      rw [climb_link link]
      exact ih ended

theorem forest_of_fewer {fewer : Key → Option Key} (forest : Forest up)
    (old : ∀ a b, fewer a = some b → up a = some b) : Forest fewer := by
  intro k
  obtain ⟨n, ended⟩ := forest k
  exact ⟨n, climb_fewer old ended⟩

section Relink
variable [DecidableEq Key] {q : Key} {target : Option Key}

theorem climb_update_away (away : ∀ i < n, climb up i k ≠ some q) :
    climb (Function.update up q target) n k = climb up n k := by
  induction n generalizing k with
  | zero => rfl
  | succ n ih =>
    have other : k ≠ q := by
      intro same
      exact away 0 (Nat.succ_pos n) (by rw [same, climb_zero])
    rw [climb_succ, climb_succ, Function.update_of_ne other]
    cases link : up k with
    | none => rfl
    | some p =>
      rw [Option.bind_some, Option.bind_some]
      apply ih
      intro i lt reached
      exact away (i + 1) (Nat.succ_lt_succ lt) ((climb_link link).trans reached)

theorem climb_update_root (ended : climb up n k = none) :
    climb (Function.update up q none) n k = none := by
  induction n generalizing k with
  | zero => cases ended
  | succ n ih =>
    rw [climb_succ]
    by_cases same : k = q
    · rw [same, Function.update_self, Option.bind_none]
    · rw [Function.update_of_ne same]
      cases link : up k with
      | none => exact Option.bind_none _
      | some p =>
        rw [climb_link link] at ended
        exact ih ended

theorem climb_update_through (ends : Ends up k) (there : climb up m k = some q) :
    climb (Function.update up q target) (m + 1 + n) k =
      target.bind (climb (Function.update up q target) n) := by
  have reached : climb (Function.update up q target) m k = some q := by
    rw [climb_update_away]
    · exact there
    · intro i lt early
      have := climb_injective ends early there
      omega
  rw [Nat.add_assoc, climb_from reached, Nat.add_comm, climb_succ, Function.update_self]

theorem ends_update (ends : Ends up k)
    (target_ends : ∀ p ∈ target, Ends up p ∧ ∀ i, climb up i p ≠ some q) :
    Ends (Function.update up q target) k := by
  by_cases comes_by : ∃ m, climb up m k = some q
  · obtain ⟨m, there⟩ := comes_by
    cases target with
    | none => exact ⟨m + 1 + 0, climb_update_through ends there⟩
    | some p =>
      obtain ⟨⟨n, ended⟩, away⟩ := target_ends p rfl
      refine ⟨m + 1 + n, (climb_update_through ends there).trans ?_⟩
      rw [Option.bind_some, climb_update_away fun i _ => away i]
      exact ended
  · obtain ⟨n, ended⟩ := ends
    refine ⟨n, ?_⟩
    rw [climb_update_away fun i _ reached => comes_by ⟨i, reached⟩]
    exact ended

theorem climb_update_below (ends : Ends up k) (away : ∀ i, climb up i p ≠ some q)
    (before : climb up n k = none) (there : climb up m k = some q) :
    climb (Function.update up q (some p)) n k = climb up (n - 1 - m) p := by
  have short : m < n := by
    by_contra far
    rw [climb_mono before (Nat.le_of_not_lt far)] at there
    cases there
  have split : n = m + 1 + (n - 1 - m) := by omega
  calc climb (Function.update up q (some p)) n k
      = climb (Function.update up q (some p)) (m + 1 + (n - 1 - m)) k := by rw [← split]
    _ = climb (Function.update up q (some p)) (n - 1 - m) p := climb_update_through ends there ..
    _ = climb up (n - 1 - m) p := climb_update_away fun i _ => away i

theorem climb_update_iff (ends : Ends up k) (away : ∀ i, climb up i p ≠ some q) (before : climb up n k = none) :
    climb (Function.update up q (some p)) n k = none ↔
      ∀ m, climb up m k = some q → climb up (n - 1 - m) p = none := by
  constructor
  · intro ended m there
    rw [climb_update_below ends away before there] at ended
    exact ended
  · intro below
    by_cases comes_by : ∃ m, climb up m k = some q
    · obtain ⟨m, there⟩ := comes_by
      rw [climb_update_below ends away before there]
      exact below m there
    · rw [climb_update_away fun i _ reached => comes_by ⟨i, reached⟩]
      exact before

end Relink

end ParentLinks
