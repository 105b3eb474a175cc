import Mathlib.Data.List.Basic
import Mathlib.Tactic.Common

/- Absolute paths as the names on the way from the root. A path that is written relative to another
   is resolved without a look at the disk. -/
namespace Paths

abbrev Name := List Char

def names (text : List Char) : List Name := text.splitOn '/'

def enter (way : List Name) (name : Name) : List Name :=
  if name = [] ∨ name = ['.'] then way
  else if name = ['.', '.'] then way.dropLast
  else way ++ [name]

def isAbsolute (text : List Char) : Bool := text.head? = some '/'

def resolve (start : List Name) (text : List Char) : List Name :=
  (names text).foldl enter (if isAbsolute text then [] else start)

def written (way : List Name) : List Char :=
  if way = [] then ['/'] else way.flatMap ('/' :: ·)

/-- The test for a path in or below a directory, made on the texts. -/
def isWithin (base path : List Name) : Bool :=
  written path = written base || (written base ++ ['/']).isPrefixOf (written path)

/-- The names of a resolved path. -/
def Clean (way : List Name) : Prop := ∀ name ∈ way, name ≠ [] ∧ '/' ∉ name

instance (way : List Name) : Decidable (Clean way) :=
  inferInstanceAs (Decidable (∀ name ∈ way, name ≠ [] ∧ '/' ∉ name))

section Resolving
variable {start way : List Name} {text : List Char} {name : Name}

theorem names_slashless : ∀ name ∈ names text, '/' ∉ name := by
  induction text with
  | nil => simp [names]
  | cons c text ih =>
    intro name there
    rw [names, List.splitOn_cons_eq_if_modifyHead] at there
    split at there
    · rcases List.mem_cons.mp there with rfl | later
      · exact List.not_mem_nil
      · exact ih name later
    · rename_i other
      cases parts : List.splitOn '/' text with
      | nil => exact absurd parts (List.splitOn_ne_nil _ _)
      | cons first more =>
        rw [names, parts] at ih
        rw [parts, List.modifyHead_cons] at there
        rcases List.mem_cons.mp there with rfl | later
        · intro slash
          rcases List.mem_cons.mp slash with here | inside
          · exact other (by simp [← here])
          · exact ih first List.mem_cons_self inside
        · exact ih name (List.mem_cons_of_mem _ later)

theorem enter_clean (clean : Clean way) (slashless : '/' ∉ name) : Clean (enter way name) := by
  rw [enter]
  split
  · exact clean
  · rename_i named
    split
    · exact fun other there => clean other (List.dropLast_subset _ there)
    · intro other there
      rcases List.mem_append.mp there with old | new
      · exact clean other old
      · rw [List.mem_singleton.mp new]
        exact ⟨fun empty => named (Or.inl empty), slashless⟩

theorem enter_all_clean {parts : List Name} (clean : Clean way)
    (slashless : ∀ name ∈ parts, '/' ∉ name) : Clean (parts.foldl enter way) := by
  induction parts generalizing way with
  | nil => exact clean
  | cons name parts ih =>
    exact ih (enter_clean clean (slashless name List.mem_cons_self))
      fun other there => slashless other (List.mem_cons_of_mem _ there)

theorem resolve_clean (clean : Clean start) : Clean (resolve start text) := by
  rw [resolve]
  have begin_clean : Clean (if isAbsolute text then [] else start) := by
    split
    · exact fun _ there => absurd there List.not_mem_nil
    · exact clean
  exact enter_all_clean begin_clean names_slashless

end Resolving

section Texts
variable {a b base path : List Name} {n m x y : List Char}

theorem name_unique (left : '/' ∉ n) (right : '/' ∉ m) (starts : x.head? = some '/')
    (follows : y = [] ∨ y.head? = some '/') (same : n ++ x = m ++ y) : n = m := by
  have taken : ∀ {name rest : List Char}, '/' ∉ name → rest = [] ∨ rest.head? = some '/' →
      (name ++ rest).takeWhile (· ≠ '/') = name := by
    intro name rest slashless next
    rw [List.takeWhile_append_of_pos]
    · rcases next with rfl | next
      · simp
      · obtain ⟨tail, rfl⟩ := List.head?_eq_some_iff.mp next
        simp
    · intro c there
      exact decide_eq_true fun slash => slashless (slash ▸ there)
  rw [← taken left (Or.inr starts), same, taken right follows]

theorem flat_head (way : List Name) :
    way.flatMap ('/' :: ·) = [] ∨ (way.flatMap ('/' :: ·)).head? = some '/' := by
  cases way with
  | nil => exact Or.inl rfl
  | cons name way => exact Or.inr rfl

theorem flat_prefix_iff (clean_a : Clean a) (clean_b : Clean b) :
    a.flatMap ('/' :: ·) ++ ['/'] <+: b.flatMap ('/' :: ·) ↔ a <+: b ∧ a ≠ b := by
  induction a generalizing b with
  | nil =>
    cases b with
    | nil => simp
    | cons m b => simp
  | cons n a ih =>
    cases b with
    | nil => simp
    | cons m b =>
      have clean_n := clean_a n List.mem_cons_self
      have clean_m := clean_b m List.mem_cons_self
      have rest_a : Clean a := fun name there => clean_a name (List.mem_cons_of_mem _ there)
      have rest_b : Clean b := fun name there => clean_b name (List.mem_cons_of_mem _ there)
      have inner := ih rest_a rest_b
      simp only [List.flatMap_cons, List.cons_append, List.append_assoc, List.cons_prefix_cons,
        true_and]
      constructor
      · rintro ⟨tail, same⟩
        have starts : (a.flatMap ('/' :: ·) ++ ['/'] ++ tail).head? = some '/' := by
          rcases flat_head a with none | some
          · rw [none]
            rfl
          · obtain ⟨rest, written⟩ := List.head?_eq_some_iff.mp some
            rw [written]
            rfl
        have named : n = m := by
          refine name_unique clean_n.2 clean_m.2 starts (flat_head b) ?_
          simpa using same
        subst named
        rw [List.append_assoc, List.append_cancel_left_eq] at same
        obtain ⟨below, other⟩ := inner.mp ⟨tail, by simpa using same⟩
        exact ⟨⟨rfl, below⟩, fun equal => other (List.cons.inj equal).2⟩
      · rintro ⟨⟨rfl, below⟩, other⟩
        obtain ⟨tail, same⟩ := inner.mpr ⟨below, fun equal => other (by rw [equal])⟩
        exact ⟨tail, by simpa using same⟩

theorem flat_eq_intercalate (way : List Name) :
    way.flatMap ('/' :: ·) = ['/'].intercalate ([] :: way) := by
  induction way with
  | nil => rfl
  | cons name way ih =>
    rw [List.flatMap_cons, ih]
    cases way with
    | nil => simp
    | cons next way => simp

theorem flat_injective (clean_a : Clean a) (clean_b : Clean b)
    (same : a.flatMap ('/' :: ·) = b.flatMap ('/' :: ·)) : a = b := by
  have read : ∀ {way : List Name}, Clean way → (way.flatMap ('/' :: ·)).splitOn '/' = [] :: way := by
    intro way clean
    have slashless : ∀ name ∈ [] :: way, '/' ∉ name := by
      intro name there
      rcases List.mem_cons.mp there with rfl | inside
      · exact List.not_mem_nil
      · exact (clean name inside).2
    rw [flat_eq_intercalate, List.splitOn_intercalate '/' slashless (List.cons_ne_nil _ _)]
  have equal := read clean_a
  rw [same, read clean_b] at equal
  exact (List.cons.inj equal).2.symm

theorem written_of_ne (below : a ≠ []) : written a = a.flatMap ('/' :: ·) := if_neg below

theorem written_second (clean : Clean a) (below : a ≠ []) :
    ∃ c rest, written a = '/' :: c :: rest ∧ c ≠ '/' := by
  cases a with
  | nil => exact absurd rfl below
  | cons name way =>
    obtain ⟨filled, slashless⟩ := clean name List.mem_cons_self
    obtain ⟨c, letters, rfl⟩ := List.exists_cons_of_ne_nil filled
    refine ⟨c, letters ++ way.flatMap ('/' :: ·), rfl, ?_⟩
    rintro rfl
    exact slashless List.mem_cons_self

theorem written_injective (clean_a : Clean a) (clean_b : Clean b) (same : written a = written b) :
    a = b := by
  by_cases root_a : a = []
  · by_contra other
    obtain ⟨c, rest, text, -⟩ := written_second clean_b fun root_b => other (root_a.trans root_b.symm)
    rw [root_a, text] at same
    cases same
  · by_cases root_b : b = []
    · obtain ⟨c, rest, text, -⟩ := written_second clean_a root_a
      rw [root_b, text] at same
      cases same
    · rw [written_of_ne root_a, written_of_ne root_b] at same
      exact flat_injective clean_a clean_b same

theorem root_test (clean : Clean path) : ¬ written [] ++ ['/'] <+: written path := by
  rintro ⟨tail, same⟩
  by_cases root : path = []
  · rw [root] at same
    cases same
  · obtain ⟨c, rest, text, letter⟩ := written_second clean root
    rw [text] at same
    exact letter (List.cons.inj (List.cons.inj same).2).1.symm

theorem below_test (clean_base : Clean base) (clean_path : Clean path) (below : base ≠ []) :
    written base ++ ['/'] <+: written path ↔ base <+: path ∧ base ≠ path := by
  rw [written_of_ne below]
  by_cases root : path = []
  · subst root
    obtain ⟨c, rest, text, -⟩ := written_second clean_base below
    rw [written_of_ne below] at text
    simp [text, below, written]
  · rw [written_of_ne root]
    exact flat_prefix_iff clean_base clean_path

theorem isWithin_iff (clean_base : Clean base) (clean_path : Clean path) :
    isWithin base path = true ↔ path = base ∨ base ≠ [] ∧ base <+: path := by
  rw [isWithin, Bool.or_eq_true, decide_eq_true_eq, List.isPrefixOf_iff_prefix]
  have same_text : written path = written base ↔ path = base :=
    ⟨written_injective clean_path clean_base, fun same => by rw [same]⟩
  rw [same_text]
  by_cases root : base = []
  · subst root
    simp only [root_test clean_path, ne_eq, not_true_eq_false, false_and]
  · rw [below_test clean_base clean_path root]
    constructor
    · rintro (same | ⟨below, -⟩)
      · exact Or.inl same
      · exact Or.inr ⟨root, below⟩
    · rintro (same | ⟨-, below⟩)
      · exact Or.inl same
      · by_cases same : path = base
        · exact Or.inl same
        · exact Or.inr ⟨below, Ne.symm same⟩

theorem isWithin_begins (clean_base : Clean base) (clean_path : Clean path)
    (within : isWithin base path = true) : base <+: path := by
  rcases (isWithin_iff clean_base clean_path).mp within with same | ⟨-, below⟩
  · exact ⟨[], by rw [List.append_nil, same]⟩
  · exact below

end Texts
end Paths
