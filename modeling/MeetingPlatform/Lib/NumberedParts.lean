import Mathlib.Data.List.Basic
import Mathlib.Logic.Function.Basic
import Mathlib.Tactic.Common

/- Something that is written in parts, each under the next name of a sequence. What lies under the
   names that are not in use yet does not matter. -/
namespace NumberedParts
variable {Path A : Type}

abbrev Disk (Path A : Type) := Path → Option (List A)

section Reading
variable (disk : Disk Path A)

def content (p : Path) : List A := (disk p).getD []

def hasData (p : Path) : Bool := !(content disk p).isEmpty

def join (ps : List Path) : List A := ps.flatMap (content disk)

def names (name : Nat → Path) (n : Nat) : List Path := (List.range n).map name

def Kept (name : Nat → Path) (parts : List (List A)) : Prop :=
  ∀ i (inside : i < parts.length), disk (name i) = some parts[i]

end Reading

section Parts
variable {disk : Disk Path A} {name : Nat → Path} {parts : List (List A)}

theorem names_succ (n : Nat) : names name (n + 1) = names name n ++ [name n] := by
  rw [names, names, List.range_succ, List.map_append, List.map_singleton]

theorem mem_names {i n : Nat} (before : i < n) : name i ∈ names name n :=
  List.mem_map.mpr ⟨i, List.mem_range.mpr before, rfl⟩

theorem content_kept (kept : Kept disk name parts) {i : Nat} (inside : i < parts.length) :
    content disk (name i) = parts[i] := by
  rw [content, kept i inside, Option.getD_some]

theorem join_names (kept : Kept disk name parts) :
    join disk (names name parts.length) = parts.flatten := by
  have contents : (names name parts.length).map (content disk) = parts := by
    refine List.ext_getElem (by simp [names]) ?_
    intro i _ inside
    simp only [names, List.getElem_map, List.getElem_range]
    exact content_kept kept inside
  rw [join, List.flatMap, contents]

theorem hasData_eq_false {p : Path} : hasData disk p = false ↔ content disk p = [] := by
  rw [hasData, Bool.not_eq_false', List.isEmpty_iff]

theorem join_hasData (ps : List Path) : join disk (ps.filter (hasData disk)) = join disk ps := by
  simp only [join]
  induction ps with
  | nil => rfl
  | cons p ps ih =>
    rw [List.flatMap_cons, ← ih]
    by_cases data : hasData disk p = true
    · rw [List.filter_cons_of_pos data, List.flatMap_cons]
    · rw [List.filter_cons_of_neg data, hasData_eq_false.mp (Bool.eq_false_iff.mpr data),
        List.nil_append]

theorem join_valid (kept : Kept disk name parts) :
    join disk ((names name parts.length).filter (hasData disk)) = parts.flatten := by
  rw [join_hasData, join_names kept]

end Parts

section Writing
variable [DecidableEq Path] {disk : Disk Path A} {name : Nat → Path} {parts : List (List A)}

theorem kept_next (injective : Function.Injective name) (kept : Kept disk name parts) (data : List A) :
    Kept (Function.update disk (name parts.length) (some data)) name (parts ++ [data]) := by
  intro i inside
  rw [List.length_append, List.length_singleton] at inside
  rcases Nat.lt_succ_iff_lt_or_eq.mp inside with old | rfl
  · rw [Function.update_of_ne (injective.ne (Nat.ne_of_lt old)), List.getElem_append_left old]
    exact kept i old
  · rw [Function.update_self, List.getElem_concat_length rfl]

theorem kept_later (injective : Function.Injective name) (kept : Kept disk name parts) {k : Nat}
    (later : parts.length ≤ k) (written : Option (List A)) :
    Kept (Function.update disk (name k) written) name parts := by
  intro i inside
  rw [Function.update_of_ne (injective.ne (Nat.ne_of_lt (Nat.lt_of_lt_of_le inside later)))]
  exact kept i inside

end Writing

end NumberedParts
