import Mathlib.Data.List.Basic
import Mathlib.Tactic.Common

/- Texts with a tag behind their last separator. Whoever holds the key can compute the tag of a text,
   and a text is taken for genuine when its tag is the one it should have. -/
namespace SignedTexts
variable {α : Type} [DecidableEq α]

/-- What stands before the last separator, and what stands behind it. -/
def cutLast (separator : α) : List α → Option (List α × List α)
  | [] => none
  | c :: rest =>
    match cutLast separator rest with
    | some (front, back) => some (c :: front, back)
    | none => if c = separator then some ([], rest) else none

def sign (mac : List α → List α) (separator : α) (payload : List α) : List α :=
  payload ++ separator :: mac payload

def openSigned (mac : List α → List α) (separator : α) (text : List α) : Option (List α) :=
  match cutLast separator text with
  | none => none
  | some (payload, tag) => if tag = mac payload then some payload else none

/-- Nobody without the key can make the tag of a text that was never signed. -/
def Unforged (mac : List α → List α) (separator : α) (signed : List (List α)) (text : List α) : Prop :=
  ∀ payload, text = sign mac separator payload → payload ∈ signed

variable {separator : α} {text front back : List α}

theorem cutLast_eq_none : cutLast separator text = none ↔ separator ∉ text := by
  induction text with
  | nil => simp [cutLast]
  | cons c rest ih =>
    cases later : cutLast separator rest with
    | some parts =>
      have inside : separator ∈ rest := by
        by_contra missing
        rw [ih.mpr missing] at later
        cases later
      simp [cutLast, later, inside]
    | none =>
      have outside : separator ∉ rest := ih.mp later
      by_cases here : c = separator
      · simp [cutLast, later, here]
      · simp [cutLast, later, here, outside, Ne.symm here]

theorem cutLast_append (clean : separator ∉ back) :
    cutLast separator (front ++ separator :: back) = some (front, back) := by
  induction front with
  | nil => simp [cutLast, cutLast_eq_none.mpr clean]
  | cons c front ih =>
    rw [List.cons_append, cutLast, ih]

theorem cutLast_eq_some :
    cutLast separator text = some (front, back) ↔
      text = front ++ separator :: back ∧ separator ∉ back := by
  constructor
  · intro cut
    induction text generalizing front with
    | nil => cases cut
    | cons c rest ih =>
      rw [cutLast] at cut
      cases later : cutLast separator rest with
      | some parts =>
        rw [later, Option.some.injEq, Prod.mk.injEq] at cut
        obtain ⟨written, clean⟩ := @ih parts.1 (by rw [later, ← cut.2])
        rw [← cut.1, List.cons_append, ← written]
        exact ⟨rfl, clean⟩
      | none =>
        simp only [later] at cut
        split at cut
        · rename_i here
          rw [Option.some.injEq, Prod.mk.injEq] at cut
          rw [← cut.1, ← cut.2, here]
          exact ⟨rfl, cutLast_eq_none.mp later⟩
        · cases cut
  · rintro ⟨rfl, clean⟩
    exact cutLast_append clean

theorem openSigned_eq_some {mac : List α → List α} {payload : List α}
    (clean : ∀ p, separator ∉ mac p) :
    openSigned mac separator text = some payload ↔ text = sign mac separator payload := by
  constructor
  · intro opened
    rw [openSigned] at opened
    split at opened
    · cases opened
    · rename_i found tag cut
      split at opened
      · rename_i genuine
        rw [← Option.some.inj opened, sign, ← genuine]
        exact (cutLast_eq_some.mp cut).1
      · cases opened
  · rintro rfl
    rw [openSigned, sign, cutLast_append (clean payload)]
    simp

theorem opened_signed {mac : List α → List α} {payload : List α} {signed : List (List α)}
    (clean : ∀ p, separator ∉ mac p) (unforged : Unforged mac separator signed text)
    (opened : openSigned mac separator text = some payload) : payload ∈ signed :=
  unforged payload ((openSigned_eq_some clean).mp opened)

theorem sign_unforged {mac : List α → List α} {payload : List α} {signed : List (List α)}
    (clean : ∀ p, separator ∉ mac p) (there : payload ∈ signed) :
    Unforged mac separator signed (sign mac separator payload) := by
  intro other same
  have opened := (openSigned_eq_some clean).mpr same
  rw [(openSigned_eq_some clean).mpr rfl, Option.some.injEq] at opened
  rw [← opened]
  exact there

end SignedTexts
