import Mathlib.Algebra.Group.Nat.Defs
import Mathlib.Data.List.Induction
import Mathlib.Tactic.Common

/- Codes that end in a padded decimal number behind a common prefix, and the numbers read back
   from them. -/
namespace NumberedCodes

/-- A decimal number with zeros in front up to the width. -/
def padStart (width n : Nat) : List Char := (Nat.toDigits 10 n).leftpad width '0'

/-- What `parseInt` reads in base ten: a sign after blanks, and then as many digits as there are. -/
def parseInt (s : List Char) : Option Int :=
  let digits := fun t : List Char =>
    match t.takeWhile Char.isDigit with
    | [] => none
    | read => some (Nat.ofDigitChars 10 read 0 : Int)
  match s.dropWhile Char.isWhitespace with
  | '-' :: rest => (digits rest).map (- ·)
  | '+' :: rest => digits rest
  | rest => digits rest

def codeOf (front : List Char) (width n : Nat) : List Char := front ++ padStart width n

/-- The largest number of the codes, read behind as many characters as the prefix has. -/
def maxSeqOf (codes : List (List Char)) (front : List Char) : Nat :=
  codes.foldl (fun mx code =>
    match parseInt (code.drop front.length) with
    | some n => if (mx : Int) < n then n.toNat else mx
    | none => mx) 0

section Numerals
variable {width n : Nat}

theorem padStart_digit {c : Char} (there : c ∈ padStart width n) : c.isDigit = true := by
  rw [padStart, List.leftpad, List.mem_append] at there
  rcases there with zero | digit
  · rw [List.eq_of_mem_replicate zero]
    rfl
  · exact Nat.isDigit_of_mem_toDigits (by decide) (by decide) digit

theorem padStart_value : Nat.ofDigitChars 10 (padStart width n) 0 = n := by
  rw [padStart, List.leftpad, Nat.ofDigitChars_append, Nat.ofDigitChars_replicate_zero, Nat.mul_zero,
    Nat.ofDigitChars_ten_toDigits]

theorem padStart_ne_nil : padStart width n ≠ [] := by
  rw [padStart, List.leftpad]
  exact List.append_ne_nil_of_right_ne_nil _ Nat.toDigits_ne_nil

theorem padStart_injective {m : Nat} (same : padStart width m = padStart width n) : m = n := by
  have value : Nat.ofDigitChars 10 (padStart width m) 0 = m := padStart_value
  rw [← value, same, padStart_value]

theorem padStart_length (positive : 0 < width) (fits : n < 10 ^ width) :
    (padStart width n).length = width := by
  have short : (Nat.toDigits 10 n).length ≤ width :=
    (Nat.length_toDigits_le_iff (by decide) positive).mpr fits
  rw [padStart, List.leftpad, List.length_append, List.length_replicate]
  omega

theorem separated_unique {a b x y : List Char} {separator : Char} (ends : separator.isDigit = false)
    (digits_a : ∀ c ∈ a, c.isDigit = true) (digits_b : ∀ c ∈ b, c.isDigit = true)
    (same : a ++ separator :: x = b ++ separator :: y) : a = b := by
  have read := congrArg (List.takeWhile Char.isDigit) same
  rw [List.takeWhile_append_of_pos digits_a, List.takeWhile_append_of_pos digits_b,
    List.takeWhile_cons_of_neg (by simp [ends]), List.takeWhile_cons_of_neg (by simp [ends])] at read
  simpa using read

theorem digit_not_blank {c : Char} (digit : c.isDigit = true) : c.isWhitespace = false := by
  by_contra blank
  rw [Bool.not_eq_false, Char.isWhitespace] at blank
  simp only [Bool.or_eq_true, decide_eq_true_eq] at blank
  rcases blank with ((rfl | rfl) | rfl) | rfl <;> simp [Char.isDigit] at digit

theorem parseInt_digits {text : List Char} (filled : text ≠ [])
    (digits : ∀ d ∈ text, d.isDigit = true) :
    parseInt text = some (Nat.ofDigitChars 10 text 0 : Int) := by
  obtain ⟨c, rest, rfl⟩ := List.exists_cons_of_ne_nil filled
  have first : c.isDigit = true := digits c List.mem_cons_self
  have whole : (c :: rest).takeWhile Char.isDigit = c :: rest := by
    rw [← List.append_nil (c :: rest), List.takeWhile_append_of_pos digits]
    rfl
  rw [parseInt, List.dropWhile_cons_of_neg (by simp [digit_not_blank first])]
  split
  · rename_i sign
    rw [List.cons.injEq] at sign
    rw [sign.1] at first
    cases first
  · rename_i sign
    rw [List.cons.injEq] at sign
    rw [sign.1] at first
    cases first
  · simp only [whole]

theorem parseInt_padStart : parseInt (padStart width n) = some (n : Int) := by
  rw [parseInt_digits padStart_ne_nil fun d there => padStart_digit there, padStart_value]

theorem parseInt_toDigits : parseInt (Nat.toDigits 10 n) = some (n : Int) := by
  rw [parseInt_digits Nat.toDigits_ne_nil
    fun d there => Nat.isDigit_of_mem_toDigits (by decide) (by decide) there,
    Nat.ofDigitChars_ten_toDigits]

end Numerals

section Codes
variable {codes : List (List Char)} {front : List Char} {width n : Nat}

theorem parseInt_codeOf : parseInt ((codeOf front width n).drop front.length) = some (n : Int) := by
  rw [codeOf, List.drop_left]
  exact parseInt_padStart

theorem maxSeqOf_snoc (codes : List (List Char)) (code front : List Char) :
    maxSeqOf (codes ++ [code]) front =
      max (maxSeqOf codes front) ((parseInt (code.drop front.length)).getD 0).toNat := by
  rw [maxSeqOf, List.foldl_append, List.foldl_cons, List.foldl_nil]
  change (match parseInt (code.drop front.length) with
    | some n => if (maxSeqOf codes front : Int) < n then n.toNat else maxSeqOf codes front
    | none => maxSeqOf codes front) = _
  cases parseInt (code.drop front.length) with
  | none => exact (Nat.max_zero _).symm
  | some read =>
    rw [Option.getD_some]
    by_cases larger : (maxSeqOf codes front : Int) < read
    · have below : maxSeqOf codes front ≤ read.toNat := by omega
      rw [Nat.max_eq_right below]
      exact if_pos larger
    · have above : read.toNat ≤ maxSeqOf codes front := by omega
      rw [Nat.max_eq_left above]
      exact if_neg larger

theorem le_maxSeqOf {code : List Char} {read : Int} (there : code ∈ codes)
    (number : parseInt (code.drop front.length) = some read) : read ≤ maxSeqOf codes front := by
  induction codes using List.reverseRecOn with
  | nil => cases there
  | append_singleton codes last ih =>
    rw [maxSeqOf_snoc]
    rcases List.mem_append.mp there with old | new
    · have := ih old
      omega
    · rw [List.mem_singleton.mp new] at number
      rw [number, Option.getD_some]
      omega

theorem maxSeqOf_le {bound : Nat} (all : ∀ code ∈ codes, ∀ read,
    parseInt (code.drop front.length) = some read → read ≤ bound) : maxSeqOf codes front ≤ bound := by
  induction codes using List.reverseRecOn with
  | nil => exact Nat.zero_le bound
  | append_singleton codes last ih =>
    rw [maxSeqOf_snoc]
    have before := ih fun code there => all code (List.mem_append_left _ there)
    have here := all last (List.mem_append_right _ (List.mem_singleton.mpr rfl))
    cases number : parseInt (last.drop front.length) with
    | none =>
      rw [Option.getD_none]
      omega
    | some read =>
      have bounded := here read number
      rw [Option.getD_some]
      omega

theorem fresh_above_max (above : maxSeqOf codes front < n) : codeOf front width n ∉ codes := by
  intro there
  have := le_maxSeqOf there parseInt_codeOf
  omega

theorem fresh_above_bound {bound : Nat} (all : ∀ code ∈ codes, front <+: code → ∀ read,
    parseInt (code.drop front.length) = some read → read ≤ bound) (above : bound < n) :
    codeOf front width n ∉ codes := by
  intro there
  have := all _ there (List.prefix_append front _) n parseInt_codeOf
  omega

end Codes
end NumberedCodes
