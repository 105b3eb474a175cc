import MeetingPlatform.Lib.Patterns
import Mathlib.Data.List.DropRight

/- The sanitizer of the notes: six passes, of which each takes out the matches of one pattern, and a
   trim. The passes are made once, and nobody looks again at what they bring together. -/
namespace NoteContent
open Patterns

section Letters

/-- A string is a list of its code units. -/
abbrev Text := List UInt16

def units (text : String) : Text := text.toList.map fun c => c.toNat.toUInt16

/-- The flag `i` without `u` lets only the letters of ASCII stand for each other here. -/
def canonicalize (x : UInt16) : UInt16 := if 97 ≤ x ∧ x ≤ 122 then x - 32 else x

def literal (text : String) : List (UInt16 → Bool) :=
  (units text).map fun c x => canonicalize x == canonicalize c

def isWordChar (x : UInt16) : Bool :=
  (48 ≤ x ∧ x ≤ 57) ∨ (65 ≤ x ∧ x ≤ 90) ∨ (97 ≤ x ∧ x ≤ 122) ∨ x = 95

/-- The white space and the line ends of the language, for `\s` and for `trim`. -/
def isSpace (x : UInt16) : Bool :=
  (9 ≤ x ∧ x ≤ 13) ∨ x = 32 ∨ x = 160 ∨ x = 5760 ∨ (8192 ≤ x ∧ x ≤ 8202) ∨ x = 8232 ∨ x = 8233 ∨
    x = 8239 ∨ x = 8287 ∨ x = 12288 ∨ x = 65279

def isQuote (x : UInt16) : Bool := x = 34 ∨ x = 39

def isLess (x : UInt16) : Bool := x = 60

end Letters

section Expressions

def word (text : String) : Pattern UInt16 := .word (literal text)

def spaces : Pattern UInt16 := .star (.one isSpace)

def someSpace : Pattern UInt16 := .plus (.one isSpace)

def notLess : Pattern UInt16 := .star (.one fun x => !isLess x)

def notQuote : Pattern UInt16 := .star (.one fun x => !isQuote x)

/-- `<tag\b[^<]*(?:(?!<\/tag>)<[^<]*)*<\/tag>`. After a letter `\b` says that no other one follows. -/
def element (opening closing : String) : Pattern UInt16 :=
  .seq
    (.inTurn [word opening, .notAhead [isWordChar], notLess,
      .star (.inTurn [.notAhead (literal closing), .one isLess, notLess])])
    (word closing)

def scriptElement : Pattern UInt16 := element "<script" "</script>"

def iframeElement : Pattern UInt16 := element "<iframe" "</iframe>"

def styleElement : Pattern UInt16 := element "<style" "</style>"

/-- `\s+on\w+\s*=\s*`, and the value. -/
def handlerOf (value : List (Pattern UInt16)) : Pattern UInt16 :=
  .inTurn ([someSpace, word "on", .plus (.one isWordChar), spaces, word "=", spaces] ++ value)

def quotedHandler : Pattern UInt16 := handlerOf [.one isQuote, notQuote, .one isQuote]

def handler : Pattern UInt16 := handlerOf [.plus (.one fun x => !isSpace x)]

def scriptUrl : Pattern UInt16 :=
  .inTurn [someSpace, .alt (word "href") (.alt (word "src") (word "action")), spaces, word "=", spaces,
    .one isQuote, spaces, .alt (word "javascript") (.alt (word "data") (word "vbscript")), spaces,
    word ":", notQuote, .one isQuote]

end Expressions

section Sanitizing
variable {β : Type} (letter : β → UInt16)

def trim (s : List β) : List β :=
  (s.dropWhile fun b => isSpace (letter b)).rdropWhile fun b => isSpace (letter b)

def sanitize (input : List β) : List β :=
  if input.isEmpty then []
  else
    let result := removeAll letter scriptElement input
    let result := removeAll letter iframeElement result
    let result := removeAll letter quotedHandler result
    let result := removeAll letter handler result
    let result := removeAll letter scriptUrl result
    let result := removeAll letter styleElement result
    trim letter result

def sanitizeNoteContent (input : Text) : Text := sanitize id input

def passes : List (Pattern UInt16) :=
  [scriptElement, iframeElement, quotedHandler, handler, scriptUrl, styleElement]

end Sanitizing

section Passes
variable {β : Type} {letter : β → UInt16} {a : Pattern UInt16}

theorem sanitize_eq (letter : β → UInt16) (input : List β) :
    sanitize letter input = trim letter (afterPasses letter passes input) := by
  cases input with
  | nil =>
    rw [afterPasses_nil]
    rfl
  | cons b input =>
    rw [sanitize, if_neg (by rw [List.isEmpty_cons]; exact Bool.false_ne_true)]
    simp only [afterPasses, passes, List.foldl_cons, List.foldl_nil]

theorem trim_infix (letter : β → UInt16) (s : List β) : trim letter s <:+: s :=
  ( List.rdropWhile_prefix _ _).isInfix.trans (List.dropWhile_suffix _).isInfix

theorem trim_trim (s : List β) : trim letter (trim letter s) = trim letter s := by
  unfold trim
  generalize (fun b => isSpace (letter b)) = space
  obtain ⟨rest, split⟩ := List.rdropWhile_prefix space (s.dropWhile space)
  have started : ((s.dropWhile space).rdropWhile space).dropWhile space =
      (s.dropWhile space).rdropWhile space := by
    cases kept : (s.dropWhile space).rdropWhile space with
    | nil => rfl
    | cons b others =>
      rw [kept] at split
      have first := List.head?_dropWhile_not space s
      rw [← split] at first
      exact List.dropWhile_cons_of_neg (by rw [Bool.not_eq_true]; exact first)
  rw [started, List.rdropWhile_idempotent]

theorem element_anywhere {opening closing : String} (long : 1 ≤ (literal closing).length) :
    (element opening closing).Local := by
  refine local_before_word ?_
  simp only [Pattern.inTurn, List.foldr, Pattern.looks, word, word_looks, notLess,
    List.length_singleton]
  omega

theorem passes_anywhere : ∀ a ∈ passes, a.Local := by
  intro a there
  simp only [passes, List.mem_cons, List.not_mem_nil, or_false] at there
  rcases there with rfl | rfl | rfl | rfl | rfl | rfl
  · exact element_anywhere (by decide)
  · exact element_anywhere (by decide)
  · exact local_of_looks rfl
  · exact local_of_looks rfl
  · exact local_of_looks rfl
  · exact element_anywhere (by decide)

theorem passes_proper : ∀ a ∈ passes, 0 < a.least := by
  decide

theorem trim_map (s : List β) : trim id (s.map letter) = (trim letter s).map letter := by
  simp only [trim, List.rdropWhile, List.dropWhile_map, ← List.map_reverse, Function.comp_def, id_eq]

theorem sanitize_map (input : List β) :
    sanitizeNoteContent (input.map letter) = (sanitize letter input).map letter := by
  rw [sanitizeNoteContent, sanitize_eq, sanitize_eq, afterPasses_map, trim_map]

end Passes

section Joined
variable {input text : Text}

def Clean (text : Text) : Prop := ∀ a ∈ passes, ¬ Found id a text

/-- In no pass does what is taken out bring a match of the pass or of an earlier one together of which
    nothing is taken out later. The characters are told apart by their places in the input. -/
def NothingJoined (input : Text) : Prop :=
  JoinsNothing Prod.fst (trim Prod.fst) [] passes input.zipIdx

theorem clean_iff (input : Text) : Clean (sanitizeNoteContent input) ↔ NothingJoined input := by
  have distinct : input.zipIdx.Nodup := by
    apply List.Nodup.of_map Prod.snd
    rw [List.zipIdx_map_snd]
    exact List.nodup_range'
  have letters : sanitizeNoteContent input = (sanitize Prod.fst input.zipIdx).map Prod.fst := by
    rw [← sanitize_map, List.zipIdx_map_fst]
  rw [NothingJoined, ← unfound_iff ( trim_infix Prod.fst) distinct passes_proper passes_anywhere, Clean,
    letters, sanitize_eq]
  simp only [found_map]

theorem sanitize_clean (clean : Clean text) : sanitizeNoteContent text = trim id text := by
  have untouched : ∀ patterns ⊆ passes, afterPasses id patterns text = text := by
    intro patterns among
    induction patterns with
    | nil => rfl
    | cons a patterns ih =>
      obtain ⟨here, others⟩ := List.cons_subset.mp among
      have same := removes_unfound (removeAll_removes id a text) (clean a here)
      rw [afterPasses, List.foldl_cons, same]
      exact ih others
  rw [sanitizeNoteContent, sanitize_eq, untouched passes (List.Subset.refl _)]

/-- A sanitized note has nothing left that the sanitizer would take out, and stays as it is, exactly when
    no pass joins a match that is left. -/
theorem sanitized_iff (input : Text) :
    (Clean (sanitizeNoteContent input) ∧
      sanitizeNoteContent (sanitizeNoteContent input) = sanitizeNoteContent input) ↔
      NothingJoined input := by
  rw [← clean_iff]
  constructor
  · exact And.left
  · intro clean
    refine ⟨clean, ?_⟩
    rw [sanitize_clean clean, sanitizeNoteContent, sanitize_eq, trim_trim]

def nestedScript : Text := units "<scr<script></script>ipt></script>"

theorem nested_script_left : ¬ ∀ input, Clean (sanitizeNoteContent input) ∧
    sanitizeNoteContent (sanitizeNoteContent input) = sanitizeNoteContent input := by
  intro claimed
  have left : sanitizeNoteContent nestedScript = units "<script></script>" := by decide +kernel
  have again := (claimed nestedScript).2
  rw [left] at again
  exact absurd again (by decide +kernel)

end Joined

end NoteContent
