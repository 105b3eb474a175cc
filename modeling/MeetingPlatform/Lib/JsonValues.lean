import MeetingPlatform.Lib.Doubles

/- Values as they come from a JSON text, and what the language makes of them where it expects a text, a
   number or a date. -/
namespace JsonValues
open Doubles

/-- A number of the language that is not `NaN`. -/
inductive Number where
  | finite (x : ℚ)
  | infinite (negative : Bool)
  deriving DecidableEq

inductive Json where
  | null
  | bool (b : Bool)
  | num (n : Number)
  | str (s : String)
  | arr (elements : List Json)
  | obj (fields : List (String × Json))

inductive JsError where
  | typeError | rangeError
  deriving DecidableEq, Repr

/-- How the engine reads and writes numbers and reads dates. `none` is what is not a number, and an
    invalid date. -/
structure Texts where
  number : String → Option Number
  text : Number → String
  date : String → Option Int

section Conversions
variable (t : Texts)

def Json.truthy : Json → Bool
  | .null => false
  | .bool b => b
  | .num n => n ≠ .finite 0
  | .str s => s ≠ ""
  | .arr _ | .obj _ => true

def hasField (fields : List (String × Json)) (key : String) : Bool := fields.any fun f => f.1 == key

/- The text of a value. An object whose own field hides the `toString` of its prototype has none. -/
mutual

def Json.text : Json → Except JsError String
  | .null => .ok "null"
  | .bool b => .ok (if b then "true" else "false")
  | .num n => .ok (t.text n)
  | .str s => .ok s
  | .arr elements => (elementTexts elements).map (",".intercalate ·)
  | .obj fields => if hasField fields "toString" then .error .typeError else .ok "[object Object]"

def elementTexts : List Json → Except JsError (List String)
  | [] => .ok []
  | .null :: rest => (elementTexts rest).map ("" :: ·)
  | element :: rest =>
    match element.text with
    | .ok text => (elementTexts rest).map (text :: ·)
    | .error e => .error e

end

/-- `Number(value)`. -/
def Json.number : Json → Except JsError (Option Number)
  | .null => .ok (some (.finite 0))
  | .bool b => .ok (some (.finite (if b then 1 else 0)))
  | .num n => .ok (some n)
  | .str s => .ok (t.number s)
  | v => (v.text t).map t.number

inductive Json.Convertible : Json → Prop where
  | null : Convertible .null
  | bool (b : Bool) : Convertible (.bool b)
  | num (n : Number) : Convertible (.num n)
  | str (s : String) : Convertible (.str s)
  | arr {elements : List Json} (each : ∀ e ∈ elements, e.Convertible) : Convertible (.arr elements)
  | obj {fields : List (String × Json)} (plain : hasField fields "toString" = false) :
      Convertible (.obj fields)

end Conversions

section Dates

def maxTime : ℚ := 8640000000000000

def truncate (x : ℚ) : Int := if 0 ≤ x then ⌊x⌋ else ⌈x⌉

def dateOfNumber : Number → Option Int
  | .finite x => if |x| ≤ maxTime then some (truncate x) else none
  | .infinite _ => none

def Number.times (n : Number) (k : ℚ) : Number :=
  match n with
  | .finite x => .finite (fl (x * k))
  | .infinite negative => .infinite negative

def Number.above (n : Number) (bound : ℚ) : Bool :=
  match n with
  | .finite x => bound < x
  | .infinite negative => !negative

/-- `new Date(value)` for a value that is not a number. -/
def Json.date (t : Texts) (v : Json) : Except JsError (Option Int) := (v.text t).map t.date

/-- `toISOString` stands for the instant whose text it makes. -/
def toISOString (date : Option Int) : Except JsError Int :=
  match date with
  | some instant => .ok instant
  | none => .error .rangeError

end Dates

section Laws
variable {t : Texts} {v : Json}

theorem map_ok {α β : Type} {f : α → β} {x : Except JsError α} :
    (∃ b, x.map f = .ok b) ↔ ∃ a, x = .ok a := by
  cases x with
  | ok a => exact iff_of_true ⟨f a, rfl⟩ ⟨a, rfl⟩
  | error e => exact iff_of_false (by rintro ⟨b, ⟨⟩⟩) (by rintro ⟨a, ⟨⟩⟩)

theorem elementTexts_cons (e : Json) (rest : List Json) :
    (∃ texts, elementTexts t (e :: rest) = .ok texts) ↔
      (∃ s, e.text t = .ok s) ∧ ∃ texts, elementTexts t rest = .ok texts := by
  by_cases none : e = .null
  · rw [none, elementTexts, map_ok]
    exact (and_iff_right ⟨"null", rfl⟩).symm
  · rw [elementTexts.eq_3 t e rest none]
    cases text : e.text t with
    | ok s =>
      dsimp only
      rw [map_ok]
      exact (and_iff_right ⟨s, rfl⟩).symm
    | error e =>
      refine iff_of_false (by rintro ⟨texts, ⟨⟩⟩) ?_
      rintro ⟨⟨s, ⟨⟩⟩, -⟩

theorem text_ok_iff (v : Json) : (∃ s, v.text t = .ok s) ↔ v.Convertible := by
  refine @Json.rec (fun v => (∃ s, v.text t = .ok s) ↔ v.Convertible)
    (fun elements => (∃ texts, elementTexts t elements = .ok texts) ↔ ∀ e ∈ elements, e.Convertible)
    (fun _ => True) (fun _ => True) ?null ?bool ?num ?str ?arr ?obj ?nil ?cons trivial
    (fun _ _ _ _ => trivial) (fun _ _ _ => trivial) v
  case null => exact iff_of_true ⟨_, rfl⟩ .null
  case bool =>
    intro b
    exact iff_of_true ⟨_, rfl⟩ (.bool b)
  case num =>
    intro n
    exact iff_of_true ⟨_, rfl⟩ (.num n)
  case str =>
    intro s
    exact iff_of_true ⟨_, rfl⟩ (.str s)
  case arr =>
    intro elements each
    rw [Json.text, map_ok, each]
    constructor
    · exact .arr
    · rintro (_ | _ | _ | _ | convertible)
      exact convertible
  case obj =>
    intro fields _
    rw [Json.text]
    cases own : hasField fields "toString" with
    | true =>
      refine iff_of_false (by rintro ⟨s, ⟨⟩⟩) ?_
      rintro (_ | _ | _ | _ | _ | plain)
      rw [own] at plain
      cases plain
    | false => exact iff_of_true ⟨_, rfl⟩ (.obj own)
  case nil => exact iff_of_true ⟨[], rfl⟩ (by simp)
  case cons =>
    intro e rest head tail
    rw [elementTexts_cons, head, tail, List.forall_mem_cons]

theorem number_ok_iff (v : Json) : (∃ n, v.number t = .ok n) ↔ v.Convertible := by
  cases v with
  | null => exact iff_of_true ⟨_, rfl⟩ .null
  | bool b => exact iff_of_true ⟨_, rfl⟩ (.bool b)
  | num n => exact iff_of_true ⟨_, rfl⟩ (.num n)
  | str s => exact iff_of_true ⟨_, rfl⟩ (.str s)
  | arr elements => exact map_ok.trans (text_ok_iff _)
  | obj fields => exact map_ok.trans (text_ok_iff _)

end Laws

end JsonValues
