import Mathlib.Algebra.Order.Monoid.Defs
import Mathlib.Data.Set.Finite.Lemmas

/- Presence seen at single instants. Somebody is there at some instants and nobody at others; a
   departure is an empty instant after which nobody comes back for a while. Between departures lie
   the stretches of presence. -/
namespace Stretches
variable {T : Type} [LinearOrder T]

/-- What has been seen, looked at from `start` to `bound`. Who comes back within the tolerance has
    not left, and this is looked up beyond the bound too. -/
structure View (T : Type) where
  positive : Set T
  zero : Set T
  tolerance : T
  start : T
  bound : T

structure View.Finite (v : View T) : Prop where
  positive : v.positive.Finite
  zero : v.zero.Finite

section Looks
variable {v w : View T}

structure View.Seen (v : View T) (p : T) : Prop where
  positive : p ∈ v.positive
  started : v.start ≤ p
  bounded : p ≤ v.bound

/-- A later look at the same presence: what is new lies after the bound of the first look, and after
    everybody seen in it. -/
structure Extends (v w : View T) : Prop where
  tolerance : w.tolerance = v.tolerance
  start : w.start = v.start
  bound : v.bound ≤ w.bound
  positive : v.positive ⊆ w.positive
  zero : v.zero ⊆ w.zero
  new_positive : ∀ p ∈ w.positive, p ∉ v.positive → v.bound ≤ p ∧ ∀ q ∈ v.positive, q ≤ p
  new_zero : ∀ z ∈ w.zero, z ∉ v.zero → v.bound ≤ z ∧ ∀ q ∈ v.positive, q ≤ z

theorem seen_later (later : Extends v w) {p : T} (seen : v.Seen p) : w.Seen p where
  positive := later.positive seen.positive
  started := later.start ▸ seen.started
  bounded := le_trans seen.bounded later.bound

theorem seen_before (later : Extends v w) {q p : T} (seen : v.Seen q) (there : w.Seen p)
    (before : p < q) : v.Seen p where
  positive := by
    by_contra new
    exact not_lt.mpr ((later.new_positive p there.positive new).2 q seen.positive) before
  started := later.start ▸ there.started
  bounded := le_trans before.le seen.bounded

end Looks

variable [AddCommMonoid T]

section Definitions
variable (v : View T)

structure View.Departs (d : T) : Prop where
  zero : d ∈ v.zero
  started : v.start ≤ d
  bounded : d ≤ v.bound
  away : ∀ p ∈ v.positive, d < p → d + v.tolerance < p

def View.Joined (p q : T) : Prop := ∀ d, v.Departs d → p ≤ d → q ≤ d

structure View.Begins (s : T) : Prop where
  seen : v.Seen s
  first : ∀ p, v.Seen p → p < s → ∃ d, v.Departs d ∧ p ≤ d ∧ d < s

/-- The last instant of the stretch from `s` on. -/
structure View.LastOf (s l : T) : Prop where
  seen : v.Seen l
  after : s ≤ l
  joined : v.Joined s l
  greatest : ∀ q, v.Seen q → s ≤ q → v.Joined s q → q ≤ l

inductive View.EndsAt (l : T) : T → Prop where
  | departed {d : T} (departs : v.Departs d) (later : l < d)
      (next : ∀ c, v.Departs c → l < c → d ≤ c) : View.EndsAt l d
  | ongoing (stays : ∀ c, v.Departs c → c ≤ l) : View.EndsAt l v.bound

/-- The stretch from `s` on takes the duration or longer. -/
def View.Lasts (duration s : T) : Prop :=
  ∃ l e, v.LastOf s l ∧ v.EndsAt l e ∧ s + duration ≤ e

structure View.FirstLasting (duration s : T) : Prop where
  begins : v.Begins s
  lasts : v.Lasts duration s
  least : ∀ r, v.Begins r → v.Lasts duration r → s ≤ r

end Definitions

section Existence
variable {v : View T}

theorem joined_self (s : T) : v.Joined s s := fun _ _ after => after

theorem departure_of_not_joined {p q : T} (apart : ¬ v.Joined p q) :
    ∃ d, v.Departs d ∧ p ≤ d ∧ d < q := by
  simp only [View.Joined, not_forall, not_le] at apart
  obtain ⟨d, departs, after, before⟩ := apart
  exact ⟨d, departs, after, before⟩

theorem exists_lastOf (finite : v.Finite) {s : T} (seen : v.Seen s) : ∃ l, v.LastOf s l := by
  have reached : Set.Finite {q | v.Seen q ∧ s ≤ q ∧ v.Joined s q} :=
    finite.positive.subset fun q there => there.1.positive
  obtain ⟨l, ⟨seenL, after, joined⟩, greatest⟩ :=
    Set.exists_max_image _ id reached ⟨s, seen, le_refl s, joined_self s⟩
  exact ⟨l, seenL, after, joined, fun q seenQ later reaches => greatest q ⟨seenQ, later, reaches⟩⟩

theorem exists_endsAt (finite : v.Finite) (l : T) : ∃ e, v.EndsAt l e := by
  by_cases some_later : ∃ d, v.Departs d ∧ l < d
  · have departures : Set.Finite {d | v.Departs d ∧ l < d} :=
      finite.zero.subset fun d there => there.1.zero
    obtain ⟨d, ⟨departs, later⟩, next⟩ := Set.exists_min_image _ id departures some_later
    exact ⟨d, .departed departs later fun c departs later => next c ⟨departs, later⟩⟩
  · refine ⟨v.bound, .ongoing ?_⟩
    intro c departs
    by_contra later
    exact some_later ⟨c, departs, not_le.mp later⟩

theorem ends_within {l e : T} (ends : v.EndsAt l e) : e ≤ v.bound := by
  cases ends with
  | departed departs later next => exact departs.bounded
  | ongoing stays => exact le_refl _

theorem ends_before {l e d : T} (ends : v.EndsAt l e) (departs : v.Departs d) (later : l < d) :
    e ≤ d := by
  cases ends with
  | departed _ _ next => exact next d departs later
  | ongoing stays => exact absurd (stays d departs) (not_le.mpr later)

theorem ends_unique {l e f : T} (ends : v.EndsAt l e) (ends' : v.EndsAt l f) : e = f := by
  cases ends with
  | departed departs later next =>
    cases ends' with
    | departed departs' later' next' =>
      exact le_antisymm (next _ departs' later') (next' _ departs later)
    | ongoing stays => exact absurd (stays _ departs) (not_le.mpr later)
  | ongoing stays =>
    cases ends' with
    | departed departs' later' next' => exact absurd (stays _ departs') (not_le.mpr later')
    | ongoing _ => rfl

theorem first_lasting_unique {duration s r : T} (hs : v.FirstLasting duration s)
    (hr : v.FirstLasting duration r) : s = r :=
  le_antisymm (hs.least r hr.begins hr.lasts) (hr.least s hs.begins hs.lasts)

end Existence

section Later
variable {v w : View T}

theorem departs_iff (later : Extends v w) {q d : T} (seen : v.Seen q) (before : d < q) :
    w.Departs d ↔ v.Departs d := by
  constructor
  · intro departs
    have old : d ∈ v.zero := by
      by_contra new
      exact not_lt.mpr ((later.new_zero d departs.zero new).2 q seen.positive) before
    refine ⟨old, later.start ▸ departs.started, le_trans before.le seen.bounded, ?_⟩
    intro p there after
    rw [← later.tolerance]
    exact departs.away p (later.positive there) after
  · intro departs
    refine ⟨later.zero departs.zero, later.start ▸ departs.started,
      le_trans departs.bounded later.bound, ?_⟩
    intro p there after
    rw [later.tolerance]
    by_cases old : p ∈ v.positive
    · exact departs.away p old after
    · exact lt_of_lt_of_le (departs.away q seen.positive before)
        ((later.new_positive p there old).2 q seen.positive)

theorem joined_iff (later : Extends v w) {p q : T} (seen : v.Seen q) :
    w.Joined p q ↔ v.Joined p q := by
  constructor
  · intro joined d departs after
    by_contra before
    have still := (departs_iff later seen (not_le.mp before)).mpr departs
    exact before (joined d still after)
  · intro joined d departs after
    by_contra before
    have already := (departs_iff later seen (not_le.mp before)).mp departs
    exact before (joined d already after)

theorem begins_iff (later : Extends v w) {s : T} (seen : v.Seen s) : w.Begins s ↔ v.Begins s := by
  constructor
  · intro begins
    refine ⟨seen, ?_⟩
    intro p there before
    obtain ⟨d, departs, after, until_s⟩ := begins.first p (seen_later later there) before
    exact ⟨d, (departs_iff later seen until_s).mp departs, after, until_s⟩
  · intro begins
    refine ⟨seen_later later seen, ?_⟩
    intro p there before
    obtain ⟨d, departs, after, until_s⟩ := begins.first p (seen_before later seen there before) before
    exact ⟨d, (departs_iff later seen until_s).mpr departs, after, until_s⟩

theorem lasts_later (later : Extends v w) (finite : w.Finite) {duration s : T} (seen : v.Seen s)
    (lasts : v.Lasts duration s) : w.Lasts duration s := by
  obtain ⟨l, e, last, ends, long⟩ := lasts
  obtain ⟨m, last'⟩ := exists_lastOf finite (seen_later later seen)
  obtain ⟨f, ends'⟩ := exists_endsAt finite m
  have further : l ≤ m := last'.greatest l (seen_later later last.seen) last.after
    ((joined_iff later last.seen).mpr last.joined)
  refine ⟨m, f, last', ends', le_trans long ?_⟩
  cases ends' with
  | ongoing stays => exact le_trans (ends_within ends) later.bound
  | departed departs after next =>
    by_cases inside : f ∈ v.zero ∧ f ≤ v.bound
    · have already : v.Departs f := by
        refine ⟨inside.1, later.start ▸ departs.started, inside.2, ?_⟩
        intro p there beyond
        rw [← later.tolerance]
        exact departs.away p (later.positive there) beyond
      exact ends_before ends already (lt_of_le_of_lt further after)
    · refine le_trans (ends_within ends) ?_
      by_cases old : f ∈ v.zero
      · exact (not_le.mp fun bounded => inside ⟨old, bounded⟩).le
      · exact (later.new_zero f departs.zero old).1

variable [IsOrderedCancelAddMonoid T]

theorem lasts_earlier (later : Extends v w) (finite : v.Finite) {duration s r : T}
    (begins : v.Begins s) (lasts : v.Lasts duration s) (seen : v.Seen r) (before : r < s)
    (lasts' : w.Lasts duration r) : v.Lasts duration r := by
  obtain ⟨l, e, last, ends, long⟩ := lasts
  obtain ⟨m, f, last', ends', long'⟩ := lasts'
  obtain ⟨d, departs, after, until_s⟩ := begins.first r seen before
  have departs' : w.Departs d := (departs_iff later begins.seen until_s).mpr departs
  have early : m < s := lt_of_le_of_lt (last'.joined d departs' after) until_s
  have seenM : v.Seen m := seen_before later begins.seen last'.seen early
  have same_last : v.LastOf r m := by
    refine ⟨seenM, last'.after, (joined_iff later seenM).mp last'.joined, ?_⟩
    intro q there from_r joined
    exact last'.greatest q (seen_later later there) from_r ((joined_iff later there).mpr joined)
  have apart : m < l := lt_of_lt_of_le early last.after
  obtain ⟨g, ends_first⟩ := exists_endsAt finite m
  refine ⟨m, g, same_last, ends_first, ?_⟩
  have shift : r + duration ≤ s + duration := add_le_add_left before.le duration
  cases ends_first with
  | ongoing stays => exact le_trans shift (le_trans long (ends_within ends))
  | departed departsG afterG next =>
    rcases lt_or_ge g s with inside | beyond
    · have still : w.Departs g := (departs_iff later begins.seen inside).mpr departsG
      exact le_trans long' (ends_before ends' still afterG)
    · rcases lt_or_ge l g with past | tied
      · exact le_trans shift (le_trans long (ends_before ends departsG past))
      · have equal : g = l := le_antisymm tied (last.joined g departsG beyond)
        subst equal
        by_cases still : w.Departs g
        · exact le_trans long' (ends_before ends' still afterG)
        · obtain ⟨p, there, after_g, back⟩ : ∃ p ∈ w.positive, g < p ∧ p ≤ g + v.tolerance := by
            by_contra none_back
            refine still ⟨later.zero departsG.zero, later.start ▸ departsG.started,
              le_trans departsG.bounded later.bound, ?_⟩
            intro p there after_g
            rw [later.tolerance]
            by_contra back
            exact none_back ⟨p, there, after_g, not_lt.mp back⟩
          have new : p ∉ v.positive := fun old =>
            not_lt.mpr back (departsG.away p old after_g)
          have limit : s + duration ≤ g + v.tolerance :=
            le_trans long (le_trans (ends_within ends)
              (le_trans (later.new_positive p there new).1 back))
          have gap : d + v.tolerance < s := departs.away s begins.seen.positive until_s
          have room : (r + duration) + v.tolerance < g + v.tolerance := by
            calc (r + duration) + v.tolerance = (r + v.tolerance) + duration := add_right_comm _ _ _
              _ ≤ (d + v.tolerance) + duration :=
                add_le_add_left (add_le_add_left after v.tolerance) duration
              _ < s + duration := add_lt_add_left gap duration
              _ ≤ g + v.tolerance := limit
          exact (lt_of_add_lt_add_right room).le

theorem first_lasting_stable (later : Extends v w) (finite_v : v.Finite) (finite_w : w.Finite)
    {duration s : T} (first : v.FirstLasting duration s) : w.FirstLasting duration s where
  begins := (begins_iff later first.begins.seen).mpr first.begins
  lasts := lasts_later later finite_w first.begins.seen first.lasts
  least := by
    intro r begins lasts
    by_contra earlier
    have before : r < s := not_le.mp earlier
    have seen : v.Seen r := seen_before later first.begins.seen begins.seen before
    have lasted := lasts_earlier later finite_v first.begins first.lasts seen before lasts
    exact earlier (first.least r ((begins_iff later seen).mp begins) lasted)

end Later

end Stretches
