import Mathlib.Algebra.BigOperators.Group.List.Basic
import Mathlib.Data.List.Sort
import Mathlib.Order.MinMax
import Mathlib.Tactic.Abel
import Mathlib.Tactic.Common

/- Spans of an ordered time, and what they leave free of a bound. -/
namespace TimeSpans
variable {T : Type} [LinearOrder T]

/-- Half-open: the end is not in it. -/
structure Span (T : Type) where
  start : T
  stop : T
  deriving DecidableEq, Repr

def Span.has (x : T) (s : Span T) : Bool := decide (s.start ≤ x ∧ x < s.stop)

/-- What is left of a span in the bound may end before it starts. -/
def Span.clip (bound s : Span T) : Span T := ⟨max s.start bound.start, min s.stop bound.stop⟩

def Span.Proper (s : Span T) : Prop := s.start < s.stop

instance (s : Span T) : Decidable s.Proper := inferInstanceAs (Decidable (_ < _))

def Span.Before (s t : Span T) : Prop := s.stop ≤ t.start

instance (s t : Span T) : Decidable (s.Before t) := inferInstanceAs (Decidable (_ ≤ _))

def span? (start stop : T) : List (Span T) := if start < stop then [⟨start, stop⟩] else []

/-- What spans that come in the order of their starts leave free from `cursor` on. -/
def gaps (stop : T) : T → List (Span T) → List (Span T)
  | cursor, [] => span? cursor stop
  | cursor, s :: rest => span? cursor s.start ++ gaps stop (max cursor s.stop) rest

/-- Each lies between the two times, and ends before the next one starts. -/
structure InRow (first last : T) (spans : List (Span T)) : Prop where
  within : ∀ s ∈ spans, first ≤ s.start ∧ s.start ≤ s.stop ∧ s.stop ≤ last
  apart : spans.Pairwise Span.Before

variable {first last x : T} {s t : Span T} {spans : List (Span T)}

theorem inRow_tail (row : InRow first last (s :: spans)) : InRow s.stop last spans where
  within := by
    intro t there
    obtain ⟨-, forward, until_last⟩ := row.within t (List.mem_cons_of_mem s there)
    exact ⟨(List.pairwise_cons.mp row.apart).1 t there, forward, until_last⟩
  apart := row.apart.of_cons

section Covering

theorem has_span? (x start stop : T) :
    (span? start stop).countP (Span.has x) = if start ≤ x ∧ x < stop then 1 else 0 := by
  unfold span?
  by_cases proper : start < stop
  · rw [if_pos proper, List.countP_singleton]
    exact if_congr decide_eq_true_iff rfl rfl
  · rw [if_neg proper, List.countP_nil, if_neg]
    rintro ⟨after, before⟩
    exact proper (lt_of_le_of_lt after before)

theorem count_with_gaps (order : first ≤ last) (row : InRow first last spans) :
    spans.countP (Span.has x) + (gaps last first spans).countP (Span.has x) =
      if first ≤ x ∧ x < last then 1 else 0 := by
  induction spans generalizing first with
  | nil => rw [List.countP_nil, Nat.zero_add, gaps, has_span?]
  | cons s rest ih =>
    obtain ⟨from_first, forward, until_last⟩ := row.within s List.mem_cons_self
    have tail := ih until_last (inRow_tail row)
    rw [gaps, max_eq_right (from_first.trans forward), List.countP_append, List.countP_cons, has_span?]
    simp only [Span.has, decide_eq_true_eq] at tail ⊢
    -- `x` lies before the head, in it, or after it
    rcases lt_or_ge x s.start with before | from_start
    · have late : x < last := lt_of_lt_of_le before (forward.trans until_last)
      have not_in : ¬ (s.start ≤ x ∧ x < s.stop) := fun h => not_le.mpr before h.1
      have not_after : ¬ (s.stop ≤ x ∧ x < last) :=
        fun h => not_le.mpr (lt_of_lt_of_le before forward) h.1
      rw [if_neg not_after] at tail
      rw [if_neg not_in, if_congr (and_iff_left before) rfl rfl, if_congr (and_iff_left late) rfl rfl]
      omega
    · have here : first ≤ x := from_first.trans from_start
      have not_before : ¬ (first ≤ x ∧ x < s.start) := fun h => not_lt.mpr from_start h.2
      rw [if_neg not_before, if_congr (and_iff_right from_start) rfl rfl,
        if_congr (and_iff_right here) rfl rfl]
      rcases lt_or_ge x s.stop with inside | after
      · rw [if_neg (fun h => not_le.mpr inside h.1)] at tail
        rw [if_pos inside, if_pos (lt_of_lt_of_le inside until_last)]
        omega
      · rw [if_congr (and_iff_right after) rfl rfl] at tail
        rw [if_neg (not_lt.mpr after)]
        omega

end Covering

section Lengths
variable {G : Type} [AddCommGroup G] {first last : G} {spans : List (Span G)}

def Span.length (s : Span G) : G := s.stop - s.start

def total (spans : List (Span G)) : G := (spans.map Span.length).sum

theorem total_cons (s : Span G) (spans : List (Span G)) : total (s :: spans) = s.length + total spans := by
  rw [total, List.map_cons, List.sum_cons, total]

theorem total_append (spans others : List (Span G)) :
    total (spans ++ others) = total spans + total others := by
  rw [total, List.map_append, List.sum_append, total, total]

variable [LinearOrder G]

theorem total_span? {start stop : G} (order : start ≤ stop) : total (span? start stop) = stop - start := by
  unfold span?
  rcases lt_or_eq_of_le order with proper | rfl
  · rw [if_pos proper, total, List.map_singleton, List.sum_singleton, Span.length]
  · rw [if_neg (lt_irrefl _), sub_self, total, List.map_nil, List.sum_nil]

theorem total_with_gaps (order : first ≤ last) (row : InRow first last spans) :
    total spans + total (gaps last first spans) = last - first := by
  induction spans generalizing first with
  | nil => rw [gaps, total_span? order, total, List.map_nil, List.sum_nil, zero_add]
  | cons s rest ih =>
    obtain ⟨from_first, forward, until_last⟩ := row.within s List.mem_cons_self
    have tail := ih until_last (inRow_tail row)
    rw [gaps, max_eq_right (from_first.trans forward), total_append, total_span? from_first,
      total_cons, Span.length]
    calc s.stop - s.start + total rest + (s.start - first + total (gaps last s.stop rest))
        = total rest + total (gaps last s.stop rest) + (s.stop - first) := by abel
      _ = last - first := by
        rw [tail]
        abel

end Lengths

section Clipping
variable {bound : Span T}

theorem clip_within (proper : (bound.clip s).Proper) :
    bound.start ≤ (bound.clip s).start ∧ (bound.clip s).start < (bound.clip s).stop ∧
      (bound.clip s).stop ≤ bound.stop :=
  ⟨le_max_right _ _, proper, min_le_right _ _⟩

theorem clip_before (before : s.Before t) : (bound.clip s).Before (bound.clip t) :=
  (min_le_left _ _).trans (before.trans (le_max_left _ _))

theorem clip_starts (order : s.start ≤ t.start) : (bound.clip s).start ≤ (bound.clip t).start :=
  max_le_max_right _ order

def clipped (bound : Span T) (spans : List (Span T)) : List (Span T) :=
  (spans.map bound.clip).filter fun s => s.Proper

theorem mem_clipped : s ∈ clipped bound spans ↔ s.Proper ∧ ∃ t ∈ spans, bound.clip t = s := by
  rw [clipped, List.mem_filter, List.mem_map, decide_eq_true_eq, and_comm]

theorem clipped_sorted (sorted : spans.Pairwise fun s t => s.start ≤ t.start) :
    (clipped bound spans).Pairwise fun s t => s.start ≤ t.start := by
  refine List.Pairwise.filter _ (List.pairwise_map.mpr (sorted.imp ?_))
  exact clip_starts

/-- In the bound nothing of `t` comes before the end of `s`. -/
def ClearIn (bound s t : Span T) : Prop :=
  (bound.clip s).Proper → (bound.clip t).Proper → (bound.clip s).Before (bound.clip t)

theorem clearIn_of_before (before : s.Before t) : ClearIn bound s t := fun _ _ => clip_before before

theorem clearIn_iff (order : s.start ≤ t.start) :
    ClearIn bound s t ↔ min s.stop (min t.stop bound.stop) ≤ max t.start bound.start := by
  have starts := @clip_starts _ _ _ _ bound order
  simp only [ClearIn, Span.Proper, Span.Before, Span.clip] at starts ⊢
  constructor
  · intro clear
    by_contra over_lap
    obtain ⟨of_s, of_t⟩ := lt_min_iff.mp (not_le.mp over_lap)
    have both : max t.start bound.start < min s.stop bound.stop :=
      lt_min of_s (lt_of_lt_of_le of_t (min_le_right _ _))
    exact not_le.mpr both (clear (lt_of_le_of_lt starts both) of_t)
  · intro clear _ proper
    by_contra over_lap
    obtain ⟨of_s, -⟩ := lt_min_iff.mp (not_le.mp over_lap)
    exact not_le.mpr (lt_min of_s proper) clear

theorem clipped_before_iff :
    (clipped bound spans).Pairwise Span.Before ↔ spans.Pairwise (ClearIn bound) := by
  rw [clipped, List.pairwise_filter, List.pairwise_map]
  simp only [decide_eq_true_eq]
  exact Iff.rfl

theorem clipped_inRow (apart : (clipped bound spans).Pairwise Span.Before) :
    InRow bound.start bound.stop (clipped bound spans) where
  within := by
    intro s there
    obtain ⟨proper, t, -, rfl⟩ := mem_clipped.mp there
    obtain ⟨from_start, forward, until_stop⟩ := clip_within proper
    exact ⟨from_start, forward.le, until_stop⟩
  apart := apart

end Clipping

end TimeSpans
