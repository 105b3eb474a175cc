import Mathlib.Data.List.Induction
import Mathlib.Data.List.Sort
import Mathlib.Order.Basic
import Mathlib.Tactic.Common

/- Sweeps over the begins and ends of labelled spans in the order of time, with one counter
   for each label that an end never takes below zero. Spans may be empty. -/
namespace EventSweep
variable {Label T : Type}

section Counter

def counter (steps : List Bool) : Nat := steps.foldl (fun n up => if up then n + 1 else n - 1) 0

theorem counter_snoc (steps : List Bool) (up : Bool) :
    counter (steps ++ [up]) = if up then counter steps + 1 else counter steps - 1 := by
  simp [counter]

theorem le_counter_iff (steps : List Bool) (k : Nat) :
    k ≤ counter steps ↔ ∃ back, back <:+ steps ∧ back.count false + k ≤ back.count true := by
  induction steps using List.reverseRecOn generalizing k with
  | nil =>
    simp only [counter, List.foldl_nil, List.suffix_nil, exists_eq_left, List.count_nil]
    omega
  | append_singleton steps up ih =>
    have shorter : (∃ back, back <:+ steps ++ [up] ∧ back.count false + k ≤ back.count true) ↔
        k = 0 ∨ ∃ back, back <:+ steps ∧
          (back ++ [up]).count false + k ≤ (back ++ [up]).count true := by
      constructor
      · intro h
        obtain ⟨back, suffix, surplus⟩ := h
        rcases List.suffix_concat_iff.mp suffix with rfl | ⟨front, rfl, within⟩
        · exact Or.inl (by simpa using surplus)
        · exact Or.inr ⟨front, within, surplus⟩
      · intro h
        rcases h with rfl | ⟨back, suffix, surplus⟩
        · exact ⟨[], List.nil_suffix, by simp⟩
        · exact ⟨back ++ [up], List.suffix_concat_iff.mpr (Or.inr ⟨back, rfl, suffix⟩), surplus⟩
    rw [counter_snoc, shorter]
    cases up with
    | true =>
      have step := ih (k - 1)
      simp only [if_true, List.count_append, List.count_singleton, Bool.true_beq, beq_self_eq_true,
        Bool.false_eq_true, if_false] at step ⊢
      by_cases none_left : k = 0
      · simp [none_left]
      · rw [or_iff_right none_left, show k ≤ counter steps + 1 ↔ k - 1 ≤ counter steps by omega, step]
        apply exists_congr
        intro back
        apply and_congr_right
        intro _
        omega
    | false =>
      have step := ih (k + 1)
      simp only [Bool.false_eq_true, if_false, List.count_append, List.count_singleton,
        beq_self_eq_true, if_true] at step ⊢
      by_cases none_left : k = 0
      · simp [none_left]
      · rw [or_iff_right none_left, show k ≤ counter steps - 1 ↔ k + 1 ≤ counter steps by omega, step]
        apply exists_congr
        intro back
        apply and_congr_right
        intro _
        simp
        omega

end Counter

section Events

structure Event (Label T : Type) where
  time : T
  begins : Bool
  label : Label

variable [LinearOrder T]

/-- At one time, what ends comes before what begins. -/
def Event.Before (a b : Event Label T) : Prop :=
  a.time < b.time ∨ a.time = b.time ∧ (a.begins = true → b.begins = true)

instance : DecidableRel (@Event.Before Label T _) :=
  fun _ _ => inferInstanceAs (Decidable (_ ∨ _))

instance : Std.Total (@Event.Before Label T _) where
  total a b := by
    rcases lt_trichotomy a.time b.time with early | same | late
    · exact Or.inl (Or.inl early)
    · cases up : a.begins with
      | false => exact Or.inl (Or.inr ⟨same, by simp [up]⟩)
      | true => exact Or.inr (Or.inr ⟨same.symm, fun _ => up⟩)
    · exact Or.inr (Or.inl late)

instance : IsTrans (Event Label T) Event.Before where
  trans a b c first second := by
    rcases first with early | ⟨same, up⟩ <;> rcases second with early' | ⟨same', up'⟩
    · exact Or.inl (early.trans early')
    · exact Or.inl (early.trans_eq same')
    · exact Or.inl (same.trans_lt early')
    · exact Or.inr ⟨same.trans same', fun h => up' (up h)⟩

variable [DecidableEq Label]

/-- The counter of a label after some events. -/
def heard (l : Label) (evs : List (Event Label T)) : Nat :=
  counter ((evs.filter fun e => e.label = l).map Event.begins)

omit [LinearOrder T] [DecidableEq Label] in
theorem count_begins (up : Bool) (evs : List (Event Label T)) :
    (evs.map Event.begins).count up = evs.countP fun e => e.begins = up := by
  rw [List.count, List.countP_map]
  apply List.countP_congr
  intro e _
  simp

omit [LinearOrder T] [DecidableEq Label] in
theorem first_begin {evs : List (Event Label T)}
    (surplus : (evs.countP fun e => e.begins = false) < evs.countP fun e => e.begins = true) :
    ∃ front e back, evs = front ++ e :: back ∧ (∀ x ∈ front, x.begins = false) ∧ e.begins = true := by
  induction evs with
  | nil => simp at surplus
  | cons x evs ih =>
    cases up : x.begins with
    | true => exact ⟨[], x, evs, rfl, by simp, up⟩
    | false =>
      simp only [List.countP_cons, up, decide_true, if_true, Bool.false_eq_true, decide_false,
        if_false] at surplus
      obtain ⟨front, e, back, rfl, ends, begins⟩ := ih (by omega)
      refine ⟨x :: front, e, back, rfl, ?_, begins⟩
      intro y hy
      rcases List.mem_cons.mp hy with rfl | hy
      · exact up
      · exact ends y hy

omit [DecidableEq Label] in
theorem split_upward {evs : List (Event Label T)} (sorted : evs.Pairwise Event.Before)
    (p : Event Label T → Bool) (upward : ∀ {a b}, p a = true → a.Before b → p b = true) :
    evs = evs.filter (fun e => !p e) ++ evs.filter p := by
  induction evs with
  | nil => rfl
  | cons a evs ih =>
    rw [List.pairwise_cons] at sorted
    cases here : p a with
    | true =>
      have all : ∀ b ∈ evs, p b = true := fun b hb => upward here (sorted.1 b hb)
      have none_left : evs.filter (fun e => !p e) = [] := by
        rw [List.filter_eq_nil_iff]
        intro b hb
        simp [all b hb]
      simp [here, none_left, List.filter_eq_self.mpr all]
    | false =>
      simp only [List.filter_cons, here, Bool.not_false, if_true, Bool.false_eq_true, if_false,
        List.cons_append]
      rw [← ih sorted.2]

omit [LinearOrder T] in
theorem countP_mine (l : Label) (p : Event Label T → Bool) (evs : List (Event Label T)) :
    (evs.filter fun e => e.label = l).countP p = evs.countP fun e => decide (e.label = l) && p e := by
  rw [List.countP_filter]
  apply List.countP_congr
  intro e _
  rw [Bool.and_comm]

def endsPast (u : T) (e : Event Label T) : Bool := e.begins = false ∧ u < e.time

def beginsSince (u : T) (e : Event Label T) : Bool := e.begins = true ∧ u ≤ e.time

omit [DecidableEq Label] in
theorem surplus_since {old new : List (Event Label T)} (sorted : (old ++ new).Pairwise Event.Before)
    (surplus : (new.countP fun e => e.begins = false) < new.countP fun e => e.begins = true) :
    ∃ u, (old ++ new).countP (endsPast u) < (old ++ new).countP (beginsSince u) := by
  obtain ⟨quiet, e, rest, rfl, ends, begins⟩ := first_begin surplus
  refine ⟨e.time, ?_⟩
  rw [← List.append_assoc] at sorted ⊢
  obtain ⟨-, tail, earlier⟩ := List.pairwise_append.mp sorted
  have later := (List.pairwise_cons.mp tail).1
  have early_ends : (old ++ quiet).countP (endsPast e.time) = 0 := by
    rw [List.countP_eq_zero]
    intro x hx
    have order : x.time ≤ e.time := by
      rcases earlier x hx e List.mem_cons_self with early | same
      · exact early.le
      · exact same.1.le
    simp [endsPast, order]
  have late_ends : rest.countP (endsPast e.time) ≤ rest.countP fun x => x.begins = false := by
    apply List.countP_mono_left
    intro x _
    simp only [endsPast, decide_eq_true_eq]
    exact And.left
  have late_begins : (e :: rest).countP (beginsSince e.time) =
      (e :: rest).countP fun x => x.begins = true := by
    apply List.countP_congr
    intro x hx
    simp only [beginsSince, decide_eq_true_eq, and_iff_left_iff_imp]
    intro _
    rcases List.mem_cons.mp hx with rfl | hx
    · exact le_rfl
    · rcases later x hx with after | same
      · exact after.le
      · exact same.1.le
  have quiet_begins : (quiet.countP fun x => x.begins = true) = 0 := by
    rw [List.countP_eq_zero]
    intro x hx
    simp [ends x hx]
  have here : endsPast e.time e = false := by simp [endsPast]
  have all_ends : (old ++ quiet ++ e :: rest).countP (endsPast e.time) ≤
      rest.countP fun x => x.begins = false := by
    rw [List.countP_append, early_ends, List.countP_cons_of_neg (by simp [here]), Nat.zero_add]
    exact late_ends
  have all_begins : ((e :: rest).countP fun x => x.begins = true) ≤
      (old ++ quiet ++ e :: rest).countP (beginsSince e.time) := by
    rw [List.countP_append, late_begins]
    exact Nat.le_add_left _ _
  have most : (rest.countP fun x => x.begins = false) ≤
      (quiet ++ e :: rest).countP fun x => x.begins = false :=
    List.Sublist.countP_le (List.sublist_append_of_sublist_right (List.sublist_cons_self _ _))
  rw [List.countP_append (p := fun x : Event Label T => decide (x.begins = true)), quiet_begins] at surplus
  omega

omit [LinearOrder T] in
theorem heard_snoc (l : Label) (evs : List (Event Label T)) (e : Event Label T) :
    heard l (evs ++ [e]) =
      if e.label = l then (if e.begins then heard l evs + 1 else heard l evs - 1) else heard l evs := by
  by_cases mine : e.label = l
  · simp [heard, mine, counter]
  · simp [heard, mine]

omit [LinearOrder T] in
theorem heard_begins_le {evs more : List (Event Label T)} (l : Label)
    (begins : ∀ e ∈ more, e.begins = true) : heard l evs ≤ heard l (evs ++ more) := by
  induction more using List.reverseRecOn with
  | nil => simp
  | append_singleton more e ih =>
    have before := ih fun x hx => begins x (List.mem_append_left _ hx)
    have up : e.begins = true := begins e (by simp)
    simp only [← List.append_assoc, heard_snoc, up, if_true]
    split <;> omega

omit [LinearOrder T] in
theorem heard_ends_le {evs more : List (Event Label T)} (l : Label)
    (ends : ∀ e ∈ more, e.begins = false) : heard l (evs ++ more) ≤ heard l evs := by
  induction more using List.reverseRecOn with
  | nil => simp
  | append_singleton more e ih =>
    have before := ih fun x hx => ends x (List.mem_append_left _ hx)
    have up : e.begins = false := ends e (by simp)
    simp only [← List.append_assoc, heard_snoc, up, Bool.false_eq_true, if_false]
    split <;> omega

theorem heard_pos_iff {evs : List (Event Label T)} (sorted : evs.Pairwise Event.Before) (l : Label) :
    0 < heard l evs ↔ ∃ u, evs.countP (fun e => decide (e.label = l) && endsPast u e) <
      evs.countP fun e => decide (e.label = l) && beginsSince u e := by
  simp only [← countP_mine]
  have mine_sorted := sorted.sublist (List.filter_sublist (p := fun e => decide (e.label = l)))
  rw [heard]
  generalize (evs.filter fun e => e.label = l) = mine at mine_sorted ⊢
  rw [Nat.lt_iff_add_one_le, Nat.zero_add, le_counter_iff]
  constructor
  · intro h
    obtain ⟨back, ⟨front, split⟩, surplus⟩ := h
    obtain ⟨old, new, rfl, -, rfl⟩ := List.map_eq_append_iff.mp split.symm
    rw [count_begins, count_begins] at surplus
    exact surplus_since mine_sorted surplus
  · intro h
    obtain ⟨u, surplus⟩ := h
    have split := split_upward mine_sorted (fun e => endsPast u e || beginsSince u e) (by
      intro a b here order
      simp only [endsPast, beginsSince, Bool.or_eq_true, decide_eq_true_eq] at here ⊢
      rcases order with after | ⟨same, up⟩
      · have past : u < b.time := by
          rcases here with ⟨-, past⟩ | ⟨-, since⟩
          · exact past.trans after
          · exact since.trans_lt after
        cases b.begins
        · exact Or.inl ⟨rfl, past⟩
        · exact Or.inr ⟨rfl, past.le⟩
      · rw [same] at here
        cases kind : b.begins with
        | false =>
          have ends : a.begins = false := by
            cases kind' : a.begins
            · rfl
            · rw [up kind'] at kind
              cases kind
          simpa [ends] using here
        | true =>
          rcases here with ⟨-, past⟩ | ⟨-, since⟩
          · exact Or.inr ⟨rfl, past.le⟩
          · exact Or.inr ⟨rfl, since⟩)
    refine ⟨(mine.filter fun e => endsPast u e || beginsSince u e).map Event.begins, ?_, ?_⟩
    · rw [split, List.map_append]
      rw [← split]
      exact List.suffix_append _ _
    · rw [count_begins, count_begins, List.countP_filter, List.countP_filter]
      have ends_eq : (mine.countP fun e => decide (e.begins = false) && (endsPast u e || beginsSince u e)) =
          mine.countP (endsPast u) := by
        apply List.countP_congr
        intro e _
        cases kind : e.begins <;> simp [endsPast, beginsSince, kind]
      have begins_eq : (mine.countP fun e => decide (e.begins = true) && (endsPast u e || beginsSince u e)) =
          mine.countP (beginsSince u) := by
        apply List.countP_congr
        intro e _
        cases kind : e.begins <;> simp [endsPast, beginsSince, kind]
      rw [ends_eq, begins_eq]
      exact surplus

end Events

section Spans

structure Span (Label T : Type) where
  label : Label
  start : T
  stop : T

def Span.events (s : Span Label T) : List (Event Label T) :=
  [⟨s.start, true, s.label⟩, ⟨s.stop, false, s.label⟩]

variable [LinearOrder T]

def schedule (spans : List (Span Label T)) : List (Event Label T) :=
  (spans.flatMap Span.events).insertionSort Event.Before

def happened (t : T) (evs : List (Event Label T)) : List (Event Label T) :=
  evs.filter fun e => e.time ≤ t

/-- What has happened within an instant before anything begins there. -/
def midway (u : T) (evs : List (Event Label T)) : List (Event Label T) :=
  evs.filter fun e => e.time < u ∨ e.time = u ∧ e.begins = false

theorem schedule_sorted (spans : List (Span Label T)) :
    (schedule spans).Pairwise Event.Before :=
  List.pairwise_insertionSort _ _

theorem countP_schedule (p : Event Label T → Bool) (spans : List (Span Label T)) :
    (schedule spans).countP p =
      (spans.countP fun s => p ⟨s.start, true, s.label⟩) +
        spans.countP fun s => p ⟨s.stop, false, s.label⟩ := by
  rw [schedule, (List.perm_insertionSort _ _).countP_eq]
  induction spans with
  | nil => rfl
  | cons s spans ih =>
    rw [List.flatMap_cons, List.countP_append, ih, List.countP_cons, List.countP_cons]
    simp only [Span.events, List.countP_cons, List.countP_nil]
    omega

theorem happened_split {evs : List (Event Label T)} (sorted : evs.Pairwise Event.Before) (t : T) :
    evs = happened t evs ++ evs.filter fun e => t < e.time := by
  have split := split_upward sorted (fun e => decide (t < e.time)) (by
    intro a b here order
    simp only [decide_eq_true_eq] at here ⊢
    rcases order with after | same
    · exact here.trans after
    · exact here.trans_eq same.1)
  have front : evs.filter (fun e => !decide (t < e.time)) = happened t evs := by
    apply List.filter_congr
    intro e _
    simp [← decide_not]
  rwa [front] at split

theorem time_le_of_before {a b : Event Label T} (order : a.Before b) : a.time ≤ b.time := by
  rcases order with early | same
  · exact early.le
  · exact same.1.le

theorem happened_all {front : List (Event Label T)} {e : Event Label T}
    (sorted : (front ++ [e]).Pairwise Event.Before) {t : T} (since : e.time ≤ t) :
    happened t (front ++ [e]) = front ++ [e] := by
  rw [happened, List.filter_eq_self]
  intro x hx
  rw [decide_eq_true_eq]
  rcases List.mem_append.mp hx with before | here
  · have order := (List.pairwise_append.mp sorted).2.2 x before e List.mem_cons_self
    exact (time_le_of_before order).trans since
  · rw [List.mem_singleton.mp here]
    exact since

theorem happened_none {evs : List (Event Label T)} {t : T} (ahead : ∀ x ∈ evs, t < x.time) :
    happened t evs = [] := by
  rw [happened, List.filter_eq_nil_iff]
  intro x hx
  rw [decide_eq_true_eq, not_le]
  exact ahead x hx

/-- What is left of the events once those midway through an instant are taken. -/
def beyond (u : T) (evs : List (Event Label T)) : List (Event Label T) :=
  evs.filter fun e => u < e.time ∨ e.time = u ∧ e.begins = true

theorem midway_split {evs : List (Event Label T)} (sorted : evs.Pairwise Event.Before) (u : T) :
    evs = midway u evs ++ beyond u evs := by
  have split := split_upward sorted (fun e => decide (u < e.time ∨ e.time = u ∧ e.begins = true)) (by
    intro a b here order
    simp only [decide_eq_true_eq] at here ⊢
    rcases order with after | ⟨same, up⟩
    · left
      rcases here with past | ⟨now, -⟩
      · exact past.trans after
      · exact now.symm.trans_lt after
    · rw [← same]
      exact here.imp_right fun now => ⟨now.1, up now.2⟩)
  have front : evs.filter (fun e => !decide (u < e.time ∨ e.time = u ∧ e.begins = true)) =
      midway u evs := by
    apply List.filter_congr
    intro e _
    rcases lt_trichotomy e.time u with early | now | late
    · simp [early, early.not_gt, early.ne]
    · cases up : e.begins <;> simp [now]
    · simp [late, late.not_gt, late.ne']
  rwa [front] at split

variable [DecidableEq Label]

/-- Some span of the label goes on right after the time. -/
def ActiveAt (spans : List (Span Label T)) (l : Label) (t : T) : Prop :=
  ∃ s ∈ spans, s.label = l ∧ s.start ≤ t ∧ t < s.stop

def across (spans : List (Span Label T)) (l : Label) (u : T) : Nat :=
  spans.countP fun s => s.label = l ∧ s.start < u ∧ u < s.stop

def instants (spans : List (Span Label T)) (l : Label) (u : T) : Nat :=
  spans.countP fun s => s.label = l ∧ s.start = u ∧ s.stop = u

/-- By now, more empty spans of the label have met in one instant than others of it went on
    across. From there on its counter stays too high. -/
def StrayBy (spans : List (Span Label T)) (l : Label) (t : T) : Prop :=
  ∃ u ≤ t, across spans l u < instants spans l u

def Ordered (spans : List (Span Label T)) : Prop := ∀ s ∈ spans, s.start ≤ s.stop

omit [DecidableEq Label] in
theorem span_balance {a b u t : T} (ordered : a ≤ b) :
    ((if u ≤ a ∧ a ≤ t then 1 else 0) + if a < u ∧ u < b ∧ b ≤ t then 1 else 0) =
      (if u < b ∧ b ≤ t then 1 else 0) + (if u ≤ a ∧ a ≤ t ∧ t < b then 1 else 0) +
        if a = u ∧ b = u ∧ u ≤ t then 1 else 0 := by
  rcases lt_or_ge a u with before | since
  · simp [before, before.not_ge, before.ne]
  · rcases lt_or_ge t b with beyond | past
    · have apart : ¬ (b = u ∧ u ≤ t) := by
        intro h
        exact absurd (beyond.trans_eq h.1) (not_lt.mpr h.2)
      simp [since, since.not_gt, beyond, beyond.not_ge, apart]
    · have begun : a ≤ t := ordered.trans past
      rcases (since.trans ordered).eq_or_lt with same | later
      · have first : a = u := le_antisymm (ordered.trans_eq same.symm) since
        have now : u ≤ t := same.le.trans past
        simp [first, same.symm, now]
      · simp [since, since.not_gt, past, past.not_gt, begun, later, later.ne']

/-- Begins since `u`, and ends past `u` that began before it, against what is left over. -/
theorem surplus_balance {spans : List (Span Label T)} (ordered : Ordered spans) (l : Label) {u t : T} :
    (spans.countP fun s => s.label = l ∧ u ≤ s.start ∧ s.start ≤ t) +
        (spans.countP fun s => s.label = l ∧ s.start < u ∧ u < s.stop ∧ s.stop ≤ t) =
      (spans.countP fun s => s.label = l ∧ u < s.stop ∧ s.stop ≤ t) +
        (spans.countP fun s => s.label = l ∧ u ≤ s.start ∧ s.start ≤ t ∧ t < s.stop) +
        (spans.countP fun s => s.label = l ∧ s.start = u ∧ s.stop = u ∧ u ≤ t) := by
  induction spans with
  | nil => rfl
  | cons s spans ih =>
    have rest := ih fun x hx => ordered x (List.mem_cons_of_mem _ hx)
    have here := span_balance (u := u) (t := t) (ordered s List.mem_cons_self)
    simp only [List.countP_cons, decide_eq_true_eq]
    by_cases mine : s.label = l
    · simp only [mine, true_and] at here ⊢
      omega
    · simp only [mine, false_and, if_false]
      omega

omit [DecidableEq Label] in
theorem countP_happened {spans : List (Span Label T)} (t : T) (p : Event Label T → Bool) :
    (happened t (schedule spans)).countP p =
      (spans.countP fun s => p ⟨s.start, true, s.label⟩ && decide (s.start ≤ t)) +
        spans.countP fun s => p ⟨s.stop, false, s.label⟩ && decide (s.stop ≤ t) := by
  rw [happened, List.countP_filter, countP_schedule]

omit [DecidableEq Label] in
theorem countP_midway {spans : List (Span Label T)} (u : T) (p : Event Label T → Bool) :
    (midway u (schedule spans)).countP p =
      (spans.countP fun s => p ⟨s.start, true, s.label⟩ && decide (s.start < u)) +
        spans.countP fun s => p ⟨s.stop, false, s.label⟩ && decide (s.stop ≤ u) := by
  rw [midway, List.countP_filter, countP_schedule]
  simp [le_iff_lt_or_eq]

theorem ends_happened {spans : List (Span Label T)} (l : Label) (u t : T) :
    ((happened t (schedule spans)).countP fun e => decide (e.label = l) && endsPast u e) =
      spans.countP fun s => s.label = l ∧ u < s.stop ∧ s.stop ≤ t := by
  rw [countP_happened]
  simp [endsPast, Bool.and_assoc]

theorem begins_happened {spans : List (Span Label T)} (l : Label) (u t : T) :
    ((happened t (schedule spans)).countP fun e => decide (e.label = l) && beginsSince u e) =
      spans.countP fun s => s.label = l ∧ u ≤ s.start ∧ s.start ≤ t := by
  rw [countP_happened]
  simp [beginsSince, Bool.and_assoc]

omit [DecidableEq Label] in
theorem earliest_start {spans : List (Span Label T)} (some_span : spans ≠ []) :
    ∃ u, ∀ s ∈ spans, u ≤ s.start := by
  induction spans with
  | nil => exact absurd rfl some_span
  | cons s spans ih =>
    by_cases last : spans = []
    · exact ⟨s.start, by simp [last]⟩
    · obtain ⟨u, first⟩ := ih last
      refine ⟨min u s.start, ?_⟩
      intro x hx
      rcases List.mem_cons.mp hx with rfl | hx
      · exact min_le_right _ _
      · exact (min_le_left _ _).trans (first x hx)

omit [DecidableEq Label] in
theorem ends_bounded [Nonempty T] (spans : List (Span Label T)) : ∃ last, ∀ s ∈ spans, s.stop ≤ last := by
  induction spans with
  | nil =>
    obtain ⟨t⟩ := ‹Nonempty T›
    exact ⟨t, by simp⟩
  | cons s spans ih =>
    obtain ⟨last, bound⟩ := ih
    refine ⟨max last s.stop, ?_⟩
    intro x hx
    rcases List.mem_cons.mp hx with rfl | hx
    · exact le_max_right _ _
    · exact (bound x hx).trans (le_max_left _ _)

theorem heard_happened_iff {spans : List (Span Label T)} (ordered : Ordered spans) (l : Label) (t : T) :
    0 < heard l (happened t (schedule spans)) ↔ ActiveAt spans l t ∨ StrayBy spans l t := by
  have sorted : (happened t (schedule spans)).Pairwise Event.Before :=
    (schedule_sorted spans).sublist List.filter_sublist
  rw [heard_pos_iff sorted]
  simp only [ends_happened, begins_happened]
  constructor
  · intro h
    obtain ⟨u, surplus⟩ := h
    have balance := surplus_balance ordered l (u := u) (t := t)
    by_cases active : ActiveAt spans l t
    · exact Or.inl active
    right
    have none_on : (spans.countP fun s => s.label = l ∧ u ≤ s.start ∧ s.start ≤ t ∧ t < s.stop) = 0 := by
      rw [List.countP_eq_zero]
      intro s hs on
      simp only [decide_eq_true_eq] at on
      exact active ⟨s, hs, on.1, on.2.2⟩
    have empty : 0 < spans.countP fun s => s.label = l ∧ s.start = u ∧ s.stop = u ∧ u ≤ t := by omega
    obtain ⟨e, -, now⟩ := List.countP_pos_iff.mp empty
    simp only [decide_eq_true_eq] at now
    have met : (spans.countP fun s => s.label = l ∧ s.start = u ∧ s.stop = u ∧ u ≤ t) ≤
        instants spans l u := by
      apply List.countP_mono_left
      intro s _
      simp only [decide_eq_true_eq]
      exact fun h => ⟨h.1, h.2.1, h.2.2.1⟩
    have crossed : across spans l u ≤
        spans.countP fun s => s.label = l ∧ s.start < u ∧ u < s.stop ∧ s.stop ≤ t := by
      apply List.countP_mono_left
      intro s hs
      simp only [decide_eq_true_eq]
      intro h
      refine ⟨h.1, h.2.1, h.2.2, ?_⟩
      by_contra beyond
      exact active ⟨s, hs, h.1, h.2.1.le.trans now.2.2.2, not_le.mp beyond⟩
    exact ⟨u, now.2.2.2, by omega⟩
  · intro h
    rcases h with ⟨s, hs, mine, begun, on⟩ | ⟨u, past, stray⟩
    · obtain ⟨u, first⟩ := earliest_start (List.ne_nil_of_mem hs)
      refine ⟨u, ?_⟩
      have balance := surplus_balance ordered l (u := u) (t := t)
      have none_before :
          (spans.countP fun s => s.label = l ∧ s.start < u ∧ u < s.stop ∧ s.stop ≤ t) = 0 := by
        rw [List.countP_eq_zero]
        intro x hx early
        simp only [decide_eq_true_eq] at early
        exact absurd early.2.1 (not_lt.mpr (first x hx))
      have one_on : 0 < spans.countP fun s => s.label = l ∧ u ≤ s.start ∧ s.start ≤ t ∧ t < s.stop := by
        rw [List.countP_pos_iff]
        exact ⟨s, hs, by simp [mine, first s hs, begun, on]⟩
      omega
    · refine ⟨u, ?_⟩
      have balance := surplus_balance ordered l (u := u) (t := t)
      have met : instants spans l u =
          spans.countP fun s => s.label = l ∧ s.start = u ∧ s.stop = u ∧ u ≤ t := by
        apply List.countP_congr
        intro s _
        simp [past]
      have crossed : (spans.countP fun s => s.label = l ∧ s.start < u ∧ u < s.stop ∧ s.stop ≤ t) ≤
          across spans l u := by
        apply List.countP_mono_left
        intro s _
        simp only [decide_eq_true_eq]
        exact fun h => ⟨h.1, h.2.1, h.2.2.1⟩
      omega

theorem instants_zero {spans : List (Span Label T)} (long : ∀ s ∈ spans, s.start < s.stop) (l : Label)
    (u : T) : instants spans l u = 0 := by
  rw [instants, List.countP_eq_zero]
  intro s hs
  simp only [decide_eq_true_eq]
  intro empty
  exact (long s hs).ne (empty.2.1.trans empty.2.2.symm)

theorem no_stray {spans : List (Span Label T)} (long : ∀ s ∈ spans, s.start < s.stop) (l : Label)
    (t : T) : ¬ StrayBy spans l t := by
  intro stray
  obtain ⟨u, -, more⟩ := stray
  rw [instants_zero long] at more
  exact Nat.not_lt_zero _ more

/-- The label is still counted midway through an instant: what strays or goes on there makes
    up for the spans across some earlier time and for the empty spans that end here. -/
def HeldAcross (spans : List (Span Label T)) (l : Label) (u : T) : Prop :=
  ∃ v < u, across spans l v + instants spans l u < instants spans l v + across spans l u

omit [DecidableEq Label] in
theorem span_balance_midway {a b v u : T} (ordered : a ≤ b) (before : v < u) :
    ((if v ≤ a ∧ a < u then 1 else 0) + (if a < v ∧ v < b then 1 else 0) +
        if a = u ∧ b = u then 1 else 0) =
      (if v < b ∧ b ≤ u then 1 else 0) + (if a = v ∧ b = v then 1 else 0) +
        if a < u ∧ u < b then 1 else 0 := by
  rcases lt_trichotomy b u with early | rfl | late
  · have begun : a < u := ordered.trans_lt early
    rcases lt_or_ge a v with first | since
    · simp [first, first.not_ge, first.ne, begun, begun.ne, early.le, early.not_gt]
    · rcases (since.trans ordered).eq_or_lt with same | later
      · have first : a = v := le_antisymm (ordered.trans_eq same.symm) since
        simp [first, same.symm, before, before.ne, before.not_gt]
      · simp [since, since.not_gt, begun, begun.ne, early.le, early.not_gt, later, later.ne']
  · rcases lt_or_ge a v with first | since
    · have begun : a < b := first.trans before
      simp [first, first.not_ge, first.ne, before, before.ne', begun.ne]
    · rcases ordered.eq_or_lt with rfl | begun
      · simp [since, since.not_gt, before, before.ne']
      · simp [since, since.not_gt, before, before.ne', begun, begun.ne]
  · have past : v < b := before.trans late
    rcases lt_or_ge a u with begun | ahead
    · rcases lt_or_ge a v with first | since
      · simp [first, first.not_ge, first.ne, begun, begun.ne, past, late, late.not_ge]
      · simp [since, since.not_gt, begun, begun.ne, past.ne', late, late.not_ge]
    · have since : v ≤ a := before.le.trans ahead
      simp [since.not_gt, ahead.not_gt, past.ne', late.ne', late.not_ge]

theorem midway_balance {spans : List (Span Label T)} (ordered : Ordered spans) (l : Label) {v u : T}
    (before : v < u) :
    (spans.countP fun s => s.label = l ∧ v ≤ s.start ∧ s.start < u) + across spans l v +
        instants spans l u =
      (spans.countP fun s => s.label = l ∧ v < s.stop ∧ s.stop ≤ u) + instants spans l v +
        across spans l u := by
  unfold across instants
  induction spans with
  | nil => rfl
  | cons s spans ih =>
    have rest := ih fun x hx => ordered x (List.mem_cons_of_mem _ hx)
    have here := span_balance_midway (ordered s List.mem_cons_self) before
    simp only [List.countP_cons, decide_eq_true_eq]
    by_cases mine : s.label = l
    · simp only [mine, true_and] at here ⊢
      omega
    · simp only [mine, false_and, if_false]
      omega

theorem ends_midway {spans : List (Span Label T)} (l : Label) (v u : T) :
    ((midway u (schedule spans)).countP fun e => decide (e.label = l) && endsPast v e) =
      spans.countP fun s => s.label = l ∧ v < s.stop ∧ s.stop ≤ u := by
  rw [countP_midway]
  simp [endsPast, Bool.and_assoc]

theorem begins_midway {spans : List (Span Label T)} (l : Label) (v u : T) :
    ((midway u (schedule spans)).countP fun e => decide (e.label = l) && beginsSince v e) =
      spans.countP fun s => s.label = l ∧ v ≤ s.start ∧ s.start < u := by
  rw [countP_midway]
  simp [beginsSince, Bool.and_assoc]

theorem heard_midway_iff {spans : List (Span Label T)} (ordered : Ordered spans) (l : Label) (u : T) :
    0 < heard l (midway u (schedule spans)) ↔ HeldAcross spans l u := by
  have sorted : (midway u (schedule spans)).Pairwise Event.Before :=
    (schedule_sorted spans).sublist List.filter_sublist
  rw [heard_pos_iff sorted]
  simp only [ends_midway, begins_midway]
  constructor
  · intro h
    obtain ⟨v, surplus⟩ := h
    obtain ⟨s, -, begun⟩ := List.countP_pos_iff.mp (Nat.zero_lt_of_lt surplus)
    simp only [decide_eq_true_eq] at begun
    have before : v < u := begun.2.1.trans_lt begun.2.2
    have balance := midway_balance ordered l before
    exact ⟨v, before, by omega⟩
  · intro h
    obtain ⟨v, before, surplus⟩ := h
    have balance := midway_balance ordered l before
    exact ⟨v, by omega⟩

end Spans

section Stretches
variable [LinearOrder T]

/-- The stretches over which a signal is on; one that never ends is not closed. -/
def stretches : Option T → List (T × Bool) → List (T × T)
  | _, [] => []
  | none, (t, on) :: rest => stretches (if on then some t else none) rest
  | some a, (t, on) :: rest => if on then stretches (some a) rest else (a, t) :: stretches none rest

def onAt (t : T) (opened : Option T) (signals : List (T × Bool)) : Bool :=
  (((signals.filter fun e => e.1 ≤ t).map Prod.snd).getLast?).getD opened.isSome

theorem onAt_cons_past {t s : T} {opened : Option T} {on : Bool} {rest : List (T × Bool)}
    (next : Option T) (past : s ≤ t) (now : next.isSome = on) :
    onAt t opened ((s, on) :: rest) = onAt t next rest := by
  unfold onAt
  simp only [List.filter_cons, past, decide_true, if_true, List.map_cons, List.getLast?_cons, now,
    Option.getD_some]

theorem onAt_future {t : T} {opened : Option T} {signals : List (T × Bool)}
    (future : ∀ e ∈ signals, t < e.1) : onAt t opened signals = opened.isSome := by
  have nothing : (signals.filter fun e => e.1 ≤ t) = [] := by
    rw [List.filter_eq_nil_iff]
    intro e he
    simp [future e he]
  simp [onAt, nothing]

omit [LinearOrder T] in
theorem stretch_begins {opened : Option T} {signals : List (T × Bool)} {w : T × T}
    (hw : w ∈ stretches opened signals) : opened = some w.1 ∨ w.1 ∈ signals.map Prod.fst := by
  induction signals generalizing opened with
  | nil => simp [stretches] at hw
  | cons e rest ih =>
    obtain ⟨s, on⟩ := e
    rw [List.map_cons, List.mem_cons]
    cases opened with
    | none =>
      rw [stretches] at hw
      rcases ih hw with begun | later
      · cases on with
        | true => exact Or.inr (Or.inl (Option.some.inj begun).symm)
        | false => cases begun
      · exact Or.inr (Or.inr later)
    | some a =>
      cases on with
      | true => exact (ih hw).imp_right Or.inr
      | false =>
        rcases List.mem_cons.mp hw with rfl | hw
        · exact Or.inl rfl
        · rcases ih hw with begun | later
          · cases begun
          · exact Or.inr (Or.inr later)

theorem stretches_future {t : T} {opened : Option T} {signals : List (T × Bool)}
    (late : ∀ a ∈ opened, t < a) (future : ∀ e ∈ signals, t < e.1) :
    ∀ w ∈ stretches opened signals, t < w.1 := by
  intro w hw
  rcases stretch_begins hw with begun | later
  · exact late w.1 begun
  · obtain ⟨e, he, same⟩ := List.mem_map.mp later
    exact (future e he).trans_eq same

theorem stretches_apart {opened : Option T} {signals : List (T × Bool)}
    (sorted : signals.Pairwise fun a b => a.1 ≤ b.1) :
    (stretches opened signals).Pairwise fun v w => v.2 ≤ w.1 := by
  induction signals generalizing opened with
  | nil => exact List.Pairwise.nil
  | cons e rest ih =>
    obtain ⟨s, on⟩ := e
    obtain ⟨after, sorted_rest⟩ := List.pairwise_cons.mp sorted
    cases opened with
    | none => exact ih sorted_rest
    | some a =>
      cases on with
      | true => exact ih sorted_rest
      | false =>
        refine List.Pairwise.cons ?_ (ih sorted_rest)
        intro w hw
        rcases stretch_begins hw with opened | begun
        · cases opened
        · obtain ⟨e, he, same⟩ := List.mem_map.mp begun
          exact (after e he).trans_eq same

theorem stretch_covers_iff {t : T} {opened : Option T} {signals : List (T × Bool)}
    (sorted : signals.Pairwise fun a b => a.1 ≤ b.1) (early : ∀ a ∈ opened, a ≤ t) :
    (∃ w ∈ stretches opened signals, w.1 ≤ t ∧ t < w.2) ↔
      onAt t opened signals = true ∧ ∃ e ∈ signals, t < e.1 ∧ e.2 = false := by
  induction signals generalizing opened with
  | nil => simp [stretches]
  | cons e rest ih =>
    obtain ⟨s, on⟩ := e
    obtain ⟨after, sorted_rest⟩ := List.pairwise_cons.mp sorted
    rcases le_or_gt s t with past | future
    · -- the event is over: what counts is the state it leaves
      have off_later : (∃ e ∈ (s, on) :: rest, t < e.1 ∧ e.2 = false) ↔
          ∃ e ∈ rest, t < e.1 ∧ e.2 = false := by
        simp [past.not_gt]
      rw [off_later]
      cases opened with
      | none =>
        rw [onAt_cons_past (if on then some s else none) past (by cases on <;> rfl), stretches]
        apply ih sorted_rest
        cases on <;> simp [past]
      | some a =>
        cases on with
        | true =>
          rw [onAt_cons_past (some a) past Option.isSome_some]
          exact ih sorted_rest early
        | false =>
          rw [onAt_cons_past none past Option.isSome_none, ← ih sorted_rest (by simp)]
          simp [stretches, past.not_gt]
    · have all_future : ∀ e ∈ (s, on) :: rest, t < e.1 := by
        intro e he
        rcases List.mem_cons.mp he with rfl | he
        · exact future
        · exact future.trans_le (after e he)
      have rest_future : ∀ e ∈ rest, t < e.1 := fun e he => all_future e (List.mem_cons_of_mem _ he)
      rw [onAt_future all_future]
      cases opened with
      | none =>
        simp only [Option.isSome_none, Bool.false_eq_true, false_and, iff_false]
        intro h
        obtain ⟨w, hw, begun, -⟩ := h
        exact absurd begun (not_le.mpr (stretches_future (by simp) all_future w hw))
      | some a =>
        cases on with
        | true =>
          have tail := ih sorted_rest early
          rw [onAt_future rest_future] at tail
          rw [stretches, if_pos rfl, tail]
          simp
        | false =>
          have over_now : ∃ w ∈ stretches (some a) ((s, false) :: rest), w.1 ≤ t ∧ t < w.2 :=
            ⟨(a, s), by simp [stretches], early a rfl, future⟩
          exact iff_of_true over_now ⟨rfl, (s, false), List.mem_cons_self, future, rfl⟩

end Stretches
end EventSweep
