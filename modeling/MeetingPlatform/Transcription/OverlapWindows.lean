import MeetingPlatform.Lib.Sweep
import MeetingPlatform.Transcription.Segments

/- Where several speakers talk at once. The turns are swept in the order of time with a
   counter for each speaker, and a segment is marked when it meets a window found so. -/
namespace Transcription
open WeightTally EventSweep

/-- A window with the speakers heard in it. -/
structure SpokenWindow extends OverlapWindow where
  speakerLabels : List String
  deriving DecidableEq, Repr

def Turn.span (t : Turn) : Span String Int := ⟨t.speakerLabel, t.startMs, t.endMs⟩

def popOne (speaker : String) : List (String × Nat) → List (String × Nat)
  | [] => []
  | (k, n) :: rest =>
    if k = speaker then (if n - 1 = 0 then rest else (k, n - 1) :: rest)
    else (k, n) :: popOne speaker rest

def countEvent (active : List (String × Nat)) (e : Event String Int) : List (String × Nat) :=
  if e.begins then add e.label 1 active else popOne e.label active

structure SweepState where
  activeCount : List (String × Nat) := []
  overlaps : List SpokenWindow := []
  windowStart : Option Int := none
  windowSpeakers : List String := []

def SweepState.onEvent (st : SweepState) (e : Event String Int) : SweepState :=
  let wasOverlapping := 2 ≤ st.activeCount.length
  let activeCount := countEvent st.activeCount e
  let isOverlapping := 2 ≤ activeCount.length
  if isOverlapping ∧ ¬ wasOverlapping then
    { st with
      activeCount := activeCount
      windowStart := some e.time
      windowSpeakers := keys activeCount }
  else if isOverlapping ∧ wasOverlapping then
    { st with
      activeCount := activeCount
      windowSpeakers := st.windowSpeakers ∪ keys activeCount }
  else if ¬ isOverlapping ∧ wasOverlapping then
    { activeCount := activeCount
      overlaps := st.overlaps ++ (st.windowStart.map fun start =>
        ⟨⟨start, e.time⟩, st.windowSpeakers.insertionSort (· ≤ ·)⟩).toList
      windowStart := none
      windowSpeakers := [] }
  else { st with activeCount := activeCount }

def detectOverlaps (turns : List Turn) : List SpokenWindow :=
  if turns.length < 2 then []
  else ((schedule (turns.map Turn.span)).foldl SweepState.onEvent {}).overlaps

section Marks
variable {F : Type}

def Segment.turn (s : Segment F) : Turn := ⟨s.startMs, s.endMs, s.speakerLabel⟩

def detectOverlapsFromSegments (segments : List (Segment F)) : List SpokenWindow :=
  detectOverlaps ((segments.filter fun s => s.speakerLabel ≠ "unknown").map Segment.turn)

def markOverlap (windows : List SpokenWindow) (segment : Segment F) : Segment F :=
  if segmentOverlapsWindow segment (windows.map SpokenWindow.toOverlapWindow) then
    { segment with overlap := true }
  else segment

def markOverlappingSegments (segments : List (Segment F)) (windows : List SpokenWindow) :
    List (Segment F) :=
  segments.map (markOverlap windows)

end Marks

/-- A dictionary of counters that are all at work. -/
structure Counting (active : List (String × Nat)) : Prop where
  distinct : (keys active).Nodup
  positive : ∀ e ∈ active, 0 < e.2

section Counters
variable {active : List (String × Nat)} {speaker other : String} {e : Event String Int}

theorem add_counting (counting : Counting active) : Counting (add speaker 1 active) := by
  constructor
  · rw [keys_add]
    split
    · exact counting.distinct
    · rename_i fresh
      rw [List.nodup_append]
      refine ⟨counting.distinct, List.nodup_singleton _, ?_⟩
      intro a ha b hb same
      rw [List.mem_singleton.mp hb] at same
      exact fresh (same ▸ ha)
  · have positive := counting.positive
    clear counting
    induction active with
    | nil => simp [add]
    | cons v rest ih =>
      have rest_positive := ih fun e he => positive e (List.mem_cons_of_mem _ he)
      unfold add
      split
      · intro e he
        rcases List.mem_cons.mp he with rfl | he
        · exact Nat.succ_pos _
        · exact positive e (List.mem_cons_of_mem _ he)
      · intro e he
        rcases List.mem_cons.mp he with rfl | he
        · exact positive _ List.mem_cons_self
        · exact rest_positive e he

theorem keys_popOne : (keys (popOne speaker active)).Sublist (keys active) := by
  induction active with
  | nil => exact List.Sublist.refl _
  | cons v rest ih =>
    unfold popOne
    split
    · split
      · exact List.sublist_cons_self _ _
      · exact List.Sublist.refl _
    · exact ih.cons_cons _

theorem popOne_counting (counting : Counting active) : Counting (popOne speaker active) := by
  constructor
  · exact counting.distinct.sublist keys_popOne
  · have positive := counting.positive
    clear counting
    induction active with
    | nil => simp [popOne]
    | cons v rest ih =>
      have rest_positive := ih fun e he => positive e (List.mem_cons_of_mem _ he)
      have later : ∀ e ∈ rest, 0 < e.2 := fun e he => positive e (List.mem_cons_of_mem _ he)
      unfold popOne
      split
      · split
        · exact later
        · intro e he
          rcases List.mem_cons.mp he with rfl | he
          · simp only
            omega
          · exact later e he
      · intro e he
        rcases List.mem_cons.mp he with rfl | he
        · exact positive _ List.mem_cons_self
        · exact rest_positive e he

theorem weight_popOne (counting : Counting active) :
    weight (popOne speaker active) other =
      if other = speaker then weight active other - 1 else weight active other := by
  have distinct := counting.distinct
  clear counting
  induction active with
  | nil => simp [popOne, weight]
  | cons v rest ih =>
    simp only [keys, List.map_cons, List.nodup_cons] at distinct
    have tail := ih distinct.2
    by_cases here : v.1 = speaker
    · subst here
      have alone := weight_of_not_mem distinct.1
      unfold popOne
      by_cases same : other = v.1
      · subst same
        rw [if_pos rfl, if_pos rfl, weight_cons, if_pos rfl, alone]
        split
        · rw [alone]
          omega
        · rw [weight_cons, if_pos rfl, alone]
          omega
      · rw [if_pos rfl, if_neg same, weight_cons, if_neg (Ne.symm same)]
        split
        · rfl
        · rw [weight_cons, if_neg (Ne.symm same)]
    · unfold popOne
      rw [if_neg here, weight_cons, weight_cons, tail]
      by_cases same : other = speaker
      · subst same
        simp [here]
      · simp [same]

theorem countEvent_counting (counting : Counting active) (e : Event String Int) :
    Counting (countEvent active e) := by
  unfold countEvent
  split
  · exact add_counting counting
  · exact popOne_counting counting

theorem counted_iff (counting : Counting active) : speaker ∈ keys active ↔ 0 < weight active speaker := by
  constructor
  · intro there
    obtain ⟨e, he, rfl⟩ := List.mem_map.mp there
    rw [weight_of_entry counting.distinct he]
    exact counting.positive e he
  · intro positive
    by_contra absent
    rw [weight_of_not_mem absent] at positive
    exact Nat.lt_irrefl 0 positive

theorem countEvent_grows (begins : e.begins = true) :
    active.length ≤ (countEvent active e).length := by
  have grown : (keys active).length ≤ (keys (countEvent active e)).length := by
    rw [countEvent, if_pos begins, keys_add]
    split
    · exact Nat.le_refl _
    · simp
  simpa [keys] using grown

theorem countEvent_shrinks (ends : e.begins = false) :
    (countEvent active e).length ≤ active.length := by
  have shrunk : (keys (popOne e.label active)).length ≤ (keys active).length :=
    keys_popOne.length_le
  simpa [keys, countEvent, ends] using shrunk

theorem two_counted_iff (counting : Counting active) :
    2 ≤ active.length ↔ ∃ a b, a ≠ b ∧ 0 < weight active a ∧ 0 < weight active b := by
  simp only [← counted_iff counting]
  have distinct := counting.distinct
  constructor
  · intro several
    cases active with
    | nil => simp at several
    | cons v rest =>
      cases rest with
      | nil => simp at several
      | cons w rest =>
        refine ⟨v.1, w.1, ?_, by simp [keys], by simp [keys]⟩
        intro same
        simp [keys, same] at distinct
  · intro h
    obtain ⟨a, b, apart, ha, hb⟩ := h
    cases active with
    | nil => cases ha
    | cons v rest =>
      cases rest with
      | nil =>
        simp only [keys, List.map_cons, List.map_nil, List.mem_singleton] at ha hb
        exact absurd (ha.trans hb.symm) apart
      | cons w rest => simp

end Counters

def counted (evs : List (Event String Int)) : List (String × Nat) := evs.foldl countEvent []

theorem counted_counting (evs : List (Event String Int)) : Counting (counted evs) := by
  induction evs using List.reverseRecOn with
  | nil => exact ⟨List.nodup_nil, by simp [counted]⟩
  | append_singleton evs e ih =>
    rw [counted, List.foldl_append]
    exact countEvent_counting ih e

theorem weight_counted (l : String) (evs : List (Event String Int)) :
    weight (counted evs) l = heard l evs := by
  induction evs using List.reverseRecOn with
  | nil => rfl
  | append_singleton evs e ih =>
    have step : counted (evs ++ [e]) = countEvent (counted evs) e := by simp [counted]
    rw [step, heard_snoc, ← ih, countEvent]
    cases e.begins with
    | true =>
      rw [if_pos rfl, weight_add]
      by_cases mine : e.label = l
      · simp [mine]
      · simp [mine, Ne.symm mine]
    | false =>
      rw [if_neg Bool.false_ne_true, weight_popOne (counted_counting evs)]
      by_cases mine : e.label = l
      · simp [mine]
      · simp [mine, Ne.symm mine]

theorem overlapping_iff (evs : List (Event String Int)) :
    2 ≤ (counted evs).length ↔ ∃ a b, a ≠ b ∧ 0 < heard a evs ∧ 0 < heard b evs := by
  simp only [two_counted_iff (counted_counting evs), weight_counted]

section Windows

def signals (active : List (String × Nat)) : List (Event String Int) → List (Int × Bool)
  | [] => []
  | e :: rest =>
    (e.time, decide (2 ≤ (countEvent active e).length)) :: signals (countEvent active e) rest

def SpokenWindow.stretch (w : SpokenWindow) : Int × Int := (w.startMs, w.endMs)

variable {st : SweepState} {evs : List (Event String Int)}

theorem onEvent_cases (st : SweepState) (e : Event String Int) :
    (st.onEvent e).activeCount = countEvent st.activeCount e ∧
      (2 ≤ (countEvent st.activeCount e).length → 2 ≤ st.activeCount.length →
        (st.onEvent e).windowStart = st.windowStart ∧ (st.onEvent e).overlaps = st.overlaps) ∧
      (2 ≤ (countEvent st.activeCount e).length → ¬ 2 ≤ st.activeCount.length →
        (st.onEvent e).windowStart = some e.time ∧ (st.onEvent e).overlaps = st.overlaps) ∧
      (¬ 2 ≤ (countEvent st.activeCount e).length → ¬ 2 ≤ st.activeCount.length →
        (st.onEvent e).windowStart = st.windowStart ∧ (st.onEvent e).overlaps = st.overlaps) ∧
      (¬ 2 ≤ (countEvent st.activeCount e).length → 2 ≤ st.activeCount.length →
        (st.onEvent e).windowStart = none ∧
          (st.onEvent e).overlaps.map SpokenWindow.stretch =
            st.overlaps.map SpokenWindow.stretch ++
              (st.windowStart.map fun start => (start, e.time)).toList) := by
  unfold SweepState.onEvent
  by_cases was : 2 ≤ st.activeCount.length <;>
    by_cases now : 2 ≤ (countEvent st.activeCount e).length <;> simp [was, now]
  cases st.windowStart <;> simp [SpokenWindow.stretch]

def Opened (st : SweepState) : Prop :=
  st.windowStart.isSome = decide (2 ≤ st.activeCount.length)

theorem onEvent_opened (opened : Opened st) (e : Event String Int) : Opened (st.onEvent e) := by
  obtain ⟨active, stays, opens, rests, closes⟩ := onEvent_cases st e
  unfold Opened at opened ⊢
  rw [active]
  by_cases was : 2 ≤ st.activeCount.length <;>
    by_cases now : 2 ≤ (countEvent st.activeCount e).length
  · rw [(stays now was).1, opened]
    simp [was, now]
  · rw [(closes now was).1]
    simp [now]
  · rw [(opens now was).1]
    simp [now]
  · rw [(rests now was).1, opened]
    simp [was, now]

theorem sweep_stretches (opened : Opened st) :
    (evs.foldl SweepState.onEvent st).overlaps.map SpokenWindow.stretch =
      st.overlaps.map SpokenWindow.stretch ++
        stretches st.windowStart (signals st.activeCount evs) := by
  induction evs generalizing st with
  | nil => simp [signals, stretches]
  | cons e evs ih =>
    obtain ⟨active, stays, opens, rests, closes⟩ := onEvent_cases st e
    rw [List.foldl_cons, ih (onEvent_opened opened e), active, signals]
    unfold Opened at opened
    by_cases was : 2 ≤ st.activeCount.length
    · obtain ⟨start, open_since⟩ := Option.isSome_iff_exists.mp (opened.trans (by simp [was]))
      by_cases now : 2 ≤ (countEvent st.activeCount e).length
      · rw [(stays now was).1, (stays now was).2]
        simp [open_since, stretches, now]
      · rw [(closes now was).1, (closes now was).2]
        simp [open_since, stretches, now]
    · have closed : st.windowStart = none := by
        rw [← Option.not_isSome_iff_eq_none, opened]
        simp [was]
      by_cases now : 2 ≤ (countEvent st.activeCount e).length
      · rw [(opens now was).1, (opens now was).2]
        simp [closed, stretches, now]
      · rw [(rests now was).1, (rests now was).2]
        simp [closed, stretches, now]

theorem windows_positive (sorted : evs.Pairwise Event.Before)
    (found : ∀ w ∈ st.overlaps.map SpokenWindow.stretch, w.1 < w.2)
    (ahead : ∀ start ∈ st.windowStart, ∀ e ∈ evs, e.begins = false → start < e.time) :
    ∀ w ∈ (evs.foldl SweepState.onEvent st).overlaps.map SpokenWindow.stretch, w.1 < w.2 := by
  induction evs generalizing st with
  | nil => exact found
  | cons e evs ih =>
    obtain ⟨active, stays, opens, rests, closes⟩ := onEvent_cases st e
    obtain ⟨later, sorted_rest⟩ := List.pairwise_cons.mp sorted
    have ahead_rest : ∀ start ∈ st.windowStart, ∀ x ∈ evs, x.begins = false → start < x.time :=
      fun start since x hx => ahead start since x (List.mem_cons_of_mem _ hx)
    rw [List.foldl_cons]
    apply ih sorted_rest
    · by_cases closing : 2 ≤ st.activeCount.length ∧ ¬ 2 ≤ (countEvent st.activeCount e).length
      · rw [(closes closing.2 closing.1).2]
        intro w hw
        rcases List.mem_append.mp hw with old | new
        · exact found w old
        · have ends : e.begins = false := by
            by_contra begins
            have grown : st.activeCount.length ≤ (countEvent st.activeCount e).length :=
              countEvent_grows (Bool.eq_true_of_not_eq_false begins)
            omega
          obtain ⟨start, since, rfl⟩ := Option.map_eq_some_iff.mp (Option.mem_toList.mp new)
          exact ahead start since e List.mem_cons_self ends
      · have same : (st.onEvent e).overlaps = st.overlaps := by
          by_cases was : 2 ≤ st.activeCount.length <;>
            by_cases now : 2 ≤ (countEvent st.activeCount e).length
          · exact (stays now was).2
          · exact absurd ⟨was, now⟩ closing
          · exact (opens now was).2
          · exact (rests now was).2
        rw [same]
        exact found
    · by_cases was : 2 ≤ st.activeCount.length <;>
        by_cases now : 2 ≤ (countEvent st.activeCount e).length
      · rw [(stays now was).1]
        exact ahead_rest
      · rw [(closes now was).1]
        simp
      · rw [(opens now was).1]
        intro start since x hx ends
        obtain rfl : e.time = start := Option.some.inj since
        have begins : e.begins = true := by
          by_contra ends
          have shrunk : (countEvent st.activeCount e).length ≤ st.activeCount.length :=
            countEvent_shrinks (Bool.eq_false_of_not_eq_true ends)
          omega
        rcases later x hx with after | same
        · exact after
        · rw [same.2 begins] at ends
          cases ends
      · rw [(rests now was).1]
        exact ahead_rest

end Windows

section Signal
variable {active : List (String × Nat)} {evs more : List (Event String Int)} {t u : Int}

theorem signals_append :
    signals active (evs ++ more) = signals active evs ++ signals (evs.foldl countEvent active) more := by
  induction evs generalizing active with
  | nil => rfl
  | cons e evs ih =>
    rw [List.cons_append, signals, signals, ih]
    rfl

theorem signals_times : (signals active evs).map Prod.fst = evs.map Event.time := by
  induction evs generalizing active with
  | nil => rfl
  | cons e evs ih => rw [signals, List.map_cons, ih, List.map_cons]

theorem signals_sorted (sorted : evs.Pairwise Event.Before) :
    (signals active evs).Pairwise fun a b => a.1 ≤ b.1 := by
  rw [← List.pairwise_map (f := Prod.fst) (R := (· ≤ ·)), signals_times, List.pairwise_map]
  apply sorted.imp
  intro a b order
  rcases order with early | same
  · exact early.le
  · exact same.1.le

theorem onAt_signals (sorted : evs.Pairwise Event.Before) (t : Int) :
    onAt t none (signals [] evs) = decide (2 ≤ (counted (happened t evs)).length) := by
  have split := happened_split sorted t
  have front : (signals [] evs).filter (fun x => x.1 ≤ t) = signals [] (happened t evs) := by
    rw [split, signals_append, List.filter_append, ← split]
    have all_past : ∀ x ∈ signals [] (happened t evs), x.1 ≤ t := by
      intro x hx
      have there := List.mem_map_of_mem (f := Prod.fst) hx
      rw [signals_times] at there
      obtain ⟨e, he, same⟩ := List.mem_map.mp there
      rw [← same]
      simpa using (List.mem_filter.mp he).2
    have none_past : ∀ active, ∀ x ∈ signals active (evs.filter fun e => t < e.time), ¬ x.1 ≤ t := by
      intro active x hx
      have there := List.mem_map_of_mem (f := Prod.fst) hx
      rw [signals_times] at there
      obtain ⟨e, he, same⟩ := List.mem_map.mp there
      rw [← same, not_le]
      simpa using (List.mem_filter.mp he).2
    rw [List.filter_eq_self.mpr (by simpa using all_past),
      List.filter_eq_nil_iff.mpr (by simpa using none_past _), List.append_nil]
  rw [onAt, front]
  induction happened t evs using List.reverseRecOn with
  | nil => rfl
  | append_singleton evs e _ =>
    rw [signals_append]
    simp [signals, counted]

theorem off_of_mem {x : Int × Bool} (there : x ∈ signals active evs) (off : x.2 = false) :
    ∃ front e back, evs = front ++ e :: back ∧ e.time = x.1 ∧
      ¬ 2 ≤ ((front ++ [e]).foldl countEvent active).length := by
  induction evs generalizing active with
  | nil => cases there
  | cons e evs ih =>
    rcases List.mem_cons.mp there with rfl | later
    · exact ⟨[], e, evs, rfl, rfl, by simpa using off⟩
    · obtain ⟨front, e', back, rfl, time, closed⟩ := ih later
      exact ⟨e :: front, e', back, rfl, time, closed⟩

theorem ends_shrink (ends : ∀ e ∈ evs, e.begins = false) :
    (evs.foldl countEvent active).length ≤ active.length := by
  induction evs generalizing active with
  | nil => exact Nat.le_refl _
  | cons e evs ih =>
    exact (ih fun x hx => ends x (List.mem_cons_of_mem _ hx)).trans
      (countEvent_shrinks (ends e List.mem_cons_self))

theorem begins_grow (begins : ∀ e ∈ evs, e.begins = true) :
    active.length ≤ (evs.foldl countEvent active).length := by
  induction evs generalizing active with
  | nil => exact Nat.le_refl _
  | cons e evs ih =>
    exact (countEvent_grows (begins e List.mem_cons_self)).trans
      (ih fun x hx => begins x (List.mem_cons_of_mem _ hx))

theorem midway_ends {u : Int} {e : Event String Int} (there : e ∈ midway u evs) (now : u ≤ e.time) :
    e.begins = false := by
  have within := (List.mem_filter.mp there).2
  simp only [decide_eq_true_eq] at within
  rcases within with early | same
  · exact absurd early now.not_gt
  · exact same.2

theorem beyond_begins {u : Int} {e : Event String Int} (there : e ∈ beyond u evs) (now : e.time ≤ u) :
    e.begins = true := by
  have within := (List.mem_filter.mp there).2
  simp only [decide_eq_true_eq] at within
  rcases within with late | same
  · exact absurd late now.not_gt
  · exact same.2

theorem off_midway {front back : List (Event String Int)} {e : Event String Int}
    (sorted : evs.Pairwise Event.Before) (place : evs = front ++ [e] ++ back)
    (off : ¬ 2 ≤ (counted (front ++ [e])).length) :
    ¬ 2 ≤ (counted (midway e.time evs)).length := by
  have split := midway_split sorted e.time
  have order : (front ++ [e] ++ back).Pairwise Event.Before := place ▸ sorted
  rcases List.prefix_or_prefix_of_prefix ⟨_, split.symm⟩ ⟨back, place.symm⟩ with ⟨rest, fits⟩ | ⟨rest, fits⟩
  · -- what is left to reach the event begins in its instant
    have in_beyond : ∀ x ∈ rest, x ∈ beyond e.time evs := by
      intro x hx
      have tail : beyond e.time evs = rest ++ back := by
        have same : midway e.time evs ++ beyond e.time evs = midway e.time evs ++ (rest ++ back) := by
          rw [← split, ← List.append_assoc, fits]
          exact place
        exact List.append_cancel_left same
      rw [tail]
      exact List.mem_append_left _ hx
    have not_after : ∀ x ∈ rest, x.time ≤ e.time := by
      intro x hx
      have there : x ∈ front ++ [e] := fits ▸ List.mem_append_right _ hx
      rcases List.mem_append.mp there with before | here
      · rcases (List.pairwise_append.mp (List.pairwise_append.mp order).1).2.2 x before e
            List.mem_cons_self with early | same
        · exact early.le
        · exact same.1.le
      · exact (congrArg Event.time (List.mem_singleton.mp here)).le
    have begins : ∀ x ∈ rest, x.begins = true :=
      fun x hx => beyond_begins (in_beyond x hx) (not_after x hx)
    have step : counted (front ++ [e]) = rest.foldl countEvent (counted (midway e.time evs)) := by
      rw [← fits, counted, List.foldl_append]
      rfl
    have grown : (counted (midway e.time evs)).length ≤ (counted (front ++ [e])).length := by
      rw [step]
      exact begins_grow begins
    omega
  · have in_midway : ∀ x ∈ rest, x ∈ midway e.time evs := by
      intro x hx
      rw [← fits]
      exact List.mem_append_right _ hx
    have not_before : ∀ x ∈ rest, e.time ≤ x.time := by
      intro x hx
      have whole : front ++ [e] ++ back = front ++ [e] ++ (rest ++ beyond e.time evs) := by
        rw [← place, ← List.append_assoc, fits]
        exact split
      rw [whole] at order
      rcases (List.pairwise_append.mp order).2.2 e (by simp) x (List.mem_append_left _ hx) with after | same
      · exact after.le
      · exact same.1.le
    have ends : ∀ x ∈ rest, x.begins = false :=
      fun x hx => midway_ends (in_midway x hx) (not_before x hx)
    have step : counted (midway e.time evs) = rest.foldl countEvent (counted (front ++ [e])) := by
      rw [← fits, counted, List.foldl_append]
      rfl
    have shrunk : (counted (midway e.time evs)).length ≤ (counted (front ++ [e])).length := by
      rw [step]
      exact ends_shrink ends
    omega

theorem mem_signals {front back : List (Event String Int)} {e : Event String Int}
    (place : evs = front ++ [e] ++ back) :
    (e.time, decide (2 ≤ (counted (front ++ [e])).length)) ∈ signals [] evs := by
  rw [place, signals_append, signals_append]
  simp [signals, counted]

theorem off_later_iff (sorted : evs.Pairwise Event.Before)
    (on : 2 ≤ (counted (happened t evs)).length) :
    (∃ x ∈ signals [] evs, t < x.1 ∧ x.2 = false) ↔
      ∃ u, t < u ∧ ¬ 2 ≤ (counted (midway u evs)).length := by
  constructor
  · intro h
    obtain ⟨x, there, later, off⟩ := h
    obtain ⟨front, e, back, place, time, closed⟩ := off_of_mem there off
    rw [List.append_cons] at place
    exact ⟨e.time, time ▸ later, off_midway sorted place closed⟩
  · intro h
    obtain ⟨u, later, off⟩ := h
    have past : happened t (midway u evs) = happened t evs := by
      rw [happened, midway, List.filter_filter]
      apply List.filter_congr
      intro e _
      simp only [Bool.decide_and, Bool.decide_or, Bool.and_eq_left_iff_imp, decide_eq_true_eq,
        Bool.or_eq_true, Bool.and_eq_true]
      intro early
      exact Or.inl (early.trans_lt later)
    have midway_sorted : (midway u evs).Pairwise Event.Before := sorted.sublist List.filter_sublist
    have split := happened_split midway_sorted t
    rw [past] at split
    -- the last event between now and then leaves the signal off
    rcases List.eq_nil_or_concat ((midway u evs).filter fun e => t < e.time) with
      nothing | ⟨front, e, last⟩
    · rw [nothing, List.append_nil] at split
      rw [split] at off
      exact absurd on off
    · rw [List.concat_eq_append] at last
      rw [last, ← List.append_assoc] at split
      have between : e ∈ (midway u evs).filter fun e => t < e.time := by simp [last]
      have place : evs = (happened t evs ++ front) ++ [e] ++ beyond u evs := by
        rw [← split]
        exact midway_split sorted u
      refine ⟨_, mem_signals place, by simpa using (List.mem_filter.mp between).2, ?_⟩
      rw [← split]
      simpa using off

end Signal

end Transcription
