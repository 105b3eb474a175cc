import MeetingPlatform.Transcription.OverlapFlags

/- What the windows tell when every turn takes time: where two speakers are on at once, and
   who is on during a window. -/
namespace Transcription
open WeightTally EventSweep

/-- What the sweep gathers from the opening event on: whoever is counted after it or after
    one of the next events. -/
structure Gathered (front : List (Event String Int)) (opening : Event String Int)
    (during : List (Event String Int)) (labels : List String) : Prop where
  distinct : labels.Nodup
  mem_iff : ∀ l, l ∈ labels ↔ ∃ part, part <+: during ∧ 0 < heard l (front ++ [opening] ++ part)

structure Recorded (evs : List (Event String Int)) (w : SpokenWindow) : Prop where
  events : ∃ front opening during closing rest,
    evs = front ++ [opening] ++ during ++ [closing] ++ rest ∧
    opening.begins = true ∧ opening.time = w.startMs ∧
    closing.begins = false ∧ closing.time = w.endMs ∧
    Gathered front opening during w.speakerLabels

/-- The sweep remembers every window it has closed and what the open one has gathered. -/
structure Swept (evs : List (Event String Int)) (st : SweepState) : Prop where
  counts : st.activeCount = counted evs
  closed : ∀ w ∈ st.overlaps, Recorded evs w
  shut : ¬ 2 ≤ (counted evs).length → st.windowStart = none
  gathering : 2 ≤ (counted evs).length → ∃ front opening during,
    evs = front ++ [opening] ++ during ∧ opening.begins = true ∧
    st.windowStart = some opening.time ∧ Gathered front opening during st.windowSpeakers

section Run
variable {front during evs : List (Event String Int)} {opening e : Event String Int}
  {labels : List String} {st : SweepState} {w : SpokenWindow}

theorem mem_counted {l : String} : l ∈ keys (counted evs) ↔ 0 < heard l evs := by
  rw [counted_iff (counted_counting evs), weight_counted]

theorem gathered_opening :
    Gathered front opening [] (keys (counted (front ++ [opening]))) := by
  constructor
  · exact (counted_counting _).distinct
  · intro l
    rw [mem_counted]
    simp

theorem gathered_snoc (so_far : Gathered front opening during labels) :
    Gathered front opening (during ++ [e])
      (labels ∪ keys (counted (front ++ [opening] ++ (during ++ [e])))) := by
  constructor
  · exact (counted_counting _).distinct.union _
  · intro l
    rw [List.mem_union_iff, so_far.mem_iff, mem_counted]
    constructor
    · intro h
      rcases h with ⟨part, before, on⟩ | on
      · exact ⟨part, before.trans (List.prefix_append _ _), on⟩
      · exact ⟨during ++ [e], List.prefix_rfl, on⟩
    · intro h
      obtain ⟨part, before, on⟩ := h
      rcases List.prefix_concat_iff.mp before with rfl | earlier
      · exact Or.inr on
      · exact Or.inl ⟨part, earlier, on⟩

theorem gathered_sorted (gathered : Gathered front opening during labels) :
    Gathered front opening during (labels.insertionSort (· ≤ ·)) := by
  have same := List.perm_insertionSort (· ≤ ·) labels
  constructor
  · exact same.nodup_iff.mpr gathered.distinct
  · intro l
    rw [same.mem_iff]
    exact gathered.mem_iff l

theorem recorded_snoc (recorded : Recorded evs w) : Recorded (evs ++ [e]) w := by
  obtain ⟨front, opening, during, closing, rest, rfl, story⟩ := recorded.events
  exact ⟨front, opening, during, closing, rest ++ [e], by simp, story⟩

theorem counted_snoc : counted (evs ++ [e]) = countEvent (counted evs) e := by
  simp [counted]

theorem swept_snoc (swept : Swept evs st) : Swept (evs ++ [e]) (st.onEvent e) := by
  have old : ∀ w ∈ st.overlaps, Recorded (evs ++ [e]) w := fun w hw => recorded_snoc (swept.closed w hw)
  unfold SweepState.onEvent
  rw [swept.counts]
  by_cases was : 2 ≤ (counted evs).length <;>
    by_cases now : 2 ≤ (countEvent (counted evs) e).length
  · -- the window stays open
    obtain ⟨front, opening, during, rfl, begins, since, so_far⟩ := swept.gathering was
    simp only [was, now, not_true, and_false, if_false, and_self, if_true]
    constructor
    · exact counted_snoc.symm
    · exact old
    · intro quiet
      exact absurd (counted_snoc ▸ now) quiet
    · intro _
      refine ⟨front, opening, during ++ [e], by simp, begins, since, ?_⟩
      have gathered := gathered_snoc (e := e) so_far
      rwa [← List.append_assoc, counted_snoc] at gathered
  · -- the window closes, which only an end can do
    obtain ⟨front, opening, during, rfl, begins, since, so_far⟩ := swept.gathering was
    have ends : e.begins = false := by
      by_contra up
      have grown : (counted (front ++ [opening] ++ during)).length ≤ _ :=
        countEvent_grows (Bool.eq_true_of_not_eq_false up)
      omega
    simp only [was, now, not_true, and_true, and_false, if_false, not_false_eq_true, if_true,
      since, Option.map_some, Option.toList_some]
    constructor
    · exact counted_snoc.symm
    · intro w hw
      rcases List.mem_append.mp hw with earlier | here
      · exact old w earlier
      · obtain rfl := List.mem_singleton.mp here
        exact ⟨front, opening, during, e, [], by simp, begins, rfl, ends, rfl, gathered_sorted so_far⟩
    · intro _
      rfl
    · intro several
      exact absurd (counted_snoc ▸ several) now
  · -- a window opens, which only a begin can do
    have begins : e.begins = true := by
      by_contra down
      have shrunk : _ ≤ (counted evs).length := countEvent_shrinks (Bool.eq_false_of_not_eq_true down)
      omega
    simp only [was, now, not_false_eq_true, and_self, if_true]
    constructor
    · exact counted_snoc.symm
    · exact old
    · intro quiet
      exact absurd (counted_snoc ▸ now) quiet
    · intro _
      refine ⟨evs, e, [], by simp, begins, rfl, ?_⟩
      rw [← counted_snoc]
      exact gathered_opening
  · simp only [was, now, not_false_eq_true, and_true, and_false, if_false]
    constructor
    · exact counted_snoc.symm
    · exact old
    · intro _
      exact swept.shut was
    · intro several
      exact absurd (counted_snoc ▸ several) now

theorem swept_all (evs : List (Event String Int)) : Swept evs (evs.foldl SweepState.onEvent {}) := by
  induction evs using List.reverseRecOn with
  | nil => exact ⟨rfl, by simp, by simp, by simp [counted]⟩
  | append_singleton evs e ih =>
    rw [List.foldl_append]
    exact swept_snoc ih

end Run

section Order
variable {evs front back : List (Event String Int)} {e : Event String Int} {t : Int}

theorem heard_at_begin (sorted : (front ++ [e] ++ back).Pairwise Event.Before) (l : String)
    (begins : e.begins = true) :
    heard l (front ++ [e]) ≤ heard l (happened e.time (front ++ [e] ++ back)) := by
  obtain ⟨whole, -, after⟩ := List.pairwise_append.mp sorted
  rw [happened, List.filter_append, ← happened, happened_all whole le_rfl]
  apply heard_begins_le
  intro x hx
  obtain ⟨there, now⟩ := List.mem_filter.mp hx
  rw [decide_eq_true_eq] at now
  rcases after e (by simp) x there with later | same
  · exact absurd now later.not_ge
  · exact same.2 begins

theorem heard_at_end (sorted : (front ++ [e] ++ back).Pairwise Event.Before) (l : String)
    (ends : e.begins = false) :
    heard l (front ++ [e]) ≤ heard l (happened (e.time - 1) (front ++ [e] ++ back)) := by
  obtain ⟨whole, -, after⟩ := List.pairwise_append.mp sorted
  have ahead : happened (e.time - 1) back = [] := by
    refine happened_none ?_
    intro x hx
    have order := time_le_of_before (after e (by simp) x hx)
    omega
  have parts := happened_split whole (e.time - 1)
  rw [happened, List.filter_append, ← happened, ← happened, ahead, List.append_nil]
  nth_rewrite 1 [parts]
  apply heard_ends_le
  intro x hx
  obtain ⟨there, late⟩ := List.mem_filter.mp hx
  rw [decide_eq_true_eq] at late
  rcases List.mem_append.mp there with before | here
  · rcases (List.pairwise_append.mp whole).2.2 x before e List.mem_cons_self with early | same
    · omega
    · by_contra up
      rw [same.2 (Bool.eq_true_of_not_eq_false up)] at ends
      cases ends
  · rw [List.mem_singleton.mp here]
    exact ends

end Order

def Turn.Contains (turn : Turn) (t : Int) : Prop := turn.startMs ≤ t ∧ t < turn.endMs

section Labels
variable {turns : List Turn} {w : SpokenWindow}

theorem long_spans (long : ∀ t ∈ turns, t.startMs < t.endMs) :
    ∀ s ∈ turns.map Turn.span, s.start < s.stop := by
  intro s hs
  obtain ⟨t, ht, rfl⟩ := List.mem_map.mp hs
  exact long t ht

theorem begin_before_end {a b : Event String Int} (order : a.Before b) (begins : a.begins = true)
    (ends : b.begins = false) : a.time < b.time := by
  rcases order with early | same
  · exact early
  · rw [same.2 begins] at ends
    cases ends

theorem heard_iff_active (long : ∀ t ∈ turns, t.startMs < t.endMs) (l : String) (t : Int) :
    0 < heard l (happened t (schedule (turns.map Turn.span))) ↔ ActiveAt (turns.map Turn.span) l t := by
  rw [heard_happened_iff (spans_ordered fun t ht => (long t ht).le)]
  exact or_iff_left (no_stray (long_spans long) l t)

theorem gathered_iff {front during rest : List (Event String Int)} {opening closing : Event String Int}
    (long : ∀ t ∈ turns, t.startMs < t.endMs)
    (evs : schedule (turns.map Turn.span) = front ++ [opening] ++ during ++ [closing] ++ rest)
    (begins : opening.begins = true) (ends : closing.begins = false) (l : String) :
    (∃ part, part <+: during ∧ 0 < heard l (front ++ [opening] ++ part)) ↔
      ∃ t, opening.time ≤ t ∧ t < closing.time ∧ ActiveAt (turns.map Turn.span) l t := by
  have sorted := schedule_sorted (turns.map Turn.span)
  simp only [← heard_iff_active long]
  rw [evs] at sorted ⊢
  obtain ⟨till_closing, -, -⟩ := List.pairwise_append.mp sorted
  obtain ⟨till_now, -, before_closing⟩ := List.pairwise_append.mp till_closing
  obtain ⟨till_opening, during_sorted, since_opening⟩ := List.pairwise_append.mp till_now
  have before_last : ∀ x ∈ front ++ [opening] ++ during, x.Before closing :=
    fun x hx => before_closing x hx closing List.mem_cons_self
  constructor
  · intro h
    obtain ⟨part, ⟨later, rfl⟩, on⟩ := h
    rcases List.eq_nil_or_concat part with rfl | ⟨part, e, rfl⟩
    · have order : (front ++ [opening] ++ (later ++ [closing] ++ rest)).Pairwise Event.Before := by
        simpa using sorted
      refine ⟨opening.time, le_rfl, begin_before_end (before_last opening (by simp)) begins ends,
        on.trans_le ?_⟩
      simpa using heard_at_begin order l begins
    · rw [List.concat_eq_append] at *
      have order : (front ++ [opening] ++ part ++ [e] ++ (later ++ [closing] ++ rest)).Pairwise
          Event.Before := by
        simpa using sorted
      have opened : opening.Before e := since_opening opening (by simp) e (by simp)
      have ahead : e.Before closing := before_last e (by simp)
      cases kind : e.begins with
      | true =>
        refine ⟨e.time, time_le_of_before opened, begin_before_end ahead kind ends, on.trans_le ?_⟩
        simpa using heard_at_begin order l kind
      | false =>
        have started := begin_before_end opened begins kind
        have ended := time_le_of_before ahead
        refine ⟨e.time - 1, by omega, by omega, on.trans_le ?_⟩
        simpa using heard_at_end order l kind
  · intro h
    obtain ⟨t, since, until_end, on⟩ := h
    refine ⟨happened t during, ⟨_, (happened_split during_sorted t).symm⟩, ?_⟩
    have past := happened_all till_opening since
    have ahead : happened t ([closing] ++ rest) = [] := by
      refine happened_none ?_
      intro x hx
      rcases List.mem_append.mp hx with here | after
      · rw [List.mem_singleton.mp here]
        exact until_end
      · have order := (List.pairwise_append.mp sorted).2.2 closing (by simp) x after
        exact until_end.trans_le (time_le_of_before order)
    rwa [List.append_assoc (front ++ [opening] ++ during), happened, List.filter_append,
      List.filter_append, ← happened, ← happened, ← happened, past, ahead, List.append_nil] at on

theorem active_iff {l : String} {t : Int} :
    ActiveAt (turns.map Turn.span) l t ↔
      ∃ turn ∈ turns, turn.speakerLabel = l ∧ turn.Contains t := by
  simp [ActiveAt, Turn.span, Turn.Contains]

theorem active_during_iff {l : String} {a b : Int} :
    (∃ t, a ≤ t ∧ t < b ∧ ActiveAt (turns.map Turn.span) l t) ↔
      ∃ turn ∈ turns, turn.speakerLabel = l ∧ max turn.startMs a < min turn.endMs b := by
  simp only [active_iff]
  constructor
  · intro h
    obtain ⟨t, since, until_end, turn, there, mine, begun, going⟩ := h
    exact ⟨turn, there, mine, by omega⟩
  · intro h
    obtain ⟨turn, there, mine, room⟩ := h
    exact ⟨max turn.startMs a, by omega, by omega, turn, there, mine, by omega, by omega⟩

theorem window_labels (long : ∀ t ∈ turns, t.startMs < t.endMs) (found : w ∈ detectOverlaps turns) :
    w.speakerLabels.Nodup ∧ ∀ l, l ∈ w.speakerLabels ↔
      ∃ turn ∈ turns, turn.speakerLabel = l ∧
        max turn.startMs w.startMs < min turn.endMs w.endMs := by
  rw [detectOverlaps_eq] at found
  obtain ⟨front, opening, during, closing, rest, evs, begins, since, ends, until_end, gathered⟩ :=
    ((swept_all _).closed w found).events
  constructor
  · exact gathered.distinct
  · intro l
    rw [gathered.mem_iff, gathered_iff long evs begins ends, since, until_end, active_during_iff]

theorem windows_apart (turns : List Turn) :
    (detectOverlaps turns).Pairwise fun v w => v.endMs ≤ w.startMs := by
  have apart : (stretches none (signals [] (schedule (turns.map Turn.span)))).Pairwise
      fun v w => v.2 ≤ w.1 :=
    stretches_apart (signals_sorted (schedule_sorted _))
  rw [← stretches_detected, List.pairwise_map] at apart
  exact apart

theorem counted_iff_active (long : ∀ t ∈ turns, t.startMs < t.endMs) (l : String) (t : Int) :
    CountedAt turns l t ↔ ActiveAt (turns.map Turn.span) l t :=
  or_iff_left (no_stray (long_spans long) l t)

theorem in_some_window_iff (long : ∀ t ∈ turns, t.startMs < t.endMs) (t : Int) :
    (∃ w ∈ detectOverlaps turns, w.startMs ≤ t ∧ t < w.endMs) ↔
      ∃ a ∈ turns, ∃ b ∈ turns, a.speakerLabel ≠ b.speakerLabel ∧ a.Contains t ∧ b.Contains t := by
  have closes : ClosesAfter turns t := by
    apply closes_of_steady
    intro l u
    rw [instants_zero (long_spans long)]
    exact Nat.zero_le _
  rw [in_window_iff fun turn there => (long turn there).le, and_iff_left closes]
  simp only [counted_iff_active long, active_iff]
  constructor
  · intro h
    obtain ⟨_, _, apart, ⟨a, ha, rfl, at_a⟩, b, hb, rfl, at_b⟩ := h
    exact ⟨a, ha, b, hb, apart, at_a, at_b⟩
  · intro h
    obtain ⟨a, ha, b, hb, apart, at_a, at_b⟩ := h
    exact ⟨_, _, apart, ⟨a, ha, rfl, at_a⟩, b, hb, rfl, at_b⟩

def crossing : List Turn :=
  [⟨5, 15, "bob"⟩, ⟨0, 10, "ann"⟩, ⟨12, 22, "bob"⟩, ⟨20, 30, "ann"⟩]

theorem overlap_windows_exact (turns : List Turn) (long : ∀ t ∈ turns, t.startMs < t.endMs) :
    (detectOverlaps turns).Pairwise (fun v w => v.endMs ≤ w.startMs) ∧
      (∀ w ∈ detectOverlaps turns, w.startMs < w.endMs) ∧
      (∀ t, (∃ w ∈ detectOverlaps turns, w.startMs ≤ t ∧ t < w.endMs) ↔
        ∃ a ∈ turns, ∃ b ∈ turns, a.speakerLabel ≠ b.speakerLabel ∧ a.Contains t ∧ b.Contains t) ∧
      ∀ w ∈ detectOverlaps turns, w.speakerLabels.Nodup ∧ ∀ l, l ∈ w.speakerLabels ↔
        ∃ turn ∈ turns, turn.speakerLabel = l ∧
          max turn.startMs w.startMs < min turn.endMs w.endMs :=
  ⟨windows_apart turns, detected_positive turns, in_some_window_iff long,
    fun _ found => window_labels long found⟩

theorem crossing_turns_exact :
    (detectOverlaps crossing).Pairwise (fun v w => v.endMs ≤ w.startMs) ∧
      (∀ w ∈ detectOverlaps crossing, w.startMs < w.endMs) ∧
      (∀ t, (∃ w ∈ detectOverlaps crossing, w.startMs ≤ t ∧ t < w.endMs) ↔
        ∃ a ∈ crossing, ∃ b ∈ crossing, a.speakerLabel ≠ b.speakerLabel ∧ a.Contains t ∧
          b.Contains t) ∧
      ∀ w ∈ detectOverlaps crossing, w.speakerLabels.Nodup ∧ ∀ l, l ∈ w.speakerLabels ↔
        ∃ turn ∈ crossing, turn.speakerLabel = l ∧
          max turn.startMs w.startMs < min turn.endMs w.endMs :=
  overlap_windows_exact crossing (by decide)

example : detectOverlaps crossing = [⟨⟨5, 10⟩, ["ann", "bob"]⟩, ⟨⟨20, 22⟩, ["ann", "bob"]⟩] := by
  decide +kernel

end Labels
end Transcription
