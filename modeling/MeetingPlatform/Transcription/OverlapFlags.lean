import MeetingPlatform.Transcription.OverlapWindows

/- When the overlap flag of a segment is right. An empty segment ends before it begins for
   the sweep, and leaves its speaker counted; two such speakers keep a window open for ever. -/
namespace Transcription
open WeightTally EventSweep

section Coverage
variable {turns : List Turn} {t : Int}

/-- Counted at a time: heard there, or left over from empty turns by then. -/
def CountedAt (turns : List Turn) (label : String) (t : Int) : Prop :=
  ActiveAt (turns.map Turn.span) label t ∨ StrayBy (turns.map Turn.span) label t

/-- Some instant is still to come that at most one speaker is counted across. -/
def ClosesAfter (turns : List Turn) (t : Int) : Prop :=
  ∃ u, t < u ∧ ∀ a b, HeldAcross (turns.map Turn.span) a u → HeldAcross (turns.map Turn.span) b u →
    a = b

theorem spans_ordered (ordered : ∀ t ∈ turns, t.startMs ≤ t.endMs) :
    Ordered (turns.map Turn.span) := by
  intro s hs
  obtain ⟨t, ht, rfl⟩ := List.mem_map.mp hs
  exact ordered t ht

theorem lone_turn_quiet (turn : Turn) :
    ((schedule [turn.span]).foldl SweepState.onEvent {}).overlaps = [] := by
  by_cases order : turn.startMs < turn.endMs <;>
    simp [schedule, Span.events, Turn.span, List.insertionSort, List.orderedInsert, Event.Before,
      SweepState.onEvent, countEvent, add, popOne, order]

theorem detectOverlaps_eq (turns : List Turn) :
    detectOverlaps turns =
      ((schedule (turns.map Turn.span)).foldl SweepState.onEvent {}).overlaps := by
  unfold detectOverlaps
  split
  · match turns with
    | [] => rfl
    | [turn] => exact (lone_turn_quiet turn).symm
  · rfl

theorem stretches_detected (turns : List Turn) :
    (detectOverlaps turns).map SpokenWindow.stretch =
      stretches none (signals [] (schedule (turns.map Turn.span))) := by
  rw [detectOverlaps_eq]
  exact sweep_stretches rfl

theorem in_window_iff (ordered : ∀ t ∈ turns, t.startMs ≤ t.endMs) (t : Int) :
    (∃ w ∈ detectOverlaps turns, w.startMs ≤ t ∧ t < w.endMs) ↔
      (∃ a b, a ≠ b ∧ CountedAt turns a t ∧ CountedAt turns b t) ∧ ClosesAfter turns t := by
  have sorted := schedule_sorted (turns.map Turn.span)
  have as_stretches : (∃ w ∈ detectOverlaps turns, w.startMs ≤ t ∧ t < w.endMs) ↔
      ∃ w ∈ stretches none (signals [] (schedule (turns.map Turn.span))), w.1 ≤ t ∧ t < w.2 := by
    rw [← stretches_detected]
    simp [SpokenWindow.stretch]
  have counted_here : 2 ≤ (counted (happened t (schedule (turns.map Turn.span)))).length ↔
      ∃ a b, a ≠ b ∧ CountedAt turns a t ∧ CountedAt turns b t := by
    simp only [overlapping_iff, heard_happened_iff (spans_ordered ordered), CountedAt]
  rw [as_stretches, stretch_covers_iff (signals_sorted sorted) (by simp), onAt_signals sorted,
    decide_eq_true_eq, ← counted_here]
  apply and_congr_right
  intro on
  rw [off_later_iff sorted on, ClosesAfter]
  apply exists_congr
  intro u
  apply and_congr_right
  intro _
  simp only [overlapping_iff, heard_midway_iff (spans_ordered ordered)]
  constructor
  · intro off a b held_a held_b
    by_contra apart
    exact off ⟨a, b, apart, held_a, held_b⟩
  · intro single h
    obtain ⟨a, b, apart, held_a, held_b⟩ := h
    exact apart (single a b held_a held_b)

theorem closes_of_steady (steady : ∀ label u, instants (turns.map Turn.span) label u ≤
    across (turns.map Turn.span) label u) (t : Int) : ClosesAfter turns t := by
  obtain ⟨last, bound⟩ := ends_bounded (turns.map Turn.span)
  refine ⟨max (t + 1) last, by omega, ?_⟩
  intro a b held
  obtain ⟨v, -, more⟩ := held
  have quiet : across (turns.map Turn.span) a (max (t + 1) last) = 0 := by
    rw [across, List.countP_eq_zero]
    intro x hx on
    simp only [decide_eq_true_eq] at on
    have ended := bound x hx
    omega
  have level := steady a v
  omega

theorem detected_positive (turns : List Turn) : ∀ w ∈ detectOverlaps turns, w.startMs < w.endMs := by
  have sorted := schedule_sorted (turns.map Turn.span)
  intro w hw
  rw [detectOverlaps_eq] at hw
  exact windows_positive sorted (by simp) (by simp) _ (List.mem_map_of_mem hw)

end Coverage

section Flags
variable {F : Type} {segments : List (Segment F)} {s : Segment F}

/-- Somebody else speaks during a stretch of the segment. -/
def MetByAnother (segments : List (Segment F)) (s : Segment F) : Prop :=
  ∃ o ∈ segments, o.speakerLabel ≠ s.speakerLabel ∧
    max s.startMs o.startMs < min s.endMs o.endMs

/-- What the counters must get right over a segment: whoever strays into it while the count
    is still to fall speaks there too, and where somebody speaks the count falls later. -/
structure CountsRight (segments : List (Segment F)) (s : Segment F) : Prop where
  marked_before : s.overlap = true → MetByAnother segments s
  stray_speaks : ∀ t, s.startMs ≤ t → t < s.endMs → ClosesAfter (segments.map Segment.turn) t →
    ∀ label ≠ s.speakerLabel,
      StrayBy ((segments.map Segment.turn).map Turn.span) label t → MetByAnother segments s
  meeting_closes : s.overlap = false → MetByAnother segments s →
    ∃ t, s.startMs ≤ t ∧ t < s.endMs ∧ ClosesAfter (segments.map Segment.turn) t ∧
      ∃ label ≠ s.speakerLabel, CountedAt (segments.map Segment.turn) label t

theorem activeAt_segments {label : String} {t : Int} :
    ActiveAt ((segments.map Segment.turn).map Turn.span) label t ↔
      ∃ o ∈ segments, o.speakerLabel = label ∧ o.startMs ≤ t ∧ t < o.endMs := by
  simp [ActiveAt, Turn.span, Segment.turn]

theorem met_iff (long : s.startMs < s.endMs) : MetByAnother segments s ↔
    ∃ t, s.startMs ≤ t ∧ t < s.endMs ∧ ∃ label ≠ s.speakerLabel,
      ActiveAt ((segments.map Segment.turn).map Turn.span) label t := by
  simp only [activeAt_segments]
  constructor
  · intro met
    obtain ⟨o, ho, apart, room⟩ := met
    refine ⟨max s.startMs o.startMs, by omega, by omega, o.speakerLabel, apart, o, ho, rfl, ?_, ?_⟩ <;>
      omega
  · intro h
    obtain ⟨t, since, until_end, label, apart, o, ho, rfl, begun, going⟩ := h
    exact ⟨o, ho, apart, by omega⟩

theorem flagged_iff (turns : List Turn) (long : s.startMs < s.endMs) :
    segmentOverlapsWindow s ((detectOverlaps turns).map SpokenWindow.toOverlapWindow) = true ↔
      ∃ t, s.startMs ≤ t ∧ t < s.endMs ∧
        ∃ w ∈ detectOverlaps turns, w.startMs ≤ t ∧ t < w.endMs := by
  simp only [segmentOverlapsWindow, List.any_map, List.any_eq_true, Function.comp_apply,
    decide_eq_true_eq]
  constructor
  · intro h
    obtain ⟨w, hw, before, after⟩ := h
    have wide := detected_positive turns w hw
    exact ⟨max s.startMs w.startMs, by omega, by omega, w, hw, by omega, by omega⟩
  · intro h
    obtain ⟨t, since, until_end, w, hw, begun, going⟩ := h
    exact ⟨w, hw, by omega, by omega⟩

@[simp] theorem markOverlap_startMs (windows : List SpokenWindow) :
    (markOverlap windows s).startMs = s.startMs := by
  unfold markOverlap
  split <;> rfl

@[simp] theorem markOverlap_endMs (windows : List SpokenWindow) :
    (markOverlap windows s).endMs = s.endMs := by
  unfold markOverlap
  split <;> rfl

@[simp] theorem markOverlap_speakerLabel (windows : List SpokenWindow) :
    (markOverlap windows s).speakerLabel = s.speakerLabel := by
  unfold markOverlap
  split <;> rfl

theorem markOverlap_overlap (windows : List SpokenWindow) :
    (markOverlap windows s).overlap = true ↔ s.overlap = true ∨
      segmentOverlapsWindow s (windows.map SpokenWindow.toOverlapWindow) = true := by
  unfold markOverlap
  split <;> simp [*]

theorem met_marked (windows : List SpokenWindow) :
    MetByAnother (segments.map (markOverlap windows)) (markOverlap windows s) ↔
      MetByAnother segments s := by
  simp [MetByAnother]

variable (ordered : ∀ s ∈ segments, s.startMs ≤ s.endMs)
include ordered

theorem flagged_iff_counted (member : s ∈ segments) (long : s.startMs < s.endMs) :
    segmentOverlapsWindow s
        ((detectOverlaps (segments.map Segment.turn)).map SpokenWindow.toOverlapWindow) = true ↔
      ∃ t, s.startMs ≤ t ∧ t < s.endMs ∧ ClosesAfter (segments.map Segment.turn) t ∧
        ∃ label ≠ s.speakerLabel, CountedAt (segments.map Segment.turn) label t := by
  have turns_ordered : ∀ t ∈ segments.map Segment.turn, t.startMs ≤ t.endMs := by
    intro t ht
    obtain ⟨o, ho, rfl⟩ := List.mem_map.mp ht
    exact ordered o ho
  rw [flagged_iff _ long]
  apply exists_congr
  intro t
  apply and_congr_right
  intro since
  apply and_congr_right
  intro until_end
  have own : CountedAt (segments.map Segment.turn) s.speakerLabel t :=
    Or.inl (activeAt_segments.mpr ⟨s, member, rfl, since, until_end⟩)
  rw [in_window_iff turns_ordered, and_comm]
  apply and_congr_right
  intro _
  constructor
  · intro h
    obtain ⟨a, b, apart, counted_a, counted_b⟩ := h
    by_cases mine : a = s.speakerLabel
    · exact ⟨b, fun same => apart (mine.trans same.symm), counted_b⟩
    · exact ⟨a, mine, counted_a⟩
  · intro h
    obtain ⟨label, apart, counted_label⟩ := h
    exact ⟨label, s.speakerLabel, apart, counted_label, own⟩

theorem counts_right_iff (member : s ∈ segments) (long : s.startMs < s.endMs) :
    ((markOverlap (detectOverlaps (segments.map Segment.turn)) s).overlap = true ↔
      MetByAnother segments s) ↔ CountsRight segments s := by
  rw [markOverlap_overlap, flagged_iff_counted ordered member long]
  constructor
  · intro right
    constructor
    · intro marked
      exact right.mp (Or.inl marked)
    · intro t since until_end closes label apart stray
      exact right.mp (Or.inr ⟨t, since, until_end, closes, label, apart, Or.inr stray⟩)
    · intro fresh met
      exact (right.mpr met).resolve_left (by simp [fresh])
  · intro right
    constructor
    · intro h
      rcases h with marked | ⟨t, since, until_end, closes, label, apart, active | stray⟩
      · exact right.marked_before marked
      · exact (met_iff long).mpr ⟨t, since, until_end, label, apart, active⟩
      · exact right.stray_speaks t since until_end closes label apart stray
    · intro met
      cases marked : s.overlap with
      | true => exact Or.inl rfl
      | false => exact Or.inr (right.meeting_closes marked met)

omit ordered in
theorem counts_right_of_no_strays (fresh : s.overlap = false) (long : s.startMs < s.endMs)
    (steady : ∀ label u, instants ((segments.map Segment.turn).map Turn.span) label u ≤
      across ((segments.map Segment.turn).map Turn.span) label u) :
    CountsRight segments s := by
  have no_stray : ∀ label t, ¬ StrayBy ((segments.map Segment.turn).map Turn.span) label t := by
    intro label t stray
    obtain ⟨u, -, more⟩ := stray
    exact absurd more (not_lt.mpr (steady label u))
  have closes := closes_of_steady steady
  constructor
  · intro marked
    rw [fresh] at marked
    cases marked
  · intro t _ _ _ label _ stray
    exact absurd stray (no_stray label t)
  · intro _ met
    obtain ⟨t, since, until_end, label, apart, active⟩ := (met_iff long).mp met
    exact ⟨t, since, until_end, closes t, label, apart, Or.inl active⟩

theorem overlap_flags_exact_iff (known : ∀ s ∈ segments, s.speakerLabel ≠ "unknown") :
    (∀ s ∈ markOverlappingSegments segments (detectOverlapsFromSegments segments),
        s.startMs < s.endMs → (s.overlap = true ↔
          MetByAnother (markOverlappingSegments segments (detectOverlapsFromSegments segments)) s)) ↔
      ∀ s ∈ segments, s.startMs < s.endMs → CountsRight segments s := by
  have named : segments.filter (fun s => s.speakerLabel ≠ "unknown") = segments := by
    rw [List.filter_eq_self]
    intro s hs
    simp [known s hs]
  rw [detectOverlapsFromSegments, named]
  simp only [markOverlappingSegments, List.forall_mem_map, met_marked, markOverlap_startMs,
    markOverlap_endMs]
  apply forall_congr'
  intro s
  apply forall_congr'
  intro member
  apply forall_congr'
  intro long
  exact counts_right_iff ordered member long

end Flags

section Heard

def heardOf (userId : String) (startMs endMs : Int) : Segment Rat where
  segmentId := "seg-0000"
  startMs := startMs
  endMs := endMs
  text := []
  speakerLabel := userId
  speakerSource := .channelZone
  userId := some userId
  sttConfidence := none
  finalConfidence := none
  lowConfidence := false
  manualReviewRequired := false
  notes := []

theorem crossing_remarks_exact :
    (∀ s ∈ markOverlappingSegments [heardOf "ann" 0 10, heardOf "bob" 5 15]
        (detectOverlapsFromSegments [heardOf "ann" 0 10, heardOf "bob" 5 15]),
      s.startMs < s.endMs → (s.overlap = true ↔ MetByAnother
        (markOverlappingSegments [heardOf "ann" 0 10, heardOf "bob" 5 15]
          (detectOverlapsFromSegments [heardOf "ann" 0 10, heardOf "bob" 5 15])) s)) ↔
      ∀ s ∈ [heardOf "ann" 0 10, heardOf "bob" 5 15], s.startMs < s.endMs →
        CountsRight [heardOf "ann" 0 10, heardOf "bob" 5 15] s :=
  overlap_flags_exact_iff (by decide) (by decide)

theorem lone_remark_flagged :
    ¬ ∀ segments : List (Segment Rat), (∀ s ∈ segments, s.startMs ≤ s.endMs) →
      (∀ s ∈ segments, s.speakerLabel ≠ "unknown") →
        ∀ s ∈ markOverlappingSegments segments (detectOverlapsFromSegments segments),
          s.startMs < s.endMs → (s.overlap = true ↔ MetByAnother
            (markOverlappingSegments segments (detectOverlapsFromSegments segments)) s) := by
  intro all
  have alone := all [heardOf "ann" 0 0, heardOf "bob" 10 20] (by decide) (by decide)
    { heardOf "bob" 10 20 with overlap := true } (by decide) (by decide)
  obtain ⟨o, ho, apart, room⟩ := alone.mp rfl
  revert o
  decide

end Heard
end Transcription
