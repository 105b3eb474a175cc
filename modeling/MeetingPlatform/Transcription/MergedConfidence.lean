import MeetingPlatform.Transcription.MergedSpeaker
import Mathlib.Algebra.Order.Field.Rat
import Mathlib.Tactic.FieldSimp
import Mathlib.Tactic.Linarith
import Mathlib.Tactic.Positivity
import Mathlib.Tactic.Ring

/- The confidence of a merged segment against the mean of its pieces. The merge weighs what
   it has so far by its whole span, which the gaps make longer than the pieces. -/
namespace Transcription

def Segment.length {F : Type} (p : Segment F) : Int := max 1 (p.endMs - p.startMs)

def Segment.confidence (p : Segment Rat) : Rat := p.sttConfidence.getD 0

def weightedSum (pieces : List (Segment Rat)) : Rat :=
  (pieces.map fun p => p.confidence * (p.length : Rat)).sum

def totalLength (pieces : List (Segment Rat)) : Int := (pieces.map Segment.length).sum

def weightedMean (pieces : List (Segment Rat)) : Rat := weightedSum pieces / totalLength pieces

def spanFrom (startMs : Int) (last : Segment Rat) : Int := max 1 (last.endMs - startMs)

/-- How much of a deviation is left once more pieces are merged in. -/
def shareLeft (startMs : Int) (last : Segment Rat) : List (Segment Rat) → Rat
  | [] => 1
  | p :: rest =>
    (spanFrom startMs last : Rat) / (spanFrom startMs last + p.length) * shareLeft startMs p rest

/-- What the piece adds to the deviation: nothing where the span so far is the length of the
    pieces so far, or where the piece is as certain as these are on average. -/
def deviation (startMs : Int) (front : List (Segment Rat)) (last p : Segment Rat) : Rat :=
  p.length * (spanFrom startMs last - totalLength front) * (weightedMean front - p.confidence) /
    ((spanFrom startMs last + p.length) * (totalLength front + p.length))

def deviationsFrom (startMs : Int) (front : List (Segment Rat)) (last : Segment Rat) :
    List (Segment Rat) → Rat
  | [] => 0
  | p :: rest =>
    deviation startMs front last p * shareLeft startMs p rest +
      deviationsFrom startMs (front ++ [p]) p rest

/-- The deviations of the pieces cancel out. -/
def Balanced (c : Cluster Rat) : Prop :=
  deviationsFrom c.first.startMs [c.first] c.first c.more = 0

section Mean
variable {startMs : Int} {front : List (Segment Rat)} {prev last p : Segment Rat} {c : Cluster Rat}

theorem length_pos (p : Segment Rat) : 0 < p.length := by
  unfold Segment.length
  omega

theorem spanFrom_pos (startMs : Int) (last : Segment Rat) : 0 < spanFrom startMs last := by
  unfold spanFrom
  omega

theorem totalLength_snoc : totalLength (front ++ [p]) = totalLength front + p.length := by
  simp [totalLength]

theorem weightedSum_snoc : weightedSum (front ++ [p]) = weightedSum front + p.confidence * p.length := by
  simp [weightedSum]

theorem merge_deviation (some_front : 0 < totalLength front) (begun : prev.startMs = startMs)
    (ended : prev.endMs = last.endMs) :
    (mergeTwoSegments exactArithmetic prev p).confidence - weightedMean (front ++ [p]) =
      (spanFrom startMs last : Rat) / (spanFrom startMs last + p.length) *
          (prev.confidence - weightedMean front) +
        deviation startMs front last p := by
  have span : (0 : Rat) < spanFrom startMs last := by exact_mod_cast spanFrom_pos startMs last
  have piece : (0 : Rat) < p.length := by exact_mod_cast length_pos p
  have total : (0 : Rat) < totalLength front := by exact_mod_cast some_front
  have merged : (mergeTwoSegments exactArithmetic prev p).confidence =
      (prev.confidence * spanFrom startMs last + p.confidence * p.length) /
        (spanFrom startMs last + p.length) := by
    simp [Segment.confidence, mergeTwoSegments, weightedAvg, exactArithmetic, spanFrom,
      Segment.length, begun, ended]
  rw [merged, deviation, weightedMean, weightedMean, totalLength_snoc, weightedSum_snoc]
  push_cast
  field_simp
  ring

theorem merged_deviation (prev last : Segment Rat) (rest : List (Segment Rat))
    (some_front : 0 < totalLength front) (begun : prev.startMs = startMs)
    (ended : prev.endMs = last.endMs) :
    (rest.foldl (mergeTwoSegments exactArithmetic) prev).confidence - weightedMean (front ++ rest) =
      (prev.confidence - weightedMean front) * shareLeft startMs last rest +
        deviationsFrom startMs front last rest := by
  induction rest generalizing front prev last with
  | nil => simp [shareLeft, deviationsFrom]
  | cons p rest ih =>
    have grown : 0 < totalLength (front ++ [p]) := by
      have longer := length_pos p
      rw [totalLength_snoc]
      omega
    have later := ih (mergeTwoSegments exactArithmetic prev p) p grown begun rfl
    rw [List.append_assoc, List.singleton_append, merge_deviation some_front begun ended] at later
    rw [List.foldl_cons, later, shareLeft, deviationsFrom]
    ring

theorem confidence_some (several : c.more ≠ []) :
    (c.segment exactArithmetic).sttConfidence = some (c.segment exactArithmetic).confidence := by
  obtain ⟨first, more⟩ := c
  induction more using List.reverseRecOn with
  | nil => exact absurd rfl several
  | append_singleton more p _ => simp [Cluster.segment, Segment.confidence, mergeTwoSegments]

theorem mean_iff_balanced (several : 2 ≤ c.pieces.length) :
    (c.segment exactArithmetic).sttConfidence = some (weightedMean c.pieces) ↔ Balanced c := by
  have merged : c.more ≠ [] := by
    intro alone
    simp [Cluster.pieces, alone] at several
  have first : (0 : Rat) < c.first.length := by exact_mod_cast length_pos c.first
  have exact_first : c.first.confidence - weightedMean [c.first] = 0 := by
    simp only [weightedMean, weightedSum, totalLength, List.map_cons, List.map_nil, List.sum_singleton]
    field_simp
    ring
  have some_first : 0 < totalLength [c.first] := by
    simpa [totalLength] using length_pos c.first
  have whole := merged_deviation c.first c.first c.more some_first rfl rfl
  rw [exact_first, zero_mul, zero_add, List.singleton_append] at whole
  rw [confidence_some merged, Option.some.injEq, ← sub_eq_zero, Balanced, ← whole]
  rfl

theorem deviation_zero_iff (some_front : 0 < totalLength front) :
    deviation startMs front last p = 0 ↔
      spanFrom startMs last = totalLength front ∨ p.confidence = weightedMean front := by
  have span : (0 : Rat) < spanFrom startMs last := by exact_mod_cast spanFrom_pos startMs last
  have piece : (0 : Rat) < p.length := by exact_mod_cast length_pos p
  have total : (0 : Rat) < totalLength front := by exact_mod_cast some_front
  have divisor : ((spanFrom startMs last : Rat) + p.length) * (totalLength front + p.length) ≠ 0 := by
    positivity
  rw [deviation, div_eq_zero_iff, or_iff_left divisor, mul_eq_zero, mul_eq_zero, sub_eq_zero,
    sub_eq_zero, or_iff_right piece.ne', Int.cast_inj, eq_comm (b := p.confidence)]

theorem three_balanced_iff (a b p : Segment Rat) : Balanced ⟨a, [b, p]⟩ ↔
    spanFrom a.startMs b = totalLength [a, b] ∨ p.confidence = weightedMean [a, b] := by
  have first : 0 < totalLength [a] := by simpa [totalLength] using length_pos a
  have two : 0 < totalLength [a, b] := by
    have longer := length_pos b
    rw [show [a, b] = [a] ++ [b] from rfl, totalLength_snoc]
    omega
  have no_gap : deviation a.startMs [a] a b = 0 := by
    rw [deviation_zero_iff first]
    left
    simp [spanFrom, totalLength, Segment.length]
  simp only [Balanced, deviationsFrom, no_gap, zero_mul, zero_add, shareLeft, mul_one, add_zero,
    List.singleton_append]
  exact deviation_zero_iff two

end Mean

theorem merged_confidence_iff (maxGapMs : Int) (segments : List (Segment Rat)) (turns : List Turn) :
    (mergeClusters exactArithmetic maxGapMs segments turns).map (Cluster.segment exactArithmetic) =
        mergeFragmentedSegments exactArithmetic maxGapMs segments turns ∧
      (mergeClusters exactArithmetic maxGapMs segments turns).flatMap Cluster.pieces = segments ∧
      ∀ c ∈ mergeClusters exactArithmetic maxGapMs segments turns, 2 ≤ c.pieces.length →
        ((c.segment exactArithmetic).sttConfidence = some (weightedMean c.pieces) ↔ Balanced c) := by
  refine ⟨mergeClusters_segments exactArithmetic maxGapMs segments turns,
    mergeClusters_pieces exactArithmetic maxGapMs segments turns, ?_⟩
  intro c _ several
  exact mean_iff_balanced several

/-- A fragment that is certain, and two after a gap that are not. -/
def gappedFragments : List (Segment Rat) :=
  [fragment 0 100 "so", { fragment 200 300 "that" with sttConfidence := some 0 },
    { fragment 300 400 "works" with sttConfidence := some 0 }]

theorem gap_shifts_mean :
    ¬ ∀ (segments : List (Segment Rat)) (turns : List Turn),
      ∀ c ∈ mergeClusters exactArithmetic (segmentMergeMaxGapMs none) segments turns,
        2 ≤ c.pieces.length →
          (c.segment exactArithmetic).sttConfidence = some (weightedMean c.pieces) := by
  intro all
  have mean := all gappedFragments [⟨0, 900, "A"⟩] _ List.mem_cons_self (by decide)
  revert mean
  decide +kernel

end Transcription
