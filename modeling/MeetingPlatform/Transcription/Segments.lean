import MeetingPlatform.Lib.Tally
import Mathlib.Algebra.Order.Group.Int
import Mathlib.Algebra.Ring.Int.Defs
import Mathlib.Data.List.DropRight
import Mathlib.Data.Rat.Defs

/- Segments of a transcript, the turns a diarization finds, and the two passes over them:
   fragments of one turn are merged, then every segment is given a speaker. -/
namespace Transcription
open WeightTally

/-- The arithmetic of the confidences. Nothing is assumed of it: Python floats round. -/
structure Arithmetic (F : Type) where
  ofInt : Int → F
  add : F → F → F
  mul : F → F → F
  div : F → F → F
  ratio : Int → Int → F
  round4 : F → F
  lt : F → F → Bool

def exactArithmetic : Arithmetic Rat where
  ofInt n := n
  add := (· + ·)
  mul := (· * ·)
  div := (· / ·)
  ratio a b := a / b
  round4 x := x
  lt a b := a < b

inductive SpeakerSource where
  | pyannote | channelZone | sepformer | unknown
  deriving DecidableEq, Repr

structure Segment (F : Type) where
  segmentId : String
  startMs : Int
  endMs : Int
  text : List Char
  speakerLabel : String := "unknown"
  speakerSource : SpeakerSource := .unknown
  userId : Option String := none
  sttConfidence : Option F
  diarizationConfidence : Option F := none
  finalConfidence : Option F
  overlap : Bool := false
  lowConfidence : Bool
  manualReviewRequired : Bool
  notes : List String
  deriving DecidableEq

structure Turn where
  startMs : Int
  endMs : Int
  speakerLabel : String
  deriving DecidableEq, Repr

structure OverlapWindow where
  startMs : Int
  endMs : Int
  deriving DecidableEq, Repr

/-- The characters that `str.strip` takes off. -/
def isSpace (c : Char) : Bool :=
  let n := c.toNat
  (9 ≤ n && n ≤ 13) || (28 ≤ n && n ≤ 32) || n = 0x85 || n = 0xa0 || n = 0x1680 ||
    (0x2000 ≤ n && n ≤ 0x200a) || n = 0x2028 || n = 0x2029 || n = 0x202f || n = 0x205f || n = 0x3000

def strip (text : List Char) : List Char := (text.dropWhile isSpace).rdropWhile isSpace

def sentenceEndChars : List Char := ['.', '!', '?']

def endsWithSentencePunct (text : List Char) : Bool := text.getLast?.any (· ∈ sentenceEndChars)

/-- The environment variable as `int` reads it; `none` for a missing or bad value. -/
def segmentMergeMaxGapMs (env : Option Int) : Int := env.getD 800

def overlapMs (aStart aEnd bStart bEnd : Int) : Int := max 0 (min aEnd bEnd - max aStart bStart)

section Speakers
variable {F : Type} (arith : Arithmetic F)

def heardIn (startMs endMs : Int) (turns : List Turn) : List (String × Int) :=
  (turns.filter fun t => 0 < overlapMs startMs endMs t.startMs t.endMs).map fun t =>
    (t.speakerLabel, overlapMs startMs endMs t.startMs t.endMs)

def dominantSpeaker (segment : Segment F) (turns : List Turn) : Option (String × F) :=
  let segDuration := max 1 (segment.endMs - segment.startMs)
  (heaviest (tally (heardIn segment.startMs segment.endMs turns))).map fun best =>
    (best.1, arith.ratio best.2 segDuration)

def weightedAvg (a b : Option F) (prevDuration nxtDuration : Int) : F :=
  let aVal := a.getD (arith.ofInt 0)
  let bVal := b.getD (arith.ofInt 0)
  arith.round4 (arith.div
    (arith.add (arith.mul aVal (arith.ofInt prevDuration)) (arith.mul bVal (arith.ofInt nxtDuration)))
    (arith.ofInt (prevDuration + nxtDuration)))

def addNote (notes : List String) (note : String) : List String :=
  if note ∈ notes then notes else notes ++ [note]

def mergeTwoSegments (prev nxt : Segment F) : Segment F :=
  let prevDuration := max 1 (prev.endMs - prev.startMs)
  let nxtDuration := max 1 (nxt.endMs - nxt.startMs)
  { prev with
    text := strip (strip prev.text ++ [' '] ++ strip nxt.text)
    endMs := nxt.endMs
    sttConfidence :=
      some (weightedAvg arith prev.sttConfidence nxt.sttConfidence prevDuration nxtDuration)
    finalConfidence :=
      some (weightedAvg arith prev.finalConfidence nxt.finalConfidence prevDuration nxtDuration)
    lowConfidence := prev.lowConfidence || nxt.lowConfidence
    manualReviewRequired := prev.manualReviewRequired || nxt.manualReviewRequired
    notes := addNote (nxt.notes.foldl addNote prev.notes) "segment_merged_same_turn" }

/-- `prev` may be merged already; `prevSpeaker` is that of its last piece. -/
def canMerge (maxGapMs : Int) (prev segment : Segment F)
    (prevSpeaker currentSpeaker : Option (String × F)) : Bool :=
  match prevSpeaker, currentSpeaker with
  | some p, some c => p.1 = c.1 ∧ segment.startMs - prev.endMs < maxGapMs ∧
      ¬ endsWithSentencePunct (strip prev.text)
  | _, _ => false

def mergeFrom (maxGapMs : Int) (turns : List Turn) (prev : Segment F)
    (prevSpeaker : Option (String × F)) : List (Segment F) → List (Segment F)
  | [] => [prev]
  | segment :: rest =>
    let currentSpeaker := dominantSpeaker arith segment turns
    if canMerge maxGapMs prev segment prevSpeaker currentSpeaker then
      mergeFrom maxGapMs turns (mergeTwoSegments arith prev segment) currentSpeaker rest
    else
      prev :: mergeFrom maxGapMs turns segment currentSpeaker rest

def mergeFragmentedSegments (maxGapMs : Int) (segments : List (Segment F)) (turns : List Turn) :
    List (Segment F) :=
  match segments, turns with
  | [], _ => []
  | segments, [] => segments
  | first :: rest, turns =>
    mergeFrom arith maxGapMs turns first (dominantSpeaker arith first turns) rest

def segmentOverlapsWindow (segment : Segment F) (windows : List OverlapWindow) : Bool :=
  windows.any fun w => segment.startMs < w.endMs ∧ w.startMs < segment.endMs

def markUnknown (segment : Segment F) (isOverlap : Bool) (reason : String)
    (diarizationConfidence finalConfidence : Option F) : Segment F :=
  { segment with
    speakerLabel := "unknown"
    speakerSource := .unknown
    userId := none
    overlap := isOverlap
    diarizationConfidence := diarizationConfidence
    finalConfidence := finalConfidence.or segment.finalConfidence
    lowConfidence := true
    manualReviewRequired := true
    notes := addNote segment.notes reason }

/-- One round of the loop of `assign_speakers`. -/
def assignSpeaker (minOverlapRatio minConfidence : F) (turns : List Turn)
    (windows : List OverlapWindow) (segment : Segment F) : Segment F :=
  let isOverlap := segmentOverlapsWindow segment windows
  match dominantSpeaker arith segment turns with
  | none => markUnknown segment isOverlap "no_diarization_turn_overlap" none none
  | some (speakerLabel, overlapRatio) =>
    let diarizationConfidence := arith.round4 overlapRatio
    let sttConfidence := segment.sttConfidence.getD (arith.ofInt 0)
    let finalConfidence := arith.round4
      (arith.div (arith.add diarizationConfidence sttConfidence) (arith.ofInt 2))
    if isOverlap then
      markUnknown segment true "overlap_segment_no_separation_yet" (some diarizationConfidence)
        (some finalConfidence)
    else if arith.lt overlapRatio minOverlapRatio || arith.lt finalConfidence minConfidence then
      markUnknown segment false "below_speaker_assign_threshold" (some diarizationConfidence)
        (some finalConfidence)
    else
      { segment with
        speakerLabel := speakerLabel
        speakerSource := .pyannote
        overlap := false
        diarizationConfidence := some diarizationConfidence
        finalConfidence := some finalConfidence
        lowConfidence := false
        manualReviewRequired := false
        notes := segment.notes.filter (· ≠ "m1_scope_no_diarization") }

def assignSpeakers (minOverlapRatio minConfidence : F) (segments : List (Segment F))
    (turns : List Turn) (windows : List OverlapWindow) : List (Segment F) :=
  segments.map (assignSpeaker arith minOverlapRatio minConfidence turns windows)

theorem assignSpeaker_label (minOverlapRatio minConfidence : F) (turns : List Turn)
    (windows : List OverlapWindow) (segment : Segment F) :
    let label := (assignSpeaker arith minOverlapRatio minConfidence turns windows segment).speakerLabel
    label = "unknown" ∨ (dominantSpeaker arith segment turns).map Prod.fst = some label := by
  intro label
  unfold label assignSpeaker
  cases dominant : dominantSpeaker arith segment turns with
  | none => exact Or.inl rfl
  | some best =>
    simp only
    split
    · exact Or.inl rfl
    · split
      · exact Or.inl rfl
      · exact Or.inr rfl

theorem credited_speaker_dominates {minOverlapRatio minConfidence : F}
    {segments : List (Segment F)} {turns : List Turn} {windows : List OverlapWindow}
    {credited : Segment F}
    (output : credited ∈
      assignSpeakers arith minOverlapRatio minConfidence segments turns windows)
    (known : credited.speakerLabel ≠ "unknown") :
    ∃ segment ∈ segments,
      assignSpeaker arith minOverlapRatio minConfidence turns windows segment = credited ∧
        (dominantSpeaker arith segment turns).map Prod.fst = some credited.speakerLabel := by
  obtain ⟨segment, member, rfl⟩ := List.mem_map.mp output
  have label := assignSpeaker_label arith minOverlapRatio minConfidence turns windows segment
  exact ⟨segment, member, rfl, label.resolve_left known⟩

end Speakers

section Overlap

def spokenIn (startMs endMs : Int) (turns : List Turn) (label : String) : Int :=
  ((turns.filter fun t => t.speakerLabel = label).map fun t =>
    overlapMs startMs endMs t.startMs t.endMs).sum

variable {startMs endMs : Int} {label : String}

theorem overlapMs_nonneg (a b c d : Int) : 0 ≤ overlapMs a b c d := by
  simp only [overlapMs]
  omega

theorem overlapMs_split {a b c : Int} (first : a ≤ b) (second : b ≤ c) (s t : Int) :
    overlapMs a c s t = overlapMs a b s t + overlapMs b c s t := by
  simp only [overlapMs]
  omega

theorem spokenIn_cons (t : Turn) (turns : List Turn) :
    spokenIn startMs endMs (t :: turns) label =
      (if t.speakerLabel = label then overlapMs startMs endMs t.startMs t.endMs else 0) +
        spokenIn startMs endMs turns label := by
  by_cases same : t.speakerLabel = label <;> simp [spokenIn, same]

theorem spokenIn_nonneg (startMs endMs : Int) (turns : List Turn) (label : String) :
    0 ≤ spokenIn startMs endMs turns label := by
  induction turns with
  | nil => simp [spokenIn]
  | cons t turns ih =>
    rw [spokenIn_cons]
    have here := overlapMs_nonneg startMs endMs t.startMs t.endMs
    split <;> omega

theorem spokenIn_split {a b c : Int} (first : a ≤ b) (second : b ≤ c) (turns : List Turn)
    (label : String) :
    spokenIn a c turns label = spokenIn a b turns label + spokenIn b c turns label := by
  induction turns with
  | nil => simp [spokenIn]
  | cons t turns ih =>
    have here := overlapMs_split first second t.startMs t.endMs
    simp only [spokenIn_cons, ih]
    split <;> omega

theorem heardIn_cons (t : Turn) (turns : List Turn) :
    heardIn startMs endMs (t :: turns) =
      if 0 < overlapMs startMs endMs t.startMs t.endMs then
        (t.speakerLabel, overlapMs startMs endMs t.startMs t.endMs) :: heardIn startMs endMs turns
      else heardIn startMs endMs turns := by
  by_cases meets : 0 < overlapMs startMs endMs t.startMs t.endMs <;> simp [heardIn, meets]

theorem weight_heardIn (startMs endMs : Int) (turns : List Turn) (label : String) :
    weight (heardIn startMs endMs turns) label = spokenIn startMs endMs turns label := by
  induction turns with
  | nil => rfl
  | cons t turns ih =>
    have here := overlapMs_nonneg startMs endMs t.startMs t.endMs
    rw [heardIn_cons, spokenIn_cons]
    split
    · rw [weight_cons, ih]
      split <;> omega
    · rw [ih]
      split <;> omega

theorem heard_iff (startMs endMs : Int) (turns : List Turn) (label : String) :
    label ∈ keys (heardIn startMs endMs turns) ↔ 0 < spokenIn startMs endMs turns label := by
  induction turns with
  | nil => simp [heardIn, keys, spokenIn]
  | cons t turns ih =>
    have here := overlapMs_nonneg startMs endMs t.startMs t.endMs
    have later := spokenIn_nonneg startMs endMs turns label
    rw [heardIn_cons, spokenIn_cons]
    split
    · simp only [keys, List.map_cons, List.mem_cons] at ih ⊢
      rw [ih]
      by_cases same : label = t.speakerLabel
      · subst same
        simp only [true_or, if_true, true_iff]
        omega
      · simp only [same, Ne.symm same, false_or, if_false, Int.zero_add]
    · rw [ih]
      split <;> omega

/-- The first turn of `a` within the span is listed before any turn of `b` there. -/
def HeardBefore (startMs endMs : Int) (turns : List Turn) (a b : String) : Prop :=
  (keys (heardIn startMs endMs turns)).idxOf a < (keys (heardIn startMs endMs turns)).idxOf b

theorem dominant_iff {F : Type} (arith : Arithmetic F) (segment : Segment F) (turns : List Turn)
    (label : String) :
    (dominantSpeaker arith segment turns).map Prod.fst = some label ↔
      0 < spokenIn segment.startMs segment.endMs turns label ∧ ∀ other ≠ label,
        spokenIn segment.startMs segment.endMs turns other <
            spokenIn segment.startMs segment.endMs turns label ∨
          spokenIn segment.startMs segment.endMs turns other =
              spokenIn segment.startMs segment.endMs turns label ∧
            HeardBefore segment.startMs segment.endMs turns label other := by
  have names : (dominantSpeaker arith segment turns).map Prod.fst =
      (heaviest (tally (heardIn segment.startMs segment.endMs turns))).map Prod.fst := by
    simp [dominantSpeaker, Option.map_map, Function.comp_def]
  rw [names, heaviest_tally_iff, Leads, heard_iff]
  simp only [weight_heardIn, heard_iff]
  apply and_congr_right
  intro heard
  constructor
  · intro leads other different
    by_cases speaks : 0 < spokenIn segment.startMs segment.endMs turns other
    · exact leads other speaks different
    · exact Or.inl (by omega)
  · intro leads other _ different
    exact leads other different

end Overlap
end Transcription
