import MeetingPlatform.Transcription.Pipeline

/- The review flag of a hallucination loop on its way through the pipeline. Collapsing sets
   it, merging keeps it, and the assignment of a speaker decides it anew. -/
namespace Transcription

section Flags
variable {F : Type} (arith : Arithmetic F) (lower : List Char → List Char)
  {settings : PipelineSettings F} {segments rest : List (Segment F)} {run c : Cluster F}
  {turns : List Turn} {windows : List OverlapWindow}

theorem runsFrom_pieces : (runsFrom lower run rest).flatMap Cluster.pieces = run.pieces ++ rest := by
  induction rest generalizing run with
  | nil => simp [runsFrom]
  | cons s rest ih =>
    unfold runsFrom
    split
    · rw [ih]
      simp [Cluster.pieces]
    · rw [List.flatMap_cons, ih]
      simp [Cluster.pieces]

theorem repeatedRuns_pieces (segments : List (Segment F)) :
    (repeatedRuns lower segments).flatMap Cluster.pieces = segments := by
  cases segments with
  | nil => rfl
  | cons first rest => exact runsFrom_pieces lower

def loopSegments (segments : List (Segment F)) : List (Segment F) :=
  ((repeatedRuns lower segments).filter Cluster.isLoop).map Cluster.merged

theorem loopSegments_flagged {s : Segment F} (marked : s ∈ loopSegments lower segments) :
    s.manualReviewRequired = true := by
  obtain ⟨run, -, rfl⟩ := List.mem_map.mp marked
  rfl

theorem segment_flagged (c : Cluster F) :
    (c.segment arith).manualReviewRequired = c.pieces.any Segment.manualReviewRequired := by
  obtain ⟨first, more⟩ := c
  induction more generalizing first with
  | nil => simp [Cluster.segment, Cluster.pieces]
  | cons q rest ih =>
    have tail := ih (mergeTwoSegments arith first q)
    simp only [Cluster.segment, Cluster.pieces, List.foldl_cons, List.any_cons] at tail ⊢
    rw [tail, ← Bool.or_assoc]
    rfl

/-- The segment overlaps nobody, and somebody dominates it clearly enough. -/
def ClearlySpoken (settings : PipelineSettings F) (turns : List Turn) (windows : List OverlapWindow)
    (s : Segment F) : Prop :=
  segmentOverlapsWindow s windows = false ∧ ∃ label ratio,
    dominantSpeaker arith s turns = some (label, ratio) ∧
      arith.lt ratio settings.minOverlapRatio = false ∧
      arith.lt (arith.round4 (arith.div
          (arith.add (arith.round4 ratio) (s.sttConfidence.getD (arith.ofInt 0))) (arith.ofInt 2)))
        settings.minConfidence = false

theorem assignSpeaker_flagged (s : Segment F) :
    (assignSpeaker arith settings.minOverlapRatio settings.minConfidence turns windows
        s).manualReviewRequired = true ↔ ¬ ClearlySpoken arith settings turns windows s := by
  unfold assignSpeaker ClearlySpoken
  cases dominant : dominantSpeaker arith s turns with
  | none => simp [markUnknown]
  | some best =>
    obtain ⟨label, ratio⟩ := best
    cases overlaps : segmentOverlapsWindow s windows with
    | true => simp [markUnknown]
    | false =>
      simp only [Bool.false_eq_true, if_false, Bool.or_eq_true]
      split
      · rename_i below
        simp only [markUnknown, true_and, true_iff]
        intro clear
        obtain ⟨_, _, same, share, confident⟩ := clear
        obtain ⟨rfl, rfl⟩ := Prod.mk.inj (Option.some.inj same)
        simp [share, confident] at below
      · rename_i above
        simp only [not_or, Bool.not_eq_true] at above
        simp only [Bool.false_eq_true, true_and, false_iff, not_not]
        exact ⟨label, ratio, rfl, above.1, above.2⟩

def labelSegment (settings : PipelineSettings F) (turns : List Turn) (windows : List OverlapWindow)
    (s : Segment F) : Segment F :=
  if turns = [] then s
  else assignSpeaker arith settings.minOverlapRatio settings.minConfidence turns windows s

theorem labelSegments_clusters :
    labelSegments arith settings segments turns windows =
      (mergeClusters arith settings.maxGapMs segments turns).map fun c =>
        labelSegment arith settings turns windows (c.segment arith) := by
  unfold labelSegments labelSegment
  by_cases silent : turns = []
  · have alone := mergeClusters_segments arith settings.maxGapMs segments turns
    simp only [silent, if_true] at alone ⊢
    rw [alone]
    cases segments <;> rfl
  · simp only [silent, if_false, assignSpeakers]
    rw [← mergeClusters_segments, List.map_map]
    rfl

theorem collapse_first {s : Segment F}
    (there : s ∈ (collapseRepeatedSegments lower segments).1) :
    ∃ first ∈ segments, s = first ∨ ∃ run ∈ repeatedRuns lower segments, run.isLoop = true ∧
      run.first = first ∧ s = run.merged := by
  obtain ⟨run, hrun, made⟩ := List.mem_flatMap.mp there
  have within : ∀ p ∈ run.pieces, p ∈ segments := by
    intro p hp
    rw [← repeatedRuns_pieces lower segments]
    exact List.mem_flatMap.mpr ⟨run, hrun, hp⟩
  unfold Cluster.collapse at made
  split at made
  · rename_i loop
    exact ⟨run.first, within _ List.mem_cons_self,
      Or.inr ⟨run, hrun, loop, rfl, List.mem_singleton.mp made⟩⟩
  · exact ⟨s, within s made, Or.inl rfl⟩

theorem segment_userId (c : Cluster F) : (c.segment arith).userId = c.first.userId := by
  obtain ⟨first, more⟩ := c
  induction more generalizing first with
  | nil => rfl
  | cons q rest ih => exact ih (mergeTwoSegments arith first q)

theorem labelSegment_userId {s : Segment F} (nobody : s.userId = none) :
    (labelSegment arith settings turns windows s).userId = none := by
  unfold labelSegment assignSpeaker
  split
  · exact nobody
  · split
    · rfl
    · simp only
      split
      · rfl
      · split
        · rfl
        · exact nobody

theorem labelSegments_userId {whisper : List (WhisperSegment F)} {s : Segment F}
    (there : s ∈ labelSegments arith settings
      (collapseRepeatedSegments lower (whisper.map (WhisperSegment.segment arith))).1 turns windows) :
    s.userId = none := by
  rw [labelSegments_clusters] at there
  obtain ⟨c, hc, rfl⟩ := List.mem_map.mp there
  apply labelSegment_userId
  rw [segment_userId]
  have piece : c.first ∈ (collapseRepeatedSegments lower (whisper.map (WhisperSegment.segment arith))).1 :=
    (pieces_sublist arith settings.maxGapMs hc).subset List.mem_cons_self
  obtain ⟨first, member, made⟩ := collapse_first lower piece
  obtain ⟨raw, -, rfl⟩ := List.mem_map.mp member
  rcases made with same | ⟨run, -, -, same, merged⟩
  · rw [same]
    rfl
  · rw [merged]
    exact congrArg Segment.userId same

theorem runPipeline_ok (settings : PipelineSettings F) (whisper : WhisperResult F)
    (diarize : Option (List Turn)) :
    ∃ result, runPipeline arith lower settings whisper diarize = .ok result ∧
      ∃ turns windows, result.segments = labelSegments arith settings
        (collapseRepeatedSegments lower (whisper.segments.map (WhisperSegment.segment arith))).1
        turns windows := by
  unfold runPipeline validateResult
  simp only
  rw [(validateSegments_ok_iff 0 _).mpr (fun s hs _ => labelSegments_userId arith lower hs)]
  exact ⟨_, rfl, _, _, rfl⟩

def HoldsLoop (raw : List (Segment F)) (c : Cluster F) : Prop :=
  ∃ p ∈ c.pieces, p ∈ loopSegments lower raw

theorem loop_flagged_iff {raw : List (Segment F)} (loop : HoldsLoop lower raw c) :
    (labelSegment arith settings turns windows (c.segment arith)).manualReviewRequired = true ↔
      turns = [] ∨ ¬ ClearlySpoken arith settings turns windows (c.segment arith) := by
  unfold labelSegment
  by_cases silent : turns = []
  · obtain ⟨p, hp, marked⟩ := loop
    have kept : (c.segment arith).manualReviewRequired = true := by
      rw [segment_flagged, List.any_eq_true]
      exact ⟨p, hp, loopSegments_flagged lower marked⟩
    simp [silent, kept]
  · simp [silent, assignSpeaker_flagged]

theorem review_flags_survive_iff (settings : PipelineSettings F) (whisper : List (WhisperSegment F))
    (turns : List Turn) (windows : List OverlapWindow) :
    let raw := whisper.map (WhisperSegment.segment arith)
    let collapsed := (collapseRepeatedSegments lower raw).1
    let clusters := mergeClusters arith settings.maxGapMs collapsed turns
    clusters.flatMap Cluster.pieces = collapsed ∧
      labelSegments arith settings collapsed turns windows =
        clusters.map (fun c => labelSegment arith settings turns windows (c.segment arith)) ∧
      ((∀ c ∈ clusters, HoldsLoop lower raw c →
          (labelSegment arith settings turns windows (c.segment arith)).manualReviewRequired = true) ↔
        ∀ c ∈ clusters, HoldsLoop lower raw c →
          turns = [] ∨ ¬ ClearlySpoken arith settings turns windows (c.segment arith)) := by
  intro raw collapsed clusters
  refine ⟨mergeClusters_pieces arith settings.maxGapMs collapsed turns,
    labelSegments_clusters arith, ?_⟩
  apply forall_congr'
  intro c
  apply forall_congr'
  intro _
  apply forall_congr'
  intro loop
  exact loop_flagged_iff arith lower loop

end Flags

section Loops

def defaultSettings : PipelineSettings Rat where
  model := "small"
  language := "vi-VN"
  pyannoteModelVersion := none
  maxGapMs := segmentMergeMaxGapMs none
  minOverlapRatio := 13 / 20
  minConfidence := 7 / 10

def heardOk (index : Nat) (startMs endMs : Int) : WhisperSegment Rat :=
  ⟨index, startMs, endMs, "OK.".toList, some 1⟩

theorem loop_flag_cleared :
    ¬ ∀ (whisper : List (WhisperSegment Rat)) (turns : List Turn) (windows : List OverlapWindow),
      let raw := whisper.map (WhisperSegment.segment exactArithmetic)
      let collapsed := (collapseRepeatedSegments (List.map Char.toLower) raw).1
      ∀ c ∈ mergeClusters exactArithmetic defaultSettings.maxGapMs collapsed turns,
        HoldsLoop (List.map Char.toLower) raw c →
          (labelSegment exactArithmetic defaultSettings turns windows
            (c.segment exactArithmetic)).manualReviewRequired = true := by
  intro all
  have cleared := all
    [heardOk 0 0 1000, heardOk 1 1000 2000, heardOk 2 2000 3000, heardOk 3 3000 4000,
      heardOk 4 4000 5000] [⟨0, 5000, "SPEAKER_00"⟩] [] _ List.mem_cons_self
    ⟨_, List.mem_cons_self, List.mem_cons_self⟩
  revert cleared
  decide +kernel

end Loops
end Transcription
