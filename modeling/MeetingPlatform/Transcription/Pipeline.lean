import MeetingPlatform.Transcription.MergedSpeaker
import MeetingPlatform.Transcription.OverlapWindows

/- The two pipelines, from what speech recognition heard to the checked result: one audio
   for all with a diarization, or one channel for each user. -/
namespace Transcription
open WeightTally

structure WhisperSegment (F : Type) where
  index : Nat
  startMs : Int
  endMs : Int
  text : List Char
  confidence : Option F

structure WhisperResult (F : Type) where
  languageCode : String
  segments : List (WhisperSegment F)
  confidenceScore : F

def segmentId (index : Nat) : String :=
  "seg-" ++ String.ofList (List.leftpad 4 '0' (Nat.toDigits 10 index))

section Segments
variable {F : Type} (arith : Arithmetic F)

def lowConfidenceThreshold : F := arith.ratio 1 2

def newSegment (segmentId : String) (startMs endMs : Int) (text : List Char)
    (sttConfidence : Option F) : Segment F :=
  let confidence := sttConfidence.getD (arith.ofInt 0)
  let lowConfidence := arith.lt confidence (lowConfidenceThreshold arith)
  { segmentId, startMs, endMs, text, sttConfidence, lowConfidence
    finalConfidence := some confidence
    manualReviewRequired := lowConfidence
    notes := if lowConfidence then ["m1_scope_no_diarization"] else [] }

def WhisperSegment.segment (raw : WhisperSegment F) : Segment F :=
  newSegment arith (segmentId raw.index) raw.startMs raw.endMs raw.text raw.confidence

end Segments

section Collapse
variable {F : Type} (lower : List Char → List Char)

def repeatCollapseThreshold : Nat := 5

def repeatKey (s : Segment F) : List Char := lower (strip s.text)

def runsFrom (run : Cluster F) : List (Segment F) → List (Cluster F)
  | [] => [run]
  | s :: rest =>
    if repeatKey lower s = repeatKey lower run.first then runsFrom ⟨run.first, run.more ++ [s]⟩ rest
    else run :: runsFrom ⟨s, []⟩ rest

def repeatedRuns : List (Segment F) → List (Cluster F)
  | [] => []
  | first :: rest => runsFrom lower ⟨first, []⟩ rest

def Cluster.last (run : Cluster F) : Segment F := run.more.getLastD run.first

def Cluster.isLoop (run : Cluster F) : Bool := repeatCollapseThreshold ≤ run.pieces.length

def Cluster.merged (run : Cluster F) : Segment F :=
  let count := run.pieces.length
  { run.first with
    endMs := run.last.endMs
    lowConfidence := true
    manualReviewRequired := true
    notes := run.first.notes ++ [s!"hallucination_loop_collapsed_x{count}"] }

def Cluster.collapse (run : Cluster F) : List (Segment F) :=
  if run.isLoop then [run.merged] else run.pieces

def collapseRepeatedSegments (segments : List (Segment F)) : List (Segment F) × Nat :=
  let runs := repeatedRuns lower segments
  (runs.flatMap Cluster.collapse, runs.countP Cluster.isLoop)

end Collapse

inductive MappingSource where
  | diarization | channelZone | manual | unmapped
  deriving DecidableEq, Repr

structure DetectedSpeaker (F : Type) where
  speakerLabel : String
  totalSpeakingMs : Int := 0
  segmentCount : Nat := 0
  mappedUserId : Option String
  mappingSource : MappingSource
  confidence : F

section Speakers
variable {F : Type} (arith : Arithmetic F)

def DetectedSpeaker.hears (entry : DetectedSpeaker F) (segment : Segment F) : DetectedSpeaker F :=
  let diarizationConfidence := segment.diarizationConfidence.getD (arith.ofInt 0)
  { entry with
    totalSpeakingMs := entry.totalSpeakingMs + max 0 (segment.endMs - segment.startMs)
    segmentCount := entry.segmentCount + 1
    confidence :=
      if arith.lt entry.confidence diarizationConfidence then diarizationConfidence
      else entry.confidence }

def newSpeaker (segment : Segment F) : DetectedSpeaker F :=
  let isChannelZone := segment.speakerSource = .channelZone
  { speakerLabel := segment.speakerLabel
    mappedUserId := if isChannelZone then segment.userId else none
    mappingSource := if isChannelZone then .channelZone else .unmapped
    confidence := arith.ofInt 0 }

/-- The entry of the segment's speaker, which is added where there is none. -/
def hearSpeaker (segment : Segment F) : List (DetectedSpeaker F) → List (DetectedSpeaker F)
  | [] => [(newSpeaker arith segment).hears arith segment]
  | entry :: rest =>
    if entry.speakerLabel = segment.speakerLabel then entry.hears arith segment :: rest
    else entry :: hearSpeaker segment rest

def hearSegment (stats : List (DetectedSpeaker F)) (segment : Segment F) : List (DetectedSpeaker F) :=
  if segment.speakerLabel = "unknown" then stats else hearSpeaker arith segment stats

def buildDetectedSpeakers (segments : List (Segment F)) : List (DetectedSpeaker F) :=
  segments.foldl (hearSegment arith) []

end Speakers

inductive PipelineWarning where
  | diarizationFailedFallbackUnknown | overlapSeparationLowConfidence | sepformerSkippedLowResources
  | sepformerErrorSkipped | lowConfidenceTranscript | chunkingApplied
  deriving DecidableEq, Repr

structure ModelVersions where
  whisper : String
  pyannote : Option String

structure PipelineResult (F : Type) where
  languageCode : String
  rawText : List Char
  cleanedText : List Char
  confidenceScore : F
  segments : List (Segment F)
  detectedSpeakers : List (DetectedSpeaker F)
  modelVersions : ModelVersions
  warnings : List PipelineWarning

structure SchemaValidationError where
  message : String

section Pipelines
variable {F : Type} (arith : Arithmetic F) (lower : List Char → List Char)

/-- The types leave one check of the schema. -/
def validateSegments : Nat → List (Segment F) → Except SchemaValidationError Unit
  | _, [] => .ok ()
  | idx, segment :: rest =>
    if segment.speakerLabel = "unknown" ∧ segment.userId ≠ none then
      .error ⟨s!"segments[{idx}] speakerLabel=unknown nhưng userId khác null"⟩
    else validateSegments (idx + 1) rest

theorem validateSegments_ok_iff (idx : Nat) (segments : List (Segment F)) :
    validateSegments idx segments = .ok () ↔
      ∀ s ∈ segments, s.speakerLabel = "unknown" → s.userId = none := by
  induction segments generalizing idx with
  | nil => simp [validateSegments]
  | cons s segments ih =>
    unfold validateSegments
    split
    · rename_i wrong
      simp [wrong]
    · rename_i right
      rw [ih, List.forall_mem_cons]
      constructor
      · intro later
        refine ⟨?_, later⟩
        intro unnamed
        by_contra user
        exact right ⟨unnamed, user⟩
      · exact And.right

def validateResult (result : PipelineResult F) : Except SchemaValidationError Unit :=
  validateSegments 0 result.segments

def rawTextOf (segments : List (Segment F)) : List Char :=
  strip ([' '].intercalate ((segments.map Segment.text).filter (· ≠ [])))

/-- The options of a job, and the environment it runs in. -/
structure PipelineSettings (F : Type) where
  model : String
  language : String
  diarizationEnabled : Bool := false
  overlapDetectionEnabled : Bool := false
  pyannoteModelVersion : Option String
  maxGapMs : Int
  minOverlapRatio : F
  minConfidence : F

variable (settings : PipelineSettings F)

/-- Merging and the assignment of speakers; only where the diarization heard somebody. -/
def labelSegments (segments : List (Segment F)) (turns : List Turn) (windows : List OverlapWindow) :
    List (Segment F) :=
  if turns = [] then segments
  else
    assignSpeakers arith settings.minOverlapRatio settings.minConfidence
      (mergeFragmentedSegments arith settings.maxGapMs segments turns) turns windows

/-- `diarize` is what the diarization returns, `none` where it is not available. -/
def runPipeline (whisper : WhisperResult F) (diarize : Option (List Turn)) :
    Except SchemaValidationError (PipelineResult F) := do
  let (collapsed, collapsedRuns) :=
    collapseRepeatedSegments lower (whisper.segments.map (WhisperSegment.segment arith))
  let lowConfidence :=
    if arith.lt whisper.confidenceScore (lowConfidenceThreshold arith) ∨ collapsedRuns ≠ 0 then
      [PipelineWarning.lowConfidenceTranscript]
    else []
  let diarized := if settings.diarizationEnabled then diarize else some []
  let turns := diarized.getD []
  let windows := if settings.overlapDetectionEnabled then
    (detectOverlaps turns).map SpokenWindow.toOverlapWindow else []
  let segments := labelSegments arith settings collapsed turns windows
  let rawText := rawTextOf segments
  let result : PipelineResult F :=
    { languageCode := whisper.languageCode
      rawText := rawText
      cleanedText := rawText
      confidenceScore := whisper.confidenceScore
      segments := segments
      detectedSpeakers := if turns = [] then [] else buildDetectedSpeakers arith segments
      modelVersions :=
        { whisper := settings.model
          pyannote := if settings.diarizationEnabled ∧ diarize.isSome then
            some (settings.pyannoteModelVersion.getD "pyannote-local") else none }
      warnings := lowConfidence ++
        if diarized = none then [.diarizationFailedFallbackUnknown] else [] }
  validateResult result
  return result

structure Channel (F : Type) where
  userId : String
  whisper : WhisperResult F

def zoneSegment (userId : String) (raw : WhisperSegment F) (counter : Nat) : Segment F :=
  { newSegment arith (segmentId counter) raw.startMs raw.endMs raw.text raw.confidence with
    userId := some userId
    speakerLabel := userId
    speakerSource := .channelZone
    lowConfidence := false
    manualReviewRequired := false
    notes := []
    finalConfidence := some (raw.confidence.getD (arith.ofInt 0)) }

def channelSegments : Nat → List (Channel F) → List (Segment F)
  | _, [] => []
  | counter, channel :: rest =>
    let raws := channel.whisper.segments
    (raws.zipIdx counter).map (fun raw => zoneSegment arith channel.userId raw.1 raw.2) ++
      channelSegments (counter + raws.length) rest

def sortByStart (segments : List (Segment F)) : List (Segment F) :=
  segments.insertionSort fun a b => a.startMs ≤ b.startMs

def average (confidences : List F) : F :=
  if confidences = [] then arith.ofInt 0
  else arith.div (confidences.foldl arith.add (arith.ofInt 0)) (arith.ofInt confidences.length)

def runChannelZonePipeline (channels : List (Channel F)) :
    Except SchemaValidationError (PipelineResult F) := do
  let (collapsed, collapsedRuns) :=
    collapseRepeatedSegments lower (sortByStart (channelSegments arith 0 channels))
  let overallConfidence := average arith (channels.map fun c => c.whisper.confidenceScore)
  let segments := if settings.overlapDetectionEnabled then
    markOverlappingSegments collapsed (detectOverlapsFromSegments collapsed) else collapsed
  let rawText := rawTextOf segments
  let result : PipelineResult F :=
    { languageCode := if settings.language = "" then "vi-VN" else settings.language
      rawText := rawText
      cleanedText := rawText
      confidenceScore := overallConfidence
      segments := segments
      detectedSpeakers := buildDetectedSpeakers arith segments
      modelVersions := { whisper := settings.model, pyannote := none }
      warnings :=
        if arith.lt overallConfidence (lowConfidenceThreshold arith) ∨ collapsedRuns ≠ 0 then
          [.lowConfidenceTranscript]
        else [] }
  validateResult result
  return result

end Pipelines
end Transcription
