import MeetingPlatform.Lib.OrderedMap
import MeetingPlatform.Transcripts.Store

/- Names for the voices of a transcript. A mapping is stored as a point in time inside the longest
   segment of its label, and a rerun finds it again by looking up that point in the new segments. -/
namespace Transcripts
open MeetingBooking Guards

section Data

/-- One of the two ids is there, the other is not. -/
structure ResolvedMappingTarget where
  speakerUserId : Option Nat
  externalParticipantId : Option Nat
  displayName : String
  deriving DecidableEq, Repr

/-- The keys `u:…` and `e:…`. -/
inductive IdentityKey where
  | user (id : Nat)
  | external (id : Option Nat)
  deriving DecidableEq, Repr

def identityKeyOf (r : ResolvedMappingTarget) : IdentityKey :=
  match r.speakerUserId with
  | some id => .user id
  | none => .external r.externalParticipantId

structure SpeakerMappingItemDto where
  speakerLabel : String
  speakerUserId : Option Nat
  externalParticipantId : Option Nat
  displayName : String
  deriving DecidableEq, Repr

def SpeakerMappingItemDto.target (item : SpeakerMappingItemDto) : ResolvedMappingTarget :=
  ⟨item.speakerUserId, item.externalParticipantId, item.displayName⟩

inductive TagSource where
  | post | live
  deriving DecidableEq, Repr

structure MeetingEvent where
  meetingId : Nat
  eventTime : Int
  actorUserId : Nat
  recordingSessionId : Option Nat
  target : ResolvedMappingTarget
  tagSource : TagSource
  deriving DecidableEq, Repr

/-- An error, with the detail whose value is a list of labels. -/
structure MappingError where
  error : ApiError
  labels : Option (String × List String)
  deriving DecidableEq, Repr

/-- What a request finds in the other tables. -/
structure MappingContext where
  caller : Caller
  users : List Nat
  externals : List (Nat × Nat)

end Data

section Errors

def plainError (exception : HttpException) (code message : String)
    (details : List (String × Detail)) : MappingError := ⟨⟨exception, code, message, details⟩, none⟩

def sessionMissing (message : String) : MappingError :=
  plainError .conflict "RECORDING_SESSION_MISSING_FOR_TRANSCRIPT" message []

def stillProcessing : MappingError :=
  plainError .conflict "TRANSCRIPT_NOT_DRAFT" "Transcript dang xu ly, chua the gan ten." []

def oneIdentityOnly (label : String) : MappingError :=
  plainError .badRequest "VALIDATION_ERROR"
    ("Mapping cho \"" ++ label ++ "\" phai co dung mot trong speakerUserId hoac externalParticipantId.")
    [("speakerLabel", .text label)]

def labelsNotFound (labels : List String) : MappingError :=
  ⟨⟨.badRequest, "SPEAKER_LABEL_NOT_FOUND",
    "Mot so speakerLabel khong ton tai trong transcript nay.", []⟩, some ("invalidLabels", labels)⟩

def labelsConflicting (labels : List String) : MappingError :=
  ⟨⟨.badRequest, "SPEAKER_MAPPING_CONFLICT",
    "Mot speakerLabel duoc gan cho nhieu nguoi khac nhau trong cung 1 yeu cau.", []⟩,
    some ("conflictingLabels", labels)⟩

def usersNotFound (missing : List Nat) : MappingError :=
  plainError .badRequest "TARGET_USER_NOT_FOUND" "Mot so speakerUserId khong ton tai."
    [("missing", .ids missing)]

def externalsNotFound (missing : List Nat) : MappingError :=
  plainError .badRequest "EXTERNAL_PARTICIPANT_NOT_FOUND"
    "Mot so externalParticipantId khong ton tai hoac khong thuoc cuoc hop nay."
    [("missing", .ids missing)]

def noSegment (label : String) : MappingError :=
  plainError .badRequest "" ("Khong tim thay segment nao cho speakerLabel " ++ label) []

end Errors

section Points

def longestSegment : TranscriptSegment → List TranscriptSegment → TranscriptSegment
  | a, [] => a
  | a, b :: rest => longestSegment (if a.endMs - a.startMs < b.endMs - b.startMs then b else a) rest

/-- `Math.round` of the middle, which rounds a half up. -/
def middle (s : TranscriptSegment) : Int := (s.startMs + s.endMs + 1) / 2

def representativeOffsetMs (segments : List TranscriptSegment) (label : String) : Option Int :=
  match segments.filter fun s => decide (s.speakerLabel = label) with
  | [] => none
  | first :: rest => some (middle (longestSegment first rest))

def computeRepresentativeEventTime (segments : List TranscriptSegment) (label : String)
    (startedAt : Int) : Except MappingError Int := do
  let offset ← expect (representativeOffsetMs segments label) (noSegment label)
  return startedAt + offset

def segmentAt (segments : List TranscriptSegment) (offsetMs : Int) : Option TranscriptSegment :=
  segments.find? fun s => decide (s.startMs ≤ offsetMs ∧ offsetMs < s.endMs)

end Points

section Columns
variable (t : Transcript)

def readStored : List StoredSegment :=
  match t.speakerSegmentsJson with
  | some json => json.segments
  | none => []

def readSegments : List TranscriptSegment := (readStored t).map StoredSegment.toTranscriptSegment

def readSpeakers : List StoredSpeaker := t.detectedSpeakersJson.getD []

def emptyJson : SpeakerSegmentsJson := ⟨[], false, 0, 0, none⟩

def newSpeaker (label : String) : StoredSpeaker :=
  ⟨label, 0, 0, none, none, none, .detected .unmapped⟩

/-- What a mapping makes of a label: a target, or `none` for a conflict. -/
abbrev Resolution := Option ResolvedMappingTarget

def StoredSegment.resolve (s : StoredSegment) : Resolution → StoredSegment
  | none => { s with
      userId := none
      mappedExternalParticipantId := none
      displayName := none
      manualReviewRequired := true }
  | some r => { s with
      userId := r.speakerUserId
      mappedExternalParticipantId := r.externalParticipantId
      displayName := some r.displayName }

def StoredSpeaker.resolve (s : StoredSpeaker) : Resolution → StoredSpeaker
  | none => { s with
      mappedUserId := none
      mappedExternalParticipantId := none
      displayName := none
      mappingSource := .conflict }
  | some r => { s with
      mappedUserId := r.speakerUserId
      mappedExternalParticipantId := r.externalParticipantId
      displayName := some r.displayName
      mappingSource := .detected .manual }

def resolveSpeaker (label : String) (resolved : Resolution) : List StoredSpeaker → List StoredSpeaker
  | [] => [(newSpeaker label).resolve resolved]
  | s :: rest =>
    if s.speakerLabel = label then s.resolve resolved :: rest
    else s :: resolveSpeaker label resolved rest

def resolveSegment (mapping : List (String × Resolution)) (s : StoredSegment) : StoredSegment :=
  match OrderedMap.get mapping s.speakerLabel with
  | none => s
  | some resolved => s.resolve resolved

def applyResolvedMappingsToTranscript (mapping : List (String × Resolution)) : Transcript :=
  let segmentsJson := t.speakerSegmentsJson.getD emptyJson
  { t with
    speakerSegmentsJson :=
      some { segmentsJson with segments := segmentsJson.segments.map (resolveSegment mapping) }
    detectedSpeakersJson :=
      some (mapping.foldl (fun speakers e => resolveSpeaker e.1 e.2 speakers) (readSpeakers t)) }

end Columns

section Create

def realLabel (segments : List TranscriptSegment) (label : String) : Bool :=
  label ≠ "" ∧ label ≠ "unknown" ∧ segments.any fun s => decide (s.speakerLabel = label)

def conflictingLabels (mappings : List SpeakerMappingItemDto) : List String :=
  ((OrderedMap.group (mappings.map fun m => (m.speakerLabel, identityKeyOf m.target))).filter
    fun e => decide (1 < e.2.eraseDups.length)).map Prod.fst

def resolvedByLabel (mappings : List SpeakerMappingItemDto) : List (String × ResolvedMappingTarget) :=
  OrderedMap.ofEntries (mappings.map fun m => (m.speakerLabel, m.target))

def checkMappings (t : Transcript) (startedAt : Option Int) (context : MappingContext)
    (mappings : List SpeakerMappingItemDto) : Except MappingError (Nat × Int) := do
  let recordingSessionId ← expect t.recordingSessionId
    (sessionMissing "Transcript khong co recording session, khong tinh duoc moc dai dien.")
  require (t.status ≠ .processing) stillProcessing
  require (context.caller.isHost = true ∨ context.caller.isAdmin = true)
    ⟨hostOrAdminOnly "Chi Host hoac Admin duoc gan ten nguoi noi.", none⟩
  let startedAt ← expect startedAt (sessionMissing "Recording session khong ton tai.")
  let twofold := mappings.find? fun m =>
    decide (m.speakerUserId.isSome = m.externalParticipantId.isSome)
  require (twofold = none) (oneIdentityOnly ((twofold.map (·.speakerLabel)).getD ""))
  let invalid := (mappings.map (·.speakerLabel)).filter fun label => !realLabel (readSegments t) label
  require (invalid = []) (labelsNotFound invalid.eraseDups)
  require (conflictingLabels mappings = []) (labelsConflicting (conflictingLabels mappings))
  let userIds := (mappings.filterMap (·.speakerUserId)).eraseDups
  let missingUsers := userIds.filter fun id => decide (id ∉ context.users)
  require (missingUsers = []) (usersNotFound missingUsers)
  let externalIds := (mappings.filterMap (·.externalParticipantId)).eraseDups
  let missingExternals := externalIds.filter fun id => decide ((id, t.meetingId) ∉ context.externals)
  require (missingExternals = []) (externalsNotFound missingExternals)
  return (recordingSessionId, startedAt)

def tagEvents (t : Transcript) (recordingSessionId : Nat) (startedAt : Int) (userId : Nat) :
    List (String × ResolvedMappingTarget) → Except MappingError (List MeetingEvent)
  | [] => .ok []
  | (label, resolved) :: rest => do
    let eventTime ← computeRepresentativeEventTime (readSegments t) label startedAt
    let later ← tagEvents t recordingSessionId startedAt userId rest
    return ⟨t.meetingId, eventTime, userId, some recordingSessionId, resolved, .post⟩ :: later

def mergedClusters (resolved : List (String × ResolvedMappingTarget)) : List (List String) :=
  ((OrderedMap.group (resolved.map fun e => (identityKeyOf e.2, e.1))).map Prod.snd).filter
    fun labels => decide (1 < labels.length)

/-- What a request does: the events it saves first, the transcript it writes back after them, and
    its response. -/
structure Mapped where
  events : List MeetingEvent
  transcript : Transcript
  appliedMappings : List (String × ResolvedMappingTarget)
  mergedClusters : List (List String)

def createSpeakerMappings (found : Option Transcript) (startedAt : Option Int)
    (context : MappingContext) (mappings : List SpeakerMappingItemDto) :
    Except MappingError Mapped := do
  let t ← expect found ⟨transcriptNotFound, none⟩
  let (recordingSessionId, startedAt) ← checkMappings t startedAt context mappings
  let resolved := resolvedByLabel mappings
  let events ← tagEvents t recordingSessionId startedAt context.caller.userId resolved
  return {
    events := events
    transcript := applyResolvedMappingsToTranscript t (resolved.map fun e => (e.1, some e.2))
    appliedMappings := resolved
    mergedClusters := mergedClusters resolved }

end Create

section Apply
variable (t : Transcript) (startedAt : Int) (latestMarker : Option Int)

def relevant (e : MeetingEvent) : Bool :=
  e.recordingSessionId = t.recordingSessionId ∨ e.recordingSessionId = none ∧ e.tagSource = .live

def eventOffset (e : MeetingEvent) : Option Int :=
  match e.tagSource with
  | .live => latestMarker.map fun marker => e.eventTime - marker
  | .post => some (e.eventTime - startedAt)

def landing (e : MeetingEvent) : Option (String × ResolvedMappingTarget) := do
  let offset ← eventOffset startedAt latestMarker e
  let segment ← segmentAt (readSegments t) offset
  return (segment.speakerLabel, e.target)

def settle : List ResolvedMappingTarget → Resolution
  | [] => none
  | first :: rest => if (first :: rest).any fun r => decide (identityKeyOf r ≠ identityKeyOf first) then none
      else some first

def applyEvents (events : List MeetingEvent) : Transcript :=
  let landed := (events.filter (relevant t)).filterMap (landing t startedAt latestMarker)
  if landed = [] then t
  else applyResolvedMappingsToTranscript t
    ((OrderedMap.group landed).map fun e => (e.1, settle e.2))

/-- The best-effort step after a rerun, with the speaker tags of the meeting in whatever order the
    query returns them. -/
def applySpeakerMappingsFromEvents (startedAt : Option Int) (events : List MeetingEvent) :
    Transcript :=
  match t.recordingSessionId, startedAt with
  | some _, some startedAt =>
    applyEvents t startedAt latestMarker (events.filter fun e => decide (e.meetingId = t.meetingId))
  | _, _ => t

end Apply

end Transcripts
