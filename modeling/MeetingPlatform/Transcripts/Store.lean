import MeetingPlatform.Lib.EntitySaves
import MeetingPlatform.Lib.Guards
import MeetingPlatform.Booking.Errors

/- The row of a transcript, with the two JSON columns that hold its segments and its speakers, and
   the writes of the worker to it. -/
namespace Transcripts
open MeetingBooking Guards EntitySaves

inductive TranscriptStatus where
  | processing | draft | reviewed | approved | failed | hidden
  deriving DecidableEq, Repr

def TranscriptStatus.wire : TranscriptStatus → String
  | .processing => "processing"
  | .draft => "draft"
  | .reviewed => "reviewed"
  | .approved => "approved"
  | .failed => "failed"
  | .hidden => "hidden"

structure TranscriptSegment where
  segmentId : String
  startMs : Int
  endMs : Int
  text : String
  speakerLabel : String
  speakerSource : String
  userId : Option Nat
  lowConfidence : Bool
  manualReviewRequired : Bool
  deriving DecidableEq, Repr

/-- A segment in the JSON column, with the fields that a mapping adds. -/
structure StoredSegment extends TranscriptSegment where
  mappedExternalParticipantId : Option Nat
  displayName : Option String
  deriving DecidableEq, Repr

inductive DetectedSource where
  | diarization | channelZone | manual | unmapped
  deriving DecidableEq, Repr

structure DetectedSpeaker where
  speakerLabel : String
  totalSpeakingMs : Int
  segmentCount : Nat
  mappedUserId : Option Nat
  mappingSource : DetectedSource
  deriving DecidableEq, Repr

inductive MappingSource where
  | detected (source : DetectedSource)
  | conflict
  deriving DecidableEq, Repr

structure StoredSpeaker where
  speakerLabel : String
  totalSpeakingMs : Int
  segmentCount : Nat
  mappedUserId : Option Nat
  mappedExternalParticipantId : Option Nat
  displayName : Option String
  mappingSource : MappingSource
  deriving DecidableEq, Repr

def TranscriptSegment.stored (s : TranscriptSegment) : StoredSegment := ⟨s, none, none⟩

def DetectedSpeaker.stored (s : DetectedSpeaker) : StoredSpeaker :=
  ⟨s.speakerLabel, s.totalSpeakingMs, s.segmentCount, s.mappedUserId, none, none,
    .detected s.mappingSource⟩

structure SpeakerSegmentsJson where
  segments : List StoredSegment
  manualReviewRequired : Bool
  manualReviewSegmentCount : Nat
  editRevisionNo : Nat
  lastRevisionNote : Option String
  deriving DecidableEq, Repr

structure Transcript where
  meetingId : Nat
  recordingSessionId : Option Nat
  versionNo : Nat
  status : TranscriptStatus
  speakerSegmentsJson : Option SpeakerSegmentsJson
  detectedSpeakersJson : Option (List StoredSpeaker)
  editedBy : Option Nat
  editedAt : Option Nat
  approvedBy : Option Nat
  approvedAt : Option Nat
  deriving DecidableEq, Repr

/-- What the columns written by a save make of the row as it is then. -/
def saveTranscript (entity stored row : Transcript) : Transcript where
  meetingId := savedColumn entity.meetingId stored.meetingId row.meetingId
  recordingSessionId :=
    savedColumn entity.recordingSessionId stored.recordingSessionId row.recordingSessionId
  versionNo := savedColumn entity.versionNo stored.versionNo row.versionNo
  status := savedColumn entity.status stored.status row.status
  speakerSegmentsJson :=
    savedColumn entity.speakerSegmentsJson stored.speakerSegmentsJson row.speakerSegmentsJson
  detectedSpeakersJson :=
    savedColumn entity.detectedSpeakersJson stored.detectedSpeakersJson row.detectedSpeakersJson
  editedBy := savedColumn entity.editedBy stored.editedBy row.editedBy
  editedAt := savedColumn entity.editedAt stored.editedAt row.editedAt
  approvedBy := savedColumn entity.approvedBy stored.approvedBy row.approvedBy
  approvedAt := savedColumn entity.approvedAt stored.approvedAt row.approvedAt

@[simp] theorem saveTranscript_at_once (entity stored : Transcript) :
    saveTranscript entity stored stored = entity := by
  simp only [saveTranscript, savedColumn_at_once]

structure TranscriptionResult where
  segments : List TranscriptSegment
  detectedSpeakers : List DetectedSpeaker
  deriving DecidableEq, Repr

def plainSegment (segmentId : String) (startMs endMs : Int) (text speakerLabel : String) :
    TranscriptSegment :=
  ⟨segmentId, startMs, endMs, text, speakerLabel, "pyannote", none, false, false⟩

/-- What `createTranscriptionJob` inserts. -/
def newTranscript (meetingId recordingSessionId versionNo : Nat) : Transcript where
  meetingId := meetingId
  recordingSessionId := some recordingSessionId
  versionNo := versionNo
  status := .processing
  speakerSegmentsJson := none
  detectedSpeakersJson := none
  editedBy := none
  editedAt := none
  approvedBy := none
  approvedAt := none

section Worker
variable (t : Transcript)

def resultJson (result : TranscriptionResult) : SpeakerSegmentsJson :=
  let reviewSegments := result.segments.filter fun s => s.manualReviewRequired || s.lowConfidence
  { segments := result.segments.map TranscriptSegment.stored
    manualReviewRequired := decide (0 < reviewSegments.length)
    manualReviewSegmentCount := reviewSegments.length
    editRevisionNo := 0
    lastRevisionNote := none }

/-- The `UPDATE` that a finished transcription starts with. -/
def updateTranscriptResult (result : TranscriptionResult) : Transcript :=
  { t with
    status := .draft
    speakerSegmentsJson := some (resultJson result)
    detectedSpeakersJson := some (result.detectedSpeakers.map DetectedSpeaker.stored) }

def failTranscript : Transcript := { t with status := .failed }

end Worker

section Status

inductive TranscriptStatusTransition where
  | reviewed | approved
  deriving DecidableEq, Repr

def TranscriptStatusTransition.target : TranscriptStatusTransition → TranscriptStatus
  | .reviewed => .reviewed
  | .approved => .approved

/-- The user who calls, and what the lookups say about him. -/
structure Caller where
  userId : Nat
  isHost : Bool
  isAdmin : Bool
  deriving DecidableEq, Repr

def transcriptNotFound : ApiError :=
  ⟨.notFound, "TRANSCRIPT_NOT_FOUND", "Khong tim thay transcript.", []⟩

def hostOrAdminOnly (message : String) : ApiError := ⟨.forbidden, "PERMISSION_DENIED", message, []⟩

def assertHostOrAdmin (caller : Caller) (message : String) : Except ApiError Unit :=
  require (caller.isHost = true ∨ caller.isAdmin = true) (hostOrAdminOnly message)

def allowedFrom : TranscriptStatus → List TranscriptStatus
  | .draft => [.reviewed, .approved]
  | .reviewed => [.approved]
  | .processing | .approved | .failed | .hidden => []

def invalidTransition (source target : TranscriptStatus) : ApiError :=
  ⟨.conflict, "INVALID_TRANSCRIPT_STATUS_TRANSITION",
    "Khong the chuyen transcript tu trang thai \"" ++ source.wire ++ "\" sang \"" ++ target.wire ++ "\".",
    [("from", .text source.wire), ("to", .text target.wire)]⟩

def notHideable (status : TranscriptStatus) : ApiError :=
  ⟨.conflict, "TRANSCRIPT_NOT_DRAFT",
    "Chi co the xoa transcript chua duoc danh dau da xem (draft/failed).",
    [("status", .text status.wire)]⟩

def checkStatusUpdate (found : Option Transcript) (caller : Caller)
    (requested : TranscriptStatusTransition) : Except ApiError Unit := do
  let transcript ← expect found transcriptNotFound
  assertHostOrAdmin caller "Chi Host hoac Admin duoc doi trang thai transcript."
  require (requested.target ∈ allowedFrom transcript.status)
    (invalidTransition transcript.status requested.target)

def checkHide (found : Option Transcript) (caller : Caller) : Except ApiError Unit := do
  let transcript ← expect found transcriptNotFound
  assertHostOrAdmin caller "Chi Host hoac Admin duoc xoa transcript."
  require (transcript.status ∈ [TranscriptStatus.draft, .failed]) (notHideable transcript.status)

/-- The `UPDATE` of `updateTranscriptStatus`. -/
def setStatus (t : Transcript) (caller : Caller) (requested : TranscriptStatusTransition)
    (now : Nat) : Transcript :=
  match requested with
  | .reviewed => { t with status := .reviewed }
  | .approved => { t with
      status := .approved
      approvedBy := some caller.userId
      approvedAt := some now }

def setHidden (t : Transcript) : Transcript := { t with status := .hidden }

@[simp] theorem setStatus_status (t : Transcript) (caller : Caller)
    (requested : TranscriptStatusTransition) (now : Nat) :
    (setStatus t caller requested now).status = requested.target := by
  cases requested <;> rfl

@[simp] theorem setStatus_versionNo (t : Transcript) (caller : Caller)
    (requested : TranscriptStatusTransition) (now : Nat) :
    (setStatus t caller requested now).versionNo = t.versionNo := by
  cases requested <;> rfl

@[simp] theorem setStatus_session (t : Transcript) (caller : Caller)
    (requested : TranscriptStatusTransition) (now : Nat) :
    (setStatus t caller requested now).recordingSessionId = t.recordingSessionId := by
  cases requested <;> rfl

end Status

end Transcripts
