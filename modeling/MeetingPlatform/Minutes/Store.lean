import MeetingPlatform.Participants.RoomCapacity
import MeetingPlatform.Lib.Table

/- The minutes of meetings, with what decides on who may read and who may write them. Texts and
   structured parts of the contents are opaque. -/
namespace Minutes
open KeyedTable
open MeetingBooking (MeetingStatus)
open Participants (ParticipantRole)

section Rows

inductive MinutesStatus where
  | draft | published | archived | deleted
  deriving DecidableEq, Repr

inductive MinutesSource where
  | ai | manual
  deriving DecidableEq, Repr

inductive AttendanceStatus where
  | notCheckedIn | present | absent | late | leftEarly
  deriving DecidableEq, Repr

structure Meeting where
  title : String
  organizerId : Nat
  hostId : Option Nat
  roomId : Option Nat
  status : MeetingStatus
  startTime : Int
  actualStartTime : Option Int
  deletedAt : Option Int
  deriving DecidableEq, Repr

structure MeetingParticipant where
  meetingId : Nat
  userId : Nat
  participantRole : ParticipantRole
  attendanceStatus : AttendanceStatus
  joinedAt : Option Int
  leftAt : Option Int
  deriving DecidableEq, Repr

structure AttendeeSnapshot where
  userId : Nat
  participantRole : ParticipantRole
  attendanceStatus : AttendanceStatus
  joinedAt : Option Int
  leftAt : Option Int
  deriving DecidableEq, Repr

/-- The insights of a model, each of which may be absent; `meta` says which model it was. -/
structure AiSummary where
  keyPoints : Option (List String) := none
  risks : Option (List String) := none
  openQuestions : Option (List String) := none
  uncertainParts : Option (List String) := none
  provenance : Option String := none
  deriving DecidableEq, Repr

structure ActionItem where
  id : Option String
  task : String
  deriving DecidableEq, Repr

structure MeetingMinutes where
  meetingId : Nat
  title : String
  versionNo : Nat
  status : MinutesStatus
  isLiveShared : Bool
  source : MinutesSource
  minutesContent : String
  attendeesSnapshotJson : Option (List AttendeeSnapshot)
  decisionsJson : Option (List String)
  actionItemsJson : Option (List ActionItem)
  aiSummaryJson : Option AiSummary
  linkedTranscriptId : Option Nat
  linkedRecordingFileId : Option Nat
  issuedBy : Option Nat
  issuedAt : Option Int
  preparedBy : Option Nat
  createdAt : Int
  deletedAt : Option Int
  deriving DecidableEq, Repr

structure MinutesShare where
  minutesId : Nat
  userId : Nat
  grantedAt : Int
  deriving DecidableEq, Repr

inductive MediaFileType where
  | audio | video | image | document | transcript | minutesAttachment | exported | evidence
  deriving DecidableEq, Repr

structure MediaFile where
  fileType : MediaFileType
  meetingId : Option Nat
  relatedEntityType : Option String
  relatedEntityId : Option Nat
  deletedAt : Option Int
  deriving DecidableEq, Repr

end Rows

section Errors

inductive MinutesException where
  | badRequest | forbidden | notFound | conflict | internal
  deriving DecidableEq, Repr

inductive MinutesDetail where
  | id (value : Nat)
  | version (value : Nat)
  | status (value : MinutesStatus)
  | meetingStatus (value : Option MeetingStatus)
  | fileType (value : MediaFileType)
  | current (row : MeetingMinutes)
  deriving DecidableEq, Repr

/-- `typeError` is the failure of a read of a field of null. -/
inductive MinutesError where
  | thrown (exception : MinutesException) (code message : String)
      (details : List (String × MinutesDetail))
  | typeError
  deriving DecidableEq, Repr

end Errors

end Minutes
