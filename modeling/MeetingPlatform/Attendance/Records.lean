import MeetingPlatform.Participants.RoomCapacity
import MeetingPlatform.Booking.Store

/- Attendance records, which the face devices at the doors and the host of a meeting write. Each
   operation here is taken as a whole; what a device reports may be late and out of order. -/
namespace Attendance
open KeyedTable Guards
open MeetingBooking (Meeting MeetingStatus HttpException)
open Participants (ParticipantRole InvitationStatus)

section Rows

inductive CheckInMethod where
  | manual | doorCamera | roomCamera | qr | system
  deriving DecidableEq, Repr

inductive AttendanceSource where
  | manual | camera | presenceSnapshot | mixed
  deriving DecidableEq, Repr

inductive AttendanceRecordStatus where
  | present | absent | late | leftEarly | invalidated | pendingReview
  deriving DecidableEq, Repr

structure AttendanceRecord where
  meetingId : Nat
  participantId : Option Nat := none
  userId : Nat
  checkInMethod : CheckInMethod
  attendanceSource : AttendanceSource
  checkInTime : Option Int
  checkOutTime : Option Int := none
  firstDetectedAt : Option Int := none
  lastDetectedAt : Option Int := none
  isPresent : Bool := false
  isLate : Bool := false
  leftEarly : Bool := false
  lateMinutes : Option Int := none
  attendanceStatus : AttendanceRecordStatus
  verifiedBy : Option Nat := none
  verifiedAt : Option Int := none
  note : Option String := none
  createdAt : Int
  updatedAt : Int
  deriving DecidableEq, Repr

inductive AttendanceEventType where
  | checkIn | checkOut | faceDetected
  deriving DecidableEq, Repr

structure AttendanceEvent where
  meetingId : Nat
  attendanceRecordId : Nat
  userId : Nat
  roomId : Option Nat
  deviceId : Nat
  eventType : AttendanceEventType
  eventTime : Int
  deriving DecidableEq, Repr

structure MeetingParticipant where
  meetingId : Nat
  userId : Nat
  participantRole : ParticipantRole
  invitationStatus : InvitationStatus
  deriving DecidableEq, Repr

/-- What the operations only read. `lateGraceConfig` is what `parseInt` makes of the stored value. -/
structure Surroundings where
  meetings : Table Meeting
  participants : Table MeetingParticipant
  roleCodes : Nat → List String
  lateGraceConfig : Option Int := none
  lateGraceEnv : Int := 0
  faceSyncGraceMinutes : Int := 5

structure AttendanceStore where
  surroundings : Surroundings
  records : Table AttendanceRecord
  events : List AttendanceEvent := []

def systemAdmin : String := "SYSTEM_ADMIN"

def businessAdmin : String := "BUSINESS_ADMIN"

end Rows

section Failures

structure AttendanceError where
  exception : HttpException
  error : String
  message : String
  deriving DecidableEq, Repr

def meetingNotFound : AttendanceError := ⟨.notFound, "MEETING_NOT_FOUND", "Meeting not found"⟩

def attendanceNotOpen : AttendanceError :=
  ⟨.conflict, "ATTENDANCE_NOT_OPEN_YET", "Meeting is not in a state that allows manual attendance"⟩

def permissionDenied : AttendanceError :=
  ⟨.forbidden, "PERMISSION_DENIED",
    "You do not have permission to manage attendance for this meeting"⟩

def notParticipant : AttendanceError :=
  ⟨.unprocessableEntity, "USER_NOT_PARTICIPANT", "User is not a participant of this meeting"⟩

def recordExists : AttendanceError :=
  ⟨.conflict, "ATTENDANCE_RECORD_EXISTS",
    "Attendance record already exists for this user in this meeting"⟩

def recordNotFound : AttendanceError :=
  ⟨.notFound, "ATTENDANCE_RECORD_NOT_FOUND", "Attendance record not found"⟩

def invalidStatus : AttendanceError :=
  ⟨.badRequest, "INVALID_STATUS",
    "Cannot set status to invalidated here; use the invalidate endpoint"⟩

def invalidTimeRange : AttendanceError :=
  ⟨.unprocessableEntity, "INVALID_TIME_RANGE", "checkOutTime cannot be earlier than checkInTime"⟩

def invalidationDenied : AttendanceError :=
  ⟨.forbidden, "PERMISSION_DENIED", "Only System Admin can invalidate attendance records"⟩

def reasonRequired : AttendanceError :=
  ⟨.badRequest, "REASON_REQUIRED", "reason is required to invalidate an attendance record"⟩

def alreadyInvalidated : AttendanceError :=
  ⟨.conflict, "ALREADY_INVALIDATED", "Attendance record is already invalidated"⟩

end Failures

section Flags

structure LateFlags where
  isLate : Bool
  lateMinutes : Int
  leftEarly : Bool
  deriving DecidableEq, Repr

/-- `Math.ceil` of a number of minutes. -/
def minutesUp (ms : Int) : Int := -(-ms / 60000)

/-- `Math.round` of a number of minutes. -/
def minutesRounded (ms : Int) : Int := (2 * ms + 60000) / 120000

def isLateAt (checkInTime startTime graceMinutes : Int) : Bool :=
  startTime + graceMinutes * 60000 < checkInTime

def leavesEarly (checkOutTime : Option Int) (endTime : Int) : Bool :=
  checkOutTime.any fun checkOut => checkOut < endTime

def computeLateFlags (checkInTime startTime : Int) (checkOutTime : Option Int)
    (endTime graceMinutes : Int) : LateFlags :=
  let isLate := isLateAt checkInTime startTime graceMinutes
  { isLate := isLate
    lateMinutes := if isLate then max 1 (minutesUp (checkInTime - startTime)) else 0
    leftEarly := leavesEarly checkOutTime endTime }

def deriveStatus (flags : LateFlags) : AttendanceRecordStatus :=
  if flags.leftEarly then .leftEarly
  else if flags.isLate then .late
  else .present

def effectiveEnd (meeting : Meeting) : Int := meeting.actualEndTime.getD meeting.endTime

def Surroundings.lateGraceMinutes (w : Surroundings) : Int :=
  (w.lateGraceConfig.filter (0 ≤ ·)).getD w.lateGraceEnv

end Flags

section Queries

def AttendanceRecord.attends (record : AttendanceRecord) : Nat × Nat :=
  (record.meetingId, record.userId)

def AttendanceStore.findRecord (s : AttendanceStore) (meetingId userId : Nat) :
    Option (Nat × AttendanceRecord) :=
  s.records.findOne fun r => r.2.attends = (meetingId, userId)

def Surroundings.findMeeting (w : Surroundings) (meetingId : Nat) : Option Meeting :=
  (w.meetings.get? meetingId).filter fun m => m.deletedAt = none

def Surroundings.findParticipant (w : Surroundings) (meetingId userId : Nat) :
    Option (Nat × MeetingParticipant) :=
  w.participants.findOne fun r =>
    r.2.meetingId = meetingId ∧ r.2.userId = userId ∧ r.2.invitationStatus ≠ .declined

def AttendanceRecord.stamped (record : AttendanceRecord) (now : Int) : AttendanceRecord :=
  { record with updatedAt := now }

/-- TypeORM writes nothing where no column has changed. -/
def saved (now : Int) (write : AttendanceRecord → AttendanceRecord) (record : AttendanceRecord) :
    AttendanceRecord :=
  if write record = record then record else (write record).stamped now

def AttendanceStore.saveRecord (s : AttendanceStore) (now : Int) (recordId : Nat)
    (write : AttendanceRecord → AttendanceRecord) : AttendanceStore :=
  { s with records := s.records.update recordId (saved now write) }

end Queries

section Devices

inductive Direction where
  | entering | leaving
  deriving DecidableEq, Repr

/-- An event of a device, for which the mapping of the person has named a user and a meeting. -/
structure VerifyInput where
  deviceId : Nat
  roomId : Option Nat
  userId : Nat
  meetingId : Nat
  verifyTime : Int
  direction : Direction
  deriving DecidableEq, Repr

def postGraceMinutes : Int := 0

def meetingClosed (meeting : Meeting) (verifyTime : Int) : Bool :=
  meeting.status = .completed ∨ meeting.status = .cancelled ∨
    effectiveEnd meeting + postGraceMinutes * 60000 < verifyTime

def VerifyInput.event (input : VerifyInput) (recordId : Nat) (eventType : AttendanceEventType) :
    AttendanceEvent :=
  ⟨input.meetingId, recordId, input.userId, input.roomId, input.deviceId, eventType, input.verifyTime⟩

def VerifyInput.record (input : VerifyInput) (w : Surroundings) (meeting : Meeting) (now : Int) :
    AttendanceRecord :=
  let isLate := isLateAt input.verifyTime meeting.startTime w.lateGraceMinutes
  { meetingId := input.meetingId
    userId := input.userId
    checkInMethod := .doorCamera
    attendanceSource := .camera
    checkInTime := some input.verifyTime
    firstDetectedAt := some input.verifyTime
    lastDetectedAt := some input.verifyTime
    isPresent := true
    isLate := isLate
    lateMinutes := some
      (if isLate then max 0 (minutesRounded (input.verifyTime - meeting.startTime)) else 0)
    attendanceStatus := if isLate then .late else .present
    createdAt := now
    updatedAt := now }

def VerifyInput.detected (input : VerifyInput) (now : Int) (record : AttendanceRecord) :
    AttendanceRecord :=
  { record with
    lastDetectedAt := some input.verifyTime
    updatedAt := now }

def VerifyInput.checkedOut (input : VerifyInput) (meeting : Meeting) (now : Int)
    (record : AttendanceRecord) : AttendanceRecord :=
  { record with
    checkOutTime := some input.verifyTime
    leftEarly := input.verifyTime < effectiveEnd meeting
    updatedAt := now }

/-- `existing` is what the call has found of a record. -/
def AttendanceStore.detect (s : AttendanceStore) (input : VerifyInput) (meeting : Meeting) (now : Int)
    (existing : Option Nat) : AttendanceStore :=
  match existing with
  | some recordId =>
    { s with
      records := s.records.update recordId (input.detected now)
      events := s.events ++ [input.event recordId .faceDetected] }
  | none =>
    { s with
      records := s.records.insert (input.record s.surroundings meeting now)
      events := s.events ++ [input.event s.records.next .checkIn] }

/-- The record that a leaving person is checked out of, if the check-out is to be written. -/
def AttendanceStore.checkOutRecord (s : AttendanceStore) (input : VerifyInput) (meeting : Meeting) :
    Option (Nat × AttendanceRecord) := do
  if meeting.status = .cancelled ∨
      effectiveEnd meeting + s.surroundings.faceSyncGraceMinutes * 60000 < input.verifyTime then none
  let found ← s.findRecord input.meetingId input.userId
  if found.2.checkInTime = none ∨ found.2.checkOutTime.any (input.verifyTime ≤ ·) then none
  return found

def AttendanceStore.writeCheckOut (s : AttendanceStore) (input : VerifyInput) (meeting : Meeting)
    (now : Int) (recordId : Nat) : AttendanceStore :=
  { s with
    records := s.records.update recordId (input.checkedOut meeting now)
    events := s.events ++ [input.event recordId .checkOut] }

def AttendanceStore.checkOut (s : AttendanceStore) (input : VerifyInput) (meeting : Meeting)
    (now : Int) : AttendanceStore :=
  match s.checkOutRecord input meeting with
  | none => s
  | some found => s.writeCheckOut input meeting now found.1

def AttendanceStore.onVerify (s : AttendanceStore) (input : VerifyInput) (now : Int) :
    AttendanceStore :=
  match s.surroundings.meetings.get? input.meetingId with
  | none => s
  | some meeting =>
    match input.direction with
    | .leaving => s.checkOut input meeting now
    | .entering =>
      if meetingClosed meeting input.verifyTime then s
      else s.detect input meeting now ((s.findRecord input.meetingId input.userId).map Prod.fst)

end Devices

section Manual

structure CreateManualAttendanceDto where
  userId : Nat
  checkInTime : Option Int := none
  note : Option String := none

/-- A note of `some none` is a `null` in the body. -/
structure UpdateAttendanceProfileDto where
  checkInTime : Option Int := none
  checkOutTime : Option Int := none
  note : Option (Option String) := none

variable (s : AttendanceStore) (meetingId recordId : Nat) (actorUserId : Nat) (now : Int)

def assertMeetingOpen (meeting : Meeting) : Except AttendanceError Unit :=
  require (meeting.status ∈ [.scheduled, .inProgress, .completed]) attendanceNotOpen

def loadMeetingAndGate : Except AttendanceError Meeting := do
  let meeting ← expect (s.surroundings.findMeeting meetingId) meetingNotFound
  assertMeetingOpen meeting
  return meeting

def isHostOrAdmin (meeting : Meeting) : Bool :=
  systemAdmin ∈ s.surroundings.roleCodes actorUserId ∨
    businessAdmin ∈ s.surroundings.roleCodes actorUserId ∨
    meeting.hostId = some actorUserId ∨
    s.surroundings.participants.rows.any fun r =>
      r.2.meetingId = meetingId ∧ r.2.userId = actorUserId ∧ r.2.participantRole = .host ∧
        r.2.invitationStatus ≠ .declined

def gate : Except AttendanceError Meeting := do
  let meeting ← loadMeetingAndGate s meetingId
  require (isHostOrAdmin s meetingId actorUserId meeting = true) permissionDenied
  return meeting

def loadRecord : Except AttendanceError AttendanceRecord :=
  expect ((s.records.get? recordId).filter fun record => record.meetingId = meetingId) recordNotFound

def CreateManualAttendanceDto.record (dto : CreateManualAttendanceDto) (meeting : Meeting)
    (participantId : Nat) : AttendanceRecord :=
  let checkInTime := dto.checkInTime.getD now
  let flags := computeLateFlags checkInTime meeting.startTime none meeting.endTime
    s.surroundings.lateGraceMinutes
  { meetingId := meetingId
    participantId := some participantId
    userId := dto.userId
    checkInMethod := .manual
    attendanceSource := .manual
    checkInTime := some checkInTime
    isLate := flags.isLate
    leftEarly := flags.leftEarly
    lateMinutes := some flags.lateMinutes
    attendanceStatus := deriveStatus flags
    verifiedBy := some actorUserId
    verifiedAt := some now
    note := dto.note
    createdAt := now
    updatedAt := now }

/-- The checks of `createManual`, with the look for an earlier record last, and the row it makes. -/
def newManualRecord (dto : CreateManualAttendanceDto) : Except AttendanceError AttendanceRecord := do
  let meeting ← gate s meetingId actorUserId
  let participant ← expect (s.surroundings.findParticipant meetingId dto.userId) notParticipant
  require (s.findRecord meetingId dto.userId = none) recordExists
  return dto.record s meetingId actorUserId now meeting participant.1

def AttendanceStore.insertRecord (record : AttendanceRecord) : AttendanceStore :=
  { s with records := s.records.insert record }

def createManual (dto : CreateManualAttendanceDto) : Except AttendanceError AttendanceStore := do
  let record ← newManualRecord s meetingId actorUserId now dto
  return s.insertRecord record

def updateStatus (attendanceStatus : AttendanceRecordStatus) :
    Except AttendanceError AttendanceStore := do
  let _ ← gate s meetingId actorUserId
  require (attendanceStatus ≠ .invalidated) invalidStatus
  let _ ← loadRecord s meetingId recordId
  return s.saveRecord now recordId fun record => { record with attendanceStatus := attendanceStatus }

/-- The times are given new values, and the flags are calculated again; the status stays. -/
def UpdateAttendanceProfileDto.write (dto : UpdateAttendanceProfileDto) (meeting : Meeting)
    (graceMinutes : Int) (record : AttendanceRecord) : AttendanceRecord :=
  let newCheckIn := dto.checkInTime.or record.checkInTime
  let newCheckOut := dto.checkOutTime.or record.checkOutTime
  let edited := { record with
    checkInTime := newCheckIn
    checkOutTime := newCheckOut
    note := dto.note.getD record.note }
  match newCheckIn with
  | some checkIn =>
    let flags := computeLateFlags checkIn meeting.startTime newCheckOut meeting.endTime graceMinutes
    { edited with
      isLate := flags.isLate
      lateMinutes := some flags.lateMinutes
      leftEarly := flags.leftEarly }
  | none => { edited with leftEarly := leavesEarly newCheckOut meeting.endTime }

def endsBeforeStart (checkIn checkOut : Option Int) : Bool :=
  checkIn.any fun start => checkOut.any fun stop => stop < start

def updateProfile (dto : UpdateAttendanceProfileDto) : Except AttendanceError AttendanceStore := do
  let meeting ← gate s meetingId actorUserId
  let record ← loadRecord s meetingId recordId
  require (¬ endsBeforeStart (dto.checkInTime.or record.checkInTime)
    (dto.checkOutTime.or record.checkOutTime) = true) invalidTimeRange
  return s.saveRecord now recordId (dto.write meeting s.surroundings.lateGraceMinutes)

/-- `reasonGiven` tells that the trimmed reason is not empty. -/
def invalidate (reasonGiven : Bool) : Except AttendanceError AttendanceStore := do
  let record ← loadRecord s meetingId recordId
  let meeting ← expect (s.surroundings.findMeeting meetingId) meetingNotFound
  assertMeetingOpen meeting
  require (systemAdmin ∈ s.surroundings.roleCodes actorUserId) invalidationDenied
  require (reasonGiven = true) reasonRequired
  require (record.attendanceStatus ≠ .invalidated) alreadyInvalidated
  return s.saveRecord now recordId fun record => { record with attendanceStatus := .invalidated }

end Manual

end Attendance
