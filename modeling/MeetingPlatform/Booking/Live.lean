import MeetingPlatform.Booking.Edits
import Mathlib.Data.List.Sort

/- Cancelling, starting, extending and ending a meeting. Each handler first reads
   without a lock and then runs a transaction that locks the meeting row. -/
namespace MeetingBooking
open KeyedTable Guards

section Cancel

def checkCancel (dir : Directory) (now : Int) (meetingId userId : Nat) (s : Store) :
    Except ApiError Unit := do
  let meeting ← expect (s.findMeeting meetingId) (meetingNotFound meetingId)
  let isOrganizer := meeting.organizerId = userId
  let isHost := meeting.hostId = some userId
  require (isOrganizer ∨ isHost ∨ dir.hasPermission userId "meeting.cancel.any")
    (cancelForbidden isOrganizer isHost)
  require (meeting.status = .scheduled) (cancelStatusInvalid meetingId meeting.status)
  require (now < meeting.startTime) (cancelAfterStart meetingId meeting.startTime now)

def cancellable (meetingId : Nat) : Nat × RoomBooking → Bool :=
  ofMeeting meetingId fun st => st = .pending ∨ st = .approved

def cancelFirstBooking (meetingId : Nat) (s : Store) : Table RoomBooking :=
  match s.bookings.findOne (cancellable meetingId) with
  | some (bookingId, _) => s.bookings.update bookingId fun b => { b with status := .cancelled }
  | none => s.bookings

/-- Under the lock only the status `cancelled` is looked for again. -/
def commitCancel (meetingId : Nat) (s : Store) : Except ApiError Store := do
  let lockedMeeting ← expect (s.findMeeting meetingId) (meetingNotFound meetingId)
  require (lockedMeeting.status ≠ .cancelled) (concurrentModification meetingId)
  pure { s with
    bookings := cancelFirstBooking meetingId s
    meetings := s.meetings.update meetingId fun m => { m with status := .cancelled } }

def cancelMeeting (dir : Directory) (now : Int) (meetingId userId : Nat) (s : Store) :
    Except ApiError Store := do
  checkCancel dir now meetingId userId s
  commitCancel meetingId s

end Cancel

section Start

def validateMeetingCanStart (now : Int) (meeting : Meeting) : Except ApiError Unit :=
  match meeting.status with
  | .completed => .error startAlreadyCompleted
  | .cancelled => .error startCancelled
  | .pendingApproval => .error startPendingApproval
  | .draft => .error startInDraft
  | .inProgress => pure ()
  | .scheduled => do
    let windowStart := meeting.startTime - 15 * minuteMs
    require (windowStart ≤ now) (startTooEarly windowStart)
    require (now < meeting.endTime) (startWindowExpired meeting.endTime)

/-- `false` where the meeting was started before, which is answered without a transaction. -/
def checkStart (now : Int) (meetingId userId : Nat) (s : Store) : Except ApiError Bool := do
  let meeting ← expect (s.findMeeting meetingId) startNotFound
  require (meeting.organizerId = userId ∨ meeting.hostId = some userId) startForbidden
  validateMeetingCanStart now meeting
  pure (meeting.actualStartTime = none)

def approvedOf (among : Nat → Bool) : Nat × RoomBooking → Bool :=
  fun r => among r.2.meetingId ∧ r.2.status = .approved

def activate (b : RoomBooking) : RoomBooking := { b with status := .active }

def started (now : Int) (m : Meeting) : Meeting :=
  { m with status := .inProgress, actualStartTime := some now }

def executeStartMeetingInTransaction (now : Int) (meetingId : Nat) (s : Store) :
    Except ApiError Store := do
  let lockedMeeting ← expect (s.findMeeting meetingId) startNotFound
  require (lockedMeeting.actualStartTime = none) (alreadyStarted meetingId)
  validateMeetingCanStart now lockedMeeting
  pure { s with
    meetings := s.meetings.update meetingId (started now)
    bookings := s.bookings.updateWhere (approvedOf (· = meetingId)) activate }

def startMeeting (now : Int) (meetingId userId : Nat) (s : Store) : Except ApiError Store := do
  let proceed ← checkStart now meetingId userId s
  if proceed then executeStartMeetingInTransaction now meetingId s else pure s

/-- The `WHERE` of the cron's update. -/
def isDue (now : Int) (m : Meeting) : Bool :=
  m.status = .scheduled ∧ m.startTime ≤ now ∧ m.deletedAt = none

def autoStart (m : Meeting) : Meeting :=
  { m with status := .inProgress, actualStartTime := m.actualStartTime <|> some m.startTime }

def autoStartDueMeetings (now : Int) (s : Store) : Store :=
  let started := fun i => (s.meetings.get? i).any (isDue now)
  { s with
    meetings := s.meetings.updateWhere (fun r => isDue now r.2) autoStart
    bookings := s.bookings.updateWhere (approvedOf started) activate }

end Start

section Extension

/-- The bounds are those the request body is validated with. -/
structure ExtensionRequestDto where
  extensionMinutes : Nat
  atLeastOne : 1 ≤ extensionMinutes
  atMost : extensionMinutes ≤ 240

def appliedOf (meetingId : Nat) : Nat × MeetingRequest → Bool :=
  fun r => r.2.meetingId = some meetingId ∧ r.2.requestType = .extendMeeting ∧
    r.2.approvalStatus = .applied

def Store.appliedRequests (s : Store) (meetingId : Nat) : List (Nat × MeetingRequest) :=
  s.requests.select (appliedOf meetingId)

def totalExtensionMinutes (applied : List (Nat × MeetingRequest)) : Nat :=
  (applied.map fun r => r.2.extensionMinutes.getD 0).sum

/-- What the first read, of the meeting row, is used for later. -/
structure ExtensionBasis where
  roomId : Nat
  oldEndTime : Int

def ExtensionBasis.requestedNewEndTime (basis : ExtensionBasis) (dto : ExtensionRequestDto) : Int :=
  basis.oldEndTime + dto.extensionMinutes * minuteMs

def readExtensionMeeting (meetingId userId : Nat) (s : Store) :
    Except ApiError ExtensionBasis := do
  let meeting ← expect (s.findMeeting meetingId) endNotFound
  require (meeting.hostId = some userId) extensionNotHost
  require (meeting.status = .inProgress) (extensionNotInProgress meeting.status)
  let roomId ← expect meeting.roomId (extensionNoRoom meetingId)
  pure ⟨roomId, meeting.endTime⟩

def checkExtensionLimits (policy : ExtensionPolicy) (meetingId : Nat) (dto : ExtensionRequestDto)
    (s : Store) : Except ApiError Unit := do
  let applied := s.appliedRequests meetingId
  require ((applied.length : Rat) < policy.maxExtensionCountPerMeeting)
    (extensionCountExceeded applied.length policy.maxExtensionCountPerMeeting)
  let total := totalExtensionMinutes applied
  require (((total + dto.extensionMinutes : Nat) : Rat) ≤ policy.maxTotalExtensionMinutesPerMeeting)
    (extensionMinutesExceeded total dto.extensionMinutes policy.maxTotalExtensionMinutesPerMeeting)

def readActiveBooking (meetingId : Nat) (s : Store) : Except ApiError Nat := do
  let (bookingId, _) ← expect (s.bookings.findOne (ofMeeting meetingId (· = .active)))
    (extensionNoActiveBooking meetingId)
  pure bookingId

def nextBooking (basis : ExtensionBasis) (activeBookingId : Nat) (s : Store) :
    Option (Nat × RoomBooking) :=
  ((s.bookings.select fun r => r.2.roomId = basis.roomId ∧ r.1 ≠ activeBookingId ∧
      r.2.status.isLive ∧ basis.oldEndTime < r.2.reservedStartTime).insertionSort
    fun a b => a.2.reservedStartTime ≤ b.2.reservedStartTime).head?

def fitsBeforeNext (policy : ExtensionPolicy) (basis : ExtensionBasis) (dto : ExtensionRequestDto)
    (activeBookingId : Nat) (s : Store) : Bool :=
  (nextBooking basis activeBookingId s).all fun next =>
    basis.requestedNewEndTime dto ≤ next.2.reservedStartTime - policy.bufferMs

def ExtensionBasis.request (basis : ExtensionBasis) (meetingId userId : Nat)
    (dto : ExtensionRequestDto) (approvalStatus : ApprovalStatus) : MeetingRequest where
  meetingId := some meetingId
  requestType := .extendMeeting
  requestedBy := userId
  requestedEndTime := some (basis.requestedNewEndTime dto)
  approvalStatus := approvalStatus
  extensionMinutes := some dto.extensionMinutes

def extended (newEndTime : Int) (m : Meeting) : Meeting := { m with endTime := newEndTime }

def bookedUntil (newEndTime : Int) (b : RoomBooking) : RoomBooking :=
  { b with reservedEndTime := newEndTime }

/-- Under the lock only the status of the meeting is looked at again. -/
def handleAutoApplyPath (basis : ExtensionBasis) (meetingId activeBookingId userId : Nat)
    (dto : ExtensionRequestDto) (s : Store) : Except ApiError Store := do
  let lockedMeeting ← expect (s.findMeeting meetingId) endNotFound
  require (lockedMeeting.status = .inProgress) extensionNoLongerInProgress
  let newEndTime := basis.requestedNewEndTime dto
  pure { s with
    requests := s.requests.insert (basis.request meetingId userId dto .applied)
    meetings := s.meetings.update meetingId (extended newEndTime)
    bookings := s.bookings.update activeBookingId (bookedUntil newEndTime) }

def handleRejectedPath (basis : ExtensionBasis) (meetingId userId : Nat)
    (dto : ExtensionRequestDto) (s : Store) : Store :=
  { s with requests := s.requests.insert (basis.request meetingId userId dto .rejected) }

def requestExtension (cfg : Config) (meetingId : Nat) (dto : ExtensionRequestDto) (userId : Nat)
    (s : Store) : Except ApiError Store := do
  let basis ← readExtensionMeeting meetingId userId s
  checkExtensionLimits cfg.policy meetingId dto s
  let activeBookingId ← readActiveBooking meetingId s
  if fitsBeforeNext cfg.policy basis dto activeBookingId s then
    handleAutoApplyPath basis meetingId activeBookingId userId dto s
  else
    pure (handleRejectedPath basis meetingId userId dto s)

end Extension

section End

def validateMeetingCanEnd (meeting : Meeting) : Except ApiError Unit :=
  match meeting.status with
  | .completed => .error endAlreadyCompleted
  | .cancelled => .error endCancelled
  | .scheduled => .error endNotStarted
  | .inProgress => pure ()
  | .draft | .pendingApproval => .error (endNotInProgress meeting.status)

def checkEnd (meetingId userId : Nat) (s : Store) : Except ApiError Unit := do
  let meeting ← expect (s.findMeeting meetingId) endNotFound
  require (meeting.organizerId = userId ∨ meeting.hostId = some userId) endForbidden
  validateMeetingCanEnd meeting
  require (meeting.actualEndTime = none) (endAlreadyEnded meetingId)

def ended (now : Int) (m : Meeting) : Meeting :=
  { m with status := .completed, actualEndTime := some now }

def completeFirstBooking (meetingId : Nat) (s : Store) : Table RoomBooking :=
  match s.bookings.findOne (ofMeeting meetingId RoomBookingStatus.holdsRoom) with
  | some (bookingId, _) => s.bookings.update bookingId fun b => { b with status := .completed }
  | none => s.bookings

def executeEndMeetingInTransaction (now : Int) (meetingId : Nat) (s : Store) :
    Except ApiError Store := do
  let lockedMeeting ← expect (s.findMeeting meetingId) endNotFound
  require (lockedMeeting.actualEndTime = none) (endedByAnother meetingId)
  validateMeetingCanEnd lockedMeeting
  pure { s with
    meetings := s.meetings.update meetingId (ended now)
    bookings := completeFirstBooking meetingId s }

def endMeeting (now : Int) (meetingId userId : Nat) (s : Store) : Except ApiError Store := do
  checkEnd meetingId userId s
  executeEndMeetingInTransaction now meetingId s

end End

end MeetingBooking
