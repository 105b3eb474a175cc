import MeetingPlatform.Booking.Config
import MeetingPlatform.Booking.Errors

/- MeetingsService: creating a meeting, moving it in time, moving it to another room.
   The edits differ by the meeting's status: a pending meeting is edited in place,
   a scheduled one gets a change request and keeps its slot. -/
namespace MeetingBooking
open KeyedTable Guards

structure CreateMeetingDto where
  hostId : Option Nat := none
  roomId : Nat
  startTime : Int
  endTime : Int
  participantUserIds : List Nat := []
  externalParticipants : Nat := 0
  expectedAttendeeCount : Option Nat := none
  equipmentWarningConfirmed : Bool := false
  capacityOverrideConfirmed : Bool := false

/-- An unparsable date is `none`. -/
structure UpdateMeetingTimeDto where
  startTime : Option Int
  endTime : Option Int
  newRoomId : Option Nat := none
  overrideParticipantConflict : Bool := false

structure UpdateMeetingRoomDto where
  newRoomId : Nat
  confirmCapacityOverride : Bool := false

def Room.usable (room : Room) : Bool :=
  room.isActive ∧ room.currentStatus ≠ .inactive ∧ room.administrativeStatus ≠ .inactive

def getRoomAvailability (cfg : Config) (s : Store) (roomId : Nat) (startTime endTime : Int) :
    List (Nat × RoomBooking) :=
  s.roomConflicts cfg.bufferMs roomId none startTime endTime

/-- What the availability checks of `create` leave for its inserting transaction. -/
structure CreatePlan where
  dto : CreateMeetingDto
  userId : Nat
  hostId : Nat
  isAutoApprovable : Bool

def checkCreate (cfg : Config) (dir : Directory) (now : Int) (dto : CreateMeetingDto)
    (userId : Nat) (s : Store) : Except ApiError CreatePlan := do
  let hostId := dto.hostId.getD userId
  require (dto.startTime < dto.endTime) endBeforeStart
  require (now < dto.startTime) startInPast
  let room ← expect (dir.room dto.roomId) (createRoomNotFound dto.roomId)
  require room.usable (createRoomNotFound dto.roomId)
  require (hostId = userId ∨ dir.activeUser hostId) hostNotFound
  let uniqueParticipantIds := (dto.participantUserIds ++ [hostId]).eraseDups
  let invalidIds := uniqueParticipantIds.filter fun u => !dir.activeUser u
  require (invalidIds = []) (invalidParticipants invalidIds)
  let ineligible := uniqueParticipantIds.filter dir.ineligibleForMeetings
  require (ineligible = []) (participantRoleNotAllowed ineligible)
  let conflicting := getRoomAvailability cfg s dto.roomId dto.startTime dto.endTime
  require (conflicting = []) (createRoomConflict (conflicting.map Prod.fst))
  let faulty := dir.faultyEquipments dto.roomId
  require (faulty = [] ∨ dto.equipmentWarningConfirmed) (roomHasFaultyEquipment faulty)
  let total := uniqueParticipantIds.length + dto.externalParticipants
  let capacity := room.capacity.getD 0
  require (total ≤ capacity ∨ dto.capacityOverrideConfirmed) (capacityExceeded capacity total)
  pure ⟨dto, userId, hostId, dir.approverIds.contains userId⟩

def CreatePlan.meeting (plan : CreatePlan) : Meeting where
  organizerId := plan.userId
  hostId := some plan.hostId
  roomId := some plan.dto.roomId
  startTime := plan.dto.startTime
  endTime := plan.dto.endTime
  status := if plan.isAutoApprovable then .scheduled else .pendingApproval
  expectedAttendeeCount := plan.dto.expectedAttendeeCount.filter (· ≠ 0)

def CreatePlan.request (plan : CreatePlan) (meetingId : Nat) : MeetingRequest where
  meetingId := some meetingId
  requestType := .createMeeting
  requestedBy := plan.userId
  targetRoomId := some plan.dto.roomId
  requestedStartTime := some plan.dto.startTime
  requestedEndTime := some plan.dto.endTime
  approvalStatus := if plan.isAutoApprovable then .approved else .pending

def CreatePlan.booking (plan : CreatePlan) (meetingId : Nat) : RoomBooking where
  meetingId := meetingId
  roomId := plan.dto.roomId
  reservedStartTime := plan.dto.startTime
  reservedEndTime := plan.dto.endTime
  status := if plan.isAutoApprovable then .approved else .pending

/-- The inserting transaction. It repeats none of the checks. -/
def commitCreate (plan : CreatePlan) (s : Store) : Store :=
  let meetingId := s.meetings.next
  let invited := (plan.hostId :: plan.dto.participantUserIds).eraseDups
  { meetings := s.meetings.insert plan.meeting
    requests := s.requests.insert (plan.request meetingId)
    bookings := s.bookings.insert (plan.booking meetingId)
    participants := invited.foldl (fun t u => t.insert ⟨meetingId, u⟩) s.participants
    externalParticipants := (List.replicate plan.dto.externalParticipants meetingId).foldl
      (fun t i => t.insert i) s.externalParticipants }

def create (cfg : Config) (dir : Directory) (now : Int) (dto : CreateMeetingDto) (userId : Nat)
    (s : Store) : Except ApiError Store := do
  let plan ← checkCreate cfg dir now dto userId s
  pure (commitCreate plan s)

def Store.participantIds (s : Store) (meetingId : Nat) : List Nat :=
  (s.participants.rows.filter fun r => r.2.meetingId = meetingId).map fun r => r.2.userId

def getAttendeeCount (s : Store) (meetingId : Nat) : Nat :=
  (s.participantIds meetingId).length +
    (s.externalParticipants.rows.filter fun r => r.2 = meetingId).length

def Store.participantTimeConflicts (s : Store) (meetingId : Nat) (startTime endTime : Int) :
    List Nat :=
  (s.participants.rows.filter fun r =>
    (s.participantIds meetingId).contains r.2.userId ∧ r.2.meetingId ≠ meetingId ∧
      ((s.findMeeting r.2.meetingId).any fun m =>
        m.status ≠ .cancelled ∧ m.status ≠ .completed ∧
          m.startTime < endTime ∧ startTime < m.endTime)).map fun r => r.2.userId

def resolveTargetRoom (dir : Directory) (s : Store) (meetingId : Nat) (meeting : Meeting)
    (roomId : Nat) (newRoomId : Option Nat) : Except ApiError Nat :=
  match newRoomId with
  | none => pure roomId
  | some newRoomId => do
    let newRoom ← expect (dir.room newRoomId) (updateRoomNotFound newRoomId)
    require newRoom.usable (roomUnavailable newRoomId)
    let expected := meeting.expectedAttendeeCount.getD 0
    let attendeeCount := if expected ≠ 0 then expected else (s.participantIds meetingId).length
    let capacity := newRoom.capacity.getD 0
    require (attendeeCount ≤ capacity) (roomCapacityInsufficient newRoomId capacity attendeeCount)
    pure newRoomId

structure Slot where
  roomId : Nat
  startTime : Int
  endTime : Int
  deriving DecidableEq, Repr

def Slot.onMeeting (slot : Slot) (m : Meeting) : Meeting :=
  { m with startTime := slot.startTime, endTime := slot.endTime, roomId := some slot.roomId }

def Slot.onBooking (slot : Slot) (b : RoomBooking) : RoomBooking :=
  { b with
    roomId := slot.roomId
    reservedStartTime := slot.startTime
    reservedEndTime := slot.endTime }

def Slot.onRequest (slot : Slot) (r : MeetingRequest) : MeetingRequest :=
  { r with
    targetRoomId := some slot.roomId
    requestedStartTime := some slot.startTime
    requestedEndTime := some slot.endTime }

def Slot.booking (slot : Slot) (meetingId : Nat) (status : RoomBookingStatus) : RoomBooking :=
  ⟨meetingId, slot.roomId, slot.startTime, slot.endTime, status⟩

def Slot.request (slot : Slot) (meetingId userId : Nat) (requestType : MeetingRequestType) :
    MeetingRequest where
  meetingId := some meetingId
  requestType := requestType
  requestedBy := userId
  targetRoomId := some slot.roomId
  requestedStartTime := some slot.startTime
  requestedEndTime := some slot.endTime
  approvalStatus := .pending

/-- Branch 1b of `updateMeetingTime`: the meeting, its booking and its pending
    request all move, whatever the status of the booking. -/
def editPendingTime (cfg : Config) (meetingId : Nat) (slot : Slot)
    (activeBooking : Option (Nat × RoomBooking)) (s : Store) : Except ApiError Store := do
  let bookings ← match activeBooking with
    | some (bookingId, _) => do
      let booking ← expect (s.bookings.get? bookingId) bookingRecordMissing
      require (s.roomConflicts cfg.bufferMs slot.roomId (some bookingId)
        slot.startTime slot.endTime = []) roomTimeConflictAtCommit
      pure (s.bookings.save bookingId (slot.onBooking booking))
    | none => pure (s.bookings.insert (slot.booking meetingId .pending))
  let (requestId, pendingRequest) ←
    expect (s.requests.findOne (pendingOf meetingId)) (pendingRequestNotFound meetingId)
  pure { s with
    bookings := bookings
    meetings := s.meetings.update meetingId slot.onMeeting
    requests := s.requests.save requestId (slot.onRequest pendingRequest) }

def requestChange (meetingId userId : Nat) (requestType : MeetingRequestType) (slot : Slot)
    (s : Store) : Store :=
  { s with
    requests := s.requests.insert (slot.request meetingId userId requestType)
    meetings := s.meetings.update meetingId fun m => { m with status := .pendingApproval } }

def updateMeetingTime (cfg : Config) (dir : Directory) (now : Int) (meetingId : Nat)
    (dto : UpdateMeetingTimeDto) (userId : Nat) (s : Store) : Except ApiError Store := do
  let meeting ← expect (s.findMeeting meetingId) (meetingNotFound meetingId)
  require (meeting.status = .pendingApproval ∨ meeting.status = .scheduled)
    (meetingStatusNotEditable meetingId meeting.status)
  require (userId = meeting.organizerId ∨ some userId = meeting.hostId)
    (timeUpdateForbidden meetingId)
  let newStartTime ← expect dto.startTime invalidDateFormat
  let newEndTime ← expect dto.endTime invalidDateFormat
  require (newStartTime < newEndTime) invalidTimeRange
  require (now < newStartTime ∧ now < newEndTime) meetingTimeInPast
  let durationMs := newEndTime - newStartTime
  require (15 * minuteMs ≤ durationMs ∧ durationMs ≤ 480 * minuteMs) durationOutOfRange
  let roomId ← expect meeting.roomId (noRoomAssigned meetingId)
  let targetRoomId ← resolveTargetRoom dir s meetingId meeting roomId dto.newRoomId
  let activeBooking := s.bookings.findOne (ofMeeting meetingId RoomBookingStatus.isLive)
  let conflicts := s.roomConflicts cfg.bufferMs targetRoomId (activeBooking.map Prod.fst)
    newStartTime newEndTime
  require (conflicts = []) (roomTimeConflict targetRoomId (conflicts.map Prod.fst))
  let busy := s.participantTimeConflicts meetingId newStartTime newEndTime
  require (busy = [] ∨ dto.overrideParticipantConflict) (participantTimeConflict busy)
  -- the transaction reads the meeting again, under its lock
  let lockedMeeting ← expect (s.findMeeting meetingId) (statusChangedTimeEdit meetingId)
  require (lockedMeeting.status = .pendingApproval ∨ lockedMeeting.status = .scheduled)
    (statusChangedTimeEdit meetingId)
  let slot : Slot := ⟨targetRoomId, newStartTime, newEndTime⟩
  if lockedMeeting.status = .pendingApproval then
    editPendingTime cfg meetingId slot activeBooking s
  else
    pure (requestChange meetingId userId .updateTime slot s)

def unreleasedIn (meetingId roomId : Nat) : Nat × RoomBooking → Bool :=
  fun r => r.2.meetingId = meetingId ∧ r.2.roomId = roomId ∧ r.2.status ≠ .released

def release (b : RoomBooking) : RoomBooking := { b with status := .released }

/-- Branch 1b of `updateMeetingRoom`: the bookings in the old room are released and
    a new one is made, which starts out as PENDING. -/
def editPendingRoom (meetingId oldRoomId : Nat) (slot : Slot) (s : Store) :
    Except ApiError Store := do
  let released := s.bookings.updateWhere (unreleasedIn meetingId oldRoomId) release
  let (requestId, pendingRequest) ←
    expect (s.requests.findOne (pendingOf meetingId)) (pendingRequestNotFound meetingId)
  pure { s with
    bookings := released.insert (slot.booking meetingId .pending)
    meetings := s.meetings.update meetingId fun m => { m with roomId := some slot.roomId }
    requests := s.requests.save requestId (slot.onRequest pendingRequest) }

def updateMeetingRoom (cfg : Config) (dir : Directory) (now : Int) (meetingId : Nat)
    (dto : UpdateMeetingRoomDto) (userId : Nat) (s : Store) : Except ApiError Store := do
  let meeting ← expect (s.findMeeting meetingId) (meetingNotFound meetingId)
  require (meeting.status = .pendingApproval ∨ meeting.status = .scheduled)
    (invalidMeetingStatus meetingId meeting.status)
  require (now < meeting.startTime) (roomChangeAfterStart meetingId)
  require (meeting.recurrenceRuleId = none ∨ meeting.parentMeetingId ≠ none)
    (recurringSeriesNotSupported meetingId)
  require (meeting.organizerId = userId ∨ meeting.hostId = some userId ∨
    dir.hasPermission userId "meeting.room.update") (roomUpdateForbidden meetingId)
  let roomId ← expect meeting.roomId (noRoomAssigned meetingId)
  require (dto.newRoomId ≠ roomId) (sameRoom roomId)
  let newRoom ← expect (dir.room dto.newRoomId) (newRoomUnavailable dto.newRoomId)
  require newRoom.usable (newRoomUnavailable dto.newRoomId)
  let capacity ← expect newRoom.capacity (capacityNotConfigured dto.newRoomId)
  let attendeeCount := getAttendeeCount s meetingId
  require (attendeeCount ≤ capacity ∨ dto.confirmCapacityOverride)
    (roomCapacityWarning capacity attendeeCount)
  let oldBooking := s.bookings.findOne fun r =>
    r.2.meetingId = meetingId ∧ r.2.roomId = roomId ∧ r.2.status.isLive
  require (s.roomConflicts cfg.bufferMs dto.newRoomId (oldBooking.map Prod.fst)
    meeting.startTime meeting.endTime = []) (newRoomConflict dto.newRoomId)
  -- the transaction reads the meeting again, under its lock
  let lockedMeeting ← expect (s.findMeeting meetingId) (statusChangedRoomEdit meetingId)
  require (lockedMeeting.status = .pendingApproval ∨ lockedMeeting.status = .scheduled)
    (statusChangedRoomEdit meetingId)
  require (lockedMeeting.roomId = meeting.roomId) (roomAlreadyChanged meetingId)
  let slot : Slot := ⟨dto.newRoomId, meeting.startTime, meeting.endTime⟩
  if lockedMeeting.status = .pendingApproval then
    editPendingRoom meetingId roomId slot s
  else
    pure (requestChange meetingId userId .updateRoom slot s)

end MeetingBooking
