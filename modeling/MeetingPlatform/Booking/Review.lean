import MeetingPlatform.Booking.Edits

/- MeetingRequestReviewService: a pending request is approved, rejected or left to
   expire. `approve` is cut where its transaction stops reading and starts writing. -/
namespace MeetingBooking
open KeyedTable Guards

structure Review where
  requestId : Nat
  request : MeetingRequest
  meetingId : Nat
  meeting : Meeting
  bookingId : Nat
  booking : RoomBooking

def expectedBookingStatuses (requestType : MeetingRequestType) : List RoomBookingStatus :=
  if requestType.isUpdate then [.approved, .active] else [.pending]

/-- The checks that `approve` and `reject` share; `roomNeeded` is the extra one of
    `approve`, made between the meeting and its booking. -/
def openReview (requestId userId : Nat) (roomNeeded : Bool)
    (badBooking : RoomBookingStatus → ApiError) (s : Store) : Except ApiError Review := do
  let request ← expect (s.requests.get? requestId) (requestNotFound requestId)
  require (request.requestType ∈ supportedRequestTypes) (unsupportedRequestType request.requestType)
  require (request.approvalStatus = .pending) (requestNotPending request.approvalStatus)
  let meetingId ← expect request.meetingId (relatedMeetingNotFound none)
  let meeting ← expect (s.findMeeting meetingId) (relatedMeetingNotFound (some meetingId))
  require (meeting.status = .pendingApproval) (meetingNotPending meeting.status)
  require (roomNeeded = false ∨ meeting.roomId ≠ none ∨ request.targetRoomId ≠ none)
    (meetingRoomRemoved meetingId)
  let (bookingId, booking) ←
    expect (s.bookings.findNewest (ofMeeting meetingId RoomBookingStatus.isLive))
      (relatedBookingNotFound meetingId)
  require (booking.status ∈ expectedBookingStatuses request.requestType)
    (badBooking booking.status)
  require (request.requestedBy ≠ userId ∧ meeting.organizerId ≠ userId) selfApprovalNotAllowed
  pure ⟨requestId, request, meetingId, meeting, bookingId, booking⟩

structure ApprovalPlan where
  review : Review
  target : Slot

def readApproval (cfg : Config) (now : Int) (requestId userId : Nat) (s : Store) :
    Except ApiError ApprovalPlan := do
  let review ← openReview requestId userId true bookingNotApprovable s
  let targetRoomId ← expect (review.request.targetRoomId <|> review.meeting.roomId)
    (meetingRoomRemoved review.meetingId)
  let targetStartTime := review.request.requestedStartTime.getD review.meeting.startTime
  let targetEndTime := review.request.requestedEndTime.getD review.meeting.endTime
  require (now < targetStartTime) (requestExpired requestId targetStartTime)
  let conflicts := s.roomConflicts cfg.bufferMs targetRoomId (some review.bookingId)
    targetStartTime targetEndTime
  require (conflicts = []) (approveRoomConflict (conflicts.map Prod.fst))
  pure ⟨review, ⟨targetRoomId, targetStartTime, targetEndTime⟩⟩

def approvedStatus (status : RoomBookingStatus) : RoomBookingStatus :=
  if status = .pending then .approved else status

def ApprovalPlan.booking (plan : ApprovalPlan) : RoomBooking :=
  { plan.target.onBooking plan.review.booking with
    status := approvedStatus plan.review.booking.status }

def commitApproval (plan : ApprovalPlan) (s : Store) : Store :=
  { s with
    requests := s.requests.save plan.review.requestId
      { plan.review.request with approvalStatus := .approved }
    meetings := s.meetings.save plan.review.meetingId
      { plan.target.onMeeting plan.review.meeting with status := .scheduled }
    bookings := s.bookings.save plan.review.bookingId plan.booking }

def approve (cfg : Config) (now : Int) (requestId userId : Nat) (s : Store) :
    Except ApiError Store := do
  let plan ← readApproval cfg now requestId userId s
  pure (commitApproval plan s)

/-- An UPDATE request leaves meeting and booking as they are, as its change was never applied; a
    CREATE_MEETING request takes both down. -/
def reject (requestId userId : Nat) (s : Store) : Except ApiError Store := do
  let review ← openReview requestId userId false bookingNotRejectable s
  let requests := s.requests.save requestId { review.request with approvalStatus := .rejected }
  if review.request.requestType.isUpdate then
    pure { s with
      requests := requests
      meetings := s.meetings.save review.meetingId { review.meeting with status := .scheduled } }
  else
    pure { s with
      requests := requests
      meetings := s.meetings.save review.meetingId { review.meeting with status := .cancelled }
      bookings := s.bookings.save review.bookingId { review.booking with status := .cancelled } }

def cancelNewestBooking (meetingId : Nat) (s : Store) : Table RoomBooking :=
  match s.bookings.findNewest (ofMeeting meetingId RoomBookingStatus.isLive) with
  | some (bookingId, booking) => s.bookings.save bookingId { booking with status := .cancelled }
  | none => s.bookings

/-- `none` where the source returns false and writes nothing. Neither the type nor
    the booking of the request is checked. -/
def expireOne (requestId : Nat) (s : Store) : Option Store := do
  let request ← s.requests.get? requestId
  guard (request.approvalStatus = .pending)
  let meetingId ← request.meetingId
  let meeting ← s.findMeeting meetingId
  guard (meeting.status = .pendingApproval)
  let requests := s.requests.save requestId { request with approvalStatus := .expired }
  if request.requestType.isUpdate then
    pure { s with
      requests := requests
      meetings := s.meetings.save meetingId { meeting with status := .scheduled } }
  else
    pure { s with
      requests := requests
      meetings := s.meetings.save meetingId { meeting with status := .cancelled }
      bookings := cancelNewestBooking meetingId s }

end MeetingBooking
