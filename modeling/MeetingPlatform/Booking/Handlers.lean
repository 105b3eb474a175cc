import MeetingPlatform.Booking.Dossier

/- What a call that succeeds has found and what it has written, handler by handler.
   Later proofs cite these lemmas and do not unfold the handlers. -/
namespace MeetingBooking
open KeyedTable Guards

section Create

theorem create_ok {cfg : Config} {dir : Directory} {now : Int} {dto : CreateMeetingDto}
    {userId : Nat} {s s' : Store} (h : create cfg dir now dto userId s = .ok s') :
    ∃ plan : CreatePlan, checkCreate cfg dir now dto userId s = .ok plan ∧
      s' = commitCreate plan s := by
  simp only [create, bind_eq_ok, pure_eq_ok] at h
  obtain ⟨plan, checked, rfl⟩ := h
  exact ⟨plan, checked, rfl⟩

theorem checkCreate_ok {cfg : Config} {dir : Directory} {now : Int} {dto : CreateMeetingDto}
    {userId : Nat} {s : Store} {plan : CreatePlan}
    (h : checkCreate cfg dir now dto userId s = .ok plan) :
    plan.dto = dto ∧ plan.isAutoApprovable = dir.approverIds.contains userId ∧
      dto.startTime < dto.endTime ∧
      s.roomConflicts cfg.bufferMs dto.roomId none dto.startTime dto.endTime = [] := by
  simp only [checkCreate, bind_eq_ok, expect_eq_ok, require_eq_ok, pure_eq_ok] at h
  obtain ⟨-, lasts, -, -, room, -, -, -, -, -, -, -, -, -, -, free, -, -, -, -, rfl⟩ := h
  exact ⟨rfl, rfl, lasts, free⟩

end Create

section Review

structure Opened (s : Store) (requestId userId : Nat) (v : Review) : Prop where
  named : v.requestId = requestId
  request_row : s.requests.get? requestId = some v.request
  supported : v.request.requestType ∈ supportedRequestTypes
  pending : v.request.approvalStatus = .pending
  of_meeting : v.request.meetingId = some v.meetingId
  meeting_row : s.findMeeting v.meetingId = some v.meeting
  awaiting : v.meeting.status = .pendingApproval
  newest : s.bookings.findNewest (ofMeeting v.meetingId RoomBookingStatus.isLive) =
    some (v.bookingId, v.booking)
  expected : v.booking.status ∈ expectedBookingStatuses v.request.requestType
  third_party : v.request.requestedBy ≠ userId ∧ v.meeting.organizerId ≠ userId

theorem openReview_ok {s : Store} {requestId userId : Nat} {roomNeeded : Bool}
    {badBooking : RoomBookingStatus → ApiError} {v : Review} :
    openReview requestId userId roomNeeded badBooking s = .ok v ↔
      Opened s requestId userId v ∧
        (roomNeeded = false ∨ v.meeting.roomId ≠ none ∨ v.request.targetRoomId ≠ none) := by
  simp only [openReview, bind_eq_ok, expect_eq_ok, require_eq_ok, pure_eq_ok]
  constructor
  · rintro ⟨request, row, -, supported, -, pending, meetingId, of_meeting, meeting, meeting_row, -,
      awaiting, -, room, ⟨bookingId, booking⟩, newest, -, expected, -, third_party, rfl⟩
    exact ⟨⟨rfl, row, supported, pending, of_meeting, meeting_row, awaiting, newest, expected,
      third_party⟩, room⟩
  · rintro ⟨⟨rfl, row, supported, pending, of_meeting, meeting_row, awaiting, newest, expected,
      third_party⟩, room⟩
    exact ⟨v.request, row, (), supported, (), pending, v.meetingId, of_meeting, v.meeting,
      meeting_row, (), awaiting, (), room, (v.bookingId, v.booking), newest, (), expected, (),
      third_party, rfl⟩

/-- The slot an approval aims at: what the request asks for, else what the meeting has. -/
def Review.AimsAt (v : Review) (target : Slot) : Prop :=
  (v.request.targetRoomId <|> v.meeting.roomId) = some target.roomId ∧
    v.request.requestedStartTime.getD v.meeting.startTime = target.startTime ∧
    v.request.requestedEndTime.getD v.meeting.endTime = target.endTime

theorem readApproval_ok {cfg : Config} {now : Int} {requestId userId : Nat} {s : Store}
    {plan : ApprovalPlan} (h : readApproval cfg now requestId userId s = .ok plan) :
    Opened s requestId userId plan.review ∧ plan.review.AimsAt plan.target ∧
      now < plan.target.startTime ∧
      s.roomConflicts cfg.bufferMs plan.target.roomId (some plan.review.bookingId)
        plan.target.startTime plan.target.endTime = [] := by
  simp only [readApproval, bind_eq_ok, expect_eq_ok, require_eq_ok, pure_eq_ok, openReview_ok] at h
  obtain ⟨v, ⟨opened, -⟩, roomId, room, -, future, -, free, rfl⟩ := h
  exact ⟨opened, ⟨room, rfl, rfl⟩, future, free⟩

theorem approve_ok {cfg : Config} {now : Int} {requestId userId : Nat} {s s' : Store}
    (h : approve cfg now requestId userId s = .ok s') :
    ∃ plan, readApproval cfg now requestId userId s = .ok plan ∧ s' = commitApproval plan s := by
  simp only [approve, bind_eq_ok, pure_eq_ok] at h
  obtain ⟨plan, read, rfl⟩ := h
  exact ⟨plan, read, rfl⟩

/-- The writes of a closing that does not grant the request. -/
def turnDown (s : Store) (requestId : Nat) (request : MeetingRequest) (meetingId : Nat)
    (meeting : Meeting) (closed : ApprovalStatus) (bookings : Table RoomBooking) : Store :=
  { s with
    requests := s.requests.save requestId { request with approvalStatus := closed }
    meetings := s.meetings.save meetingId
      { meeting with status := if request.requestType.isUpdate then .scheduled else .cancelled }
    bookings := if request.requestType.isUpdate then s.bookings else bookings }

theorem reject_ok {requestId userId : Nat} {s s' : Store} :
    reject requestId userId s = .ok s' ↔
      ∃ v, Opened s requestId userId v ∧
        s' = turnDown s requestId v.request v.meetingId v.meeting .rejected
          (s.bookings.save v.bookingId { v.booking with status := .cancelled }) := by
  simp only [reject, bind_eq_ok, openReview_ok, true_or, and_true]
  constructor
  · rintro ⟨v, opened, written⟩
    refine ⟨v, opened, ?_⟩
    unfold turnDown
    cases type : v.request.requestType.isUpdate with
    | true =>
      simp only [type, if_true, pure_eq_ok] at written
      simpa using written.symm
    | false =>
      simp only [type, Bool.false_eq_true, if_false, pure_eq_ok] at written
      simpa using written.symm
  · rintro ⟨v, opened, rfl⟩
    refine ⟨v, opened, ?_⟩
    unfold turnDown
    cases type : v.request.requestType.isUpdate <;> simp

theorem expireOne_some {requestId : Nat} {s s' : Store} (h : expireOne requestId s = some s') :
    ∃ r i m, s.requests.get? requestId = some r ∧ r.approvalStatus = .pending ∧
      r.meetingId = some i ∧ s.findMeeting i = some m ∧ m.status = .pendingApproval ∧
      s' = turnDown s requestId r i m .expired (cancelNewestBooking i s) := by
  simp only [expireOne, Option.bind_eq_bind, Option.bind_eq_some_iff, Option.guard_eq_some'] at h
  obtain ⟨r, row, -, pending, i, mine, m, found, -, awaiting, written⟩ := h
  refine ⟨r, i, m, row, pending, mine, found, awaiting, ?_⟩
  unfold turnDown
  cases type : r.requestType.isUpdate with
  | true => simpa [type] using written.symm
  | false => simpa [type] using written.symm

end Review

section Edits
variable {cfg : Config} {dir : Directory} {now : Int} {i userId : Nat} {s s' : Store}

/-- Where a time edit moves a meeting that sits in `roomId`. -/
def UpdateMeetingTimeDto.target (dto : UpdateMeetingTimeDto) (roomId : Nat) : Option Slot :=
  match dto.startTime, dto.endTime with
  | some startTime, some endTime => some ⟨dto.newRoomId.getD roomId, startTime, endTime⟩
  | _, _ => none

theorem resolveTargetRoom_ok {m : Meeting} {roomId target : Nat} {newRoomId : Option Nat}
    (h : resolveTargetRoom dir s i m roomId newRoomId = .ok target) :
    target = newRoomId.getD roomId := by
  cases newRoomId with
  | none => exact (pure_eq_ok.mp h).symm
  | some other =>
    simp only [resolveTargetRoom, bind_eq_ok, expect_eq_ok, require_eq_ok, pure_eq_ok] at h
    obtain ⟨-, -, -, -, -, -, rfl⟩ := h
    rfl

theorem updateMeetingTime_ok {dto : UpdateMeetingTimeDto}
    (h : updateMeetingTime cfg dir now i dto userId s = .ok s') :
    ∃ m roomId slot, s.findMeeting i = some m ∧ m.roomId = some roomId ∧
      dto.target roomId = some slot ∧ slot.lasts ∧
      s.roomConflicts cfg.bufferMs slot.roomId
        ((s.bookings.findOne (ofMeeting i RoomBookingStatus.isLive)).map Prod.fst)
        slot.startTime slot.endTime = [] ∧
      (m.status = .pendingApproval ∧ editPendingTime cfg i slot
          (s.bookings.findOne (ofMeeting i RoomBookingStatus.isLive)) s = .ok s' ∨
        m.status = .scheduled ∧ s' = requestChange i userId .updateTime slot s) := by
  simp only [updateMeetingTime, bind_eq_ok, expect_eq_ok, require_eq_ok] at h
  obtain ⟨m, found, -, status, -, -, startTime, start, endTime, finish, -, lasts, -, -, -, -,
    roomId, room, target, resolved, -, free, -, -, locked, again, -, -, written⟩ := h
  obtain rfl : m = locked := Option.some.inj (found.symm.trans again)
  obtain rfl := resolveTargetRoom_ok resolved
  refine ⟨m, roomId, ⟨dto.newRoomId.getD roomId, startTime, endTime⟩, found, room, ?_, lasts,
    free, ?_⟩
  · simp [UpdateMeetingTimeDto.target, start, finish]
  · split at written
    · rename_i awaiting
      exact Or.inl ⟨awaiting, written⟩
    · rename_i settled
      exact Or.inr ⟨status.resolve_left settled, (pure_eq_ok.mp written).symm⟩

theorem editPendingTime_ok {slot : Slot} {k : Nat} {b : RoomBooking} (row : s.bookings.get? k = some b)
    (h : editPendingTime cfg i slot (some (k, b)) s = .ok s') :
    ∃ q r, s.requests.findOne (pendingOf i) = some (q, r) ∧
      s' = { s with
        bookings := s.bookings.save k (slot.onBooking b)
        meetings := s.meetings.update i slot.onMeeting
        requests := s.requests.save q (slot.onRequest r) } := by
  simp only [editPendingTime, bind_eq_ok, expect_eq_ok, require_eq_ok, pure_eq_ok] at h
  obtain ⟨found, again, -, -, -, rfl, ⟨q, r⟩, request, rfl⟩ := h
  have same : b = found := Option.some.inj (row.symm.trans again)
  subst same
  exact ⟨q, r, request, rfl⟩

theorem editPendingTime_unbooked_ok {slot : Slot} (h : editPendingTime cfg i slot none s = .ok s') :
    ∃ q r, s.requests.findOne (pendingOf i) = some (q, r) ∧
      s' = { s with
        bookings := s.bookings.insert (slot.booking i .pending)
        meetings := s.meetings.update i slot.onMeeting
        requests := s.requests.save q (slot.onRequest r) } := by
  simp only [editPendingTime, bind_eq_ok, expect_eq_ok, pure_eq_ok] at h
  obtain ⟨-, rfl, ⟨q, r⟩, request, rfl⟩ := h
  exact ⟨q, r, request, rfl⟩

theorem updateMeetingRoom_ok {dto : UpdateMeetingRoomDto}
    (h : updateMeetingRoom cfg dir now i dto userId s = .ok s') :
    ∃ m roomId, s.findMeeting i = some m ∧ m.roomId = some roomId ∧ dto.newRoomId ≠ roomId ∧
      (m.status = .pendingApproval ∧
          editPendingRoom i roomId ⟨dto.newRoomId, m.startTime, m.endTime⟩ s = .ok s' ∨
        m.status = .scheduled ∧
          s' = requestChange i userId .updateRoom ⟨dto.newRoomId, m.startTime, m.endTime⟩ s) := by
  simp only [updateMeetingRoom, bind_eq_ok, expect_eq_ok, require_eq_ok] at h
  obtain ⟨m, found, -, status, -, -, -, -, -, -, roomId, room, -, moved, -, -, -, -, -, -, -, -,
    -, -, locked, again, -, -, -, -, written⟩ := h
  obtain rfl : m = locked := Option.some.inj (found.symm.trans again)
  refine ⟨m, roomId, found, room, moved, ?_⟩
  split at written
  · rename_i awaiting
    exact Or.inl ⟨awaiting, written⟩
  · rename_i settled
    exact Or.inr ⟨status.resolve_left settled, (pure_eq_ok.mp written).symm⟩

theorem editPendingRoom_ok {roomId : Nat} {slot : Slot}
    (h : editPendingRoom i roomId slot s = .ok s') :
    ∃ q r, s.requests.findOne (pendingOf i) = some (q, r) ∧
      s' = { s with
        bookings := (s.bookings.updateWhere (unreleasedIn i roomId) release).insert
          (slot.booking i .pending)
        meetings := s.meetings.update i fun m => { m with roomId := some slot.roomId }
        requests := s.requests.save q (slot.onRequest r) } := by
  simp only [editPendingRoom, bind_eq_ok, expect_eq_ok, pure_eq_ok] at h
  obtain ⟨⟨q, r⟩, request, rfl⟩ := h
  exact ⟨q, r, request, rfl⟩

end Edits

section Live
variable {dir : Directory} {now : Int} {i userId : Nat} {s s' : Store}

theorem commitCancel_ok :
    commitCancel i s = .ok s' ↔ ∃ m, s.findMeeting i = some m ∧ m.status ≠ .cancelled ∧
      s' = { s with
        bookings := cancelFirstBooking i s
        meetings := s.meetings.update i fun m => { m with status := .cancelled } } := by
  simp only [commitCancel, bind_eq_ok, expect_eq_ok, require_eq_ok, pure_eq_ok]
  constructor
  · rintro ⟨m, found, -, open_yet, rfl⟩
    exact ⟨m, found, open_yet, rfl⟩
  · rintro ⟨m, found, open_yet, rfl⟩
    exact ⟨m, found, (), open_yet, rfl⟩

theorem checkCancel_ok {u : Unit} (h : checkCancel dir now i userId s = .ok u) :
    ∃ m, s.findMeeting i = some m ∧ m.status = .scheduled := by
  simp only [checkCancel, bind_eq_ok, expect_eq_ok, require_eq_ok] at h
  obtain ⟨m, found, -, -, -, status, -⟩ := h
  exact ⟨m, found, status⟩

theorem cancelMeeting_ok (h : cancelMeeting dir now i userId s = .ok s') :
    (∃ m, s.findMeeting i = some m ∧ m.status = .scheduled) ∧ commitCancel i s = .ok s' := by
  simp only [cancelMeeting, bind_eq_ok] at h
  obtain ⟨_, checked, written⟩ := h
  exact ⟨checkCancel_ok checked, written⟩

theorem validateMeetingCanStart_ok {m : Meeting} {u : Unit}
    (h : validateMeetingCanStart now m = .ok u) : m.status = .scheduled ∨ m.status = .inProgress := by
  unfold validateMeetingCanStart at h
  split at h <;> simp_all

theorem executeStart_ok (h : executeStartMeetingInTransaction now i s = .ok s') :
    ∃ m, s.findMeeting i = some m ∧ m.actualStartTime = none ∧
      (m.status = .scheduled ∨ m.status = .inProgress) ∧
      s' = { s with
        meetings := s.meetings.update i (started now)
        bookings := s.bookings.updateWhere (approvedOf (· = i)) activate } := by
  simp only [executeStartMeetingInTransaction, bind_eq_ok, expect_eq_ok, require_eq_ok,
    pure_eq_ok] at h
  obtain ⟨m, found, -, unstarted, _, valid, rfl⟩ := h
  exact ⟨m, found, unstarted, validateMeetingCanStart_ok valid, rfl⟩

theorem startMeeting_ok (h : startMeeting now i userId s = .ok s') :
    s' = s ∨ executeStartMeetingInTransaction now i s = .ok s' := by
  simp only [startMeeting, bind_eq_ok] at h
  obtain ⟨proceed, -, written⟩ := h
  cases proceed with
  | true => exact Or.inr written
  | false => exact Or.inl (pure_eq_ok.mp written).symm

theorem validateMeetingCanEnd_ok {m : Meeting} {u : Unit} (h : validateMeetingCanEnd m = .ok u) :
    m.status = .inProgress := by
  unfold validateMeetingCanEnd at h
  split at h <;> simp_all

theorem executeEnd_ok (h : executeEndMeetingInTransaction now i s = .ok s') :
    ∃ m, s.findMeeting i = some m ∧ m.status = .inProgress ∧
      s' = { s with
        meetings := s.meetings.update i (ended now)
        bookings := completeFirstBooking i s } := by
  simp only [executeEndMeetingInTransaction, bind_eq_ok, expect_eq_ok, require_eq_ok,
    pure_eq_ok] at h
  obtain ⟨m, found, -, -, _, valid, rfl⟩ := h
  exact ⟨m, found, validateMeetingCanEnd_ok valid, rfl⟩

theorem endMeeting_ok (h : endMeeting now i userId s = .ok s') :
    executeEndMeetingInTransaction now i s = .ok s' := by
  simp only [endMeeting, bind_eq_ok] at h
  obtain ⟨-, -, written⟩ := h
  exact written

end Live

section Extension
variable {cfg : Config} {i userId : Nat} {dto : ExtensionRequestDto} {s s' : Store}

theorem readExtensionMeeting_ok {basis : ExtensionBasis}
    (h : readExtensionMeeting i userId s = .ok basis) :
    ∃ m, s.findMeeting i = some m ∧ m.status = .inProgress ∧ m.roomId = some basis.roomId ∧
      m.endTime = basis.oldEndTime := by
  simp only [readExtensionMeeting, bind_eq_ok, expect_eq_ok, require_eq_ok, pure_eq_ok] at h
  obtain ⟨m, found, -, -, -, running, roomId, room, rfl⟩ := h
  exact ⟨m, found, running, room, rfl⟩

theorem readActiveBooking_ok {k : Nat} (h : readActiveBooking i s = .ok k) :
    ∃ b, s.bookings.findOne (ofMeeting i (· = .active)) = some (k, b) := by
  simp only [readActiveBooking, bind_eq_ok, expect_eq_ok, pure_eq_ok] at h
  obtain ⟨⟨k, b⟩, found, rfl⟩ := h
  exact ⟨b, found⟩

theorem handleAutoApplyPath_ok {basis : ExtensionBasis} {k : Nat} :
    handleAutoApplyPath basis i k userId dto s = .ok s' ↔
      ∃ m, s.findMeeting i = some m ∧ m.status = .inProgress ∧
        s' = { s with
          requests := s.requests.insert (basis.request i userId dto .applied)
          meetings := s.meetings.update i (extended (basis.requestedNewEndTime dto))
          bookings := s.bookings.update k (bookedUntil (basis.requestedNewEndTime dto)) } := by
  simp only [handleAutoApplyPath, bind_eq_ok, expect_eq_ok, require_eq_ok, pure_eq_ok]
  constructor
  · rintro ⟨m, found, -, running, rfl⟩
    exact ⟨m, found, running, rfl⟩
  · rintro ⟨m, found, running, rfl⟩
    exact ⟨m, found, (), running, rfl⟩

theorem requestExtension_ok (h : requestExtension cfg i dto userId s = .ok s') :
    ∃ basis k, readExtensionMeeting i userId s = .ok basis ∧ readActiveBooking i s = .ok k ∧
      (fitsBeforeNext cfg.policy basis dto k s = true ∧
          handleAutoApplyPath basis i k userId dto s = .ok s' ∨
        fitsBeforeNext cfg.policy basis dto k s = false ∧
          s' = handleRejectedPath basis i userId dto s) := by
  simp only [requestExtension, bind_eq_ok] at h
  obtain ⟨basis, read, -, -, k, active, written⟩ := h
  refine ⟨basis, k, read, active, ?_⟩
  cases fits : fitsBeforeNext cfg.policy basis dto k s with
  | true =>
    rw [fits, if_pos rfl] at written
    exact Or.inl ⟨rfl, written⟩
  | false =>
    rw [fits, if_neg Bool.false_ne_true, pure_eq_ok] at written
    exact Or.inr ⟨rfl, written.symm⟩

end Extension

end MeetingBooking
