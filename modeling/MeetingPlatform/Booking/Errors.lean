import MeetingPlatform.Booking.Store

/- The exceptions of the meeting services, with the codes, texts and detail fields
   they send to the client. -/
namespace MeetingBooking

inductive HttpException where
  | badRequest | forbidden | notFound | conflict | unprocessableEntity
  deriving DecidableEq, Repr

inductive Detail where
  | text (value : String)
  | id (value : Nat)
  | ids (values : List Nat)
  | number (value : Int)
  | flag (value : Bool)
  | amount (value : Rat)
  deriving DecidableEq, Repr

structure ApiError where
  exception : HttpException
  code : String
  message : String
  details : List (String × Detail) := []
  deriving DecidableEq, Repr

def MeetingStatus.wire : MeetingStatus → String
  | .draft => "draft"
  | .pendingApproval => "pending_approval"
  | .scheduled => "scheduled"
  | .inProgress => "in_progress"
  | .completed => "completed"
  | .cancelled => "cancelled"

def RoomBookingStatus.wire : RoomBookingStatus → String
  | .pending => "pending"
  | .approved => "approved"
  | .active => "active"
  | .completed => "completed"
  | .cancelled => "cancelled"
  | .released => "released"

def ApprovalStatus.wire : ApprovalStatus → String
  | .pending => "pending"
  | .approved => "approved"
  | .rejected => "rejected"
  | .applied => "applied"
  | .cancelled => "cancelled"
  | .expired => "expired"

def MeetingRequestType.wire : MeetingRequestType → String
  | .createMeeting => "create_meeting"
  | .updateTime => "update_time"
  | .updateRoom => "update_room"
  | .cancelMeeting => "cancel_meeting"
  | .extendMeeting => "extend_meeting"
  | .bookRoom => "book_room"

def quoted (s : String) : String := "\"" ++ s ++ "\""

section MeetingsService

def endBeforeStart : ApiError :=
  ⟨.badRequest, "VALIDATION_ERROR", "Thời gian kết thúc phải sau thời gian bắt đầu",
    [("field", .text "endTime")]⟩

def startInPast : ApiError :=
  ⟨.badRequest, "VALIDATION_ERROR", "Thời gian bắt đầu không được nằm trong quá khứ",
    [("field", .text "startTime")]⟩

def createRoomNotFound (roomId : Nat) : ApiError :=
  ⟨.notFound, "ROOM_NOT_FOUND", "Phòng họp không tồn tại hoặc không khả dụng",
    [("roomId", .id roomId)]⟩

def hostNotFound : ApiError :=
  ⟨.notFound, "RESOURCE_NOT_FOUND", "Người chủ trì không tồn tại hoặc không hoạt động",
    [("field", .text "hostId")]⟩

def invalidParticipants (ids : List Nat) : ApiError :=
  ⟨.badRequest, "VALIDATION_ERROR", "Một số người tham dự không tồn tại hoặc không hoạt động",
    [("invalidParticipantIds", .ids ids)]⟩

def participantRoleNotAllowed (ids : List Nat) : ApiError :=
  ⟨.badRequest, "PARTICIPANT_ROLE_NOT_ALLOWED",
    "Không thể mời tài khoản Business Admin / System Admin tham gia cuộc họp",
    [("invalidParticipantIds", .ids ids)]⟩

def createRoomConflict (bookingIds : List Nat) : ApiError :=
  ⟨.conflict, "ROOM_CONFLICT",
    "Phòng họp này vừa được đặt. Vui lòng chọn một phòng khác hoặc đổi khung giờ.",
    (bookingIds.head?.map fun i => ("conflictingBookingId", Detail.id i)).toList⟩

def roomHasFaultyEquipment (equipmentIds : List Nat) : ApiError :=
  ⟨.unprocessableEntity, "ROOM_HAS_FAULTY_EQUIPMENT",
    "Phòng này đang có thiết bị hỏng, bạn có muốn tiếp tục đặt phòng không?",
    [("blocking", .flag false), ("requiresConfirmation", .flag true),
      ("faultyEquipments", .ids equipmentIds)]⟩

def capacityExceeded (capacity total : Nat) : ApiError :=
  ⟨.unprocessableEntity, "CAPACITY_EXCEEDED",
    "Số lượng người tham dự vượt quá sức chứa của phòng",
    [("roomCapacity", .number capacity), ("totalParticipants", .number total),
      ("capacityOverrideConfirmed", .flag false)]⟩

def meetingNotFound (meetingId : Nat) : ApiError :=
  ⟨.notFound, "MEETING_NOT_FOUND", "Cuộc họp không tồn tại hoặc đã bị xóa",
    [("meetingId", .id meetingId)]⟩

def meetingStatusNotEditable (meetingId : Nat) (status : MeetingStatus) : ApiError :=
  ⟨.conflict, "MEETING_STATUS_NOT_EDITABLE",
    "Không thể thay đổi thời gian cho cuộc họp đang ở trạng thái " ++ quoted status.wire ++ ".",
    [("meetingId", .id meetingId), ("currentStatus", .text status.wire)]⟩

def timeUpdateForbidden (meetingId : Nat) : ApiError :=
  ⟨.forbidden, "MEETING_TIME_UPDATE_FORBIDDEN",
    "Bạn không có quyền thay đổi thời gian cuộc họp này.", [("meetingId", .id meetingId)]⟩

def invalidDateFormat : ApiError :=
  ⟨.unprocessableEntity, "INVALID_DATE_FORMAT", "Định dạng thời gian không hợp lệ", []⟩

def invalidTimeRange : ApiError :=
  ⟨.unprocessableEntity, "INVALID_TIME_RANGE",
    "Thời gian bắt đầu phải trước thời gian kết thúc", []⟩

def meetingTimeInPast : ApiError :=
  ⟨.unprocessableEntity, "MEETING_TIME_IN_PAST",
    "Không thể dời lịch họp về thời điểm trong quá khứ", []⟩

def durationOutOfRange : ApiError :=
  ⟨.unprocessableEntity, "MEETING_DURATION_OUT_OF_RANGE",
    "Thời lượng cuộc họp phải từ 15 phút đến 8 giờ", []⟩

def noRoomAssigned (meetingId : Nat) : ApiError :=
  ⟨.conflict, "MEETING_NO_ROOM_ASSIGNED",
    "Cuộc họp không có phòng họp. Vui lòng liên hệ quản trị viên.",
    [("meetingId", .id meetingId)]⟩

def updateRoomNotFound (roomId : Nat) : ApiError :=
  ⟨.notFound, "ROOM_NOT_FOUND", "Phòng họp không tồn tại", [("roomId", .id roomId)]⟩

def roomUnavailable (roomId : Nat) : ApiError :=
  ⟨.conflict, "ROOM_NOT_AVAILABLE", "Phòng họp không khả dụng", [("roomId", .id roomId)]⟩

def roomCapacityInsufficient (roomId : Nat) (capacity : Nat) (required : Nat) : ApiError :=
  ⟨.conflict, "ROOM_CAPACITY_INSUFFICIENT", "Phòng họp được chọn không đủ sức chứa",
    [("roomId", .id roomId), ("roomCapacity", .number capacity),
      ("requiredCapacity", .number required)]⟩

def roomTimeConflict (roomId : Nat) (conflicts : List Nat) : ApiError :=
  ⟨.conflict, "ROOM_TIME_CONFLICT",
    "Phòng họp không khả dụng trong khung giờ mới.",
    [("blocking", .flag true), ("conflictedRoomId", .id roomId), ("conflicts", .ids conflicts)]⟩

def roomTimeConflictAtCommit : ApiError :=
  ⟨.conflict, "ROOM_TIME_CONFLICT",
    "Phòng họp không khả dụng trong khung giờ mới (xung đột tại thời điểm xác nhận).",
    [("blocking", .flag true)]⟩

def participantTimeConflict (userIds : List Nat) : ApiError :=
  ⟨.conflict, "PARTICIPANT_TIME_CONFLICT_WARNING",
    "Khung giờ mới trùng lịch với một hoặc nhiều người tham gia. Vui lòng xác nhận nếu vẫn muốn tiếp tục.",
    [("blocking", .flag false), ("requiresConfirmation", .flag true), ("conflicts", .ids userIds)]⟩

def statusChangedTimeEdit (meetingId : Nat) : ApiError :=
  ⟨.conflict, "MEETING_STATUS_NOT_EDITABLE", "Cuộc họp đã thay đổi trạng thái. Vui lòng thử lại.",
    [("meetingId", .id meetingId)]⟩

def bookingRecordMissing : ApiError :=
  ⟨.notFound, "ROOM_NOT_FOUND", "Booking record không tồn tại", []⟩

def pendingRequestNotFound (meetingId : Nat) : ApiError :=
  ⟨.conflict, "PENDING_REQUEST_NOT_FOUND",
    "Không tìm thấy yêu cầu đang chờ duyệt cho cuộc họp này. Vui lòng liên hệ quản trị viên.",
    [("meetingId", .id meetingId)]⟩

def invalidMeetingStatus (meetingId : Nat) (status : MeetingStatus) : ApiError :=
  ⟨.conflict, "INVALID_MEETING_STATUS",
    "Không thể đổi phòng cho cuộc họp đang ở trạng thái " ++ quoted status.wire ++ ".",
    [("meetingId", .id meetingId), ("currentStatus", .text status.wire)]⟩

def roomChangeAfterStart (meetingId : Nat) : ApiError :=
  ⟨.conflict, "MEETING_ALREADY_STARTED",
    "Không thể đổi phòng trên hệ thống khi cuộc họp đã bắt đầu.", [("meetingId", .id meetingId)]⟩

def recurringSeriesNotSupported (meetingId : Nat) : ApiError :=
  ⟨.conflict, "RECURRING_SERIES_UPDATE_NOT_SUPPORTED",
    "Không thể đổi phòng cho cuộc họp định kỳ. Vui lòng thao tác trên từng cuộc họp cụ thể.",
    [("meetingId", .id meetingId)]⟩

def roomUpdateForbidden (meetingId : Nat) : ApiError :=
  ⟨.forbidden, "FORBIDDEN", "Bạn không có quyền cập nhật phòng họp cho cuộc họp này.",
    [("meetingId", .id meetingId)]⟩

def sameRoom (roomId : Nat) : ApiError :=
  ⟨.unprocessableEntity, "SAME_ROOM", "Phòng họp mới phải khác phòng họp hiện tại.",
    [("roomId", .id roomId)]⟩

def newRoomUnavailable (roomId : Nat) : ApiError :=
  ⟨.unprocessableEntity, "ROOM_NOT_AVAILABLE", "Phòng họp này hiện không khả dụng.",
    [("roomId", .id roomId)]⟩

def capacityNotConfigured (roomId : Nat) : ApiError :=
  ⟨.unprocessableEntity, "ROOM_CAPACITY_NOT_CONFIGURED",
    "Phòng họp được chọn chưa được cấu hình sức chứa.", [("roomId", .id roomId)]⟩

def roomCapacityWarning (capacity attendees : Nat) : ApiError :=
  ⟨.unprocessableEntity, "ROOM_CAPACITY_WARNING",
    "Sức chứa của phòng (" ++ toString capacity ++
      " người) nhỏ hơn số lượng người tham dự hiện tại (" ++ toString attendees ++
      " người). Bạn có chắc chắn muốn tiếp tục?",
    [("roomCapacity", .number capacity), ("attendeeCount", .number attendees),
      ("requiresConfirmation", .flag true)]⟩

def newRoomConflict (roomId : Nat) : ApiError :=
  ⟨.conflict, "ROOM_CONFLICT",
    "Phòng họp này vừa được đặt bởi người khác. Vui lòng chọn một phòng khả dụng khác.",
    [("roomId", .id roomId)]⟩

def statusChangedRoomEdit (meetingId : Nat) : ApiError :=
  ⟨.conflict, "INVALID_MEETING_STATUS", "Cuộc họp đã thay đổi trạng thái. Vui lòng thử lại.",
    [("meetingId", .id meetingId)]⟩

def roomAlreadyChanged (meetingId : Nat) : ApiError :=
  ⟨.conflict, "ROOM_ALREADY_CHANGED", "Phòng họp đã được thay đổi bởi người khác.",
    [("meetingId", .id meetingId)]⟩

def cancelForbidden (isOrganizer isHost : Bool) : ApiError :=
  ⟨.forbidden, "FORBIDDEN", "Bạn không có quyền hủy cuộc họp này",
    [("requiredPermission", .text "meeting.cancel.own or meeting.cancel.any"),
      ("isOrganizer", .flag isOrganizer), ("isHost", .flag isHost), ("isAdmin", .flag false)]⟩

def startedCannotCancel : String :=
  "Cuộc họp đã bắt đầu. Bạn không thể hủy mà chỉ có thể chọn 'Kết thúc sớm'."

def cancelStatusInvalid (meetingId : Nat) (status : MeetingStatus) : ApiError :=
  ⟨.conflict,
    if status = .inProgress then "MEETING_ALREADY_STARTED" else "INVALID_MEETING_STATUS",
    if status = .inProgress then startedCannotCancel
    else "Trạng thái cuộc họp không hợp lệ để thực hiện thao tác này.",
    [("meetingId", .id meetingId), ("currentStatus", .text status.wire)]⟩

def cancelAfterStart (meetingId : Nat) (startTime now : Int) : ApiError :=
  ⟨.conflict, "MEETING_ALREADY_STARTED", startedCannotCancel,
    [("meetingId", .id meetingId), ("startTime", .number startTime), ("currentTime", .number now)]⟩

def concurrentModification (meetingId : Nat) : ApiError :=
  ⟨.conflict, "CONCURRENT_MODIFICATION", "Cuộc họp đã được hủy bởi một yêu cầu khác",
    [("meetingId", .id meetingId)]⟩

end MeetingsService

section MeetingRequestReviewService

def requestNotFound (requestId : Nat) : ApiError :=
  ⟨.notFound, "RESOURCE_NOT_FOUND", "Không tìm thấy yêu cầu cuộc họp",
    [("entityType", .text "meeting_request"), ("entityId", .id requestId)]⟩

def unsupportedRequestType (requestType : MeetingRequestType) : ApiError :=
  ⟨.unprocessableEntity, "UNSUPPORTED_REQUEST_TYPE", "Loại yêu cầu không được hỗ trợ",
    [("requestType", .text requestType.wire)]⟩

def requestNotPending (status : ApprovalStatus) : ApiError :=
  ⟨.conflict, "INVALID_STATE", "Yêu cầu cuộc họp không còn trạng thái chờ duyệt",
    [("currentStatus", .text status.wire), ("expectedStatus", .text ApprovalStatus.pending.wire)]⟩

def relatedMeetingNotFound (meetingId : Option Nat) : ApiError :=
  ⟨.notFound, "RESOURCE_NOT_FOUND", "Không tìm thấy cuộc họp liên quan",
    ("entityType", .text "meeting") :: (meetingId.map fun i => ("entityId", Detail.id i)).toList⟩

def meetingNotPending (status : MeetingStatus) : ApiError :=
  ⟨.conflict, "INVALID_STATE", "Cuộc họp không còn trạng thái chờ phê duyệt",
    [("currentStatus", .text status.wire),
      ("expectedStatus", .text MeetingStatus.pendingApproval.wire)]⟩

def meetingRoomRemoved (meetingId : Nat) : ApiError :=
  ⟨.conflict, "MEETING_ROOM_REMOVED",
    "Phòng họp của cuộc họp này đã bị xóa khỏi hệ thống. Vui lòng yêu cầu người tổ chức chọn lại phòng trước khi duyệt.",
    [("meetingId", .id meetingId)]⟩

def relatedBookingNotFound (meetingId : Nat) : ApiError :=
  ⟨.notFound, "RESOURCE_NOT_FOUND", "Không tìm thấy booking phòng họp liên quan",
    [("entityType", .text "room_booking"), ("entityId", .id meetingId)]⟩

def bookingNotApprovable (status : RoomBookingStatus) : ApiError :=
  ⟨.conflict, "INVALID_STATE", "Booking phòng họp không còn ở trạng thái hợp lệ để duyệt",
    [("currentStatus", .text status.wire)]⟩

def bookingNotRejectable (status : RoomBookingStatus) : ApiError :=
  ⟨.conflict, "INVALID_STATE", "Booking phòng họp không còn ở trạng thái hợp lệ để từ chối",
    [("currentStatus", .text status.wire)]⟩

def selfApprovalNotAllowed : ApiError :=
  ⟨.forbidden, "SELF_APPROVAL_NOT_ALLOWED",
    "Bạn không thể tự duyệt yêu cầu cuộc họp do chính mình tạo", []⟩

def requestExpired (requestId : Nat) (deadline : Int) : ApiError :=
  ⟨.conflict, "REQUEST_EXPIRED", "Yêu cầu đã quá hạn (đã qua giờ họp), không thể duyệt.",
    [("requestId", .id requestId), ("deadline", .number deadline)]⟩

def approveRoomConflict (bookingIds : List Nat) : ApiError :=
  ⟨.conflict, "ROOM_CONFLICT", "Phòng họp đã có booking khác trong khung giờ này",
    [("conflictingBookings", .ids bookingIds)]⟩

end MeetingRequestReviewService

section LiveMeetingService

def startNotFound : ApiError := ⟨.notFound, "MEETING_NOT_FOUND", "Không tìm thấy cuộc họp", []⟩

def startForbidden : ApiError :=
  ⟨.forbidden, "FORBIDDEN", "Bạn không có quyền bắt đầu phiên họp này",
    [("required", .text "must be host or organizer of the meeting")]⟩

def alreadyStarted (meetingId : Nat) : ApiError :=
  ⟨.conflict, "MEETING_ALREADY_STARTED", "Cuộc họp đã được bắt đầu bởi một yêu cầu khác",
    [("meetingId", .id meetingId)]⟩

def startTooEarly (allowedFrom : Int) : ApiError :=
  ⟨.conflict, "MEETING_START_TOO_EARLY", "Chưa đến thời gian bắt đầu phiên họp",
    [("allowedFrom", .number allowedFrom)]⟩

def startWindowExpired (expiredAt : Int) : ApiError :=
  ⟨.conflict, "MEETING_START_WINDOW_EXPIRED", "Đã quá thời gian bắt đầu phiên họp",
    [("expiredAt", .number expiredAt)]⟩

def startAlreadyCompleted : ApiError :=
  ⟨.conflict, "MEETING_ALREADY_COMPLETED", "Cuộc họp đã kết thúc", []⟩

def startCancelled : ApiError := ⟨.conflict, "MEETING_CANCELLED", "Cuộc họp đã bị hủy", []⟩

def startPendingApproval : ApiError :=
  ⟨.conflict, "MEETING_PENDING_APPROVAL", "Cuộc họp đang chờ phê duyệt", []⟩

def startInDraft : ApiError :=
  ⟨.conflict, "MEETING_IN_DRAFT_STATUS", "Cuộc họp chưa được lên lịch", []⟩

def endNotFound : ApiError := ⟨.notFound, "MEETING_NOT_FOUND", "Khong tim thay cuoc hop", []⟩

def endForbidden : ApiError :=
  ⟨.forbidden, "PERMISSION_DENIED", "Ban khong co quyen ket thuc phien hop nay",
    [("required",
      .text "must be host or organizer of the meeting, or have meeting.session.end.any")]⟩

def endAlreadyCompleted : ApiError :=
  ⟨.conflict, "MEETING_ALREADY_COMPLETED", "Cuoc hop da ket thuc", []⟩

def endAlreadyEnded (meetingId : Nat) : ApiError :=
  ⟨.conflict, "MEETING_ALREADY_COMPLETED", "Cuoc hop da ket thuc truoc do",
    [("meetingId", .id meetingId)]⟩

def endedByAnother (meetingId : Nat) : ApiError :=
  ⟨.conflict, "MEETING_ALREADY_COMPLETED", "Cuoc hop da duoc ket thuc boi mot yeu cau khac",
    [("meetingId", .id meetingId)]⟩

def endCancelled : ApiError := ⟨.conflict, "MEETING_CANCELLED", "Cuoc hop da bi huy", []⟩

def endNotStarted : ApiError :=
  ⟨.conflict, "MEETING_NOT_STARTED", "Cuoc hop chua duoc bat dau", []⟩

def endNotInProgress (status : MeetingStatus) : ApiError :=
  ⟨.conflict, "MEETING_NOT_IN_PROGRESS", "Trang thai cuoc hop khong hop le de ket thuc",
    [("currentStatus", .text status.wire)]⟩

def extensionNotHost : ApiError :=
  ⟨.forbidden, "MEETING_EXTENSION_NOT_HOST", "Ban khong co quyen yeu cau gia han phien hop nay",
    [("required", .text "must be host of the meeting")]⟩

def extensionNotInProgress (status : MeetingStatus) : ApiError :=
  ⟨.conflict, "MEETING_EXTENSION_NOT_IN_PROGRESS", "Cuoc hop khong o trang thai in_progress",
    [("currentStatus", .text status.wire)]⟩

def extensionNoLongerInProgress : ApiError :=
  ⟨.conflict, "MEETING_EXTENSION_NOT_IN_PROGRESS", "Cuoc hop khong con o trang thai in_progress", []⟩

def extensionNoRoom (meetingId : Nat) : ApiError :=
  ⟨.conflict, "MEETING_HAS_NO_ROOM", "Cuoc hop khong co phong hop", [("meetingId", .id meetingId)]⟩

def extensionCountExceeded (current : Nat) (limit : Rat) : ApiError :=
  ⟨.conflict, "MEETING_EXTENSION_LIMIT_EXCEEDED", "Da vuot qua gioi han so lan gia han",
    [("currentCount", .number current), ("maxCount", .amount limit),
      ("limitType", .text "count")]⟩

def extensionMinutesExceeded (current requested : Nat) (limit : Rat) : ApiError :=
  ⟨.conflict, "MEETING_EXTENSION_LIMIT_EXCEEDED", "Da vuot qua gioi han tong thoi gian gia han",
    [("currentTotal", .number current), ("requested", .number requested),
      ("maxTotal", .amount limit), ("limitType", .text "total_minutes")]⟩

def extensionNoActiveBooking (meetingId : Nat) : ApiError :=
  ⟨.conflict, "MEETING_EXTENSION_NO_ACTIVE_BOOKING",
    "Khong tim thay phong dat active cho cuoc hop", [("meetingId", .id meetingId)]⟩

end LiveMeetingService

end MeetingBooking
