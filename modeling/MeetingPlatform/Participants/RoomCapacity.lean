import MeetingPlatform.Booking.Errors
import MeetingPlatform.Lib.CheckedCount

/- Internal participants are added to a meeting one at a time. A call counts who takes part and
   compares with the capacity of the room; a transaction inserts the row later. -/
namespace Participants
open LabelledRuns CallPools CheckedCounts Guards
open MeetingBooking (MeetingStatus HttpException)

section Rows

inductive VisibilityLevel where
  | privateLevel | internalLevel | departmentLevel | publicLevel
  deriving DecidableEq, Repr

inductive AccountStatus where
  | active | inactive | locked | pendingReset
  deriving DecidableEq, Repr

inductive ParticipantRole where
  | host | attendee | approver | noteTaker
  deriving DecidableEq, Repr

inductive InvitationStatus where
  | pending | accepted | declined | tentative
  deriving DecidableEq, Repr

structure Meeting where
  organizerId : Nat
  hostId : Option Nat
  roomId : Option Nat
  status : MeetingStatus
  visibilityLevel : VisibilityLevel
  deletedAt : Option Int := none
  deriving DecidableEq, Repr

structure Participant where
  userId : Nat
  participantRole : ParticipantRole
  invitationStatus : InvitationStatus
  attendanceRequired : Bool
  isRequired : Bool
  invitedBy : Option Nat
  deriving DecidableEq, Repr

/-- What the calls only read. `conflicts` are the times at which a user is busy while the meeting is
    on, `externalCount` is the number of external participants. -/
structure Surroundings where
  meetingId : Nat
  meeting : Option Meeting
  accountStatus : Nat → Option AccountStatus
  roleCodes : Nat → List String
  permissions : Nat → List String
  conflicts : Nat → List (String × String)
  capacities : Nat → Option Nat
  capacityConfig : Option String
  externalCount : Nat

structure ParticipantStore where
  surroundings : Surroundings
  participants : List Participant

def ParticipantStore.getAttendeeCount (s : ParticipantStore) : Nat :=
  s.participants.length + s.surroundings.externalCount

def ParticipantStore.hasParticipant (s : ParticipantStore) (userId : Nat) : Bool :=
  s.participants.any fun p => p.userId = userId

def Surroundings.capacityPolicy (w : Surroundings) : String := w.capacityConfig.getD "warning"

def Surroundings.roomCapacity (w : Surroundings) : Option Nat := do
  let meeting ← w.meeting
  let roomId ← meeting.roomId
  w.capacities roomId

end Rows

section Failures

structure Warning where
  type : String
  message : String
  deriving DecidableEq, Repr

/-- `genuine` tells that the token has been signed here and has not expired. -/
structure WarningToken where
  meetingId : Nat
  userId : Nat
  warnings : List Warning
  genuine : Bool
  deriving DecidableEq, Repr

def generateToken (meetingId userId : Nat) (warnings : List Warning) : WarningToken :=
  ⟨meetingId, userId, warnings, true⟩

def verifyToken (token : WarningToken) (meetingId userId : Nat) : Option (List Warning) :=
  if token.genuine ∧ token.meetingId = meetingId ∧ token.userId = userId then some token.warnings
  else none

inductive ErrorDetail where
  | text (value : String)
  | texts (values : List String)
  | id (value : Nat)
  | ids (values : List Nat)
  | token (value : WarningToken)
  | warnings (values : List Warning)
  deriving DecidableEq, Repr

structure ParticipantError where
  exception : HttpException
  code : String
  message : String
  details : List (String × ErrorDetail) := []
  deriving DecidableEq, Repr

def meetingNotFound (meetingId : Nat) : ParticipantError :=
  ⟨.notFound, "MEETING_NOT_FOUND", "Không tìm thấy cuộc họp", [("meetingId", .id meetingId)]⟩

def invalidMeetingStatus (status : MeetingStatus) : ParticipantError :=
  ⟨.badRequest, "INVALID_MEETING_STATUS",
    "Cuộc họp không ở trạng thái cho phép thêm thành viên",
    [("currentStatus", .text status.wire), ("allowedStatuses", .texts ["scheduled", "in_progress"])]⟩

def userNotFound : ParticipantError :=
  ⟨.notFound, "USER_NOT_FOUND", "Người dùng không tồn tại hoặc không hoạt động", []⟩

def participantRoleNotAllowed : ParticipantError :=
  ⟨.badRequest, "PARTICIPANT_ROLE_NOT_ALLOWED",
    "Không thể mời tài khoản Business Admin / System Admin tham gia cuộc họp", []⟩

def participantAlreadyExists : ParticipantError :=
  ⟨.conflict, "PARTICIPANT_ALREADY_EXISTS",
    "Người dùng đã có trong danh sách tham gia cuộc họp", []⟩

def forbiddenAccess : ParticipantError :=
  ⟨.forbidden, "FORBIDDEN_ACCESS", "Bạn không có quyền thêm thành viên vào cuộc họp này",
    [("reason", .text "Meeting là Private và bạn không phải Organizer/Host/Admin")]⟩

def roomCapacityExceeded (capacityPolicy reason : String) : ParticipantError :=
  ⟨.unprocessableEntity, "ROOM_CAPACITY_EXCEEDED",
    "Phòng họp đã đạt sức chứa tối đa. Chính sách hiện tại không cho phép thêm người.",
    [("capacityPolicy", .text capacityPolicy), ("reason", .text reason)]⟩

def blockedByPolicy : ParticipantError :=
  roomCapacityExceeded "block" "meeting.capacity_policy = 'block'"

def overrideDenied : ParticipantError :=
  roomCapacityExceeded "warning" "Người dùng không có quyền override_capacity"

def warningConfirmationRequired (token : WarningToken) : ParticipantError :=
  ⟨.unprocessableEntity, "WARNING_CONFIRMATION_REQUIRED",
    "Phát hiện xung đột lịch hoặc cảnh báo sức chứa. Vui lòng xác nhận.",
    [("warningToken", .token token), ("warnings", .warnings token.warnings)]⟩

def invalidWarningToken : ParticipantError :=
  ⟨.badRequest, "INVALID_WARNING_TOKEN", "warningToken không hợp lệ hoặc đã hết hạn", []⟩

end Failures

section Adding

/-- `warningToken` is there if it is not the empty text. -/
structure AddRequest where
  userId : Nat
  authUserId : Nat
  overrideWarnings : Bool := false
  warningToken : Option WarningToken := none
  deriving DecidableEq, Repr

/-- `seen` is the number of participants that the call has counted. -/
inductive AddStage where
  | starting
  | validated (meeting : Meeting)
  | persisting (seen : Nat)
  deriving DecidableEq, Repr

structure AddCall where
  request : AddRequest
  stage : AddStage

variable (s : ParticipantStore) (r : AddRequest)

def isMeetingIneligibleRole (roleCodes : List String) : Bool :=
  roleCodes.any fun code => code ∈ ["BUSINESS_ADMIN", "SYSTEM_ADMIN"]

def preValidate : Except ParticipantError AddStage := do
  let w := s.surroundings
  let meeting ← expect (w.meeting.filter fun m => m.deletedAt = none) (meetingNotFound w.meetingId)
  require (meeting.status = .scheduled ∨ meeting.status = .inProgress)
    (invalidMeetingStatus meeting.status)
  require (w.accountStatus r.userId = some .active) userNotFound
  require (isMeetingIneligibleRole (w.roleCodes r.userId) = false) participantRoleNotAllowed
  require (s.hasParticipant r.userId = false) participantAlreadyExists
  let isOwner := meeting.organizerId = r.authUserId ∨ meeting.hostId = some r.authUserId
  require (meeting.visibilityLevel ≠ .privateLevel ∨ isOwner ∨ "admin.all" ∈ w.permissions r.authUserId)
    forbiddenAccess
  pure (.validated meeting)

def scheduleWarnings : List Warning :=
  (s.surroundings.conflicts r.userId).map fun conflict =>
    ⟨"SCHEDULE_CONFLICT",
      "Người dùng đang có lịch bận từ " ++ conflict.1 ++ " đến " ++ conflict.2 ++ "."⟩

def capacityWarning (capacity total : Nat) : Warning :=
  ⟨"ROOM_CAPACITY_WARNING", "Sức chứa phòng (" ++ toString capacity ++
    " người) không đủ cho tổng số người tham dự (" ++ toString total ++ " người)."⟩

/-- A meeting without a room, or with one that is not found, takes everybody. -/
def checkCapacity (meeting : Meeting) : Except ParticipantError (List Warning) :=
  match meeting.roomId.bind s.surroundings.capacities with
  | none => pure []
  | some capacity =>
    if s.getAttendeeCount + 1 ≤ capacity then pure []
    else do
      require (s.surroundings.capacityPolicy ≠ "block") blockedByPolicy
      pure [capacityWarning capacity (s.getAttendeeCount + 1)]

def AddRequest.confirmation : Option WarningToken := if r.overrideWarnings then r.warningToken else none

def processOverride : Except ParticipantError Unit :=
  onSome r.confirmation fun token => do
    let w := s.surroundings
    let warnings ← expect (verifyToken token w.meetingId r.userId) invalidWarningToken
    if warnings.any fun warning => warning.type = "ROOM_CAPACITY_WARNING" then
      require (w.capacityPolicy ≠ "block") blockedByPolicy
      require ("meeting.participant.override_capacity" ∈ w.permissions r.authUserId) overrideDenied

def checkWarnings (meeting : Meeting) : Except ParticipantError AddStage := do
  let capacityWarnings ← checkCapacity s meeting
  let warnings := scheduleWarnings s r ++ capacityWarnings
  require (warnings = [] ∨ r.confirmation.isSome)
    (warningConfirmationRequired (generateToken s.surroundings.meetingId r.userId warnings))
  processOverride s r
  pure (.persisting s.getAttendeeCount)

def AddRequest.participant : Participant where
  userId := r.userId
  participantRole := .attendee
  invitationStatus := .pending
  attendanceRequired := true
  isRequired := true
  invitedBy := some r.authUserId

/-- The transaction; under the lock of the meeting it looks for the user again, but not at the room. -/
def persistInternalParticipantCore : Except ParticipantError ParticipantStore := do
  require (s.hasParticipant r.userId = false) participantAlreadyExists
  pure { s with participants := s.participants ++ [r.participant] }

def AddRequest.access : AddStage → ParticipantStore × Option AddStage
  | .starting => (s, (preValidate s r).toOption)
  | .validated meeting => (s, (checkWarnings s r meeting).toOption)
  | .persisting _ => ((persistInternalParticipantCore s r).toOption.getD s, none)

def addInternalParticipant : Service ParticipantStore AddCall AddRequest where
  clock _ := 0
  admits _ _ := True
  enter _ r := ⟨r, .starting⟩
  act _ c s := ((c.request.access s c.stage).1, (c.request.access s c.stage).2.map (⟨c.request, ·⟩))

instance (s : ParticipantStore) (r : AddRequest) : Decidable (addInternalParticipant.admits s r) :=
  inferInstanceAs (Decidable True)

end Adding

section Block
variable {s : ParticipantStore} {c : AddCall} {now capacity : Nat}

/-- The number of rows that an access inserts. -/
def AddCall.adds (s : ParticipantStore) (c : AddCall) : Nat :=
  match c.stage with
  | .persisting _ => if s.hasParticipant c.request.userId then 0 else 1
  | _ => 0

def AddCall.seen (c : AddCall) : Nat :=
  match c.stage with
  | .persisting seen => seen
  | _ => 0

theorem persisting_eq (s : ParticipantStore) (now seen : Nat) (r : AddRequest) :
    (addInternalParticipant.act now ⟨r, .persisting seen⟩ s).1 =
      if s.hasParticipant r.userId then s else { s with participants := s.participants ++ [r.participant] } := by
  change (persistInternalParticipantCore s r).toOption.getD s = _
  unfold persistInternalParticipantCore
  cases s.hasParticipant r.userId with
  | true => rfl
  | false => rfl

theorem access_counts (s : ParticipantStore) (now : Nat) (c : AddCall) :
    (addInternalParticipant.act now c s).1.getAttendeeCount = s.getAttendeeCount + c.adds s := by
  obtain ⟨r, stage⟩ := c
  cases stage with
  | starting => rfl
  | validated meeting => rfl
  | persisting seen =>
    change _ = s.getAttendeeCount + (if s.hasParticipant r.userId then 0 else 1)
    rw [persisting_eq]
    cases s.hasParticipant r.userId with
    | true => rfl
    | false =>
      change (s.participants ++ [r.participant]).length + _ = _
      rw [List.length_append, List.length_singleton, ParticipantStore.getAttendeeCount]
      exact Nat.add_right_comm _ _ _

def attendees : Counting addInternalParticipant where
  count s := s.getAttendeeCount
  adds s _ c := c.adds s
  seen c := c.seen
  counts := access_counts

instance (s : ParticipantStore) (now : Nat) (c : AddCall) :
    Decidable (InTime attendees capacity s now c) :=
  inferInstanceAs (Decidable (0 < c.adds s → _ ≤ _))

/-- The room holds `capacity` people, and no more may be added. -/
def Blocks (capacity : Nat) (w : Surroundings) : Prop :=
  w.capacityPolicy = "block" ∧ w.roomCapacity = some capacity

theorem surroundings_kept (s : ParticipantStore) (now : Nat) (c : AddCall) :
    (addInternalParticipant.act now c s).1.surroundings = s.surroundings := by
  obtain ⟨r, stage⟩ := c
  cases stage with
  | starting => rfl
  | validated meeting => rfl
  | persisting seen =>
    rw [persisting_eq]
    split
    · rfl
    · rfl

theorem preValidate_meeting {r : AddRequest} {stage : AddStage} (goes : preValidate s r = .ok stage) :
    ∃ meeting, s.surroundings.meeting = some meeting ∧ stage = .validated meeting := by
  simp only [preValidate, bind_eq_ok, expect_eq_ok, pure_eq_ok] at goes
  obtain ⟨meeting, found, -, -, -, -, -, -, -, -, -, -, rfl⟩ := goes
  exact ⟨meeting, (Option.filter_eq_some_iff.mp found).1, rfl⟩

theorem checkWarnings_room {r : AddRequest} {meeting : Meeting} {stage : AddStage}
    (blocks : Blocks capacity s.surroundings) (meant : s.surroundings.meeting = some meeting)
    (goes : checkWarnings s r meeting = .ok stage) :
    s.getAttendeeCount + 1 ≤ capacity ∧ stage = .persisting s.getAttendeeCount := by
  simp only [checkWarnings, bind_eq_ok, pure_eq_ok] at goes
  obtain ⟨warnings, checked, -, -, -, -, rfl⟩ := goes
  refine ⟨?_, rfl⟩
  obtain ⟨policy, room⟩ := blocks
  have held : meeting.roomId.bind s.surroundings.capacities = some capacity := by
    rw [Surroundings.roomCapacity, meant] at room
    exact room
  rw [checkCapacity, held] at checked
  by_contra full
  dsimp only at checked
  rw [if_neg full] at checked
  obtain ⟨_, refused, -⟩ := bind_eq_ok.mp checked
  exact require_eq_ok.mp refused policy

structure HasCounted (capacity : Nat) (s : ParticipantStore) (c : AddCall) : Prop where
  meant : ∀ meeting, c.stage = .validated meeting → s.surroundings.meeting = some meeting
  within : c.seen ≤ s.getAttendeeCount
  room : ∀ seen, c.stage = .persisting seen → seen + 1 ≤ capacity

theorem next_hasCounted {c' : AddCall} (blocks : Blocks capacity s.surroundings)
    (counted : HasCounted capacity s c) (next : (addInternalParticipant.act now c s).2 = some c') :
    HasCounted capacity (addInternalParticipant.act now c s).1 c' := by
  obtain ⟨r, stage⟩ := c
  obtain ⟨stage', goes, rfl⟩ := Option.map_eq_some_iff.mp next
  cases stage with
  | starting =>
    obtain ⟨meeting, meant, rfl⟩ := preValidate_meeting (toOption_eq_some.mp goes)
    constructor
    · rintro _ ⟨⟩
      exact meant
    · exact Nat.zero_le _
    · nofun
  | validated meeting =>
    obtain ⟨room, rfl⟩ :=
      checkWarnings_room blocks (counted.meant meeting rfl) (toOption_eq_some.mp goes)
    constructor
    · nofun
    · exact Nat.le_refl _
    · rintro _ ⟨⟩
      exact room
  | persisting seen => cases goes

theorem other_hasCounted {d : AddCall} (counted : HasCounted capacity s d) :
    HasCounted capacity (addInternalParticipant.act now c s).1 d := by
  constructor
  · rw [surroundings_kept]
    exact counted.meant
  · rw [access_counts]
    exact Nat.le_trans counted.within (Nat.le_add_right _ _)
  · exact counted.room

theorem adds_keep (capacity : Nat) :
    Keeps addInternalParticipant (fun s => Blocks capacity s.surroundings) (HasCounted capacity)
      (fun _ _ => True) (fun _ _ _ => True) where
  symm _ _ _ := trivial
  enters _ _ _ _ := ⟨nofun, Nat.zero_le _, nofun⟩
  alone _ _ _ _ _ _ := trivial
  inv s now c blocks _ _ _ := (surroundings_kept s now c).symm ▸ blocks
  next _ _ _ _ blocks counted _ _ next := next_hasCounted blocks counted next
  others _ _ _ _ _ _ counted _ _ _ := other_hasCounted counted
  still_apart _ _ _ _ _ _ _ _ _ _ _ _ := trivial

theorem foundRoom_of_hasCounted (s : ParticipantStore) (c : AddCall) (counted : HasCounted capacity s c) :
    FoundRoom attendees capacity s c := by
  refine ⟨counted.within, ?_⟩
  obtain ⟨r, stage⟩ := c
  intro now added
  cases stage with
  | starting => exact absurd added (Nat.lt_irrefl 0)
  | validated meeting => exact absurd added (Nat.lt_irrefl 0)
  | persisting seen =>
    have room := counted.room seen rfl
    change seen + (if s.hasParticipant r.userId then 0 else 1) ≤ capacity
    split <;> omega

theorem capacity_kept_iff {p : Pool ParticipantStore AddCall}
    {moves : List (Move (Pool ParticipantStore AddCall) (Turn AddRequest))}
    (blocks : Blocks capacity s.surroundings) (within : s.getAttendeeCount ≤ capacity)
    (run : Run (Step addInternalParticipant) (Pool.idle s) moves p) :
    (∀ q ∈ visited (Pool.idle s) moves, q.shared.getAttendeeCount ≤ capacity) ↔
      Heeds (Allows (InTime attendees capacity)) moves :=
  within_iff (adds_keep capacity) foundRoom_of_hasCounted blocks within run

def smallRoom : ParticipantStore where
  surroundings :=
    { meetingId := 0
      meeting := some ⟨1, none, some 9, .scheduled, .internalLevel, none⟩
      accountStatus := fun _ => some .active
      roleCodes := fun _ => ["EMPLOYEE"]
      permissions := fun _ => []
      conflicts := fun _ => []
      capacities := fun i => if i = 9 then some 3 else none
      capacityConfig := some "block"
      externalCount := 0 }
  participants :=
    [⟨1, .host, .accepted, true, true, none⟩, ⟨2, .attendee, .pending, true, true, some 1⟩]

def invite (userId : Nat) : AddRequest where
  userId := userId
  authUserId := 1

def accesses (i n : Nat) : List (Turn AddRequest) := List.replicate n (.act i 0)

/-- Two users are added at the same time; both calls count two participants. -/
def bothCounted : List (Turn AddRequest) :=
  [.enter 0 (invite 7), .enter 1 (invite 8)] ++ accesses 0 2 ++ accesses 1 2 ++ accesses 0 1 ++ accesses 1 1

theorem room_overfilled :
    ∃ moves p, Blocks 3 smallRoom.surroundings ∧ smallRoom.getAttendeeCount ≤ 3 ∧
      Run (Step addInternalParticipant) (Pool.idle smallRoom) moves p ∧
      p ∈ visited (Pool.idle smallRoom) moves ∧ ¬ p.shared.getAttendeeCount ≤ 3 := by
  have follows : Follows addInternalParticipant (fun _ _ _ => True) (Pool.idle smallRoom) bothCounted := by
    decide +kernel
  obtain ⟨moves, run, -⟩ := follows_run follows
  exact ⟨moves, _, ⟨rfl, rfl⟩, by decide, run, end_visited run, by decide +kernel⟩

/-- The same user is added twice at the same time, and another one when the room is full. -/
def oneSeat : List (Turn AddRequest) :=
  [.enter 0 (invite 7), .enter 1 (invite 7)] ++ accesses 0 2 ++ accesses 1 2 ++ accesses 0 1 ++
    accesses 1 1 ++ .enter 2 (invite 8) :: accesses 2 2

theorem capacity_kept_of_one_seat :
    ∃ moves p, Run (Step addInternalParticipant) (Pool.idle smallRoom) moves p ∧
      p.shared.participants.length = 3 ∧
      ∀ q ∈ visited (Pool.idle smallRoom) moves, q.shared.getAttendeeCount ≤ 3 := by
  have follows : Follows addInternalParticipant (InTime attendees 3) (Pool.idle smallRoom) oneSeat := by
    decide +kernel
  obtain ⟨moves, run, heeds⟩ := follows_run follows
  have blocks : Blocks 3 smallRoom.surroundings := ⟨rfl, rfl⟩
  exact ⟨moves, _, run, by decide +kernel, (capacity_kept_iff blocks (by decide) run).mpr heeds⟩

end Block
end Participants
