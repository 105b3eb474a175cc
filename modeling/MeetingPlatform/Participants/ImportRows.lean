import MeetingPlatform.Participants.RoomCapacity
import MeetingPlatform.Lib.Table
import MeetingPlatform.Vehicles.PlateReads

/- The rows of a file are added to a meeting at once: they are looked up, stripped of duplicates and
   counted as a whole, and then written one after the other. External participants can also be added
   by themselves. -/
namespace Participants
open KeyedTable Guards
open MeetingBooking (MeetingStatus HttpException)

section Rows

structure UserEntity where
  email : String
  employeeCode : Option String
  accountStatus : AccountStatus
  deletedAt : Option Int := none
  deriving DecidableEq, Repr

/-- The e-mails and the employee codes of users who are not deleted are unique, the e-mails without
    regard to case. -/
structure Users where
  table : Table UserEntity
  emails : ∀ r ∈ table.rows, ∀ q ∈ table.rows, r.2.deletedAt = none → q.2.deletedAt = none →
    r.2.email.toLower = q.2.email.toLower → r = q
  codes : ∀ r ∈ table.rows, ∀ q ∈ table.rows, r.2.deletedAt = none → q.2.deletedAt = none →
    r.2.employeeCode.isSome = true → r.2.employeeCode = q.2.employeeCode → r = q

structure GuestData where
  fullName : String
  email : String
  organizationName : Option String
  phoneNumber : Option String
  deriving DecidableEq, Repr

structure ExternalParticipant extends GuestData where
  participantRole : ParticipantRole
  invitationStatus : InvitationStatus
  deriving DecidableEq, Repr

/-- The rows of one meeting, and what the calls only read. -/
structure MeetingRoster where
  meetingId : Nat
  meeting : Option Meeting
  users : Users
  roleCodes : Nat → List String
  permissions : Nat → List String
  conflicts : Nat → List (String × String)
  capacities : Nat → Option Nat
  capacityConfig : Option String
  participants : List Participant
  externalParticipants : List ExternalParticipant

variable (s : MeetingRoster)

def MeetingRoster.findUser (userId : Nat) : Option UserEntity :=
  (s.users.table.get? userId).filter fun u => u.deletedAt = none

def MeetingRoster.internal : ParticipantStore where
  surroundings :=
    { meetingId := s.meetingId
      meeting := s.meeting
      accountStatus := fun userId => (s.findUser userId).map UserEntity.accountStatus
      roleCodes := s.roleCodes
      permissions := s.permissions
      conflicts := s.conflicts
      capacities := s.capacities
      capacityConfig := s.capacityConfig
      externalCount := s.externalParticipants.length }
  participants := s.participants

def MeetingRoster.setInternal (t : ParticipantStore) : MeetingRoster := { s with participants := t.participants }

def MeetingRoster.hasExternal (email : String) : Bool :=
  s.externalParticipants.any fun p => p.email.toLower = email.toLower

end Rows

section Guests

/-- `genuine` tells that the token has been signed here and has not expired. -/
structure GuestToken where
  meetingId : Nat
  email : String
  warnings : List Warning
  genuine : Bool
  deriving DecidableEq, Repr

structure AddExternalRequest where
  guest : GuestData
  authUserId : Nat
  overrideWarnings : Bool := false
  warningToken : Option GuestToken := none
  deriving DecidableEq, Repr

inductive GuestDetail where
  | text (value : String)
  | id (value : Nat)
  | count (value : Nat)
  | token (value : GuestToken)
  | warnings (values : List Warning)
  deriving DecidableEq, Repr

structure GuestError where
  exception : HttpException
  code : String
  message : String
  details : List (String × GuestDetail) := []
  deriving DecidableEq, Repr

def externalAlreadyExists : GuestError :=
  ⟨.conflict, "EXTERNAL_PARTICIPANT_ALREADY_EXISTS", "Email khách mời đã tồn tại trong cuộc họp này", []⟩

def guestsExceedCapacity (message : String) (capacity total : Nat) : GuestError :=
  ⟨.unprocessableEntity, "ROOM_CAPACITY_EXCEEDED", message,
    [("capacity", .count capacity), ("attendeeCount", .count total)]⟩

variable (s : MeetingRoster) (r : AddExternalRequest)

def persistExternalParticipantCore (data : GuestData) : Except GuestError MeetingRoster := do
  require (s.hasExternal data.email = false) externalAlreadyExists
  pure { s with externalParticipants := s.externalParticipants ++ [⟨data, .attendee, .pending⟩] }

def checkGuestToken (capacity : Nat) (warnings : List Warning) : Except GuestError Unit := do
  let total := s.internal.getAttendeeCount + 1
  let confirmed ← expect (if r.overrideWarnings then r.warningToken else none)
    ⟨.unprocessableEntity, "WARNING_CONFIRMATION_REQUIRED",
      "Phát hiện cảnh báo sức chứa phòng. Vui lòng xác nhận.",
      [("warningToken", .token ⟨s.meetingId, r.guest.email, warnings, true⟩), ("warnings", .warnings warnings)]⟩
  require (confirmed.genuine = true ∧ confirmed.meetingId = s.meetingId ∧ confirmed.email = r.guest.email)
    ⟨.badRequest, "INVALID_WARNING_TOKEN", "Warning token không hợp lệ hoặc đã hết hạn", []⟩
  require ("meeting.participant.override_capacity" ∈ s.permissions r.authUserId)
    (guestsExceedCapacity "Bạn không có quyền ghi đè cảnh báo sức chứa phòng" capacity total)

def checkGuestCapacity (meeting : Meeting) : Except GuestError Unit :=
  onSome (meeting.roomId.bind s.capacities) fun capacity => do
    let total := s.internal.getAttendeeCount + 1
    if capacity < total then
      require (s.internal.surroundings.capacityPolicy ≠ "block") (guestsExceedCapacity
        "Sức chứa phòng không đủ. Chính sách hiện tại là block." capacity total)
      checkGuestToken s r capacity [capacityWarning capacity total]

def addExternalParticipant : Except GuestError MeetingRoster := do
  let meeting ← expect (s.meeting.filter fun m => m.deletedAt = none)
    ⟨.notFound, "MEETING_NOT_FOUND", "Không tìm thấy cuộc họp", [("meetingId", .id s.meetingId)]⟩
  require (meeting.status = .scheduled ∨ meeting.status = .inProgress)
    ⟨.badRequest, "INVALID_MEETING_STATUS", "Cuộc họp không ở trạng thái scheduled hoặc in_progress",
      [("currentStatus", .text meeting.status.wire)]⟩
  let isOwner := meeting.organizerId = r.authUserId ∨ meeting.hostId = some r.authUserId
  require (isOwner ∨ "meeting.participant.add.external" ∈ s.permissions r.authUserId)
    ⟨.forbidden, "FORBIDDEN", "Bạn không có quyền thêm khách mời bên ngoài vào cuộc họp này", []⟩
  require (meeting.visibilityLevel ≠ .privateLevel ∨ isOwner ∨ "admin.all" ∈ s.permissions r.authUserId)
    ⟨.forbidden, "FORBIDDEN_ACCESS",
      "Cuộc họp riêng tư: chỉ Organizer/Host/Admin mới được thêm khách mời", []⟩
  require (s.hasExternal r.guest.email = false) externalAlreadyExists
  checkGuestCapacity s r meeting
  persistExternalParticipantCore s r.guest

end Guests

section Files

inductive ImportParticipantType where
  | internal | external
  deriving DecidableEq, Repr

def ImportParticipantType.wire : ImportParticipantType → String
  | .internal => "internal"
  | .external => "external"

structure ParsedRow where
  row : Nat
  type : String
  email : String
  employeeCode : String
  fullName : String
  organizationName : String
  phoneNumber : String
  lower : email.toLower = email

inductive ImportRowStatus where
  | valid | warning | error | success | failed
  deriving DecidableEq, Repr

/-- `thrown` is the code of an exception of the write. -/
inductive ImportRowReason where
  | invalidRowType | missingIdentifier | userNotFound | roleNotAllowed | invalidExternalRow | invalidEmail
  | duplicateInFile | participantAlreadyExists | scheduleConflict | roomCapacityWarning
  | roomCapacityExceeded
  | thrown (code : String)
  deriving DecidableEq, Repr

structure ImportRowResult where
  row : Nat
  type : String
  identifier : String
  status : ImportRowStatus
  reason : Option ImportRowReason := none
  deriving DecidableEq, Repr

structure RowState where
  parsed : ParsedRow
  result : ImportRowResult
  kind : Option ImportParticipantType
  declaredKind : Option ImportParticipantType
  resolvedUserId : Option Nat := none
  isHardError : Bool := false
  isWarning : Bool := false

/-- `/^[^\s@]+@[^\s@]+\.[^\s@]+$/` -/
def emailRegex (email : String) : Bool :=
  let front := email.toList.takeWhile (· ≠ '@')
  let domain := (email.toList.dropWhile (· ≠ '@')).tail
  front ≠ [] ∧ (front ++ domain).all (fun c => !Anpr.isWhiteSpace c && c ≠ '@') ∧ '.' ∈ domain.tail.dropLast

example : emailRegex "khach@doitac.com" = true ∧ emailRegex "khach@.com" = false ∧
    emailRegex "a b@doitac.com" = false := by decide +kernel

def RowState.markError (state : RowState) (reason : ImportRowReason) : RowState :=
  { state with
    isHardError := true
    isWarning := false
    result := { state.result with
      status := .error
      reason := some reason } }

def RowState.markWarning (state : RowState) (reason : ImportRowReason) : RowState :=
  if state.isHardError ∨ state.isWarning then state
  else { state with
    isWarning := true
    result := { state.result with
      status := .warning
      reason := some reason } }

variable (parsed : ParsedRow)

def ParsedRow.declaredKind : Option ImportParticipantType :=
  if parsed.type = ImportParticipantType.internal.wire then some .internal
  else if parsed.type = ImportParticipantType.external.wire then some .external
  else none

def ParsedRow.namesGuest : Bool := parsed.fullName ≠ "" ∧ parsed.email ≠ "" ∧ emailRegex parsed.email

def staticValidate : RowState :=
  let declaredKind := parsed.declaredKind
  let identifier := [parsed.email, parsed.employeeCode, parsed.fullName].find? (· ≠ "")
  let state : RowState :=
    { parsed := parsed
      result := ⟨parsed.row, (declaredKind.map ImportParticipantType.wire).getD "unknown",
        identifier.getD "", .valid, none⟩
      kind := declaredKind
      declaredKind := declaredKind }
  if declaredKind = none ∧ parsed.type ≠ "" then state.markError .invalidRowType
  else if declaredKind = some .external then
    if parsed.namesGuest then state else state.markError .invalidExternalRow
  else if parsed.email = "" ∧ parsed.employeeCode = "" then state.markError .missingIdentifier
  else if parsed.email ≠ "" ∧ emailRegex parsed.email = false then state.markError .invalidEmail
  else state

def ParsedRow.guest : GuestData where
  fullName := parsed.fullName
  email := parsed.email
  organizationName := (some parsed.organizationName).filter (· ≠ "")
  phoneNumber := (some parsed.phoneNumber).filter (· ≠ "")

end Files

section Resolving
variable (s : MeetingRoster) (states : List RowState)

def lookupStates : List RowState :=
  states.filter fun state => !state.isHardError && state.declaredKind ≠ some .external

/-- The users that the query returns for the e-mails and the codes of the rows. -/
def fetchedUsers : List (Nat × UserEntity) :=
  let emails := ((lookupStates states).map fun state => state.parsed.email).filter (· ≠ "")
  let codes := ((lookupStates states).map fun state => state.parsed.employeeCode).filter (· ≠ "")
  s.users.table.select fun u => u.2.deletedAt = none ∧
    (u.2.email ∈ emails ∨ ∃ code ∈ u.2.employeeCode, code ∈ codes)

def activeUsers (users : List (Nat × UserEntity)) : List (Nat × UserEntity) :=
  users.filter fun u => u.2.accountStatus = .active ∧ u.2.deletedAt = none

def byEmail (users : List (Nat × UserEntity)) (email : String) : Option Nat :=
  ((users.filter fun u => u.2.email ≠ "" ∧ u.2.email.toLower = email).getLast?).map Prod.fst

def byCode (users : List (Nat × UserEntity)) (code : String) : Option Nat :=
  ((users.filter fun u => u.2.employeeCode = some code).getLast?).map Prod.fst

def resolveUser (users : List (Nat × UserEntity)) (parsed : ParsedRow) : Option Nat :=
  (if parsed.email ≠ "" then byEmail users parsed.email else none).or
    (if parsed.employeeCode ≠ "" then byCode users parsed.employeeCode else none)

def RowState.resolved (state : RowState) (kind : ImportParticipantType) (userId : Option Nat) : RowState :=
  { state with
    kind := some kind
    resolvedUserId := userId
    result := { state.result with type := kind.wire } }

def resolveRow (users : List (Nat × UserEntity)) (state : RowState) : RowState :=
  if state.isHardError ∨ state.declaredKind = some .external then state
  else match resolveUser users state.parsed with
    | some userId => state.resolved .internal (some userId)
    | none =>
      if state.declaredKind = some .internal then state.markError .userNotFound
      else
        let guest := state.resolved .external none
        if state.parsed.namesGuest then guest else guest.markError .invalidExternalRow

def RowState.userToAdd (state : RowState) : Option Nat :=
  if state.isHardError = false ∧ state.kind = some .internal then state.resolvedUserId else none

def RowState.emailToAdd (state : RowState) : Option String :=
  if state.isHardError = false ∧ state.kind = some .external then some state.parsed.email else none

def getIneligibleMeetingUserIds (userIds : List Nat) : List Nat :=
  userIds.filter fun userId => isMeetingIneligibleRole (s.roleCodes userId)

section Duplicates
variable {κ : Type} [DecidableEq κ]

def markRepeated (keyToAdd : RowState → Option κ) : List κ → List RowState → List RowState
  | _, [] => []
  | seen, state :: rest =>
    match keyToAdd state with
    | none => state :: markRepeated keyToAdd seen rest
    | some k =>
      if k ∈ seen then state.markError .duplicateInFile :: markRepeated keyToAdd seen rest
      else state :: markRepeated keyToAdd (k :: seen) rest

def markWhere (keyToAdd : RowState → Option κ) (bad : List κ) (reason : ImportRowReason) :
    List RowState :=
  states.map fun state =>
    if ∃ k ∈ keyToAdd state, k ∈ bad then state.markError reason else state

end Duplicates

def markIneligible : List RowState :=
  markWhere states RowState.userToAdd
    (getIneligibleMeetingUserIds s (states.filterMap RowState.userToAdd)) .roleNotAllowed

def markExistingUsers : List RowState :=
  let resolvedIds := states.filterMap RowState.userToAdd
  let existing := s.participants.filter fun p => p.userId ∈ resolvedIds
  markWhere states RowState.userToAdd (existing.map Participant.userId) .participantAlreadyExists

def markExistingGuests : List RowState :=
  let emails := states.filterMap RowState.emailToAdd
  let existing := s.externalParticipants.filter fun p => p.email.toLower ∈ emails
  markWhere states RowState.emailToAdd (existing.map fun p => p.email.toLower) .participantAlreadyExists

def resolveAndDetectDuplicates : List RowState :=
  let resolved := states.map (resolveRow (activeUsers (fetchedUsers s states)))
  let internals := markExistingUsers s (markRepeated RowState.userToAdd [] (markIneligible s resolved))
  markExistingGuests s (markRepeated RowState.emailToAdd [] internals)

end Resolving

section Importing
variable (s : MeetingRoster) (states : List RowState) (actorId : Nat)

def markConflicts : List RowState :=
  states.map fun state =>
    if ∃ userId ∈ state.userToAdd, s.conflicts userId ≠ [] then state.markWarning .scheduleConflict else state

/-- The rows that come after the last seat, in the order of the file. -/
def markOverCapacity (capacity : Nat) (mark : RowState → RowState) : Nat → List RowState → List RowState
  | _, [] => []
  | seat, state :: rest =>
    if state.userToAdd.isSome then
      (if seat + 1 ≤ capacity then state else mark state) ::
        markOverCapacity capacity mark (seat + 1) rest
    else state :: markOverCapacity capacity mark seat rest

def markCapacity (capacity : Nat) : List RowState :=
  let validInternal := states.filterMap RowState.userToAdd
  let currentCount := s.internal.getAttendeeCount
  if currentCount + validInternal.length ≤ capacity then states
  else
    let policy := s.internal.surroundings.capacityPolicy
    let canOverride := policy = "warning" ∧ "meeting.participant.override_capacity" ∈ s.permissions actorId
    let mark : RowState → RowState := fun state =>
      if policy = "block" ∨ ¬ canOverride then state.markError .roomCapacityExceeded
      else state.markWarning .roomCapacityWarning
    markOverCapacity capacity mark currentCount states

def evaluateWarnings (meeting : Meeting) : List RowState :=
  if states.filterMap RowState.userToAdd = [] then states
  else match meeting.roomId.bind s.capacities with
    | none => markConflicts s states
    | some capacity => markCapacity s (markConflicts s states) actorId capacity

def RowState.finish (state : RowState) (status : ImportRowStatus) (reason : Option ImportRowReason) : RowState :=
  { state with
    result := { state.result with
      status := status
      reason := reason } }

/-- A row in a transaction of its own. One that fails leaves the store alone. -/
def persistRow (state : RowState) : MeetingRoster × RowState :=
  if state.isHardError then (s, state.finish .failed state.result.reason)
  else match state.kind, state.resolvedUserId with
    | some .internal, some userId =>
      match persistInternalParticipantCore s.internal ⟨userId, actorId, false, none⟩ with
      | .ok t => (s.setInternal t, state.finish .success none)
      | .error e => (s, state.finish .failed (some (.thrown e.code)))
    | _, _ =>
      match persistExternalParticipantCore s state.parsed.guest with
      | .ok t => (t, state.finish .success none)
      | .error e => (s, state.finish .failed (some (.thrown e.code)))

def persistRows : MeetingRoster → List RowState → MeetingRoster × List RowState
  | s, [] => (s, [])
  | s, state :: rest =>
    let first := persistRow s actorId state
    let others := persistRows first.1 rest
    (others.1, first.2 :: others.2)

structure ImportReport where
  totalRows : Nat
  successCount : Nat
  failedCount : Nat
  warningCount : Nat
  results : List ImportRowResult
  deriving DecidableEq, Repr

/-- `unconfirmed` has the preview of the rows. -/
inductive ImportError where
  | refused (error : ParticipantError)
  | unconfirmed (message : String) (preview : ImportReport)
  deriving DecidableEq, Repr

/-- The counts of the preview are those of the rows that would be added, and of those that would not. -/
def confirmationRequired (warningCount errorCount : Nat) : ImportError :=
  .unconfirmed
    (if 0 < errorCount then "Tệp có dòng không hợp lệ. Vui lòng xem lại và xác nhận."
      else "Có dòng cảnh báo. Vui lòng xem lại và xác nhận.")
    ⟨states.length, states.length - errorCount, errorCount, warningCount, states.map RowState.result⟩

def importParticipants (rows : List ParsedRow) (forceAddWithWarnings : Bool) :
    Except ImportError (MeetingRoster × ImportReport) := do
  let meeting ← expect (s.meeting.filter fun m => m.deletedAt = none) (.refused (meetingNotFound s.meetingId))
  require (meeting.status = .scheduled ∨ meeting.status = .inProgress)
    (.refused (invalidMeetingStatus meeting.status))
  let isOwner := meeting.organizerId = actorId ∨ meeting.hostId = some actorId
  require (meeting.visibilityLevel ≠ .privateLevel ∨ isOwner ∨ "admin.all" ∈ s.permissions actorId)
    (.refused forbiddenAccess)
  let states := evaluateWarnings s (resolveAndDetectDuplicates s (rows.map staticValidate)) actorId meeting
  let warningCount := states.countP RowState.isWarning
  let errorCount := states.countP RowState.isHardError
  require ((warningCount = 0 ∧ errorCount = 0) ∨ forceAddWithWarnings = true)
    (confirmationRequired states warningCount errorCount)
  let (t, results) := persistRows actorId s states
  pure (t, ⟨states.length, results.countP fun state => state.result.status = .success,
    results.countP fun state => state.result.status = .failed, warningCount, results.map RowState.result⟩)

end Importing
end Participants
