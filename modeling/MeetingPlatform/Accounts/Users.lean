import MeetingPlatform.Accounts.DepartmentScope

/- The accounts of users, with their roles, and the requests of administrators on them. Each request
   first reads and refuses, and then writes in one transaction. -/
namespace Accounts
open KeyedTable Guards

inductive AccountException where
  | badRequest | forbidden | notFound | conflict | unprocessableEntity | badGateway | internal
  deriving DecidableEq, Repr

inductive AccountDetail where
  | text (value : String)
  | id (value : Nat)
  | texts (values : List String)
  deriving DecidableEq, Repr

structure AccountError where
  exception : AccountException
  code : String
  message : String
  details : List (String × AccountDetail) := []
  deriving DecidableEq, Repr

section Tables

structure Account where
  employeeCode : Option String
  username : String
  email : String
  fullName : String
  phoneNumber : Option String
  departmentId : Option Nat
  directManagerId : Option Nat
  positionTitle : Option String
  employmentStatus : Auth.EmploymentStatus
  accountStatus : Auth.AccountStatus
  mustChangePassword : Bool
  failedLoginCount : Nat
  lockedUntil : Option Int
  accountExpiresAt : Option Int
  deletedAt : Option Int
  deriving DecidableEq, Repr

structure Role where
  roleCode : String
  isSystemRole : Bool
  isActive : Bool
  deriving DecidableEq, Repr

structure UserRole where
  userId : Nat
  roleId : Nat
  isActive : Bool
  expiredAt : Option Int
  deriving DecidableEq, Repr

/-- `partnerDepartmentId` is the one that the process has found before. -/
structure AccountStore where
  departments : DepartmentStore
  users : Table Account
  roles : Table Role
  userRoles : Table UserRole
  partnerDepartmentId : Option Nat

/-- What the tables of meetings and bookings hold of a user when the account is to be deleted. -/
structure Engagements where
  hostCount : Nat
  participantCount : Nat
  bookingCount : Nat
  deriving DecidableEq, Repr

def AccountStore.empty (roles : Table Role) : AccountStore :=
  ⟨.empty, Table.empty, roles, Table.empty, none⟩

def activeAccount (email : String) : Account where
  employeeCode := none
  username := email
  email := email
  fullName := email
  phoneNumber := none
  departmentId := none
  directManagerId := none
  positionTitle := none
  employmentStatus := .active
  accountStatus := .active
  mustChangePassword := false
  failedLoginCount := 0
  lockedUntil := none
  accountExpiresAt := none
  deletedAt := none

end Tables

section Texts

def accountStatusWire : Auth.AccountStatus → String
  | .active => "active"
  | .inactive => "inactive"
  | .locked => "locked"
  | .pendingReset => "pending_reset"

def trimmedOrNull (text : String) : Option String := (some (trimmed text)).filter (· ≠ "")

def trimmedIfSent (text : Option String) : Option String := (text.filter (· ≠ "")).map trimmed

def userNotFound : AccountError := ⟨.notFound, "USER_NOT_FOUND", "Không tìm thấy tài khoản.", []⟩

def forbidden (message : String) : AccountError := ⟨.forbidden, "FORBIDDEN", message, []⟩

def onOneself (code message : String) : AccountError := ⟨.unprocessableEntity, code, message, []⟩

def lastSystemAdmin (message : String) : AccountError :=
  ⟨.unprocessableEntity, "LAST_SYSTEM_ADMIN", message, []⟩

def roleNotFound (details : List (String × AccountDetail)) (message : String) : AccountError :=
  ⟨.notFound, "ROLE_NOT_FOUND", message, details⟩

def roleInactive (roleId : Nat) (message : String) : AccountError :=
  ⟨.unprocessableEntity, "ROLE_INACTIVE", message, [("roleId", .id roleId)]⟩

def employeeCodeTaken (employeeCode : String) : AccountError :=
  ⟨.conflict, "ACCOUNT_EMPLOYEE_CODE_ALREADY_EXISTS",
    "Mã nhân viên này đã được đăng ký bởi tài khoản khác.", [("employeeCode", .text employeeCode)]⟩

def departmentMissing (departmentId : Nat) : AccountError :=
  ⟨.notFound, "DEPARTMENT_NOT_FOUND", "Phòng ban được chỉ định không tồn tại.",
    [("departmentId", .id departmentId)]⟩

def departmentInactive (departmentId : Nat) : AccountError :=
  ⟨.unprocessableEntity, "DEPARTMENT_INACTIVE_OR_DELETED",
    "Phòng ban được chỉ định không hoạt động hoặc đã bị xóa.", [("departmentId", .id departmentId)]⟩

end Texts

section Queries
variable (s : AccountStore)

def findUser (id : Nat) : Option Account := (s.users.get? id).filter fun u => u.deletedAt.isNone

def findUserBy (p : Nat → Account → Bool) : Option (Nat × Account) :=
  s.users.findOne fun r => r.2.deletedAt.isNone && p r.1 r.2

def AccountStore.members : List User :=
  s.users.rows.map fun r =>
    ⟨r.1, r.2.departmentId, r.2.accountStatus, r.2.employmentStatus, r.2.deletedAt⟩

def activeRoles (userId : Nat) : List (Nat × UserRole) :=
  s.userRoles.select fun r => r.2.userId = userId ∧ r.2.isActive

def hasSystemRole (actorId : Nat) : Bool :=
  (activeRoles s actorId).any fun r => (s.roles.get? r.2.roleId).any Role.isSystemRole

def isSystemAdminRole (roleId : Nat) : Bool :=
  (s.roles.get? roleId).any fun role => role.roleCode = "SYSTEM_ADMIN" ∧ role.isActive

def targetIsSystemAdmin (userId : Nat) : Bool :=
  (activeRoles s userId).any fun r => isSystemAdminRole s r.2.roleId

def isActiveUser (userId : Nat) : Bool :=
  (findUser s userId).any fun u => u.accountStatus = .active

def otherAdminCount (now : Int) (targetUserId : Nat) : Nat :=
  s.userRoles.rows.countP fun r => isSystemAdminRole s r.2.roleId ∧ r.2.isActive ∧
    (∀ expiredAt ∈ r.2.expiredAt, now < expiredAt) ∧ isActiveUser s r.2.userId ∧
    r.2.userId ≠ targetUserId

end Queries

section Checks
variable (s : AccountStore)

/-- Without a system role an actor reaches the users of the own departments only. -/
def checkScope (target : Account) (actorId : Nat) (message : String) : Except AccountError Unit :=
  require (hasSystemRole s actorId = true ∨ ∀ departmentId ∈ target.departmentId,
    departmentId ∈ resolveDepartmentScope s.departments s.members actorId) (forbidden message)

def checkOtherAdmin (now : Int) (targetUserId : Nat) (message : String) : Except AccountError Unit :=
  require (targetIsSystemAdmin s targetUserId = true → otherAdminCount s now targetUserId ≠ 0)
    (lastSystemAdmin message)

def checkDepartmentActive (departmentId : Nat) : Except AccountError Unit := do
  let department ← expect (findDepartment s.departments departmentId) (departmentMissing departmentId)
  require (department.isActive = true) (departmentInactive departmentId)

def checkRole (roleId : Nat) (missing inactive : String) : Except AccountError Unit := do
  let role ← expect (s.roles.get? roleId) (roleNotFound [("roleId", .id roleId)] missing)
  require (role.isActive = true) (roleInactive roleId inactive)

end Checks

section Creation

structure AvatarFile where
  bufferLength : Nat
  size : Option Nat
  isImage : Bool

/-- An account of a partner; `accountExpiresAt` is `some none` where it is no instant. -/
structure PartnerPayload where
  accountExpiresAt : Option (Option Int)
  avatarFile : Option AvatarFile
  uploadFails : Bool

structure CreateUserDto where
  fullName : String
  email : String
  departmentId : Option Nat := none
  roleIds : List Nat := []
  employeeCode : Option String := none
  phoneNumber : Option String := none
  positionTitle : Option String := none
  directManagerId : Option Nat := none
  partner : Option PartnerPayload := none

def maxAvatarBytes : Nat := 5 * 1024 * 1024

def validatePartnerProvisionPayload (now : Int) (payload : PartnerPayload) :
    Except AccountError Int := do
  let sent ← expect payload.accountExpiresAt ⟨.badRequest, "ACCOUNT_EXPIRES_AT_REQUIRED",
    "Tài khoản đối tác bắt buộc có accountExpiresAt", []⟩
  let expiresAt ← expect (sent.filter (now < ·)) ⟨.badRequest, "ACCOUNT_EXPIRES_AT_MUST_BE_FUTURE",
    "accountExpiresAt phải là thời điểm tương lai", []⟩
  let file ← expect (payload.avatarFile.filter (·.bufferLength ≠ 0)) ⟨.badRequest,
    "AVATAR_FILE_REQUIRED", "Tài khoản đối tác bắt buộc đính kèm ảnh sinh trắc học", []⟩
  require (file.size.getD 0 ≤ maxAvatarBytes) ⟨.badRequest, "AVATAR_FILE_TOO_LARGE",
    "Ảnh vượt quá giới hạn 5MB", []⟩
  require (file.isImage = true) ⟨.badRequest, "AVATAR_FILE_TYPE_INVALID",
    "Ảnh phải có định dạng JPEG, PNG hoặc WEBP", []⟩
  pure expiresAt

variable (s : AccountStore)

def resolvePartnerDepartmentId : Except AccountError Nat :=
  match s.partnerDepartmentId with
  | some departmentId => pure departmentId
  | none => do
    let row ← expect
      (s.departments.departments.findOne (live fun _ d => d.departmentCode = partnerDepartmentCode))
      ⟨.internal, "", "Department với department_code='PARTNER' không tồn tại trong DB.", []⟩
    pure row.1

def departmentOf (dto : CreateUserDto) : Except AccountError Nat :=
  match dto.partner with
  | some _ => resolvePartnerDepartmentId s
  | none => expect dto.departmentId
    ⟨.badRequest, "DEPARTMENT_REQUIRED", "Phòng ban không được để trống", []⟩

/-- The end of a partner's account, once the photo is stored. -/
def partnerUpload (now : Int) (dto : CreateUserDto) : Except AccountError (Option Int) :=
  match dto.partner with
  | none => pure none
  | some payload => do
    let expiresAt ← validatePartnerProvisionPayload now payload
    require (payload.uploadFails = false) ⟨.badGateway, "PARTNER_AVATAR_STORAGE_FAILED",
      "Không thể lưu ảnh lên kho lưu trữ. Vui lòng thử lại.", []⟩
    pure (some expiresAt)

def rolesOf (dto : CreateUserDto) : Except AccountError (List Nat) :=
  match dto.partner with
  | some _ => do
    let role ← expect (s.roles.findOne fun r => r.2.roleCode = "EMPLOYEE" ∧ r.2.isActive)
      (roleNotFound [("roleCode", .text "EMPLOYEE")] "Vai trò EMPLOYEE không khả dụng trong hệ thống.")
    pure [role.1]
  | none => do
    dto.roleIds.forM fun roleId => checkRole s roleId
      "Một hoặc nhiều vai trò được chỉ định không tồn tại."
      "Một hoặc nhiều vai trò được chọn đang không hoạt động."
    pure dto.roleIds

def checkDirectManager (directManagerId : Nat) : Except AccountError Unit := do
  let manager ← expect (findUser s directManagerId) ⟨.notFound, "MANAGER_NOT_FOUND",
    "Người quản lý trực tiếp không tồn tại trong hệ thống.",
    [("directManagerId", .id directManagerId)]⟩
  require (manager.accountStatus = .active ∧ manager.employmentStatus ≠ .resigned)
    ⟨.unprocessableEntity, "MANAGER_INACTIVE_OR_UNAVAILABLE",
      "Người quản lý trực tiếp đang bị khóa hoặc đã nghỉ việc.",
      [("directManagerId", .id directManagerId)]⟩

def accountEmail (dto : CreateUserDto) : String := (trimmed dto.email).map Char.toLower

/-- The reads and checks of a creation, with the account and the roles that are inserted. -/
def newAccount (now : Int) (dto : CreateUserDto) : Except AccountError (Account × List Nat) := do
  let email := accountEmail dto
  let employeeCode := trimmedIfSent dto.employeeCode
  let departmentId ← departmentOf s dto
  let accountExpiresAt ← partnerUpload now dto
  require (findUserBy s (fun _ u => u.email = email) = none) ⟨.conflict, "ACCOUNT_EMAIL_ALREADY_EXISTS",
    "Địa chỉ email này đã được sử dụng cho một tài khoản khác.", [("email", .text email)]⟩
  require (findUserBy s (fun _ u => u.username = email) = none) ⟨.conflict,
    "ACCOUNT_USERNAME_ALREADY_EXISTS", "Tên người dùng này đã tồn tại trong hệ thống.",
    [("username", .text email)]⟩
  checkDepartmentActive s departmentId
  let roleIds ← rolesOf s dto
  onSome (employeeCode.filter (· ≠ "")) fun code =>
    require (findUserBy s (fun _ u => u.employeeCode = some code) = none) (employeeCodeTaken code)
  onSome dto.directManagerId fun directManagerId => checkDirectManager s directManagerId
  pure ({
    employeeCode := employeeCode
    username := email
    email := email
    fullName := trimmed dto.fullName
    phoneNumber := trimmedIfSent dto.phoneNumber
    departmentId := some departmentId
    directManagerId := dto.directManagerId
    positionTitle := trimmedIfSent dto.positionTitle
    employmentStatus := .active
    accountStatus := .active
    mustChangePassword := dto.partner.isNone
    failedLoginCount := 0
    lockedUntil := none
    accountExpiresAt := accountExpiresAt
    deletedAt := none }, roleIds)

def persistAccount (account : Account) (roleIds : List Nat) : AccountStore :=
  { s with
    users := s.users.insert account
    userRoles := roleIds.foldl (fun t roleId => t.insert ⟨s.users.next, roleId, true, none⟩)
      s.userRoles }

def createUser (now : Int) (dto : CreateUserDto) : Except AccountError AccountStore := do
  let (account, roleIds) ← newAccount s now dto
  let cached := match dto.partner with
    | some _ => account.departmentId
    | none => s.partnerDepartmentId
  pure { persistAccount s account roleIds with partnerDepartmentId := cached }

end Creation

section Changes

/-- `none` for a field that is not sent. A department is `some none` where null is sent, an expiry
    where it is no instant. -/
structure UpdateUserDto where
  fullName : Option String := none
  employeeCode : Option String := none
  phoneNumber : Option String := none
  positionTitle : Option String := none
  departmentId : Option (Option Nat) := none
  accountExpiresAt : Option (Option Int) := none

/-- The fields that differ from the stored ones. -/
structure AccountChanges where
  fullName : Option String
  employeeCode : Option (Option String)
  phoneNumber : Option (Option String)
  positionTitle : Option (Option String)
  departmentId : Option Nat
  accountExpiresAt : Option Int
  deriving DecidableEq, Repr

def AccountChanges.apply (changed : AccountChanges) (u : Account) : Account :=
  { u with
    fullName := changed.fullName.getD u.fullName
    employeeCode := changed.employeeCode.getD u.employeeCode
    phoneNumber := changed.phoneNumber.getD u.phoneNumber
    positionTitle := changed.positionTitle.getD u.positionTitle
    departmentId := changed.departmentId.or u.departmentId
    accountExpiresAt := changed.accountExpiresAt.or u.accountExpiresAt }

variable (s : AccountStore)

/-- `constantId` is the department that is known from the configuration of the process. -/
def isPartnerAccount (constantId : Nat) (departmentId : Option Nat) : Bool :=
  departmentId.any fun id => s.partnerDepartmentId = some id ∨ id = constantId

def checkExpiryChange (constantId : Nat) (permissions : List String) (target : Account)
    (accountExpiresAt : Option (Option Int)) : Except AccountError Unit :=
  onSome accountExpiresAt fun _ => do
    require ("account.partner.manage" ∈ permissions)
      (forbidden "Bạn không có quyền quản lý tài khoản đối tác.")
    require (isPartnerAccount s constantId target.departmentId = true) ⟨.forbidden,
      "ACCOUNT_EXPIRY_PARTNER_ONLY", "accountExpiresAt chỉ áp dụng cho tài khoản đối tác.", []⟩

def newExpiry (target : Account) (accountExpiresAt : Option (Option Int)) :
    Except AccountError (Option Int) :=
  match accountExpiresAt with
  | none => pure none
  | some sent => do
    let next ← expect sent
      ⟨.badRequest, "INVALID_ACCOUNT_EXPIRES_AT", "accountExpiresAt không hợp lệ", []⟩
    pure ((some next).filter fun next => target.accountExpiresAt ≠ some next)

def differing {α : Type} [DecidableEq α] (sent : Option α) (stored : α) : Option α :=
  sent.filter fun next => next ≠ stored

def validateUpdate (constantId : Nat) (permissions : List String) (targetUserId : Nat)
    (dto : UpdateUserDto) (actorId : Nat) : Except AccountError AccountChanges := do
  require (¬ (dto.fullName = none ∧ dto.employeeCode = none ∧ dto.phoneNumber = none ∧
    dto.positionTitle = none ∧ dto.departmentId = none ∧ dto.accountExpiresAt = none))
    ⟨.badRequest, "EMPTY_UPDATE", "Không có thông tin nào để cập nhật.", []⟩
  let target ← expect (findUser s targetUserId) userNotFound
  checkExpiryChange s constantId permissions target dto.accountExpiresAt
  checkScope s target actorId "Bạn không có quyền cập nhật hồ sơ của nhân sự này."
  let accountExpiresAt ← newExpiry target dto.accountExpiresAt
  let employeeCode := differing (dto.employeeCode.map trimmedOrNull) target.employeeCode
  let departmentId := (dto.departmentId.bind id).filter fun id => some id ≠ target.departmentId
  onSome (employeeCode.bind id) fun code =>
    require (findUserBy s (fun id u => u.employeeCode = some code ∧ id ≠ targetUserId) = none)
      (employeeCodeTaken code)
  onSome departmentId fun departmentId => do
    checkDepartmentActive s departmentId
    require (hasSystemRole s actorId = true ∨
      departmentId ∈ resolveDepartmentScope s.departments s.members actorId)
      (forbidden "Bạn không có quyền chuyển nhân sự sang phòng ban ngoài phạm vi quản lý.")
  pure {
    fullName := differing (dto.fullName.map trimmed) target.fullName
    employeeCode := employeeCode
    phoneNumber := differing (dto.phoneNumber.map trimmedOrNull) target.phoneNumber
    positionTitle := differing (dto.positionTitle.map trimmedOrNull) target.positionTitle
    departmentId := departmentId
    accountExpiresAt := accountExpiresAt }

/-- Phase A of a lock. It answers `false` where nothing is left to be done. -/
def validateLock (now : Int) (targetUserId actorId : Nat) : Except AccountError Bool := do
  let target ← expect (findUser s targetUserId) userNotFound
  checkScope s target actorId "Bạn không có quyền khóa tài khoản của nhân sự này."
  require (targetUserId ≠ actorId)
    (onOneself "CANNOT_LOCK_SELF" "Bạn không thể khóa tài khoản của chính mình.")
  if target.accountStatus = .locked then pure false
  else do
    checkOtherAdmin s now targetUserId "Không thể khóa quản trị viên hệ thống cuối cùng còn hoạt động."
    pure true

def validateUnlock (targetUserId actorId : Nat) : Except AccountError Unit := do
  let target ← expect (findUser s targetUserId) userNotFound
  checkScope s target actorId "Bạn không có quyền mở khóa tài khoản của nhân sự này."
  require (target.accountStatus = .locked) ⟨.conflict, "NOT_LOCKED",
    "Tài khoản không ở trạng thái bị khóa.",
    [("currentStatus", .text (accountStatusWire target.accountStatus))]⟩

inductive RequestedStatus where
  | active | inactive
  deriving DecidableEq, Repr

def RequestedStatus.accountStatus : RequestedStatus → Auth.AccountStatus
  | .active => .active
  | .inactive => .inactive

def validateStatus (now : Int) (targetUserId : Nat) (status : RequestedStatus) (actorId : Nat) :
    Except AccountError Bool := do
  let target ← expect (findUser s targetUserId) userNotFound
  checkScope s target actorId "Bạn không có quyền cập nhật trạng thái của nhân sự này."
  require (target.accountStatus ≠ .locked ∧ target.accountStatus ≠ .pendingReset) ⟨.conflict,
    "INVALID_STATUS_TRANSITION",
    "Không thể cập nhật trạng thái của tài khoản đang bị khóa hoặc đang chờ đặt lại mật khẩu.",
    [("currentStatus", .text (accountStatusWire target.accountStatus))]⟩
  if status.accountStatus = target.accountStatus then pure false
  else
    match status with
    | .active => pure true
    | .inactive => do
      require (targetUserId ≠ actorId) (onOneself "CANNOT_DEACTIVATE_SELF"
        "Bạn không thể vô hiệu hóa tài khoản của chính mình.")
      checkOtherAdmin s now targetUserId
        "Không thể vô hiệu hóa quản trị viên hệ thống cuối cùng còn hoạt động."
      pure true

/-- The kinds of references that keep an account from being deleted. -/
def userDependencies (engagements : Engagements) (targetUserId : Nat) : List String :=
  (if 0 < engagements.hostCount then ["upcoming_meeting_host"] else []) ++
  (if 0 < engagements.participantCount then ["upcoming_meeting_participant"] else []) ++
  (if 0 < engagements.bookingCount then ["active_booking"] else []) ++
  (if (findUserBy s fun _ u => u.directManagerId = some targetUserId ∧
      u.accountStatus = .active).isSome then ["manages_users"] else []) ++
  (if (s.departments.departments.findOne (live fun _ d => d.managerUserId = some targetUserId ∧
      d.isActive)).isSome then ["manages_department"] else [])

def validateDelete (now : Int) (engagements : Engagements) (targetUserId actorId : Nat) :
    Except AccountError Unit := do
  let _ ← expect (findUser s targetUserId) userNotFound
  require (targetUserId ≠ actorId)
    (onOneself "CANNOT_DELETE_SELF" "Bạn không thể xóa tài khoản của chính mình.")
  checkOtherAdmin s now targetUserId "Không thể xóa quản trị viên hệ thống cuối cùng còn hoạt động."
  require (userDependencies s engagements targetUserId = []) ⟨.conflict, "USER_HAS_DEPENDENCIES",
    "Không thể xóa tài khoản vì còn dữ liệu/ràng buộc liên quan đang hoạt động.",
    [("dependencies", .texts (userDependencies s engagements targetUserId))]⟩

/-- Phase A of a change of roles: the roles that come and those that go. -/
def validateRoles (targetUserId : Nat) (desiredRoleIds : List Nat) (actorId : Nat) :
    Except AccountError (List Nat × List Nat) := do
  let desired := desiredRoleIds.eraseDups
  let target ← expect (findUser s targetUserId) userNotFound
  require (target.accountStatus = .active) ⟨.unprocessableEntity, "ACCOUNT_INACTIVE",
    "Tài khoản đang bị khóa hoặc không hoạt động nên không thể cập nhật vai trò.",
    [("accountStatus", .text (accountStatusWire target.accountStatus))]⟩
  desired.forM fun roleId => checkRole s roleId
    "Một hoặc nhiều vai trò được chỉ định không tồn tại."
    "Một hoặc nhiều vai trò được chọn đang ở trạng thái không hoạt động."
  let currentRoleIds := (activeRoles s targetUserId).map fun r => r.2.roleId
  let toAdd := desired.filter fun id => id ∉ currentRoleIds
  let toRemove := currentRoleIds.filter fun id => id ∉ desired
  onSome (toRemove.find? fun id => (s.roles.get? id).any Role.isSystemRole) fun roleId =>
    require (actorId ≠ targetUserId) ⟨.unprocessableEntity, "CANNOT_MODIFY_OWN_ADMIN_ROLE",
      "Bạn không thể tự gỡ vai trò hệ thống của chính mình.", [("roleId", .id roleId)]⟩
  pure (toAdd, toRemove)

end Changes

section Transactions
variable (s : AccountStore) (targetUserId : Nat)

def writeAccount (f : Account → Account) : AccountStore :=
  { s with users := s.users.update targetUserId f }

def commitUpdate (changed : AccountChanges) : AccountStore :=
  writeAccount s targetUserId changed.apply

def commitLock : AccountStore :=
  writeAccount s targetUserId fun u => { u with accountStatus := .locked, lockedUntil := none }

def commitUnlock : AccountStore :=
  writeAccount s targetUserId fun u =>
    { u with accountStatus := .active, failedLoginCount := 0, lockedUntil := none }

def commitStatus (status : RequestedStatus) : AccountStore :=
  writeAccount s targetUserId fun u => { u with accountStatus := status.accountStatus }

/-- The roles go with the instant that the call began at, the account with that of the statement. -/
def commitDelete (begun now : Int) : AccountStore :=
  { writeAccount s targetUserId fun u => { u with deletedAt := some now } with
    userRoles := s.userRoles.updateWhere (fun r => r.2.userId = targetUserId ∧ r.2.isActive) fun r =>
      { r with isActive := false, expiredAt := some begun } }

def addRole (t : Table UserRole) (roleId : Nat) : Table UserRole :=
  match t.findOne fun r => r.2.userId = targetUserId ∧ r.2.roleId = roleId with
  | some (id, _) => t.update id fun r => { r with isActive := true, expiredAt := none }
  | none => t.insert ⟨targetUserId, roleId, true, none⟩

def commitRoles (now : Int) (toAdd toRemove : List Nat) : AccountStore :=
  { s with
    userRoles := toAdd.foldl (addRole targetUserId)
      (s.userRoles.updateWhere
        (fun r => r.2.userId = targetUserId ∧ r.2.isActive ∧ r.2.roleId ∈ toRemove)
        fun r => { r with isActive := false, expiredAt := some now }) }

end Transactions

section Requests
variable (s : AccountStore)

def updateUser (constantId : Nat) (permissions : List String) (targetUserId : Nat)
    (dto : UpdateUserDto) (actorId : Nat) : Except AccountError AccountStore := do
  let changed ← validateUpdate s constantId permissions targetUserId dto actorId
  pure (commitUpdate s targetUserId changed)

def lockUser (now : Int) (targetUserId actorId : Nat) : Except AccountError AccountStore := do
  let goesOn ← validateLock s now targetUserId actorId
  pure (if goesOn then commitLock s targetUserId else s)

def unlockUser (targetUserId actorId : Nat) : Except AccountError AccountStore := do
  validateUnlock s targetUserId actorId
  pure (commitUnlock s targetUserId)

def updateUserStatus (now : Int) (targetUserId : Nat) (status : RequestedStatus) (actorId : Nat) :
    Except AccountError AccountStore := do
  let goesOn ← validateStatus s now targetUserId status actorId
  pure (if goesOn then commitStatus s targetUserId status else s)

def deleteUser (now : Int) (engagements : Engagements) (targetUserId actorId : Nat) :
    Except AccountError AccountStore := do
  validateDelete s now engagements targetUserId actorId
  pure (commitDelete s targetUserId now now)

def updateUserRoles (now : Int) (targetUserId : Nat) (desiredRoleIds : List Nat) (actorId : Nat) :
    Except AccountError AccountStore := do
  let (toAdd, toRemove) ← validateRoles s targetUserId desiredRoleIds actorId
  pure (commitRoles s targetUserId now toAdd toRemove)

end Requests

end Accounts
