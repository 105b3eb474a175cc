import MeetingPlatform.Lib.ParentLinks
import MeetingPlatform.Lib.Runs
import MeetingPlatform.Auth.Tokens
import MeetingPlatform.Booking.Errors
import MeetingPlatform.Vehicles.PlateReads

/- Departments and their hierarchy. A request is served in one transaction, which a refusal rolls
   back. The walks up the hierarchy have no bound in the source, so they are given fuel here. Their
   queries name the columns in a list, which the library that makes the queries may refuse. -/
namespace Accounts
open KeyedTable MeetingBooking Guards ParentLinks LabelledRuns

def maxDepth : Nat := 5
def partnerDepartmentCode : String := "PARTNER"

structure Department where
  departmentCode : String
  departmentName : String
  parentDepartmentId : Option Nat
  managerUserId : Option Nat
  description : Option String
  isActive : Bool
  deletedAt : Option Int
  deriving DecidableEq, Repr

structure User where
  id : Nat
  departmentId : Option Nat
  accountStatus : Auth.AccountStatus
  employmentStatus : Auth.EmploymentStatus
  deletedAt : Option Int
  deriving DecidableEq, Repr

structure DepartmentResponse where
  id : Nat
  departmentCode : String
  departmentName : String
  parentDepartmentId : Option Nat
  managerUserId : Option Nat
  description : Option String
  isActive : Bool
  memberCount : Nat
  deriving DecidableEq, Repr

/-- The table, and the responses that are kept by creator and key with the hash of their payload. -/
structure DepartmentStore where
  departments : Table Department
  idempotencyCache : List ((Nat × String) × DepartmentResponse × String)

def DepartmentStore.empty : DepartmentStore := ⟨Table.empty, []⟩

structure CreateDepartmentDto where
  departmentCode : String
  departmentName : String
  parentDepartmentId : Option Nat := none
  managerUserId : Option Nat := none
  description : Option String := none

/-- `none` for a field that is not sent, `some none` for one that is sent as null. -/
structure UpdateDepartmentDto where
  departmentName : Option String := none
  parentDepartmentId : Option (Option Nat) := none
  managerUserId : Option (Option Nat) := none
  description : Option (Option String) := none

/-- A request is refused, breaks off in the library below, or never comes to an end. -/
inductive Failure where
  | thrown (e : ApiError)
  | propertyNotFound
  | endless
  deriving DecidableEq, Repr

section Errors

def fieldError (exception : HttpException) (code message field : String) : Failure :=
  .thrown ⟨exception, code, message, [("field", .text field)]⟩

def idempotencyKeyReused : Failure :=
  .thrown ⟨.conflict, "IDEMPOTENCY_KEY_REUSED_WITH_DIFFERENT_PAYLOAD",
    "Idempotency-Key da duoc su dung voi payload khac.", []⟩

def alreadyExists (message field : String) : Failure :=
  fieldError .conflict "DEPARTMENT_ALREADY_EXISTS" message field

def parentNotFound (message : String) : Failure :=
  fieldError .notFound "RESOURCE_NOT_FOUND" message "parentDepartmentId"

def managerNotFound (message : String) : Failure :=
  fieldError .notFound "RESOURCE_NOT_FOUND" message "managerUserId"

def invalidParent (message : String) : Failure :=
  fieldError .unprocessableEntity "VALIDATION_ERROR" message "parentDepartmentId"

def emptyUpdatePayload : Failure :=
  .thrown ⟨.badRequest, "EMPTY_UPDATE_PAYLOAD", "Phải cung cấp ít nhất một trường để cập nhật.", []⟩

def departmentNotFound (id : Nat) : Failure :=
  .thrown ⟨.notFound, "DEPARTMENT_NOT_FOUND", "Phòng ban không tồn tại hoặc đã bị xóa.",
    [("id", .id id)]⟩

def partnerProtected (message : String) : Failure :=
  .thrown ⟨.forbidden, "PARTNER_DEPARTMENT_PROTECTED", message, []⟩

def alreadyInactive (id : Nat) : Failure :=
  .thrown ⟨.conflict, "DEPARTMENT_ALREADY_INACTIVE",
    "Phòng ban đã ở trạng thái không hoạt động.", [("id", .id id)]⟩

def hasActiveChildren (ids : List Nat) : Failure :=
  .thrown ⟨.conflict, "DEPARTMENT_HAS_ACTIVE_CHILDREN",
    "Không thể vô hiệu hoá: phòng ban còn phòng ban con đang hoạt động.",
    [("childDepartmentIds", .ids ids)]⟩

def hasActiveMembers (count : Nat) : Failure :=
  .thrown ⟨.conflict, "DEPARTMENT_HAS_ACTIVE_MEMBERS",
    "Không thể vô hiệu hoá: phòng ban còn nhân viên đang hoạt động.",
    [("activeMemberCount", .number count)]⟩

def alreadyActive (id : Nat) : Failure :=
  .thrown ⟨.conflict, "DEPARTMENT_ALREADY_ACTIVE", "Phòng ban đã ở trạng thái hoạt động.",
    [("id", .id id)]⟩

def parentInactive (parentId : Nat) : Failure :=
  .thrown ⟨.conflict, "PARENT_DEPARTMENT_INACTIVE",
    "Không thể kích hoạt lại: phòng ban cha đang không hoạt động.",
    [("parentDepartmentId", .id parentId)]⟩

end Errors

section Texts

def trimmed (text : String) : String := String.ofList (Anpr.trim text.toList)

/-- What is left of a text when each `<` with the next `>` after it is cut out. -/
def stripTags : Bool → List Char → List Char
  | _, [] => []
  | true, c :: rest => stripTags (c != '>') rest
  | false, c :: rest =>
    if c = '<' ∧ '>' ∈ rest then stripTags true rest else c :: stripTags false rest

def stripHtml (input : String) : String := String.ofList (stripTags false input.toList)

example : stripHtml "<b>IT</b> 2 < 3" = "IT 2 < 3" := by decide +kernel

def normalizeCode (code : String) : String := (trimmed code).map Char.toUpper

def hashPayload (dto : CreateDepartmentDto) : String :=
  normalizeCode dto.departmentCode ++ "::" ++ trimmed dto.departmentName

end Texts

section FindOptions

/-- The `select` of a query, written as an object or as a list of names. -/
inductive Select where
  | fields (names : List String)
  | list (names : List String)

def Select.keys : Select → List String
  | .fields names => names
  | .list names => (List.range names.length).map toString

/-- The library that makes the queries; a `select` that it does not admit makes it throw. -/
structure Orm where
  admits : Select → Bool

def departmentProperties : List String :=
  ["id", "departmentCode", "departmentName", "parentDepartmentId", "managerUserId", "description",
    "isActive", "createdBy", "updatedBy", "createdAt", "updatedAt", "deletedAt", "parentDepartment",
    "children"]

/-- The keys of a `select` have to be properties of the entity, as in version 1.0 of the library. -/
def Orm.RefusesUnknown (orm : Orm) : Prop :=
  ∀ select, (∃ key ∈ Select.keys select, key ∉ departmentProperties) → orm.admits select = false

def checkingOrm : Orm := ⟨fun select => select.keys.all fun key => departmentProperties.contains key⟩

def parentSelect : Select := .list ["id", "parentDepartmentId"]

end FindOptions

section Queries
variable (orm : Orm) (s : DepartmentStore)

def findDepartment (id : Nat) : Option Department :=
  (s.departments.get? id).filter fun d => d.deletedAt.isNone

def live (p : Nat → Department → Bool) (r : Nat × Department) : Bool :=
  r.2.deletedAt.isNone && p r.1 r.2

def parentOf (id : Nat) : Option Nat := (findDepartment s id).bind Department.parentDepartmentId

def activeChildren (id : Nat) : List Nat :=
  (s.departments.select (live fun _ d => d.parentDepartmentId = some id ∧ d.isActive)).map Prod.fst

def countActiveMembers (users : List User) (departmentId : Nat) : Nat :=
  users.countP fun u => u.departmentId = some departmentId ∧ u.deletedAt = none ∧
    u.accountStatus = .active ∧ (u.employmentStatus = .active ∨ u.employmentStatus = .probation)

/-- Endless where the walk is still going on when the fuel is used up. -/
def wouldCreateCycle (currentId : Nat) : Nat → Option Nat → Except Failure Bool
  | 0, _ => .error .endless
  | _ + 1, none => .ok false
  | fuel + 1, some cursor =>
    if cursor = currentId then .ok true
    else if orm.admits parentSelect = false then .error .propertyNotFound
    else
      match findDepartment s cursor with
      | none => .ok false
      | some dept => wouldCreateCycle currentId fuel dept.parentDepartmentId

def depthFrom : Nat → Nat → Nat → Except Failure Nat
  | 0, _, _ => .error .endless
  | fuel + 1, currentId, depth =>
    if orm.admits parentSelect = false then .error .propertyNotFound
    else
      match (findDepartment s currentId).bind Department.parentDepartmentId with
      | none => .ok depth
      | some parentId => depthFrom fuel parentId (depth + 1)

def calcDepth (fuel deptId : Nat) : Except Failure Nat := depthFrom orm s fuel deptId 1

def walkFuel : Nat := s.departments.rows.length + 2

def toResponse (id : Nat) (dept : Department) (memberCount : Nat) : DepartmentResponse where
  id := id
  departmentCode := dept.departmentCode
  departmentName := dept.departmentName
  parentDepartmentId := dept.parentDepartmentId
  managerUserId := dept.managerUserId
  description := dept.description
  isActive := dept.isActive
  memberCount := memberCount

end Queries

section Operations
variable (orm : Orm) (s : DepartmentStore) (users : List User)

def checkParentActive (parentId : Nat) (message : String) : Except Failure Unit := do
  let parent ← expect (findDepartment s parentId) (parentNotFound message)
  require (parent.isActive = true) (parentNotFound message)

def checkDepth (parentId : Nat) (message : String) : Except Failure Unit := do
  let depth ← calcDepth orm s (walkFuel s) parentId
  require (¬ maxDepth < depth + 1) (invalidParent message)

def checkManager (managerId : Nat) (message : String) : Except Failure Unit := do
  let manager ← expect (users.find? fun u => u.id = managerId ∧ u.deletedAt = none)
    (managerNotFound message)
  require (manager.accountStatus = .active) (managerNotFound message)

def newDepartment (dto : CreateDepartmentDto) : Except Failure Department := do
  let departmentCode := normalizeCode dto.departmentCode
  let departmentName := stripHtml (trimmed dto.departmentName)
  require (s.departments.findOne (live fun _ d => d.departmentCode = departmentCode) = none)
    (alreadyExists "Ma phong ban nay da duoc su dung." "departmentCode")
  require (s.departments.findOne (live fun _ d => d.departmentName = departmentName) = none)
    (alreadyExists "Ten phong ban nay da duoc su dung." "departmentName")
  onSome dto.parentDepartmentId fun parentId => do
    checkParentActive s parentId "Phong ban cha khong ton tai hoac khong hoat dong."
    checkDepth orm s parentId "Cay phan cap phong ban khong duoc vuot qua 5 cap."
  onSome dto.managerUserId fun managerId =>
    checkManager users managerId "Nguoi quan ly khong ton tai hoac khong hoat dong."
  return {
    departmentCode := departmentCode
    departmentName := departmentName
    parentDepartmentId := dto.parentDepartmentId
    managerUserId := dto.managerUserId
    description := ((dto.description.map trimmed).filter (· ≠ "")).map stripHtml
    isActive := true
    deletedAt := none }

def cached (key : Nat × String) : Option (DepartmentResponse × String) :=
  (s.idempotencyCache.find? fun entry => entry.1 = key).map Prod.snd

def cacheKey (creatorId : Nat) (idempotencyKey : Option String) : Option (Nat × String) :=
  (idempotencyKey.filter (· ≠ "")).map fun key => (creatorId, key)

def createDepartment (dto : CreateDepartmentDto) (creatorId : Nat) (idempotencyKey : Option String) :
    Except Failure (DepartmentResponse × DepartmentStore) :=
  match (cacheKey creatorId idempotencyKey).bind (cached s) with
  | some (response, payloadHash) =>
    if payloadHash = hashPayload dto then .ok (response, s) else .error idempotencyKeyReused
  | none => do
    let dept ← newDepartment orm s users dto
    let response := toResponse s.departments.next dept 0
    let entry := (cacheKey creatorId idempotencyKey).map fun key => (key, response, hashPayload dto)
    return (response, ⟨s.departments.insert dept, entry.toList ++ s.idempotencyCache⟩)

def newName (id : Nat) (dept : Department) (dto : UpdateDepartmentDto) : Except Failure String :=
  match dto.departmentName with
  | none => .ok dept.departmentName
  | some departmentName => do
    let sanitized := stripHtml departmentName
    let existingName := s.departments.findOne (live fun _ d => d.departmentName = sanitized)
    require (sanitized = dept.departmentName ∨ ∀ r ∈ existingName, r.1 = id)
      (alreadyExists "Tên phòng ban này đã được sử dụng." "departmentName")
    return sanitized

def newParent (id : Nat) (dept : Department) (dto : UpdateDepartmentDto) :
    Except Failure (Option Nat) :=
  match dto.parentDepartmentId with
  | none => .ok dept.parentDepartmentId
  | some none => .ok none
  | some (some newParentId) => do
    require (newParentId ≠ id) (invalidParent "Phòng ban không thể là cha của chính nó.")
    checkParentActive s newParentId "Phòng ban cha không tồn tại hoặc không hoạt động."
    let cycle ← wouldCreateCycle orm s id (walkFuel s) (some newParentId)
    require (cycle = false) (invalidParent
      "Không thể đặt phòng ban cha là hậu duệ của chính phòng ban này (tạo chu trình).")
    checkDepth orm s newParentId "Cây phân cấp phòng ban không được vượt quá 5 cấp."
    return some newParentId

def newManager (dept : Department) (dto : UpdateDepartmentDto) : Except Failure (Option Nat) :=
  match dto.managerUserId with
  | none => .ok dept.managerUserId
  | some none => .ok none
  | some (some managerId) => do
    checkManager users managerId "Người quản lý không tồn tại hoặc không hoạt động."
    return some managerId

/-- All the reads and checks of an update: the row as it was found, and as it is written back. -/
def edited (id : Nat) (dto : UpdateDepartmentDto) : Except Failure (Department × Department) := do
  require (¬ (dto.departmentName = none ∧ dto.parentDepartmentId = none ∧
    dto.managerUserId = none ∧ dto.description = none)) emptyUpdatePayload
  let dept ← expect (findDepartment s id) (departmentNotFound id)
  require (dept.departmentCode ≠ partnerDepartmentCode)
    (partnerProtected "Không thể sửa department cố định đánh dấu tài khoản đối tác.")
  let departmentName ← newName s id dept dto
  let parentDepartmentId ← newParent orm s id dept dto
  let managerUserId ← newManager users dept dto
  let description := match dto.description with
    | none => dept.description
    | some description => description.map stripHtml
  return (dept, { dept with
    departmentName := departmentName
    parentDepartmentId := parentDepartmentId
    managerUserId := managerUserId
    description := description })

def updateDepartment (id : Nat) (dto : UpdateDepartmentDto) :
    Except Failure (DepartmentResponse × DepartmentStore) := do
  let (_, dept) ← edited orm s users id dto
  return (toResponse id dept (countActiveMembers users id),
    { s with departments := s.departments.save id dept })

def deactivateDepartment (id : Nat) : Except Failure (DepartmentResponse × DepartmentStore) := do
  let dept ← expect (findDepartment s id) (departmentNotFound id)
  require (dept.departmentCode ≠ partnerDepartmentCode) (partnerProtected
    "Không thể vô hiệu hoá department cố định đánh dấu tài khoản đối tác.")
  require (dept.isActive = true) (alreadyInactive id)
  require (activeChildren s id = []) (hasActiveChildren (activeChildren s id))
  require (countActiveMembers users id = 0) (hasActiveMembers (countActiveMembers users id))
  return (toResponse id { dept with isActive := false } 0,
    { s with departments := s.departments.update id fun d => { d with isActive := false } })

def reactivateDepartment (id : Nat) : Except Failure (DepartmentResponse × DepartmentStore) := do
  let dept ← expect (findDepartment s id) (departmentNotFound id)
  require (dept.isActive = false) (alreadyActive id)
  onSome dept.parentDepartmentId fun parentId =>
    require (∀ parent ∈ findDepartment s parentId, parent.isActive = true) (parentInactive parentId)
  return (toResponse id { dept with isActive := true } 0,
    { s with departments := s.departments.update id fun d => { d with isActive := true } })

end Operations

section Steps

inductive DepartmentRequest where
  | create (users : List User) (dto : CreateDepartmentDto) (creatorId : Nat)
      (idempotencyKey : Option String)
  | update (users : List User) (id : Nat) (dto : UpdateDepartmentDto)
  | deactivate (users : List User) (id : Nat)
  | reactivate (id : Nat)

/-- A request, or the timer that takes a response out of the cache. -/
inductive DepartmentEvent where
  | request (r : DepartmentRequest)
  | forget (key : Nat × String)

def DepartmentStore.serve (orm : Orm) (s : DepartmentStore) :
    DepartmentRequest → Except Failure (DepartmentResponse × DepartmentStore)
  | .create users dto creatorId idempotencyKey =>
    createDepartment orm s users dto creatorId idempotencyKey
  | .update users id dto => updateDepartment orm s users id dto
  | .deactivate users id => deactivateDepartment s users id
  | .reactivate id => reactivateDepartment s id

def DepartmentStore.next (orm : Orm) (s : DepartmentStore) : DepartmentEvent → DepartmentStore
  | .request r =>
    match s.serve orm r with
    | .ok done => done.2
    | .error _ => s
  | .forget key => { s with idempotencyCache := s.idempotencyCache.filter fun entry => entry.1 ≠ key }

def Step (orm : Orm) (s : DepartmentStore) (e : DepartmentEvent) (t : DepartmentStore) : Prop :=
  t = s.next orm e

def movedBy (orm : Orm) (s : DepartmentStore) (users : List User) (id : Nat)
    (dto : UpdateDepartmentDto) : Option (Nat × Nat) :=
  match dto.parentDepartmentId, updateDepartment orm s users id dto with
  | some (some newParentId), .ok _ => some (id, newParentId)
  | _, _ => none

/-- The department that an accepted request puts under a new parent, with that parent. -/
def moved (orm : Orm) (s : DepartmentStore) : DepartmentEvent → Option (Nat × Nat)
  | .request (.update users id dto) => movedBy orm s users id dto
  | _ => none

def creation (name : String) (parentDepartmentId : Option Nat) : DepartmentEvent :=
  .request (.create [] ⟨name, name, parentDepartmentId, none, none⟩ 0 none)

def reparenting (id parentDepartmentId : Nat) : DepartmentEvent :=
  .request (.update [] id { parentDepartmentId := some (some parentDepartmentId) })

end Steps

end Accounts
