import MeetingPlatform.Accounts.Users
import MeetingPlatform.Lib.CallPool
import MeetingPlatform.Lib.TableWrites

/- The permissions of roles. Who may change something has to be able to see it: an assignment brings
   the permissions along that others require, and a revocation is refused while one is required. Each
   call reads first and writes later. -/
namespace Accounts
open KeyedTable Guards LabelledRuns CallPools

section Requirements
variable {α : Type}

/-- Whatever is held comes with all that it requires. -/
def ClosedUnder (requires : α → List α) (held : List α) : Prop :=
  ∀ c ∈ held, ∀ d ∈ requires c, d ∈ held

instance [DecidableEq α] (requires : α → List α) (held : List α) :
    Decidable (ClosedUnder requires held) :=
  inferInstanceAs (Decidable (∀ c ∈ held, ∀ d ∈ requires c, d ∈ held))

variable {requires : α → List α} {held left more : List α}

theorem closed_with (closed : ClosedUnder requires held) : ClosedUnder requires (held ++ more) ↔
    ∀ c ∈ more, ∀ d ∈ requires c, d ∈ held ++ more := by
  constructor
  · intro both c there
    exact both c (List.mem_append_right _ there)
  · intro added c there d needed
    rcases List.mem_append.mp there with old | new
    · exact List.mem_append_left _ (closed c old d needed)
    · exact added c new d needed

theorem closed_without {removed : Option α} (closed : ClosedUnder requires held)
    (parts : ∀ c, c ∈ held ↔ c ∈ left ∨ removed = some c) : ClosedUnder requires left ↔
      ∀ x ∈ removed, x ∈ left ∨ ∀ c ∈ left, x ∉ requires c := by
  constructor
  · intro rest x gone
    by_cases required : ∃ c ∈ left, x ∈ requires c
    · obtain ⟨c, there, needed⟩ := required
      exact Or.inl (rest c there x needed)
    · exact Or.inr fun c there needed => required ⟨c, there, needed⟩
  · intro spared c there d needed
    rcases (parts d).mp (closed c ((parts c).mpr (Or.inl there)) d needed) with kept | gone
    · exact kept
    · exact (spared d gone).resolve_right fun unneeded => unneeded c there needed

end Requirements

section Tables

structure Permission where
  permissionCode : String
  moduleCode : String
  isActive : Bool
  deriving DecidableEq, Repr

structure RolePermission where
  roleId : Nat
  permissionId : Nat
  deriving DecidableEq, Repr

structure PermissionStore where
  roles : Table Role
  permissions : Table Permission
  rolePermissions : Table RolePermission

def permissionDependencies : List (String × List String) :=
  [("zones.zone.create", ["zones.zone.read"]), ("zones.zone.update", ["zones.zone.read"]),
    ("zones.zone.delete", ["zones.zone.read"]), ("zones.zone.assign_device", ["zones.zone.read"]),
    ("equipment.create", ["equipment.read"]), ("equipment.delete", ["equipment.read"]),
    ("equipment.assign", ["equipment.read"]), ("equipment.report_fault", ["equipment.read"]),
    ("account.role.create", ["account.role.read"]), ("account.role.update", ["account.role.read"]),
    ("account.role.delete", ["account.role.read"]), ("department.update", ["department.read"]),
    ("alert_rules.create", ["alert_rules.read"]), ("alert_rules.update", ["alert_rules.read"]),
    ("alert_rules.delete", ["alert_rules.read"]),
    ("person_control_list.create", ["person_control_list.read"]),
    ("person_control_list.update", ["person_control_list.read"]),
    ("person_control_list.delete", ["person_control_list.read"]),
    ("security_alert.acknowledge", ["security_alert.read"]),
    ("security_alert.resolve", ["security_alert.read"]),
    ("vehicle_control.create", ["vehicle_control.read"]),
    ("vehicle_control.update", ["vehicle_control.read"]),
    ("vehicle_control.delete", ["vehicle_control.read"]),
    ("meeting_request.approve", ["meeting_request.read"]),
    ("meeting_request.reject", ["meeting_request.read"]), ("face.unmapped.map", ["face.unmapped.read"]),
    ("recording.config.update", ["recording.config.read"]),
    ("recording.files.manage", ["recording.files.read"]),
    ("recording.files.play", ["recording.files.read"]), ("room.noshow.configure", ["room.noshow.read"]),
    ("room.noshow.release", ["room.noshow.read"]), ("room.noshow.update", ["room.noshow.read"])]

def getPermissionDependencies (permissionCode : String) : List String :=
  (permissionDependencies.lookup permissionCode).getD []

theorem dependencies_flat {code needed : String} (there : needed ∈ getPermissionDependencies code) :
    getPermissionDependencies needed = [] := by
  have flat : ∀ entry ∈ permissionDependencies, ∀ needed ∈ entry.2,
      getPermissionDependencies needed = [] := by decide +kernel
  unfold getPermissionDependencies at there
  cases found : permissionDependencies.lookup code with
  | none =>
    rw [found] at there
    cases there
  | some needs =>
    rw [found] at there
    obtain ⟨front, back, split, -⟩ := List.lookup_eq_some_iff.mp found
    have entry : (code, needs) ∈ permissionDependencies := by
      rw [split]
      exact List.mem_append_right _ List.mem_cons_self
    exact flat _ entry needed there

end Tables

section Codes
variable (s : PermissionStore)

def permissionCode (permissionId : Nat) : Option String :=
  (s.permissions.get? permissionId).map Permission.permissionCode

def codesOf (permissionIds : List Nat) : List String := permissionIds.filterMap (permissionCode s)

def givenCode (roleId : Nat) (r : RolePermission) : Option String :=
  if r.roleId = roleId then permissionCode s r.permissionId else none

def heldCodes (roleId : Nat) : List String :=
  (s.rolePermissions.rows.map Prod.snd).filterMap (givenCode s roleId)

def leftCodes (roleId recordId : Nat) : List String :=
  heldCodes { s with rolePermissions := s.rolePermissions.deleteWhere fun r => r.1 = recordId } roleId

def Closed (roleId : Nat) : Prop := ClosedUnder getPermissionDependencies (heldCodes s roleId)

instance (roleId : Nat) : Decidable (Closed s roleId) :=
  inferInstanceAs (Decidable (ClosedUnder _ _))

end Codes

section Calls

structure AssignPermissionsResponse where
  assigned : List Nat
  skippedAlreadyAssigned : List Nat
  skippedDuplicatedInRequest : List Nat
  autoAddedDueToDependency : List Nat
  deriving DecidableEq, Repr

def roleMissing : AccountError := roleNotFound [] "Role không tồn tại."

def idTexts (ids : List Nat) : List String := ids.map toString

def permissionsMissing (missingIds : List Nat) : AccountError :=
  ⟨.notFound, "PERMISSION_NOT_FOUND",
    "Permission không tồn tại: " ++ ", ".intercalate (idTexts missingIds),
    [("missingIds", .texts (idTexts missingIds))]⟩

def dependenciesMissing (missingDependencyCodes : List String) : AccountError :=
  ⟨.notFound, "PERMISSION_DEPENDENCY_NOT_FOUND",
    "Permission phụ thuộc (dependsOn) không tồn tại trong catalog: " ++
      ", ".intercalate missingDependencyCodes,
    [("missingDependencyCodes", .texts missingDependencyCodes)]⟩

def permissionInactive (permission : Nat × Permission) : AccountError :=
  ⟨.unprocessableEntity, "PERMISSION_INACTIVE",
    "Permission '" ++ permission.2.permissionCode ++ "' đang ở trạng thái inactive, không thể gán.",
    [("permissionId", .id permission.1)]⟩

def permissionRequired (code dependentCode : String) : AccountError :=
  ⟨.unprocessableEntity, "PERMISSION_STILL_REQUIRED_BY_DEPENDENT",
    "Không thể gỡ '" ++ code ++ "' vì '" ++ dependentCode ++ "' vẫn đang được gán và cần quyền này.",
    [("dependentPermissionCode", .text dependentCode)]⟩

variable (s : PermissionStore)

def duplicatesInRequest (permissionIds : List Nat) : List Nat :=
  (permissionIds.zipIdx.filter fun entry => permissionIds.idxOf entry.1 ≠ entry.2).map Prod.fst

/-- The permissions that those requested depend on and that are not among them. -/
def dependencyCodesNeeded (requestedPermissions : List (Nat × Permission)) : List String :=
  ((requestedPermissions.flatMap fun p => getPermissionDependencies p.2.permissionCode).filter fun code =>
    code ∉ requestedPermissions.map fun p => p.2.permissionCode).eraseDups

def resolvePermissions (permissionIds : List Nat) :
    Except AccountError (List (Nat × Permission) × List (Nat × Permission)) := do
  let requestedPermissions := s.permissions.select fun r => r.1 ∈ permissionIds
  require (requestedPermissions.length = permissionIds.length) (permissionsMissing
    (permissionIds.filter fun id => id ∉ requestedPermissions.map Prod.fst))
  let needed := dependencyCodesNeeded requestedPermissions
  let dependencyPermissions := s.permissions.select fun r => r.2.permissionCode ∈ needed
  let missing := needed.filter fun code =>
    code ∉ dependencyPermissions.map fun p => p.2.permissionCode
  require (missing = []) (dependenciesMissing missing)
  onSome ((requestedPermissions ++ dependencyPermissions).find? fun p => !p.2.isActive) fun p =>
    .error (permissionInactive p)
  pure (requestedPermissions, dependencyPermissions)

/-- The reads of an assignment: what it is to insert, and its answer. -/
def assignPlan (roleId : Nat) (requestedIds : List Nat) :
    Except AccountError (List Nat × AssignPermissionsResponse) := do
  let _ ← expect (s.roles.get? roleId) roleMissing
  let distinct := requestedIds.eraseDups
  let (_, dependencyPermissions) ← resolvePermissions s distinct
  let autoAddedPermissionIds := dependencyPermissions.map Prod.fst
  let permissionIds := distinct ++ autoAddedPermissionIds
  let existing := (s.rolePermissions.select fun r =>
    r.2.roleId = roleId ∧ r.2.permissionId ∈ permissionIds).map fun r => r.2.permissionId
  let toAssign := permissionIds.filter fun id => id ∉ existing
  pure (toAssign, {
    assigned := toAssign
    skippedAlreadyAssigned := permissionIds.filter fun id => id ∈ existing
    skippedDuplicatedInRequest := duplicatesInRequest requestedIds
    autoAddedDueToDependency := autoAddedPermissionIds.filter fun id => id ∈ toAssign })

/-- No record stands in the way of the unique key of roles and permissions. -/
def Insertable (roleId : Nat) (toAssign : List Nat) : Prop :=
  ∀ r ∈ s.rolePermissions.rows, ¬ (r.2.roleId = roleId ∧ r.2.permissionId ∈ toAssign)

instance (roleId : Nat) (toAssign : List Nat) : Decidable (Insertable s roleId toAssign) :=
  inferInstanceAs (Decidable (∀ r ∈ s.rolePermissions.rows, ¬ (_ ∧ _)))

/-- The insert of all records at once, which a duplicate undoes as a whole. -/
def insertPermissions (roleId : Nat) (toAssign : List Nat) : PermissionStore :=
  if Insertable s roleId toAssign then
    { s with rolePermissions :=
        s.rolePermissions.insertEach (toAssign.map fun permissionId => ⟨roleId, permissionId⟩) }
  else s

def revokeCheck (roleId permissionId : Nat) : Except AccountError Nat := do
  let role ← expect (s.roles.get? roleId) roleMissing
  let record ← expect (s.rolePermissions.findOne fun r =>
    r.2.roleId = roleId ∧ r.2.permissionId = permissionId) ⟨.notFound, "PERMISSION_NOT_ASSIGNED",
      "Permission chưa được gán cho role này.", []⟩
  let permission := s.permissions.get? permissionId
  require (¬ (role.isSystemRole ∧ permission.any fun p => p.moduleCode = "admin"))
    ⟨.unprocessableEntity, "CANNOT_REVOKE_SYSTEM_PERMISSION",
      "Không thể gỡ permission module admin khỏi system role để tránh lockout hệ thống.", []⟩
  onSome (permissionCode s permissionId) fun code =>
    onSome ((s.rolePermissions.select fun r => r.2.roleId = roleId ∧ r.2.permissionId ≠ permissionId ∧
      (permissionCode s r.2.permissionId).any fun c => code ∈ getPermissionDependencies c).head?) fun r =>
        .error (permissionRequired code ((permissionCode s r.2.permissionId).getD ""))
  pure record.1

def removeRecord (recordId : Nat) : PermissionStore :=
  { s with rolePermissions := s.rolePermissions.deleteWhere fun r => r.1 = recordId }

def assign (roleId : Nat) (permissionIds : List Nat) :
    Except AccountError (AssignPermissionsResponse × PermissionStore) := do
  let (toAssign, response) ← assignPlan s roleId permissionIds
  pure (response, insertPermissions s roleId toAssign)

def revoke (roleId permissionId : Nat) : Except AccountError PermissionStore := do
  let recordId ← revokeCheck s roleId permissionId
  pure (removeRecord s recordId)

inductive PermissionRequest where
  | assign (roleId : Nat) (permissionIds : List Nat)
  | revoke (roleId permissionId : Nat)

inductive PermissionCall where
  | asked (r : PermissionRequest)
  | inserting (roleId : Nat) (toAssign : List Nat)
  | removing (recordId : Nat)

def PermissionCall.access (c : PermissionCall) (s : PermissionStore) :
    PermissionStore × Option PermissionCall :=
  match c with
  | .asked (.assign roleId permissionIds) =>
    (s, (((assignPlan s roleId permissionIds).toOption.map Prod.fst).filter fun toAssign =>
      toAssign ≠ []).map (.inserting roleId))
  | .asked (.revoke roleId permissionId) =>
    (s, (revokeCheck s roleId permissionId).toOption.map .removing)
  | .inserting roleId toAssign => (insertPermissions s roleId toAssign, none)
  | .removing recordId => (removeRecord s recordId, none)

def permissionCalls : Service PermissionStore PermissionCall PermissionRequest where
  clock _ := 0
  admits _ _ := True
  enter _ r := .asked r
  act _ c s := c.access s

instance (s : PermissionStore) (r : PermissionRequest) : Decidable (permissionCalls.admits s r) :=
  inferInstanceAs (Decidable True)

end Calls

section Writes
variable {s : PermissionStore} {roleId recordId : Nat} {toAssign : List Nat} {code : String}

theorem mem_heldCodes : code ∈ heldCodes s roleId ↔ ∃ r ∈ s.rolePermissions.rows,
    r.2.roleId = roleId ∧ permissionCode s r.2.permissionId = some code := by
  simp only [heldCodes, List.mem_filterMap, List.mem_map, givenCode]
  constructor
  · rintro ⟨_, ⟨r, there, rfl⟩, given⟩
    split at given
    · rename_i own
      exact ⟨r, there, own, given⟩
    · cases given
  · rintro ⟨r, there, own, given⟩
    exact ⟨r.2, ⟨r, there, rfl⟩, (if_pos own).trans given⟩

theorem heldCodes_insert (other : Nat) : heldCodes { s with
    rolePermissions := s.rolePermissions.insertEach
      (toAssign.map fun permissionId => ⟨roleId, permissionId⟩) } other =
    heldCodes s other ++ if roleId = other then codesOf s toAssign else [] := by
  rw [heldCodes, insertEach_rows, List.filterMap_append]
  refine congrArg (heldCodes s other ++ ·) ?_
  rw [List.filterMap_map]
  split
  · rename_i same
    refine List.filterMap_congr ?_
    intro permissionId _
    exact if_pos same
  · rename_i apart
    refine List.filterMap_eq_nil_iff.mpr ?_
    intro permissionId _
    exact if_neg apart

/-- What an insert needs: all that the new permissions require is held, or comes along. -/
def InsertFits (s : PermissionStore) (roleId : Nat) (toAssign : List Nat) : Prop :=
  ∀ code ∈ codesOf s toAssign, ∀ needed ∈ getPermissionDependencies code,
    needed ∈ heldCodes s roleId ++ codesOf s toAssign

instance : Decidable (InsertFits s roleId toAssign) :=
  inferInstanceAs (Decidable (∀ code ∈ codesOf s toAssign, ∀ needed ∈ getPermissionDependencies code,
    needed ∈ heldCodes s roleId ++ codesOf s toAssign))

theorem insert_closed {writer : Nat} (closed : Closed s roleId) :
    Closed (insertPermissions s writer toAssign) roleId ↔
      (writer = roleId → Insertable s writer toAssign → InsertFits s roleId toAssign) := by
  unfold insertPermissions
  split
  · rename_i insertable
    change ClosedUnder _ (heldCodes _ roleId) ↔ _
    rw [heldCodes_insert]
    split
    · rename_i same
      rw [forall_prop_of_true same, forall_prop_of_true insertable]
      exact closed_with closed
    · rename_i apart
      rw [List.append_nil]
      exact iff_of_true closed fun same => absurd same apart
  · rename_i refused
    exact iff_of_true closed fun _ insertable => absurd insertable refused

def removedCode (s : PermissionStore) (roleId recordId : Nat) : Option String :=
  (s.rolePermissions.get? recordId).bind (givenCode s roleId)

/-- What a deletion needs: nothing that is left requires the code, or it is held by another record. -/
def RemovalFits (s : PermissionStore) (roleId recordId : Nat) : Prop :=
  ∀ code ∈ removedCode s roleId recordId, code ∈ leftCodes s roleId recordId ∨
    ∀ dependent ∈ leftCodes s roleId recordId, code ∉ getPermissionDependencies dependent

instance : Decidable (RemovalFits s roleId recordId) :=
  inferInstanceAs (Decidable (∀ code ∈ removedCode s roleId recordId, _ ∨ ∀ dependent ∈ _, _))

theorem mem_leftCodes : code ∈ leftCodes s roleId recordId ↔ ∃ r ∈ s.rolePermissions.rows,
    r.1 ≠ recordId ∧ r.2.roleId = roleId ∧ permissionCode s r.2.permissionId = some code := by
  rw [leftCodes, mem_heldCodes]
  constructor
  · rintro ⟨r, there, own, given⟩
    obtain ⟨old, kept⟩ := List.mem_filter.mp there
    exact ⟨r, old, by simpa using kept, own, given⟩
  · rintro ⟨r, old, kept, own, given⟩
    exact ⟨r, List.mem_filter.mpr ⟨old, by simpa using kept⟩, own, given⟩

theorem held_parts (code : String) : code ∈ heldCodes s roleId ↔
    code ∈ leftCodes s roleId recordId ∨ removedCode s roleId recordId = some code := by
  rw [mem_heldCodes, mem_leftCodes, removedCode, Option.bind_eq_some_iff]
  constructor
  · rintro ⟨r, there, own, given⟩
    by_cases same : r.1 = recordId
    · exact Or.inr ⟨r.2, get?_eq_some.mpr (same ▸ there), (if_pos own).trans given⟩
    · exact Or.inl ⟨r, there, same, own, given⟩
  · rintro (⟨r, there, -, own, given⟩ | ⟨r, found, given⟩)
    · exact ⟨r, there, own, given⟩
    · rw [givenCode] at given
      split at given
      · rename_i own
        exact ⟨(recordId, r), get?_eq_some.mp found, own, given⟩
      · cases given

theorem remove_closed (closed : Closed s roleId) :
    Closed (removeRecord s recordId) roleId ↔ RemovalFits s roleId recordId :=
  closed_without closed held_parts

end Writes

section Checks
variable {s : PermissionStore} {roleId permissionId recordId : Nat} {requestedIds toAssign : List Nat}

theorem mem_codesOf {ids : List Nat} {code : String} :
    code ∈ codesOf s ids ↔ ∃ id ∈ ids, permissionCode s id = some code := List.mem_filterMap

theorem permissionCode_of_mem {p : Nat × Permission} (there : p ∈ s.permissions.rows) :
    permissionCode s p.1 = some p.2.permissionCode := by
  have found : s.permissions.get? p.1 = some p.2 := get?_eq_some.mpr there
  rw [permissionCode, found, Option.map_some]

theorem resolve_closed {ids : List Nat} {requested added : List (Nat × Permission)}
    (done : resolvePermissions s ids = .ok (requested, added)) :
    ClosedUnder getPermissionDependencies (codesOf s (ids ++ added.map Prod.fst)) := by
  simp only [resolvePermissions, bind_eq_ok, require_eq_ok, pure_eq_ok] at done
  obtain ⟨_, -, _, complete, _, -, same⟩ := done
  obtain ⟨rfl, rfl⟩ := Prod.mk.inj same
  intro code there needed requires
  obtain ⟨id, listed, given⟩ := mem_codesOf.mp there
  obtain ⟨p, found, rfl⟩ := Option.map_eq_some_iff.mp given
  have row : (id, p) ∈ s.permissions.rows := get?_eq_some.mp found
  rcases List.mem_append.mp listed with asked | brought
  · have requested : (id, p) ∈ s.permissions.select fun r => r.1 ∈ ids :=
      mem_select.mpr ⟨row, decide_eq_true asked⟩
    rw [mem_codesOf]
    by_cases among : needed ∈ (s.permissions.select fun r => r.1 ∈ ids).map fun p => p.2.permissionCode
    · obtain ⟨q, there, rfl⟩ := List.mem_map.mp among
      obtain ⟨row, asked⟩ := mem_select.mp there
      exact ⟨q.1, List.mem_append_left _ (of_decide_eq_true asked), permissionCode_of_mem row⟩
    · have missing : needed ∈ dependencyCodesNeeded (s.permissions.select fun r => r.1 ∈ ids) := by
        refine List.mem_eraseDups.mpr (List.mem_filter.mpr ⟨?_, decide_eq_true among⟩)
        exact List.mem_flatMap.mpr ⟨(id, p), requested, requires⟩
      have supplied := List.filter_eq_nil_iff.mp complete needed missing
      obtain ⟨q, there, rfl⟩ := List.mem_map.mp (of_not_not fun absent => supplied (decide_eq_true absent))
      exact ⟨q.1, List.mem_append_right _ (List.mem_map_of_mem there),
        permissionCode_of_mem (mem_select.mp there).1⟩
  · obtain ⟨q, there, same⟩ := List.mem_map.mp brought
    obtain ⟨row', wanted⟩ := mem_select.mp there
    obtain rfl : q.2 = p := key_unique s.permissions row' (same ▸ row)
    have wanted := (List.mem_filter.mp (List.mem_eraseDups.mp (of_decide_eq_true wanted))).1
    obtain ⟨r, -, requires'⟩ := List.mem_flatMap.mp wanted
    rw [dependencies_flat requires'] at requires
    cases requires

theorem assignPlan_fits {response : AssignPermissionsResponse}
    (done : assignPlan s roleId requestedIds = .ok (toAssign, response)) :
    InsertFits s roleId toAssign := by
  simp only [assignPlan, bind_eq_ok, pure_eq_ok] at done
  obtain ⟨_, -, ⟨requested, added⟩, resolved, same⟩ := done
  obtain ⟨rfl, -⟩ := Prod.mk.inj same
  intro code there needed requires
  obtain ⟨id, listed, given⟩ := mem_codesOf.mp there
  have all := resolve_closed resolved code (mem_codesOf.mpr ⟨id, (List.mem_filter.mp listed).1, given⟩)
    needed requires
  obtain ⟨k, among, given⟩ := mem_codesOf.mp all
  rw [List.mem_append, mem_heldCodes, mem_codesOf]
  by_cases held : k ∈ (s.rolePermissions.select fun r => r.2.roleId = roleId ∧ r.2.permissionId ∈
      requestedIds.eraseDups ++ added.map Prod.fst).map fun r => r.2.permissionId
  · obtain ⟨r, there, rfl⟩ := List.mem_map.mp held
    obtain ⟨row, selected⟩ := mem_select.mp there
    exact Or.inl ⟨r, row, (of_decide_eq_true selected).1, given⟩
  · exact Or.inr ⟨k, List.mem_filter.mpr ⟨among, decide_eq_true held⟩, given⟩

theorem revokeCheck_fits {writer : Nat} (done : revokeCheck s writer permissionId = .ok recordId) :
    RemovalFits s roleId recordId := by
  simp only [revokeCheck, bind_eq_ok, onSome_eq_ok, expect_eq_ok, pure_eq_ok] at done
  obtain ⟨_, -, record, found, _, -, _, unneeded, rfl⟩ := done
  obtain ⟨row, named⟩ := findOne_mem found
  obtain ⟨own, same⟩ := of_decide_eq_true named
  intro code removed
  rw [removedCode, get?_eq_some.mpr row, Option.bind_some, givenCode] at removed
  split at removed
  · rename_i role
    have given : permissionCode s permissionId = some code := same ▸ removed
    obtain rfl : writer = roleId := own.symm.trans role
    by_cases twice : code ∈ leftCodes s writer record.1
    · exact Or.inl twice
    refine Or.inr ?_
    intro dependent left requires
    obtain ⟨r, there, other, own', given'⟩ := mem_leftCodes.mp left
    have apart : r.2.permissionId ≠ permissionId := by
      intro again
      exact twice (mem_leftCodes.mpr ⟨r, there, other, own', again ▸ given⟩)
    have wanted : r ∈ s.rolePermissions.select fun r => r.2.roleId = writer ∧
        r.2.permissionId ≠ permissionId ∧
        (permissionCode s r.2.permissionId).any fun c => code ∈ getPermissionDependencies c := by
      refine mem_select.mpr ⟨there, decide_eq_true ⟨own', apart, ?_⟩⟩
      rw [given']
      exact decide_eq_true requires
    obtain ⟨q, others, found⟩ := List.exists_cons_of_ne_nil (List.ne_nil_of_mem wanted)
    have first := unneeded code given q (by rw [found]; rfl)
    cases first
  · cases removed

end Checks

section Turns
variable {s : PermissionStore} {roleId : Nat}

def PermissionStore.next (s : PermissionStore) : PermissionRequest → PermissionStore
  | .assign roleId permissionIds => ((assign s roleId permissionIds).toOption.map Prod.snd).getD s
  | .revoke roleId permissionId => (revoke s roleId permissionId).toOption.getD s

def Bare (s : PermissionStore) (roleId : Nat) : Prop :=
  ∀ r ∈ s.rolePermissions.rows, r.2.roleId ≠ roleId

instance : Decidable (Bare s roleId) :=
  inferInstanceAs (Decidable (∀ r ∈ s.rolePermissions.rows, r.2.roleId ≠ roleId))

theorem closed_bare (bare : Bare s roleId) : Closed s roleId := by
  intro code there
  obtain ⟨r, row, own, -⟩ := mem_heldCodes.mp there
  exact absurd own (bare r row)

theorem next_closed {r : PermissionRequest} (closed : Closed s roleId) : Closed (s.next r) roleId := by
  cases r with
  | assign writer permissionIds =>
    rw [PermissionStore.next, assign]
    cases plan : assignPlan s writer permissionIds with
    | error e => exact closed
    | ok done => exact (insert_closed closed).mpr fun same _ => same ▸ assignPlan_fits plan
  | revoke writer permissionId =>
    rw [PermissionStore.next, revoke]
    cases check : revokeCheck s writer permissionId with
    | error e => exact closed
    | ok recordId => exact (remove_closed closed).mpr (revokeCheck_fits check)

theorem closed_in_turn {t : PermissionStore} {moves : List (Move PermissionStore PermissionRequest)}
    (bare : Bare s roleId) (run : Run (fun a r b => b = a.next r) s moves t) : Closed t roleId := by
  induction run with
  | nil => exact closed_bare bare
  | snoc init last ih =>
    rw [last]
    exact next_closed ih

end Turns

section Runs
variable {s : PermissionStore} {roleId : Nat} {p : Pool PermissionStore PermissionCall}
  {moves : List (Move (Pool PermissionStore PermissionCall) (CallPools.Turn PermissionRequest))}

/-- An insert still finds what it relies on, and a deletion still finds nobody relying on it. -/
def StillClosed (roleId : Nat) (s : PermissionStore) (_ : Nat) : PermissionCall → Prop
  | .asked _ => True
  | .inserting writer toAssign =>
    writer = roleId → Insertable s writer toAssign → InsertFits s roleId toAssign
  | .removing recordId => RemovalFits s roleId recordId

instance decidableStillClosed (now : Nat) (c : PermissionCall) : Decidable (StillClosed roleId s now c) :=
  match c with
  | .asked _ => inferInstanceAs (Decidable True)
  | .inserting writer toAssign => inferInstanceAs
    (Decidable (writer = roleId → Insertable s writer toAssign → InsertFits s roleId toAssign))
  | .removing recordId => inferInstanceAs (Decidable (RemovalFits s roleId recordId))

theorem access_closed {now : Nat} {c : PermissionCall} (closed : Closed s roleId) :
    Closed (permissionCalls.act now c s).1 roleId ↔ StillClosed roleId s now c := by
  cases c with
  | asked r =>
    cases r with
    | assign writer permissionIds => exact iff_of_true closed trivial
    | revoke writer permissionId => exact iff_of_true closed trivial
  | inserting writer toAssign => exact insert_closed closed
  | removing recordId => exact remove_closed closed

theorem closed_visited_iff (bare : Bare s roleId)
    (run : Run (CallPools.Step permissionCalls) (Pool.idle s) moves p) :
    (∀ a ∈ visited (Pool.idle s) moves, Closed a.shared roleId) ↔
      Heeds (Allows (StillClosed roleId)) moves :=
  shared_safe_iff (fun s => Closed s roleId) keeps_nothing (fun _ _ _ closed => access_closed closed)
    trivial (closed_bare bare) run

/-- No call is under way. -/
def Quiet (p : Pool PermissionStore PermissionCall) : Prop := ∀ i, p.calls i = none

/-- The permissions are closed whenever no call is under way, as long as no call is overtaken; and
    just then they are closed all the time. -/
theorem permissions_stay_closed (bare : Bare s roleId)
    (run : Run (CallPools.Step permissionCalls) (Pool.idle s) moves p) :
    (Heeds (Allows (StillClosed roleId)) moves →
      ∀ a ∈ visited (Pool.idle s) moves, Quiet a → Closed a.shared roleId) ∧
    ((∀ a ∈ visited (Pool.idle s) moves, Closed a.shared roleId) ↔
      Heeds (Allows (StillClosed roleId)) moves) := by
  have always := closed_visited_iff bare run
  exact ⟨fun heeds a there _ => always.mpr heeds a there, always⟩

def departmentRole : PermissionStore where
  roles := Table.empty.insert ⟨"MANAGER", false, true⟩
  permissions := (Table.empty.insert ⟨"department.read", "department", true⟩).insert
    ⟨"department.update", "department", true⟩
  rolePermissions := Table.empty

/-- Both permissions are assigned, once with the one brought along by the other; the second insert
    fails. Then the right to read cannot be revoked. -/
def assignedTwice : List (CallPools.Turn PermissionRequest) :=
  [.enter 0 (.assign 0 [1]), .enter 1 (.assign 0 [0]), .act 0 0, .act 1 1, .act 0 2, .act 1 3,
    .enter 2 (.revoke 0 0), .act 2 4]

theorem closed_when_assigned_twice :
    ∃ moves p, Run (CallPools.Step permissionCalls) (Pool.idle departmentRole) moves p ∧
      heldCodes p.shared 0 = ["department.update", "department.read"] ∧
      ∀ a ∈ visited (Pool.idle departmentRole) moves, Quiet a → Closed a.shared 0 := by
  have follows : Follows permissionCalls (StillClosed 0) (Pool.idle departmentRole) assignedTwice := by
    decide +kernel
  obtain ⟨moves, run, heeds⟩ := follows_run follows
  exact ⟨moves, _, run, by decide +kernel, (permissions_stay_closed (by decide) run).1 heeds⟩

/-- The right to read is revoked while the right to update is assigned. -/
def revokedMeanwhile : List (CallPools.Turn PermissionRequest) :=
  [.enter 0 (.assign 0 [0]), .act 0 0, .act 0 1, .enter 0 (.assign 0 [1]), .act 0 2,
    .enter 1 (.revoke 0 0), .act 1 3, .act 0 4, .act 1 5]

theorem update_without_read :
    ¬ ∀ (s : PermissionStore) (roleId : Nat)
      (moves : List (Move (Pool PermissionStore PermissionCall) _))
      (p : Pool PermissionStore PermissionCall), Bare s roleId →
      Run (CallPools.Step permissionCalls) (Pool.idle s) moves p →
      ∀ a ∈ visited (Pool.idle s) moves, Quiet a → Closed a.shared roleId := by
  intro claimed
  have follows : Follows permissionCalls (fun _ _ _ => True) (Pool.idle departmentRole)
      revokedMeanwhile := by decide +kernel
  obtain ⟨moves, run, -⟩ := follows_run follows
  have quiet : Quiet (revokedMeanwhile.foldl (Pool.after permissionCalls) (Pool.idle departmentRole)) := by
    intro i
    by_cases early : i < 2
    · have ended : ∀ j < 2, ((revokedMeanwhile.foldl (Pool.after permissionCalls)
          (Pool.idle departmentRole)).calls j).isNone = true := by decide +kernel
      exact Option.isNone_iff_eq_none.mp (ended i early)
    · rw [calls_apart]
      · rfl
      · have slots : ∀ turn ∈ revokedMeanwhile, turn.slot < 2 := by decide
        intro turn there same
        exact early (same ▸ slots turn there)
  have closed := claimed departmentRole 0 moves _ (by decide) run _ (end_visited run) quiet
  exact absurd closed (by decide +kernel)

end Runs

end Accounts
