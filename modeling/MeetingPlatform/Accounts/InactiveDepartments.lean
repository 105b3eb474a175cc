import MeetingPlatform.Accounts.Users

/- The active members of inactive departments. A department is not switched off while it has active
   members, and nobody is moved into one that is off; an account can still become active again. -/
namespace Accounts
open KeyedTable Guards LabelledRuns

section Steps

/-- The requests on departments, as they see the users at their time. -/
inductive DepartmentOp where
  | create (dto : CreateDepartmentDto) (creatorId : Nat) (idempotencyKey : Option String)
  | update (id : Nat) (dto : UpdateDepartmentDto)
  | deactivate (id : Nat)
  | reactivate (id : Nat)

def DepartmentOp.request (users : List User) : DepartmentOp → DepartmentRequest
  | .create dto creatorId idempotencyKey => .create users dto creatorId idempotencyKey
  | .update id dto => .update users id dto
  | .deactivate id => .deactivate users id
  | .reactivate id => .reactivate id

inductive AccountOp where
  | createUser (now : Int) (dto : CreateUserDto)
  | updateUser (constantId : Nat) (permissions : List String) (targetUserId : Nat)
      (dto : UpdateUserDto) (actorId : Nat)
  | lockUser (now : Int) (targetUserId actorId : Nat)
  | unlockUser (targetUserId actorId : Nat)
  | updateUserStatus (now : Int) (targetUserId : Nat) (status : RequestedStatus) (actorId : Nat)
  | deleteUser (now : Int) (engagements : Engagements) (targetUserId actorId : Nat)
  | updateUserRoles (now : Int) (targetUserId : Nat) (desiredRoleIds : List Nat) (actorId : Nat)
  | department (op : DepartmentOp)
  | forget (key : Nat × String)

def AccountStore.serve (orm : Orm) (s : AccountStore) (op : DepartmentOp) :
    Except Failure (DepartmentResponse × DepartmentStore) :=
  s.departments.serve orm (op.request s.members)

/-- A refused request leaves everything as it is. -/
def AccountStore.next (orm : Orm) (s : AccountStore) : AccountOp → AccountStore
  | .createUser now dto => (createUser s now dto).toOption.getD s
  | .updateUser constantId permissions targetUserId dto actorId =>
    (updateUser s constantId permissions targetUserId dto actorId).toOption.getD s
  | .lockUser now targetUserId actorId => (lockUser s now targetUserId actorId).toOption.getD s
  | .unlockUser targetUserId actorId => (unlockUser s targetUserId actorId).toOption.getD s
  | .updateUserStatus now targetUserId status actorId =>
    (updateUserStatus s now targetUserId status actorId).toOption.getD s
  | .deleteUser now engagements targetUserId actorId =>
    (deleteUser s now engagements targetUserId actorId).toOption.getD s
  | .updateUserRoles now targetUserId desiredRoleIds actorId =>
    (updateUserRoles s now targetUserId desiredRoleIds actorId).toOption.getD s
  | .department op =>
    { s with departments := s.departments.next orm (.request (op.request s.members)) }
  | .forget key => { s with departments := s.departments.next orm (.forget key) }

def AccountStep (orm : Orm) (s : AccountStore) (op : AccountOp) (t : AccountStore) : Prop :=
  t = s.next orm op

end Steps

section Conditions

/-- A user whom a department counts as an active member. -/
def Account.IsMember (u : Account) : Prop :=
  u.deletedAt = none ∧ u.accountStatus = .active ∧
    (u.employmentStatus = .active ∨ u.employmentStatus = .probation)

instance (u : Account) : Decidable u.IsMember := inferInstanceAs (Decidable (_ ∧ _ ∧ (_ ∨ _)))

variable (orm : Orm) (s : AccountStore)

/-- None of the user's departments is switched off. -/
def Placed (u : Account) : Prop :=
  ∀ departmentId ∈ u.departmentId, ∀ d ∈ findDepartment s.departments departmentId, d.isActive = true

instance (u : Account) : Decidable (Placed s u) :=
  inferInstanceAs (Decidable (∀ departmentId ∈ u.departmentId,
    ∀ d ∈ findDepartment s.departments departmentId, d.isActive = true))

/-- No active member belongs to an inactive department. -/
def MembersPlaced : Prop := ∀ r ∈ s.users.rows, r.2.IsMember → Placed s r.2

instance : Decidable (MembersPlaced s) :=
  inferInstanceAs (Decidable (∀ r ∈ s.users.rows, r.2.IsMember → Placed s r.2))

def returning : AccountOp → Option Nat
  | .unlockUser targetUserId actorId =>
    (validateUnlock s targetUserId actorId).toOption.map fun _ => targetUserId
  | .updateUserStatus now targetUserId .active actorId =>
    ((validateStatus s now targetUserId .active actorId).toOption.filter id).map fun _ => targetUserId
  | _ => none

/-- Who returns, and is employed, belongs to no inactive department. -/
def ReturnsPlaced (op : AccountOp) : Prop :=
  ∀ id ∈ returning s op, ∀ u ∈ s.users.get? id,
    (u.deletedAt = none ∧ (u.employmentStatus = .active ∨ u.employmentStatus = .probation)) → Placed s u

instance (op : AccountOp) : Decidable (ReturnsPlaced s op) :=
  inferInstanceAs (Decidable (∀ id ∈ returning s op, ∀ u ∈ s.users.get? id,
    (u.deletedAt = none ∧ (u.employmentStatus = .active ∨ u.employmentStatus = .probation)) →
      Placed s u))

/-- The number of members that an accepted reactivation returns is the true one. -/
def CountsTrue : AccountOp → Prop
  | .department (.reactivate id) => ∀ done, s.serve orm (.reactivate id) = .ok done →
    done.1.memberCount = countActiveMembers s.members id
  | _ => True

end Conditions

section Writes
variable {orm : Orm} {s t : AccountStore} {k : Nat} {f : Account → Account}

theorem placed_write_iff (placed : MembersPlaced s) : MembersPlaced (writeAccount s k f) ↔
    ∀ u, s.users.get? k = some u → (f u).IsMember → Placed s (f u) := by
  constructor
  · intro all u found
    have row : (k, u) ∈ s.users.rows := get?_eq_some.mp found
    have after : (k, f u) ∈ (s.users.update k f).rows := by
      refine mem_updateWhere.mpr ⟨(k, u), row, ?_⟩
      rw [touch_of_true]
      exact decide_eq_true rfl
    exact all (k, f u) after
  · intro here r there
    obtain ⟨⟨j, u⟩, old, rfl⟩ := mem_updateWhere.mp there
    by_cases same : j = k
    · subst same
      rw [touch_of_true _ (decide_eq_true rfl)]
      exact here u (get?_eq_some.mpr old)
    · rw [touch_of_false _ (decide_eq_false same)]
      exact placed (j, u) old

theorem placed_write (placed : MembersPlaced s) (off : ∀ u, ¬ (f u).IsMember) :
    MembersPlaced (writeAccount s k f) := by
  rw [placed_write_iff placed]
  intro u _ member
  exact absurd member (off u)

theorem placed_insert {account : Account} (roleIds : List Nat) (placed : MembersPlaced s)
    (here : Placed s account) : MembersPlaced (persistAccount s account roleIds) := by
  intro r there member
  rcases mem_insert.mp there with old | rfl
  · exact placed r old member
  · exact here

theorem checkDepartmentActive_ok {departmentId : Nat} {u : Unit}
    (passed : checkDepartmentActive s departmentId = .ok u) :
    ∃ d, findDepartment s.departments departmentId = some d ∧ d.isActive = true := by
  simpa only [checkDepartmentActive, bind_eq_ok, expect_eq_ok, require_eq_ok] using passed

theorem placed_of_active {u : Account} {departmentId : Nat} (own : u.departmentId = some departmentId)
    (active : ∃ d, findDepartment s.departments departmentId = some d ∧ d.isActive = true) :
    Placed s u := by
  intro k same d found
  rw [own] at same
  cases same
  obtain ⟨d', there, isActive⟩ := active
  rw [there] at found
  cases found
  exact isActive

theorem newAccount_ok {now : Int} {dto : CreateUserDto} {account : Account} {roleIds : List Nat}
    (done : newAccount s now dto = .ok (account, roleIds)) : Placed s account := by
  simp only [newAccount, bind_eq_ok, pure_eq_ok] at done
  obtain ⟨departmentId, -, expiresAt, -, _, -, _, -, _, active, roles, -, _, -, _, -, same⟩ := done
  cases same
  exact placed_of_active rfl (checkDepartmentActive_ok active)

theorem createUser_placed {now : Int} {dto : CreateUserDto} (placed : MembersPlaced s)
    (done : createUser s now dto = .ok t) : MembersPlaced t := by
  simp only [createUser, bind_eq_ok, pure_eq_ok] at done
  obtain ⟨⟨account, roleIds⟩, checked, rfl⟩ := done
  exact placed_insert roleIds placed (newAccount_ok checked)

theorem validateUpdate_ok {constantId targetUserId actorId : Nat} {permissions : List String}
    {dto : UpdateUserDto} {changed : AccountChanges}
    (done : validateUpdate s constantId permissions targetUserId dto actorId = .ok changed) :
    ∀ departmentId ∈ changed.departmentId,
      ∃ d, findDepartment s.departments departmentId = some d ∧ d.isActive = true := by
  simp only [validateUpdate, bind_eq_ok, onSome_eq_ok, pure_eq_ok] at done
  obtain ⟨_, -, target, -, _, -, _, -, expiry, -, _, -, _, moves, rfl⟩ := done
  intro departmentId sent
  obtain ⟨_, active, -⟩ := moves departmentId sent
  exact checkDepartmentActive_ok active

theorem updateUser_placed {constantId targetUserId actorId : Nat} {permissions : List String}
    {dto : UpdateUserDto} (placed : MembersPlaced s)
    (done : updateUser s constantId permissions targetUserId dto actorId = .ok t) : MembersPlaced t := by
  simp only [updateUser, bind_eq_ok, pure_eq_ok] at done
  obtain ⟨changed, checked, rfl⟩ := done
  refine (placed_write_iff placed).mpr ?_
  intro u found member
  have before : Placed s u := placed _ (get?_eq_some.mp found) member
  cases sent : changed.departmentId with
  | none =>
    have own : (changed.apply u).departmentId = u.departmentId := by
      rw [AccountChanges.apply, sent]
      rfl
    intro departmentId same
    exact before departmentId (own ▸ same)
  | some departmentId =>
    have own : (changed.apply u).departmentId = some departmentId := by
      rw [AccountChanges.apply, sent]
      rfl
    exact placed_of_active own (validateUpdate_ok checked departmentId sent)

theorem placed_return_iff (placed : MembersPlaced s)
    (active : ∀ u, (f u).IsMember ↔
      u.deletedAt = none ∧ (u.employmentStatus = .active ∨ u.employmentStatus = .probation))
    (own : ∀ u, (f u).departmentId = u.departmentId) : MembersPlaced (writeAccount s k f) ↔
      ∀ u ∈ s.users.get? k,
        (u.deletedAt = none ∧ (u.employmentStatus = .active ∨ u.employmentStatus = .probation)) →
          Placed s u := by
  rw [placed_write_iff placed]
  constructor
  · intro all u found employed departmentId same
    exact all u found ((active u).mpr employed) departmentId ((own u).trans same)
  · intro all u found member departmentId same
    exact all u found ((active u).mp member) departmentId ((own u).symm.trans same)

theorem memberless_iff {id : Nat} : countActiveMembers s.members id = 0 ↔
    ∀ r ∈ s.users.rows, r.2.IsMember → r.2.departmentId ≠ some id := by
  rw [countActiveMembers, AccountStore.members, List.countP_map, List.countP_eq_zero]
  constructor
  · intro none_counted r there member own
    have counted := none_counted r there
    simp only [Function.comp_apply, decide_eq_true_eq] at counted
    exact counted ⟨own, member⟩
  · intro none_there r there counted
    simp only [Function.comp_apply, decide_eq_true_eq] at counted
    exact none_there r there counted.2 counted.1

theorem placed_departments {table : DepartmentStore} (placed : MembersPlaced s)
    (off : ∀ k d, findDepartment table k = some d → d.isActive = false →
      (∃ d', findDepartment s.departments k = some d' ∧ d'.isActive = false) ∨
        countActiveMembers s.members k = 0) : MembersPlaced { s with departments := table } := by
  intro r there member departmentId own d found
  by_contra inactive
  rcases off departmentId d found (Bool.eq_false_iff.mpr inactive) with ⟨d', before, was⟩ | memberless
  · rw [placed r there member departmentId own d' before] at was
    cases was
  · exact memberless_iff.mp memberless r there member own

theorem serve_placed {op : DepartmentOp} {done : DepartmentResponse × DepartmentStore}
    (placed : MembersPlaced s) (served : s.serve orm op = .ok done) :
    MembersPlaced { s with departments := done.2 } := by
  obtain ⟨response, after⟩ := done
  refine placed_departments placed ?_
  intro k d found inactive
  have how := serve_written served
  generalize written : after.departments = table at how
  cases op with
  | create dto creatorId idempotencyKey =>
    cases how with
    | repeated =>
      rw [findDepartment, written, ← findDepartment] at found
      exact Or.inl ⟨d, found, inactive⟩
    | created _ _ _ _ d' active =>
      obtain ⟨row, kept⟩ := findDepartment_some.mp found
      rw [written] at row
      rcases mem_insert.mp row with old | new
      · exact Or.inl ⟨d, findDepartment_some.mpr ⟨old, kept⟩, inactive⟩
      · cases new
        rw [active] at inactive
        cases inactive
  | update id dto =>
    cases how with
    | updated _ _ _ d₀ d' before active kept =>
      rw [findDepartment_update (f := fun _ => d') before kept written] at found
      split at found
      · rename_i same
        cases found
        exact Or.inl ⟨d₀, same ▸ before, active ▸ inactive⟩
      · exact Or.inl ⟨d, found, inactive⟩
  | deactivate id =>
    cases how with
    | deactivated _ _ d₀ before memberless =>
      rw [findDepartment_update before (findDepartment_some.mp before).2 written] at found
      split at found
      · rename_i same
        exact Or.inr (same ▸ memberless)
      · exact Or.inl ⟨d, found, inactive⟩
  | reactivate id =>
    cases how with
    | reactivated _ d₀ before =>
      rw [findDepartment_update before (findDepartment_some.mp before).2 written] at found
      split at found
      · cases found
        cases inactive
      · exact Or.inl ⟨d, found, inactive⟩

theorem reactivated_counts {id : Nat} (placed : MembersPlaced s) :
    CountsTrue orm s (.department (.reactivate id)) := by
  rintro ⟨response, after⟩ served
  simp only [AccountStore.serve, DepartmentOp.request, DepartmentStore.serve, reactivateDepartment,
    bind_eq_ok, require_eq_ok, expect_eq_ok, onSome_eq_ok, pure_eq_ok] at served
  obtain ⟨d, found, -, inactive, -, -, same⟩ := served
  cases same
  refine (memberless_iff.mpr ?_).symm
  intro r there member own
  rw [placed r there member id own d found] at inactive
  cases inactive

end Writes

section Runs
variable {orm : Orm} {s t : AccountStore} {op : AccountOp} {roles : Table Role}
  {moves : List (Move AccountStore AccountOp)}

theorem placed_request {x : Except AccountError AccountStore} (placed : MembersPlaced s)
    (done : ∀ t, x = .ok t → MembersPlaced t) (stays : returning s op = none) :
    MembersPlaced (x.toOption.getD s) ↔ ReturnsPlaced s op := by
  refine iff_of_true ?_ ?_
  · cases result : x with
    | error e => exact placed
    | ok t => exact done t result
  · rw [ReturnsPlaced, stays]
    nofun

theorem unlock_placed_iff {targetUserId actorId : Nat} (placed : MembersPlaced s) :
    MembersPlaced ((unlockUser s targetUserId actorId).toOption.getD s) ↔
      ReturnsPlaced s (.unlockUser targetUserId actorId) := by
  rw [ReturnsPlaced, returning, unlockUser]
  cases validateUnlock s targetUserId actorId with
  | error e => exact iff_of_true placed nofun
  | ok u =>
    have written := placed_return_iff (s := s) (k := targetUserId)
      (f := fun u => { u with accountStatus := .active, failedLoginCount := 0, lockedUntil := none })
      placed (fun u => by simp [Account.IsMember]) (fun u => rfl)
    change MembersPlaced (commitUnlock s targetUserId) ↔ ∀ id ∈ some targetUserId, _
    rw [commitUnlock, written]
    simp

theorem status_placed_iff {now : Int} {targetUserId actorId : Nat} {status : RequestedStatus}
    (placed : MembersPlaced s) :
    MembersPlaced ((updateUserStatus s now targetUserId status actorId).toOption.getD s) ↔
      ReturnsPlaced s (.updateUserStatus now targetUserId status actorId) := by
  cases status with
  | inactive =>
    refine placed_request placed ?_ rfl
    intro t done
    simp only [updateUserStatus, bind_eq_ok, pure_eq_ok] at done
    obtain ⟨goesOn, -, rfl⟩ := done
    split
    · refine placed_write placed ?_
      rintro u ⟨-, ⟨⟩, -⟩
    · exact placed
  | active =>
    rw [ReturnsPlaced, returning, updateUserStatus]
    cases validateStatus s now targetUserId .active actorId with
    | error e => exact iff_of_true placed (by rintro _ ⟨⟩)
    | ok goesOn =>
      cases goesOn with
      | false => exact iff_of_true placed (by rintro _ ⟨⟩)
      | true =>
        have written := placed_return_iff (s := s) (k := targetUserId)
          (f := fun u => { u with accountStatus := RequestedStatus.active.accountStatus })
          placed (fun u => by simp [Account.IsMember, RequestedStatus.accountStatus]) (fun u => rfl)
        change MembersPlaced (commitStatus s targetUserId .active) ↔ ∀ id ∈ some targetUserId, _
        rw [commitStatus, written]
        simp

theorem placed_step_iff (placed : MembersPlaced s) (step : AccountStep orm s op t) :
    MembersPlaced t ↔ ReturnsPlaced s op := by
  rw [AccountStep.eq_def] at step
  subst step
  cases op with
  | createUser now dto => exact placed_request placed (fun t => createUser_placed placed) rfl
  | updateUser constantId permissions targetUserId dto actorId =>
    exact placed_request placed (fun t => updateUser_placed placed) rfl
  | lockUser now targetUserId actorId =>
    refine placed_request placed ?_ rfl
    intro t done
    simp only [lockUser, bind_eq_ok, pure_eq_ok] at done
    obtain ⟨goesOn, -, rfl⟩ := done
    split
    · refine placed_write placed ?_
      rintro u ⟨-, ⟨⟩, -⟩
    · exact placed
  | unlockUser targetUserId actorId => exact unlock_placed_iff placed
  | updateUserStatus now targetUserId status actorId => exact status_placed_iff placed
  | deleteUser now engagements targetUserId actorId =>
    refine placed_request placed ?_ rfl
    intro t done
    simp only [deleteUser, bind_eq_ok, pure_eq_ok] at done
    obtain ⟨-, -, rfl⟩ := done
    refine placed_write (f := fun u => { u with deletedAt := some now }) placed ?_
    rintro u ⟨⟨⟩, -⟩
  | updateUserRoles now targetUserId desiredRoleIds actorId =>
    refine placed_request placed ?_ rfl
    intro t done
    simp only [updateUserRoles, bind_eq_ok, pure_eq_ok] at done
    obtain ⟨-, -, rfl⟩ := done
    exact placed
  | department op =>
    refine iff_of_true ?_ (by rintro _ ⟨⟩)
    rw [AccountStore.next, DepartmentStore.next]
    split
    · rename_i done served
      exact serve_placed placed served
    · exact placed
  | forget key => exact iff_of_true placed (by rintro _ ⟨⟩)

theorem members_stay_placed_iff (run : Run (AccountStep orm) (.empty roles) moves t) :
    ((∀ s ∈ visited (.empty roles) moves, MembersPlaced s) ∧
      ∀ m ∈ moves, CountsTrue orm m.before m.label) ↔ Heeds ReturnsPlaced moves := by
  have start : MembersPlaced (.empty roles) := by
    intro r there
    cases there
  have placed_iff := states_safe_iff (fun _ => True) MembersPlaced run trivial start
    (fun _ _ => trivial) fun _ placed step => placed_step_iff placed step
  rw [placed_iff, and_iff_left_iff_imp]
  intro heeds m there
  have placed := (moves_invariant MembersPlaced run start heeds
    (fun placed step here => (placed_step_iff placed step).mpr here) m there).1
  cases label : m.label with
  | department op =>
    cases op with
    | reactivate id => exact reactivated_counts placed
    | create dto creatorId idempotencyKey => trivial
    | update id dto => trivial
    | deactivate id => trivial
  | createUser now dto => trivial
  | updateUser constantId permissions targetUserId dto actorId => trivial
  | lockUser now targetUserId actorId => trivial
  | unlockUser targetUserId actorId => trivial
  | updateUserStatus now targetUserId status actorId => trivial
  | deleteUser now engagements targetUserId actorId => trivial
  | updateUserRoles now targetUserId desiredRoleIds actorId => trivial
  | forget key => trivial

def twoRoles : Table Role :=
  (Table.empty.insert ⟨"SYSTEM_ADMIN", true, true⟩).insert ⟨"EMPLOYEE", false, true⟩

def newUser (email : String) (departmentId roleId : Nat) : AccountOp :=
  .createUser 0 {
    fullName := email
    email := email
    departmentId := some departmentId
    roleIds := [roleId] }

def lockedMember : List AccountOp :=
  [.department (.create ⟨"HQ", "HQ", none, none, none⟩ 0 none),
    .department (.create ⟨"IT", "IT", none, none, none⟩ 0 none), newUser "admin@a.vn" 0 0,
    newUser "dev@a.vn" 1 1, .lockUser 0 1 0, .department (.deactivate 1)]

def backInOrder : List AccountOp :=
  lockedMember ++ [.department (.reactivate 1), .unlockUser 1 0]

abbrev served (s : AccountStore) (op : AccountOp) : AccountStore := s.next checkingOrm op

theorem members_stay_placed_in_order :
    (∀ s ∈ visited (.empty twoRoles) (trail served (.empty twoRoles) backInOrder), MembersPlaced s) ∧
      countActiveMembers (backInOrder.foldl served (.empty twoRoles)).members 1 = 1 := by
  have run : Run (AccountStep checkingOrm) (.empty twoRoles) (trail served (.empty twoRoles) backInOrder)
      (backInOrder.foldl served (.empty twoRoles)) := run_of_trail _ backInOrder
  have heeds : Heeds ReturnsPlaced (trail served (.empty twoRoles) backInOrder) := by
    decide +kernel
  exact ⟨((members_stay_placed_iff run).mpr heeds).1, by decide +kernel⟩

theorem unlocked_into_inactive :
    ¬ ∀ (roles : Table Role) (moves : List (Move AccountStore AccountOp)) (t : AccountStore),
      Run (AccountStep checkingOrm) (.empty roles) moves t →
        ∀ s ∈ visited (.empty roles) moves, MembersPlaced s := by
  intro claimed
  let calls := lockedMember ++ [.unlockUser 1 0]
  have run : Run (AccountStep checkingOrm) (.empty twoRoles) (trail served (.empty twoRoles) calls)
      (calls.foldl served (.empty twoRoles)) := run_of_trail _ calls
  have placed := claimed twoRoles _ _ run _ (end_visited run)
  exact absurd placed (by decide +kernel)

end Runs

end Accounts
