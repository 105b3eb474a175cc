import MeetingPlatform.Accounts.Users
import MeetingPlatform.Lib.CallPool

/- The last administrator. The requests that can take an administrator away count the others, or
   compare the actor with the target, before their transaction begins; two of them at a time leave
   nobody. -/
namespace Accounts
open KeyedTable Guards LabelledRuns CallPools

section Calls

/-- `deactivate` is the change of a status to inactive. -/
inductive AdminRequest where
  | deleteUser (engagements : Engagements) (targetUserId actorId : Nat)
  | lockUser (targetUserId actorId : Nat)
  | deactivate (targetUserId actorId : Nat)
  | updateUserRoles (targetUserId : Nat) (desiredRoleIds : List Nat) (actorId : Nat)

def AdminRequest.actorId : AdminRequest → Nat
  | .deleteUser _ _ actorId | .lockUser _ actorId | .deactivate _ actorId
  | .updateUserRoles _ _ actorId => actorId

inductive AdminChange where
  | delete (begun : Int) (targetUserId : Nat)
  | lock (targetUserId : Nat)
  | deactivate (targetUserId : Nat)
  | roles (targetUserId : Nat) (toAdd toRemove : List Nat)

inductive AdminCall where
  | asked (r : AdminRequest)
  | checked (actorId : Nat) (change : AdminChange)

variable (s : AccountStore)

/-- The reads before the transaction. `none` is for a request that leaves nothing to be written. -/
def validateAdmin (now : Int) : AdminRequest → Except AccountError (Option AdminChange)
  | .deleteUser engagements targetUserId actorId => do
    validateDelete s now engagements targetUserId actorId
    pure (some (.delete now targetUserId))
  | .lockUser targetUserId actorId => do
    let goesOn ← validateLock s now targetUserId actorId
    pure (if goesOn then some (.lock targetUserId) else none)
  | .deactivate targetUserId actorId => do
    let goesOn ← validateStatus s now targetUserId .inactive actorId
    pure (if goesOn then some (.deactivate targetUserId) else none)
  | .updateUserRoles targetUserId desiredRoleIds actorId => do
    let (toAdd, toRemove) ← validateRoles s targetUserId desiredRoleIds actorId
    pure (if toAdd = [] ∧ toRemove = [] then none else some (.roles targetUserId toAdd toRemove))

def commitAdmin (now : Int) : AdminChange → AccountStore
  | .delete begun targetUserId => commitDelete s targetUserId begun now
  | .lock targetUserId => commitLock s targetUserId
  | .deactivate targetUserId => commitStatus s targetUserId .inactive
  | .roles targetUserId toAdd toRemove => commitRoles s targetUserId now toAdd toRemove

def AdminCall.access (now : Nat) : AdminCall → AccountStore → AccountStore × Option AdminCall
  | .asked r, s =>
    (s, ((validateAdmin s now r).toOption.bind id).map (.checked r.actorId))
  | .checked _ change, s => (commitAdmin s now change, none)

def IsAdmin (userId : Nat) : Prop := isActiveUser s userId = true ∧ targetIsSystemAdmin s userId = true

instance (userId : Nat) : Decidable (IsAdmin s userId) := inferInstanceAs (Decidable (_ ∧ _))

def adminCalls : Service AccountStore AdminCall AdminRequest where
  clock _ := 0
  admits s r := IsAdmin s r.actorId
  enter _ r := .asked r
  act now c s := c.access now s

instance (r : AdminRequest) : Decidable (adminCalls.admits s r) :=
  inferInstanceAs (Decidable (IsAdmin s r.actorId))

def HasAdmin : Prop := ∃ r ∈ s.users.rows, IsAdmin s r.1

def OtherAdmin (targetUserId : Nat) : Prop := ∃ r ∈ s.users.rows, r.1 ≠ targetUserId ∧ IsAdmin s r.1

instance : Decidable (HasAdmin s) :=
  inferInstanceAs (Decidable (∃ r ∈ s.users.rows, IsAdmin s r.1))

instance (targetUserId : Nat) : Decidable (OtherAdmin s targetUserId) :=
  inferInstanceAs (Decidable (∃ r ∈ s.users.rows, r.1 ≠ targetUserId ∧ IsAdmin s r.1))

/-- The user is active, and a role of an administrator is among those added or is held and not
    removed. -/
def KeepsRole (targetUserId : Nat) (toAdd toRemove : List Nat) : Prop :=
  isActiveUser s targetUserId = true ∧ ((∃ roleId ∈ toAdd, isSystemAdminRole s roleId = true) ∨
    ∃ r ∈ activeRoles s targetUserId, isSystemAdminRole s r.2.roleId = true ∧ r.2.roleId ∉ toRemove)

instance (targetUserId : Nat) (toAdd toRemove : List Nat) :
    Decidable (KeepsRole s targetUserId toAdd toRemove) := inferInstanceAs (Decidable (_ ∧ (_ ∨ _)))

/-- Just before a transaction, another user is an administrator, or the roles that are written leave
    the target one. -/
def Leaves (_ : Nat) : AdminCall → Prop
  | .checked _ (.roles targetUserId toAdd toRemove) =>
    OtherAdmin s targetUserId ∨ KeepsRole s targetUserId toAdd toRemove
  | .checked _ (.delete _ targetUserId) | .checked _ (.lock targetUserId)
  | .checked _ (.deactivate targetUserId) => OtherAdmin s targetUserId
  | .asked _ => True

instance decidableLeaves (now : Nat) (c : AdminCall) : Decidable (Leaves s now c) :=
  match c with
  | .checked _ (.roles _ _ _) => inferInstanceAs (Decidable (_ ∨ _))
  | .checked _ (.delete _ targetUserId) | .checked _ (.lock targetUserId)
  | .checked _ (.deactivate targetUserId) => inferInstanceAs (Decidable (OtherAdmin s targetUserId))
  | .asked _ => inferInstanceAs (Decidable True)

end Calls

section Holders
variable {s : AccountStore} {t : Table UserRole} {targetUserId userId roleId : Nat}

/-- The user holds the role. -/
def Holds (t : Table UserRole) (userId roleId : Nat) : Prop :=
  ∃ r ∈ t.rows, r.2.userId = userId ∧ r.2.roleId = roleId ∧ r.2.isActive = true

theorem targetIsSystemAdmin_iff : targetIsSystemAdmin s userId = true ↔
    ∃ roleId, Holds s.userRoles userId roleId ∧ isSystemAdminRole s roleId = true := by
  simp only [targetIsSystemAdmin, activeRoles, List.any_eq_true, mem_select, decide_eq_true_eq]
  constructor
  · rintro ⟨r, ⟨there, own, active⟩, admin⟩
    exact ⟨r.2.roleId, ⟨r, there, own, rfl, active⟩, admin⟩
  · rintro ⟨_, ⟨r, there, own, rfl, active⟩, admin⟩
    exact ⟨r, ⟨there, own, active⟩, admin⟩

theorem holds_switchOff (userId roleId : Nat) {p : Nat × UserRole → Bool} {q : Nat → Nat → Prop} {f : UserRole → UserRole}
    (off : ∀ r, (f r).isActive = false)
    (picks : ∀ r, p r = true ↔ r.2.isActive = true ∧ q r.2.userId r.2.roleId) :
    Holds (t.updateWhere p f) userId roleId ↔ Holds t userId roleId ∧ ¬ q userId roleId := by
  constructor
  · rintro ⟨_, there, own, role, active⟩
    obtain ⟨r, old, rfl⟩ := mem_updateWhere.mp there
    by_cases hit : p r = true
    · rw [touch_of_true f hit] at active
      rw [off] at active
      cases active
    · rw [touch_of_false f (Bool.eq_false_iff.mpr hit)] at own role active
      refine ⟨⟨r, old, own, role, active⟩, ?_⟩
      intro picked
      subst own role
      exact hit ((picks r).mpr ⟨active, picked⟩)
  · rintro ⟨⟨r, old, rfl, rfl, active⟩, spared⟩
    have kept : p r = false := by
      by_contra hit
      exact spared ((picks r).mp (Bool.eq_true_of_not_eq_false hit)).2
    exact ⟨r, mem_updateWhere.mpr ⟨r, old, touch_of_false f kept⟩, rfl, rfl, active⟩

theorem holds_addRole {added : Nat} : Holds (addRole targetUserId t added) userId roleId ↔
    Holds t userId roleId ∨ (userId = targetUserId ∧ roleId = added) := by
  unfold addRole
  cases found : t.findOne fun r => r.2.userId = targetUserId ∧ r.2.roleId = added with
  | none =>
    have inserted : ∀ r ∈ (t.insert ⟨targetUserId, added, true, none⟩).rows, r ∈ t.rows ∨
        r = (t.next, ⟨targetUserId, added, true, none⟩) := fun r there => mem_insert.mp there
    constructor
    · rintro ⟨r, there, own, role, active⟩
      rcases inserted r there with old | rfl
      · exact Or.inl ⟨r, old, own, role, active⟩
      · exact Or.inr ⟨own.symm, role.symm⟩
    · rintro (⟨r, there, holds⟩ | ⟨rfl, rfl⟩)
      · exact ⟨r, mem_insert.mpr (Or.inl there), holds⟩
      · exact ⟨_, mem_insert.mpr (Or.inr rfl), rfl, rfl, rfl⟩
  | some row =>
    obtain ⟨id, old⟩ := row
    obtain ⟨there, match_key⟩ := findOne_mem found
    obtain ⟨own, role⟩ := of_decide_eq_true match_key
    dsimp only at own role
    constructor
    · rintro ⟨_, after, own', role', active⟩
      obtain ⟨r, before, rfl⟩ := mem_updateWhere.mp after
      by_cases same : r.1 = id
      · have same_row : r = (id, old) := Prod.ext same (key_unique t (same ▸ before) there)
        subst same_row
        rw [touch_of_true _ (decide_eq_true rfl)] at own' role'
        exact Or.inr ⟨own'.symm.trans own, role'.symm.trans role⟩
      · rw [touch_of_false _ (decide_eq_false same)] at own' role' active
        exact Or.inl ⟨r, before, own', role', active⟩
    · have returned : Holds (t.update id fun r => { r with isActive := true, expiredAt := none })
          targetUserId added := by
        refine ⟨(id, { old with isActive := true, expiredAt := none }), ?_, own, role, rfl⟩
        refine mem_updateWhere.mpr ⟨(id, old), there, ?_⟩
        rw [touch_of_true _ (decide_eq_true rfl)]
      rintro (⟨r, before, own', role', active⟩ | ⟨rfl, rfl⟩)
      · by_cases same : r.1 = id
        · have same_row : r = (id, old) := Prod.ext same (key_unique t (same ▸ before) there)
          subst same_row
          rw [own] at own'
          rw [role] at role'
          subst own' role'
          exact returned
        · refine ⟨r, mem_updateWhere.mpr ⟨r, before, ?_⟩, own', role', active⟩
          rw [touch_of_false _ (decide_eq_false same)]
      · exact returned

theorem holds_addRoles {toAdd : List Nat} : Holds (toAdd.foldl (addRole targetUserId) t) userId roleId ↔
    Holds t userId roleId ∨ (userId = targetUserId ∧ roleId ∈ toAdd) := by
  induction toAdd generalizing t with
  | nil => simp only [List.foldl_nil, List.not_mem_nil, and_false, or_false]
  | cons added toAdd ih =>
    rw [List.foldl_cons, ih, holds_addRole, List.mem_cons, or_assoc, ← and_or_left]

end Holders

section Writes
variable {s t : AccountStore} {targetUserId userId actorId : Nat} {f : Account → Account}

theorem user_of_active (active : isActiveUser s userId = true) : ∃ u, (userId, u) ∈ s.users.rows := by
  cases found : findUser s userId with
  | none =>
    rw [isActiveUser, found] at active
    cases active
  | some u => exact ⟨u, get?_eq_some.mp (Option.filter_eq_some_iff.mp found).1⟩

theorem hasAdmin_iff : HasAdmin s ↔ ∃ userId, IsAdmin s userId := by
  constructor
  · rintro ⟨r, -, admin⟩
    exact ⟨r.1, admin⟩
  · rintro ⟨userId, admin⟩
    obtain ⟨u, there⟩ := user_of_active admin.1
    exact ⟨(userId, u), there, admin⟩

theorem otherAdmin_iff : OtherAdmin s targetUserId ↔ ∃ userId, userId ≠ targetUserId ∧ IsAdmin s userId := by
  constructor
  · rintro ⟨r, -, other⟩
    exact ⟨r.1, other⟩
  · rintro ⟨userId, other, admin⟩
    obtain ⟨u, there⟩ := user_of_active admin.1
    exact ⟨(userId, u), there, other, admin⟩

theorem hasAdmin_after (others : ∀ userId, userId ≠ targetUserId → (IsAdmin t userId ↔ IsAdmin s userId)) :
    HasAdmin t ↔ OtherAdmin s targetUserId ∨ IsAdmin t targetUserId := by
  rw [hasAdmin_iff, otherAdmin_iff]
  constructor
  · rintro ⟨userId, admin⟩
    by_cases same : userId = targetUserId
    · exact Or.inr (same ▸ admin)
    · exact Or.inl ⟨userId, same, (others userId same).mp admin⟩
  · rintro (⟨userId, other, admin⟩ | admin)
    · exact ⟨userId, (others userId other).mpr admin⟩
    · exact ⟨targetUserId, admin⟩

theorem findUser_write : findUser (writeAccount s targetUserId f) userId =
    if userId = targetUserId then ((s.users.get? userId).map f).filter fun u => u.deletedAt.isNone
    else findUser s userId := by
  rw [findUser, writeAccount, get?_update]
  split
  · rfl
  · rfl

theorem active_elsewhere (other : userId ≠ targetUserId) :
    isActiveUser (writeAccount s targetUserId f) userId = isActiveUser s userId := by
  rw [isActiveUser, findUser_write, if_neg other, isActiveUser]

theorem inactive_after (off : ∀ u, (f u).deletedAt = none → (f u).accountStatus ≠ .active) :
    isActiveUser (writeAccount s targetUserId f) targetUserId = false := by
  rw [isActiveUser, findUser_write, if_pos rfl]
  cases s.users.get? targetUserId with
  | none => rfl
  | some u =>
    rw [Option.map_some, Option.filter_some]
    split
    · rename_i kept
      exact decide_eq_false (off u (Option.isNone_iff_eq_none.mp kept))
    · rfl

theorem hasAdmin_off (off : ∀ u, (f u).deletedAt = none → (f u).accountStatus ≠ .active) :
    HasAdmin (writeAccount s targetUserId f) ↔ OtherAdmin s targetUserId := by
  have others : ∀ userId, userId ≠ targetUserId →
      (IsAdmin (writeAccount s targetUserId f) userId ↔ IsAdmin s userId) := by
    intro userId other
    rw [IsAdmin, active_elsewhere other]
    rfl
  have gone : ¬ IsAdmin (writeAccount s targetUserId f) targetUserId := by
    rintro ⟨active, -⟩
    rw [inactive_after off] at active
    cases active
  rw [hasAdmin_after others, or_iff_left gone]

theorem hasAdmin_delete (begun now : Int) :
    HasAdmin (commitDelete s targetUserId begun now) ↔ OtherAdmin s targetUserId := by
  have others : ∀ userId, userId ≠ targetUserId →
      (IsAdmin (commitDelete s targetUserId begun now) userId ↔ IsAdmin s userId) := by
    intro userId other
    have active : isActiveUser (commitDelete s targetUserId begun now) userId = isActiveUser s userId :=
      active_elsewhere other
    rw [IsAdmin, IsAdmin, active, targetIsSystemAdmin_iff, targetIsSystemAdmin_iff]
    refine and_congr_right fun _ => exists_congr fun roleId => and_congr_left fun _ => ?_
    have held := holds_switchOff userId roleId (t := s.userRoles)
      (p := fun r => r.2.userId = targetUserId ∧ r.2.isActive) (q := fun owner _ => owner = targetUserId)
      (f := fun r => { r with isActive := false, expiredAt := some begun }) (fun _ => rfl)
      (fun r => by rw [decide_eq_true_eq, and_comm])
    exact held.trans (and_iff_left other)
  have gone : ¬ IsAdmin (commitDelete s targetUserId begun now) targetUserId := by
    rintro ⟨active, -⟩
    have inactive : isActiveUser (commitDelete s targetUserId begun now) targetUserId = false :=
      inactive_after (s := s) fun u kept => by cases kept
    rw [inactive] at active
    cases active
  rw [hasAdmin_after others, or_iff_left gone]

theorem holds_commitRoles {now : Int} {toAdd toRemove : List Nat} {roleId : Nat} :
    Holds (commitRoles s targetUserId now toAdd toRemove).userRoles userId roleId ↔
      (Holds s.userRoles userId roleId ∧ ¬ (userId = targetUserId ∧ roleId ∈ toRemove)) ∨
        (userId = targetUserId ∧ roleId ∈ toAdd) := by
  have held := holds_switchOff userId roleId (t := s.userRoles)
    (p := fun r => r.2.userId = targetUserId ∧ r.2.isActive ∧ r.2.roleId ∈ toRemove)
    (q := fun owner role => owner = targetUserId ∧ role ∈ toRemove)
    (f := fun r => { r with isActive := false, expiredAt := some now }) (fun _ => rfl)
    (fun r => by rw [decide_eq_true_eq, and_left_comm])
  rw [commitRoles, holds_addRoles, held]

theorem hasAdmin_roles {now : Int} {toAdd toRemove : List Nat} :
    HasAdmin (commitRoles s targetUserId now toAdd toRemove) ↔
      OtherAdmin s targetUserId ∨ KeepsRole s targetUserId toAdd toRemove := by
  have others : ∀ userId, userId ≠ targetUserId →
      (IsAdmin (commitRoles s targetUserId now toAdd toRemove) userId ↔ IsAdmin s userId) := by
    intro userId other
    rw [IsAdmin, IsAdmin, targetIsSystemAdmin_iff, targetIsSystemAdmin_iff]
    refine and_congr_right fun _ => exists_congr fun roleId => and_congr_left fun _ => ?_
    rw [holds_commitRoles, or_iff_left fun added => other added.1,
      and_iff_left fun removed => other removed.1]
  have own : IsAdmin (commitRoles s targetUserId now toAdd toRemove) targetUserId ↔
      KeepsRole s targetUserId toAdd toRemove := by
    rw [IsAdmin, targetIsSystemAdmin_iff, KeepsRole]
    refine and_congr_right fun _ => ?_
    constructor
    · rintro ⟨roleId, holds, admin⟩
      rcases holds_commitRoles.mp holds with ⟨⟨r, there, own, rfl, active⟩, spared⟩ | ⟨-, added⟩
      · refine Or.inr ⟨r, mem_select.mpr ⟨there, decide_eq_true ⟨own, active⟩⟩, admin, ?_⟩
        intro removed
        exact spared ⟨rfl, removed⟩
      · exact Or.inl ⟨roleId, added, admin⟩
    · rintro (⟨roleId, added, admin⟩ | ⟨r, held, admin, spared⟩)
      · exact ⟨roleId, holds_commitRoles.mpr (Or.inr ⟨rfl, added⟩), admin⟩
      · obtain ⟨there, of_target⟩ := mem_select.mp held
        obtain ⟨own, active⟩ := of_decide_eq_true of_target
        refine ⟨r.2.roleId, holds_commitRoles.mpr (Or.inl ⟨⟨r, there, own, rfl, active⟩, ?_⟩), admin⟩
        rintro ⟨-, removed⟩
        exact spared removed
  rw [hasAdmin_after others, own]

theorem access_admin {now : Nat} {c : AdminCall} (some_admin : HasAdmin s) :
    HasAdmin (c.access now s).1 ↔ Leaves s now c := by
  cases c with
  | asked r => exact iff_of_true some_admin trivial
  | checked actorId change =>
    cases change with
    | delete begun targetUserId => exact hasAdmin_delete begun now
    | lock targetUserId => exact hasAdmin_off fun u _ => by rintro ⟨⟩
    | deactivate targetUserId => exact hasAdmin_off fun u _ => by rintro ⟨⟩
    | roles targetUserId toAdd toRemove => exact hasAdmin_roles

end Writes

section Actors
variable {s : AccountStore} {actorId : Nat} {r : AdminRequest} {change : AdminChange} {c : AdminCall}
  {now : Nat}

/-- The change takes no system role and no account away from the actor. -/
def Spares (s : AccountStore) (actorId : Nat) : AdminChange → Prop
  | .delete _ targetUserId | .lock targetUserId | .deactivate targetUserId => targetUserId ≠ actorId
  | .roles targetUserId _ toRemove => actorId = targetUserId →
    ∀ roleId ∈ toRemove, (s.roles.get? roleId).any Role.isSystemRole = false

def CallFits (s : AccountStore) : AdminCall → Prop
  | .asked _ => True
  | .checked actorId change => Spares s actorId change

theorem validateRoles_ok {targetUserId : Nat} {desiredRoleIds toAdd toRemove : List Nat}
    (done : validateRoles s targetUserId desiredRoleIds actorId = .ok (toAdd, toRemove)) :
    Spares s actorId (.roles targetUserId toAdd toRemove) := by
  simp only [validateRoles, bind_eq_ok, onSome_eq_ok, require_eq_ok, pure_eq_ok] at done
  obtain ⟨_, -, _, -, _, -, _, apart, same⟩ := done
  cases same
  intro own roleId removed
  by_contra system
  cases found : List.find? (fun id => (s.roles.get? id).any Role.isSystemRole)
      (((activeRoles s targetUserId).map fun r => r.2.roleId).filter fun id =>
        id ∉ desiredRoleIds.eraseDups) with
  | none => exact List.find?_eq_none.mp found roleId removed (Bool.eq_true_of_not_eq_false system)
  | some first => exact apart first found own

theorem validateAdmin_spares (done : validateAdmin s now r = .ok (some change)) :
    Spares s r.actorId change := by
  cases r with
  | deleteUser engagements targetUserId actorId =>
    simp only [validateAdmin, validateDelete, bind_eq_ok, require_eq_ok, pure_eq_ok] at done
    obtain ⟨_, ⟨_, -, _, other, -⟩, same⟩ := done
    cases same
    exact other
  | lockUser targetUserId actorId =>
    simp only [validateAdmin, validateLock, bind_eq_ok, require_eq_ok, pure_eq_ok] at done
    obtain ⟨goesOn, ⟨_, -, _, -, _, other, -⟩, same⟩ := done
    split at same
    · cases same
      exact other
    · cases same
  | deactivate targetUserId actorId =>
    simp only [validateAdmin, bind_eq_ok, pure_eq_ok] at done
    obtain ⟨goesOn, checked, same⟩ := done
    cases goesOn with
    | false => cases same
    | true =>
      cases same
      simp only [validateStatus, bind_eq_ok] at checked
      obtain ⟨_, -, _, -, _, -, checked⟩ := checked
      split at checked
      · cases checked
      · simp only [bind_eq_ok, require_eq_ok] at checked
        obtain ⟨_, other, -⟩ := checked
        exact other
  | updateUserRoles targetUserId desiredRoleIds actorId =>
    simp only [validateAdmin, bind_eq_ok, pure_eq_ok] at done
    obtain ⟨⟨toAdd, toRemove⟩, checked, same⟩ := done
    dsimp only at same
    split at same
    · cases same
    · cases same
      exact validateRoles_ok checked

theorem access_roles (now : Nat) (c : AdminCall) (s : AccountStore) :
    (c.access now s).1.roles = s.roles := by
  cases c with
  | asked r => rfl
  | checked actorId change => cases change <;> rfl

theorem adminCalls_keep :
    Keeps adminCalls (fun _ => True) CallFits (fun _ _ => True) fun _ _ _ => True where
  symm _ _ _ := trivial
  enters _ _ _ _ := trivial
  alone _ _ _ _ _ _ := trivial
  inv _ _ _ _ _ _ _ := trivial
  next s now c c' _ _ _ _ goes := by
    cases c with
    | checked actorId change => cases goes
    | asked r =>
      obtain ⟨change, found, rfl⟩ := Option.map_eq_some_iff.mp goes
      cases done : validateAdmin s now r with
      | error e =>
        rw [done] at found
        cases found
      | ok change' =>
        rw [done] at found
        cases found
        exact validateAdmin_spares done
  others s now c d _ _ fits _ _ _ := by
    cases d with
    | asked r => trivial
    | checked actorId change =>
      have same : (adminCalls.act now c s).1.roles = s.roles := access_roles now c s
      cases change with
      | roles targetUserId toAdd toRemove =>
        change actorId = targetUserId → _
        rw [same]
        exact fits
      | delete begun targetUserId => exact fits
      | lock targetUserId => exact fits
      | deactivate targetUserId => exact fits
  still_apart _ _ _ _ _ _ _ _ _ _ _ _ := trivial

def AdminsAreSystem (roles : Table Role) : Prop :=
  ∀ r ∈ roles.rows, r.2.roleCode = "SYSTEM_ADMIN" → r.2.isSystemRole = true

/-- The actor is still an administrator when the transaction begins. -/
def ActorRemains (s : AccountStore) (_ : Nat) : AdminCall → Prop
  | .asked _ => True
  | .checked actorId _ => IsAdmin s actorId

theorem system_of_admin {roleId : Nat} (system : AdminsAreSystem s.roles)
    (admin : isSystemAdminRole s roleId = true) :
    (s.roles.get? roleId).any Role.isSystemRole = true := by
  unfold isSystemAdminRole at admin
  cases found : s.roles.get? roleId with
  | none =>
    rw [found] at admin
    cases admin
  | some role =>
    rw [found] at admin
    exact system (roleId, role) (get?_eq_some.mp found) (of_decide_eq_true admin).1

theorem leaves_of_actor (system : AdminsAreSystem s.roles) (fits : CallFits s c)
    (remains : ActorRemains s now c) : Leaves s now c := by
  cases c with
  | asked r => trivial
  | checked actorId change =>
    cases change with
    | delete begun targetUserId => exact otherAdmin_iff.mpr ⟨actorId, Ne.symm fits, remains⟩
    | lock targetUserId => exact otherAdmin_iff.mpr ⟨actorId, Ne.symm fits, remains⟩
    | deactivate targetUserId => exact otherAdmin_iff.mpr ⟨actorId, Ne.symm fits, remains⟩
    | roles targetUserId toAdd toRemove =>
      by_cases own : actorId = targetUserId
      · subst own
        obtain ⟨active, held⟩ := remains
        obtain ⟨r, held, admin⟩ := List.any_eq_true.mp held
        refine Or.inr ⟨active, Or.inr ⟨r, held, admin, ?_⟩⟩
        intro removed
        have flagged := system_of_admin system admin
        rw [fits rfl _ removed] at flagged
        cases flagged
      · exact Or.inl (otherAdmin_iff.mpr ⟨actorId, own, remains⟩)

end Actors

section Runs
variable {s : AccountStore} {p : Pool AccountStore AdminCall}
  {moves : List (Move (Pool AccountStore AdminCall) (CallPools.Turn AdminRequest))}

/-- There is an administrator throughout exactly when every transaction finds that one is left. -/
theorem admin_remains_iff (start : HasAdmin s)
    (run : Run (CallPools.Step adminCalls) (Pool.idle s) moves p) :
    (∀ a ∈ visited (Pool.idle s) moves, HasAdmin a.shared) ↔ Heeds (Allows Leaves) moves :=
  shared_safe_iff HasAdmin adminCalls_keep (fun _ _ _ some_admin => access_admin some_admin) trivial start
    run

theorem admin_remains_of_actors (system : AdminsAreSystem s.roles) (start : HasAdmin s)
    (run : Run (CallPools.Step adminCalls) (Pool.idle s) moves p)
    (heeds : Heeds (Allows ActorRemains) moves) :
    ∀ a ∈ visited (Pool.idle s) moves, HasAdmin a.shared := by
  let Inv (a : Pool AccountStore AdminCall) : Prop :=
    Sound (fun _ => True) CallFits (fun _ _ => True) a ∧ AdminsAreSystem a.shared.roles ∧
      HasAdmin a.shared
  have kept : ∀ a ∈ visited (Pool.idle s) moves, Inv a := by
    refine visited_invariant Inv run ⟨sound_idle trivial, system, start⟩ heeds ?_
    rintro a turn b ⟨sound, system, some_admin⟩ step remains
    refine ⟨sound_kept adminCalls_keep sound step, ?_⟩
    cases step with
    | enter free admitted => exact ⟨system, some_admin⟩
    | @act i now c waiting order =>
      have leaves : Leaves a.shared now c :=
        leaves_of_actor system (sound.fits i c waiting) (remains c waiting)
      constructor
      · change AdminsAreSystem (c.access now a.shared).1.roles
        rw [access_roles]
        exact system
      · exact (access_admin some_admin).mpr leaves
  intro a there
  exact (kept a there).2.2

def twoAdmins : AccountStore where
  departments := .empty
  users := (Table.empty.insert (activeAccount "an@a.vn")).insert (activeAccount "binh@a.vn")
  roles := Table.empty.insert ⟨"SYSTEM_ADMIN", true, true⟩
  userRoles := (Table.empty.insert ⟨0, 0, true, none⟩).insert ⟨1, 0, true, none⟩
  partnerDepartmentId := none

/-- The first administrator locks the second while the second asks to lock the first. -/
def lockedOneByOne : List (CallPools.Turn AdminRequest) :=
  [.enter 0 (.lockUser 1 0), .enter 1 (.lockUser 0 1), .act 0 0, .act 0 1, .act 1 2]

theorem admin_remains_one_by_one :
    ∃ moves p, Run (CallPools.Step adminCalls) (Pool.idle twoAdmins) moves p ∧
      (p.shared.users.rows.map fun r => r.2.accountStatus) = [.active, .locked] ∧
      ∀ a ∈ visited (Pool.idle twoAdmins) moves, HasAdmin a.shared := by
  have follows : Follows adminCalls Leaves (Pool.idle twoAdmins) lockedOneByOne := by
    decide +kernel
  obtain ⟨moves, run, heeds⟩ := follows_run follows
  exact ⟨moves, _, run, by decide +kernel, (admin_remains_iff (by decide) run).mpr heeds⟩

theorem both_admins_locked :
    ¬ ∀ (s : AccountStore) (moves : List (Move (Pool AccountStore AdminCall) _))
      (p : Pool AccountStore AdminCall), HasAdmin s →
      Run (CallPools.Step adminCalls) (Pool.idle s) moves p →
      ∀ a ∈ visited (Pool.idle s) moves, HasAdmin a.shared := by
  intro claimed
  let turns : List (CallPools.Turn AdminRequest) :=
    [.enter 0 (.lockUser 1 0), .enter 1 (.lockUser 0 1), .act 0 0, .act 1 0, .act 0 1, .act 1 1]
  have follows : Follows adminCalls (fun _ _ _ => True) (Pool.idle twoAdmins) turns := by
    decide +kernel
  obtain ⟨moves, run, -⟩ := follows_run follows
  have kept := claimed twoAdmins moves _ (by decide) run _ (end_visited run)
  exact absurd kept (by decide +kernel)

end Runs

end Accounts
