import MeetingPlatform.Accounts.Users
import MeetingPlatform.Auth.PasswordChange
import MeetingPlatform.Lib.CallPool

/- What a lock of an account ends. The marker that it leaves for the guard carries the time at which
   the lock began, while logins and refreshes that have read the user before go on to sign tokens. -/
namespace Accounts
open KeyedTable ExpiringStore Guards LabelledRuns CallPools
open Auth (AuthState AuthConfig LoginDto Claims Session AcceptedLater)

section Calls

def authUsers (users : Table Account) (password : Nat → String) : Table Auth.User where
  rows := users.rows.map fun r => (r.1, {
    email := r.2.email
    password := password r.1
    accountStatus := r.2.accountStatus
    employmentStatus := r.2.employmentStatus
    accountExpiresAt := r.2.accountExpiresAt.map Int.toNat
    deletedAt := r.2.deletedAt.map Int.toNat })
  next := users.next
  increasing := by
    rw [List.map_map]
    exact users.increasing
  below := by
    rw [List.map_map]
    exact users.below

/-- `returned` notes that a call has answered that the user is locked. -/
structure LockState where
  accounts : AccountStore
  password : Nat → String
  auth : AuthState
  returned : Bool

/-- The table of users is that of the accounts; the one of `auth` is not used. -/
def LockState.service (s : LockState) : AuthState :=
  { s.auth with users := authUsers s.accounts.users s.password }

inductive LockRequest where
  | lockUser (actorId : Nat)
  | login (dto : LoginDto) (ipAddress : Option String)
  | refresh (jti : Nat)

/-- `m` is the time that a lock has taken. -/
inductive LockCall where
  | lockUser (actorId : Nat)
  | validating (m actorId : Nat)
  | committing (m : Nat)
  | marking (m : Nat)
  | login (dto : LoginDto) (ipAddress : Option String)
  | loginRead (sub : Nat)
  | refresh (jti : Nat)
  | lookedUp (payload : Claims)
  | userRead (payload : Claims)
  | signed (payload : Claims)

variable (cfg : AuthConfig) (userId : Nat)

def loginRead (s : AuthState) (now : Nat) (dto : LoginDto) (ipAddress : Option String) :
    AuthState × Option Nat :=
  let email := cfg.normalizeLoginEmail dto.email
  let (current, s) := Auth.countLogin cfg s now (ipAddress.getD "unknown", email)
  if cfg.rateLimitMaxAttempts < current then (s, none)
  else (s, (Auth.loginUser s now email dto.password).toOption)

def markLocked (s : AuthState) (now m : Nat) : AuthState :=
  { s with invalidAfter := s.invalidAfter.setWithTtl now userId m cfg.refreshTokenTtlSeconds }

def LockState.writeAuth (s : LockState) (now : Nat) (auth : AuthState) : LockState :=
  { s with auth := auth.tick now }

def LockState.access (s : LockState) (now : Nat) : LockCall → LockState × Option LockCall
  | .lockUser actorId => (s.writeAuth now s.auth, some (.validating now actorId))
  | .validating m actorId =>
    match validateLock s.accounts m userId actorId with
    | .error _ => (s.writeAuth now s.auth, none)
    | .ok false => ({ s.writeAuth now s.auth with returned := true }, none)
    | .ok true => (s.writeAuth now s.auth, some (.committing m))
  | .committing m =>
    ({ s.writeAuth now s.auth with accounts := commitLock s.accounts userId }, some (.marking m))
  | .marking m =>
    ({ s.writeAuth now (markLocked cfg userId s.auth now m) with returned := true }, none)
  | .login dto ipAddress =>
    let (auth, sub) := loginRead cfg s.service now dto ipAddress
    (s.writeAuth now auth, sub.map .loginRead)
  | .loginRead sub => (s.writeAuth now (s.auth.issue now sub s.auth.turn), none)
  | .refresh jti =>
    (s.writeAuth now s.auth, (Auth.refreshLookup cfg s.service now jti).toOption.map .lookedUp)
  | .lookedUp payload => (s.writeAuth now s.auth,
      (Auth.refreshUser s.service.users now payload.sub).toOption.map fun _ => .userRead payload)
  | .userRead payload =>
    (s.writeAuth now (s.auth.issue now payload.sub (Auth.startedOf s.auth payload.jti)),
      some (.signed payload))
  | .signed payload => (s.writeAuth now (s.auth.revoke now payload), none)

def lockCalls : Service LockState LockCall LockRequest where
  clock s := s.auth.clock
  admits _ _ := True
  enter _
    | .lockUser actorId => .lockUser actorId
    | .login dto ipAddress => .login dto ipAddress
    | .refresh jti => .refresh jti
  act now c s := s.access cfg userId now c

instance (s : LockState) (r : LockRequest) : Decidable ((lockCalls cfg userId).admits s r) :=
  inferInstanceAs (Decidable True)

end Calls

section Tokens
variable (cfg : AuthConfig) (userId : Nat)

/-- Once a lock has returned, no access token of the user is accepted from then on. -/
def LockHolds (s : LockState) : Prop := s.returned = true →
  ∀ (jti : Nat) (x : Session), s.auth.sessions[jti]? = some x → x.sub = userId →
    ¬ AcceptedLater cfg s.auth jti

def Ended (iat now : Nat) (marker : Option (Entry Nat)) : Prop :=
  (iat + cfg.accessTokenTtlSeconds) * 1000 ≤ now ∨ ∃ e ∈ marker, iat * 1000 < e.value ∧
    ∀ d ∈ e.deadline, (iat + cfg.accessTokenTtlSeconds) * 1000 ≤ d

instance (iat now : Nat) (marker : Option (Entry Nat)) : Decidable (Ended cfg iat now marker) :=
  inferInstanceAs (Decidable (_ ∨ ∃ e ∈ marker, _ ∧ ∀ d ∈ e.deadline, _))

def AllEnded (s : AuthState) (now : Nat) (marker : Option (Entry Nat)) : Prop :=
  ∀ x ∈ s.sessions, x.sub = userId → Ended cfg x.iat now marker

instance (s : AuthState) (now : Nat) (marker : Option (Entry Nat)) :
    Decidable (AllEnded cfg userId s now marker) :=
  inferInstanceAs (Decidable (∀ x ∈ s.sessions, x.sub = userId → Ended cfg x.iat now marker))

def lockMarker (now m : Nat) : Entry Nat := ⟨m, some (now + cfg.refreshTokenTtlSeconds * 1000)⟩

def SignsEnded (s : LockState) (now sub : Nat) : Prop := s.returned = true → sub = userId →
  Ended cfg (now / 1000) now (s.auth.invalidAfter.entries userId)

instance (s : LockState) (now sub : Nat) : Decidable (SignsEnded cfg userId s now sub) :=
  inferInstanceAs (Decidable (_ → _ → Ended cfg (now / 1000) now (s.auth.invalidAfter.entries userId)))

/-- A lock returns only where its marker ends the tokens that have been signed, and a call that has
    read the user before signs nothing afterwards that the marker does not end. -/
def MarkerReaches (s : LockState) (now : Nat) : LockCall → Prop
  | .validating m actorId => (validateLock s.accounts m userId actorId).toOption = some false →
    AllEnded cfg userId s.auth now (s.auth.invalidAfter.entries userId)
  | .marking m => AllEnded cfg userId s.auth now (some (lockMarker cfg now m))
  | .loginRead sub => SignsEnded cfg userId s now sub
  | .userRead payload => SignsEnded cfg userId s now payload.sub
  | _ => True

instance decidableMarkerReaches (s : LockState) (now : Nat) (c : LockCall) :
    Decidable (MarkerReaches cfg userId s now c) :=
  match c with
  | .validating m actorId =>
    inferInstanceAs (Decidable ((validateLock s.accounts m userId actorId).toOption = some false →
      AllEnded cfg userId s.auth now (s.auth.invalidAfter.entries userId)))
  | .marking m => inferInstanceAs (Decidable (AllEnded cfg userId s.auth now (some (lockMarker cfg now m))))
  | .loginRead sub => inferInstanceAs (Decidable (SignsEnded cfg userId s now sub))
  | .userRead payload => inferInstanceAs (Decidable (SignsEnded cfg userId s now payload.sub))
  | .lockUser _ | .committing _ | .login _ _ | .refresh _ | .lookedUp _ | .signed _ =>
    inferInstanceAs (Decidable True)

variable {cfg userId} {s : AuthState} {iat now : Nat} {marker : Option (Entry Nat)}

theorem Ended.later {then_ : Nat} (ended : Ended cfg iat now marker) (order : now ≤ then_) :
    Ended cfg iat then_ marker := ended.imp_left fun expired => Nat.le_trans expired order

theorem ended_iff : Ended cfg iat now marker ↔ ∀ t, now ≤ t →
    t < (iat + cfg.accessTokenTtlSeconds) * 1000 → ∃ e ∈ marker, e.Live t ∧ iat * 1000 < e.value := by
  obtain ⟨exp, expires⟩ : ∃ exp, (iat + cfg.accessTokenTtlSeconds) * 1000 = exp := ⟨_, rfl⟩
  simp only [Ended, expires]
  constructor
  · rintro (expired | ⟨e, there, older, kept⟩) t order live
    · omega
    · refine ⟨e, there, ?_, older⟩
      intro d deadline
      exact Nat.lt_of_lt_of_le live (kept d deadline)
  · intro refused
    by_cases live : now < exp
    · obtain ⟨e, there, -, older⟩ := refused now (Nat.le_refl _) live
      refine Or.inr ⟨e, there, older, ?_⟩
      intro d deadline
      by_contra short
      -- The guard is asked at the end of the marker, or now where that is past.
      obtain ⟨e', there', alive, -⟩ := refused (max now d) (Nat.le_max_left _ _) (by omega)
      cases Option.some.inj (there.symm.trans there')
      have := alive d deadline
      omega
    · exact Or.inl (Nat.le_of_not_lt live)

theorem not_accepted_iff {jti : Nat} {x : Session} (there : s.sessions[jti]? = some x) :
    ¬ AcceptedLater cfg s jti ↔ Ended cfg x.iat s.clock (s.invalidAfter.entries x.sub) := by
  rw [Auth.acceptedLater_iff there, ended_iff]
  constructor
  · intro refused t order live
    by_contra passes
    refine refused ⟨t, order, live, ?_⟩
    intro m found
    obtain ⟨e, entry, alive, rfl⟩ := get_eq_some.mp found
    by_contra older
    exact passes ⟨e, entry, alive, Nat.lt_of_not_le older⟩
  · rintro ended ⟨t, order, live, recent⟩
    obtain ⟨e, entry, alive, older⟩ := ended t order live
    have := recent e.value (get_eq_some.mpr ⟨e, entry, alive, rfl⟩)
    omega

theorem lockHolds_iff {s : LockState} : LockHolds cfg userId s ↔ (s.returned = true →
    AllEnded cfg userId s.auth s.auth.clock (s.auth.invalidAfter.entries userId)) := by
  refine imp_congr_right fun _ => ?_
  constructor
  · intro refused x there own
    obtain ⟨jti, found⟩ := List.mem_iff_getElem?.mp there
    rw [← own]
    exact (not_accepted_iff found).mp (refused jti x found own)
  · intro ended jti x found own
    rw [not_accepted_iff found, own]
    exact ended x (List.mem_of_getElem? found) own

end Tokens

section Accesses
variable {cfg : AuthConfig} {userId now : Nat} {s : LockState} {auth : AuthState}

theorem loginRead_core (s : AuthState) (now : Nat) (dto : LoginDto) (ipAddress : Option String) :
    (loginRead cfg s now dto ipAddress).1.core = s.core := by
  unfold loginRead
  dsimp only
  split
  · rfl
  · rfl

theorem holds_kept (holds : LockHolds cfg userId s) (order : s.auth.clock ≤ now)
    (sessions : auth.sessions = s.auth.sessions) (marks : auth.invalidAfter = s.auth.invalidAfter)
    (accounts : AccountStore) :
    LockHolds cfg userId ⟨accounts, s.password, auth.tick now, s.returned⟩ := by
  rw [lockHolds_iff] at holds ⊢
  intro returned x there own
  change x ∈ auth.sessions at there
  change Ended cfg x.iat now (auth.invalidAfter.entries userId)
  rw [sessions] at there
  rw [marks]
  exact (holds returned x there own).later order

theorem holds_signed (holds : LockHolds cfg userId s) (order : s.auth.clock ≤ now) (sub started : Nat) :
    LockHolds cfg userId (s.writeAuth now (s.auth.issue now sub started)) ↔
      SignsEnded cfg userId s now sub := by
  rw [lockHolds_iff] at holds ⊢
  constructor
  · intro ended returned own
    exact ended returned ⟨sub, now / 1000, started⟩ (List.mem_append_right _ List.mem_cons_self) own
  · intro signs returned x there own
    rcases List.mem_append.mp there with old | new
    · exact (holds returned x old own).later order
    · rw [List.mem_singleton.mp new] at own ⊢
      exact signs returned own

theorem access_holds {c : LockCall} (holds : LockHolds cfg userId s) (order : s.auth.clock ≤ now) :
    LockHolds cfg userId (s.access cfg userId now c).1 ↔ MarkerReaches cfg userId s now c := by
  cases c with
  | lockUser actorId => exact iff_of_true (holds_kept holds order rfl rfl _) trivial
  | validating m actorId =>
    rw [MarkerReaches, LockState.access]
    cases validateLock s.accounts m userId actorId with
    | error e => exact iff_of_true (holds_kept holds order rfl rfl _) (by intro never; cases never)
    | ok goesOn =>
      cases goesOn with
      | true => exact iff_of_true (holds_kept holds order rfl rfl _) (by intro never; cases never)
      | false =>
        dsimp only
        rw [lockHolds_iff]
        exact ⟨fun ended _ => ended rfl, fun ended _ => ended rfl⟩
  | committing m => exact iff_of_true (holds_kept holds order rfl rfl _) trivial
  | marking m =>
    rw [MarkerReaches, LockState.access, lockHolds_iff]
    have written : (markLocked cfg userId s.auth now m).invalidAfter.entries userId =
        some (lockMarker cfg now m) := entries_put_self _
    dsimp only [LockState.writeAuth, AuthState.tick]
    rw [written]
    exact ⟨fun ended => ended rfl, fun ended _ => ended⟩
  | login dto ipAddress =>
    have same : (loginRead cfg s.service now dto ipAddress).1.core = s.service.core :=
      loginRead_core _ _ _ _
    refine iff_of_true ?_ trivial
    exact holds_kept holds order (congrArg Auth.Core.sessions same) (congrArg Auth.Core.invalidAfter same) _
  | loginRead sub => exact holds_signed holds order sub _
  | refresh jti => exact iff_of_true (holds_kept holds order rfl rfl _) trivial
  | lookedUp payload => exact iff_of_true (holds_kept holds order rfl rfl _) trivial
  | userRead payload => exact holds_signed holds order payload.sub _
  | signed payload =>
    refine iff_of_true ?_ trivial
    exact holds_kept holds order (Auth.revoke_sessions payload) (Auth.revoke_invalidAfter payload) _

end Accesses

section Runs
variable {cfg : AuthConfig} {userId : Nat} {s : LockState} {p : Pool LockState LockCall}
  {moves : List (Move (Pool LockState LockCall) (CallPools.Turn LockRequest))}

/-- A lock keeps the user out exactly as long as its marker reaches all that is signed. -/
theorem lock_keeps_out_iff (unlocked : s.returned = false)
    (run : Run (CallPools.Step (lockCalls cfg userId)) (Pool.idle s) moves p) :
    (∀ a ∈ visited (Pool.idle s) moves, LockHolds cfg userId a.shared) ↔
      Heeds (Allows (MarkerReaches cfg userId)) moves := by
  have start : LockHolds cfg userId s := by
    intro returned
    rw [unlocked] at returned
    cases returned
  exact shared_safe_iff (LockHolds cfg userId) keeps_nothing (fun _ _ order holds => access_holds holds order)
    trivial start run

def shippedAuth : AuthConfig where
  accessTokenTtlSeconds := 60 * 180
  refreshTokenTtlSeconds := 60 * 60 * 24 * 30
  rateLimitMaxAttempts := 5
  rateLimitWindowSeconds := 300
  normalizeLoginEmail email := email
  sha256 text := text

def twoUsers : LockState where
  accounts := {
    departments := .empty
    users := (Table.empty.insert (activeAccount "an@a.vn")).insert (activeAccount "binh@a.vn")
    roles := Table.empty.insert ⟨"SYSTEM_ADMIN", true, true⟩
    userRoles := Table.empty.insert ⟨0, 0, true, none⟩
    partnerDepartmentId := none }
  password _ := "secret"
  auth := AuthState.start Table.empty
  returned := false

def binhSignsIn : LockRequest := .login ⟨"binh@a.vn", "secret"⟩ none

def lockedAfterLogin : List (CallPools.Turn LockRequest) :=
  [.enter 0 binhSignsIn, .act 0 1000, .act 0 1100, .enter 1 (.lockUser 0), .act 1 5000, .act 1 5100,
    .act 1 5200, .act 1 5300]

theorem lock_ends_session :
    ∃ moves p, Run (CallPools.Step (lockCalls shippedAuth 1)) (Pool.idle twoUsers) moves p ∧
      p.shared.returned = true ∧ p.shared.auth.sessions = [⟨1, 1, 1⟩] ∧
      ∀ a ∈ visited (Pool.idle twoUsers) moves, LockHolds shippedAuth 1 a.shared := by
  have follows : Follows (lockCalls shippedAuth 1) (MarkerReaches shippedAuth 1) (Pool.idle twoUsers)
      lockedAfterLogin := by decide +kernel
  obtain ⟨moves, run, heeds⟩ := follows_run follows
  exact ⟨moves, _, run, by decide +kernel, by decide +kernel, (lock_keeps_out_iff rfl run).mpr heeds⟩

theorem signs_after_lock :
    ¬ ∀ (cfg : AuthConfig) (userId : Nat) (s : LockState)
      (moves : List (Move (Pool LockState LockCall) _)) (p : Pool LockState LockCall),
      s.returned = false → Run (CallPools.Step (lockCalls cfg userId)) (Pool.idle s) moves p →
      ∀ a ∈ visited (Pool.idle s) moves, LockHolds cfg userId a.shared := by
  intro claimed
  let turns : List (CallPools.Turn LockRequest) :=
    [.enter 0 binhSignsIn, .act 0 1000, .enter 1 (.lockUser 0), .act 1 1500, .act 1 1600, .act 1 1700,
      .act 1 1800, .act 0 3000]
  have follows : Follows (lockCalls shippedAuth 1) (fun _ _ _ => True) (Pool.idle twoUsers) turns := by
    decide +kernel
  obtain ⟨moves, run, -⟩ := follows_run follows
  have holds := claimed shippedAuth 1 twoUsers moves _ rfl run _ (end_visited run)
  have accepted : ∃ payload, Auth.canActivate shippedAuth
      (turns.foldl (Pool.after (lockCalls shippedAuth 1)) (Pool.idle twoUsers)).shared.auth 4000 false 0 =
        .ok payload := ⟨⟨1, 0, 3, 10803⟩, by decide +kernel⟩
  obtain ⟨payload, accepted⟩ := accepted
  exact holds (by decide +kernel) 0 ⟨1, 3, 5⟩ (by decide +kernel) rfl
    ⟨4000, false, payload, by decide +kernel, accepted⟩

end Runs

end Accounts
