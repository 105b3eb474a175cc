import MeetingPlatform.Lib.Guards
import MeetingPlatform.Lib.Table
import MeetingPlatform.Lib.ExpiringStore

/- Access and refresh tokens. Both tokens of a session carry one jti; a token is spent or
   logged out by an entry of the blacklist, and a password change leaves a marker that older
   tokens of the user do not pass. Instants are epoch milliseconds, claims whole seconds. -/
namespace Auth
open KeyedTable ExpiringStore Guards

inductive AuthException where
  | badRequest | unauthorized | forbidden | unprocessableEntity | locked | tooManyRequests
  deriving DecidableEq, Repr

structure AuthError where
  exception : AuthException
  code : Option String
  message : String
  deriving DecidableEq, Repr

inductive AccountStatus where
  | active | inactive | locked | pendingReset
  deriving DecidableEq, Repr

inductive EmploymentStatus where
  | active | probation | resigned | transferred
  deriving DecidableEq, Repr

/-- `password` is the one that `password_hash` was made from. -/
structure User where
  email : String
  password : String
  accountStatus : AccountStatus
  employmentStatus : EmploymentStatus
  accountExpiresAt : Option Nat := none
  deletedAt : Option Nat := none
  deriving DecidableEq, Repr

/-- The settings, and the functions on strings that are used as they are. -/
structure AuthConfig where
  accessTokenTtlSeconds : Nat
  refreshTokenTtlSeconds : Nat
  rateLimitMaxAttempts : Nat
  rateLimitWindowSeconds : Nat
  normalizeLoginEmail : String → String
  sha256 : String → String

structure Claims where
  sub : Nat
  jti : Nat
  iat : Nat
  exp : Nat
  deriving DecidableEq, Repr

/-- The two tokens that are signed together. `started` is the turn of the login that their
    chain of refreshes began with. -/
structure Session where
  sub : Nat
  iat : Nat
  started : Nat
  deriving DecidableEq, Repr

/-- `code` tells the generated codes apart; it is the turn of their generation. -/
structure OtpSession where
  otpHash : String
  attempts : Nat
  createdAt : Nat
  code : Nat
  deriving DecidableEq, Repr

/-- The position of a session among all that were issued is its jti. `turn` counts the calls,
    and `changed` keeps the turn of a user's last password change. -/
structure AuthState where
  clock : Nat
  users : Table User
  sessions : List Session
  blacklist : Cache Nat Unit
  invalidAfter : Cache Nat Nat
  loginAttempts : Cache (String × String) Nat
  changeFailed : Cache Nat Nat
  changeBlocked : Cache Nat Unit
  otpSessions : Cache String OtpSession
  otpLimits : Cache String Nat
  otpBlocked : Cache String Unit
  turn : Nat
  changed : Nat → Nat

def AuthState.start (users : Table User) : AuthState :=
  ⟨0, users, [], .empty, .empty, .empty, .empty, .empty, .empty, .empty, .empty, 0, fun _ => 0⟩

/-- The instant of an access, for those that are made one by one. -/
def AuthState.tick (s : AuthState) (now : Nat) : AuthState :=
  { s with clock := now, turn := s.turn + 1 }

@[simp] theorem tick_sessions (s : AuthState) (now : Nat) : (s.tick now).sessions = s.sessions := rfl

@[simp] theorem tick_blacklist (s : AuthState) (now : Nat) :
    (s.tick now).blacklist = s.blacklist := rfl

@[simp] theorem tick_otpSessions (s : AuthState) (now : Nat) :
    (s.tick now).otpSessions = s.otpSessions := rfl

@[simp] theorem tick_clock (s : AuthState) (now : Nat) : (s.tick now).clock = now := rfl

@[simp] theorem tick_turn (s : AuthState) (now : Nat) : (s.tick now).turn = s.turn + 1 := rfl

section Errors

def coded (exception : AuthException) (code message : String) : AuthError :=
  ⟨exception, some code, message⟩

def tokenInvalid : AuthError := ⟨.unauthorized, none, "Invalid or expired token"⟩

def tokenRevoked : AuthError := ⟨.unauthorized, none, "Token has been revoked"⟩

def tokenOutdated : AuthError :=
  ⟨.unauthorized, none, "Token has been revoked due to password change"⟩

def refreshInvalid : AuthError :=
  coded .unauthorized "REFRESH_TOKEN_INVALID" "Refresh token is invalid or expired."

def refreshRevoked : AuthError :=
  coded .unauthorized "REFRESH_TOKEN_REVOKED" "Refresh token has been revoked."

def accountExpired : AuthError := coded .forbidden "AUTH_ACCOUNT_EXPIRED" "Account has expired."

def tooManyLogins : AuthError :=
  coded .tooManyRequests "AUTH_TOO_MANY_ATTEMPTS" "Too many login attempts."

def invalidCredentials : AuthError :=
  coded .unauthorized "AUTH_INVALID_CREDENTIALS" "Invalid credentials."

end Errors

section Claims
variable (cfg : AuthConfig)

def Session.access (jti : Nat) (x : Session) : Claims :=
  ⟨x.sub, jti, x.iat, x.iat + cfg.accessTokenTtlSeconds⟩

def Session.refresh (jti : Nat) (x : Session) : Claims :=
  ⟨x.sub, jti, x.iat, x.iat + cfg.refreshTokenTtlSeconds⟩

/-- The check of `exp` compares whole seconds. -/
def Claims.Unexpired (payload : Claims) (now : Nat) : Prop := now / 1000 < payload.exp

instance (payload : Claims) (now : Nat) : Decidable (payload.Unexpired now) :=
  inferInstanceAs (Decidable (_ < _))

theorem unexpired_iff {payload : Claims} {now : Nat} :
    payload.Unexpired now ↔ now < payload.exp * 1000 := by
  unfold Claims.Unexpired
  omega

def verify (s : AuthState) (now : Nat) (claims : Nat → Session → Claims) (jti : Nat)
    (refused : AuthError) : Except AuthError Claims :=
  match s.sessions[jti]? with
  | none => .error refused
  | some x => if (claims jti x).Unexpired now then .ok (claims jti x) else .error refused

def verifyAccess (s : AuthState) (now jti : Nat) : Except AuthError Claims :=
  verify s now (Session.access cfg) jti tokenInvalid

def verifyRefresh (s : AuthState) (now jti : Nat) : Except AuthError Claims :=
  verify s now (Session.refresh cfg) jti refreshInvalid

def canActivate (s : AuthState) (now : Nat) (ignoreBlacklist : Bool) (jti : Nat) :
    Except AuthError Claims := do
  let payload ← verifyAccess cfg s now jti
  require (ignoreBlacklist = true ∨ (s.blacklist.get now payload.jti).isNone) tokenRevoked
  require (∀ invalidAfterMs ∈ s.invalidAfter.get now payload.sub,
    ¬ payload.iat * 1000 < invalidAfterMs) tokenOutdated
  return payload

end Claims

section Blacklist

/-- The rest of a token's life in whole seconds, rounded up; `none` if there is none. -/
def ttlSeconds (now exp : Nat) : Option Nat :=
  if now < exp * 1000 then some ((exp * 1000 - now + 999) / 1000) else none

/-- The jti of a token is put on the blacklist until the token expires. -/
def AuthState.revoke (s : AuthState) (now : Nat) (payload : Claims) : AuthState :=
  match ttlSeconds now payload.exp with
  | none => s
  | some ttl => { s with blacklist := s.blacklist.setWithTtl now payload.jti () ttl }

/-- The end of the entry that a token with a life left gets. -/
def blacklistedUntil (now exp : Nat) : Nat := now + (exp * 1000 - now + 999) / 1000 * 1000

variable {s : AuthState} {now : Nat}

theorem blacklistedUntil_covers (now exp : Nat) : exp * 1000 ≤ blacklistedUntil now exp := by
  unfold blacklistedUntil
  omega

theorem blacklistedUntil_close {now exp : Nat} (live : now < exp * 1000) :
    blacklistedUntil now exp < exp * 1000 + 1000 := by
  unfold blacklistedUntil
  omega

theorem revoke_blacklist {payload : Claims} (live : now < payload.exp * 1000) :
    (s.revoke now payload).blacklist =
      s.blacklist.put payload.jti (some ⟨(), some (blacklistedUntil now payload.exp)⟩) := by
  simp only [AuthState.revoke, ttlSeconds, if_pos live]
  rfl

theorem revoke_expired {payload : Claims} (expired : payload.exp * 1000 ≤ now) :
    s.revoke now payload = s := by
  simp only [AuthState.revoke, ttlSeconds, if_neg (Nat.not_lt.mpr expired)]

@[simp] theorem revoke_sessions (payload : Claims) :
    (s.revoke now payload).sessions = s.sessions := by
  unfold AuthState.revoke
  split <;> rfl

@[simp] theorem revoke_turn (payload : Claims) : (s.revoke now payload).turn = s.turn := by
  unfold AuthState.revoke
  split <;> rfl

@[simp] theorem revoke_users (payload : Claims) : (s.revoke now payload).users = s.users := by
  unfold AuthState.revoke
  split <;> rfl

@[simp] theorem revoke_invalidAfter (payload : Claims) :
    (s.revoke now payload).invalidAfter = s.invalidAfter := by
  unfold AuthState.revoke
  split <;> rfl

@[simp] theorem revoke_changed (payload : Claims) :
    (s.revoke now payload).changed = s.changed := by
  unfold AuthState.revoke
  split <;> rfl

end Blacklist

section Calls
variable (cfg : AuthConfig)

structure LoginDto where
  email : String
  password : String

def statusRefused : AccountStatus → Option AuthError
  | .active => none
  | .inactive => some (coded .forbidden "AUTH_ACCOUNT_INACTIVE" "Account is inactive.")
  | .locked => some (coded .locked "AUTH_ACCOUNT_LOCKED" "Account is locked.")
  | .pendingReset => some
    (coded .forbidden "AUTH_ACCOUNT_STATUS_NOT_ALLOWED" "Account status is not allowed for login.")

def User.Expired (user : User) (now : Nat) : Prop := ∃ e ∈ user.accountExpiresAt, e ≤ now

instance (user : User) (now : Nat) : Decidable (user.Expired now) :=
  inferInstanceAs (Decidable (∃ e ∈ user.accountExpiresAt, e ≤ now))

def AuthState.issue (s : AuthState) (now sub started : Nat) : AuthState :=
  { s with sessions := s.sessions ++ [⟨sub, now / 1000, started⟩] }

@[simp] theorem issue_sessions (s : AuthState) (now sub started : Nat) :
    (s.issue now sub started).sessions = s.sessions ++ [⟨sub, now / 1000, started⟩] := rfl

theorem session_issued {s : AuthState} {now sub started jti : Nat} {x : Session} :
    (s.issue now sub started).sessions[jti]? = some x ↔ s.sessions[jti]? = some x ∨
      jti = s.sessions.length ∧ x = ⟨sub, now / 1000, started⟩ := by
  rw [issue_sessions, List.getElem?_append]
  by_cases old : jti < s.sessions.length
  · simp [old, Nat.ne_of_lt old]
  · obtain ⟨k, rfl⟩ := Nat.exists_eq_add_of_le (Nat.not_lt.mp old)
    cases k with
    | zero => simp [eq_comm]
    | succ k => simp

@[simp] theorem issue_invalidAfter (s : AuthState) (now sub started : Nat) :
    (s.issue now sub started).invalidAfter = s.invalidAfter := rfl

@[simp] theorem issue_changed (s : AuthState) (now sub started : Nat) :
    (s.issue now sub started).changed = s.changed := rfl

/-- `RateLimitService.checkOrThrow`: the count, and the counters after it. -/
def countLogin (s : AuthState) (now : Nat) (key : String × String) : Nat × AuthState :=
  let counted := s.loginAttempts.incr now key
  let current := (counted.get now key).getD 0
  (current,
    { s with loginAttempts :=
        if current = 1 then counted.expire now key cfg.rateLimitWindowSeconds else counted })

def loginUser (s : AuthState) (now : Nat) (email password : String) : Except AuthError Nat :=
  match s.users.findOne fun r => r.2.email = email ∧ r.2.deletedAt = none with
  | none => .error invalidCredentials
  | some (userId, user) =>
    if user.password ≠ password then .error invalidCredentials
    else if user.Expired now then .error accountExpired
    else match statusRefused user.accountStatus with
      | some refused => .error refused
      | none => .ok userId

def login (s : AuthState) (now : Nat) (dto : LoginDto) (ipAddress : Option String) :
    AuthState × Except AuthError Nat :=
  let email := cfg.normalizeLoginEmail dto.email
  let (current, s) := countLogin cfg s now (ipAddress.getD "unknown", email)
  if cfg.rateLimitMaxAttempts < current then (s, .error tooManyLogins)
  else match loginUser s now email dto.password with
    | .error refused => (s, .error refused)
    | .ok userId => (s.issue now userId s.turn, .ok s.sessions.length)

def refreshLookup (s : AuthState) (now jti : Nat) : Except AuthError Claims := do
  let payload ← verifyRefresh cfg s now jti
  require ((s.blacklist.get now payload.jti).isNone = true) refreshRevoked
  return payload

def refreshUser (users : Table User) (now sub : Nat) : Except AuthError Unit :=
  match (users.get? sub).filter fun user => user.deletedAt = none with
  | none => .error refreshInvalid
  | some user =>
    if user.Expired now then .error accountExpired
    else if user.accountStatus ≠ .active then .error refreshInvalid
    else .ok ()

def startedOf (s : AuthState) (jti : Nat) : Nat := (s.sessions[jti]?.map Session.started).getD 0

def refresh (s : AuthState) (now jti : Nat) : AuthState × Except AuthError Nat :=
  match refreshLookup cfg s now jti with
  | .error refused => (s, .error refused)
  | .ok payload =>
    match refreshUser s.users now payload.sub with
    | .error refused => (s, .error refused)
    | .ok _ =>
      ((s.issue now payload.sub (startedOf s jti)).revoke now payload, .ok s.sessions.length)

def logout (s : AuthState) (now jti : Nat) : AuthState × Except AuthError Unit :=
  match canActivate cfg s now true jti with
  | .error refused => (s, .error refused)
  | .ok payload => (s.revoke now payload, .ok ())

end Calls
end Auth
