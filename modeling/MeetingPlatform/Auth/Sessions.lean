import MeetingPlatform.Lib.Guards
import MeetingPlatform.Lib.Runs
import MeetingPlatform.Auth.Passwords

/- Sequences of calls to the authentication service, one after the other, and what each call
   does to the data that decides on tokens. -/
namespace Auth
open KeyedTable ExpiringStore LabelledRuns Guards

inductive Call where
  | login (dto : LoginDto) (ipAddress : Option String)
  | refresh (jti : Nat)
  | logout (jti : Nat)
  | changePassword (jti : Nat) (dto : ChangePasswordDto)
  | requestOtp (email otp : String)
  | confirmReset (dto : ConfirmResetDto)
  | request (ignoreBlacklist : Bool) (jti : Nat)

structure TimedCall where
  now : Nat
  call : Call

section Runs
variable (cfg : AuthConfig)

/-- Behind the guard the user is the one of the access token. -/
def guardedChange (s : AuthState) (now jti : Nat) (dto : ChangePasswordDto) :
    AuthState × Except AuthError Unit :=
  match canActivate cfg s now false jti with
  | .error refused => (s, .error refused)
  | .ok payload => changePassword s now payload.sub dto

def AuthState.call (s : AuthState) (now : Nat) : Call → AuthState
  | .login dto ipAddress => (login cfg s now dto ipAddress).1
  | .refresh jti => (refresh cfg s now jti).1
  | .logout jti => (logout cfg s now jti).1
  | .changePassword jti dto => (guardedChange cfg s now jti dto).1
  | .requestOtp email otp => (requestOtp cfg.sha256 s now email otp).1
  | .confirmReset dto => (confirmReset cfg.sha256 s now dto).1
  | .request _ _ => s

def AuthState.after (s : AuthState) (l : TimedCall) : AuthState :=
  { s.call cfg l.now l.call with clock := l.now, turn := s.turn + 1 }

def CallStep (s : AuthState) (l : TimedCall) (t : AuthState) : Prop :=
  s.clock ≤ l.now ∧ t = s.after cfg l

end Runs

section Tokens
variable {cfg : AuthConfig} {s : AuthState} {now jti : Nat} {payload : Claims}

theorem verify_ok_iff {claims : Nat → Session → Claims} {refused : AuthError} :
    verify s now claims jti refused = .ok payload ↔
      ∃ x, s.sessions[jti]? = some x ∧ (claims jti x).Unexpired now ∧ payload = claims jti x := by
  unfold verify
  cases s.sessions[jti]? with
  | none => simp
  | some x =>
    by_cases live : (claims jti x).Unexpired now
    · simp [live, eq_comm]
    · simp [live]

theorem canActivate_ok_iff {ignoreBlacklist : Bool} :
    canActivate cfg s now ignoreBlacklist jti = .ok payload ↔
      ∃ x, s.sessions[jti]? = some x ∧ payload = x.access cfg jti ∧
        now < (x.iat + cfg.accessTokenTtlSeconds) * 1000 ∧
        (ignoreBlacklist = false → s.blacklist.get now jti = none) ∧
        ∀ m, s.invalidAfter.get now x.sub = some m → m ≤ x.iat * 1000 := by
  simp only [canActivate, bind_eq_ok, verifyAccess, verify_ok_iff, unexpired_iff, require_eq_ok,
    pure_eq_ok]
  constructor
  · intro h
    obtain ⟨_, ⟨x, there, live, rfl⟩, _, unlisted, _, recent, rfl⟩ := h
    refine ⟨x, there, rfl, live, ?_, ?_⟩
    · intro checked
      exact Option.isNone_iff_eq_none.mp (unlisted.resolve_left (by simp [checked]))
    · intro m found
      exact Nat.le_of_not_lt (recent m found)
  · intro h
    obtain ⟨x, there, rfl, live, unlisted, recent⟩ := h
    refine ⟨_, ⟨x, there, live, rfl⟩, (), ?_, (), ?_, rfl⟩
    · cases ignoreBlacklist with
      | true => exact Or.inl rfl
      | false => exact Or.inr (Option.isNone_iff_eq_none.mpr (unlisted rfl))
    · intro m found
      exact Nat.not_lt.mpr (recent m found)

theorem refreshLookup_ok_iff : refreshLookup cfg s now jti = .ok payload ↔
    ∃ x, s.sessions[jti]? = some x ∧ payload = x.refresh cfg jti ∧
      now < (x.iat + cfg.refreshTokenTtlSeconds) * 1000 ∧ s.blacklist.get now jti = none := by
  simp only [refreshLookup, bind_eq_ok, verifyRefresh, verify_ok_iff, unexpired_iff, require_eq_ok,
    pure_eq_ok]
  constructor
  · intro h
    obtain ⟨_, ⟨x, there, live, rfl⟩, _, unlisted, rfl⟩ := h
    exact ⟨x, there, rfl, live, Option.isNone_iff_eq_none.mp unlisted⟩
  · intro h
    obtain ⟨x, there, rfl, live, unlisted⟩ := h
    exact ⟨_, ⟨x, there, live, rfl⟩, (), Option.isNone_iff_eq_none.mpr unlisted, rfl⟩

end Tokens

section Effects
variable (cfg : AuthConfig) (s : AuthState) (now : Nat)

/-- The data that the guard and the refresh decide on. -/
structure Core where
  sessions : List Session
  blacklist : Cache Nat Unit
  invalidAfter : Cache Nat Nat
  changed : Nat → Nat

def AuthState.core (s : AuthState) : Core := ⟨s.sessions, s.blacklist, s.invalidAfter, s.changed⟩

def Granted (jti : Nat) : Prop :=
  ∃ payload, refreshLookup cfg s now jti = .ok payload ∧ refreshUser s.users now payload.sub = .ok ()

def LoggedOut (jti : Nat) : Prop := ∃ payload, canActivate cfg s now true jti = .ok payload

/-- What `changePassword` asks for before it writes. -/
def MayChange (userId : Nat) (dto : ChangePasswordDto) : Prop :=
  s.changeBlocked.get now userId = none ∧ dto.newPassword = dto.confirmPassword ∧
    ∃ user, s.users.get? userId = some user ∧ user.deletedAt = none ∧
      user.accountStatus = .active ∧ user.password = dto.currentPassword ∧
      user.password ≠ dto.newPassword

/-- The call gives the user a new password. -/
def Changes (userId : Nat) : Call → Prop
  | .changePassword jti dto => (∃ payload, canActivate cfg s now false jti = .ok payload ∧
      payload.sub = userId) ∧ MayChange s now userId dto
  | .confirmReset dto => resetUser s.users dto.email = .ok userId ∧
      checkOtp cfg.sha256 (s.otpSessions.get now dto.email) dto.otp = .right
  | _ => False

/-- What the calls can do to this data, with what each of them found. -/
inductive Effect : Call → Core → Prop where
  | changes {call : Call} {userId : Nat} (found : Changes cfg s now userId call) :
      Effect call (s.invalidateUserTokens now userId).core
  | login {dto : LoginDto} {ipAddress : Option String} (userId : Nat) :
      Effect (.login dto ipAddress)
        { s.core with sessions := s.sessions ++ [⟨userId, now / 1000, s.turn⟩] }
  | refresh {jti : Nat} {x : Session} (there : s.sessions[jti]? = some x)
      (granted : Granted cfg s now jti) : Effect (.refresh jti)
        ((s.issue now x.sub x.started).revoke now (x.refresh cfg jti)).core
  | logout {jti : Nat} {x : Session} (there : s.sessions[jti]? = some x)
      (done : LoggedOut cfg s now jti) :
      Effect (.logout jti) (s.revoke now (x.access cfg jti)).core
  | idle {call : Call} (kept : ∀ userId, ¬ Changes cfg s now userId call)
      (refused : ∀ jti, call = .refresh jti → ¬ Granted cfg s now jti)
      (stays : ∀ jti, call = .logout jti → ¬ LoggedOut cfg s now jti) : Effect call s.core

theorem login_cases (dto : LoginDto) (ipAddress : Option String) : ∃ t,
    t.turn = s.turn ∧ ((∃ refused, login cfg s now dto ipAddress = (t, .error refused) ∧
        t.core = s.core) ∨
      ∃ userId, login cfg s now dto ipAddress = (t, .ok s.sessions.length) ∧
        t.core = { s.core with sessions := s.sessions ++ [⟨userId, now / 1000, s.turn⟩] }) := by
  unfold login
  simp only
  split
  · refine ⟨_, ?_, Or.inl ⟨_, rfl, rfl⟩⟩
    rfl
  · split
    · refine ⟨_, ?_, Or.inl ⟨_, rfl, rfl⟩⟩
      rfl
    · rename_i userId _
      refine ⟨_, ?_, Or.inr ⟨userId, rfl, rfl⟩⟩
      rfl

theorem refresh_refused {jti : Nat} (refused : ¬ Granted cfg s now jti) :
    (refresh cfg s now jti).1 = s := by
  unfold refresh
  split
  · rfl
  · rename_i payload found
    split
    · rfl
    · rename_i passed
      exact absurd ⟨payload, found, passed⟩ refused

theorem refresh_granted {jti : Nat} {x : Session} (there : s.sessions[jti]? = some x)
    (granted : Granted cfg s now jti) : (refresh cfg s now jti).1 =
      (s.issue now x.sub x.started).revoke now (x.refresh cfg jti) := by
  obtain ⟨payload, found, passed⟩ := granted
  obtain ⟨x', there', same, -⟩ := refreshLookup_ok_iff.mp found
  obtain rfl := Option.some.inj (there.symm.trans there')
  subst same
  simp only [refresh, found, passed, startedOf, there]
  rfl

theorem logout_refused {jti : Nat} (refused : ¬ LoggedOut cfg s now jti) :
    (logout cfg s now jti).1 = s := by
  unfold logout
  split
  · rfl
  · rename_i payload passed
    exact absurd ⟨payload, passed⟩ refused

theorem logout_done {jti : Nat} {x : Session} (there : s.sessions[jti]? = some x)
    (done : LoggedOut cfg s now jti) : (logout cfg s now jti).1 = s.revoke now (x.access cfg jti) := by
  obtain ⟨payload, passed⟩ := done
  obtain ⟨x', there', same, -⟩ := canActivate_ok_iff.mp passed
  obtain rfl := Option.some.inj (there.symm.trans there')
  subst same
  simp only [logout, passed]

variable {cfg s now}

theorem Granted.found {jti : Nat} (granted : Granted cfg s now jti) :
    ∃ x, s.sessions[jti]? = some x := by
  obtain ⟨payload, found, -⟩ := granted
  obtain ⟨x, there, -⟩ := refreshLookup_ok_iff.mp found
  exact ⟨x, there⟩

theorem LoggedOut.found {jti : Nat} (done : LoggedOut cfg s now jti) :
    ∃ x, s.sessions[jti]? = some x := by
  obtain ⟨payload, passed⟩ := done
  obtain ⟨x, there, -⟩ := canActivate_ok_iff.mp passed
  exact ⟨x, there⟩

theorem changePassword_done {userId : Nat} {dto : ChangePasswordDto}
    (may : MayChange s now userId dto) :
    (changePassword s now userId dto).1.core = (s.invalidateUserTokens now userId).core := by
  obtain ⟨unblocked, confirmed, user, there, kept, active, current, other⟩ := may
  simp only [changePassword, unblocked, ← confirmed, there, kept, active, ← current, other,
    Option.isSome_none, ne_eq, not_true_eq_false, Bool.false_eq_true, if_false]
  rfl

theorem changePassword_refused {userId : Nat} {dto : ChangePasswordDto}
    (refused : ¬ MayChange s now userId dto) : (changePassword s now userId dto).1.core = s.core := by
  unfold changePassword countWrongPassword
  simp only
  repeat' split
  all_goals try rfl
  rename_i unblocked confirmed _ user there kept active current other
  refine absurd ⟨?_, ?_, user, there, ?_, ?_, ?_, other⟩ refused
  · exact Option.not_isSome_iff_eq_none.mp unblocked
  · exact of_not_not confirmed
  · exact of_not_not kept
  · exact of_not_not active
  · exact of_not_not current

theorem requestOtp_core (email otp : String) :
    (requestOtp cfg.sha256 s now email otp).1.core = s.core := by
  unfold requestOtp
  simp only
  repeat' split
  all_goals rfl

theorem confirmReset_done {userId : Nat} {dto : ConfirmResetDto}
    (named : resetUser s.users dto.email = .ok userId)
    (right : checkOtp cfg.sha256 (s.otpSessions.get now dto.email) dto.otp = .right) :
    (confirmReset cfg.sha256 s now dto).1.core = (s.invalidateUserTokens now userId).core := by
  simp only [confirmReset, named, right]
  rfl

theorem changes_effect {userId : Nat} {call : Call} (changes : Changes cfg s now userId call) :
    (s.call cfg now call).core = (s.invalidateUserTokens now userId).core := by
  cases call with
  | changePassword jti dto =>
    obtain ⟨⟨payload, passed, rfl⟩, may⟩ := changes
    simp only [AuthState.call, guardedChange, passed]
    exact changePassword_done may
  | confirmReset dto =>
    obtain ⟨named, right⟩ := changes
    exact confirmReset_done named right
  | _ => exact absurd changes id

theorem changes_unique {userId other : Nat} {call : Call} (changes : Changes cfg s now userId call)
    (again : Changes cfg s now other call) : other = userId := by
  cases call with
  | changePassword jti dto =>
    obtain ⟨⟨payload, passed, rfl⟩, -⟩ := changes
    obtain ⟨⟨payload', passed', rfl⟩, -⟩ := again
    cases passed.symm.trans passed'
    rfl
  | confirmReset dto =>
    cases changes.1.symm.trans again.1
    rfl
  | _ => exact absurd changes id

theorem guardedChange_idle {jti : Nat} {dto : ChangePasswordDto}
    (idle : ∀ userId, ¬ Changes cfg s now userId (.changePassword jti dto)) :
    (guardedChange cfg s now jti dto).1.core = s.core := by
  cases passed : canActivate cfg s now false jti with
  | error refused => simp only [guardedChange, passed]
  | ok payload =>
    simp only [guardedChange, passed]
    refine changePassword_refused ?_
    intro may
    exact idle payload.sub ⟨⟨payload, passed, rfl⟩, may⟩

theorem confirmReset_idle {dto : ConfirmResetDto}
    (idle : ∀ userId, ¬ Changes cfg s now userId (.confirmReset dto)) :
    (confirmReset cfg.sha256 s now dto).1.core = s.core := by
  unfold confirmReset
  split
  · rfl
  · rename_i userId named
    split
    · rfl
    · rfl
    · rename_i right
      exact absurd ⟨named, right⟩ (idle userId)

variable (cfg s now)

theorem call_effect (call : Call) : Effect cfg s now call (s.call cfg now call).core := by
  by_cases changed : ∃ userId, Changes cfg s now userId call
  · obtain ⟨userId, found⟩ := changed
    rw [changes_effect found]
    exact .changes found
  have kept : ∀ userId, ¬ Changes cfg s now userId call := not_exists.mp changed
  have untouched : (s.call cfg now call).core = s.core →
      (∀ jti, call = .refresh jti → ¬ Granted cfg s now jti) →
      (∀ jti, call = .logout jti → ¬ LoggedOut cfg s now jti) →
      Effect cfg s now call (s.call cfg now call).core := by
    intro same refused stays
    rw [same]
    exact .idle kept refused stays
  cases call with
  | login dto ipAddress =>
    obtain ⟨t, -, ⟨refused, result, same⟩ | ⟨userId, result, issued⟩⟩ :=
      login_cases cfg s now dto ipAddress
    · exact untouched ((congrArg (fun r => r.1.core) result).trans same) nofun nofun
    · simp only [AuthState.call, result, issued]
      exact .login userId
  | refresh jti =>
    by_cases granted : Granted cfg s now jti
    · obtain ⟨x, there⟩ := granted.found
      simp only [AuthState.call, refresh_granted cfg s now there granted]
      exact .refresh there granted
    · refine untouched (congrArg AuthState.core (refresh_refused cfg s now granted)) ?_ nofun
      intro _ same
      cases same
      exact granted
  | logout jti =>
    by_cases done : LoggedOut cfg s now jti
    · obtain ⟨x, there⟩ := done.found
      simp only [AuthState.call, logout_done cfg s now there done]
      exact .logout there done
    · refine untouched (congrArg AuthState.core (logout_refused cfg s now done)) nofun ?_
      intro _ same
      cases same
      exact done
  | changePassword jti dto => exact untouched (guardedChange_idle kept) nofun nofun
  | requestOtp email otp => exact untouched (requestOtp_core email otp) nofun nofun
  | confirmReset dto => exact untouched (confirmReset_idle kept) nofun nofun
  | request ignoreBlacklist jti => exact untouched rfl nofun nofun

variable {cfg s now}

theorem CallStep.effect {l : TimedCall} {t : AuthState} (move : CallStep cfg s l t) :
    s.clock ≤ l.now ∧ t.clock = l.now ∧ t.turn = s.turn + 1 ∧
      ∃ c, t.core = c ∧ Effect cfg s l.now l.call c := by
  obtain ⟨order, rfl⟩ := move
  exact ⟨order, rfl, rfl, _, rfl, call_effect cfg s l.now l.call⟩

theorem refresh_ok_iff {jti : Nat} :
    (∃ new, (refresh cfg s now jti).2 = .ok new) ↔ Granted cfg s now jti := by
  constructor
  · intro accepted
    by_contra refused
    obtain ⟨new, done⟩ := accepted
    unfold refresh at done
    split at done
    · cases done
    · rename_i payload found
      split at done
      · cases done
      · rename_i passed
        exact refused ⟨payload, found, passed⟩
  · intro granted
    obtain ⟨payload, found, passed⟩ := granted
    exact ⟨s.sessions.length, by simp only [refresh, found, passed]⟩

theorem granted_iff {jti : Nat} {x : Session} (there : s.sessions[jti]? = some x) :
    Granted cfg s now jti ↔ now < (x.iat + cfg.refreshTokenTtlSeconds) * 1000 ∧
      s.blacklist.get now jti = none ∧ refreshUser s.users now x.sub = .ok () := by
  constructor
  · intro granted
    obtain ⟨payload, found, passed⟩ := granted
    obtain ⟨x', there', rfl, live, unlisted⟩ := refreshLookup_ok_iff.mp found
    obtain rfl := Option.some.inj (there.symm.trans there')
    exact ⟨live, unlisted, passed⟩
  · intro passes
    obtain ⟨live, unlisted, passed⟩ := passes
    exact ⟨_, refreshLookup_ok_iff.mpr ⟨x, there, rfl, live, unlisted⟩, passed⟩

def SameButPasswords (before after : Table User) : Prop := after = before ∨
  ∃ rows password, after = before.updateWhere rows fun user => { user with password := password }

theorem call_users (call : Call) : SameButPasswords s.users (s.call cfg now call).users := by
  cases call with
  | login dto ipAddress =>
    simp only [AuthState.call, login]
    split
    · exact Or.inl rfl
    · split <;> exact Or.inl rfl
  | refresh jti =>
    simp only [AuthState.call]
    by_cases granted : Granted cfg s now jti
    · obtain ⟨x, there⟩ := granted.found
      rw [refresh_granted cfg s now there granted]
      exact Or.inl (revoke_users _)
    · rw [refresh_refused cfg s now granted]
      exact Or.inl rfl
  | logout jti =>
    simp only [AuthState.call, logout]
    split
    · exact Or.inl rfl
    · exact Or.inl (revoke_users _)
  | changePassword jti dto =>
    simp only [AuthState.call, guardedChange]
    split
    · exact Or.inl rfl
    · unfold changePassword countWrongPassword
      simp only
      repeat' split
      all_goals first
        | exact Or.inl rfl
        | exact Or.inr ⟨_, _, rfl⟩
  | requestOtp email otp =>
    simp only [AuthState.call, requestOtp]
    repeat' split
    all_goals exact Or.inl rfl
  | confirmReset dto =>
    simp only [AuthState.call, confirmReset]
    repeat' split
    all_goals first
      | exact Or.inl rfl
      | exact Or.inr ⟨_, _, rfl⟩
  | request ignoreBlacklist jti => exact Or.inl rfl

theorem SameButPasswords.refreshUser {before after : Table User}
    (same : SameButPasswords before after) (later sub : Nat) :
    refreshUser after later sub = refreshUser before later sub := by
  rcases same with rfl | ⟨rows, password, rfl⟩
  · rfl
  · unfold Auth.refreshUser
    rw [get?_updateWhere]
    cases before.get? sub with
    | none => rfl
    | some user =>
      by_cases kept : user.deletedAt = none <;> by_cases written : rows (sub, user) <;>
        simp [kept, written, User.Expired, Option.filter]

variable {call : Call} {c : Core}

theorem Effect.session (effect : Effect cfg s now call c) {jti : Nat} {x : Session}
    (there : s.sessions[jti]? = some x) : c.sessions[jti]? = some x := by
  cases effect with
  | changes _ => exact there
  | login userId => exact session_issued.mpr (Or.inl there)
  | refresh _ _ =>
    simp only [AuthState.core, revoke_sessions]
    exact session_issued.mpr (Or.inl there)
  | logout _ _ => simpa only [AuthState.core, revoke_sessions] using there
  | idle _ _ _ => exact there

theorem Effect.entry (effect : Effect cfg s now call c) (jti : Nat) :
    c.blacklist.entries jti = s.blacklist.entries jti ∧
        ¬ (call = .logout jti ∧ LoggedOut cfg s now jti) ∨
      ∃ x payload, s.sessions[jti]? = some x ∧
        c.blacklist.entries jti = some ⟨(), some (blacklistedUntil now payload.exp)⟩ ∧
        (call = .refresh jti ∧ Granted cfg s now jti ∧ payload = x.refresh cfg jti ∨
          call = .logout jti ∧ LoggedOut cfg s now jti ∧ payload = x.access cfg jti) := by
  cases effect with
  | changes found =>
    refine Or.inl ⟨rfl, ?_⟩
    intro logsOut
    rw [logsOut.1] at found
    exact found
  | login userId => exact Or.inl ⟨rfl, fun logsOut => Call.noConfusion logsOut.1⟩
  | @refresh named x there granted =>
    have live : now < (x.refresh cfg named).exp * 1000 := ((granted_iff there).mp granted).1
    rw [AuthState.core, revoke_blacklist live]
    by_cases same : jti = named
    · subst same
      exact Or.inr ⟨x, x.refresh cfg jti, there, entries_put_self _,
        Or.inl ⟨rfl, granted, rfl⟩⟩
    · exact Or.inl ⟨entries_put_of_ne _ same, fun logsOut => Call.noConfusion logsOut.1⟩
  | @logout named x there done =>
    obtain ⟨payload, passed⟩ := done
    obtain ⟨x', there', -, unexpired, -⟩ := canActivate_ok_iff.mp passed
    obtain rfl := Option.some.inj (there.symm.trans there')
    have live : now < (x.access cfg named).exp * 1000 := unexpired
    rw [AuthState.core, revoke_blacklist live]
    by_cases same : jti = named
    · subst same
      exact Or.inr ⟨x, x.access cfg jti, there, entries_put_self _,
        Or.inr ⟨rfl, ⟨payload, passed⟩, rfl⟩⟩
    · refine Or.inl ⟨entries_put_of_ne _ same, ?_⟩
      intro logsOut
      cases logsOut.1
      exact same rfl
  | idle _ _ stays => exact Or.inl ⟨rfl, fun logsOut => stays jti logsOut.1 logsOut.2⟩

end Effects

section Samples

def shippedConfig : AuthConfig := ⟨900, 604800, 5, 300, id, id⟩

def staff : Table User := Table.empty.insert ⟨"ann@example.com", "first", .active, .active, none, none⟩

def annSignsIn : Call := .login ⟨"ann@example.com", "first"⟩ none

def signedIn : AuthState := (AuthState.start staff).after shippedConfig ⟨1000, annSignsIn⟩

theorem ann_signs_in : CallStep shippedConfig (AuthState.start staff) ⟨1000, annSignsIn⟩ signedIn :=
  ⟨by decide, rfl⟩

theorem ann_signed_in : signedIn.sessions = [⟨0, 1, 0⟩] := by decide +kernel

end Samples
end Auth
