import MeetingPlatform.Guest.Calls

/- The calls for one guest as whole steps, with the tokens that the guest has been given: what the
   guards let in, and what the host's decisions leave of it. -/
namespace GuestAccess
open MeetingBooking ExpiringStore Guards LabelledRuns

/-- The claims of a token that the guards look at. `iat` and `exp` are whole seconds. -/
structure GuestJwtPayload where
  jti : Nat
  iat : Nat
  exp : Nat
  deriving DecidableEq, Repr

/-- Whether a rejection stands, and whether the guest has verified a code since. -/
inductive HostVerdict where
  | welcome
  | rejected
  | verifiedSince
  deriving DecidableEq, Repr

/-- `issued` holds the tokens handed out, `cut` those from before the last call that was to end them. -/
structure GuestLedger where
  guest : GuestData
  issued : List GuestJwtPayload
  cut : List GuestJwtPayload
  verdict : HostVerdict

inductive GuestAction where
  | requestOtp (secret otp : String)
  | verifyOtp (secret otp : String)
  | admitGuest (userId : Nat)
  | reject (userId : Nat)
  | resendInvite (userId : Nat) (secret : String)
  | revokeAccess (userId : Nat)
  | getGuestMeetingView (payload : GuestJwtPayload)

structure GuestTurn where
  now : Nat
  action : GuestAction

section Errors

def otpInvalid : GuestError :=
  ⟨.conflict, "GUEST_OTP_INVALID", "Ma xac nhan khong hop le hoac da het han."⟩

def otpBlocked : GuestError :=
  ⟨.tooManyRequests, "GUEST_OTP_BLOCKED", "Loi moi tam thoi bi khoa do nhap sai qua nhieu lan."⟩

def tooManyOtpRequests : GuestError :=
  ⟨.tooManyRequests, "GUEST_OTP_TOO_MANY_REQUESTS",
    "Ban da yeu cau ma xac nhan qua nhieu lan. Vui long thu lai sau."⟩

def invalidSession : GuestError :=
  ⟨.unauthorized, "GUEST_SESSION_INVALID", "Phien truy cap khong hop le hoac da het han."⟩

def lobbyPending : GuestError :=
  ⟨.forbidden, "GUEST_LOBBY_PENDING", "Vui long cho host duyet truoc khi vao cuoc hop."⟩

def scopeMismatch : GuestError :=
  ⟨.forbidden, "GUEST_MEETING_SCOPE_MISMATCH", "Phien truy cap khong khop voi cuoc hop nay."⟩

def scopeMeetingCancelled : GuestError :=
  ⟨.conflict, "GUEST_MEETING_CANCELLED",
    "Cuoc hop da huy hoac da ket thuc, khong the tiep tuc truy cap."⟩

end Errors

section Calls
variable (cfg : GuestAccessConfig) (guest : GuestData) (now : Nat)

def requestOtp (secret otp : String) : GuestData × Except GuestError Unit :=
  match admission cfg guest now secret with
  | .error e => (guest, .error e)
  | .ok _ =>
    if (guest.cache.otpBlocked.get now ()).isSome then (guest, .error otpBlocked)
    else
      let sends := guest.cache.otpSend.incr now ()
      let sendCount := (sends.get now ()).getD 0
      let sends :=
        if sendCount = 1 then sends.expire now () cfg.otpResendWindowSeconds else sends
      let cache := { guest.cache with otpSend := sends }
      if cfg.otpMaxResends < sendCount then
        ({ guest with cache := cache }, .error tooManyOtpRequests)
      else
        let stored : StoredOtp := ⟨cfg.sha256 otp, guest.turn⟩
        ({ guest with cache := { cache with
            otp := cache.otp.setWithTtl now () stored cfg.otpTtlSeconds
            otpAttempt := cache.otpAttempt.del () } }, .ok ())

/-- What `verifyOtp` does to the counter, the code and the block on a wrong guess. -/
def GuestCache.failAttempt (cache : GuestCache) : GuestCache :=
  let counters := cache.otpAttempt.incr now ()
  let attempts := (counters.get now ()).getD 0
  let counters := if attempts = 1 then counters.expire now () cfg.otpBlockSeconds else counters
  let cache := { cache with otpAttempt := counters }
  if cfg.otpMaxVerifyAttempts ≤ attempts then
    { cache with
      otpBlocked := cache.otpBlocked.setWithTtl now () () cfg.otpBlockSeconds
      otp := cache.otp.del () }
  else cache

def signGuestToken : GuestJwtPayload :=
  ⟨guest.turn, now / 1000, now / 1000 + sessionTtlSeconds cfg⟩

/-- `enqueue` and `admitDirectly`. -/
def GuestCache.enterLobby (cache : GuestCache) : GuestCache :=
  if cfg.lobbyEnabled then { cache with inLobby := true, lobbyStatus := some .waiting }
  else { cache with lobbyStatus := some .admitted }

def verifyOtp (secret otp : String) : GuestData × Except GuestError GuestJwtPayload :=
  match admission cfg guest now secret with
  | .error e => (guest, .error e)
  | .ok _ =>
    if (guest.cache.otpBlocked.get now ()).isSome then (guest, .error otpBlocked)
    else match guest.cache.otp.get now () with
      | none => (guest, .error otpInvalid)
      | some stored =>
        if cfg.sha256 otp ≠ stored.hash then
          ({ guest with cache := guest.cache.failAttempt cfg now }, .error otpInvalid)
        else
          let payload := signGuestToken cfg guest now
          let cache := { guest.cache with
            otp := guest.cache.otp.del ()
            otpAttempt := guest.cache.otpAttempt.del ()
            session := guest.cache.session.setWithTtl now payload.jti () (sessionTtlSeconds cfg)
            inviteCurrentJti :=
              guest.cache.inviteCurrentJti.setWithTtl now () payload.jti (sessionTtlSeconds cfg) }
          ({ guest with
              guestInvite := guest.guestInvite.map fun guestInvite => guestInvite.joined now
              cache := cache.enterLobby cfg }, .ok payload)

/-- The session that the cache knows of, and no other, goes to the revoked ones. -/
def GuestCache.revokeCurrent (cache : GuestCache) : GuestCache :=
  { cache with
    revoked := match cache.inviteCurrentJti.get now () with
      | none => cache.revoked
      | some jti => cache.revoked.setWithTtl now jti () (sessionTtlSeconds cfg) }

def GuestCache.admitGuest (cache : GuestCache) : GuestCache :=
  { cache with inLobby := false, lobbyStatus := some .admitted }

def admitGuest (userId : Nat) : Except GuestError GuestData := do
  let _ ← assertOwnershipOrAdmin cfg guest userId
  return { guest with cache := guest.cache.admitGuest }

def reject (userId : Nat) : Except GuestError GuestData := do
  let _ ← assertOwnershipOrAdmin cfg guest userId
  let cache := { guest.cache with inLobby := false, lobbyStatus := some .rejected }
  return { guest with cache := cache.revokeCurrent cfg now }

def resendInvite (userId : Nat) (secret : String) : Except GuestError GuestData := do
  let meeting ← resendable cfg guest userId
  return { guest with
    cache := guest.cache.revokeCurrent cfg now
    guestInvite := some (issueInvite cfg now secret meeting.endTime userId) }

def revokeAccess (userId : Nat) : Except GuestError GuestData := do
  let _ ← assertOwnershipOrAdmin cfg guest userId
  let cache := { guest.cache with
    inviteInvalidAfter := guest.cache.inviteInvalidAfter.setWithTtl now () now (24 * 3600) }
  return { guest with
    cache := cache.revokeCurrent cfg now
    guestInvite := guest.guestInvite.map fun guestInvite => guestInvite.markRevoked now }

end Calls

section Content
variable (cfg : GuestAccessConfig) (s : GuestLedger) (now : Nat)

def verifyGuestToken (payload : GuestJwtPayload) : Except GuestError Unit :=
  require (payload ∈ s.issued ∧ now / 1000 < payload.exp) invalidSession

def sessionGuard (payload : GuestJwtPayload) : Except GuestError Unit := do
  verifyGuestToken s now payload
  require (s.guest.cache.revoked.get now payload.jti = none) invalidSession
  require (∀ invalidAfter ∈ s.guest.cache.inviteInvalidAfter.get now (),
    ¬ payload.iat * 1000 < invalidAfter) invalidSession

def meetingScopeGuard : Except GuestError Meeting := do
  let meeting ← expect (s.guest.meeting.filter fun meeting => meeting.deletedAt = none) scopeMismatch
  require (meeting.status ≠ .cancelled) scopeMeetingCancelled
  require (¬ meeting.endTime + cfg.joinWindowAfterMinutes * 60000 < now) scopeMeetingCancelled
  return meeting

def getStatusWithAutoAdmit (cache : GuestCache) (startTime : Int) :
    GuestCache × Option GuestLobbyStatus :=
  if cache.lobbyStatus = some .waiting ∧ startTime ≤ now then (cache.admitGuest, some .admitted)
  else (cache, cache.lobbyStatus)

def assertAdmitted (status : Option GuestLobbyStatus) : Except GuestError Unit := do
  require (status ≠ some .waiting) lobbyPending
  require (status = some .admitted) invalidSession

def getGuestMeetingView (payload : GuestJwtPayload) : GuestData × Except GuestError Unit :=
  match sessionGuard s now payload with
  | .error e => (s.guest, .error e)
  | .ok _ =>
    match meetingScopeGuard cfg s now with
    | .error e => (s.guest, .error e)
    | .ok meeting =>
      let (cache, lobbyStatus) := getStatusWithAutoAdmit now s.guest.cache meeting.startTime
      ({ s.guest with cache := cache }, assertAdmitted lobbyStatus)

end Content

section Steps
variable (cfg : GuestAccessConfig)

def HostVerdict.verify : HostVerdict → HostVerdict
  | .welcome => .welcome
  | .rejected | .verifiedSince => .verifiedSince

def GuestLedger.tick (s : GuestLedger) (now : Nat) (guest : GuestData) : GuestLedger :=
  { s with guest := guest.tick now }

def GuestLedger.endSessions (s : GuestLedger) : GuestLedger := { s with cut := s.issued }

def GuestLedger.after (s : GuestLedger) (now : Nat) : GuestAction → GuestLedger
  | .requestOtp secret otp => s.tick now (requestOtp cfg s.guest now secret otp).1
  | .verifyOtp secret otp =>
    let s' := s.tick now (verifyOtp cfg s.guest now secret otp).1
    match (verifyOtp cfg s.guest now secret otp).2 with
    | .ok payload => { s' with issued := payload :: s.issued, verdict := s.verdict.verify }
    | .error _ => s'
  | .admitGuest userId =>
    match admitGuest cfg s.guest userId with
    | .ok guest => { s.tick now guest with verdict := .welcome }
    | .error _ => s.tick now s.guest
  | .reject userId =>
    match reject cfg s.guest now userId with
    | .ok guest => { (s.tick now guest).endSessions with verdict := .rejected }
    | .error _ => s.tick now s.guest
  | .resendInvite userId secret =>
    match resendInvite cfg s.guest now userId secret with
    | .ok guest => { (s.tick now guest).endSessions with verdict := .welcome }
    | .error _ => s.tick now s.guest
  | .revokeAccess userId =>
    match revokeAccess cfg s.guest now userId with
    | .ok guest => (s.tick now guest).endSessions
    | .error _ => s.tick now s.guest
  | .getGuestMeetingView payload => s.tick now (getGuestMeetingView cfg s now payload).1

def GuestStep (s : GuestLedger) (l : GuestTurn) (t : GuestLedger) : Prop :=
  s.guest.clock ≤ l.now ∧ t = s.after cfg l.now l.action

def GuestLedger.start (guest : GuestData) : GuestLedger :=
  ⟨{ guest with cache := .empty }, [], [], .welcome⟩

end Steps
end GuestAccess
