import MeetingPlatform.Lib.CallPool
import MeetingPlatform.Guest.Invites

/- The calls for one guest, cut into their accesses of the guest's row and of the cache, so that
   any number of them can run at the same time. -/
namespace GuestAccess
open MeetingBooking ExpiringStore Guards CallPools

inductive OtpLock where
  | unlocked
  | failing
  | blockedUntil (instant : Nat)
  deriving DecidableEq, Repr

def OtpLock.Shut (now : Nat) : OtpLock → Prop
  | .unlocked => False
  | .failing => True
  | .blockedUntil instant => now < instant

instance (lock : OtpLock) (now : Nat) : Decidable (lock.Shut now) :=
  match lock with
  | .unlocked => inferInstanceAs (Decidable False)
  | .failing => inferInstanceAs (Decidable True)
  | .blockedUntil instant => inferInstanceAs (Decidable (now < instant))

/-- What has become of the codes: the wrong guesses compared with each, the right ones, those that came
    while the lock was shut, the calls between a comparison and their last write to the keys of the
    code, and those between storing a code and resetting the counter. -/
structure CodeLog where
  wrong : List Nat
  right : List Nat
  breaches : Nat
  verifying : List Nat
  renewing : List Nat
  lock : OtpLock

/-- `promised` once a revocation that found the invitation has returned, until the next of the
    `resent` ones is written; a call that began under the promise should not succeed under it. -/
structure Promise where
  resent : Nat
  promised : Bool
  lateSuccesses : Nat
  deriving DecidableEq, Repr

structure GuestState where
  guest : GuestData
  log : CodeLog
  promise : Promise

inductive GuestRequest where
  | requestOtp (secret otp : String)
  | verifyOtp (secret otp : String)
  | revokeAccess (userId : Nat)
  | revokeAllForMeeting
  | resendInvite (userId : Nat) (secret : String)
  | changeMeeting (meeting : Option Meeting)

inductive RequestStage where
  | started (secret otp : String)
  | resolved (otp : String)
  | unblocked (otp : String)
  | counted (otp : String) (sendCount : Nat)
  | generated (otp : String)
  | stored (code : Nat)

/-- `turn` is that of the comparison, with which the writes to the keys of the code begin. -/
inductive VerifyStage where
  | started (secret otp : String)
  | resolved (otp : String)
  | unblocked (otp : String)
  | failed (turn code : Nat)
  | counted (turn attempts : Nat)
  | blocking (turn : Nat)
  | blocked (turn : Nat)
  | passed (turn : Nat)
  | otpDeleted (turn : Nat)

inductive JoinStage where
  | attemptsReset
  | read (updated : GuestInviteMetadata)
  | joined
  | sessionSet (jti : Nat)
  | currentJtiSet
  | inLobby
  | verified

/-- `found` is the number of the invitation that a revocation has found. -/
inductive RevokeStage where
  | started (userId : Nat)
  | startedForAll
  | revocable
  | invalidated
  | currentJtiRead (jti : Nat)
  | sessionRevoked
  | read (updated : GuestInviteMetadata)
  | returning (found : Option Nat)

inductive ResendStage where
  | started (userId : Nat) (secret : String)
  | resendable (userId : Nat) (secret : String) (meetingEndTime : Int)
  | currentJtiRead (userId : Nat) (secret : String) (meetingEndTime : Int) (jti : Nat)
  | issuing (userId : Nat) (secret : String) (meetingEndTime : Int)

/-- `began` is the number of the invitation whose promise a `verifyOtp` began under. -/
inductive GuestCall where
  | request (stage : RequestStage)
  | verify (began : Option Nat) (stage : VerifyStage)
  | join (began : Option Nat) (stage : JoinStage)
  | revoke (stage : RevokeStage)
  | resend (stage : ResendStage)
  | changeMeeting (meeting : Option Meeting)

section Accesses
variable (cfg : GuestAccessConfig)

def GuestData.tick (guest : GuestData) (now : Nat) : GuestData :=
  { guest with clock := now, turn := guest.turn + 1 }

def GuestState.put (s : GuestState) (now : Nat) (guest : GuestData) : GuestState :=
  { s with guest := guest.tick now }

def GuestState.putCache (s : GuestState) (now : Nat) (cache : GuestCache) : GuestState :=
  s.put now { s.guest with cache := cache }

def afterSend (otp : String) (sendCount : Nat) : Option RequestStage :=
  if cfg.otpMaxResends < sendCount then none else some (.generated otp)

def GuestState.request (s : GuestState) (now : Nat) : RequestStage → GuestState × Option RequestStage
  | .started secret otp => (s.put now s.guest,
      match admission cfg s.guest now secret with
      | .ok _ => some (.resolved otp)
      | .error _ => none)
  | .resolved otp => (s.put now s.guest,
      if (s.guest.cache.otpBlocked.get now ()).isSome then none else some (.unblocked otp))
  | .unblocked otp =>
    let sends := s.guest.cache.otpSend.incr now ()
    let sendCount := (sends.get now ()).getD 0
    (s.putCache now { s.guest.cache with otpSend := sends },
      if sendCount = 1 then some (.counted otp sendCount) else afterSend cfg otp sendCount)
  | .counted otp sendCount =>
    let sends := s.guest.cache.otpSend.expire now () cfg.otpResendWindowSeconds
    (s.putCache now { s.guest.cache with otpSend := sends }, afterSend cfg otp sendCount)
  | .generated otp =>
    let stored : StoredOtp := ⟨cfg.sha256 otp, s.guest.turn⟩
    let cache := { s.guest.cache with
      otp := s.guest.cache.otp.setWithTtl now () stored cfg.otpTtlSeconds }
    ({ s.putCache now cache with
        log := { s.log with renewing := s.guest.turn :: s.log.renewing } },
      some (.stored s.guest.turn))
  | .stored code =>
    ({ s.putCache now { s.guest.cache with otpAttempt := s.guest.cache.otpAttempt.del () } with
        log := { s.log with renewing := s.log.renewing.filter fun other => other ≠ code } }, none)

def CodeLog.leave (log : CodeLog) (turn : Nat) : CodeLog :=
  { log with verifying := log.verifying.filter fun other => other ≠ turn }

def GuestState.afterAttempt (s : GuestState) (turn attempts : Nat) :
    GuestState × Option VerifyStage :=
  if cfg.otpMaxVerifyAttempts ≤ attempts then (s, some (.blocking turn))
  else ({ s with log := s.log.leave turn }, none)

def GuestState.compare (s : GuestState) (now : Nat) (otp : String) (stored : StoredOtp) :
    GuestState × Option VerifyStage :=
  let turn := s.guest.turn
  let guest := s.guest.tick now
  if cfg.sha256 otp ≠ stored.hash then
    let wrong := stored.code :: s.log.wrong
    let lock := if cfg.otpMaxVerifyAttempts ≤ wrong.count stored.code then .failing else s.log.lock
    let log := { s.log with wrong := wrong, lock := lock, verifying := turn :: s.log.verifying }
    (⟨guest, log, s.promise⟩, some (.failed turn stored.code))
  else
    let breaches := if s.log.lock.Shut now then s.log.breaches + 1 else s.log.breaches
    let log := { s.log with
      right := stored.code :: s.log.right, breaches := breaches
      verifying := turn :: s.log.verifying }
    (⟨guest, log, s.promise⟩, some (.passed turn))

def GuestState.verify (s : GuestState) (now : Nat) : VerifyStage → GuestState × Option VerifyStage
  | .started secret otp => (s.put now s.guest,
      match admission cfg s.guest now secret with
      | .ok _ => some (.resolved otp)
      | .error _ => none)
  | .resolved otp => (s.put now s.guest,
      if (s.guest.cache.otpBlocked.get now ()).isSome then none else some (.unblocked otp))
  | .unblocked otp =>
    match s.guest.cache.otp.get now () with
    | none => (s.put now s.guest, none)
    | some stored => s.compare cfg now otp stored
  | .failed turn _ =>
    let counters := s.guest.cache.otpAttempt.incr now ()
    let attempts := (counters.get now ()).getD 0
    let s := s.putCache now { s.guest.cache with otpAttempt := counters }
    if attempts = 1 then (s, some (.counted turn attempts)) else s.afterAttempt cfg turn attempts
  | .counted turn attempts =>
    let counters := s.guest.cache.otpAttempt.expire now () cfg.otpBlockSeconds
    (s.putCache now { s.guest.cache with otpAttempt := counters }).afterAttempt cfg turn attempts
  | .blocking turn =>
    let blocks := s.guest.cache.otpBlocked.setWithTtl now () () cfg.otpBlockSeconds
    ({ s.putCache now { s.guest.cache with otpBlocked := blocks } with
        log := { s.log with lock := .blockedUntil (now + cfg.otpBlockSeconds * 1000) } },
      some (.blocked turn))
  | .blocked turn =>
    ({ s.putCache now { s.guest.cache with otp := s.guest.cache.otp.del () } with
        log := s.log.leave turn }, none)
  | .passed turn =>
    (s.putCache now { s.guest.cache with otp := s.guest.cache.otp.del () }, some (.otpDeleted turn))
  | .otpDeleted turn =>
    ({ s.putCache now { s.guest.cache with otpAttempt := s.guest.cache.otpAttempt.del () } with
        log := s.log.leave turn }, none)

def sessionTtlSeconds : Nat := cfg.sessionMaxHours * 3600

def GuestState.join (s : GuestState) (now : Nat) (began : Option Nat) :
    JoinStage → GuestState × Option JoinStage
  | .attemptsReset => (s.put now s.guest,
      match s.guest.guestInvite with
      | none => some .joined
      | some guestInvite => some (.read (guestInvite.joined now)))
  | .read updated => (s.put now { s.guest with guestInvite := some updated }, some .joined)
  | .joined =>
    let jti := s.guest.turn
    let sessions := s.guest.cache.session.setWithTtl now jti () (sessionTtlSeconds cfg)
    (s.putCache now { s.guest.cache with session := sessions }, some (.sessionSet jti))
  | .sessionSet jti =>
    let current := s.guest.cache.inviteCurrentJti.setWithTtl now () jti (sessionTtlSeconds cfg)
    (s.putCache now { s.guest.cache with inviteCurrentJti := current }, some .currentJtiSet)
  | .currentJtiSet =>
    if cfg.lobbyEnabled then
      (s.putCache now { s.guest.cache with inLobby := true }, some .inLobby)
    else (s.putCache now { s.guest.cache with lobbyStatus := some .admitted }, some .verified)
  | .inLobby =>
    (s.putCache now { s.guest.cache with lobbyStatus := some .waiting }, some .verified)
  | .verified =>
    let late := if began = some s.promise.resent then 1 else 0
    ({ s.put now s.guest with
        promise := { s.promise with lateSuccesses := s.promise.lateSuccesses + late } }, none)

theorem join_lobby (s : GuestState) (now : Nat) (began : Option Nat) :
    ∃ inLobby lobbyStatus next, s.join cfg now began .currentJtiSet =
      (s.putCache now { s.guest.cache with inLobby := inLobby, lobbyStatus := lobbyStatus },
        some next) := by
  by_cases lobby : cfg.lobbyEnabled = true
  · exact ⟨true, s.guest.cache.lobbyStatus, .inLobby, if_pos lobby⟩
  · exact ⟨s.guest.cache.inLobby, some .admitted, .verified, if_neg lobby⟩

/-- The accesses of `revokeAccess`, and of `revokeAllForMeeting` for this guest. -/
def GuestState.revoke (s : GuestState) (now : Nat) : RevokeStage → GuestState × Option RevokeStage
  | .started userId => (s.put now s.guest,
      match assertOwnershipOrAdmin cfg s.guest userId with
      | .ok _ => some .revocable
      | .error _ => none)
  | .startedForAll => (s.put now s.guest,
      match s.guest.guestInvite with
      | none => none
      | some guestInvite =>
        if guestInvite.status = .revoked then some (.returning (some s.promise.resent))
        else some .revocable)
  | .revocable =>
    let marker := s.guest.cache.inviteInvalidAfter.setWithTtl now () now (24 * 3600)
    (s.putCache now { s.guest.cache with inviteInvalidAfter := marker }, some .invalidated)
  | .invalidated => (s.put now s.guest,
      match s.guest.cache.inviteCurrentJti.get now () with
      | none => some .sessionRevoked
      | some jti => some (.currentJtiRead jti))
  | .currentJtiRead jti =>
    let sessions := s.guest.cache.revoked.setWithTtl now jti () (sessionTtlSeconds cfg)
    (s.putCache now { s.guest.cache with revoked := sessions }, some .sessionRevoked)
  | .sessionRevoked => (s.put now s.guest,
      match s.guest.guestInvite with
      | none => some (.returning none)
      | some guestInvite => some (.read (guestInvite.markRevoked now)))
  | .read updated => (s.put now { s.guest with guestInvite := some updated },
      some (.returning (some s.promise.resent)))
  | .returning found =>
    let promised := s.promise.promised || decide (found = some s.promise.resent)
    ({ s.put now s.guest with promise := { s.promise with promised := promised } }, none)

def GuestState.resend (s : GuestState) (now : Nat) : ResendStage → GuestState × Option ResendStage
  | .started userId secret => (s.put now s.guest,
      match resendable cfg s.guest userId with
      | .ok meeting => some (.resendable userId secret meeting.endTime)
      | .error _ => none)
  | .resendable userId secret meetingEndTime => (s.put now s.guest,
      match s.guest.cache.inviteCurrentJti.get now () with
      | none => some (.issuing userId secret meetingEndTime)
      | some jti => some (.currentJtiRead userId secret meetingEndTime jti))
  | .currentJtiRead userId secret meetingEndTime jti =>
    let sessions := s.guest.cache.revoked.setWithTtl now jti () (sessionTtlSeconds cfg)
    (s.putCache now { s.guest.cache with revoked := sessions },
      some (.issuing userId secret meetingEndTime))
  | .issuing userId secret meetingEndTime =>
    let issued := issueInvite cfg now secret meetingEndTime userId
    ({ s.put now { s.guest with guestInvite := some issued } with
        promise := { s.promise with resent := s.promise.resent + 1, promised := false } }, none)

def afterVerify (began : Option Nat) (stage : VerifyStage) : Option VerifyStage → Option GuestCall
  | some next => some (.verify began next)
  | none =>
    match stage with
    | .otpDeleted _ => some (.join began .attemptsReset)
    | _ => none

theorem after_verify {began : Option Nat} {stage : VerifyStage} {rest : Option VerifyStage}
    {c : GuestCall} (same : afterVerify began stage rest = some c) :
    (∃ next, rest = some next ∧ c = .verify began next) ∨ c = .join began .attemptsReset := by
  cases rest with
  | some next => exact Or.inl ⟨next, rfl, (Option.some.inj same).symm⟩
  | none =>
    cases stage with
    | otpDeleted turn => exact Or.inr (Option.some.inj same).symm
    | _ => cases same

def GuestState.access (s : GuestState) (now : Nat) : GuestCall → GuestState × Option GuestCall
  | .request stage => ((s.request cfg now stage).1, (s.request cfg now stage).2.map .request)
  | .verify began stage =>
    ((s.verify cfg now stage).1, afterVerify began stage (s.verify cfg now stage).2)
  | .join began stage =>
    ((s.join cfg now began stage).1, (s.join cfg now began stage).2.map (.join began))
  | .revoke stage => ((s.revoke cfg now stage).1, (s.revoke cfg now stage).2.map .revoke)
  | .resend stage => ((s.resend cfg now stage).1, (s.resend cfg now stage).2.map .resend)
  | .changeMeeting meeting => (s.put now { s.guest with meeting := meeting }, none)

def guestService : Service GuestState GuestCall GuestRequest where
  clock s := s.guest.clock
  admits _ _ := True
  enter s
    | .requestOtp secret otp => .request (.started secret otp)
    | .verifyOtp secret otp =>
      .verify (if s.promise.promised then some s.promise.resent else none) (.started secret otp)
    | .revokeAccess userId => .revoke (.started userId)
    | .revokeAllForMeeting => .revoke .startedForAll
    | .resendInvite userId secret => .resend (.started userId secret)
    | .changeMeeting meeting => .changeMeeting meeting
  act now c s := s.access cfg now c

instance (s : GuestState) (r : GuestRequest) : Decidable ((guestService cfg).admits s r) :=
  inferInstanceAs (Decidable True)

end Accesses

section Starts

def GuestCache.empty : GuestCache :=
  ⟨.empty, .empty, .empty, .empty, .empty, .empty, .empty, .empty, false, none⟩

def GuestState.start (guest : GuestData) : GuestState :=
  ⟨{ guest with cache := .empty }, ⟨[], [], 0, [], [], .unlocked⟩, ⟨0, false, 0⟩⟩

def digests (text : String) : String :=
  if text = "123456" then "8d969eef6ecad3c29a3a629280e686cf0c3f5d5a86aff3ca12020c923adc6c92"
  else if text = "000000" then "91b4d142823f7d20c5f08df69122de43f35f057a988d9619f6d3138485c9a203"
  else text

def shippedConfig : GuestAccessConfig :=
  ⟨600, 3, 300, 5, 900, 30, 15, 24, 4, true, fun _ => false, digests⟩

def afternoon : Meeting where
  organizerId := 1
  hostId := some 1
  roomId := none
  startTime := 3600000
  endTime := 7200000
  status := .scheduled

def invited : GuestData where
  clock := 0
  turn := 0
  meeting := some afternoon
  email := some "guest@example.com"
  guestInvite := some (issueInvite shippedConfig 0 "123456" 7200000 1)
  cache := .empty

def callTurns (i now accesses : Nat) (r : GuestRequest) : List (Turn GuestRequest) :=
  .enter i r :: List.replicate accesses (.act i now)

end Starts
end GuestAccess
