import MeetingPlatform.Booking.Store
import MeetingPlatform.Lib.ExpiringStore

/- Invitations of guests from outside the company. An invitation is one JSON value in the row of
   its guest and is always written as a whole; codes, counters and sessions are in the cache. -/
namespace GuestAccess
open MeetingBooking ExpiringStore Guards

inductive GuestException where
  | badRequest | conflict | gone | tooManyRequests | notFound | forbidden | unauthorized
  deriving DecidableEq, Repr

structure GuestError where
  exception : GuestException
  code : String
  message : String
  deriving DecidableEq, Repr

inductive GuestInviteStatus where
  | active | used | revoked
  deriving DecidableEq, Repr

inductive GuestLobbyStatus where
  | waiting | admitted | rejected
  deriving DecidableEq, Repr

structure GuestInviteMetadata where
  tokenHash : String
  issuedAt : Nat
  issuedBy : Nat
  expiresAt : Int
  status : GuestInviteStatus
  invalidAfter : Option Nat
  firstJoinedAt : Option Nat
  lastJoinedAt : Option Nat
  deriving DecidableEq, Repr

/-- The settings, with the roles and the digest that the services ask for. -/
structure GuestAccessConfig where
  otpTtlSeconds : Nat
  otpMaxResends : Nat
  otpResendWindowSeconds : Nat
  otpMaxVerifyAttempts : Nat
  otpBlockSeconds : Nat
  joinWindowBeforeMinutes : Nat
  joinWindowAfterMinutes : Nat
  inviteLinkTtlHours : Nat
  sessionMaxHours : Nat
  lobbyEnabled : Bool
  isAdmin : Nat → Bool
  sha256 : String → String

/-- `code` tells the codes apart that were stored. -/
structure StoredOtp where
  hash : String
  code : Nat
  deriving DecidableEq, Repr

structure GuestCache where
  otp : Cache Unit StoredOtp
  otpAttempt : Cache Unit Nat
  otpSend : Cache Unit Nat
  otpBlocked : Cache Unit Unit
  session : Cache Nat Unit
  revoked : Cache Nat Unit
  inviteInvalidAfter : Cache Unit Nat
  inviteCurrentJti : Cache Unit Nat
  inLobby : Bool
  lobbyStatus : Option GuestLobbyStatus

/-- One guest with the meeting. `turn` counts the accesses. -/
structure GuestData where
  clock : Nat
  turn : Nat
  meeting : Option Meeting
  email : Option String
  guestInvite : Option GuestInviteMetadata
  cache : GuestCache

section Errors

def invalidInvite : GuestError := ⟨.badRequest, "GUEST_INVITE_INVALID", "Link moi khong hop le."⟩

def expiredInvite : GuestError := ⟨.gone, "GUEST_INVITE_EXPIRED", "Link moi da het han."⟩

def revokedInvite : GuestError := ⟨.gone, "GUEST_INVITE_REVOKED", "Link moi da bi thu hoi."⟩

def meetingCancelled : GuestError :=
  ⟨.conflict, "GUEST_MEETING_CANCELLED", "Cuoc hop da bi huy."⟩

def joinWindowClosed : GuestError :=
  ⟨.conflict, "GUEST_JOIN_WINDOW_CLOSED", "Ngoai thoi gian cho phep tham gia cuoc hop."⟩

def meetingNotFound : GuestError :=
  ⟨.notFound, "MEETING_NOT_FOUND", "Khong tim thay cuoc hop."⟩

def notMeetingHost : GuestError :=
  ⟨.forbidden, "NOT_MEETING_HOST", "Ban khong phai host cua cuoc hop nay."⟩

def emailMissing : GuestError :=
  ⟨.notFound, "GUEST_EMAIL_MISSING", "Khach chua co email, khong the gui loi moi."⟩

end Errors

section Invites
variable (cfg : GuestAccessConfig)

def issueInvite (now : Nat) (secret : String) (meetingEndTime : Int) (issuedBy : Nat) :
    GuestInviteMetadata where
  tokenHash := cfg.sha256 secret
  issuedAt := now
  issuedBy := issuedBy
  expiresAt := meetingEndTime + cfg.inviteLinkTtlHours * 3600 * 1000
  status := .active
  invalidAfter := none
  firstJoinedAt := none
  lastJoinedAt := none

/-- One read of the guest's row with its meeting; `secret` is the part of the token after the
    guest's id. -/
def resolveInvite (guest : GuestData) (now : Nat) (secret : String) :
    Except GuestError (GuestInviteMetadata × Meeting) := do
  let guestInvite ← expect guest.guestInvite invalidInvite
  require (cfg.sha256 secret = guestInvite.tokenHash) invalidInvite
  require (guestInvite.status ≠ .revoked) revokedInvite
  require (∀ invalidAfter ∈ guestInvite.invalidAfter, ¬ invalidAfter < now) revokedInvite
  require (¬ guestInvite.expiresAt < now) expiredInvite
  let meeting ← expect (guest.meeting.filter fun meeting => meeting.deletedAt = none) invalidInvite
  require (meeting.status ≠ .cancelled) meetingCancelled
  return (guestInvite, meeting)

def assertWithinJoinWindow (now : Nat) (meeting : Meeting) : Except GuestError Unit := do
  let lowerBound := meeting.startTime - cfg.joinWindowBeforeMinutes * 60000
  let upperBound := meeting.endTime + cfg.joinWindowAfterMinutes * 60000
  require (¬ (now < lowerBound ∨ upperBound < now)) joinWindowClosed

/-- What `requestOtp` and `verifyOtp` begin with. -/
def admission (guest : GuestData) (now : Nat) (secret : String) : Except GuestError Unit := do
  let (_, meeting) ← resolveInvite cfg guest now secret
  assertWithinJoinWindow cfg now meeting

def assertOwnershipOrAdmin (guest : GuestData) (userId : Nat) : Except GuestError Meeting := do
  let meeting ← expect (guest.meeting.filter fun meeting => meeting.deletedAt = none) meetingNotFound
  require (cfg.isAdmin userId = true ∨ meeting.hostId = some userId) notMeetingHost
  return meeting

/-- What `resendInvite` begins with. -/
def resendable (guest : GuestData) (userId : Nat) : Except GuestError Meeting := do
  let meeting ← assertOwnershipOrAdmin cfg guest userId
  let _ ← expect guest.email emailMissing
  return meeting

/-- `markJoined`, between its read and its write. -/
def GuestInviteMetadata.joined (guestInvite : GuestInviteMetadata) (now : Nat) :
    GuestInviteMetadata :=
  { guestInvite with
    status := if guestInvite.status = .active then .used else guestInvite.status
    firstJoinedAt := some (guestInvite.firstJoinedAt.getD now)
    lastJoinedAt := some now }

def GuestInviteMetadata.markRevoked (guestInvite : GuestInviteMetadata) (now : Nat) :
    GuestInviteMetadata :=
  { guestInvite with status := .revoked, invalidAfter := some now }

theorem admission_not_revoked {cfg : GuestAccessConfig} {guest : GuestData} {now : Nat}
    {secret : String} (admitted : admission cfg guest now secret = .ok ()) :
    ∃ guestInvite, guest.guestInvite = some guestInvite ∧ guestInvite.status ≠ .revoked := by
  obtain ⟨⟨guestInvite, meeting⟩, resolved, -⟩ := bind_eq_ok.mp admitted
  simp only [resolveInvite, bind_eq_ok, expect_eq_ok, require_eq_ok] at resolved
  obtain ⟨found, there, -, -, -, standing, -⟩ := resolved
  exact ⟨found, there, standing⟩

end Invites
end GuestAccess
