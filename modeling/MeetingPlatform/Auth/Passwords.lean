import MeetingPlatform.Auth.Tokens

/- The two ways to a new password: with the current one, and with a code sent by email. -/
namespace Auth
open KeyedTable ExpiringStore

def tokenInvalidationTtlSeconds : Nat := 7 * 24 * 60 * 60

def changeLimitTtlSeconds : Nat := 900
def maxFailedAttempts : Nat := 5
def otpLimitTtlSeconds : Nat := 300
def otpBlockTtlSeconds : Nat := 3600
def maxOtpRequests : Nat := 3
def otpTtlMs : Nat := 600000
def maxOtpAttempts : Nat := 5

section Errors

def changeRateLimited : AuthError :=
  coded .tooManyRequests "CHANGE_PASSWORD_RATE_LIMITED"
    "Bạn đã nhập sai mật khẩu quá nhiều lần. Vui lòng thử lại sau 15 phút."

def confirmMismatch : AuthError :=
  coded .badRequest "CONFIRM_PASSWORD_MISMATCH" "Mật khẩu xác nhận không trùng khớp"

def accountGone : AuthError :=
  coded .forbidden "ACCOUNT_RESTRICTED" "Tài khoản không tồn tại hoặc đã bị xóa."

def accountRestricted : AuthError :=
  coded .forbidden "ACCOUNT_RESTRICTED"
    "Tài khoản của bạn đang bị khóa hoặc không hoạt động. Vui lòng liên hệ quản trị viên."

def currentPasswordIncorrect : AuthError :=
  coded .badRequest "CURRENT_PASSWORD_INCORRECT"
    "Mật khẩu hiện tại không chính xác. Vui lòng kiểm tra lại."

def sameAsCurrent : AuthError :=
  coded .unprocessableEntity "SAME_AS_CURRENT_PASSWORD"
    "Mật khẩu mới không được trùng với mật khẩu hiện tại."

def tooManyOtpRequests : AuthError :=
  coded .tooManyRequests "AUTH_TOO_MANY_ATTEMPTS" "Yêu cầu quá nhiều lần. Vui lòng thử lại sau."

def resetRestricted : AuthError :=
  coded .badRequest "AUTH_ACCOUNT_RESTRICTED"
    "Email không tồn tại hoặc tài khoản đã bị khóa. Vui lòng kiểm tra lại."

def otpInvalidOrExpired : AuthError :=
  coded .badRequest "AUTH_OTP_INVALID_OR_EXPIRED"
    "Mã xác thực không hợp lệ hoặc đã hết hạn. Vui lòng thử lại."

end Errors

section Marker

/-- `invalidateUserTokens`, which both ways end with. The turn is noted for later. -/
def AuthState.invalidateUserTokens (s : AuthState) (now userId : Nat) : AuthState :=
  { s with
    invalidAfter := s.invalidAfter.setWithTtl now userId now tokenInvalidationTtlSeconds
    changed := Function.update s.changed userId s.turn }

end Marker

section Change

structure ChangePasswordDto where
  currentPassword : String
  newPassword : String
  confirmPassword : String

def incrementFailedCounter (s : AuthState) (now userId : Nat) : AuthState :=
  { s with changeFailed :=
      (s.changeFailed.incr now userId).expire now userId changeLimitTtlSeconds }

def countWrongPassword (s : AuthState) (now userId : Nat) : AuthState :=
  let s := incrementFailedCounter s now userId
  if maxFailedAttempts ≤ (s.changeFailed.get now userId).getD 0 then
    { s with changeBlocked := s.changeBlocked.setWithTtl now userId () changeLimitTtlSeconds }
  else s

def changePassword (s : AuthState) (now userId : Nat) (dto : ChangePasswordDto) :
    AuthState × Except AuthError Unit :=
  if (s.changeBlocked.get now userId).isSome then (s, .error changeRateLimited)
  else if dto.newPassword ≠ dto.confirmPassword then (s, .error confirmMismatch)
  else match s.users.get? userId with
    | none => (s, .error accountGone)
    | some user =>
      if user.deletedAt ≠ none then (s, .error accountGone)
      else if user.accountStatus ≠ .active then (s, .error accountRestricted)
      else if user.password ≠ dto.currentPassword then
        (countWrongPassword s now userId, .error currentPasswordIncorrect)
      else if user.password = dto.newPassword then (s, .error sameAsCurrent)
      else
        let mine : Nat × User → Bool := fun r => r.1 = userId ∧ r.2.deletedAt = none
        let users := s.users.updateWhere mine fun u => { u with password := dto.newPassword }
        (AuthState.invalidateUserTokens { s with users := users } now userId, .ok ())

end Change

section Reset
variable (sha256 : String → String)

/-- `findByEmailForReset`, and the checks that both calls make of what it finds. -/
def resetUser (users : Table User) (email : String) : Except AuthError Nat :=
  match users.findOne fun r => r.2.email = email with
  | none => .error resetRestricted
  | some (userId, user) =>
    if user.deletedAt ≠ none ∨ user.accountStatus ≠ .active ∨ user.employmentStatus ≠ .active then
      .error resetRestricted
    else .ok userId

def setOtpSession (sessions : Cache String OtpSession) (now : Nat) (email : String)
    (session : OtpSession) (ttlMs : Nat) : Cache String OtpSession :=
  sessions.setWithTtl now email session ((ttlMs + 999) / 1000)

def incrementLimitCounter (s : AuthState) (now : Nat) (email : String) : AuthState :=
  { s with otpLimits := (s.otpLimits.incr now email).expire now email otpLimitTtlSeconds }

/-- `otp` is the code that the generator yields. -/
def requestOtp (s : AuthState) (now : Nat) (email otp : String) : AuthState × Except AuthError Unit :=
  if (s.otpBlocked.get now email).isSome then (s, .error tooManyOtpRequests)
  else
    let s := incrementLimitCounter s now email
    if maxOtpRequests < (s.otpLimits.get now email).getD 0 then
      ({ s with otpBlocked := s.otpBlocked.setWithTtl now email () otpBlockTtlSeconds },
        .error tooManyOtpRequests)
    else match resetUser s.users email with
      | .error refused => (s, .error refused)
      | .ok _ =>
        let session : OtpSession := ⟨sha256 otp, 0, now, s.turn⟩
        ({ s with otpSessions := setOtpSession s.otpSessions now email session otpTtlMs }, .ok ())

structure ConfirmResetDto where
  email : String
  otp : String
  newPassword : String

inductive OtpCheck where
  | missing
  | wrong (next : Option OtpSession)
  | right
  deriving DecidableEq, Repr

/-- What becomes of a code: a wrong guess is counted in the session, the last one ends it. -/
def checkOtp (session : Option OtpSession) (otp : String) : OtpCheck :=
  match session with
  | none => .missing
  | some session =>
    if sha256 otp ≠ session.otpHash then
      let counted := { session with attempts := session.attempts + 1 }
      if maxOtpAttempts ≤ counted.attempts then .wrong none else .wrong (some counted)
    else .right

def remainingTtl (session : OtpSession) (now : Nat) : Nat := otpTtlMs - (now - session.createdAt)

def writeWrongGuess (sessions : Cache String OtpSession) (now : Nat) (email : String) :
    Option OtpSession → Cache String OtpSession
  | none => sessions.del email
  | some session =>
    let left := remainingTtl session now
    if 0 < left then setOtpSession sessions now email session left else sessions

def confirmReset (s : AuthState) (now : Nat) (dto : ConfirmResetDto) :
    AuthState × Except AuthError Unit :=
  match resetUser s.users dto.email with
  | .error refused => (s, .error refused)
  | .ok userId =>
    match checkOtp sha256 (s.otpSessions.get now dto.email) dto.otp with
    | .missing => (s, .error otpInvalidOrExpired)
    | .wrong next =>
      ({ s with otpSessions := writeWrongGuess s.otpSessions now dto.email next },
        .error otpInvalidOrExpired)
    | .right =>
      let s := { s with
        users := s.users.update userId fun u => { u with password := dto.newPassword }
        otpSessions := s.otpSessions.del dto.email
        otpLimits := s.otpLimits.del dto.email
        otpBlocked := s.otpBlocked.del dto.email }
      (s.invalidateUserTokens now userId, .ok ())

end Reset
end Auth
