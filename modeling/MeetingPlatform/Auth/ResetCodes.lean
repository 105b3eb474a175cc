import MeetingPlatform.Lib.CallPool
import MeetingPlatform.Auth.Sessions

/- Codes for a new password, with the calls of one email running at the same time. The number
   of wrong guesses is part of the stored session: a call reads the session, counts in its own
   copy and writes the copy back. -/
namespace Auth
open KeyedTable ExpiringStore LabelledRuns CallPools

inductive CodeEvent where
  | wrong (code : Nat)
  | accepted (code : Nat)
  | changed (code : Nat)
  deriving DecidableEq, Repr

def CodeEvent.code : CodeEvent → Nat
  | .wrong code => code
  | .accepted code => code
  | .changed code => code

/-- What has happened to the codes, the latest first, and the codes that calls have compared and
    not yet written back or deleted. -/
structure ResetCodes where
  service : AuthState
  history : List CodeEvent
  guessing : List Nat

inductive ResetRequest where
  | requestOtp (otp : String)
  | confirmReset (otp newPassword : String)

inductive ResetCall where
  | requested (otp : String)
  | unblocked (otp : String)
  | incremented (otp : String) (currentAttempts : Nat)
  | counted (otp : String) (currentAttempts : Nat)
  | userFound (otp : String)
  | generated (session : OtpSession)
  | confirming (otp newPassword : String)
  | confirmed (userId : Nat) (otp newPassword : String)
  | recording (session : OtpSession) (ttlMs : Nat)
  | discarding (code : Nat)
  | accepted (userId code : Nat) (newPassword : String)
  | changed (userId code : Nat)
  | deleted (userId : Nat)
  | limitDeleted (userId : Nat)
  | blockDeleted (userId : Nat)

section Steps
variable (sha256 : String → String) (email : String)

/-- The comparison of a guess with the session that is stored now. -/
def ResetCodes.compare (s : ResetCodes) (now userId : Nat) (otp newPassword : String)
    (session : OtpSession) : ResetCodes × Option ResetCall :=
  let service := s.service.tick now
  match checkOtp sha256 (some session) otp with
  | .missing => (⟨service, s.history, s.guessing⟩, none)
  | .wrong none => (⟨service, .wrong session.code :: s.history, session.code :: s.guessing⟩,
      some (.discarding session.code))
  | .wrong (some counted) =>
    if 0 < remainingTtl counted now then
      (⟨service, .wrong session.code :: s.history, session.code :: s.guessing⟩,
        some (.recording counted (remainingTtl counted now)))
    else (⟨service, .wrong session.code :: s.history, s.guessing⟩, none)
  | .right => (⟨service, .accepted session.code :: s.history, session.code :: s.guessing⟩,
      some (.accepted userId session.code newPassword))

def ResetCodes.settle (s : ResetCodes) (now code : Nat) (sessions : Cache String OtpSession) :
    ResetCodes :=
  ⟨{ s.service with otpSessions := sessions }.tick now, s.history,
    s.guessing.filter fun other => other ≠ code⟩

def ResetCodes.onService (s : ResetCodes) (now : Nat) (service : AuthState) : ResetCodes :=
  { s with service := service.tick now }

def ResetCodes.access (s : ResetCodes) (now : Nat) : ResetCall → ResetCodes × Option ResetCall
  | .requested otp => (s.onService now s.service,
      if (s.service.otpBlocked.get now email).isSome then none else some (.unblocked otp))
  | .unblocked otp =>
    let limits := s.service.otpLimits.incr now email
    (s.onService now { s.service with otpLimits := limits },
      some (.incremented otp ((limits.get now email).getD 0)))
  | .incremented otp currentAttempts =>
    let limits := s.service.otpLimits.expire now email otpLimitTtlSeconds
    (s.onService now { s.service with otpLimits := limits }, some (.counted otp currentAttempts))
  | .counted otp currentAttempts =>
    if maxOtpRequests < currentAttempts then
      let blocked := s.service.otpBlocked.setWithTtl now email () otpBlockTtlSeconds
      (s.onService now { s.service with otpBlocked := blocked }, none)
    else (s.onService now s.service,
      match resetUser s.service.users email with
      | .ok _ => some (.userFound otp)
      | .error _ => none)
  | .userFound otp =>
    (s.onService now s.service, some (.generated ⟨sha256 otp, 0, now, s.service.turn⟩))
  | .generated session =>
    let sessions := setOtpSession s.service.otpSessions now email session otpTtlMs
    (s.onService now { s.service with otpSessions := sessions }, none)
  | .confirming otp newPassword => (s.onService now s.service,
      match resetUser s.service.users email with
      | .ok userId => some (.confirmed userId otp newPassword)
      | .error _ => none)
  | .confirmed userId otp newPassword =>
    match s.service.otpSessions.get now email with
    | none => (s.onService now s.service, none)
    | some session => s.compare sha256 now userId otp newPassword session
  | .recording session ttlMs =>
    (s.settle now session.code (setOtpSession s.service.otpSessions now email session ttlMs), none)
  | .discarding code => (s.settle now code (s.service.otpSessions.del email), none)
  | .accepted userId code newPassword =>
    let users := s.service.users.update userId fun u => { u with password := newPassword }
    (⟨{ s.service with users := users }.tick now, .changed code :: s.history, s.guessing⟩,
      some (.changed userId code))
  | .changed userId code =>
    (s.settle now code (s.service.otpSessions.del email), some (.deleted userId))
  | .deleted userId =>
    (s.onService now { s.service with otpLimits := s.service.otpLimits.del email },
      some (.limitDeleted userId))
  | .limitDeleted userId =>
    (s.onService now { s.service with otpBlocked := s.service.otpBlocked.del email },
      some (.blockDeleted userId))
  | .blockDeleted userId => (s.onService now (s.service.invalidateUserTokens now userId), none)

def resetService : Service ResetCodes ResetCall ResetRequest where
  clock s := s.service.clock
  admits _ _ := True
  enter _
    | .requestOtp otp => .requested otp
    | .confirmReset otp newPassword => .confirming otp newPassword
  act now c s := s.access sha256 email now c

instance (s : ResetCodes) (r : ResetRequest) :
    Decidable ((resetService sha256 email).admits s r) := inferInstanceAs (Decidable True)

/-- Five wrong guesses at most, one change of the password, and no success after it. -/
structure CodesSafe (history : List CodeEvent) : Prop where
  guesses : ∀ code, history.count (.wrong code) ≤ maxOtpAttempts
  once : ∀ code, history.count (.changed code) ≤ 1
  never_again : history.Pairwise fun later earlier =>
    ∀ code, earlier = .changed code → later ≠ .accepted code

def CountedInTime (session : OtpSession) (now : Nat) : OtpCheck → Prop
  | .wrong (some _) => now < session.createdAt + otpTtlMs
  | .missing | .wrong none | .right => True

instance (session : OtpSession) (now : Nat) (check : OtpCheck) :
    Decidable (CountedInTime session now check) :=
  match check with
  | .wrong (some _) => inferInstanceAs (Decidable (now < session.createdAt + otpTtlMs))
  | .missing | .wrong none | .right => inferInstanceAs (Decidable True)

def InTime (now : Nat) (otp : String) (session : OtpSession) : Prop :=
  CountedInTime session now (checkOtp sha256 (some session) otp)

/-- A guess is compared only while no other call is still to settle the same code. -/
def GuessesInTurn (s : ResetCodes) (now : Nat) : ResetCall → Prop
  | .confirmed _ otp _ => ∀ session ∈ s.service.otpSessions.get now email,
      session.code ∉ s.guessing ∧ InTime sha256 now otp session
  | _ => True

instance (s : ResetCodes) (now : Nat) (c : ResetCall) :
    Decidable (GuessesInTurn sha256 email s now c) :=
  match c with
  | .confirmed _ _ _ => inferInstanceAs (Decidable (∀ session ∈ _, _ ∧ CountedInTime _ _ _))
  | .requested _ | .unblocked _ | .incremented _ _ | .counted _ _ | .userFound _ | .generated _
  | .confirming _ _ | .recording _ _ | .discarding _ | .accepted _ _ _ | .changed _ _ | .deleted _
  | .limitDeleted _ | .blockDeleted _ => inferInstanceAs (Decidable True)

end Steps

section Events
variable {history : List CodeEvent} {session : OtpSession} {code : Nat} {event : CodeEvent}

/-- The attempts in a session are the wrong guesses so far, and its code is unused. -/
structure Recorded (history : List CodeEvent) (session : OtpSession) : Prop where
  counted : history.count (.wrong session.code) = session.attempts
  left : session.attempts < maxOtpAttempts
  unused : .changed session.code ∉ history

theorem Recorded.cons (recorded : Recorded history session) (other : event.code ≠ session.code) :
    Recorded (event :: history) session := by
  have apart : ∀ e : CodeEvent, e.code = session.code → event ≠ e := by
    intro e here same
    exact other (same ▸ here)
  constructor
  · rw [List.count_cons_of_ne (apart _ rfl)]
    exact recorded.counted
  · exact recorded.left
  · intro there
    rcases List.mem_cons.mp there with here | old
    · exact apart _ rfl here.symm
    · exact recorded.unused old

theorem CodesSafe.guessed (safe : CodesSafe history)
    (few : history.count (.wrong code) < maxOtpAttempts) : CodesSafe (.wrong code :: history) := by
  constructor
  · intro other
    by_cases same : other = code
    · subst same
      rw [List.count_cons_self]
      exact few
    · rw [List.count_cons_of_ne (by simpa using Ne.symm same)]
      exact safe.guesses other
  · intro other
    rw [List.count_cons_of_ne (by simp)]
    exact safe.once other
  · refine List.pairwise_cons.mpr ⟨?_, safe.never_again⟩
    intro _ _ _ _
    simp

theorem CodesSafe.accepted (safe : CodesSafe history) (unused : .changed code ∉ history) :
    CodesSafe (.accepted code :: history) := by
  constructor
  · intro other
    rw [List.count_cons_of_ne (by simp)]
    exact safe.guesses other
  · intro other
    rw [List.count_cons_of_ne (by simp)]
    exact safe.once other
  · refine List.pairwise_cons.mpr ⟨?_, safe.never_again⟩
    intro earlier there other same here
    cases here
    exact unused (same ▸ there)

theorem CodesSafe.changed (safe : CodesSafe history) (unused : .changed code ∉ history) :
    CodesSafe (.changed code :: history) := by
  constructor
  · intro other
    rw [List.count_cons_of_ne (by simp)]
    exact safe.guesses other
  · intro other
    by_cases same : other = code
    · subst same
      rw [List.count_cons_self, List.count_eq_zero_of_not_mem unused]
    · rw [List.count_cons_of_ne (by simpa using Ne.symm same)]
      exact safe.once other
  · refine List.pairwise_cons.mpr ⟨?_, safe.never_again⟩
    intro _ _ _ _
    simp

end Events

section Invariant
variable (email : String)

structure CodesKept (s : ResetCodes) : Prop where
  safe : CodesSafe s.history
  past : ∀ event ∈ s.history, event.code < s.service.turn
  stored : ∀ e, s.service.otpSessions.entries email = some e →
    e.value.code < s.service.turn ∧ (e.value.code ∈ s.guessing ∨ Recorded s.history e.value)

def ResetCall.code? : ResetCall → Option Nat
  | .generated session => some session.code
  | .recording session _ => some session.code
  | .discarding code => some code
  | .accepted _ code _ => some code
  | .changed _ code => some code
  | _ => none

def ApartCodes (c d : ResetCall) : Prop := ∀ code, c.code? = some code → d.code? ≠ some code

/-- A code is in one place: with the call that generated it, in the store, or with the call
    that has compared it. -/
def CodeFits (s : ResetCodes) (c : ResetCall) : Prop :=
  (∀ code, c.code? = some code → code < s.service.turn) ∧ match c with
    | .generated session => Recorded s.history session ∧
        ∀ e, s.service.otpSessions.entries email = some e → e.value.code ≠ session.code
    | .recording session _ => session.code ∈ s.guessing ∧ Recorded s.history session
    | .discarding code => code ∈ s.guessing
    | .accepted _ code _ => code ∈ s.guessing ∧ .changed code ∉ s.history
    | .changed _ code => code ∈ s.guessing
    | _ => True

end Invariant

section Frames
variable {email : String} {s t : ResetCodes} {c : ResetCall}

/-- What the access of another call may do to a code that is not its own. -/
structure Spares (email : String) (s t : ResetCodes) (code : Nat) : Prop where
  turn : s.service.turn ≤ t.service.turn
  guessing : code ∈ s.guessing → code ∈ t.guessing
  wrong : t.history.count (.wrong code) = s.history.count (.wrong code)
  changed : .changed code ∈ t.history → .changed code ∈ s.history
  stored : ∀ e, t.service.otpSessions.entries email = some e → e.value.code = code →
    ∃ e', s.service.otpSessions.entries email = some e' ∧ e'.value.code = code

theorem Spares.recorded {session : OtpSession} (spares : Spares email s t session.code)
    (recorded : Recorded s.history session) : Recorded t.history session where
  counted := spares.wrong.trans recorded.counted
  left := recorded.left
  unused := fun there => recorded.unused (spares.changed there)

theorem CodeFits.spared (fits : CodeFits email s c)
    (spares : ∀ code, c.code? = some code → Spares email s t code) : CodeFits email t c := by
  obtain ⟨past, here⟩ := fits
  refine ⟨fun code own => Nat.lt_of_lt_of_le (past code own) (spares code own).turn, ?_⟩
  cases c with
  | generated session =>
    have spare := spares session.code rfl
    refine ⟨spare.recorded here.1, ?_⟩
    intro e there same
    obtain ⟨e', there', same'⟩ := spare.stored e there same
    exact here.2 e' there' same'
  | recording session ttlMs =>
    have spare := spares session.code rfl
    exact ⟨spare.guessing here.1, spare.recorded here.2⟩
  | discarding code => exact (spares code rfl).guessing here
  | accepted userId code newPassword =>
    have spare := spares code rfl
    exact ⟨spare.guessing here.1, fun there => here.2 (spare.changed there)⟩
  | changed userId code => exact (spares code rfl).guessing here
  | _ => trivial

end Frames

section Accesses
variable {sha256 : String → String} {email : String} {s : ResetCodes} {now : Nat} {c : ResetCall}

/-- An access that leaves the session and the codes alone. -/
def Quiet (s t : ResetCodes) : Prop := t.history = s.history ∧ t.guessing = s.guessing ∧
  t.service.otpSessions = s.service.otpSessions ∧ t.service.turn = s.service.turn + 1

theorem Quiet.kept {t : ResetCodes} (quiet : Quiet s t) (kept : CodesKept email s) :
    CodesKept email t := by
  obtain ⟨history, guessing, sessions, turn⟩ := quiet
  constructor
  · rw [history]
    exact kept.safe
  · intro event there
    rw [history] at there
    rw [turn]
    exact Nat.lt_succ_of_lt (kept.past event there)
  · intro e there
    rw [sessions] at there
    rw [turn, guessing, history]
    obtain ⟨past, how⟩ := kept.stored e there
    exact ⟨Nat.lt_succ_of_lt past, how⟩

theorem Quiet.spares {t : ResetCodes} (quiet : Quiet s t) (code : Nat) : Spares email s t code := by
  obtain ⟨history, guessing, sessions, turn⟩ := quiet
  constructor
  · omega
  · rw [guessing]
    exact id
  · rw [history]
  · rw [history]
    exact id
  · intro e there same
    rw [sessions] at there
    exact ⟨e, there, same⟩

theorem settle_kept {code : Nat} {sessions : Cache String OtpSession} (kept : CodesKept email s)
    (stored : ∀ e, sessions.entries email = some e → e.value.code < s.service.turn ∧
      Recorded s.history e.value) : CodesKept email (s.settle now code sessions) where
  safe := kept.safe
  past event there := Nat.lt_succ_of_lt (kept.past event there)
  stored e there := ⟨Nat.lt_succ_of_lt (stored e there).1, Or.inr (stored e there).2⟩

theorem settle_spares {code other : Nat} {sessions : Cache String OtpSession} (apart : other ≠ code)
    (stored : ∀ e, sessions.entries email = some e → e.value.code = code) :
    Spares email s (s.settle now code sessions) other := by
  constructor
  · exact Nat.le_succ _
  · intro there
    exact List.mem_filter.mpr ⟨there, by simpa using apart⟩
  · rfl
  · exact id
  · intro e there same
    exact absurd (same.symm.trans (stored e there)) apart

theorem event_spares {t : ResetCodes} {event : CodeEvent} {other : Nat}
    (history : t.history = event :: s.history) (apart : event.code ≠ other)
    (guessing : ∀ code ∈ s.guessing, code ∈ t.guessing)
    (sessions : t.service.otpSessions = s.service.otpSessions)
    (turn : t.service.turn = s.service.turn + 1) : Spares email s t other := by
  have away : ∀ e : CodeEvent, e.code = other → event ≠ e := by
    intro e here same
    exact apart (same ▸ here)
  constructor
  · omega
  · exact guessing other
  · rw [history, List.count_cons_of_ne (away _ rfl)]
  · intro there
    rw [history] at there
    exact (List.mem_cons.mp there).resolve_left fun here => away _ rfl here.symm
  · intro e there same
    rw [sessions] at there
    exact ⟨e, there, same⟩

theorem checkOtp_counted {session counted : OtpSession} {otp : String}
    (checked : checkOtp sha256 (some session) otp = .wrong (some counted)) :
    counted = { session with attempts := session.attempts + 1 } ∧
      session.attempts + 1 < maxOtpAttempts := by
  unfold checkOtp at checked
  simp only at checked
  split at checked
  · split at checked
    · cases checked
    · rename_i few
      cases checked
      exact ⟨rfl, Nat.lt_of_not_le few⟩
  · cases checked

theorem compare_cases (userId : Nat) (newPassword : String) {otp : String} {session : OtpSession}
    (inTime : InTime sha256 now otp session) :
    ∃ event next, event.code = session.code ∧ s.compare sha256 now userId otp newPassword session =
        (⟨s.service.tick now, event :: s.history, session.code :: s.guessing⟩, some next) ∧
      (event = .wrong session.code ∧ next = .discarding session.code ∨
        (∃ ttlMs, event = .wrong session.code ∧ session.attempts + 1 < maxOtpAttempts ∧
          next = .recording { session with attempts := session.attempts + 1 } ttlMs) ∨
        event = .accepted session.code ∧ next = .accepted userId session.code newPassword) := by
  unfold ResetCodes.compare
  simp only
  cases checked : checkOtp sha256 (some session) otp with
  | missing =>
    unfold checkOtp at checked
    simp only at checked
    split at checked
    · split at checked <;> cases checked
    · cases checked
  | wrong next =>
    cases next with
    | none => exact ⟨_, _, rfl, rfl, Or.inl ⟨rfl, rfl⟩⟩
    | some counted =>
      obtain ⟨rfl, few⟩ := checkOtp_counted checked
      have before : now < session.createdAt + otpTtlMs := by simpa [InTime, CountedInTime, checked] using inTime
      have left : 0 < remainingTtl { session with attempts := session.attempts + 1 } now := by
        have whole : 0 < otpTtlMs := by decide
        simp only [remainingTtl]
        omega
      simp only [left, if_true]
      exact ⟨_, _, rfl, rfl, Or.inr (Or.inl ⟨_, rfl, few, rfl⟩)⟩
  | right => exact ⟨_, _, rfl, rfl, Or.inr (Or.inr ⟨rfl, rfl⟩)⟩

theorem CodeFits.held (fits : CodeFits email s c) {code : Nat} (own : c.code? = some code) :
    code ∈ s.guessing ∨
      ∀ e, s.service.otpSessions.entries email = some e → e.value.code ≠ code := by
  obtain ⟨-, here⟩ := fits
  cases c with
  | generated session =>
    cases own
    exact Or.inr here.2
  | recording session ttlMs =>
    cases own
    exact Or.inl here.1
  | discarding code =>
    cases own
    exact Or.inl here
  | accepted userId code newPassword =>
    cases own
    exact Or.inl here.1
  | changed userId code =>
    cases own
    exact Or.inl here
  | _ => cases own

section Comparison
variable {userId : Nat} {otp newPassword : String} {session : OtpSession}

theorem compare_kept (kept : CodesKept email s) {e : Entry OtpSession}
    (there : s.service.otpSessions.entries email = some e) (free : e.value.code ∉ s.guessing)
    (inTime : InTime sha256 now otp e.value) :
    CodesKept email (s.compare sha256 now userId otp newPassword e.value).1 ∧
      ∀ next, (s.compare sha256 now userId otp newPassword e.value).2 = some next →
        next.code? = some e.value.code ∧
          CodeFits email (s.compare sha256 now userId otp newPassword e.value).1 next := by
  obtain ⟨past, found⟩ := kept.stored e there
  have recorded : Recorded s.history e.value := found.resolve_left free
  obtain ⟨event, next, own, result, kind⟩ :=
    compare_cases (s := s) userId newPassword inTime
  rw [result]
  have past' : ∀ code, some e.value.code = some code → code < s.service.turn + 1 := by
    intro code same
    cases same
    exact Nat.lt_succ_of_lt past
  have mine : e.value.code ∈ e.value.code :: s.guessing := List.mem_cons_self
  have few : s.history.count (.wrong e.value.code) < maxOtpAttempts := by
    rw [recorded.counted]
    exact recorded.left
  have safe : CodesSafe (event :: s.history) := by
    rcases kind with ⟨rfl, -⟩ | ⟨_, rfl, -⟩ | ⟨rfl, -⟩
    · exact kept.safe.guessed few
    · exact kept.safe.guessed few
    · exact kept.safe.accepted recorded.unused
  constructor
  · refine ⟨safe, ?_, ?_⟩
    · intro ev was
      rcases List.mem_cons.mp was with rfl | old
      · rw [own]
        exact Nat.lt_succ_of_lt past
      · exact Nat.lt_succ_of_lt (kept.past ev old)
    · intro e' there'
      cases there.symm.trans there'
      exact ⟨Nat.lt_succ_of_lt past, Or.inl mine⟩
  · intro next' same
    cases same
    rcases kind with ⟨rfl, rfl⟩ | ⟨ttlMs, rfl, left, rfl⟩ | ⟨rfl, rfl⟩
    · exact ⟨rfl, past', mine⟩
    · refine ⟨rfl, past', mine, ?_, left, ?_⟩
      · simp [recorded.counted]
      · simpa using recorded.unused
    · exact ⟨rfl, past', mine, by simpa using recorded.unused⟩

theorem compared_apart {e : Entry OtpSession} {d : ResetCall} {code : Nat}
    (there : s.service.otpSessions.entries email = some e) (free : e.value.code ∉ s.guessing)
    (fits : CodeFits email s d) (own : d.code? = some code) : e.value.code ≠ code := by
  rcases fits.held own with guessing | elsewhere
  · intro same
    exact free (same ▸ guessing)
  · exact elsewhere e there

theorem compare_spares {code : Nat} (apart : session.code ≠ code)
    (inTime : InTime sha256 now otp session) :
    Spares email s (s.compare sha256 now userId otp newPassword session).1 code := by
  obtain ⟨event, next, mine, result, -⟩ := compare_cases (s := s) userId newPassword inTime
  rw [result]
  exact event_spares rfl (mine ▸ apart) (fun _ => List.mem_cons_of_mem _) rfl rfl

end Comparison

/-- What one access leaves behind: the store, the call itself, and the other calls. -/
structure Leaves (email : String) (s : ResetCodes) (c : ResetCall) (t : ResetCodes)
    (rest : Option ResetCall) : Prop where
  kept : CodesKept email t
  fits : ∀ c', rest = some c' → CodeFits email t c'
  spares : ∀ d code, CodeFits email s d → ApartCodes c d → d.code? = some code →
    Spares email s t code
  apart : ∀ d c', CodeFits email s d → ApartCodes c d → rest = some c' → ApartCodes c' d

theorem nothing_left {P : ResetCall → Prop} (c' : ResetCall) (left : none = some c') : P c' := by
  cases left

theorem fits_without_code {t : ResetCodes} (none : c.code? = none) : CodeFits email t c := by
  refine ⟨fun code own => ?_, ?_⟩
  · rw [none] at own
    cases own
  · cases c <;> trivial

theorem apart_without_code {d : ResetCall} (none : c.code? = none) : ApartCodes c d := by
  intro code own
  rw [none] at own
  cases own

theorem Quiet.leaves {t : ResetCodes} {rest : Option ResetCall} (quiet : Quiet s t)
    (kept : CodesKept email s) (none : ∀ c', rest = some c' → c'.code? = none) :
    Leaves email s c t rest where
  kept := quiet.kept kept
  fits c' same := fits_without_code (none c' same)
  spares _ code _ _ _ := quiet.spares code
  apart _ c' _ _ same := apart_without_code (none c' same)

theorem generate_leaves {otp : String} (kept : CodesKept email s) :
    Leaves email s (.userFound otp) (s.access sha256 email now (.userFound otp)).1
      (s.access sha256 email now (.userFound otp)).2 := by
  have quiet : Quiet s (s.access sha256 email now (.userFound otp)).1 := ⟨rfl, rfl, rfl, rfl⟩
  have unknown : ∀ event ∈ s.history, event.code ≠ s.service.turn := fun event was =>
    Nat.ne_of_lt (kept.past event was)
  have few : (0 : Nat) < maxOtpAttempts := by decide
  constructor
  · exact quiet.kept kept
  · intro c' same
    cases same
    refine ⟨?_, ⟨?_, few, fun was => unknown _ was rfl⟩, ?_⟩
    · intro code own
      cases own
      exact Nat.lt_succ_self _
    · exact List.count_eq_zero_of_not_mem fun was => unknown _ was rfl
    · intro e there same
      exact absurd same (Nat.ne_of_lt (kept.stored e there).1)
  · intro d code _ _ _
    exact quiet.spares code
  · intro d c' fits _ same code own other
    cases same
    cases own
    exact absurd (fits.1 _ other) (Nat.lt_irrefl _)

theorem store_leaves {session : OtpSession} (kept : CodesKept email s)
    (fits : CodeFits email s (.generated session)) :
    Leaves email s (.generated session) (s.access sha256 email now (.generated session)).1
      (s.access sha256 email now (.generated session)).2 := by
  have stored : ∀ e, (setOtpSession s.service.otpSessions now email session otpTtlMs).entries email =
      some e → e.value = session := by
    intro e there
    simp only [setOtpSession, Cache.setWithTtl, entries_put_self, Option.some.injEq] at there
    rw [← there]
  constructor
  · refine ⟨kept.safe, fun event was => Nat.lt_succ_of_lt (kept.past event was), ?_⟩
    intro e there
    rw [stored e there]
    exact ⟨Nat.lt_succ_of_lt (fits.1 _ rfl), Or.inr fits.2.1⟩
  · exact nothing_left
  · intro d code _ apart own
    refine ⟨Nat.le_succ _, id, rfl, id, ?_⟩
    intro e there same
    rw [stored e there] at same
    exact absurd own (apart code (congrArg some same))
  · intro d c' _ _ left
    cases left

theorem settle_leaves {code : Nat} {sessions : Cache String OtpSession} {rest : Option ResetCall}
    (kept : CodesKept email s) (own : c.code? = some code) (past : code < s.service.turn)
    (stored : ∀ e, sessions.entries email = some e →
      e.value.code = code ∧ Recorded s.history e.value)
    (none : ∀ c', rest = some c' → c'.code? = none) :
    Leaves email s c (s.settle now code sessions) rest where
  kept := settle_kept kept fun e there => ⟨(stored e there).1 ▸ past, (stored e there).2⟩
  fits c' same := fits_without_code (none c' same)
  spares d other _ apart mine := by
    refine settle_spares ?_ fun e there => (stored e there).1
    intro same
    exact apart code own (same ▸ mine)
  apart _ c' _ _ same := apart_without_code (none c' same)

theorem change_leaves {userId code : Nat} {newPassword : String} (kept : CodesKept email s)
    (fits : CodeFits email s (.accepted userId code newPassword)) :
    Leaves email s (.accepted userId code newPassword)
      (s.access sha256 email now (.accepted userId code newPassword)).1
      (s.access sha256 email now (.accepted userId code newPassword)).2 := by
  obtain ⟨past, guessing, unused⟩ := fits
  constructor
  · refine ⟨kept.safe.changed unused, ?_, ?_⟩
    · intro event was
      rcases List.mem_cons.mp was with rfl | old
      · exact Nat.lt_succ_of_lt (past _ rfl)
      · exact Nat.lt_succ_of_lt (kept.past event old)
    · intro e there
      obtain ⟨before, how⟩ := kept.stored e there
      refine ⟨Nat.lt_succ_of_lt before, ?_⟩
      by_cases same : code = e.value.code
      · exact Or.inl (same ▸ guessing)
      · exact how.imp_right fun recorded => recorded.cons same
  · intro c' same
    cases same
    exact ⟨fun other own => Nat.lt_succ_of_lt (past other own), guessing⟩
  · intro d other _ apart own
    refine event_spares rfl ?_ (fun _ => id) rfl rfl
    intro same
    exact apart code rfl (own.trans (congrArg some (Eq.symm same)))
  · intro d c' _ apart same
    cases same
    exact apart

theorem compare_leaves {userId : Nat} {otp newPassword : String} {e : Entry OtpSession}
    (kept : CodesKept email s) (there : s.service.otpSessions.entries email = some e)
    (free : e.value.code ∉ s.guessing) (inTime : InTime sha256 now otp e.value) :
    Leaves email s c (s.compare sha256 now userId otp newPassword e.value).1
      (s.compare sha256 now userId otp newPassword e.value).2 := by
  obtain ⟨kept', next⟩ := compare_kept kept there free inTime
  constructor
  · exact kept'
  · intro c' same
    exact (next c' same).2
  · intro d code fits _ own
    exact compare_spares (compared_apart there free fits own) inTime
  · intro d c' fits _ same code own other
    rw [(next c' same).1] at own
    exact compared_apart there free fits other (Option.some.inj own)

theorem access_leaves (kept : CodesKept email s) (fits : CodeFits email s c)
    (inTurn : GuessesInTurn sha256 email s now c) :
    Leaves email s c (s.access sha256 email now c).1 (s.access sha256 email now c).2 := by
  cases c with
  | requested otp =>
    refine Quiet.leaves ⟨rfl, rfl, rfl, rfl⟩ kept ?_
    simp only [ResetCodes.access]
    split <;> intro c' same <;> cases same
    rfl
  | counted otp currentAttempts =>
    simp only [ResetCodes.access]
    split
    · exact Quiet.leaves ⟨rfl, rfl, rfl, rfl⟩ kept nothing_left
    · refine Quiet.leaves ⟨rfl, rfl, rfl, rfl⟩ kept ?_
      split <;> intro c' same <;> cases same
      rfl
  | userFound otp => exact generate_leaves kept
  | generated session => exact store_leaves kept fits
  | confirming otp newPassword =>
    refine Quiet.leaves ⟨rfl, rfl, rfl, rfl⟩ kept ?_
    simp only [ResetCodes.access]
    split <;> intro c' same <;> cases same
    rfl
  | confirmed userId otp newPassword =>
    cases found : s.service.otpSessions.get now email with
    | none =>
      simp only [ResetCodes.access, found]
      exact Quiet.leaves ⟨rfl, rfl, rfl, rfl⟩ kept nothing_left
    | some session =>
      obtain ⟨free, inTime⟩ := inTurn session found
      obtain ⟨e, there, -, rfl⟩ := get_eq_some.mp found
      simp only [ResetCodes.access, found]
      exact compare_leaves kept there free inTime
  | recording session ttlMs =>
    obtain ⟨past, guessing, recorded⟩ := fits
    refine settle_leaves kept rfl (past _ rfl) ?_ nothing_left
    intro e there
    simp only [setOtpSession, Cache.setWithTtl, entries_put_self, Option.some.injEq] at there
    subst there
    exact ⟨rfl, recorded⟩
  | discarding code =>
    refine settle_leaves kept rfl (fits.1 _ rfl) ?_ nothing_left
    intro e there
    simp [Cache.del] at there
  | accepted userId code newPassword => exact change_leaves kept fits
  | changed userId code =>
    refine settle_leaves kept rfl (fits.1 _ rfl) ?_ ?_
    · intro e there
      simp [Cache.del] at there
    · intro c' same
      cases same
      rfl
  | unblocked | incremented | deleted | limitDeleted =>
    refine Quiet.leaves ⟨rfl, rfl, rfl, rfl⟩ kept ?_
    intro c' same
    cases same
    rfl
  | blockDeleted userId => exact Quiet.leaves ⟨rfl, rfl, rfl, rfl⟩ kept nothing_left

theorem reset_keeps : Keeps (resetService sha256 email) (CodesKept email) (CodeFits email)
    ApartCodes (GuessesInTurn sha256 email) where
  symm c d apart code own other := apart code other own
  enters s r _ _ := by
    cases r <;> exact fits_without_code rfl
  alone s r d _ _ _ := by
    cases r <;> exact apart_without_code rfl
  inv s now c kept fits _ inTurn := (access_leaves kept fits inTurn).kept
  next s now c c' kept fits _ inTurn same := (access_leaves kept fits inTurn).fits c' same
  others s now c d kept fits other apart _ inTurn := other.spared fun code own =>
    (access_leaves kept fits inTurn).spares d code other apart own
  still_apart s now c c' d kept fits other apart _ inTurn same :=
    (access_leaves kept fits inTurn).apart d c' other apart same

end Accesses

section Codes
variable {sha256 : String → String} {email : String} {users : Table User}
  {p : Pool ResetCodes ResetCall} {moves : List (Move (Pool ResetCodes ResetCall) (Turn ResetRequest))}

def ResetCodes.start (users : Table User) : ResetCodes := ⟨AuthState.start users, [], []⟩

theorem codes_start : CodesKept email (ResetCodes.start users) :=
  ⟨⟨fun _ => Nat.zero_le _, fun _ => Nat.zero_le _, .nil⟩, nofun, nofun⟩

/-- Where guesses at one code are compared in turn and in time, each code gets five wrong
    guesses at most, changes one password at most, and is not accepted again after it has. -/
theorem codes_safe (run : Run (Step (resetService sha256 email)) (Pool.idle (ResetCodes.start users))
      moves p) (heeds : Heeds (Allows (GuessesInTurn sha256 email)) moves) :
    ∀ a ∈ visited (Pool.idle (ResetCodes.start users)) moves, CodesSafe a.shared.history := by
  intro a there
  exact (sound_visited reset_keeps codes_start run heeds a there).shared.safe

def digests (otp : String) : String :=
  if otp = "123456" then "8d969eef6ecad3c29a3a629280e686cf0c3f5d5a86aff3ca12020c923adc6c92"
  else if otp = "000000" then "91b4d142823f7d20c5f08df69122de43f35f057a988d9619f6d3138485c9a203"
  else otp

def codeSent : List (Turn ResetRequest) :=
  [.enter 0 (.requestOtp "123456"), .act 0 1000, .act 0 1001, .act 0 1002, .act 0 1003, .act 0 1004,
    .act 0 1005]

def oneByOne : List (Turn ResetRequest) := codeSent ++
  [.enter 1 (.confirmReset "000000" "second"), .act 1 2000, .act 1 2001, .act 1 2002,
    .enter 2 (.confirmReset "123456" "second"), .act 2 3000, .act 2 3001, .act 2 3002, .act 2 3003,
    .enter 3 (.confirmReset "123456" "third"), .act 3 4000, .act 3 4001]

theorem guesses_one_by_one : ∃ moves p,
    Run (Step (resetService digests "ann@example.com")) (Pool.idle (ResetCodes.start staff)) moves p ∧
      p.shared.history = [.changed 4, .accepted 4, .wrong 4] ∧
      ∀ a ∈ visited (Pool.idle (ResetCodes.start staff)) moves, CodesSafe a.shared.history := by
  have follows : Follows (resetService digests "ann@example.com")
      (GuessesInTurn digests "ann@example.com") (Pool.idle (ResetCodes.start staff)) oneByOne := by
    decide +kernel
  obtain ⟨moves, run, heeds⟩ := follows_run follows
  exact ⟨moves, _, run, by decide +kernel, codes_safe run heeds⟩

def bothAtOnce : List (Turn ResetRequest) := codeSent ++
  [.enter 1 (.confirmReset "123456" "second"), .enter 2 (.confirmReset "123456" "third"), .act 1 2000,
    .act 2 2000, .act 1 2001, .act 2 2001, .act 1 2002, .act 2 2002]

theorem code_used_twice : ∃ moves p,
    Run (Step (resetService digests "ann@example.com")) (Pool.idle (ResetCodes.start staff)) moves p ∧
      p.shared.history.count (.changed 4) = 2 ∧ ¬ CodesSafe p.shared.history := by
  have follows : Follows (resetService digests "ann@example.com") (fun _ _ _ => True)
      (Pool.idle (ResetCodes.start staff)) bothAtOnce := by decide +kernel
  have twice : (bothAtOnce.foldl (Pool.after (resetService digests "ann@example.com"))
      (Pool.idle (ResetCodes.start staff))).shared.history.count (.changed 4) = 2 := by decide +kernel
  obtain ⟨moves, run, -⟩ := follows_run follows
  refine ⟨moves, _, run, twice, ?_⟩
  intro safe
  have once := safe.once 4
  omega

end Codes
end Auth
