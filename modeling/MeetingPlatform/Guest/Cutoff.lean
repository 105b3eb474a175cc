import MeetingPlatform.Guest.Sessions

/- What a rejection, a new invitation and a revocation end. Each of them flags the one session that
   the cache knows of; a revocation also puts a marker that outdates the older tokens. -/
namespace GuestAccess
open MeetingBooking ExpiringStore Guards LabelledRuns

section Effects
variable (cfg : GuestAccessConfig) (s : GuestLedger) (now : Nat)

/-- The data that the guards decide on, apart from the meeting. -/
structure SessionCore where
  revoked : Cache Nat Unit
  inviteInvalidAfter : Cache Unit Nat
  inviteCurrentJti : Cache Unit Nat
  lobbyStatus : Option GuestLobbyStatus
  issued : List GuestJwtPayload
  cut : List GuestJwtPayload
  verdict : HostVerdict

def GuestLedger.core (s : GuestLedger) : SessionCore :=
  ⟨s.guest.cache.revoked, s.guest.cache.inviteInvalidAfter, s.guest.cache.inviteCurrentJti,
    s.guest.cache.lobbyStatus, s.issued, s.cut, s.verdict⟩

def lobbyEntry : GuestLobbyStatus := if cfg.lobbyEnabled then .waiting else .admitted

def mayManage (guest : GuestData) (userId : Nat) : Prop :=
  ∃ meeting, assertOwnershipOrAdmin cfg guest userId = .ok meeting

/-- The calls that are to end the earlier sessions, where they do not throw. -/
def Ends (guest : GuestData) : GuestAction → Prop
  | .reject userId => mayManage cfg guest userId
  | .resendInvite userId _ => ∃ meeting, resendable cfg guest userId = .ok meeting
  | .revokeAccess userId => mayManage cfg guest userId
  | _ => False

/-- What the calls can do to this data. -/
inductive SessionEffect : GuestAction → SessionCore → Prop where
  | verified {secret otp : String} : SessionEffect (.verifyOtp secret otp)
      { s.core with
        inviteCurrentJti := s.guest.cache.inviteCurrentJti.setWithTtl now () s.guest.turn
          (sessionTtlSeconds cfg)
        lobbyStatus := some (lobbyEntry cfg)
        issued := signGuestToken cfg s.guest now :: s.issued
        verdict := s.verdict.verify }
  | admitted {userId : Nat} : SessionEffect (.admitGuest userId)
      { s.core with lobbyStatus := some .admitted, verdict := .welcome }
  | rejected {userId : Nat} (ends : mayManage cfg s.guest userId) : SessionEffect (.reject userId)
      { s.core with
        revoked := (s.guest.cache.revokeCurrent cfg now).revoked
        lobbyStatus := some .rejected
        cut := s.issued
        verdict := .rejected }
  | resent {userId : Nat} {secret : String}
      (ends : ∃ meeting, resendable cfg s.guest userId = .ok meeting) :
      SessionEffect (.resendInvite userId secret)
      { s.core with
        revoked := (s.guest.cache.revokeCurrent cfg now).revoked
        cut := s.issued
        verdict := .welcome }
  | revoked {userId : Nat} (ends : mayManage cfg s.guest userId) :
      SessionEffect (.revokeAccess userId)
      { s.core with
        revoked := (s.guest.cache.revokeCurrent cfg now).revoked
        inviteInvalidAfter := s.guest.cache.inviteInvalidAfter.setWithTtl now () now (24 * 3600)
        cut := s.issued }
  | autoAdmitted {payload : GuestJwtPayload} {meeting : Meeting}
      (found : s.guest.meeting = some meeting) (waiting : s.guest.cache.lobbyStatus = some .waiting)
      (started : meeting.startTime ≤ now) : SessionEffect (.getGuestMeetingView payload)
      { s.core with lobbyStatus := some .admitted }
  | idle {action : GuestAction} (goes_on : ¬ Ends cfg s.guest action) : SessionEffect action s.core

/-- What every call leaves alone, next to its effect. -/
structure Moved (l : GuestTurn) (t : GuestLedger) : Prop where
  order : s.guest.clock ≤ l.now
  clock : t.guest.clock = l.now
  turn : t.guest.turn = s.guest.turn + 1
  meeting : t.guest.meeting = s.guest.meeting
  effect : SessionEffect cfg s l.now l.action t.core

end Effects

section Calls
variable {cfg : GuestAccessConfig} {s : GuestLedger} {now : Nat}

variable (cfg now) in
theorem requestOtp_rest (guest : GuestData) (secret otp : String) :
    ∃ otp' otpAttempt otpSend, (requestOtp cfg guest now secret otp).1 = { guest with
      cache := { guest.cache with otp := otp', otpAttempt := otpAttempt, otpSend := otpSend } } := by
  unfold requestOtp
  split
  · exact ⟨_, _, _, rfl⟩
  · split
    · exact ⟨_, _, _, rfl⟩
    · dsimp only
      split <;> exact ⟨_, _, _, rfl⟩

variable (cfg now) in
theorem failAttempt_rest (cache : GuestCache) : ∃ otp otpAttempt otpBlocked,
    cache.failAttempt cfg now =
      { cache with otp := otp, otpAttempt := otpAttempt, otpBlocked := otpBlocked } := by
  unfold GuestCache.failAttempt
  dsimp only
  split <;> exact ⟨_, _, _, rfl⟩

variable (cfg now) in
theorem verifyOtp_cases (guest : GuestData) (secret otp : String) :
    (∃ otp' otpAttempt otpBlocked refused, verifyOtp cfg guest now secret otp =
      ({ guest with
          cache := { guest.cache with otp := otp', otpAttempt := otpAttempt, otpBlocked := otpBlocked } },
        .error refused)) ∨
    ∃ otp' otpAttempt session inLobby guestInvite, verifyOtp cfg guest now secret otp =
      ({ guest with
          guestInvite := guestInvite
          cache := { guest.cache with
            otp := otp', otpAttempt := otpAttempt, session := session, inLobby := inLobby
            inviteCurrentJti := guest.cache.inviteCurrentJti.setWithTtl now () guest.turn
              (sessionTtlSeconds cfg)
            lobbyStatus := some (lobbyEntry cfg) } },
        .ok (signGuestToken cfg guest now)) := by
  unfold verifyOtp
  split
  · exact Or.inl ⟨_, _, _, _, rfl⟩
  · split
    · exact Or.inl ⟨_, _, _, _, rfl⟩
    · split
      · exact Or.inl ⟨_, _, _, _, rfl⟩
      · split
        · obtain ⟨_, _, _, failed⟩ := failAttempt_rest cfg now guest.cache
          rw [failed]
          exact Or.inl ⟨_, _, _, _, rfl⟩
        · by_cases lobby : cfg.lobbyEnabled = true
          · simp only [GuestCache.enterLobby, lobbyEntry, lobby, if_true]
            exact Or.inr ⟨_, _, _, _, _, rfl⟩
          · simp only [GuestCache.enterLobby, lobbyEntry, lobby]
            exact Or.inr ⟨_, _, _, _, _, rfl⟩

variable (cfg s now) in
theorem view_cases (payload : GuestJwtPayload) :
    (getGuestMeetingView cfg s now payload).1 = s.guest ∨
    ∃ meeting, s.guest.meeting = some meeting ∧ s.guest.cache.lobbyStatus = some .waiting ∧
      meeting.startTime ≤ now ∧ (getGuestMeetingView cfg s now payload).1 =
        { s.guest with cache := s.guest.cache.admitGuest } := by
  unfold getGuestMeetingView
  split
  · exact Or.inl rfl
  · split
    · exact Or.inl rfl
    · rename_i meeting scope
      simp only [meetingScopeGuard, bind_eq_ok, expect_eq_ok, require_eq_ok, pure_eq_ok] at scope
      obtain ⟨_, found, _, -, _, -, same⟩ := scope
      rw [same] at found
      by_cases auto : s.guest.cache.lobbyStatus = some .waiting ∧ meeting.startTime ≤ now
      · have there : s.guest.meeting = some meeting := (Option.filter_eq_some_iff.mp found).1
        simp only [getStatusWithAutoAdmit, if_pos auto]
        exact Or.inr ⟨meeting, there, auto.1, auto.2, trivial⟩
      · simp only [getStatusWithAutoAdmit, if_neg auto, true_or]

end Calls

section Steps
variable {cfg : GuestAccessConfig} {s t : GuestLedger} {l : GuestTurn}

theorem GuestStep.moved (step : GuestStep cfg s l t) : Moved cfg s l t := by
  obtain ⟨now, action⟩ := l
  obtain ⟨order, rfl⟩ := step
  have idle : ∀ {b : GuestLedger}, ¬ Ends cfg s.guest action → b = s.tick now s.guest →
      Moved cfg s ⟨now, action⟩ b := by
    rintro _ goes_on rfl
    exact ⟨order, rfl, rfl, rfl, .idle goes_on⟩
  cases action with
  | requestOtp secret otp =>
    obtain ⟨_, _, _, same⟩ := requestOtp_rest cfg now s.guest secret otp
    simp only [GuestLedger.after, same]
    exact ⟨order, rfl, rfl, rfl, .idle id⟩
  | verifyOtp secret otp =>
    rcases verifyOtp_cases cfg now s.guest secret otp with
      ⟨_, _, _, _, same⟩ | ⟨_, _, _, _, _, same⟩
    · simp only [GuestLedger.after, same]
      exact ⟨order, rfl, rfl, rfl, .idle id⟩
    · simp only [GuestLedger.after, same]
      exact ⟨order, rfl, rfl, rfl, .verified⟩
  | admitGuest userId =>
    cases allowed : assertOwnershipOrAdmin cfg s.guest userId with
    | error e =>
      refine idle id ?_
      simp [GuestLedger.after, admitGuest, allowed, bind, Except.bind]
    | ok meeting =>
      simp only [GuestLedger.after, admitGuest, allowed, bind, Except.bind, pure, Except.pure]
      exact ⟨order, rfl, rfl, rfl, .admitted⟩
  | reject userId =>
    cases allowed : assertOwnershipOrAdmin cfg s.guest userId with
    | error e =>
      refine idle (not_ok_of_error allowed) ?_
      simp [GuestLedger.after, reject, allowed, bind, Except.bind]
    | ok meeting =>
      simp only [GuestLedger.after, reject, allowed, bind, Except.bind, pure, Except.pure]
      exact ⟨order, rfl, rfl, rfl, .rejected ⟨meeting, allowed⟩⟩
  | resendInvite userId secret =>
    cases allowed : resendable cfg s.guest userId with
    | error e =>
      refine idle (not_ok_of_error allowed) ?_
      simp [GuestLedger.after, resendInvite, allowed, bind, Except.bind]
    | ok meeting =>
      simp only [GuestLedger.after, resendInvite, allowed, bind, Except.bind, pure, Except.pure]
      exact ⟨order, rfl, rfl, rfl, .resent ⟨meeting, allowed⟩⟩
  | revokeAccess userId =>
    cases allowed : assertOwnershipOrAdmin cfg s.guest userId with
    | error e =>
      refine idle (not_ok_of_error allowed) ?_
      simp [GuestLedger.after, revokeAccess, allowed, bind, Except.bind]
    | ok meeting =>
      simp only [GuestLedger.after, revokeAccess, allowed, bind, Except.bind, pure, Except.pure]
      exact ⟨order, rfl, rfl, rfl, .revoked ⟨meeting, allowed⟩⟩
  | getGuestMeetingView payload =>
    rcases view_cases cfg s now payload with
      same | ⟨meeting, found, waiting, started, same⟩
    · exact idle id (congrArg (s.tick now) same)
    · simp only [GuestLedger.after, same]
      exact ⟨order, rfl, rfl, rfl, .autoAdmitted found waiting started⟩

end Steps

section Lifetimes
variable (cfg : GuestAccessConfig) (s : GuestLedger) (now : Nat)

structure SessionsKept : Prop where
  issued : ∀ p ∈ s.issued, p.exp = p.iat + sessionTtlSeconds cfg ∧
    p.iat * 1000 ≤ s.guest.clock ∧ p.jti < s.guest.turn
  current : ∀ e, s.guest.cache.inviteCurrentJti.entries () = some e → e.value < s.guest.turn
  revoked : ∀ jti e, s.guest.cache.revoked.entries jti = some e → jti < s.guest.turn ∧
    ∃ d, e.deadline = some d ∧ ∀ p ∈ s.issued, p.jti = jti → p.exp * 1000 ≤ d
  marker : ∀ e, s.guest.cache.inviteInvalidAfter.entries () = some e →
    e.value ≤ s.guest.clock ∧ e.deadline = some (e.value + 24 * 3600 * 1000)
  cut : ∀ p ∈ s.cut, p ∈ s.issued

/-- The token has expired, or what keeps it out stays until it has. -/
inductive Dead (p : GuestJwtPayload) : Prop where
  | expired (past : p.exp * 1000 ≤ now)
  | revoked {d : Nat} (flag : s.guest.cache.revoked.entries p.jti = some ⟨(), some d⟩)
      (lasts : p.exp * 1000 ≤ d)
  | outdated {m d : Nat} (marker : s.guest.cache.inviteInvalidAfter.entries () = some ⟨m, some d⟩)
      (older : p.iat * 1000 < m) (lasts : p.exp * 1000 ≤ d)

def Passes (p : GuestJwtPayload) : Prop :=
  sessionGuard s now p = .ok () ∧ assertAdmitted s.guest.cache.lobbyStatus = .ok ()

/-- Whatever calls follow, no token that was to be ended is let in together with the lobby status. -/
def CutOff : Prop := ∀ moves t, Run (GuestStep cfg) s moves t →
  ∀ p ∈ s.cut, ∀ now, t.guest.clock ≤ now → ¬ Passes t now p

def Revokes : GuestAction → Prop
  | .revokeAccess _ => True
  | _ => False

/-- Every token that is still good is the one of the current session, or a revocation outdates it. -/
def EndsAll (s : GuestLedger) (l : GuestTurn) : Prop :=
  Ends cfg s.guest l.action → ∀ p ∈ s.issued, sessionGuard s l.now p = .ok () →
    s.guest.cache.inviteCurrentJti.get l.now () = some p.jti ∨
      Revokes l.action ∧ p.iat * 1000 < l.now

end Lifetimes

section Cuts
variable {cfg : GuestAccessConfig} {s t : GuestLedger} {l : GuestTurn} {now : Nat}
  {p : GuestJwtPayload}

theorem sessionGuard_ok_iff : sessionGuard s now p = .ok () ↔
    p ∈ s.issued ∧ now < p.exp * 1000 ∧ s.guest.cache.revoked.get now p.jti = none ∧
      ∀ m, s.guest.cache.inviteInvalidAfter.get now () = some m → m ≤ p.iat * 1000 := by
  have live : now / 1000 < p.exp ↔ now < p.exp * 1000 := by omega
  simp only [sessionGuard, verifyGuestToken, bind_eq_ok, require_eq_ok, live, Option.mem_def,
    Nat.not_lt]
  constructor
  · rintro ⟨_, ⟨issued, unexpired⟩, _, unrevoked, recent⟩
    exact ⟨issued, unexpired, unrevoked, recent⟩
  · rintro ⟨issued, unexpired, unrevoked, recent⟩
    exact ⟨(), ⟨issued, unexpired⟩, (), unrevoked, recent⟩

theorem assertAdmitted_ok_iff {status : Option GuestLobbyStatus} :
    assertAdmitted status = .ok () ↔ status = some .admitted := by
  simp only [assertAdmitted, bind_eq_ok, require_eq_ok]
  constructor
  · rintro ⟨_, -, admitted⟩
    exact admitted
  · rintro rfl
    exact ⟨(), by simp, rfl⟩

theorem Dead.later {later : Nat} (dead : Dead s now p) (order : now ≤ later) : Dead s later p := by
  cases dead with
  | expired past => exact .expired (Nat.le_trans past order)
  | revoked flag lasts => exact .revoked flag lasts
  | outdated marker older lasts => exact .outdated marker older lasts

theorem Dead.refused (dead : Dead s now p) : sessionGuard s now p ≠ .ok () := by
  intro passed
  obtain ⟨-, unexpired, unrevoked, recent⟩ := sessionGuard_ok_iff.mp passed
  cases dead with
  | expired past => omega
  | @revoked d flag lasts =>
    have live : now < d := Nat.lt_of_lt_of_le unexpired lasts
    rw [get_of_entry flag, if_pos live] at unrevoked
    cases unrevoked
  | @outdated m d marker older lasts =>
    have live : now < d := Nat.lt_of_lt_of_le unexpired lasts
    have := recent m (by rw [get_of_entry marker, if_pos live])
    omega

theorem outlives {iat exp ttl lasting : Nat} (lifetime : exp = iat + ttl) (within : ttl ≤ lasting)
    (past : iat * 1000 ≤ now) : exp * 1000 ≤ now + lasting * 1000 := by
  subst lifetime
  rw [Nat.add_mul]
  exact Nat.add_le_add past (Nat.mul_le_mul_right 1000 within)

theorem dead_of_refused (hours : cfg.sessionMaxHours ≤ 24) (kept : SessionsKept cfg s)
    (issued : p ∈ s.issued) (refused : sessionGuard s now p ≠ .ok ()) : Dead s now p := by
  by_contra alive
  apply refused
  refine sessionGuard_ok_iff.mpr ⟨issued, ?_, ?_, ?_⟩
  · exact Nat.lt_of_not_le fun past => alive (.expired past)
  · by_contra flagged
    obtain ⟨u, found⟩ := Option.ne_none_iff_exists'.mp flagged
    obtain ⟨⟨_, deadline⟩, entry, -, -⟩ := get_eq_some.mp found
    obtain ⟨-, d, same, lasts⟩ := kept.revoked p.jti _ entry
    subst same
    exact alive (.revoked entry (lasts p issued rfl))
  · intro m found
    obtain ⟨⟨value, deadline⟩, entry, -, same⟩ := get_eq_some.mp found
    obtain ⟨-, until_then⟩ := kept.marker _ entry
    dsimp only at same until_then
    subst same
    subst until_then
    by_contra newer
    have older : p.iat * 1000 < value := Nat.lt_of_not_le newer
    obtain ⟨lifetime, -, -⟩ := kept.issued p issued
    have ttl : sessionTtlSeconds cfg ≤ 24 * 3600 := Nat.mul_le_mul_right 3600 hours
    exact alive (.outdated entry older (outlives lifetime ttl (Nat.le_of_lt older)))

theorem revokeCurrent_entries (cache : GuestCache) (jti : Nat) :
    (cache.revokeCurrent cfg now).revoked.entries jti =
      if cache.inviteCurrentJti.get now () = some jti then
        some ⟨(), some (now + sessionTtlSeconds cfg * 1000)⟩ else cache.revoked.entries jti := by
  unfold GuestCache.revokeCurrent
  cases current : cache.inviteCurrentJti.get now () with
  | none => simp
  | some other =>
    by_cases same : other = jti
    · subst same
      simp [Cache.setWithTtl]
    · simp [Cache.setWithTtl, same, Ne.symm same]

theorem sessionsKept_start (guest : GuestData) : SessionsKept cfg (GuestLedger.start guest) where
  issued := by simp [GuestLedger.start]
  current := by simp [GuestLedger.start, GuestCache.empty, Cache.empty]
  revoked := by simp [GuestLedger.start, GuestCache.empty, Cache.empty]
  marker := by simp [GuestLedger.start, GuestCache.empty, Cache.empty]
  cut := by simp [GuestLedger.start]

theorem flagged_kept (kept : SessionsKept cfg s) (order : s.guest.clock ≤ now) (jti : Nat)
    (e : Entry Unit) (found : (s.guest.cache.revokeCurrent cfg now).revoked.entries jti = some e) :
    jti < s.guest.turn ∧ ∃ d, e.deadline = some d ∧
      ∀ p ∈ s.issued, p.jti = jti → p.exp * 1000 ≤ d := by
  rw [revokeCurrent_entries] at found
  split at found
  · rename_i current
    obtain ⟨e', there, -, same⟩ := get_eq_some.mp current
    cases found
    refine ⟨same ▸ kept.current e' there, _, rfl, ?_⟩
    intro p issued _
    obtain ⟨lifetime, past, -⟩ := kept.issued p issued
    exact outlives lifetime (Nat.le_refl _) (Nat.le_trans past order)
  · exact kept.revoked jti e found

section Effect
variable {action : GuestAction} {core : SessionCore}

theorem issued_effect (kept : SessionsKept cfg s) (order : s.guest.clock ≤ now)
    (effect : SessionEffect cfg s now action core) : ∀ p ∈ core.issued,
      p.exp = p.iat + sessionTtlSeconds cfg ∧ p.iat * 1000 ≤ now ∧ p.jti < s.guest.turn + 1 := by
  have old : ∀ p ∈ s.issued, p.exp = p.iat + sessionTtlSeconds cfg ∧ p.iat * 1000 ≤ now ∧
      p.jti < s.guest.turn + 1 := by
    intro p there
    obtain ⟨lifetime, past, fresh⟩ := kept.issued p there
    exact ⟨lifetime, Nat.le_trans past order, Nat.lt_succ_of_lt fresh⟩
  cases effect with
  | verified =>
    intro p there
    rcases List.mem_cons.mp there with rfl | before
    · refine ⟨rfl, ?_, Nat.lt_succ_self _⟩
      exact Nat.div_mul_le_self now 1000
    · exact old p before
  | _ => exact old

theorem current_effect (kept : SessionsKept cfg s) (effect : SessionEffect cfg s now action core) :
    ∀ e, core.inviteCurrentJti.entries () = some e → e.value < s.guest.turn + 1 := by
  cases effect with
  | verified =>
    intro e there
    rw [Cache.setWithTtl, entries_put_self] at there
    cases there
    exact Nat.lt_succ_self _
  | _ => exact fun e there => Nat.lt_succ_of_lt (kept.current e there)

theorem revoked_effect (kept : SessionsKept cfg s) (order : s.guest.clock ≤ now)
    (effect : SessionEffect cfg s now action core) :
    ∀ jti e, core.revoked.entries jti = some e → jti < s.guest.turn + 1 ∧
      ∃ d, e.deadline = some d ∧ ∀ p ∈ core.issued, p.jti = jti → p.exp * 1000 ≤ d := by
  have flags : ∀ jti e, s.guest.cache.revoked.entries jti = some e → jti < s.guest.turn + 1 ∧
      ∃ d, e.deadline = some d ∧ ∀ p ∈ s.issued, p.jti = jti → p.exp * 1000 ≤ d := by
    intro jti e there
    obtain ⟨fresh, lasts⟩ := kept.revoked jti e there
    exact ⟨Nat.lt_succ_of_lt fresh, lasts⟩
  have newFlags : ∀ jti e, (s.guest.cache.revokeCurrent cfg now).revoked.entries jti = some e →
      jti < s.guest.turn + 1 ∧
      ∃ d, e.deadline = some d ∧ ∀ p ∈ s.issued, p.jti = jti → p.exp * 1000 ≤ d := by
    intro jti e there
    obtain ⟨fresh, lasts⟩ := flagged_kept kept order jti e there
    exact ⟨Nat.lt_succ_of_lt fresh, lasts⟩
  cases effect with
  | verified =>
    intro jti e there
    obtain ⟨fresh, d, deadline, lasts⟩ := kept.revoked jti e there
    refine ⟨Nat.lt_succ_of_lt fresh, d, deadline, ?_⟩
    intro p given same_jti
    rcases List.mem_cons.mp given with rfl | before
    · exact absurd same_jti (Nat.ne_of_gt fresh)
    · exact lasts p before same_jti
  | rejected _ => exact newFlags
  | resent _ => exact newFlags
  | revoked _ => exact newFlags
  | _ => exact flags

theorem marker_effect (kept : SessionsKept cfg s) (order : s.guest.clock ≤ now)
    (effect : SessionEffect cfg s now action core) :
    ∀ e, core.inviteInvalidAfter.entries () = some e →
      e.value ≤ now ∧ e.deadline = some (e.value + 24 * 3600 * 1000) := by
  have markers : ∀ e, s.guest.cache.inviteInvalidAfter.entries () = some e →
      e.value ≤ now ∧ e.deadline = some (e.value + 24 * 3600 * 1000) := by
    intro e there
    obtain ⟨past, deadline⟩ := kept.marker e there
    exact ⟨Nat.le_trans past order, deadline⟩
  cases effect with
  | revoked _ =>
    intro e there
    rw [Cache.setWithTtl, entries_put_self] at there
    cases there
    exact ⟨Nat.le_refl _, rfl⟩
  | _ => exact markers

theorem cut_effect (kept : SessionsKept cfg s) (effect : SessionEffect cfg s now action core) :
    ∀ p ∈ core.cut, p ∈ core.issued := by
  cases effect with
  | verified => exact fun p there => List.mem_cons_of_mem _ (kept.cut p there)
  | rejected _ => exact fun p there => there
  | resent _ => exact fun p there => there
  | revoked _ => exact fun p there => there
  | _ => exact kept.cut

end Effect

theorem sessionsKept_step (kept : SessionsKept cfg s) (moved : Moved cfg s l t) :
    SessionsKept cfg t := by
  obtain ⟨order, clock, turn, -, effect⟩ := moved
  constructor
  · rw [clock, turn]
    exact issued_effect kept order effect
  · rw [turn]
    exact current_effect kept effect
  · rw [turn]
    exact revoked_effect kept order effect
  · rw [clock]
    exact marker_effect kept order effect
  · exact cut_effect kept effect

theorem dead_step (hours : cfg.sessionMaxHours ≤ 24) (kept : SessionsKept cfg s)
    (issued : p ∈ s.issued) (moved : Moved cfg s l t) (dead : Dead s l.now p) :
    Dead t l.now p := by
  obtain ⟨now, action⟩ := l
  obtain ⟨order, -, -, -, effect⟩ := moved
  obtain ⟨core, same⟩ : ∃ core, t.core = core := ⟨_, rfl⟩
  rw [same] at effect
  have revoked : t.guest.cache.revoked = core.revoked := congrArg SessionCore.revoked same
  have marker : t.guest.cache.inviteInvalidAfter = core.inviteInvalidAfter :=
    congrArg SessionCore.inviteInvalidAfter same
  obtain ⟨lifetime, past, -⟩ := kept.issued p issued
  have ttl : sessionTtlSeconds cfg ≤ 24 * 3600 := Nat.mul_le_mul_right 3600 hours
  dsimp only at dead ⊢
  cases dead with
  | expired past => exact .expired past
  | @revoked d flag lasts =>
    have flagged : ∃ d', (s.guest.cache.revokeCurrent cfg now).revoked.entries p.jti =
        some ⟨(), some d'⟩ ∧ p.exp * 1000 ≤ d' := by
      rw [revokeCurrent_entries]
      split
      · exact ⟨_, rfl, outlives lifetime (Nat.le_refl _) (Nat.le_trans past order)⟩
      · exact ⟨d, flag, lasts⟩
    obtain ⟨d', flag', lasts'⟩ := flagged
    cases effect with
    | rejected _ => exact .revoked (by rw [revoked]; exact flag') lasts'
    | resent _ => exact .revoked (by rw [revoked]; exact flag') lasts'
    | revoked _ => exact .revoked (by rw [revoked]; exact flag') lasts'
    | _ => exact .revoked (by rw [revoked]; exact flag) lasts
  | @outdated m d there older lasts =>
    cases effect with
    | revoked _ =>
      have reached : m ≤ now := Nat.le_trans (kept.marker _ there).1 order
      have put : t.guest.cache.inviteInvalidAfter.entries () =
          some ⟨now, some (now + 24 * 3600 * 1000)⟩ := by
        rw [marker]
        exact entries_put_self _
      refine .outdated put (Nat.lt_of_lt_of_le older reached) ?_
      exact outlives lifetime ttl (Nat.le_trans past order)
    | _ => exact .outdated (by rw [marker]; exact there) older lasts

theorem issued_kept (moved : Moved cfg s l t) (there : p ∈ s.issued) : p ∈ t.issued := by
  obtain ⟨now, action⟩ := l
  obtain ⟨-, -, -, -, effect⟩ := moved
  obtain ⟨core, same⟩ : ∃ core, t.core = core := ⟨_, rfl⟩
  rw [same] at effect
  rw [show t.issued = core.issued from congrArg SessionCore.issued same]
  cases effect with
  | verified => exact List.mem_cons_of_mem _ there
  | _ => exact there

theorem cutOff_of_dead (hours : cfg.sessionMaxHours ≤ 24) (kept : SessionsKept cfg s)
    (dead : ∀ p ∈ s.cut, Dead s s.guest.clock p) : CutOff cfg s := by
  intro moves t run p there now order passes
  let Stays (a : GuestLedger) : Prop :=
    SessionsKept cfg a ∧ p ∈ a.issued ∧ Dead a a.guest.clock p
  have keeps : Stays t := by
    refine run_invariant run ⟨kept, kept.cut p there, dead p there⟩ ?_
    intro a l b inv step
    obtain ⟨kept, issued, dead⟩ := inv
    have moved : Moved cfg a l b := step.moved
    refine ⟨sessionsKept_step kept moved, issued_kept moved issued, ?_⟩
    rw [moved.clock]
    exact dead_step hours kept issued moved (dead.later moved.order)
  exact (keeps.2.2.later order).refused passes.1

theorem cutOff_next (safe : CutOff cfg s) (step : GuestStep cfg s l t) (same : t.cut = s.cut) :
    CutOff cfg t := by
  intro moves u run
  rw [same]
  exact safe _ u ((Run.nil.snoc step).append run)

theorem Ends.managed {guest : GuestData} {action : GuestAction} (ends : Ends cfg guest action) :
    ∃ userId, mayManage cfg guest userId := by
  cases action with
  | reject userId => exact ⟨userId, ends⟩
  | revokeAccess userId => exact ⟨userId, ends⟩
  | resendInvite userId secret =>
    obtain ⟨_, allowed⟩ := ends
    obtain ⟨meeting, managed, -⟩ := bind_eq_ok.mp allowed
    exact ⟨userId, meeting, managed⟩
  | _ => exact absurd ends id

theorem ends_effect (moved : Moved cfg s l t) (ends : Ends cfg s.guest l.action) :
    t.cut = s.issued ∧ t.issued = s.issued ∧
    t.guest.cache.revoked = (s.guest.cache.revokeCurrent cfg l.now).revoked ∧
    t.guest.cache.inviteInvalidAfter = s.guest.cache.inviteInvalidAfter ∧ ¬ Revokes l.action ∨
    t.cut = s.issued ∧ t.issued = s.issued ∧
    t.guest.cache.revoked = (s.guest.cache.revokeCurrent cfg l.now).revoked ∧
    t.guest.cache.inviteInvalidAfter =
      s.guest.cache.inviteInvalidAfter.setWithTtl l.now () l.now (24 * 3600) ∧
      Revokes l.action := by
  obtain ⟨now, action⟩ := l
  obtain ⟨-, -, -, -, effect⟩ := moved
  obtain ⟨core, same⟩ : ∃ core, t.core = core := ⟨_, rfl⟩
  rw [same] at effect
  rw [show t.cut = core.cut from congrArg SessionCore.cut same,
    show t.issued = core.issued from congrArg SessionCore.issued same,
    show t.guest.cache.revoked = core.revoked from congrArg SessionCore.revoked same,
    show t.guest.cache.inviteInvalidAfter = core.inviteInvalidAfter from
      congrArg SessionCore.inviteInvalidAfter same]
  cases effect with
  | rejected _ => exact Or.inl ⟨rfl, rfl, rfl, rfl, id⟩
  | resent _ => exact Or.inl ⟨rfl, rfl, rfl, rfl, id⟩
  | revoked _ => exact Or.inr ⟨rfl, rfl, rfl, rfl, trivial⟩
  | idle goes_on => exact absurd ends goes_on
  | _ => exact absurd ends id

theorem admit_admits {userId : Nat} (allowed : mayManage cfg s.guest userId) :
    s.after cfg now (.admitGuest userId) =
      { s.tick now { s.guest with cache := s.guest.cache.admitGuest } with verdict := .welcome } := by
  obtain ⟨meeting, found⟩ := allowed
  simp [GuestLedger.after, admitGuest, found, bind, Except.bind, pure, Except.pure]

theorem not_cutOff_of_good (cut : p ∈ s.cut) (good : sessionGuard s s.guest.clock p = .ok ())
    {userId : Nat} (allowed : mayManage cfg s.guest userId) : ¬ CutOff cfg s := by
  intro safe
  have step : GuestStep cfg s ⟨s.guest.clock, .admitGuest userId⟩ _ := ⟨Nat.le_refl _, rfl⟩
  refine safe _ _ (Run.nil.snoc step) p cut s.guest.clock ?_ ?_
  · rw [step.moved.clock]
  · rw [admit_admits allowed]
    exact ⟨good, rfl⟩

theorem ends_exact (hours : cfg.sessionMaxHours ≤ 24) (kept : SessionsKept cfg s)
    (step : GuestStep cfg s l t) (ends : Ends cfg s.guest l.action) :
    CutOff cfg t ↔ EndsAll cfg s l := by
  have moved : Moved cfg s l t := step.moved
  have marked := ends_effect moved ends
  have cut : t.cut = s.issued := by rcases marked with h | h <;> exact h.1
  have issued : t.issued = s.issued := by rcases marked with h | h <;> exact h.2.1
  have revoked : t.guest.cache.revoked = (s.guest.cache.revokeCurrent cfg l.now).revoked := by
    rcases marked with h | h <;> exact h.2.2.1
  constructor
  · intro safe _ p there good
    by_contra free
    obtain ⟨notCurrent, recent⟩ := not_or.mp free
    obtain ⟨userId, meeting, allowed⟩ := ends.managed
    have still : mayManage cfg t.guest userId := by
      refine ⟨meeting, ?_⟩
      rw [← allowed]
      simp only [assertOwnershipOrAdmin, moved.meeting]
    refine not_cutOff_of_good (cut ▸ there) ?_ still safe
    obtain ⟨-, unexpired, unrevoked, fresh⟩ := sessionGuard_ok_iff.mp good
    rw [moved.clock]
    refine sessionGuard_ok_iff.mpr ⟨issued ▸ there, unexpired, ?_, ?_⟩
    · rw [← unrevoked, revoked, Cache.get, Cache.get, Cache.entry?, Cache.entry?,
        revokeCurrent_entries, if_neg notCurrent]
    · intro m found
      rcases marked with ⟨-, -, -, marker, -⟩ | ⟨-, -, -, marker, revokes⟩
      · exact fresh m (marker ▸ found)
      · rw [marker, get_setWithTtl, if_pos rfl] at found
        split at found
        · cases found
          exact Nat.le_of_not_lt fun older => recent ⟨revokes, older⟩
        · cases found
  · intro all
    refine cutOff_of_dead hours (sessionsKept_step kept moved) ?_
    intro p there
    rw [cut] at there
    rw [moved.clock]
    obtain ⟨lifetime, past, -⟩ := kept.issued p there
    have ttl : sessionTtlSeconds cfg ≤ 24 * 3600 := Nat.mul_le_mul_right 3600 hours
    by_cases good : sessionGuard s l.now p = .ok ()
    · rcases all ends p there good with current | ⟨revokes, older⟩
      · refine .revoked (d := l.now + sessionTtlSeconds cfg * 1000) ?_ ?_
        · rw [revoked, revokeCurrent_entries, if_pos current]
        · exact outlives lifetime (Nat.le_refl _) (Nat.le_trans past moved.order)
      · rcases marked with ⟨-, -, -, -, other⟩ | ⟨-, -, -, marker, -⟩
        · exact absurd revokes other
        · have put : t.guest.cache.inviteInvalidAfter.entries () =
              some ⟨l.now, some (l.now + 24 * 3600 * 1000)⟩ := by
            rw [marker]
            exact entries_put_self _
          exact .outdated put older (outlives lifetime ttl (Nat.le_trans past moved.order))
    · exact dead_step hours kept there moved (dead_of_refused hours kept there good)

theorem goes_on_cut (moved : Moved cfg s l t) (goes_on : ¬ Ends cfg s.guest l.action) :
    t.cut = s.cut := by
  obtain ⟨now, action⟩ := l
  obtain ⟨-, -, -, -, effect⟩ := moved
  obtain ⟨core, same⟩ : ∃ core, t.core = core := ⟨_, rfl⟩
  rw [same] at effect
  rw [show t.cut = core.cut from congrArg SessionCore.cut same]
  cases effect with
  | rejected ends => exact absurd ends goes_on
  | resent ends => exact absurd ends goes_on
  | revoked ends => exact absurd ends goes_on
  | _ => rfl

/-- Once one of these calls has returned, the earlier tokens are worth nothing whatever follows,
    throughout a run, exactly when each of them meets no good token but the current one, or, in the
    case of a revocation, none but those that its marker outdates. -/
theorem earlier_sessions_ended_iff {guest : GuestData} {moves : List (Move GuestLedger GuestTurn)}
    (hours : cfg.sessionMaxHours ≤ 24)
    (run : Run (GuestStep cfg) (GuestLedger.start guest) moves s) :
    (∀ a ∈ visited (GuestLedger.start guest) moves, CutOff cfg a) ↔
      Heeds (EndsAll cfg) moves := by
  refine states_safe_iff (SessionsKept cfg) (CutOff cfg) run (sessionsKept_start guest) ?_ ?_ ?_
  · exact cutOff_of_dead hours (sessionsKept_start guest) nofun
  · intro a l b kept step
    exact sessionsKept_step kept step.moved
  · intro a l b kept safe step
    by_cases ends : Ends cfg a.guest l.action
    · exact ends_exact hours kept step ends
    · refine iff_of_true (cutOff_next safe step (goes_on_cut step.moved ends)) ?_
      exact fun there => absurd there ends

end Cuts

section Runs

instance (cfg : GuestAccessConfig) (guest : GuestData) (action : GuestAction) :
    Decidable (Ends cfg guest action) :=
  match action with
  | .reject userId | .revokeAccess userId =>
    inferInstanceAs (Decidable (∃ meeting, assertOwnershipOrAdmin cfg guest userId = .ok meeting))
  | .resendInvite userId _ =>
    inferInstanceAs (Decidable (∃ meeting, resendable cfg guest userId = .ok meeting))
  | .requestOtp _ _ | .verifyOtp _ _ | .admitGuest _ | .getGuestMeetingView _ =>
    inferInstanceAs (Decidable False)

instance (action : GuestAction) : Decidable (Revokes action) :=
  match action with
  | .revokeAccess _ => inferInstanceAs (Decidable True)
  | .requestOtp _ _ | .verifyOtp _ _ | .admitGuest _ | .reject _ | .resendInvite _ _
  | .getGuestMeetingView _ => inferInstanceAs (Decidable False)

instance (cfg : GuestAccessConfig) (s : GuestLedger) (l : GuestTurn) : Decidable (EndsAll cfg s l) :=
  inferInstanceAs (Decidable (_ → ∀ p ∈ s.issued, _))

def guestTrail (turns : List GuestTurn) : List (Move GuestLedger GuestTurn) :=
  trail (fun s l => s.after shippedConfig l.now l.action) (GuestLedger.start invited) turns

def twoDevices : List GuestTurn :=
  [⟨3600000, .requestOtp "123456" "000000"⟩, ⟨3600000, .verifyOtp "123456" "000000"⟩,
    ⟨3600000, .requestOtp "123456" "000000"⟩, ⟨3600000, .verifyOtp "123456" "000000"⟩,
    ⟨3600000, .admitGuest 1⟩, ⟨3600000, .resendInvite 1 "000000"⟩]

theorem first_device_goes_on : ∃ moves s,
    Run (GuestStep shippedConfig) (GuestLedger.start invited) moves s ∧
      ¬ ∀ a ∈ visited (GuestLedger.start invited) moves, CutOff shippedConfig a := by
  have allowed : Heeds (fun s l => s.guest.clock ≤ l.now) (guestTrail twoDevices) := by
    decide +kernel
  have run := run_trail allowed
  refine ⟨_, _, run, ?_⟩
  intro safe
  have last : twoDevices.foldl (fun s l => s.after shippedConfig l.now l.action)
      (GuestLedger.start invited) ∈ visited (GuestLedger.start invited) (guestTrail twoDevices) :=
    List.mem_of_getElem? (i := 6) rfl
  refine safe _ last [] _ .nil ⟨1, 3600, 18000⟩ ?_ 3600000 ?_ ⟨?_, ?_⟩ <;> decide +kernel

def oneDevice : List GuestTurn :=
  [⟨3600000, .requestOtp "123456" "000000"⟩, ⟨3600000, .verifyOtp "123456" "000000"⟩,
    ⟨3600000, .admitGuest 1⟩, ⟨3600000, .reject 1⟩, ⟨3600000, .requestOtp "123456" "000000"⟩,
    ⟨3600000, .verifyOtp "123456" "000000"⟩, ⟨3600500, .revokeAccess 1⟩]

theorem one_device_ended : ∃ moves s,
    Run (GuestStep shippedConfig) (GuestLedger.start invited) moves s ∧ moves.length = 7 ∧
      ∀ a ∈ visited (GuestLedger.start invited) moves, CutOff shippedConfig a := by
  have allowed : Heeds (fun s l => s.guest.clock ≤ l.now) (guestTrail oneDevice) := by
    decide +kernel
  have heeds : Heeds (EndsAll shippedConfig) (guestTrail oneDevice) := by
    decide +kernel
  have run := run_trail allowed
  exact ⟨_, _, run, rfl, (earlier_sessions_ended_iff (by decide) run).mpr heeds⟩

end Runs
end GuestAccess
