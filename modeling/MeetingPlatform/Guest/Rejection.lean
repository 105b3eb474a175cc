import MeetingPlatform.Guest.Cutoff

/- A guest whom the host has turned away. The rejection is one value of the lobby status, and the
   next successful verification writes another one over it. -/
namespace GuestAccess
open MeetingBooking ExpiringStore Guards LabelledRuns

section Verdicts
variable (cfg : GuestAccessConfig)

structure VerdictKept (s : GuestLedger) : Prop where
  rejected : s.verdict = .rejected → s.guest.cache.lobbyStatus = some .rejected
  verifiedSince : s.verdict = .verifiedSince →
    s.guest.cache.lobbyStatus = some .waiting ∧ cfg.lobbyEnabled = true ∨
    s.guest.cache.lobbyStatus = some .admitted ∧ (cfg.lobbyEnabled = true →
      ∀ meeting, s.guest.meeting = some meeting → meeting.startTime ≤ s.guest.clock)

def StaysOut (s : GuestLedger) (l : GuestTurn) (_ : GuestLedger) : Prop :=
  ∀ payload, l.action = .getGuestMeetingView payload →
    (getGuestMeetingView cfg s l.now payload).2 = .ok () → s.verdict = .welcome

/-- A guest who has verified a code since the rejection comes with no good token, except to a
    meeting with a lobby that has not begun. -/
def KeptWaiting (s : GuestLedger) (l : GuestTurn) : Prop :=
  ∀ payload, l.action = .getGuestMeetingView payload → s.verdict = .verifiedSince →
    sessionGuard s l.now payload = .ok () → ∀ meeting, meetingScopeGuard cfg s l.now = .ok meeting →
      cfg.lobbyEnabled = true ∧ l.now < meeting.startTime

end Verdicts

section Steps
variable {cfg : GuestAccessConfig} {s t : GuestLedger} {l : GuestTurn} {now : Nat}

theorem verdictKept_start (guest : GuestData) : VerdictKept cfg (GuestLedger.start guest) where
  rejected := by simp [GuestLedger.start]
  verifiedSince := by simp [GuestLedger.start]

theorem verdictKept_step (kept : VerdictKept cfg s) (moved : Moved cfg s l t) :
    VerdictKept cfg t := by
  obtain ⟨now, action⟩ := l
  obtain ⟨order, clock, -, meeting, effect⟩ := moved
  obtain ⟨core, same⟩ : ∃ core, t.core = core := ⟨_, rfl⟩
  rw [same] at effect
  have status : t.guest.cache.lobbyStatus = core.lobbyStatus := congrArg SessionCore.lobbyStatus same
  have verdict : t.verdict = core.verdict := congrArg SessionCore.verdict same
  have later : s.verdict = .verifiedSince →
      s.guest.cache.lobbyStatus = some .waiting ∧ cfg.lobbyEnabled = true ∨
      s.guest.cache.lobbyStatus = some .admitted ∧ (cfg.lobbyEnabled = true →
        ∀ meeting, s.guest.meeting = some meeting → meeting.startTime ≤ now) := by
    intro since
    rcases kept.verifiedSince since with waiting | ⟨admitted, started⟩
    · exact Or.inl waiting
    · refine Or.inr ⟨admitted, ?_⟩
      intro lobby meeting there
      exact Int.le_trans (started lobby meeting there) (Int.ofNat_le.mpr order)
  constructor
  · rw [status, verdict]
    cases effect with
    | verified =>
      intro turned
      change s.verdict.verify = .rejected at turned
      cases before : s.verdict <;> simp [before, HostVerdict.verify] at turned
    | admitted => simp
    | rejected _ => simp
    | resent _ => simp
    | revoked _ => exact kept.rejected
    | autoAdmitted _ waiting _ =>
      intro turned
      have there := kept.rejected turned
      rw [waiting] at there
      cases there
    | idle _ => exact kept.rejected
  · rw [status, verdict, meeting, clock]
    cases effect with
    | verified =>
      intro _
      by_cases lobby : cfg.lobbyEnabled = true
      · exact Or.inl ⟨by simp [lobbyEntry, lobby], lobby⟩
      · exact Or.inr ⟨by simp [lobbyEntry, lobby], fun on => absurd on lobby⟩
    | admitted => simp
    | rejected _ => simp
    | resent _ => simp
    | revoked _ => exact later
    | @autoAdmitted _ meeting found _ started =>
      intro _
      refine Or.inr ⟨rfl, ?_⟩
      intro _ other there
      obtain rfl := Option.some.inj (found.symm.trans there)
      exact started
    | idle _ => exact later

theorem view_ok_iff {payload : GuestJwtPayload} :
    (getGuestMeetingView cfg s now payload).2 = .ok () ↔
      sessionGuard s now payload = .ok () ∧ ∃ meeting, meetingScopeGuard cfg s now = .ok meeting ∧
        (s.guest.cache.lobbyStatus = some .admitted ∨
          s.guest.cache.lobbyStatus = some .waiting ∧ meeting.startTime ≤ now) := by
  unfold getGuestMeetingView
  cases session : sessionGuard s now payload with
  | error e => simp
  | ok u =>
    cases scope : meetingScopeGuard cfg s now with
    | error e => simp
    | ok meeting =>
      by_cases auto : s.guest.cache.lobbyStatus = some .waiting ∧ meeting.startTime ≤ now
      · simp [getStatusWithAutoAdmit, assertAdmitted_ok_iff, auto]
      · simp only [getStatusWithAutoAdmit, if_neg auto, assertAdmitted_ok_iff]
        simp [auto]

theorem scope_meeting {meeting : Meeting} (scope : meetingScopeGuard cfg s now = .ok meeting) :
    s.guest.meeting = some meeting := by
  simp only [meetingScopeGuard, bind_eq_ok, expect_eq_ok, require_eq_ok, pure_eq_ok] at scope
  obtain ⟨_, found, _, -, _, -, same⟩ := scope
  rw [same] at found
  exact (Option.filter_eq_some_iff.mp found).1

theorem staysOut_exact (kept : VerdictKept cfg s) (moved : Moved cfg s l t) :
    StaysOut cfg s l t ↔ KeptWaiting cfg s l := by
  constructor
  · intro out payload asks since session meeting scope
    by_contra free
    have opened : s.verdict = .welcome := by
      refine out payload asks (view_ok_iff.mpr ⟨session, meeting, scope, ?_⟩)
      rcases kept.verifiedSince since with ⟨waiting, lobby⟩ | ⟨admitted, -⟩
      · exact Or.inr ⟨waiting, Int.not_lt.mp fun early => free ⟨lobby, early⟩⟩
      · exact Or.inl admitted
    rw [since] at opened
    cases opened
  · intro waits payload asks given
    obtain ⟨session, meeting, scope, lobbyStatus⟩ := view_ok_iff.mp given
    cases verdict : s.verdict with
    | welcome => rfl
    | rejected =>
      have status := kept.rejected verdict
      rcases lobbyStatus with admitted | ⟨waiting, -⟩
      · rw [status] at admitted
        cases admitted
      · rw [status] at waiting
        cases waiting
    | verifiedSince =>
      obtain ⟨lobby, early⟩ := waits payload asks verdict session meeting scope
      rcases lobbyStatus with admitted | ⟨-, started⟩
      · rcases kept.verifiedSince verdict with ⟨waiting, -⟩ | ⟨-, started⟩
        · rw [waiting] at admitted
          cases admitted
        · have := started lobby meeting (scope_meeting scope)
          have := Int.ofNat_le.mpr moved.order
          omega
      · omega

/-- A rejected guest gets no content before the host lets the guest in again, throughout a run,
    exactly when nobody who has verified a code since the rejection comes with a good token, unless
    the lobby is on and the meeting has not begun. -/
theorem rejected_stays_out_iff {guest : GuestData} {moves : List (Move GuestLedger GuestTurn)}
    (run : Run (GuestStep cfg) (GuestLedger.start guest) moves s) :
    (∀ m ∈ moves, StaysOut cfg m.before m.label m.after) ↔ Heeds (KeptWaiting cfg) moves := by
  refine run_good_iff (VerdictKept cfg) (StaysOut cfg) run (verdictKept_start guest) ?_ ?_
  · intro a l b kept step _
    exact verdictKept_step kept step.moved
  · intro a l b kept step
    exact staysOut_exact kept step.moved

end Steps

section Runs

instance (cfg : GuestAccessConfig) (s : GuestLedger) (l : GuestTurn) :
    Decidable (KeptWaiting cfg s l) :=
  match l with
  | ⟨now, .getGuestMeetingView payload⟩ =>
    decidable_of_iff (s.verdict = .verifiedSince → sessionGuard s now payload = .ok () →
        ∀ meeting ∈ (meetingScopeGuard cfg s now).toOption,
          cfg.lobbyEnabled = true ∧ now < meeting.startTime) <| by
      cases scope : meetingScopeGuard cfg s now <;> simp [KeptWaiting, scope, Except.toOption]
  | ⟨_, .requestOtp _ _⟩ | ⟨_, .verifyOtp _ _⟩ | ⟨_, .admitGuest _⟩ | ⟨_, .reject _⟩
  | ⟨_, .resendInvite _ _⟩ | ⟨_, .revokeAccess _⟩ => .isTrue nofun

def turnedAway : List GuestTurn :=
  [⟨1800000, .requestOtp "123456" "000000"⟩, ⟨1800000, .verifyOtp "123456" "000000"⟩,
    ⟨1800000, .reject 1⟩, ⟨1900000, .requestOtp "123456" "000000"⟩,
    ⟨1900000, .verifyOtp "123456" "000000"⟩]

theorem rejection_washed_out : ∃ moves s,
    Run (GuestStep shippedConfig) (GuestLedger.start invited) moves s ∧
      ¬ ∀ m ∈ moves, StaysOut shippedConfig m.before m.label m.after := by
  have allowed : Heeds (fun s l => s.guest.clock ≤ l.now)
      (guestTrail (turnedAway ++ [⟨3600000, .getGuestMeetingView ⟨4, 1900, 16300⟩⟩])) := by
    decide +kernel
  have run := run_trail allowed
  refine ⟨_, _, run, ?_⟩
  intro out
  have last : ∃ m ∈ guestTrail (turnedAway ++ [⟨3600000, .getGuestMeetingView ⟨4, 1900, 16300⟩⟩]),
      m.label = ⟨3600000, .getGuestMeetingView ⟨4, 1900, 16300⟩⟩ ∧
      (getGuestMeetingView shippedConfig m.before 3600000 ⟨4, 1900, 16300⟩).2 = .ok () ∧
      m.before.verdict ≠ .welcome := by
    refine ⟨_, List.mem_of_getElem? (i := 5) rfl, rfl, ?_, ?_⟩ <;> decide +kernel
  obtain ⟨m, there, label, given, standing⟩ := last
  refine standing (out m there ⟨4, 1900, 16300⟩ ?_ ?_)
  · rw [label]
  · rw [label]
    exact given

theorem rejected_guest_waits : ∃ moves s,
    Run (GuestStep shippedConfig) (GuestLedger.start invited) moves s ∧ moves.length = 6 ∧
      ∀ m ∈ moves, StaysOut shippedConfig m.before m.label m.after := by
  have allowed : Heeds (fun s l => s.guest.clock ≤ l.now)
      (guestTrail (turnedAway ++ [⟨3540000, .getGuestMeetingView ⟨4, 1900, 16300⟩⟩])) := by
    decide +kernel
  have heeds : Heeds (KeptWaiting shippedConfig)
      (guestTrail (turnedAway ++ [⟨3540000, .getGuestMeetingView ⟨4, 1900, 16300⟩⟩])) := by
    decide +kernel
  have run := run_trail allowed
  exact ⟨_, _, run, rfl, (rejected_stays_out_iff run).mpr heeds⟩

end Runs
end GuestAccess
