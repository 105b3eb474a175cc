import MeetingPlatform.Guest.Calls

/- Guesses at the codes of one invitation. The counter of the wrong ones is incremented after the
   code has been compared and reset after a new code has been stored, both in accesses of
   their own. -/
namespace GuestAccess
open ExpiringStore LabelledRuns CallPools

section Statements
variable (cfg : GuestAccessConfig)

/-- Each code gets as many wrong guesses as are allowed at most, and none is accepted while the
    lock is shut. -/
structure GuessesBounded (s : GuestState) : Prop where
  guesses : ∀ code, s.log.wrong.count code ≤ cfg.otpMaxVerifyAttempts
  shut : s.log.breaches = 0

/-- A guess is compared while the codes are not blocked and no other call is between a comparison and
    its last write, or between the two writes of a new code; no code is stored meanwhile;
    and a code does not outlive the counter of its wrong guesses. -/
def OneAtATime (s : GuestState) (now : Nat) : GuestCall → Prop
  | .verify _ (.unblocked _) => (s.guest.cache.otp.get now ()).isSome = true →
      s.log.verifying = [] ∧ s.log.renewing = [] ∧ s.guest.cache.otpBlocked.get now () = none
  | .verify _ (.failed _ code) => ∃ stored ∈ s.guest.cache.otp.get now (), stored.code = code
  | .verify _ (.counted _ _) => ∀ e ∈ s.guest.cache.otp.entries (),
      ∃ deadline ∈ e.deadline, deadline ≤ now + cfg.otpBlockSeconds * 1000
  | .request (.generated _) => s.log.verifying = []
  | _ => True

instance (s : GuestState) (now : Nat) (c : GuestCall) : Decidable (OneAtATime cfg s now c) :=
  match c with
  | .verify _ (.unblocked _) => inferInstanceAs (Decidable (_ → _ ∧ _ ∧ _))
  | .verify _ (.failed _ _) => inferInstanceAs (Decidable (∃ stored ∈ s.guest.cache.otp.get now (), _))
  | .verify _ (.counted _ _) => inferInstanceAs
      (Decidable (∀ e ∈ s.guest.cache.otp.entries (), ∃ deadline ∈ e.deadline, _))
  | .request (.generated _) => inferInstanceAs (Decidable (_ = _))
  | .verify _ (.started _ _) | .verify _ (.resolved _) | .verify _ (.blocking _)
  | .verify _ (.blocked _) | .verify _ (.passed _) | .verify _ (.otpDeleted _)
  | .request (.started _ _) | .request (.resolved _) | .request (.unblocked _)
  | .request (.counted _ _) | .request (.stored _) | .join _ _ | .revoke _ | .resend _
  | .changeMeeting _ => inferInstanceAs (Decidable True)

end Statements

section Counters
variable {counters : Cache Unit Nat} {wrong : List Nat} {e : Entry StoredOtp} {pending now : Nat}

/-- The counter has all wrong guesses at a code but the pending ones, for as long as the code lives. -/
def Covered (counters : Cache Unit Nat) (wrong : List Nat) (e : Entry StoredOtp) (pending : Nat) :
    Prop :=
  match counters.entries () with
  | none => wrong.count e.value.code ≤ pending
  | some counter => 0 < counter.value ∧ (∀ now, e.Live now → counter.Live now) ∧
      wrong.count e.value.code ≤ counter.value + pending

theorem covered_reset (unguessed : wrong.count e.value.code = 0) :
    Covered (counters.del ()) wrong e 0 := by
  simp only [Covered, Cache.del, entries_put_self]
  omega

theorem Covered.guess (covered : Covered counters wrong e 0) :
    Covered counters (e.value.code :: wrong) e 1 := by
  unfold Covered at covered ⊢
  rw [List.count_cons_self]
  cases there : counters.entries () with
  | none =>
    rw [there] at covered
    exact Nat.succ_le_succ covered
  | some counter =>
    rw [there] at covered
    obtain ⟨counted, outlives, few⟩ := covered
    exact ⟨counted, outlives, Nat.succ_le_succ few⟩

theorem Covered.incr (covered : Covered counters wrong e 1) (live : e.Live now) :
    ∃ counter, (counters.incr now ()).entries () = some counter ∧
      (counters.incr now ()).get now () = some counter.value ∧
      (counter.value = 1 → counter.deadline = none) ∧ Covered (counters.incr now ()) wrong e 0 := by
  unfold Covered at covered
  cases there : counters.entries () with
  | none =>
    rw [there] at covered
    have new : (counters.incr now ()).entries () = some ⟨1, none⟩ := by
      simp [Cache.incr, Cache.entry?, there]
    refine ⟨_, new, get_eq_some.mpr ⟨_, new, live_without_deadline 1 now, rfl⟩,
      fun _ => rfl, ?_⟩
    simp only [Covered, new]
    exact ⟨Nat.one_pos, fun now _ => live_without_deadline 1 now, covered⟩
  | some counter =>
    rw [there] at covered
    obtain ⟨counted, outlives, few⟩ := covered
    have new : (counters.incr now ()).entries () = some ⟨counter.value + 1, counter.deadline⟩ := by
      simp [Cache.incr, Cache.entry?, there, Option.filter, outlives now live]
    refine ⟨_, new, get_eq_some.mpr ⟨_, new, outlives now live, rfl⟩, ?_, ?_⟩
    · intro first
      dsimp only at first
      omega
    · simp only [Covered, new]
      exact ⟨Nat.succ_pos _, outlives, by omega⟩

theorem covered_expire {attempts ttl : Nat} (new : counters.entries () = some ⟨attempts, none⟩)
    (counted : 0 < attempts) (few : wrong.count e.value.code ≤ attempts)
    (inTime : ∃ deadline ∈ e.deadline, deadline ≤ now + ttl * 1000) :
    Covered (counters.expire now () ttl) wrong e 0 := by
  have set : (counters.expire now () ttl).entries () = some ⟨attempts, some (now + ttl * 1000)⟩ := by
    simp [Cache.expire, Cache.entry?, new, live_without_deadline]
  simp only [Covered, set]
  refine ⟨counted, ?_, few⟩
  intro later live until_ same
  obtain ⟨deadline, there, early⟩ := inTime
  cases same
  exact Nat.lt_of_lt_of_le (live deadline there) early

end Counters

section Invariant
variable (cfg : GuestAccessConfig)

structure OtpView where
  log : CodeLog
  otp : Cache Unit StoredOtp
  otpAttempt : Cache Unit Nat
  otpBlocked : Cache Unit Unit

def GuestState.view (s : GuestState) : OtpView :=
  ⟨s.log, s.guest.cache.otp, s.guest.cache.otpAttempt, s.guest.cache.otpBlocked⟩

/-- The wrong guesses at a code that is stored are counted whenever no call is at its keys. -/
structure CodesKept (v : OtpView) (turn : Nat) : Prop where
  guesses : ∀ code, v.log.wrong.count code ≤ cfg.otpMaxVerifyAttempts
  shut : v.log.breaches = 0
  past : ∀ code ∈ v.log.wrong, code < turn
  issued : ∀ e ∈ v.otp.entries (), e.value.code < turn
  failing : v.log.lock = .failing → v.log.verifying ≠ []
  blocked : ∀ instant, v.log.lock = .blockedUntil instant →
    ∃ e ∈ v.otpBlocked.entries (), ∀ deadline ∈ e.deadline, instant ≤ deadline
  renewed : v.log.renewing ≠ [] → v.log.verifying = [] ∧
    ∀ e ∈ v.otp.entries (), v.log.wrong.count e.value.code = 0
  settled : v.log.verifying = [] → ∀ e ∈ v.otp.entries (),
    v.log.wrong.count e.value.code < cfg.otpMaxVerifyAttempts ∧
      (v.log.renewing = [] → Covered v.otpAttempt v.log.wrong e 0)

end Invariant

section Changes
variable {cfg : GuestAccessConfig} {v : OtpView} {turn later now : Nat}

theorem CodesKept.mono (kept : CodesKept cfg v turn) (order : turn ≤ later) :
    CodesKept cfg v later where
  guesses := kept.guesses
  shut := kept.shut
  past code there := Nat.lt_of_lt_of_le (kept.past code there) order
  issued e there := Nat.lt_of_lt_of_le (kept.issued e there) order
  failing := kept.failing
  blocked := kept.blocked
  renewed := kept.renewed
  settled := kept.settled

theorem CodesKept.store (kept : CodesKept cfg v turn) (some_guess : 1 ≤ cfg.otpMaxVerifyAttempts)
    (idle : v.log.verifying = []) (hash : String) (ttl : Nat) :
    CodesKept cfg { v with
      otp := v.otp.setWithTtl now () ⟨hash, turn⟩ ttl
      log := { v.log with renewing := turn :: v.log.renewing } } (turn + 1) := by
  have unguessed : v.log.wrong.count turn = 0 :=
    List.count_eq_zero.mpr fun there => Nat.lt_irrefl turn (kept.past turn there)
  have only : ∀ e ∈ (v.otp.setWithTtl now () ⟨hash, turn⟩ ttl).entries (), e.value.code = turn := by
    intro e there
    simp only [Cache.setWithTtl, entries_put_self, Option.mem_def, Option.some.injEq] at there
    rw [← there]
  constructor
  · exact kept.guesses
  · exact kept.shut
  · intro code there
    exact Nat.lt_succ_of_lt (kept.past code there)
  · intro e there
    rw [only e there]
    exact Nat.lt_succ_self turn
  · exact kept.failing
  · exact kept.blocked
  · intro _
    refine ⟨idle, ?_⟩
    intro e there
    dsimp only
    rw [only e there]
    exact unguessed
  · intro _ e there
    dsimp only
    rw [only e there, unguessed]
    exact ⟨some_guess, fun none_left => absurd none_left (List.cons_ne_nil _ _)⟩

theorem CodesKept.reset (kept : CodesKept cfg v turn) {code : Nat} (own : code ∈ v.log.renewing) :
    CodesKept cfg { v with
      otpAttempt := v.otpAttempt.del ()
      log := { v.log with renewing := v.log.renewing.filter fun other => other ≠ code } } turn := by
  obtain ⟨idle, unguessed⟩ := kept.renewed (List.ne_nil_of_mem own)
  constructor
  · exact kept.guesses
  · exact kept.shut
  · exact kept.past
  · exact kept.issued
  · exact kept.failing
  · exact kept.blocked
  · intro _
    exact ⟨idle, unguessed⟩
  · intro _ e there
    exact ⟨(kept.settled idle e there).1, fun _ => covered_reset (unguessed e there)⟩

theorem CodesKept.wrong (kept : CodesKept cfg v turn) (idle : v.log.verifying = [])
    (settled : v.log.renewing = []) {e : Entry StoredOtp} (there : e ∈ v.otp.entries ())
    {lock : OtpLock} (how : lock = .failing ∨ lock = v.log.lock) :
    CodesKept cfg { v with log := { v.log with
      wrong := e.value.code :: v.log.wrong, lock := lock, verifying := turn :: v.log.verifying } }
      (turn + 1) := by
  obtain ⟨few, -⟩ := kept.settled idle e there
  constructor
  · intro code
    dsimp only
    by_cases same : code = e.value.code
    · rw [same, List.count_cons_self]
      exact few
    · rw [List.count_cons_of_ne (Ne.symm same)]
      exact kept.guesses code
  · exact kept.shut
  · intro code guessed
    rcases List.mem_cons.mp guessed with rfl | old
    · exact Nat.lt_succ_of_lt (kept.issued e there)
    · exact Nat.lt_succ_of_lt (kept.past code old)
  · intro e there
    exact Nat.lt_succ_of_lt (kept.issued e there)
  · intro _
    exact List.cons_ne_nil _ _
  · intro instant same
    rcases how with fails | stays
    · exact absurd (fails.symm.trans same) nofun
    · exact kept.blocked instant (stays.symm.trans same)
  · intro renewing
    exact absurd settled renewing
  · intro none_left
    exact absurd none_left (List.cons_ne_nil _ _)

theorem CodesKept.unlocked (kept : CodesKept cfg v turn) (idle : v.log.verifying = [])
    (free : v.otpBlocked.get now () = none) : ¬ v.log.lock.Shut now := by
  cases same : v.log.lock with
  | unlocked => exact id
  | failing => exact absurd idle (kept.failing same)
  | blockedUntil instant =>
    intro early
    obtain ⟨e, there, lasts⟩ := kept.blocked instant same
    have found : v.otpBlocked.get now () = some e.value := by
      refine get_eq_some.mpr ⟨e, there, ?_, rfl⟩
      intro deadline set
      exact Nat.lt_of_lt_of_le early (lasts deadline set)
    rw [free] at found
    cases found

theorem CodesKept.right (kept : CodesKept cfg v turn) (settled : v.log.renewing = [])
    (code : Nat) : CodesKept cfg { v with log := { v.log with
      right := code :: v.log.right, verifying := turn :: v.log.verifying } } (turn + 1) where
  guesses := kept.guesses
  shut := kept.shut
  past code there := Nat.lt_succ_of_lt (kept.past code there)
  issued e there := Nat.lt_succ_of_lt (kept.issued e there)
  failing _ := List.cons_ne_nil _ _
  blocked := kept.blocked
  renewed renewing := absurd settled renewing
  settled none_left := absurd none_left (List.cons_ne_nil _ _)

theorem CodesKept.not_renewing (kept : CodesKept cfg v turn) {held : Nat}
    (alone : v.log.verifying = [held]) : v.log.renewing = [] := by
  by_contra renewing
  have idle := (kept.renewed renewing).1
  rw [alone] at idle
  cases idle

theorem CodesKept.count (kept : CodesKept cfg v turn) {held : Nat}
    (alone : v.log.verifying = [held]) (counters : Cache Unit Nat) :
    CodesKept cfg { v with otpAttempt := counters } turn where
  guesses := kept.guesses
  shut := kept.shut
  past := kept.past
  issued := kept.issued
  failing := kept.failing
  blocked := kept.blocked
  renewed := kept.renewed
  settled idle := absurd (alone.symm.trans idle) (List.cons_ne_nil _ _)

theorem CodesKept.delete (kept : CodesKept cfg v turn) :
    CodesKept cfg { v with otp := v.otp.del () } turn := by
  have gone : ∀ e, e ∉ (v.otp.del ()).entries () := by
    intro e there
    simp [Cache.del] at there
  constructor
  · exact kept.guesses
  · exact kept.shut
  · exact kept.past
  · intro e there
    exact absurd there (gone e)
  · exact kept.failing
  · exact kept.blocked
  · intro renewing
    exact ⟨(kept.renewed renewing).1, fun e there => absurd there (gone e)⟩
  · intro _ e there
    exact absurd there (gone e)

theorem CodesKept.block (kept : CodesKept cfg v turn) (ttl : Nat) :
    CodesKept cfg { v with
      otpBlocked := v.otpBlocked.setWithTtl now () () ttl
      log := { v.log with lock := .blockedUntil (now + ttl * 1000) } } turn := by
  constructor
  · exact kept.guesses
  · exact kept.shut
  · exact kept.past
  · exact kept.issued
  · exact nofun
  · intro instant same
    refine ⟨⟨(), some (now + ttl * 1000)⟩, by simp [Cache.setWithTtl], ?_⟩
    intro deadline set
    cases set
    cases same
    exact Nat.le_refl _
  · exact kept.renewed
  · exact kept.settled

theorem CodesKept.leave (kept : CodesKept cfg v turn) {held : Nat}
    (alone : v.log.verifying = [held]) (closed : v.log.lock ≠ .failing)
    (counted : ∀ e ∈ v.otp.entries (), v.log.wrong.count e.value.code < cfg.otpMaxVerifyAttempts ∧
      Covered v.otpAttempt v.log.wrong e 0) :
    CodesKept cfg { v with log := v.log.leave held } turn := by
  constructor
  · exact kept.guesses
  · exact kept.shut
  · exact kept.past
  · exact kept.issued
  · intro fails
    exact absurd fails closed
  · exact kept.blocked
  · intro renewing
    exact absurd (kept.not_renewing alone) renewing
  · intro _ e there
    exact ⟨(counted e there).1, fun _ => (counted e there).2⟩

end Changes

section Calls
variable (cfg : GuestAccessConfig)

def VerifyStage.mark? : VerifyStage → Option Nat
  | .started _ _ | .resolved _ | .unblocked _ => none
  | .failed turn _ | .counted turn _ | .blocking turn | .blocked turn | .passed turn
  | .otpDeleted turn => some turn

def GuestCall.mark? : GuestCall → Option Nat
  | .request (.stored code) => some code
  | .verify _ stage => stage.mark?
  | _ => none

def ApartMarks (c d : GuestCall) : Prop := ∀ mark, c.mark? = some mark → d.mark? ≠ some mark

def VerifyStage.Fits (v : OtpView) : VerifyStage → Prop
  | .started _ _ | .resolved _ | .unblocked _ => True
  | .failed turn _ => v.log.verifying = [turn] ∧ ∀ e ∈ v.otp.entries (),
      Covered v.otpAttempt v.log.wrong e 1 ∧
        (v.log.lock = .failing → cfg.otpMaxVerifyAttempts ≤ v.log.wrong.count e.value.code)
  | .counted turn attempts => v.log.verifying = [turn] ∧
      v.otpAttempt.entries () = some ⟨attempts, none⟩ ∧ 0 < attempts ∧
        (v.log.lock = .failing → cfg.otpMaxVerifyAttempts ≤ attempts) ∧
        ∀ e ∈ v.otp.entries (), v.log.wrong.count e.value.code ≤ attempts
  | .blocking turn => v.log.verifying = [turn]
  | .blocked turn | .passed turn => v.log.verifying = [turn] ∧ v.log.lock ≠ .failing
  | .otpDeleted turn => v.log.verifying = [turn] ∧ v.log.lock ≠ .failing ∧ v.otp.entries () = none

def CodeFits (s : GuestState) (c : GuestCall) : Prop :=
  (∀ mark, c.mark? = some mark → mark < s.guest.turn) ∧ match c with
    | .request (.stored code) => code ∈ s.log.renewing
    | .verify _ stage => stage.Fits cfg s.view
    | _ => True

/-- What an access may do to the codes while other calls are at their keys. -/
structure Spares (s : GuestState) (c : GuestCall) (t : GuestState) : Prop where
  turn : s.guest.turn ≤ t.guest.turn
  verifying : ∀ held, s.log.verifying = [held] → c.mark? ≠ some held → t.view = s.view
  renewing : ∀ code ∈ s.log.renewing, c.mark? ≠ some code → code ∈ t.log.renewing

/-- All that has to be known of an access. -/
structure Leaves (s : GuestState) (c : GuestCall) (t : GuestState) (rest : Option GuestCall) :
    Prop where
  kept : CodesKept cfg t.view t.guest.turn
  fits : ∀ c', rest = some c' → CodeFits cfg t c'
  marks : ∀ c', rest = some c' → ∀ mark, c'.mark? = some mark →
    c.mark? = some mark ∨ mark = s.guest.turn
  spares : Spares s c t

end Calls

section Frames
variable {cfg : GuestAccessConfig} {s t : GuestState} {c d : GuestCall} {stage : VerifyStage}

theorem held_of_mark {v : OtpView} {turn : Nat} (fits : stage.Fits cfg v)
    (own : stage.mark? = some turn) : v.log.verifying = [turn] := by
  cases stage with
  | started | resolved | unblocked => cases own
  | blocking held =>
    cases own
    exact fits
  | failed | counted | blocked | passed | otpDeleted =>
    cases own
    exact fits.1

theorem fits_unmarked (unmarked : c.mark? = none) : CodeFits cfg s c := by
  refine ⟨fun mark own => absurd (unmarked.symm.trans own) nofun, ?_⟩
  cases c with
  | request stage =>
    cases stage with
    | stored code => cases unmarked
    | _ => trivial
  | verify began stage =>
    cases stage with
    | started | resolved | unblocked => trivial
    | _ => cases unmarked
  | _ => trivial

theorem apart_unmarked (unmarked : c.mark? = none) : ApartMarks c d := by
  intro mark own
  rw [unmarked] at own
  cases own

theorem CodeFits.spared (fits : CodeFits cfg s d) (apart : ApartMarks c d)
    (spares : Spares s c t) : CodeFits cfg t d := by
  obtain ⟨past, here⟩ := fits
  refine ⟨fun mark own => Nat.lt_of_lt_of_le (past mark own) spares.turn, ?_⟩
  cases d with
  | request stage =>
    cases stage with
    | stored code => exact spares.renewing code here fun own => apart code own rfl
    | _ => trivial
  | verify began stage =>
    change stage.Fits cfg t.view
    cases mark : stage.mark? with
    | none => exact (fits_unmarked (c := .verify began stage) mark).2
    | some turn =>
      have alone : s.log.verifying = [turn] := held_of_mark here mark
      rw [spares.verifying turn alone fun own => apart turn own mark]
      exact here
  | _ => trivial

/-- An access that is not one to the keys of the code. -/
def Quiet (s t : GuestState) : Prop := t.view = s.view ∧ t.guest.turn = s.guest.turn + 1

theorem Quiet.kept (quiet : Quiet s t) (kept : CodesKept cfg s.view s.guest.turn) :
    CodesKept cfg t.view t.guest.turn := by
  rw [quiet.1, quiet.2]
  exact kept.mono (Nat.le_succ _)

theorem Quiet.spares (quiet : Quiet s t) : Spares s c t where
  turn := by
    rw [quiet.2]
    exact Nat.le_succ _
  verifying _ _ _ := quiet.1
  renewing code there _ := by
    have same : t.log = s.log := congrArg OtpView.log quiet.1
    rw [same]
    exact there

theorem Quiet.leaves {rest : Option GuestCall} (quiet : Quiet s t)
    (kept : CodesKept cfg s.view s.guest.turn)
    (unmarked : ∀ c', rest = some c' → c'.mark? = none) : Leaves cfg s c t rest where
  kept := quiet.kept kept
  fits c' same := fits_unmarked (unmarked c' same)
  marks c' same _ own := absurd ((unmarked c' same).symm.trans own) nofun
  spares := quiet.spares

theorem held_spares {held : Nat} (kept : CodesKept cfg s.view s.guest.turn)
    (alone : s.log.verifying = [held]) (own : c.mark? = some held)
    (order : s.guest.turn ≤ t.guest.turn) : Spares s c t where
  turn := order
  verifying other same away := by
    rw [alone] at same
    cases same
    exact absurd own away
  renewing code there _ := by
    have nobody : s.log.renewing = [] := kept.not_renewing alone
    rw [nobody] at there
    cases there

end Frames

section Accesses
variable {cfg : GuestAccessConfig} {s t : GuestState} {began : Option Nat} {stage : VerifyStage}
  {turn now : Nat}

theorem after_send {otp : String} {sendCount : Nat} {next : RequestStage}
    (same : afterSend cfg otp sendCount = some next) : next = .generated otp := by
  unfold afterSend at same
  split at same
  · cases same
  · cases same
    rfl

theorem request_unmarked {stage next : RequestStage} (waits : ∀ otp, stage ≠ .generated otp)
    (goes_on : (s.request cfg now stage).2 = some next) : (GuestCall.request next).mark? = none := by
  cases stage with
  | started secret otp =>
    simp only [GuestState.request] at goes_on
    split at goes_on
    · cases goes_on
      rfl
    · cases goes_on
  | resolved otp =>
    simp only [GuestState.request] at goes_on
    split at goes_on
    · cases goes_on
    · cases goes_on
      rfl
  | unblocked otp =>
    simp only [GuestState.request] at goes_on
    split at goes_on
    · cases goes_on
      rfl
    · rw [after_send goes_on]
      rfl
  | counted otp sendCount =>
    rw [after_send goes_on]
    rfl
  | generated otp => exact absurd rfl (waits otp)
  | stored code => cases goes_on

theorem request_leaves {stage : RequestStage} (some_guess : 1 ≤ cfg.otpMaxVerifyAttempts)
    (kept : CodesKept cfg s.view s.guest.turn) (fits : CodeFits cfg s (.request stage))
    (allowed : OneAtATime cfg s now (.request stage)) :
    Leaves cfg s (.request stage) (s.request cfg now stage).1
      ((s.request cfg now stage).2.map .request) := by
  cases stage with
  | started | resolved | unblocked | counted =>
    refine Quiet.leaves ⟨rfl, rfl⟩ kept (Option.forall_mem_map.mpr ?_)
    intro next goes_on
    exact request_unmarked (by simp) goes_on
  | generated otp =>
    have idle : s.log.verifying = [] := allowed
    constructor
    · exact kept.store some_guess idle (cfg.sha256 otp) cfg.otpTtlSeconds
    · intro c' same
      cases same
      refine ⟨?_, List.mem_cons_self⟩
      intro mark own
      cases own
      exact Nat.lt_succ_self _
    · intro c' same mark own
      cases same
      cases own
      exact Or.inr rfl
    · constructor
      · exact Nat.le_succ _
      · intro held alone
        rw [idle] at alone
        cases alone
      · intro code there _
        exact List.mem_cons_of_mem _ there
  | stored code =>
    have own : code ∈ s.view.log.renewing := fits.2
    have reset := kept.reset own
    constructor
    · exact reset.mono (Nat.le_succ s.guest.turn)
    · intro c' same
      cases same
    · intro c' same
      cases same
    · constructor
      · exact Nat.le_succ _
      · intro held alone
        have nobody : s.view.log.renewing = [] := kept.not_renewing alone
        rw [nobody] at own
        cases own
      · intro other there away
        refine List.mem_filter.mpr ⟨there, ?_⟩
        simp only [decide_eq_true_eq]
        intro same
        exact away (congrArg some same.symm)

theorem held_leaves {rest : Option VerifyStage} (kept : CodesKept cfg s.view s.guest.turn)
    (fits : CodeFits cfg s (.verify began stage)) (own : stage.mark? = some turn)
    (kept' : CodesKept cfg t.view t.guest.turn) (order : t.guest.turn = s.guest.turn + 1)
    (goes_on : ∀ next, rest = some next → next.mark? = some turn ∧ next.Fits cfg t.view) :
    Leaves cfg s (.verify began stage) t (afterVerify began stage rest) := by
  have alone : s.log.verifying = [turn] := held_of_mark fits.2 own
  constructor
  · exact kept'
  · intro c' same
    rcases after_verify same with ⟨next, here, rfl⟩ | rfl
    · obtain ⟨mark, fits'⟩ := goes_on next here
      refine ⟨?_, fits'⟩
      intro held own'
      have same_mark : turn = held := Option.some.inj (mark.symm.trans own')
      have past := fits.1 turn own
      omega
    · exact fits_unmarked rfl
  · intro c' same held own'
    rcases after_verify same with ⟨next, here, rfl⟩ | rfl
    · obtain ⟨mark, -⟩ := goes_on next here
      exact Or.inl (own.trans (mark.symm.trans own'))
    · cases own'
  · exact held_spares kept alone own (by omega)

theorem after_attempt {attempts : Nat} (kept : CodesKept cfg s.view s.guest.turn)
    (alone : s.log.verifying = [turn])
    (fails : s.log.lock = .failing → cfg.otpMaxVerifyAttempts ≤ attempts)
    (counted : ∀ e ∈ s.guest.cache.otp.entries (), s.log.wrong.count e.value.code ≤ attempts ∧
      Covered s.guest.cache.otpAttempt s.log.wrong e 0) :
    CodesKept cfg (s.afterAttempt cfg turn attempts).1.view
        (s.afterAttempt cfg turn attempts).1.guest.turn ∧
      (s.afterAttempt cfg turn attempts).1.guest.turn = s.guest.turn ∧
      ∀ next, (s.afterAttempt cfg turn attempts).2 = some next →
        next.mark? = some turn ∧ next.Fits cfg (s.afterAttempt cfg turn attempts).1.view := by
  unfold GuestState.afterAttempt
  split
  · refine ⟨kept, rfl, ?_⟩
    intro next same
    cases same
    exact ⟨rfl, alone⟩
  · rename_i few
    refine ⟨kept.leave alone (fun failing => few (fails failing)) ?_, rfl, nofun⟩
    intro e there
    obtain ⟨bound, covered⟩ := counted e there
    exact ⟨Nat.lt_of_le_of_lt bound (Nat.lt_of_not_le few), covered⟩

theorem compare_wrong (s : GuestState) (now : Nat) {otp : String} {stored : StoredOtp}
    (differs : cfg.sha256 otp ≠ stored.hash) :
    ∃ lock, (lock = .failing ∧
        cfg.otpMaxVerifyAttempts ≤ (stored.code :: s.log.wrong).count stored.code ∨
          lock = s.log.lock) ∧
      s.compare cfg now otp stored = (⟨s.guest.tick now, { s.log with
        wrong := stored.code :: s.log.wrong, lock := lock
        verifying := s.guest.turn :: s.log.verifying }, s.promise⟩,
        some (.failed s.guest.turn stored.code)) := by
  simp only [GuestState.compare, if_pos differs]
  refine ⟨_, ?_, rfl⟩
  split
  · rename_i last
    exact Or.inl ⟨rfl, last⟩
  · exact Or.inr rfl

theorem compare_right {otp : String} {stored : StoredOtp} (equal : cfg.sha256 otp = stored.hash)
    (unlocked : ¬ s.log.lock.Shut now) :
    s.compare cfg now otp stored = (⟨s.guest.tick now, { s.log with
      right := stored.code :: s.log.right
      verifying := s.guest.turn :: s.log.verifying }, s.promise⟩, some (.passed s.guest.turn)) := by
  simp only [GuestState.compare, if_neg (not_not_intro equal), if_neg unlocked]

theorem take_leaves {otp : String} {next : VerifyStage} (idle : s.log.verifying = [])
    (settled : s.log.renewing = []) (kept : CodesKept cfg t.view t.guest.turn)
    (order : t.guest.turn = s.guest.turn + 1) (own : next.mark? = some s.guest.turn)
    (fits : next.Fits cfg t.view) :
    Leaves cfg s (.verify began (.unblocked otp)) t (some (.verify began next)) := by
  constructor
  · exact kept
  · intro c' same
    cases same
    refine ⟨?_, fits⟩
    intro mark own'
    have same_mark : s.guest.turn = mark := Option.some.inj (own.symm.trans own')
    omega
  · intro c' same mark own'
    cases same
    exact Or.inr (Option.some.inj (own'.symm.trans own))
  · constructor
    · omega
    · intro held alone
      rw [idle] at alone
      cases alone
    · intro code there _
      rw [settled] at there
      cases there

theorem compare_leaves {otp : String} {stored : StoredOtp}
    (kept : CodesKept cfg s.view s.guest.turn) (found : s.guest.cache.otp.get now () = some stored)
    (idle : s.log.verifying = []) (settled : s.log.renewing = [])
    (free : s.guest.cache.otpBlocked.get now () = none) :
    Leaves cfg s (.verify began (.unblocked otp)) (s.compare cfg now otp stored).1
      (afterVerify began (.unblocked otp) (s.compare cfg now otp stored).2) := by
  obtain ⟨e, there, -, rfl⟩ := get_eq_some.mp found
  have alone : s.guest.turn :: s.log.verifying = [s.guest.turn] := congrArg (s.guest.turn :: ·) idle
  by_cases equal : cfg.sha256 otp = e.value.hash
  · rw [compare_right equal (kept.unlocked idle free)]
    refine take_leaves idle settled (kept.right settled e.value.code) rfl rfl ⟨alone, ?_⟩
    intro fails
    exact kept.failing fails idle
  · obtain ⟨lock, how, same_state⟩ := compare_wrong s now equal
    rw [same_state]
    have wrong := kept.wrong idle settled there (how.imp_left And.left)
    refine take_leaves idle settled wrong rfl rfl ⟨alone, ?_⟩
    intro e' there'
    have only : e' = e := Option.some.inj (there'.symm.trans there)
    rw [only]
    refine ⟨((kept.settled idle e there).2 settled).guess, ?_⟩
    intro fails
    rcases how with ⟨-, last⟩ | stays
    · exact last
    · exact absurd idle (kept.failing (stays.symm.trans fails))

theorem failed_leaves {code : Nat} (kept : CodesKept cfg s.view s.guest.turn)
    (fits : CodeFits cfg s (.verify began (.failed turn code)))
    (allowed : ∃ stored ∈ s.guest.cache.otp.get now (), stored.code = code) :
    Leaves cfg s (.verify began (.failed turn code)) (s.verify cfg now (.failed turn code)).1
      (afterVerify began (.failed turn code) (s.verify cfg now (.failed turn code)).2) := by
  obtain ⟨stored, found, -⟩ := allowed
  obtain ⟨e, there, live, -⟩ := get_eq_some.mp found
  obtain ⟨alone, guessed⟩ := fits.2
  obtain ⟨covered, fails⟩ := guessed e there
  obtain ⟨counter, new, got, first, covered'⟩ := covered.incr live
  have returned : (s.guest.cache.otpAttempt.incr now ()).get now () = some counter.value := got
  have few : s.log.wrong.count e.value.code ≤ counter.value := by
    simp only [Covered, new] at covered'
    exact covered'.2.2
  have counted := (kept.count alone (s.guest.cache.otpAttempt.incr now ())).mono
    (Nat.le_succ s.guest.turn)
  have only : ∀ e' ∈ s.guest.cache.otp.entries (), e' = e := by
    intro e' there'
    exact Option.some.inj (there'.symm.trans there)
  simp only [GuestState.verify, returned, Option.getD_some]
  split
  · rename_i one
    refine held_leaves kept fits rfl counted rfl ?_
    intro next same
    cases same
    refine ⟨rfl, alone, ?_, ?_, fun failing => Nat.le_trans (fails failing) few, ?_⟩
    · rw [← first one]
      exact new
    · omega
    · intro e' there'
      rw [only e' there']
      exact few
  · have up_to_date : ∀ e' ∈ s.guest.cache.otp.entries (),
        s.log.wrong.count e'.value.code ≤ counter.value ∧
          Covered (s.guest.cache.otpAttempt.incr now ()) s.log.wrong e' 0 := by
      intro e' there'
      rw [only e' there']
      exact ⟨few, covered'⟩
    obtain ⟨kept', order, goes_on⟩ := after_attempt
      (s := s.putCache now { s.guest.cache with otpAttempt := s.guest.cache.otpAttempt.incr now () })
      counted alone (fun failing => Nat.le_trans (fails failing) few) up_to_date
    exact held_leaves kept fits rfl kept' order goes_on

theorem counted_leaves {attempts : Nat} (kept : CodesKept cfg s.view s.guest.turn)
    (fits : CodeFits cfg s (.verify began (.counted turn attempts)))
    (allowed : ∀ e ∈ s.guest.cache.otp.entries (),
      ∃ deadline ∈ e.deadline, deadline ≤ now + cfg.otpBlockSeconds * 1000) :
    Leaves cfg s (.verify began (.counted turn attempts))
      (s.verify cfg now (.counted turn attempts)).1
      (afterVerify began (.counted turn attempts) (s.verify cfg now (.counted turn attempts)).2) := by
  obtain ⟨alone, new, positive, fails, few⟩ := fits.2
  have counted := (kept.count alone
    (s.guest.cache.otpAttempt.expire now () cfg.otpBlockSeconds)).mono (Nat.le_succ s.guest.turn)
  have up_to_date : ∀ e ∈ s.guest.cache.otp.entries (), s.log.wrong.count e.value.code ≤ attempts ∧
      Covered (s.guest.cache.otpAttempt.expire now () cfg.otpBlockSeconds) s.log.wrong e 0 := by
    intro e there
    exact ⟨few e there, covered_expire new positive (few e there) (allowed e there)⟩
  obtain ⟨kept', order, goes_on⟩ := after_attempt
    (s := s.putCache now { s.guest.cache with
      otpAttempt := s.guest.cache.otpAttempt.expire now () cfg.otpBlockSeconds })
    counted alone fails up_to_date
  exact held_leaves kept fits rfl kept' order goes_on

theorem verify_leaves (kept : CodesKept cfg s.view s.guest.turn)
    (fits : CodeFits cfg s (.verify began stage)) (allowed : OneAtATime cfg s now (.verify began stage)) :
    Leaves cfg s (.verify began stage) (s.verify cfg now stage).1
      (afterVerify began stage (s.verify cfg now stage).2) := by
  have order : ∀ v, CodesKept cfg v s.guest.turn → CodesKept cfg v (s.guest.turn + 1) :=
    fun v here => here.mono (Nat.le_succ _)
  cases stage with
  | started | resolved =>
    refine Quiet.leaves ⟨rfl, rfl⟩ kept ?_
    intro c' same
    rcases after_verify same with ⟨next, here, rfl⟩ | rfl
    · simp only [GuestState.verify] at here
      split at here <;> cases here
      rfl
    · rfl
  | unblocked otp =>
    unfold GuestState.verify
    cases found : s.guest.cache.otp.get now () with
    | none =>
      refine Quiet.leaves ⟨rfl, rfl⟩ kept ?_
      intro c' same
      cases same
    | some stored =>
      obtain ⟨idle, settled, free⟩ := allowed (by rw [found]; rfl)
      exact compare_leaves kept found idle settled free
  | failed turn code => exact failed_leaves kept fits allowed
  | counted turn attempts => exact counted_leaves kept fits allowed
  | blocking turn =>
    have alone : s.log.verifying = [turn] := fits.2
    refine held_leaves kept fits rfl (order _ (kept.block cfg.otpBlockSeconds)) rfl ?_
    intro next same
    cases same
    exact ⟨rfl, alone, nofun⟩
  | blocked turn =>
    obtain ⟨alone, closed⟩ := fits.2
    refine held_leaves kept fits rfl (order _ (kept.delete.leave alone closed ?_)) rfl ?_
    · intro e there
      simp [Cache.del] at there
    · intro next same
      cases same
  | passed turn =>
    obtain ⟨alone, closed⟩ := fits.2
    refine held_leaves kept fits rfl (order _ kept.delete) rfl ?_
    intro next same
    cases same
    exact ⟨rfl, alone, closed, entries_put_self _⟩
  | otpDeleted turn =>
    obtain ⟨alone, closed, gone⟩ := fits.2
    have counted := kept.count alone (s.guest.cache.otpAttempt.del ())
    refine held_leaves kept fits rfl (order _ (counted.leave alone closed ?_)) rfl ?_
    · intro e there
      rw [gone] at there
      cases there
    · intro next same
      cases same

theorem join_quiet (stage : JoinStage) : Quiet s (s.join cfg now began stage).1 := by
  cases stage with
  | currentJtiSet =>
    obtain ⟨inLobby, lobbyStatus, next, same⟩ := join_lobby cfg s now began
    rw [same]
    exact ⟨rfl, rfl⟩
  | _ => exact ⟨rfl, rfl⟩

theorem revoke_quiet (stage : RevokeStage) : Quiet s (s.revoke cfg now stage).1 := by
  cases stage <;> exact ⟨rfl, rfl⟩

theorem resend_quiet (stage : ResendStage) : Quiet s (s.resend cfg now stage).1 := by
  cases stage <;> exact ⟨rfl, rfl⟩

theorem access_leaves {c : GuestCall} (some_guess : 1 ≤ cfg.otpMaxVerifyAttempts)
    (kept : CodesKept cfg s.view s.guest.turn) (fits : CodeFits cfg s c)
    (allowed : OneAtATime cfg s now c) :
    Leaves cfg s c (s.access cfg now c).1 (s.access cfg now c).2 := by
  cases c with
  | request stage => exact request_leaves some_guess kept fits allowed
  | verify began stage => exact verify_leaves kept fits allowed
  | join began stage =>
    exact (join_quiet stage).leaves kept (Option.forall_mem_map.mpr fun _ _ => rfl)
  | revoke stage =>
    exact (revoke_quiet stage).leaves kept (Option.forall_mem_map.mpr fun _ _ => rfl)
  | resend stage =>
    exact (resend_quiet stage).leaves kept (Option.forall_mem_map.mpr fun _ _ => rfl)
  | changeMeeting meeting =>
    refine Quiet.leaves ⟨rfl, rfl⟩ kept ?_
    intro c' same
    cases same

theorem guest_keeps (some_guess : 1 ≤ cfg.otpMaxVerifyAttempts) :
    Keeps (guestService cfg) (fun s => CodesKept cfg s.view s.guest.turn) (CodeFits cfg) ApartMarks
      (OneAtATime cfg) where
  symm c d apart mark own other := apart mark other own
  enters s r _ _ := by
    cases r <;> exact fits_unmarked rfl
  alone s r d _ _ _ := by
    cases r <;> exact apart_unmarked rfl
  inv s now c kept fits _ allowed := (access_leaves some_guess kept fits allowed).kept
  next s now c c' kept fits _ allowed same := (access_leaves some_guess kept fits allowed).fits c' same
  others s now c d kept fits other apart _ allowed :=
    other.spared apart (access_leaves some_guess kept fits allowed).spares
  still_apart s now c c' d kept fits other apart _ allowed same := by
    intro mark own
    rcases (access_leaves some_guess kept fits allowed).marks c' same mark own with before | new
    · exact apart mark before
    · intro here
      exact Nat.lt_irrefl _ (new ▸ other.1 mark here)

end Accesses

section Codes
variable {cfg : GuestAccessConfig} {guest : GuestData} {p : Pool GuestState GuestCall}
  {moves : List (Move (Pool GuestState GuestCall) (Turn GuestRequest))}

theorem codes_start : CodesKept cfg (GuestState.start guest).view guest.turn where
  guesses _ := Nat.zero_le _
  shut := rfl
  past := nofun
  issued := nofun
  failing := nofun
  blocked := nofun
  renewed there := absurd rfl there
  settled _ := nofun

/-- Where the calls take their turns at the keys of the code, no code gets more wrong guesses than
    are allowed, and none is accepted from the last of them to the end of the block. -/
theorem guesses_bounded (some_guess : 1 ≤ cfg.otpMaxVerifyAttempts)
    (run : Run (Step (guestService cfg)) (Pool.idle (GuestState.start guest)) moves p)
    (heeds : Heeds (Allows (OneAtATime cfg)) moves) :
    ∀ a ∈ visited (Pool.idle (GuestState.start guest)) moves, GuessesBounded cfg a.shared := by
  intro a there
  have kept := (sound_visited (guest_keeps some_guess) codes_start run heeds a there).shared
  exact ⟨kept.guesses, kept.shut⟩

def oneByOne : List (Turn GuestRequest) :=
  callTurns 0 3600000 6 (.requestOtp "123456" "123456") ++
    callTurns 1 3601000 5 (.verifyOtp "123456" "000000") ++
    callTurns 2 3602000 5 (.verifyOtp "123456" "123456")

theorem guest_guesses_in_turn : ∃ moves p,
    Run (Step (guestService shippedConfig)) (Pool.idle (GuestState.start invited)) moves p ∧
      p.shared.log.wrong = [4] ∧ p.shared.log.right = [4] ∧
      ∀ a ∈ visited (Pool.idle (GuestState.start invited)) moves,
        GuessesBounded shippedConfig a.shared := by
  have follows : Follows (guestService shippedConfig) (OneAtATime shippedConfig)
      (Pool.idle (GuestState.start invited)) oneByOne := by decide +kernel
  obtain ⟨moves, run, heeds⟩ := follows_run follows
  exact ⟨moves, _, run, by decide +kernel, by decide +kernel,
    guesses_bounded (by decide) run heeds⟩

/-- Six calls compare their guesses before any of them has been counted. -/
def sixAtOnce : List (Turn GuestRequest) :=
  callTurns 0 3600000 6 (.requestOtp "123456" "123456") ++
    (List.range 6).flatMap fun i => callTurns (i + 1) 3601000 3 (.verifyOtp "123456" "000000")

theorem six_guesses_at_once : ∃ moves p,
    Run (Step (guestService shippedConfig)) (Pool.idle (GuestState.start invited)) moves p ∧
      p.shared.log.wrong.count 4 = 6 ∧ ¬ GuessesBounded shippedConfig p.shared := by
  have follows : Follows (guestService shippedConfig) (fun _ _ _ => True)
      (Pool.idle (GuestState.start invited)) sixAtOnce := by decide +kernel
  have six : (sixAtOnce.foldl (Pool.after (guestService shippedConfig))
      (Pool.idle (GuestState.start invited))).shared.log.wrong.count 4 = 6 := by decide +kernel
  obtain ⟨moves, run, -⟩ := follows_run follows
  refine ⟨moves, _, run, six, ?_⟩
  intro bounded
  have five : _ ≤ 5 := bounded.guesses 4
  omega

end Codes

end GuestAccess
