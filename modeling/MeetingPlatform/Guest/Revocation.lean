import MeetingPlatform.Guest.Calls

/- Revocations of one invitation. Joining and revoking both read the whole of it and write the
   whole of it back later. -/
namespace GuestAccess
open LabelledRuns CallPools

def GuestData.Revoked (guest : GuestData) : Prop :=
  ∃ guestInvite ∈ guest.guestInvite, guestInvite.status = .revoked

instance (guest : GuestData) : Decidable guest.Revoked :=
  inferInstanceAs (Decidable (∃ guestInvite ∈ guest.guestInvite, guestInvite.status = .revoked))

/-- While a revocation is promised the invitation is revoked, and no call that began under the
    promise has succeeded. -/
structure RevocationKept (s : GuestState) : Prop where
  revoked : s.promise.promised = true → s.guest.Revoked
  late : s.promise.lateSuccesses = 0

/-- `markJoined` does not write an older copy over a revoked invitation. -/
def JoinsUpToDate (s : GuestState) (_ : Nat) : GuestCall → Prop
  | .join _ (.read updated) => s.guest.Revoked → updated.status = .revoked
  | _ => True

instance (s : GuestState) (now : Nat) (c : GuestCall) : Decidable (JoinsUpToDate s now c) :=
  match c with
  | .join _ (.read _) => inferInstanceAs (Decidable (_ → _))
  | .join _ .attemptsReset | .join _ .joined | .join _ (.sessionSet _) | .join _ .currentJtiSet
  | .join _ .inLobby | .join _ .verified | .request _ | .verify _ _ | .revoke _ | .resend _
  | .changeMeeting _ => inferInstanceAs (Decidable True)

section Invariant

/-- A call that began under a promise gets no further than its admission, unless there is a new
    invitation by then. -/
def Refused (s : GuestState) (began : Option Nat) : Prop :=
  ∀ number ∈ began, number < s.promise.resent

def RevocationFits (s : GuestState) : GuestCall → Prop
  | .verify began (.started _ _) => ∀ number ∈ began, number ≤ s.promise.resent ∧
      (number = s.promise.resent → s.promise.promised = true)
  | .verify began _ | .join began _ => Refused s began
  | .revoke (.read updated) => updated.status = .revoked
  | .revoke (.returning found) => ∀ number ∈ found, number ≤ s.promise.resent ∧
      (number = s.promise.resent → s.guest.Revoked)
  | _ => True

structure Holds (s t : GuestState) : Prop where
  order : s.promise.resent ≤ t.promise.resent
  promised : t.promise.resent = s.promise.resent → s.promise.promised = true →
    t.promise.promised = true
  revoked : t.promise.resent = s.promise.resent → s.guest.Revoked → t.guest.Revoked

end Invariant

section Accesses
variable {cfg : GuestAccessConfig} {s t : GuestState} {now : Nat} {c d : GuestCall}

theorem Refused.holds {began : Option Nat} (refused : Refused s began) (holds : Holds s t) :
    Refused t began := by
  intro number own
  exact Nat.lt_of_lt_of_le (refused number own) holds.order

theorem number_holds {number : Nat} {P Q : Prop} (holds : Holds s t)
    (here : number ≤ s.promise.resent ∧ (number = s.promise.resent → P))
    (stays : t.promise.resent = s.promise.resent → P → Q) :
    number ≤ t.promise.resent ∧ (number = t.promise.resent → Q) := by
  obtain ⟨past, own⟩ := here
  have order := holds.order
  refine ⟨Nat.le_trans past order, ?_⟩
  intro same
  have still : t.promise.resent = s.promise.resent := by omega
  exact stays still (own (same.trans still))

theorem RevocationFits.holds (fits : RevocationFits s d) (holds : Holds s t) : RevocationFits t d := by
  cases d with
  | verify began stage =>
    cases stage with
    | started secret otp =>
      intro number own
      exact number_holds holds (fits number own) holds.promised
    | _ => exact Refused.holds fits holds
  | join began stage => exact Refused.holds fits holds
  | revoke stage =>
    cases stage with
    | read updated => exact fits
    | returning found =>
      intro number own
      exact number_holds holds (fits number own) holds.revoked
    | _ => trivial
  | _ => trivial

theorem fits_refused {began : Option Nat} {stage : VerifyStage} (refused : Refused s began) :
    RevocationFits s (.verify began stage) := by
  cases stage with
  | started secret otp =>
    intro number own
    have past := refused number own
    exact ⟨Nat.le_of_lt past, fun same => absurd same (Nat.ne_of_lt past)⟩
  | _ => exact refused

theorem refused_at_admission {began : Option Nat} {secret otp : String} (kept : RevocationKept s)
    (fits : RevocationFits s (.verify began (.started secret otp)))
    (admitted : admission cfg s.guest now secret = .ok ()) : Refused s began := by
  intro number own
  obtain ⟨past, under⟩ := fits number own
  refine Nat.lt_of_le_of_ne past ?_
  intro same
  obtain ⟨guestInvite, there, revoked⟩ := kept.revoked (under same)
  obtain ⟨read, found, standing⟩ := admission_not_revoked admitted
  cases Option.some.inj (found.symm.trans there)
  exact standing revoked

def SameInvite (s t : GuestState) : Prop :=
  t.guest.guestInvite = s.guest.guestInvite ∧ t.promise = s.promise

theorem SameInvite.revoked (same : SameInvite s t) (revoked : s.guest.Revoked) : t.guest.Revoked := by
  unfold GuestData.Revoked
  rw [same.1]
  exact revoked

theorem SameInvite.kept (same : SameInvite s t) (kept : RevocationKept s) : RevocationKept t := by
  constructor
  · intro promised
    rw [same.2] at promised
    exact same.revoked (kept.revoked promised)
  · rw [same.2]
    exact kept.late

theorem SameInvite.holds (same : SameInvite s t) : Holds s t := by
  constructor
  · rw [same.2]
  · intro _ promised
    rw [same.2]
    exact promised
  · intro _
    exact same.revoked

structure Settles (s t : GuestState) (rest : Option GuestCall) : Prop where
  kept : RevocationKept t
  holds : Holds s t
  fits : ∀ c', rest = some c' → RevocationFits t c'

theorem SameInvite.settles {rest : Option GuestCall} (same : SameInvite s t) (kept : RevocationKept s)
    (fits : ∀ c', rest = some c' → RevocationFits t c') : Settles s t rest :=
  ⟨same.kept kept, same.holds, fits⟩

theorem SameInvite.settles_map {Stage : Type} {call : Stage → GuestCall} {rest : Option Stage}
    (same : SameInvite s t) (kept : RevocationKept s)
    (fits : ∀ next, rest = some next → RevocationFits t (call next)) : Settles s t (rest.map call) :=
  same.settles kept (Option.forall_mem_map.mpr fits)

theorem request_same (stage : RequestStage) : SameInvite s (s.request cfg now stage).1 := by
  cases stage <;> exact ⟨rfl, rfl⟩

theorem verify_same (stage : VerifyStage) : SameInvite s (s.verify cfg now stage).1 := by
  have attempt : ∀ (t : GuestState) (turn attempts : Nat),
      SameInvite t (t.afterAttempt cfg turn attempts).1 := by
    intro t turn attempts
    unfold GuestState.afterAttempt
    split <;> exact ⟨rfl, rfl⟩
  cases stage with
  | unblocked otp =>
    simp only [GuestState.verify]
    split
    · exact ⟨rfl, rfl⟩
    · unfold GuestState.compare
      dsimp only
      split <;> exact ⟨rfl, rfl⟩
  | failed turn code =>
    simp only [GuestState.verify]
    split
    · exact ⟨rfl, rfl⟩
    · exact attempt _ turn _
  | counted turn attempts => exact attempt _ turn attempts
  | _ => exact ⟨rfl, rfl⟩

theorem verify_settles {began : Option Nat} {stage : VerifyStage} (kept : RevocationKept s)
    (fits : RevocationFits s (.verify began stage)) :
    Settles s (s.verify cfg now stage).1 (afterVerify began stage (s.verify cfg now stage).2) := by
  have same : SameInvite s (s.verify cfg now stage).1 := verify_same stage
  refine same.settles kept ?_
  intro c' goes_on
  have refused : Refused s began := by
    cases stage with
    | started secret otp =>
      cases admitted : admission cfg s.guest now secret with
      | ok => exact refused_at_admission kept fits admitted
      | error =>
        simp only [GuestState.verify, admitted] at goes_on
        cases goes_on
    | _ => exact fits
  rcases after_verify goes_on with ⟨next, -, rfl⟩ | rfl
  · exact fits_refused (refused.holds same.holds)
  · exact refused.holds same.holds

theorem join_settles {began : Option Nat} {stage : JoinStage} (kept : RevocationKept s)
    (refused : Refused s began) (upToDate : JoinsUpToDate s now (.join began stage)) :
    Settles s (s.join cfg now began stage).1 ((s.join cfg now began stage).2.map (.join began)) := by
  have goes_on : ∀ (t : GuestState) (rest : Option JoinStage), Holds s t →
      ∀ c', rest.map (GuestCall.join began) = some c' → RevocationFits t c' := by
    intro t rest holds
    exact Option.forall_mem_map.mpr fun _ _ => refused.holds holds
  cases stage with
  | read updated =>
    have stays : s.guest.Revoked → (s.join cfg now began (.read updated)).1.guest.Revoked :=
      fun revoked => ⟨updated, rfl, upToDate revoked⟩
    have holds : Holds s (s.join cfg now began (.read updated)).1 :=
      ⟨Nat.le_refl _, fun _ => id, fun _ => stays⟩
    exact ⟨⟨fun promised => stays (kept.revoked promised), kept.late⟩, holds, goes_on _ _ holds⟩
  | verified =>
    have early : began ≠ some s.promise.resent := by
      intro same
      exact Nat.lt_irrefl _ (refused _ same)
    have holds : Holds s (s.join cfg now began .verified).1 := ⟨Nat.le_refl _, fun _ => id, fun _ => id⟩
    refine ⟨⟨kept.revoked, ?_⟩, holds, goes_on _ _ holds⟩
    simp only [GuestState.join, if_neg early]
    exact kept.late
  | currentJtiSet =>
    have same : SameInvite s (s.join cfg now began .currentJtiSet).1 := by
      obtain ⟨inLobby, lobbyStatus, next, here⟩ := join_lobby cfg s now began
      rw [here]
      exact ⟨rfl, rfl⟩
    exact same.settles kept (goes_on _ _ same.holds)
  | attemptsReset | joined | sessionSet | inLobby =>
    exact SameInvite.settles ⟨rfl, rfl⟩ kept (goes_on _ _ (SameInvite.holds ⟨rfl, rfl⟩))

theorem revoke_settles {stage : RevokeStage} (kept : RevocationKept s)
    (fits : RevocationFits s (.revoke stage)) :
    Settles s (s.revoke cfg now stage).1 ((s.revoke cfg now stage).2.map .revoke) := by
  cases stage with
  | started userId =>
    refine SameInvite.settles_map ⟨rfl, rfl⟩ kept ?_
    intro next here
    simp only [GuestState.revoke] at here
    split at here
    · cases here
      trivial
    · cases here
  | startedForAll =>
    refine SameInvite.settles_map ⟨rfl, rfl⟩ kept ?_
    intro next here
    simp only [GuestState.revoke] at here
    split at here
    · cases here
    · rename_i guestInvite there
      split at here
      · rename_i revoked
        cases here
        intro number own
        cases own
        exact ⟨Nat.le_refl _, fun _ => ⟨guestInvite, there, revoked⟩⟩
      · cases here
        trivial
  | revocable | currentJtiRead =>
    refine SameInvite.settles_map ⟨rfl, rfl⟩ kept ?_
    intro next here
    cases here
    trivial
  | invalidated =>
    refine SameInvite.settles_map ⟨rfl, rfl⟩ kept ?_
    intro next here
    simp only [GuestState.revoke] at here
    split at here <;> cases here <;> trivial
  | sessionRevoked =>
    refine SameInvite.settles_map ⟨rfl, rfl⟩ kept ?_
    intro next here
    simp only [GuestState.revoke] at here
    split at here
    · cases here
      exact nofun
    · cases here
      rfl
  | read updated =>
    have revoked : (s.revoke cfg now (.read updated)).1.guest.Revoked := ⟨updated, rfl, fits⟩
    constructor
    · exact ⟨fun _ => revoked, kept.late⟩
    · exact ⟨Nat.le_refl _, fun _ => id, fun _ _ => revoked⟩
    · intro c' goes_on
      cases goes_on
      intro number own
      cases own
      exact ⟨Nat.le_refl _, fun _ => revoked⟩
  | returning found =>
    constructor
    · refine ⟨?_, kept.late⟩
      intro promised
      rcases (Bool.or_eq_true _ _).mp promised with before | now_promised
      · exact kept.revoked before
      · exact (fits _ (of_decide_eq_true now_promised)).2 rfl
    · refine ⟨Nat.le_refl _, ?_, fun _ => id⟩
      intro _ before
      exact (Bool.or_eq_true _ _).mpr (Or.inl before)
    · intro c' goes_on
      cases goes_on

theorem resend_settles {stage : ResendStage} (kept : RevocationKept s) :
    Settles s (s.resend cfg now stage).1 ((s.resend cfg now stage).2.map .resend) := by
  cases stage with
  | issuing userId secret meetingEndTime =>
    constructor
    · exact ⟨nofun, kept.late⟩
    · exact ⟨Nat.le_succ _, fun same => absurd same (Nat.succ_ne_self _),
        fun same => absurd same (Nat.succ_ne_self _)⟩
    · intro c' goes_on
      cases goes_on
  | started | resendable | currentJtiRead =>
    exact SameInvite.settles_map ⟨rfl, rfl⟩ kept fun _ _ => trivial

theorem access_settles (kept : RevocationKept s) (fits : RevocationFits s c)
    (upToDate : JoinsUpToDate s now c) : Settles s (s.access cfg now c).1 (s.access cfg now c).2 := by
  cases c with
  | request stage =>
    exact (request_same stage).settles_map kept fun _ _ => trivial
  | verify began stage => exact verify_settles kept fits
  | join began stage => exact join_settles kept fits upToDate
  | revoke stage => exact revoke_settles kept fits
  | resend stage => exact resend_settles kept
  | changeMeeting meeting =>
    refine SameInvite.settles ⟨rfl, rfl⟩ kept ?_
    intro c' goes_on
    cases goes_on

theorem revocation_keeps : Keeps (guestService cfg) RevocationKept RevocationFits (fun _ _ => True)
    JoinsUpToDate where
  symm _ _ _ := trivial
  enters s r _ _ := by
    cases r with
    | verifyOtp secret otp =>
      intro number own
      split at own
      · rename_i promised
        cases own
        exact ⟨Nat.le_refl _, fun _ => promised⟩
      · cases own
    | _ => trivial
  alone _ _ _ _ _ _ := trivial
  inv s now c kept fits _ upToDate := (access_settles kept fits upToDate).kept
  next s now c c' kept fits _ upToDate same := (access_settles kept fits upToDate).fits c' same
  others s now c d kept fits other _ _ upToDate := other.holds (access_settles kept fits upToDate).holds
  still_apart _ _ _ _ _ _ _ _ _ _ _ _ := trivial

end Accesses

section Revocations
variable {cfg : GuestAccessConfig} {guest : GuestData} {p : Pool GuestState GuestCall}
  {moves : List (Move (Pool GuestState GuestCall) (Turn GuestRequest))}

/-- Where no call joins with a copy of the invitation from before a revocation, what a revocation
    promises holds until the next invitation. -/
theorem revocation_kept (run : Run (Step (guestService cfg)) (Pool.idle (GuestState.start guest)) moves p)
    (heeds : Heeds (Allows JoinsUpToDate) moves) :
    ∀ a ∈ visited (Pool.idle (GuestState.start guest)) moves, RevocationKept a.shared := by
  have start : RevocationKept (GuestState.start guest) := ⟨nofun, rfl⟩
  intro a there
  exact (sound_visited revocation_keeps start run heeds a there).shared

def joinedThenRevoked : List (Turn GuestRequest) :=
  callTurns 0 3600000 6 (.requestOtp "123456" "123456") ++
    callTurns 1 3601000 12 (.verifyOtp "123456" "123456") ++
    callTurns 2 3602000 7 (.revokeAccess 1) ++ callTurns 3 3603000 1 (.verifyOtp "123456" "123456")

theorem revoked_after_joining : ∃ moves p,
    Run (Step (guestService shippedConfig)) (Pool.idle (GuestState.start invited)) moves p ∧
      p.shared.promise = ⟨0, true, 0⟩ ∧ (p.calls 3).isNone = true ∧
      ∀ a ∈ visited (Pool.idle (GuestState.start invited)) moves, RevocationKept a.shared := by
  have follows : Follows (guestService shippedConfig) JoinsUpToDate
      (Pool.idle (GuestState.start invited)) joinedThenRevoked := by decide +kernel
  obtain ⟨moves, run, heeds⟩ := follows_run follows
  exact ⟨moves, _, run, by decide +kernel, by decide +kernel, revocation_kept run heeds⟩

/-- The host revokes between the read and the write of `markJoined`, and the guest joins again. -/
def revokedWhileJoining : List (Turn GuestRequest) :=
  callTurns 0 3600000 6 (.requestOtp "123456" "123456") ++
    callTurns 1 3601000 6 (.verifyOtp "123456" "123456") ++
    callTurns 2 3602000 6 (.revokeAccess 1) ++ List.replicate 6 (.act 1 3603000) ++
    callTurns 3 3604000 5 (.requestOtp "123456" "000000") ++
    callTurns 4 3605000 12 (.verifyOtp "123456" "000000")

theorem revocation_lost : ∃ moves p,
    Run (Step (guestService shippedConfig)) (Pool.idle (GuestState.start invited)) moves p ∧
      p.shared.promise = ⟨0, true, 1⟩ ∧
      p.shared.guest.guestInvite.map GuestInviteMetadata.status = some .used ∧
      ¬ RevocationKept p.shared := by
  have follows : Follows (guestService shippedConfig) (fun _ _ _ => True)
      (Pool.idle (GuestState.start invited)) revokedWhileJoining := by decide +kernel
  have late : (revokedWhileJoining.foldl (Pool.after (guestService shippedConfig))
      (Pool.idle (GuestState.start invited))).shared.promise = ⟨0, true, 1⟩ := by decide +kernel
  obtain ⟨moves, run, -⟩ := follows_run follows
  refine ⟨moves, _, run, late, by decide +kernel, ?_⟩
  intro kept
  have none_late := kept.late
  rw [late] at none_late
  cases none_late

end Revocations
end GuestAccess
