import MeetingPlatform.Auth.Sessions

/- What a password change ends. The guard compares the time a token was issued at with the
   marker of its user, while a refresh issues anew; a chain of refreshes that began before the
   change is kept out only in so far as the marker reaches each of its tokens. -/
namespace Auth
open KeyedTable ExpiringStore LabelledRuns

section Chains
variable (cfg : AuthConfig) (s : AuthState)

/-- The chain of the session began before the last password change of its user. -/
def Stale (x : Session) : Prop := x.started < s.changed x.sub

def AcceptedLater (jti : Nat) : Prop := ∃ now ignoreBlacklist payload,
  s.clock ≤ now ∧ canActivate cfg s now ignoreBlacklist jti = .ok payload

def ChangeHolds : Prop :=
  ∀ jti x, s.sessions[jti]? = some x → Stale s x → ¬ AcceptedLater cfg s jti

/-- A token has expired, or it is older than the marker and does not outlive it. -/
def Outlawed (iat now : Nat) (marker : Option Nat) : Prop :=
  (iat + cfg.accessTokenTtlSeconds) * 1000 ≤ now ∨ ∃ m ∈ marker, iat * 1000 < m ∧
    (iat + cfg.accessTokenTtlSeconds) * 1000 ≤ m + tokenInvalidationTtlSeconds * 1000

/-- A refresh lets no stale chain go on with a token that the marker does not reach, and a
    change reaches every token that its user holds. -/
def KeepsOut (s : AuthState) (l : TimedCall) : Prop :=
  (∀ jti x, l.call = .refresh jti → s.sessions[jti]? = some x → Granted cfg s l.now jti →
    Stale s x → Outlawed cfg (l.now / 1000) l.now (s.invalidAfter.get l.now x.sub)) ∧
  ∀ userId, Changes cfg s l.now userId l.call → ∀ x ∈ s.sessions, x.sub = userId →
    Outlawed cfg x.iat l.now (some l.now)

end Chains

section Marker
variable {cfg : AuthConfig} {s : AuthState}

structure Marked (s : AuthState) : Prop where
  marker : ∀ userId, 0 < s.changed userId → ∃ m ≤ s.clock, s.invalidAfter.entries userId =
    some ⟨m, some (m + tokenInvalidationTtlSeconds * 1000)⟩
  begun : ∀ x ∈ s.sessions, x.started < s.turn
  counted : ∀ userId, s.changed userId ≤ s.turn

theorem marked_start (users : Table User) : Marked (AuthState.start users) where
  marker := fun _ changed => absurd changed (Nat.lt_irrefl 0)
  begun := fun _ there => absurd there List.not_mem_nil
  counted := fun _ => Nat.le_refl 0

theorem acceptedLater_iff {jti : Nat} {x : Session} (there : s.sessions[jti]? = some x) :
    AcceptedLater cfg s jti ↔ ∃ now, s.clock ≤ now ∧
      now < (x.iat + cfg.accessTokenTtlSeconds) * 1000 ∧
      ∀ m, s.invalidAfter.get now x.sub = some m → m ≤ x.iat * 1000 := by
  constructor
  · intro accepted
    obtain ⟨now, _, payload, later, passed⟩ := accepted
    obtain ⟨x', there', -, live, -, recent⟩ := canActivate_ok_iff.mp passed
    obtain rfl := Option.some.inj (there.symm.trans there')
    exact ⟨now, later, live, recent⟩
  · intro passes
    obtain ⟨now, later, live, recent⟩ := passes
    exact ⟨now, true, _, later, canActivate_ok_iff.mpr ⟨x, there, rfl, live, nofun, recent⟩⟩

theorem refused_iff {jti : Nat} {x : Session} (marked : Marked s)
    (there : s.sessions[jti]? = some x) (stale : Stale s x) : ¬ AcceptedLater cfg s jti ↔
      Outlawed cfg x.iat s.clock (s.invalidAfter.get s.clock x.sub) := by
  obtain ⟨m, -, entry⟩ := marked.marker x.sub (Nat.zero_lt_of_lt stale)
  obtain ⟨life, sevenDays⟩ : ∃ life, tokenInvalidationTtlSeconds * 1000 = life := ⟨_, rfl⟩
  rw [sevenDays] at entry
  have seen : ∀ now, s.invalidAfter.get now x.sub = if now < m + life then some m else none :=
    fun now => get_of_entry entry
  simp only [acceptedLater_iff there, Outlawed, seen, sevenDays]
  constructor
  · intro refused
    by_contra free
    obtain ⟨live, unreached⟩ := not_or.mp free
    apply refused
    -- The first moment to try is now; a marker that is in the way gives the moment of its end.
    by_cases inTheWay : s.clock < m + life ∧ x.iat * 1000 < m
    · obtain ⟨early, older⟩ := inTheWay
      have outlives : m + life < (x.iat + cfg.accessTokenTtlSeconds) * 1000 := by
        by_contra within
        exact unreached ⟨m, if_pos early, older, Nat.not_lt.mp within⟩
      refine ⟨_, Nat.le_of_lt early, outlives, ?_⟩
      intro m' found
      simp at found
    · refine ⟨s.clock, Nat.le_refl _, Nat.not_le.mp live, ?_⟩
      intro m' found
      by_cases early : s.clock < m + life
      · obtain rfl : m = m' := by simpa [early] using found
        exact Nat.not_lt.mp fun older => inTheWay ⟨early, older⟩
      · simp [early] at found
  · intro outlawed accepted
    obtain ⟨now, later, live, recent⟩ := accepted
    rcases outlawed with expired | ⟨m', found, older, within⟩
    · omega
    · by_cases early : s.clock < m + life
      · obtain rfl : m = m' := by simpa [early] using found
        have reached : now < m + life := by omega
        have : m ≤ x.iat * 1000 := recent m (if_pos reached)
        omega
      · simp [early] at found

end Marker

section Steps
variable {cfg : AuthConfig} {s t : AuthState} {l : TimedCall}

theorem invalidated_marker {now : Nat} (userId : Nat) {c : Core}
    (marker : ∀ u, 0 < s.changed u → ∃ m ≤ now, s.invalidAfter.entries u =
      some ⟨m, some (m + tokenInvalidationTtlSeconds * 1000)⟩)
    (same : c = (s.invalidateUserTokens now userId).core) (u : Nat) (changed : 0 < c.changed u) :
    ∃ m ≤ now, c.invalidAfter.entries u =
      some ⟨m, some (m + tokenInvalidationTtlSeconds * 1000)⟩ := by
  subst same
  by_cases mine : u = userId
  · subst mine
    exact ⟨now, Nat.le_refl _, Function.update_self _ _ _⟩
  · have before : 0 < s.changed u := by
      simpa [AuthState.core, AuthState.invalidateUserTokens, mine] using changed
    obtain ⟨m, past, entry⟩ := marker u before
    exact ⟨m, past, (Function.update_of_ne mine _ _).trans entry⟩

theorem marked_step (marked : Marked s) (move : CallStep cfg s l t) : Marked t := by
  obtain ⟨now, call⟩ := l
  obtain ⟨order, clock, turn, c, same, effect⟩ := move.effect
  have sessions : t.sessions = c.sessions := congrArg Core.sessions same
  have marks : t.invalidAfter = c.invalidAfter := congrArg Core.invalidAfter same
  have changed : t.changed = c.changed := congrArg Core.changed same
  have markers : ∀ u, 0 < s.changed u → ∃ m ≤ now, s.invalidAfter.entries u =
      some ⟨m, some (m + tokenInvalidationTtlSeconds * 1000)⟩ := by
    intro u changes
    obtain ⟨m, past, entry⟩ := marked.marker u changes
    exact ⟨m, Nat.le_trans past order, entry⟩
  have begun : ∀ x ∈ s.sessions, x.started < s.turn + 1 := fun x there =>
    Nat.lt_succ_of_lt (marked.begun x there)
  have counted : ∀ u, s.changed u ≤ s.turn + 1 := fun u =>
    Nat.le_succ_of_le (marked.counted u)
  constructor
  · rw [marks, changed, clock]
    cases effect with
    | changes _ => exact invalidated_marker _ markers rfl
    | login _ => exact markers
    | refresh _ _ => simpa [AuthState.core] using markers
    | logout _ _ => simpa [AuthState.core] using markers
    | idle _ _ _ => exact markers
  · rw [sessions, turn]
    cases effect with
    | changes _ => exact begun
    | login userId =>
      intro x there
      rcases List.mem_append.mp there with old | new
      · exact begun x old
      · rw [List.mem_singleton.mp new]
        exact Nat.lt_succ_self _
    | @refresh jti x there _ =>
      simp only [AuthState.core, revoke_sessions, issue_sessions]
      intro y issued
      rcases List.mem_append.mp issued with old | new
      · exact begun y old
      · rw [List.mem_singleton.mp new]
        exact begun x (List.mem_of_getElem? there)
    | logout _ _ => simpa [AuthState.core] using begun
    | idle _ _ _ => exact begun
  · rw [changed, turn]
    cases effect with
    | @changes call userId _ =>
      intro u
      by_cases mine : u = userId
      · subst mine
        simp [AuthState.core, AuthState.invalidateUserTokens]
      · simpa [AuthState.core, AuthState.invalidateUserTokens, mine] using counted u
    | login _ => exact counted
    | refresh _ _ => simpa [AuthState.core] using counted
    | logout _ _ => simpa [AuthState.core] using counted
    | idle _ _ _ => exact counted

theorem accepted_before {jti : Nat} {x : Session} (there : s.sessions[jti]? = some x)
    (still : t.sessions[jti]? = some x) (order : s.clock ≤ t.clock)
    (marks : ∀ now, t.invalidAfter.get now x.sub = s.invalidAfter.get now x.sub)
    (accepted : AcceptedLater cfg t jti) : AcceptedLater cfg s jti := by
  obtain ⟨now, later, live, recent⟩ := (acceptedLater_iff still).mp accepted
  refine (acceptedLater_iff there).mpr ⟨now, Nat.le_trans order later, live, ?_⟩
  rw [← marks]
  exact recent

theorem changed_exact {userId : Nat} (marked : Marked s) (safe : ChangeHolds cfg s)
    (later : Marked t) (order : s.clock ≤ t.clock)
    (same : t.core = (s.invalidateUserTokens t.clock userId).core) :
    ChangeHolds cfg t ↔ ∀ x ∈ s.sessions, x.sub = userId →
      Outlawed cfg x.iat t.clock (some t.clock) := by
  have sessions : t.sessions = s.sessions := congrArg Core.sessions same
  have marks : ∀ now u, t.invalidAfter.get now u = if u = userId then
      (if now < t.clock + tokenInvalidationTtlSeconds * 1000 then some t.clock else none)
      else s.invalidAfter.get now u := by
    intro now u
    rw [show t.invalidAfter = _ from congrArg Core.invalidAfter same]
    exact get_setWithTtl
  have stale : ∀ x, Stale t x ↔ if x.sub = userId then x.started < s.turn else Stale s x := by
    intro x
    rw [Stale, show t.changed = _ from congrArg Core.changed same]
    by_cases mine : x.sub = userId <;>
      simp [AuthState.core, AuthState.invalidateUserTokens, Stale, mine]
  have seen : t.invalidAfter.get t.clock userId = some t.clock := by
    rw [marks, if_pos rfl, if_pos]
    unfold tokenInvalidationTtlSeconds
    omega
  constructor
  · intro holds x there mine
    subst mine
    obtain ⟨jti, at_jti⟩ := List.mem_iff_getElem?.mp there
    have outdated : Stale t x := (stale x).mpr (by rw [if_pos rfl]; exact marked.begun x there)
    rw [← sessions] at at_jti
    have outlawed := (refused_iff later at_jti outdated).mp (holds jti x at_jti outdated)
    rwa [seen] at outlawed
  · intro outlawed jti x at_jti outdated
    have there : s.sessions[jti]? = some x := by rw [← sessions]; exact at_jti
    by_cases mine : x.sub = userId
    · refine (refused_iff later at_jti outdated).mpr ?_
      rw [mine, seen]
      exact outlawed x (List.mem_of_getElem? there) mine
    · intro accepted
      have before : Stale s x := by simpa [mine] using (stale x).mp outdated
      refine safe jti x there before (accepted_before there at_jti order ?_ accepted)
      intro now
      rw [marks, if_neg mine]

theorem unmarked_exact (safe : ChangeHolds cfg s) (order : s.clock ≤ t.clock)
    (marks : t.invalidAfter = s.invalidAfter) (changed : t.changed = s.changed)
    (sessions : ∀ jti x, t.sessions[jti]? = some x →
      s.sessions[jti]? = some x ∨ (Stale s x → ¬ AcceptedLater cfg t jti)) :
    ChangeHolds cfg t := by
  intro jti x there outdated
  have before : Stale s x := by rwa [Stale, changed] at outdated
  rcases sessions jti x there with old | new
  · intro accepted
    refine safe jti x old before (accepted_before old there order ?_ accepted)
    intro now
    rw [marks]
  · exact new before

theorem refreshed_exact {now jti : Nat} {x : Session} (safe : ChangeHolds cfg s)
    (later : Marked t) (order : s.clock ≤ now) (clock : t.clock = now)
    (same : t.core = ((s.issue now x.sub x.started).revoke now (x.refresh cfg jti)).core) :
    ChangeHolds cfg t ↔
      (Stale s x → Outlawed cfg (now / 1000) now (s.invalidAfter.get now x.sub)) := by
  subst clock
  have sessions : t.sessions = (s.issue t.clock x.sub x.started).sessions :=
    (congrArg Core.sessions same).trans (revoke_sessions _)
  have marks : t.invalidAfter = s.invalidAfter :=
    (congrArg Core.invalidAfter same).trans (revoke_invalidAfter _)
  have changed : t.changed = s.changed := (congrArg Core.changed same).trans (revoke_changed _)
  have issued : t.sessions[s.sessions.length]? = some ⟨x.sub, t.clock / 1000, x.started⟩ := by
    rw [sessions, session_issued]
    exact Or.inr ⟨rfl, rfl⟩
  have refused : Stale s x → (¬ AcceptedLater cfg t s.sessions.length ↔
      Outlawed cfg (t.clock / 1000) t.clock (s.invalidAfter.get t.clock x.sub)) := by
    intro stale
    have outdated : Stale t ⟨x.sub, t.clock / 1000, x.started⟩ := by rwa [Stale, changed]
    have outlawed : ¬ AcceptedLater cfg t s.sessions.length ↔ _ := refused_iff later issued outdated
    rw [marks] at outlawed
    exact outlawed
  constructor
  · intro holds stale
    have outdated : Stale t ⟨x.sub, t.clock / 1000, x.started⟩ := by rwa [Stale, changed]
    exact (refused stale).mp (holds _ _ issued outdated)
  · intro outlawed
    refine unmarked_exact safe order marks changed ?_
    intro jti y there
    rw [sessions, session_issued] at there
    rcases there with old | ⟨rfl, rfl⟩
    · exact Or.inl old
    · exact Or.inr fun stale => (refused stale).mpr (outlawed stale)

theorem step_exact (marked : Marked s) (safe : ChangeHolds cfg s) (move : CallStep cfg s l t) :
    ChangeHolds cfg t ↔ KeepsOut cfg s l := by
  have later : Marked t := marked_step marked move
  obtain ⟨now, call⟩ := l
  obtain ⟨order, clock, -, c, same, effect⟩ := move.effect
  cases effect with
  | @changes _ userId found =>
    subst clock
    rw [changed_exact marked safe later order same]
    constructor
    · intro outlawed
      constructor
      · intro jti x refreshes _ _ _
        rw [show call = .refresh jti from refreshes] at found
        exact absurd found id
      · intro other again
        rw [changes_unique found again]
        exact outlawed
    · intro keeps
      exact keeps.2 userId found
  | @login dto ipAddress userId =>
    refine iff_of_true ?_ ⟨nofun, fun _ changes => absurd changes id⟩
    refine unmarked_exact safe (clock ▸ order) (congrArg Core.invalidAfter same)
      (congrArg Core.changed same) ?_
    intro jti x there
    have sessions : t.sessions = (s.issue now userId s.turn).sessions :=
      congrArg Core.sessions same
    rw [sessions, session_issued] at there
    rcases there with old | ⟨-, rfl⟩
    · exact Or.inl old
    · exact Or.inr fun stale => absurd stale (Nat.not_lt.mpr (marked.counted userId))
  | @refresh jti x there granted =>
    rw [refreshed_exact safe later order clock same]
    constructor
    · intro outlawed
      refine ⟨?_, fun _ changes => absurd changes id⟩
      intro jti' x' named there' _ stale
      cases named
      obtain rfl := Option.some.inj (there.symm.trans there')
      exact outlawed stale
    · intro keeps
      exact keeps.1 jti x rfl there granted
  | logout _ _ =>
    refine iff_of_true ?_ ⟨nofun, fun _ changes => absurd changes id⟩
    refine unmarked_exact safe (clock ▸ order)
      ((congrArg Core.invalidAfter same).trans (revoke_invalidAfter _))
      ((congrArg Core.changed same).trans (revoke_changed _)) ?_
    intro jti x there
    have sessions : t.sessions = s.sessions :=
      (congrArg Core.sessions same).trans (revoke_sessions _)
    rw [sessions] at there
    exact Or.inl there
  | idle kept refused _ =>
    refine iff_of_true ?_ ⟨?_, fun userId changes => absurd changes (kept userId)⟩
    · refine unmarked_exact safe (clock ▸ order) (congrArg Core.invalidAfter same)
        (congrArg Core.changed same) ?_
      intro jti x there
      rw [show t.sessions = s.sessions from congrArg Core.sessions same] at there
      exact Or.inl there
    · intro jti x refreshes _ granted _
      exact absurd granted (refused jti refreshes)

end Steps

section Sessions
variable {cfg : AuthConfig} {users : Table User} {t : AuthState}
  {moves : List (Move AuthState TimedCall)}

/-- After every password change all chains begun before it stay refused exactly in the runs
    that refresh none of them past the marker and change only where the marker reaches. -/
theorem change_ends_sessions_iff (run : Run (CallStep cfg) (AuthState.start users) moves t) :
    (∀ a ∈ visited (AuthState.start users) moves, ChangeHolds cfg a) ↔
      Heeds (KeepsOut cfg) moves := by
  refine states_safe_iff Marked (ChangeHolds cfg) run (marked_start users) ?_ marked_step step_exact
  intro jti x there
  cases there

def annChanges : TimedCall := ⟨5000, .changePassword 0 ⟨"first", "second", "second"⟩⟩

def changedOver : AuthState := signedIn.after shippedConfig annChanges

theorem ann_changes : CallStep shippedConfig signedIn annChanges changedOver := ⟨by decide, rfl⟩

theorem change_signs_out : ∃ moves t,
    Run (CallStep shippedConfig) (AuthState.start staff) moves t ∧ 0 < t.changed 0 ∧
      ∀ a ∈ visited (AuthState.start staff) moves, ChangeHolds shippedConfig a := by
  have run := (Run.nil.snoc ann_signs_in).snoc ann_changes
  refine ⟨_, _, run, by decide +kernel, (change_ends_sessions_iff run).mpr ?_⟩
  refine heeds_snoc.mpr ⟨heeds_snoc.mpr ⟨nofun, nofun, fun _ changes => absurd changes id⟩, nofun, ?_⟩
  intro userId _ x there _
  rw [ann_signed_in, List.mem_singleton] at there
  subst there
  exact Or.inr ⟨_, rfl, by decide, by decide⟩

theorem refresh_survives_change : ∃ moves t x payload,
    Run (CallStep shippedConfig) (AuthState.start staff) moves t ∧ t.sessions[1]? = some x ∧
      Stale t x ∧ t.clock ≤ 8000 ∧ canActivate shippedConfig t 8000 false 1 = .ok payload ∧
      ¬ ChangeHolds shippedConfig t := by
  have refreshes : CallStep shippedConfig changedOver ⟨7000, .refresh 0⟩
      (changedOver.after shippedConfig ⟨7000, .refresh 0⟩) := ⟨by decide, rfl⟩
  have run := ((Run.nil.snoc ann_signs_in).snoc ann_changes).snoc refreshes
  have after : ∃ t x payload, t = changedOver.after shippedConfig ⟨7000, .refresh 0⟩ ∧
      t.sessions[1]? = some x ∧ Stale t x ∧ t.clock ≤ 8000 ∧
      canActivate shippedConfig t 8000 false 1 = .ok payload :=
    ⟨_, ⟨0, 7, 0⟩, ⟨0, 1, 7, 907⟩, rfl, by decide +kernel, by unfold Stale; decide +kernel, by decide,
      by decide +kernel⟩
  obtain ⟨t, x, payload, rfl, there, stale, past, accepted⟩ := after
  exact ⟨_, _, x, payload, run, there, stale, past, accepted,
    fun holds => holds 1 x there stale ⟨8000, false, payload, past, accepted⟩⟩

end Sessions
end Auth
