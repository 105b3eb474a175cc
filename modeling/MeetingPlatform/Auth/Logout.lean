import MeetingPlatform.Auth.Sessions

/- What a logout ends. Both tokens of a session answer to one entry of the blacklist, and the
   entry of a logout lives as long as the access token. -/
namespace Auth
open KeyedTable ExpiringStore LabelledRuns

section Logouts
variable (cfg : AuthConfig)

/-- The sessions that were logged out are kept beside the data of the service. -/
structure Watched where
  service : AuthState
  ended : List Nat

def endedBy (s : AuthState) (l : TimedCall) : List Nat :=
  match l.call with
  | .logout jti =>
    match (logout cfg s l.now jti).2 with
    | .ok _ => [jti]
    | .error _ => []
  | _ => []

def WatchedStep (w : Watched) (l : TimedCall) (v : Watched) : Prop :=
  CallStep cfg w.service l v.service ∧ v.ended = endedBy cfg w.service l ++ w.ended

/-- One of the two tokens passes: the access token a guard that asks the blacklist, or the
    refresh token the refresh. -/
def Passes (s : AuthState) (now jti : Nat) : Prop :=
  (∃ payload, canActivate cfg s now false jti = .ok payload) ∨
    ∃ new, (refresh cfg s now jti).2 = .ok new

def LogoutHolds (w : Watched) : Prop :=
  ∀ jti ∈ w.ended, ∀ now, w.service.clock ≤ now → ¬ Passes cfg w.service now jti

/-- At a logout nothing is left for the refresh token once the entry has gone. -/
def SpentWithAccess (w : Watched) (l : TimedCall) : Prop :=
  ∀ jti x, l.call = .logout jti → w.service.sessions[jti]? = some x →
    LoggedOut cfg w.service l.now jti → cfg.refreshTokenTtlSeconds ≤ cfg.accessTokenTtlSeconds ∨
      refreshUser w.service.users (blacklistedUntil l.now (x.access cfg jti).exp) x.sub ≠ .ok ()

end Logouts

section Blacklisted
variable {cfg : AuthConfig} {s t : AuthState} {w v : Watched} {l : TimedCall}

def Listed (cfg : AuthConfig) (s : AuthState) (jti : Nat) : Prop :=
  ∃ x d, s.sessions[jti]? = some x ∧ s.blacklist.entries jti = some ⟨(), some d⟩ ∧
    (x.iat + cfg.accessTokenTtlSeconds) * 1000 ≤ d

theorem mem_endedBy {jti : Nat} :
    jti ∈ endedBy cfg s l ↔ l.call = .logout jti ∧ LoggedOut cfg s l.now jti := by
  obtain ⟨now, call⟩ := l
  cases call with
  | logout named =>
    by_cases same : named = jti
    · subst same
      cases passed : canActivate cfg s now true named <;>
        simp [endedBy, logout, passed, LoggedOut]
    · have other : jti ≠ named := fun named => same named.symm
      cases passed : canActivate cfg s now true named <;>
        simp [endedBy, logout, passed, same, other]
  | _ => simp [endedBy]

theorem passes_iff {now jti d : Nat} {x : Session} (there : s.sessions[jti]? = some x)
    (entry : s.blacklist.entries jti = some ⟨(), some d⟩)
    (covers : (x.iat + cfg.accessTokenTtlSeconds) * 1000 ≤ d) : Passes cfg s now jti ↔
      d ≤ now ∧ now < (x.iat + cfg.refreshTokenTtlSeconds) * 1000 ∧
        refreshUser s.users now x.sub = .ok () := by
  have listed : s.blacklist.get now jti = none ↔ d ≤ now := by
    rw [get_of_entry entry]
    by_cases live : now < d
    · simp [live]
    · simp [live, Nat.not_lt.mp live]
  rw [Passes, refresh_ok_iff, granted_iff there, listed]
  constructor
  · intro passes
    rcases passes with ⟨payload, passed⟩ | ⟨live, gone, user⟩
    · obtain ⟨x', there', -, live, unlisted, -⟩ := canActivate_ok_iff.mp passed
      obtain rfl := Option.some.inj (there.symm.trans there')
      have gone : d ≤ now := listed.mp (unlisted rfl)
      omega
    · exact ⟨gone, live, user⟩
  · intro passes
    obtain ⟨gone, live, user⟩ := passes
    exact Or.inr ⟨live, gone, user⟩

theorem refreshUser_later {users : Table User} {now later sub : Nat} (order : now ≤ later)
    (passed : refreshUser users later sub = .ok ()) : refreshUser users now sub = .ok () := by
  unfold refreshUser at passed ⊢
  cases found : (users.get? sub).filter fun user => user.deletedAt = none with
  | none => simp [found] at passed
  | some user =>
    simp only [found] at passed ⊢
    by_cases expired : user.Expired later
    · simp [expired] at passed
    · have before : ¬ user.Expired now := by
        intro already
        obtain ⟨e, at_e, past⟩ := already
        exact expired ⟨e, at_e, Nat.le_trans past order⟩
      rw [if_neg expired] at passed
      rw [if_neg before]
      exact passed

theorem over_iff {jti d : Nat} {x : Session} (there : s.sessions[jti]? = some x)
    (entry : s.blacklist.entries jti = some ⟨(), some d⟩)
    (covers : (x.iat + cfg.accessTokenTtlSeconds) * 1000 ≤ d) (ahead : s.clock ≤ d) :
    (∀ now, s.clock ≤ now → ¬ Passes cfg s now jti) ↔
      (x.iat + cfg.refreshTokenTtlSeconds) * 1000 ≤ d ∨ refreshUser s.users d x.sub ≠ .ok () := by
  simp only [passes_iff there entry covers]
  constructor
  · intro never
    by_contra open_
    obtain ⟨live, passed⟩ := not_or.mp open_
    exact never d ahead ⟨Nat.le_refl d, Nat.not_le.mp live, of_not_not passed⟩
  · intro over_ now _ passes
    obtain ⟨gone, live, passed⟩ := passes
    rcases over_ with spent | refused
    · omega
    · exact refused (refreshUser_later gone passed)

end Blacklisted

section Steps
variable {cfg : AuthConfig} {w v : Watched} {l : TimedCall}

def AllListed (cfg : AuthConfig) (w : Watched) : Prop := ∀ jti ∈ w.ended, Listed cfg w.service jti

theorem listed_step (ordered : cfg.accessTokenTtlSeconds ≤ cfg.refreshTokenTtlSeconds)
    (listed : AllListed cfg w) (move : WatchedStep cfg w l v) : AllListed cfg v := by
  obtain ⟨called, ended⟩ := move
  obtain ⟨-, -, -, c, same, effect⟩ := called.effect
  intro jti there
  have sessions : v.service.sessions = c.sessions := congrArg Core.sessions same
  have blacklist : v.service.blacklist = c.blacklist := congrArg Core.blacklist same
  rw [Listed, sessions, blacklist]
  rcases effect.entry jti with ⟨kept, stays⟩ | ⟨x, payload, found, written, how⟩
  · have before : jti ∈ w.ended := by
      rw [ended] at there
      exact (List.mem_append.mp there).resolve_left fun now => stays (mem_endedBy.mp now)
    obtain ⟨x, d, found, entry, covers⟩ := listed jti before
    exact ⟨x, d, effect.session found, kept.trans entry, covers⟩
  · have reaches : x.iat + cfg.accessTokenTtlSeconds ≤ payload.exp := by
      rcases how with ⟨-, -, rfl⟩ | ⟨-, -, rfl⟩
      · exact Nat.add_le_add_left ordered _
      · exact Nat.le_refl _
    exact ⟨x, _, effect.session found, written,
      Nat.le_trans (Nat.mul_le_mul_right 1000 reaches) (blacklistedUntil_covers _ _)⟩

theorem users_step (move : WatchedStep cfg w l v) (now sub : Nat) :
    refreshUser v.service.users now sub = refreshUser w.service.users now sub := by
  obtain ⟨⟨-, after⟩, -⟩ := move
  rw [after]
  exact (call_users l.call).refreshUser now sub

theorem logged_out_entry {jti : Nat} {x : Session} (move : WatchedStep cfg w l v)
    (logsOut : l.call = .logout jti) (there : w.service.sessions[jti]? = some x)
    (done : LoggedOut cfg w.service l.now jti) : jti ∈ v.ended ∧
      v.service.sessions[jti]? = some x ∧ v.service.blacklist.entries jti =
        some ⟨(), some (blacklistedUntil l.now (x.access cfg jti).exp)⟩ := by
  obtain ⟨called, ended⟩ := move
  obtain ⟨-, -, -, c, same, effect⟩ := called.effect
  have sessions : v.service.sessions = c.sessions := congrArg Core.sessions same
  have blacklist : v.service.blacklist = c.blacklist := congrArg Core.blacklist same
  rw [ended, sessions, blacklist]
  refine ⟨List.mem_append_left _ (mem_endedBy.mpr ⟨logsOut, done⟩), effect.session there, ?_⟩
  rcases effect.entry jti with ⟨-, stays⟩ | ⟨x', payload, there', written, how⟩
  · exact absurd ⟨logsOut, done⟩ stays
  · obtain rfl := Option.some.inj (there.symm.trans there')
    rcases how with ⟨refreshes, -⟩ | ⟨-, -, rfl⟩
    · cases logsOut.symm.trans refreshes
    · exact written

theorem logout_over_iff {jti : Nat} {x : Session} (move : WatchedStep cfg w l v)
    (logsOut : l.call = .logout jti) (there : w.service.sessions[jti]? = some x)
    (done : LoggedOut cfg w.service l.now jti) :
    (∀ now, v.service.clock ≤ now → ¬ Passes cfg v.service now jti) ↔
      cfg.refreshTokenTtlSeconds ≤ cfg.accessTokenTtlSeconds ∨
        refreshUser w.service.users (blacklistedUntil l.now (x.access cfg jti).exp) x.sub ≠ .ok () := by
  obtain ⟨-, still, entry⟩ := logged_out_entry move logsOut there done
  obtain ⟨payload, passed⟩ := done
  obtain ⟨x', there', -, live, -⟩ := canActivate_ok_iff.mp passed
  obtain rfl := Option.some.inj (there.symm.trans there')
  have covers := blacklistedUntil_covers l.now (x.access cfg jti).exp
  have close : blacklistedUntil l.now (x.access cfg jti).exp < _ := blacklistedUntil_close live
  obtain ⟨d, until_⟩ : ∃ d, blacklistedUntil l.now (x.access cfg jti).exp = d := ⟨_, rfl⟩
  have clock : v.service.clock = l.now := move.1.effect.2.1
  rw [until_] at entry covers close ⊢
  simp only [Session.access] at covers close
  rw [over_iff still entry covers (by omega), users_step move]
  refine or_congr_left ?_
  omega

theorem logout_exact (listed : AllListed cfg w) (safe : LogoutHolds cfg w) (move : WatchedStep cfg w l v) :
    LogoutHolds cfg v ↔ SpentWithAccess cfg w l := by
  constructor
  · intro holds jti x logsOut there done
    obtain ⟨ended, -⟩ := logged_out_entry move logsOut there done
    exact (logout_over_iff move logsOut there done).mp (holds jti ended)
  · intro spent jti there
    obtain ⟨order, clock, -, c, same, effect⟩ := move.1.effect
    have sessions : v.service.sessions = c.sessions := congrArg Core.sessions same
    have blacklist : v.service.blacklist = c.blacklist := congrArg Core.blacklist same
    by_cases logsOut : l.call = .logout jti ∧ LoggedOut cfg w.service l.now jti
    · obtain ⟨x, found⟩ := logsOut.2.found
      exact (logout_over_iff move logsOut.1 found logsOut.2).mpr
        (spent jti x logsOut.1 found logsOut.2)
    have before : jti ∈ w.ended := by
      rw [move.2] at there
      exact (List.mem_append.mp there).resolve_left fun now => logsOut (mem_endedBy.mp now)
    rcases effect.entry jti with ⟨kept, -⟩ | ⟨x, payload, found, written, how⟩
    · obtain ⟨x, d, found, entry, covers⟩ := listed jti before
      have still : v.service.sessions[jti]? = some x := by
        rw [sessions]
        exact effect.session found
      have entry' : v.service.blacklist.entries jti = some ⟨(), some d⟩ := by
        rw [blacklist]
        exact kept.trans entry
      intro now later passes
      rw [passes_iff still entry' covers, users_step move] at passes
      exact safe jti before now (by omega) ((passes_iff found entry covers).mpr passes)
    · rcases how with ⟨-, granted, -⟩ | ⟨named, done, -⟩
      · exact absurd (Or.inr (refresh_ok_iff.mpr granted)) (safe jti before l.now order)
      · exact absurd ⟨named, done⟩ logsOut

end Steps

section Sessions
variable {cfg : AuthConfig} {users : Table User} {w : Watched}
  {moves : List (Move Watched TimedCall)}

/-- Logged out for good: exactly in the runs whose logouts leave the refresh token no life past
    the entry, or no user to be used for. -/
theorem logout_final_iff (ordered : cfg.accessTokenTtlSeconds ≤ cfg.refreshTokenTtlSeconds)
    (run : Run (WatchedStep cfg) ⟨AuthState.start users, []⟩ moves w) :
    (∀ a ∈ visited ⟨AuthState.start users, []⟩ moves, LogoutHolds cfg a) ↔
      Heeds (SpentWithAccess cfg) moves := by
  refine states_safe_iff (AllListed cfg) (LogoutHolds cfg) run nofun nofun ?_ ?_
  · exact listed_step ordered
  · exact logout_exact

def annLogsOut : TimedCall := ⟨2000, .logout 0⟩

def oneLife : AuthConfig := { shippedConfig with refreshTokenTtlSeconds := 900 }

def shortSession : AuthState := (AuthState.start staff).after oneLife ⟨1000, annSignsIn⟩

theorem logout_with_one_life : ∃ moves w,
    Run (WatchedStep oneLife) ⟨AuthState.start staff, []⟩ moves w ∧ 0 ∈ w.ended ∧
      ∀ a ∈ visited ⟨AuthState.start staff, []⟩ moves, LogoutHolds oneLife a := by
  have first : WatchedStep oneLife ⟨AuthState.start staff, []⟩ ⟨1000, annSignsIn⟩
      ⟨shortSession, []⟩ := ⟨⟨by decide, rfl⟩, rfl⟩
  have second : WatchedStep oneLife ⟨shortSession, []⟩ annLogsOut
      ⟨shortSession.after oneLife annLogsOut, [0]⟩ := ⟨⟨by decide, rfl⟩, by decide +kernel⟩
  have run := (Run.nil.snoc first).snoc second
  refine ⟨_, _, run, by decide, (logout_final_iff (by decide) run).mpr ?_⟩
  intro m _ jti x _ _ _
  exact Or.inl (Nat.le_refl _)

theorem refresh_after_logout : ∃ moves w,
    shippedConfig.accessTokenTtlSeconds ≤ shippedConfig.refreshTokenTtlSeconds ∧
      Run (WatchedStep shippedConfig) ⟨AuthState.start staff, []⟩ moves w ∧ 0 ∈ w.ended ∧
      w.service.clock ≤ 902000 ∧ (refresh shippedConfig w.service 902000 0).2 = .ok 1 ∧
      ¬ LogoutHolds shippedConfig w := by
  have first : WatchedStep shippedConfig ⟨AuthState.start staff, []⟩ ⟨1000, annSignsIn⟩
      ⟨signedIn, []⟩ := ⟨ann_signs_in, rfl⟩
  have second : WatchedStep shippedConfig ⟨signedIn, []⟩ annLogsOut
      ⟨signedIn.after shippedConfig annLogsOut, [0]⟩ := ⟨⟨by decide, rfl⟩, by decide +kernel⟩
  have renewed : (refresh shippedConfig (signedIn.after shippedConfig annLogsOut) 902000 0).2 =
      .ok 1 := by decide +kernel
  refine ⟨_, _, by decide, (Run.nil.snoc first).snoc second, by decide, by decide, renewed, ?_⟩
  intro holds
  exact holds 0 (by decide) 902000 (by decide) (Or.inr ⟨1, renewed⟩)

end Sessions
end Auth
