import MeetingPlatform.Lib.CallPool
import MeetingPlatform.Auth.Sessions

/- Refreshes that run at the same time. A call looks the token up in the blacklist, reads its
   user and signs the new tokens before it writes the old one to the blacklist. -/
namespace Auth
open KeyedTable ExpiringStore LabelledRuns CallPools

/-- The tokens that clients have been given, and those that a call has returned new ones for,
    in the order of the returns. -/
structure Rotation where
  service : AuthState
  handed : List Nat
  spent : List Nat

inductive RotationRequest where
  | login (dto : LoginDto) (ipAddress : Option String)
  | refresh (jti : Nat)

/-- `seen` is the number of returns before the lookup. -/
inductive RotationCall where
  | login (dto : LoginDto) (ipAddress : Option String)
  | presented (jti : Nat)
  | lookedUp (payload : Claims) (seen : Nat)
  | userRead (payload : Claims) (seen : Nat)
  | signed (payload : Claims) (seen newJti : Nat)

section Steps
variable (cfg : AuthConfig)

def Rotation.access (s : Rotation) (now : Nat) : RotationCall → Rotation × Option RotationCall
  | .login dto ipAddress =>
    match login cfg s.service now dto ipAddress with
    | (service, .ok jti) => (⟨service.tick now, jti :: s.handed, s.spent⟩, none)
    | (service, .error _) => (⟨service.tick now, s.handed, s.spent⟩, none)
  | .presented jti => ({ s with service := s.service.tick now },
      match refreshLookup cfg s.service now jti with
      | .ok payload => some (.lookedUp payload s.spent.length)
      | .error _ => none)
  | .lookedUp payload seen => ({ s with service := s.service.tick now },
      match refreshUser s.service.users now payload.sub with
      | .ok _ => some (.userRead payload seen)
      | .error _ => none)
  | .userRead payload seen =>
    let service := s.service.issue now payload.sub (startedOf s.service payload.jti)
    ({ s with service := service.tick now }, some (.signed payload seen s.service.sessions.length))
  | .signed payload _ newJti =>
    (⟨(s.service.revoke now payload).tick now, newJti :: s.handed, s.spent ++ [payload.jti]⟩, none)

def rotationService : Service Rotation RotationCall RotationRequest where
  clock s := s.service.clock
  admits s
    | .login _ _ => True
    | .refresh jti => jti ∈ s.handed
  enter _
    | .login dto ipAddress => .login dto ipAddress
    | .refresh jti => .presented jti
  act now c s := s.access cfg now c

instance (s : Rotation) (r : RotationRequest) : Decidable ((rotationService cfg).admits s r) :=
  match r with
  | .login _ _ => inferInstanceAs (Decidable True)
  | .refresh jti => inferInstanceAs (Decidable (jti ∈ s.handed))

def Unspent (s : Rotation) (jti : Nat) : Prop := jti ∈ s.handed ∧ jti ∉ s.spent

instance (s : Rotation) (jti : Nat) : Decidable (Unspent s jti) :=
  inferInstanceAs (Decidable (_ ∧ _))

structure UsedOnce (s : Rotation) : Prop where
  once : s.spent.Nodup
  single : ∀ i j, Unspent s i → Unspent s j →
    startedOf s.service i = startedOf s.service j → i = j

/-- A call returns only if no other has returned for its token since its own lookup. -/
def Unraced (s : Rotation) (_ : Nat) : RotationCall → Prop
  | .signed payload seen _ => payload.jti ∉ s.spent.drop seen
  | _ => True

instance (s : Rotation) (now : Nat) (c : RotationCall) : Decidable (Unraced s now c) :=
  match c with
  | .signed payload seen _ => inferInstanceAs (Decidable (payload.jti ∉ s.spent.drop seen))
  | .login _ _ | .presented _ | .lookedUp _ _ | .userRead _ _ => inferInstanceAs (Decidable True)

end Steps

section Invariant
variable (cfg : AuthConfig)

/-- A token that was returned for is on the blacklist for the rest of its life. -/
def Dead (s : AuthState) (jti : Nat) : Prop := ∃ x, s.sessions[jti]? = some x ∧
  ((∃ d, s.blacklist.entries jti = some ⟨(), some d⟩ ∧ (x.refresh cfg jti).exp * 1000 ≤ d) ∨
    (x.refresh cfg jti).exp * 1000 ≤ s.clock)

structure Kept (s : Rotation) : Prop where
  dead : ∀ jti ∈ s.spent, Dead cfg s.service jti
  begun : ∀ x ∈ s.service.sessions, x.started < s.service.turn
  issued : ∀ jti ∈ s.handed, ∃ x, s.service.sessions[jti]? = some x

/-- What a call with this token found at its lookup. -/
structure Holds (s : Rotation) (payload : Claims) (seen : Nat) : Prop where
  session : ∃ x, s.service.sessions[payload.jti]? = some x ∧ payload = x.refresh cfg payload.jti
  handed : payload.jti ∈ s.handed
  early : seen ≤ s.spent.length
  unspent : payload.jti ∉ s.spent.take seen

def Fits (s : Rotation) : RotationCall → Prop
  | .login _ _ => True
  | .presented jti => jti ∈ s.handed
  | .lookedUp payload seen => Holds cfg s payload seen
  | .userRead payload seen => Holds cfg s payload seen
  | .signed payload seen newJti => Holds cfg s payload seen ∧
      ∃ x, s.service.sessions[newJti]? = some x ∧ x.started = startedOf s.service payload.jti

end Invariant

section Tokens
variable {cfg : AuthConfig} {s : AuthState} {now jti : Nat} {payload : Claims} {x : Session}

theorem dead_unlisted (dead : Dead cfg s jti) (order : s.clock ≤ now)
    (found : refreshLookup cfg s now jti = .ok payload) : False := by
  obtain ⟨x, there, rest⟩ := dead
  obtain ⟨x', there', -, live, unlisted⟩ := refreshLookup_ok_iff.mp found
  obtain rfl := Option.some.inj (there.symm.trans there')
  have alive : now < (x.refresh cfg jti).exp * 1000 := live
  rcases rest with ⟨d, entry, covers⟩ | expired
  · rw [get_of_entry entry, if_pos (Nat.lt_of_lt_of_le alive covers)] at unlisted
    cases unlisted
  · exact absurd alive (Nat.not_lt.mpr (Nat.le_trans expired order))

theorem revoked_dead (there : s.sessions[jti]? = some x) :
    Dead cfg ((s.revoke now (x.refresh cfg jti)).tick now) jti := by
  refine ⟨x, by simpa using there, ?_⟩
  by_cases live : now < (x.refresh cfg jti).exp * 1000
  · left
    refine ⟨_, ?_, blacklistedUntil_covers now _⟩
    rw [tick_blacklist, revoke_blacklist live]
    exact entries_put_self _
  · exact Or.inr (Nat.not_lt.mp live)

theorem still_dead {other : Nat} (there : s.sessions[other]? = some x) (order : s.clock ≤ now)
    (dead : Dead cfg s jti) : Dead cfg ((s.revoke now (x.refresh cfg other)).tick now) jti := by
  by_cases same : jti = other
  · subst same
    exact revoked_dead there
  obtain ⟨y, found, rest⟩ := dead
  refine ⟨y, by simpa using found, rest.imp ?_ fun expired => Nat.le_trans expired order⟩
  intro covered
  obtain ⟨d, entry, covers⟩ := covered
  refine ⟨d, ?_, covers⟩
  by_cases live : now < (x.refresh cfg other).exp * 1000
  · rw [tick_blacklist, revoke_blacklist live]
    exact (entries_put_of_ne _ same).trans entry
  · rw [revoke_expired (Nat.not_lt.mp live)]
    exact entry

theorem Dead.mono {t : AuthState} (dead : Dead cfg s jti) (order : s.clock ≤ t.clock)
    (blacklist : t.blacklist = s.blacklist)
    (sessions : ∀ {i : Nat} {x : Session}, s.sessions[i]? = some x → t.sessions[i]? = some x) : Dead cfg t jti := by
  obtain ⟨x, there, rest⟩ := dead
  rw [Dead, blacklist]
  exact ⟨x, sessions there, rest.imp_right fun expired => Nat.le_trans expired order⟩

end Tokens

section Growth
variable {cfg : AuthConfig} {s t : Rotation} {now : Nat} {c : RotationCall}

structure Grows (s t : Rotation) : Prop where
  sessions : ∀ {jti : Nat} {x : Session},
    s.service.sessions[jti]? = some x → t.service.sessions[jti]? = some x
  handed : ∀ jti ∈ s.handed, jti ∈ t.handed
  spent : s.spent <+: t.spent

theorem Grows.startedOf (grows : Grows s t) {jti : Nat} {x : Session}
    (there : s.service.sessions[jti]? = some x) :
    startedOf t.service jti = startedOf s.service jti := by
  simp only [Auth.startedOf, there, grows.sessions there]

theorem Holds.mono {payload : Claims} {seen : Nat} (holds : Holds cfg s payload seen)
    (grows : Grows s t) : Holds cfg t payload seen := by
  obtain ⟨x, there, same⟩ := holds.session
  obtain ⟨more, spent⟩ := grows.spent
  refine ⟨⟨x, grows.sessions there, same⟩, grows.handed _ holds.handed, ?_, ?_⟩
  · rw [← spent, List.length_append]
    exact Nat.le_add_right_of_le holds.early
  · rw [← spent, List.take_append_of_le_length holds.early]
    exact holds.unspent

theorem Fits.mono (fits : Fits cfg s c) (grows : Grows s t) : Fits cfg t c := by
  cases c with
  | login _ _ => trivial
  | presented jti => exact grows.handed jti fits
  | lookedUp payload seen => exact Holds.mono fits grows
  | userRead payload seen => exact Holds.mono fits grows
  | signed payload seen newJti =>
    obtain ⟨holds, x, there, chain⟩ := fits
    obtain ⟨y, here, -⟩ := holds.session
    exact ⟨holds.mono grows, x, grows.sessions there, chain.trans (grows.startedOf here).symm⟩

theorem access_grows : Grows s (s.access cfg now c).1 := by
  cases c with
  | login dto ipAddress =>
    obtain ⟨t, -, ⟨refused, result, same⟩ | ⟨userId, result, issued⟩⟩ :=
      login_cases cfg s.service now dto ipAddress
    · simp only [Rotation.access, result]
      have sessions : t.sessions = s.service.sessions := congrArg Core.sessions same
      exact ⟨fun there => by simpa [sessions] using there, fun _ there => there, List.prefix_rfl⟩
    · simp only [Rotation.access, result]
      have sessions : t.sessions = (s.service.issue now userId s.service.turn).sessions :=
        congrArg Core.sessions issued
      refine ⟨?_, fun _ there => List.mem_cons_of_mem _ there, List.prefix_rfl⟩
      intro jti x there
      rw [tick_sessions, sessions]
      exact session_issued.mpr (Or.inl there)
  | userRead payload seen =>
    exact ⟨fun there => session_issued.mpr (Or.inl there), fun _ there => there, List.prefix_rfl⟩
  | signed payload seen newJti =>
    refine ⟨?_, fun _ there => List.mem_cons_of_mem _ there, List.prefix_append _ _⟩
    intro jti x there
    simpa [Rotation.access] using there
  | _ => exact ⟨id, fun _ there => there, List.prefix_rfl⟩

end Growth

section Keeping
variable {cfg : AuthConfig} {s : Rotation} {now : Nat}

theorem startedOf_lt (kept : Kept cfg s) {jti : Nat} {x : Session}
    (there : s.service.sessions[jti]? = some x) : startedOf s.service jti < s.service.turn := by
  simp only [startedOf, there]
  exact kept.begun x (List.mem_of_getElem? there)

theorem kept_tick (kept : Kept cfg s) (order : s.service.clock ≤ now) :
    Kept cfg { s with service := s.service.tick now } where
  dead jti spent := (kept.dead jti spent).mono order rfl id
  begun x there := Nat.lt_succ_of_lt (kept.begun x there)
  issued := kept.issued

theorem kept_issue (kept : Kept cfg s) (order : s.service.clock ≤ now) {t : AuthState}
    {handed : List Nat} {userId started : Nat} (begun : started ≤ s.service.turn)
    (turn : t.turn = s.service.turn) (blacklist : t.blacklist = s.service.blacklist)
    (sessions : t.sessions = (s.service.issue now userId started).sessions)
    (given : ∀ jti ∈ handed, jti ∈ s.handed ∨ jti = s.service.sessions.length) :
    Kept cfg ⟨t.tick now, handed, s.spent⟩ := by
  have grows : ∀ {i : Nat} {x : Session},
      s.service.sessions[i]? = some x → (t.tick now).sessions[i]? = some x := by
    intro i x there
    rw [tick_sessions, sessions]
    exact session_issued.mpr (Or.inl there)
  constructor
  · intro jti spent
    exact (kept.dead jti spent).mono order blacklist grows
  · intro x there
    rw [tick_sessions, sessions, issue_sessions] at there
    rw [tick_turn, turn]
    rcases List.mem_append.mp there with old | new
    · exact Nat.lt_succ_of_lt (kept.begun x old)
    · rw [List.mem_singleton.mp new]
      exact Nat.lt_succ_of_le begun
  · intro jti there
    rcases given jti there with old | rfl
    · obtain ⟨x, found⟩ := kept.issued jti old
      exact ⟨x, grows found⟩
    · refine ⟨⟨userId, now / 1000, started⟩, ?_⟩
      rw [tick_sessions, sessions]
      exact session_issued.mpr (Or.inr ⟨rfl, rfl⟩)

theorem kept_spend (kept : Kept cfg s) (order : s.service.clock ≤ now) {payload : Claims}
    {newJti : Nat} {x y : Session} (there : s.service.sessions[payload.jti]? = some x)
    (claims : payload = x.refresh cfg payload.jti) (new : s.service.sessions[newJti]? = some y) :
    Kept cfg ⟨(s.service.revoke now payload).tick now, newJti :: s.handed,
      s.spent ++ [payload.jti]⟩ := by
  constructor
  · intro jti spent
    rw [claims]
    rcases List.mem_append.mp spent with old | own
    · exact still_dead there order (kept.dead jti old)
    · rw [List.mem_singleton.mp own]
      exact revoked_dead there
  · intro z held
    simp only [tick_sessions, revoke_sessions] at held
    simp only [tick_turn, revoke_turn]
    exact Nat.lt_succ_of_lt (kept.begun z held)
  · intro jti given
    simp only [tick_sessions, revoke_sessions]
    rcases List.mem_cons.mp given with rfl | old
    · exact ⟨y, new⟩
    · exact kept.issued jti old

theorem access_kept {c : RotationCall} (kept : Kept cfg s) (fits : Fits cfg s c)
    (order : s.service.clock ≤ now) : Kept cfg (s.access cfg now c).1 := by
  cases c with
  | login dto ipAddress =>
    obtain ⟨t, turn, ⟨refused, result, same⟩ | ⟨userId, result, issued⟩⟩ :=
      login_cases cfg s.service now dto ipAddress
    · simp only [Rotation.access, result]
      have sessions : t.sessions = s.service.sessions := congrArg Core.sessions same
      have blacklist : t.blacklist = s.service.blacklist := congrArg Core.blacklist same
      constructor
      · intro jti spent
        refine (kept.dead jti spent).mono order blacklist ?_
        intro i x there
        rw [tick_sessions, sessions]
        exact there
      · intro x there
        rw [tick_sessions, sessions] at there
        rw [tick_turn, turn]
        exact Nat.lt_succ_of_lt (kept.begun x there)
      · intro jti given
        rw [tick_sessions, sessions]
        exact kept.issued jti given
    · simp only [Rotation.access, result]
      refine kept_issue kept order (Nat.le_refl _) turn (congrArg Core.blacklist issued)
        (congrArg Core.sessions issued) ?_
      intro jti given
      rcases List.mem_cons.mp given with rfl | old
      · exact Or.inr rfl
      · exact Or.inl old
  | userRead payload seen =>
    obtain ⟨x, there, -⟩ := fits.session
    exact kept_issue kept order (Nat.le_of_lt (startedOf_lt kept there)) rfl rfl rfl
      fun jti given => Or.inl given
  | signed payload seen newJti =>
    obtain ⟨holds, y, new, -⟩ := fits
    obtain ⟨x, there, claims⟩ := holds.session
    exact kept_spend kept order there claims new
  | _ => exact kept_tick kept order

theorem access_fits {c c' : RotationCall} (kept : Kept cfg s) (fits : Fits cfg s c)
    (order : s.service.clock ≤ now) (rest : (s.access cfg now c).2 = some c') :
    Fits cfg (s.access cfg now c).1 c' := by
  cases c with
  | login dto ipAddress =>
    obtain ⟨t, -, ⟨refused, result, -⟩ | ⟨userId, result, -⟩⟩ :=
      login_cases cfg s.service now dto ipAddress
    all_goals
      simp only [Rotation.access, result] at rest
      cases rest
  | presented jti =>
    cases found : refreshLookup cfg s.service now jti with
    | error refused =>
      simp only [Rotation.access, found] at rest
      cases rest
    | ok payload =>
      simp only [Rotation.access, found] at rest
      cases rest
      obtain ⟨x, there, rfl, -⟩ := refreshLookup_ok_iff.mp found
      have unspent : jti ∉ s.spent := fun spent => dead_unlisted (kept.dead jti spent) order found
      refine ⟨⟨x, there, rfl⟩, fits, Nat.le_refl _, ?_⟩
      simpa [Rotation.access, Session.refresh] using unspent
  | lookedUp payload seen =>
    simp only [Rotation.access] at rest
    split at rest
    · cases rest
      exact fits.mono access_grows
    · cases rest
  | userRead payload seen =>
    cases rest
    obtain ⟨x, there, claims⟩ := fits.session
    refine ⟨Holds.mono fits access_grows, ⟨payload.sub, now / 1000, _⟩,
      session_issued.mpr (Or.inr ⟨rfl, rfl⟩), ?_⟩
    exact (access_grows.startedOf there).symm
  | signed payload seen newJti => cases rest

theorem rotation_keeps : Keeps (rotationService cfg) (Kept cfg) (Fits cfg) (fun _ _ => True)
    (fun _ _ _ => True) where
  symm _ _ _ := trivial
  enters s r _ admitted := by
    cases r with
    | login _ _ => trivial
    | refresh jti => exact admitted
  alone _ _ _ _ _ _ := trivial
  inv _ _ _ kept fits order _ := access_kept kept fits order
  next _ _ _ _ kept fits order _ rest := access_fits kept fits order rest
  others _ _ _ _ _ _ fits _ _ _ := fits.mono access_grows
  still_apart _ _ _ _ _ _ _ _ _ _ _ _ := trivial

end Keeping

section Once
variable {cfg : AuthConfig} {s : Rotation} {now : Nat}

theorem Holds.unspent_iff {payload : Claims} {seen : Nat} (holds : Holds cfg s payload seen) :
    payload.jti ∉ s.spent ↔ payload.jti ∉ s.spent.drop seen := by
  constructor
  · intro unspent later
    exact unspent (List.mem_of_mem_drop later)
  · intro later spent
    rw [← List.take_append_drop seen s.spent] at spent
    rcases List.mem_append.mp spent with early | late
    · exact holds.unspent early
    · exact later late

theorem once_mono {t : Rotation} (kept : Kept cfg s) (once : UsedOnce s) (grows : Grows s t)
    (spent : t.spent = s.spent) (given : ∀ jti ∈ t.handed, jti ∈ s.handed ∨
      jti = s.service.sessions.length ∧ startedOf t.service jti = s.service.turn) : UsedOnce t := by
  have earlier : ∀ jti ∈ s.handed, startedOf t.service jti = startedOf s.service jti ∧
      startedOf s.service jti < s.service.turn := by
    intro jti there
    obtain ⟨x, found⟩ := kept.issued jti there
    exact ⟨grows.startedOf found, startedOf_lt kept found⟩
  refine ⟨spent ▸ once.once, ?_⟩
  intro i j hi hj same
  rw [Unspent, spent] at hi hj
  rcases given i hi.1 with old | ⟨rfl, new⟩
  · rcases given j hj.1 with old' | ⟨rfl, new'⟩
    · rw [(earlier i old).1, (earlier j old').1] at same
      exact once.single i j ⟨old, hi.2⟩ ⟨old', hj.2⟩ same
    · have := earlier i old
      omega
  · rcases given j hj.1 with old' | ⟨rfl, -⟩
    · have := earlier j old'
      omega
    · rfl

theorem spend_once_iff {payload : Claims} {seen newJti : Nat} (once : UsedOnce s)
    (fits : Fits cfg s (.signed payload seen newJti)) :
    UsedOnce (s.access cfg now (.signed payload seen newJti)).1 ↔
      payload.jti ∉ s.spent.drop seen := by
  obtain ⟨holds, y, new, chain⟩ := fits
  rw [← holds.unspent_iff]
  constructor
  · intro after spent
    have nodup : (s.spent ++ [payload.jti]).Nodup := after.once
    exact (List.nodup_append.mp nodup).2.2 _ spent _ (List.mem_singleton_self _) rfl
  · intro unspent
    have nodup : (s.spent ++ [payload.jti]).Nodup := by
      rw [List.nodup_append]
      refine ⟨once.once, List.nodup_singleton _, ?_⟩
      intro a there b own same
      rw [List.mem_singleton.mp own] at same
      exact unspent (same ▸ there)
    refine ⟨nodup, ?_⟩
    have started : startedOf s.service newJti = startedOf s.service payload.jti := by
      simpa [startedOf, new] using chain
    have own : ∀ jti, Unspent s jti →
        startedOf s.service jti = startedOf s.service payload.jti → jti = payload.jti :=
      fun jti there same => once.single jti _ there ⟨holds.handed, unspent⟩ same
    have cases_of : ∀ jti, Unspent (s.access cfg now (.signed payload seen newJti)).1 jti →
        jti = newJti ∨ Unspent s jti ∧ jti ≠ payload.jti := by
      intro jti there
      obtain ⟨handed, left⟩ := there
      simp only [Rotation.access, List.mem_append, List.mem_singleton, not_or] at left
      rcases List.mem_cons.mp handed with here | old
      · exact Or.inl here
      · exact Or.inr ⟨⟨old, left.1⟩, left.2⟩
    have kept_start : ∀ jti, startedOf (s.access cfg now (.signed payload seen newJti)).1.service jti =
        startedOf s.service jti := by
      intro jti
      simp [startedOf, Rotation.access]
    intro i j hi hj same
    rw [kept_start, kept_start] at same
    rcases cases_of i hi with rfl | ⟨ui, ni⟩
    · rcases cases_of j hj with rfl | ⟨uj, nj⟩
      · rfl
      · exact absurd (own j uj (same.symm.trans started)) nj
    · rcases cases_of j hj with rfl | ⟨uj, nj⟩
      · exact absurd (own i ui (same.trans started)) ni
      · exact once.single i j ui uj same

theorem access_once_iff {c : RotationCall} (kept : Kept cfg s) (fits : Fits cfg s c)
    (once : UsedOnce s) : UsedOnce (s.access cfg now c).1 ↔ Unraced s now c := by
  have grows : Grows s (s.access cfg now c).1 := access_grows
  cases c with
  | login dto ipAddress =>
    refine iff_of_true ?_ trivial
    obtain ⟨t, -, ⟨refused, result, -⟩ | ⟨userId, result, issued⟩⟩ :=
      login_cases cfg s.service now dto ipAddress
    · simp only [Rotation.access, result] at grows ⊢
      exact once_mono kept once grows rfl fun jti given => Or.inl given
    · simp only [Rotation.access, result] at grows ⊢
      refine once_mono kept once grows rfl ?_
      intro jti given
      rcases List.mem_cons.mp given with rfl | old
      · have sessions : t.sessions = s.service.sessions ++ [⟨userId, now / 1000, s.service.turn⟩] :=
          congrArg Core.sessions issued
        exact Or.inr ⟨rfl, by simp [startedOf, sessions]⟩
      · exact Or.inl old
  | signed payload seen newJti => exact spend_once_iff once fits
  | presented jti =>
    exact iff_of_true (once_mono kept once grows rfl fun jti given => Or.inl given) trivial
  | lookedUp payload seen =>
    exact iff_of_true (once_mono kept once grows rfl fun jti given => Or.inl given) trivial
  | userRead payload seen =>
    exact iff_of_true (once_mono kept once grows rfl fun jti given => Or.inl given) trivial

end Once

section Rotations
variable {cfg : AuthConfig} {users : Table User} {p : Pool Rotation RotationCall}
  {moves : List (Move (Pool Rotation RotationCall) (Turn RotationRequest))}

def Rotation.start (users : Table User) : Rotation := ⟨AuthState.start users, [], []⟩

theorem kept_start : Kept cfg (Rotation.start users) := ⟨nofun, nofun, nofun⟩

/-- Each refresh token is returned for at most once, and each login has at most one left that
    is not, exactly in the runs where no call returns after another for the same token has
    returned since its lookup. -/
theorem refresh_used_once_iff
    (run : Run (Step (rotationService cfg)) (Pool.idle (Rotation.start users)) moves p) :
    (∀ a ∈ visited (Pool.idle (Rotation.start users)) moves, UsedOnce a.shared) ↔
      Heeds (Allows Unraced) moves := by
  refine states_safe_iff (Sound (Kept cfg) (Fits cfg) fun _ _ => True)
    (fun a => UsedOnce a.shared) run (sound_idle kept_start) ⟨List.nodup_nil, nofun⟩ ?_ ?_
  · intro a l b sound step
    refine sound_step rotation_keeps sound step ?_
    cases l with
    | enter i r => trivial
    | act i now => exact fun _ _ => trivial
  · intro a l b sound once step
    cases step with
    | enter free admitted => exact iff_of_true once trivial
    | @act i now c waiting order =>
      have exact_here : UsedOnce (a.shared.access cfg now c).1 ↔ Unraced a.shared now c :=
        access_once_iff sound.shared (sound.fits i c waiting) once
      refine exact_here.trans ⟨?_, fun allowed => allowed c waiting⟩
      intro unraced d found
      cases waiting.symm.trans found
      exact unraced

def annsRefresh : List (Turn RotationRequest) :=
  [.enter 0 (.login ⟨"ann@example.com", "first"⟩ none), .act 0 1000, .enter 1 (.refresh 0),
    .act 1 2000, .act 1 2001, .act 1 2002, .act 1 2003]

theorem one_refresh_at_a_time : ∃ moves p,
    Run (Step (rotationService shippedConfig)) (Pool.idle (Rotation.start staff)) moves p ∧
      p.shared.spent = [0] ∧ ∀ a ∈ visited (Pool.idle (Rotation.start staff)) moves,
        UsedOnce a.shared := by
  have follows : Follows (rotationService shippedConfig) Unraced
      (Pool.idle (Rotation.start staff)) annsRefresh := by decide +kernel
  obtain ⟨moves, run, heeds⟩ := follows_run follows
  exact ⟨moves, _, run, by decide +kernel, (refresh_used_once_iff run).mpr heeds⟩

/-- Both calls look the token up before either writes it to the blacklist. -/
def annsRace : List (Turn RotationRequest) :=
  [.enter 0 (.login ⟨"ann@example.com", "first"⟩ none), .act 0 1000, .enter 1 (.refresh 0),
    .enter 2 (.refresh 0), .act 1 2000, .act 2 2000, .act 1 2001, .act 2 2001, .act 1 2002,
    .act 2 2002, .act 1 2003, .act 2 2003]

theorem token_used_twice : ∃ moves p,
    Run (Step (rotationService shippedConfig)) (Pool.idle (Rotation.start staff)) moves p ∧
      p.shared.spent = [0, 0] ∧ Unspent p.shared 1 ∧ Unspent p.shared 2 ∧
      startedOf p.shared.service 1 = startedOf p.shared.service 2 ∧ ¬ UsedOnce p.shared := by
  have follows : Follows (rotationService shippedConfig) (fun _ _ _ => True)
      (Pool.idle (Rotation.start staff)) annsRace := by decide +kernel
  obtain ⟨moves, run, -⟩ := follows_run follows
  refine ⟨moves, _, run, by decide +kernel, by decide +kernel, by decide +kernel,
    by decide +kernel, ?_⟩
  intro once
  exact absurd once.once (by decide +kernel)

end Rotations
end Auth
