import MeetingPlatform.Lib.Runs
import Mathlib.Logic.Function.Basic

/- Calls of a service that run at the same time. A call is cut into its accesses of the shared
   data; at every turn a call is entered, or one of those under way makes its next access. -/
namespace CallPools
open LabelledRuns
variable {Shared Call Request : Type}

/-- `act` is the next access of a call at an instant, with what remains of the call. -/
structure Service (Shared Call Request : Type) where
  clock : Shared → Nat
  admits : Shared → Request → Prop
  enter : Shared → Request → Call
  act : Nat → Call → Shared → Shared × Option Call

structure Pool (Shared Call : Type) where
  shared : Shared
  calls : Nat → Option Call

def Pool.idle (s : Shared) : Pool Shared Call := ⟨s, fun _ => none⟩

inductive Turn (Request : Type) where
  | enter (i : Nat) (r : Request)
  | act (i now : Nat)

inductive Step (v : Service Shared Call Request) :
    Pool Shared Call → Turn Request → Pool Shared Call → Prop where
  | enter {p : Pool Shared Call} {i : Nat} {r : Request} (free : p.calls i = none)
      (admitted : v.admits p.shared r) :
      Step v p (.enter i r) ⟨p.shared, Function.update p.calls i (some (v.enter p.shared r))⟩
  | act {p : Pool Shared Call} {i now : Nat} {c : Call} (waiting : p.calls i = some c)
      (order : v.clock p.shared ≤ now) :
      Step v p (.act i now)
        ⟨(v.act now c p.shared).1, Function.update p.calls i (v.act now c p.shared).2⟩

/-- At the move, the call makes its next access. -/
def Acts (m : Move (Pool Shared Call) (Turn Request)) (i : Nat) (c : Call) : Prop :=
  m.before.calls i = some c ∧ ∃ now, m.label = .act i now

def added {A : Type} (adds : Nat → Call → Shared → List A) (m : Move (Pool Shared Call) (Turn Request)) :
    List A :=
  match m.label with
  | .enter _ _ => []
  | .act i now => (m.before.calls i).elim [] fun c => adds now c m.before.shared

/-- A condition on accesses, as one on turns. -/
def Allows (ok : Shared → Nat → Call → Prop) (p : Pool Shared Call) : Turn Request → Prop
  | .enter _ _ => True
  | .act i now => ∀ c, p.calls i = some c → ok p.shared now c

/-- The shared data are in order, each call fits them, and no two calls are in each other's way. -/
structure Sound (Inv : Shared → Prop) (Fits : Shared → Call → Prop) (Apart : Call → Call → Prop)
    (p : Pool Shared Call) : Prop where
  shared : Inv p.shared
  fits : ∀ i c, p.calls i = some c → Fits p.shared c
  apart : ∀ i j c d, i ≠ j → p.calls i = some c → p.calls j = some d → Apart c d

/-- What has to be shown of a single access, with one other call looking on. -/
structure Keeps (v : Service Shared Call Request) (Inv : Shared → Prop)
    (Fits : Shared → Call → Prop) (Apart : Call → Call → Prop)
    (ok : Shared → Nat → Call → Prop) : Prop where
  symm : ∀ c d, Apart c d → Apart d c
  enters : ∀ s r, Inv s → v.admits s r → Fits s (v.enter s r)
  alone : ∀ s r d, Inv s → v.admits s r → Fits s d → Apart (v.enter s r) d
  inv : ∀ s now c, Inv s → Fits s c → v.clock s ≤ now → ok s now c → Inv (v.act now c s).1
  next : ∀ s now c c', Inv s → Fits s c → v.clock s ≤ now → ok s now c →
    (v.act now c s).2 = some c' → Fits (v.act now c s).1 c'
  others : ∀ s now c d, Inv s → Fits s c → Fits s d → Apart c d → v.clock s ≤ now →
    ok s now c → Fits (v.act now c s).1 d
  still_apart : ∀ s now c c' d, Inv s → Fits s c → Fits s d → Apart c d → v.clock s ≤ now →
    ok s now c → (v.act now c s).2 = some c' → Apart c' d

section Rules
variable {v : Service Shared Call Request} {Inv : Shared → Prop} {Fits : Shared → Call → Prop}
  {Apart : Call → Call → Prop} {ok : Shared → Nat → Call → Prop} {p q : Pool Shared Call}
  {turn : Turn Request}

theorem sound_idle {s : Shared} (inv : Inv s) : Sound Inv Fits Apart (Pool.idle s) where
  shared := inv
  fits := nofun
  apart := nofun

theorem found_in_update {calls : Nat → Option Call} {i j : Nat} {rest : Option Call} {c : Call}
    (found : Function.update calls i rest j = some c) :
    j = i ∧ rest = some c ∨ j ≠ i ∧ calls j = some c := by
  by_cases same : j = i
  · subst same
    rw [Function.update_self] at found
    exact Or.inl ⟨rfl, found⟩
  · rw [Function.update_of_ne same] at found
    exact Or.inr ⟨same, found⟩

theorem sound_step (keeps : Keeps v Inv Fits Apart ok) (sound : Sound Inv Fits Apart p)
    (step : Step v p turn q) (allowed : Allows ok p turn) : Sound Inv Fits Apart q := by
  cases step with
  | @enter i r free admitted =>
    constructor
    · exact sound.shared
    · intro j c found
      rcases found_in_update found with ⟨-, new⟩ | ⟨-, old⟩
      · cases new
        exact keeps.enters _ r sound.shared admitted
      · exact sound.fits j c old
    · intro j k c d other hc hd
      rcases found_in_update hc with ⟨rfl, new⟩ | ⟨-, old⟩
      · cases new
        rcases found_in_update hd with ⟨same, -⟩ | ⟨-, old⟩
        · exact absurd same.symm other
        · exact keeps.alone _ r d sound.shared admitted (sound.fits k d old)
      · rcases found_in_update hd with ⟨-, new⟩ | ⟨-, old'⟩
        · cases new
          exact keeps.symm _ _ (keeps.alone _ r c sound.shared admitted (sound.fits j c old))
        · exact sound.apart j k c d other old old'
  | @act i now a waiting order =>
    have fits : Fits p.shared a := sound.fits i a waiting
    have ok' : ok p.shared now a := allowed a waiting
    constructor
    · exact keeps.inv _ now a sound.shared fits order ok'
    · intro j c found
      rcases found_in_update found with ⟨-, new⟩ | ⟨other, old⟩
      · exact keeps.next _ now a c sound.shared fits order ok' new
      · exact keeps.others _ now a c sound.shared fits (sound.fits j c old)
          (sound.apart i j a c (Ne.symm other) waiting old) order ok'
    · intro j k c d other hc hd
      rcases found_in_update hc with ⟨rfl, new⟩ | ⟨apart, old⟩
      · rcases found_in_update hd with ⟨same, -⟩ | ⟨away, old⟩
        · exact absurd same.symm other
        · exact keeps.still_apart _ now a c d sound.shared fits (sound.fits k d old)
            (sound.apart j k a d other waiting old) order ok' new
      · rcases found_in_update hd with ⟨rfl, new⟩ | ⟨-, old'⟩
        · refine keeps.symm _ _ ?_
          exact keeps.still_apart _ now a d c sound.shared fits (sound.fits j c old)
            (sound.apart k j a c (Ne.symm apart) waiting old) order ok' new
        · exact sound.apart j k c d other old old'

theorem sound_kept (keeps : Keeps v Inv Fits Apart fun _ _ _ => True) (sound : Sound Inv Fits Apart p)
    (step : Step v p turn q) : Sound Inv Fits Apart q := by
  refine sound_step keeps sound step ?_
  cases turn with
  | enter i r => trivial
  | act i now =>
    intro c _
    trivial

theorem allows_act {i now : Nat} {c : Call} (waiting : p.calls i = some c) :
    Allows ok p (.act i now : Turn Request) ↔ ok p.shared now c := by
  constructor
  · intro all
    exact all c waiting
  · intro here c' found
    rw [waiting] at found
    cases found
    exact here

variable {s : Shared} {moves : List (Move (Pool Shared Call) (Turn Request))}

theorem sound_visited (keeps : Keeps v Inv Fits Apart ok) (inv : Inv s)
    (run : Run (Step v) (Pool.idle s) moves p) (heeds : Heeds (Allows ok) moves) :
    ∀ a ∈ visited (Pool.idle s) moves, Sound Inv Fits Apart a :=
  visited_invariant (Sound Inv Fits Apart) run (sound_idle inv) heeds (sound_step keeps)

theorem sound_moves (keeps : Keeps v Inv Fits Apart fun _ _ _ => True) (inv : Inv s)
    (run : Run (Step v) (Pool.idle s) moves p) :
    ∀ m ∈ moves, Sound Inv Fits Apart m.before ∧ Step v m.before m.label m.after := by
  have free : Heeds (fun _ _ => True) moves := fun _ _ => trivial
  exact moves_invariant (Sound Inv Fits Apart) run (sound_idle inv) free
    fun sound step _ => sound_kept keeps sound step

theorem heeds_under {ok' : Shared → Nat → Call → Prop}
    (keeps : Keeps v Inv Fits Apart fun _ _ _ => True) (inv : Inv s)
    (run : Run (Step v) (Pool.idle s) moves p)
    (each : ∀ s now c, Inv s → Fits s c → ok s now c → ok' s now c)
    (heeds : Heeds (Allows ok) moves) : Heeds (Allows ok') moves := by
  intro m there
  have sound := (sound_moves keeps inv run m there).1
  have allowed := heeds m there
  generalize m.label = turn at allowed ⊢
  cases turn with
  | enter i r => trivial
  | act i now =>
    intro c waiting
    exact each _ now c sound.shared (sound.fits i c waiting) (allowed c waiting)

theorem shared_of_accesses {P : Shared → Prop} (run : Run (Step v) (Pool.idle s) moves p) (start : P s)
    (each : Heeds (Allows fun s now c => P (v.act now c s).1) moves) :
    ∀ a ∈ visited (Pool.idle s) moves, P a.shared := by
  refine visited_invariant (fun a => P a.shared) run start each ?_
  intro a turn b before step here
  cases step with
  | enter free admitted => exact before
  | act waiting order => exact here _ waiting

theorem log_of_accesses {A : Type} (log : Shared → List A) (adds : Nat → Call → Shared → List A)
    (keeps : Keeps v Inv Fits Apart fun _ _ _ => True) (inv : Inv s)
    (run : Run (Step v) (Pool.idle s) moves p)
    (each : ∀ {s now c}, Inv s → Fits s c → log (v.act now c s).1 = log s ++ adds now c s) :
    log p.shared = log s ++ moves.flatMap (added adds) := by
  refine run_log (Sound Inv Fits Apart) (fun a => log a.shared) (added adds) run (sound_idle inv)
    (sound_kept keeps) ?_
  intro a turn b sound step
  cases step with
  | enter free admitted => exact (List.append_nil _).symm
  | @act i now c waiting order =>
    have mine : (a.calls i).elim [] (fun c => adds now c a.shared) = adds now c a.shared := by
      rw [waiting]
      rfl
    exact (each sound.shared (sound.fits i c waiting)).trans (congrArg _ mine.symm)

theorem shared_safe_iff (Safe : Shared → Prop) (keeps : Keeps v Inv Fits Apart fun _ _ _ => True)
    (exact_at : ∀ {s now c}, Inv s → Fits s c → v.clock s ≤ now → Safe s →
      (Safe (v.act now c s).1 ↔ ok s now c))
    (inv : Inv s) (safe : Safe s) (run : Run (Step v) (Pool.idle s) moves p) :
    (∀ a ∈ visited (Pool.idle s) moves, Safe a.shared) ↔ Heeds (Allows ok) moves := by
  refine states_safe_iff (Sound Inv Fits Apart) (fun a => Safe a.shared) run (sound_idle inv) safe
    (sound_kept keeps) ?_
  intro a turn b sound safe step
  cases step with
  | enter free admitted => exact iff_of_true safe trivial
  | @act i now c waiting order =>
    rw [allows_act waiting]
    exact exact_at sound.shared (sound.fits i c waiting) order safe

theorem shared_end_safe_iff (Safe : Shared → Prop) (keeps : Keeps v Inv Fits Apart fun _ _ _ => True)
    (exact_at : ∀ {s now c}, Inv s → Fits s c → v.clock s ≤ now → Safe s →
      (Safe (v.act now c s).1 ↔ ok s now c))
    (never_mended : ∀ {s now c}, Inv s → Fits s c → v.clock s ≤ now → ¬ Safe s →
      ¬ Safe (v.act now c s).1)
    (inv : Inv s) (safe : Safe s) (run : Run (Step v) (Pool.idle s) moves p) :
    Safe p.shared ↔ Heeds (Allows ok) moves := by
  rw [← shared_safe_iff Safe keeps exact_at inv safe run]
  constructor
  · intro safe_at_end a there
    have lasts : ∀ m ∈ moves, ¬ Safe m.before.shared → ¬ Safe m.after.shared := by
      intro m taken
      obtain ⟨sound, step⟩ := sound_moves keeps inv run m taken
      generalize m.after = b at step ⊢
      generalize m.label = turn at step
      cases step with
      | enter unused admitted => exact fun unsafe_before => unsafe_before
      | @act i now c waiting order => exact never_mended sound.shared (sound.fits i c waiting) order
    have to_end : ¬ Safe a.shared → ¬ Safe p.shared := by
      refine visited_to_end (R := fun a b => ¬ Safe a.shared → ¬ Safe b.shared) (fun _ => id) ?_ run
        lasts a there
      intro a b c first second
      exact second ∘ first
    exact Classical.byContradiction fun not_safe => to_end not_safe safe_at_end
  · intro all
    exact all p (end_visited run)

theorem shared_pairwise_iff {R : Shared → Shared → Prop} (refl : ∀ s, R s s)
    (trans : ∀ {a b c}, R a b → R b c → R a c) (run : Run (Step v) (Pool.idle s) moves p) :
    ((visited (Pool.idle s) moves).Pairwise fun a b => R a.shared b.shared) ↔
      Heeds (Allows fun s now c => R s (v.act now c s).1) moves := by
  rw [show ((visited (Pool.idle s) moves).Pairwise fun a b => R a.shared b.shared) ↔
      ∀ m ∈ moves, R m.before.shared m.after.shared from
    visited_pairwise_iff (fun a => refl a.shared) trans run]
  refine run_good_iff (fun _ => True) (fun a _ b => R a.shared b.shared) run trivial ?_ ?_
  · intro a turn b _ _ _
    trivial
  · intro a turn b _ step
    cases step with
    | enter free admitted => exact iff_of_true (refl _) trivial
    | act waiting order =>
      rw [allows_act waiting]

theorem guarded_safe_iff (Safe : Shared → Prop) (keeps : Keeps v Inv Fits Apart ok)
    (exact_at : ∀ {s now c}, Inv s → Fits s c → v.clock s ≤ now → (Safe (v.act now c s).1 ↔ ok s now c))
    (safe : ∀ s, Inv s → Safe s) (inv : Inv s) (run : Run (Step v) (Pool.idle s) moves p) :
    (∀ a ∈ visited (Pool.idle s) moves, Safe a.shared) ↔ Heeds (Allows ok) moves := by
  have start : Safe (Pool.idle s : Pool Shared Call).shared := safe s inv
  rw [forall_visited, and_iff_right start]
  refine run_good_iff (Sound Inv Fits Apart) (fun _ _ b => Safe b.shared) run (sound_idle inv)
    (sound_step keeps) ?_
  intro a turn b sound step
  cases step with
  | enter free admitted => exact iff_of_true (safe _ sound.shared) trivial
  | @act i now c waiting order =>
    rw [allows_act waiting]
    exact exact_at sound.shared (sound.fits i c waiting) order

theorem keeps_nothing : Keeps v (fun _ => True) (fun _ _ => True) (fun _ _ => True) ok where
  symm _ _ _ := trivial
  enters _ _ _ _ := trivial
  alone _ _ _ _ _ _ := trivial
  inv _ _ _ _ _ _ _ := trivial
  next _ _ _ _ _ _ _ _ _ := trivial
  others _ _ _ _ _ _ _ _ _ _ := trivial
  still_apart _ _ _ _ _ _ _ _ _ _ _ _ := trivial

end Rules

section Play
variable (v : Service Shared Call Request) (ok : Shared → Nat → Call → Prop)

def Pool.after (p : Pool Shared Call) : Turn Request → Pool Shared Call
  | .enter i r => ⟨p.shared, Function.update p.calls i (some (v.enter p.shared r))⟩
  | .act i now =>
    match p.calls i with
    | some c => ⟨(v.act now c p.shared).1, Function.update p.calls i (v.act now c p.shared).2⟩
    | none => p

def Ready (p : Pool Shared Call) : Turn Request → Prop
  | .enter i r => (p.calls i).isNone = true ∧ v.admits p.shared r
  | .act i now => (p.calls i).isSome = true ∧ v.clock p.shared ≤ now

/-- The turns can be taken one after the other, each of them where the condition allows it. -/
def Follows (p : Pool Shared Call) : List (Turn Request) → Prop
  | [] => True
  | turn :: turns => Ready v p turn ∧ Allows ok p turn ∧ Follows (p.after v turn) turns

variable {v ok}

instance [∀ s r, Decidable (v.admits s r)] (p : Pool Shared Call) (turn : Turn Request) :
    Decidable (Ready v p turn) :=
  match turn with
  | .enter _ _ => inferInstanceAs (Decidable (_ ∧ _))
  | .act _ _ => inferInstanceAs (Decidable (_ ∧ _))

instance [∀ s now c, Decidable (ok s now c)] (p : Pool Shared Call) (turn : Turn Request) :
    Decidable (Allows ok p turn) :=
  match turn with
  | .enter _ _ => inferInstanceAs (Decidable True)
  | .act i now => inferInstanceAs (Decidable (∀ c ∈ p.calls i, ok p.shared now c))

instance decidableFollows [∀ s r, Decidable (v.admits s r)] [∀ s now c, Decidable (ok s now c)] :
    (p : Pool Shared Call) → (turns : List (Turn Request)) → Decidable (Follows v ok p turns)
  | _, [] => inferInstanceAs (Decidable True)
  | p, turn :: turns =>
    have := decidableFollows (p.after v turn) turns
    inferInstanceAs (Decidable (_ ∧ _ ∧ _))

variable {p : Pool Shared Call}

theorem step_after {turn : Turn Request} (ready : Ready v p turn) : Step v p turn (p.after v turn) := by
  cases turn with
  | enter i r => exact .enter (Option.isNone_iff_eq_none.mp ready.1) ready.2
  | act i now =>
    obtain ⟨c, waiting⟩ := Option.isSome_iff_exists.mp ready.1
    simp only [Pool.after, waiting]
    exact .act waiting ready.2

theorem follows_labels {turns : List (Turn Request)} (follows : Follows v ok p turns) :
    ∃ moves, Run (Step v) p moves (turns.foldl (Pool.after v) p) ∧ Heeds (Allows ok) moves ∧
      moves.map Move.label = turns := by
  induction turns generalizing p with
  | nil => exact ⟨[], .nil, nofun, rfl⟩
  | cons turn turns ih =>
    obtain ⟨ready, allowed, rest⟩ := follows
    obtain ⟨moves, run, heeds, labels⟩ := ih rest
    refine ⟨_, (Run.nil.snoc (step_after ready)).append run, ?_, ?_⟩
    · intro m there
      rcases List.mem_cons.mp there with rfl | later
      · exact allowed
      · exact heeds m later
    · rw [List.nil_append, List.singleton_append, List.map_cons, labels]

theorem follows_run {turns : List (Turn Request)} (follows : Follows v ok p turns) :
    ∃ moves, Run (Step v) p moves (turns.foldl (Pool.after v) p) ∧ Heeds (Allows ok) moves := by
  obtain ⟨moves, run, heeds, -⟩ := follows_labels follows
  exact ⟨moves, run, heeds⟩

def Turn.slot : Turn Request → Nat
  | .enter i _ => i
  | .act i _ => i

theorem calls_apart {turns : List (Turn Request)} {j : Nat} (apart : ∀ turn ∈ turns, turn.slot ≠ j) :
    (turns.foldl (Pool.after v) p).calls j = p.calls j := by
  induction turns generalizing p with
  | nil => rfl
  | cons turn turns ih =>
    rw [List.foldl_cons, ih fun t there => apart t (List.mem_cons_of_mem _ there)]
    have other : j ≠ turn.slot := (apart turn List.mem_cons_self).symm
    cases turn with
    | enter i r => exact Function.update_of_ne other _ _
    | act i now =>
      rw [Pool.after]
      split
      · exact Function.update_of_ne other _ _
      · rfl

theorem calls_ended {turns : List (Turn Request)} {i : Nat} (one : ∀ turn ∈ turns, turn.slot = i)
    (others : ∀ j, j ≠ i → p.calls j = none) (ended : (turns.foldl (Pool.after v) p).calls i = none)
    (j : Nat) : (turns.foldl (Pool.after v) p).calls j = none := by
  by_cases same : j = i
  · rw [same]
    exact ended
  · rw [calls_apart]
    · exact others j same
    · intro turn there here
      exact same (here.symm.trans (one turn there))

end Play
end CallPools
