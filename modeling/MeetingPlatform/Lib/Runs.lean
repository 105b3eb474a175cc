import Mathlib.Data.List.Basic
import Mathlib.Tactic.Common

/- Finite runs of a labelled transition system, with every move recorded.
   A condition on single moves is lifted here to whole runs, once. -/
namespace LabelledRuns
variable {State Label : Type}

structure Move (State Label : Type) where
  before : State
  label : Label
  after : State

inductive Run (step : State → Label → State → Prop) (s : State) :
    List (Move State Label) → State → Prop where
  | nil : Run step s [] s
  | snoc {t u : State} {l : Label} {moves : List (Move State Label)}
      (init : Run step s moves t) (last : step t l u) : Run step s (moves ++ [⟨t, l, u⟩]) u

/-- The states a run goes through, its first one included. -/
def visited (start : State) (moves : List (Move State Label)) : List State :=
  start :: moves.map Move.after

/-- Every move is taken where the condition allows its label. -/
def Heeds (ok : State → Label → Prop) (moves : List (Move State Label)) : Prop :=
  ∀ m ∈ moves, ok m.before m.label

instance (ok : State → Label → Prop) [∀ s l, Decidable (ok s l)] (moves : List (Move State Label)) :
    Decidable (Heeds ok moves) :=
  inferInstanceAs (Decidable (∀ m ∈ moves, ok m.before m.label))

variable {step : State → Label → State → Prop} {s t : State} {moves : List (Move State Label)}

theorem Run.append {u : State} {more : List (Move State Label)} (run : Run step s moves t)
    (then_run : Run step t more u) : Run step s (moves ++ more) u := by
  induction then_run with
  | nil =>
    rw [List.append_nil]
    exact run
  | snoc init last ih =>
    rw [← List.append_assoc]
    exact ih.snoc last

theorem Run.upto (run : Run step s moves t) {front back : List (Move State Label)}
    {m : Move State Label} (split : moves = front ++ m :: back) :
    Run step s front m.before ∧ step m.before m.label m.after := by
  induction run generalizing back with
  | nil => exact absurd split (by simp)
  | snoc init last ih =>
    rcases List.eq_nil_or_concat' back with rfl | ⟨back, later, rfl⟩
    · obtain ⟨rfl, same⟩ := List.append_inj' split rfl
      cases same
      exact ⟨init, last⟩
    · rw [← List.cons_append, ← List.append_assoc] at split
      exact ih (List.append_inj' split rfl).1

theorem run_invariant {Inv : State → Prop} (run : Run step s moves t) (start : Inv s)
    (keeps : ∀ {a l b}, Inv a → step a l b → Inv b) : Inv t := by
  induction run with
  | nil => exact start
  | snoc init last ih => exact keeps ih last

theorem heeds_snoc {ok : State → Label → Prop} {m : Move State Label} :
    Heeds ok (moves ++ [m]) ↔ Heeds ok moves ∧ ok m.before m.label := by
  simp only [Heeds, List.mem_append, List.mem_singleton]
  constructor
  · intro all
    exact ⟨fun q hq => all q (Or.inl hq), all m (Or.inr rfl)⟩
  · rintro ⟨front, last⟩ q (hq | rfl)
    · exact front q hq
    · exact last

theorem guarded_invariant (Inv : State → Prop) {ok : State → Label → Prop}
    (run : Run step s moves t) (start : Inv s) (heeds : Heeds ok moves)
    (keeps : ∀ {a l b}, Inv a → step a l b → ok a l → Inv b) : Inv t := by
  induction run with
  | nil => exact start
  | snoc init last ih =>
    obtain ⟨front, here⟩ := heeds_snoc.mp heeds
    exact keeps (ih front) last here

theorem run_good_iff (Inv : State → Prop) (Good : State → Label → State → Prop)
    {ok : State → Label → Prop} (run : Run step s moves t) (start : Inv s)
    (keeps : ∀ {a l b}, Inv a → step a l b → ok a l → Inv b)
    (exact_at : ∀ {a l b}, Inv a → step a l b → (Good a l b ↔ ok a l)) :
    (∀ m ∈ moves, Good m.before m.label m.after) ↔ Heeds ok moves := by
  induction run with
  | nil => simp [Heeds]
  | @snoc t u l moves init last ih =>
    rw [heeds_snoc, ← ih]
    simp only [List.mem_append, List.mem_singleton]
    constructor
    · intro all
      have front : ∀ m ∈ moves, Good m.before m.label m.after := fun m hm => all m (Or.inl hm)
      have inv : Inv t := guarded_invariant Inv init start (ih.mp front) keeps
      exact ⟨front, (exact_at inv last).mp (all _ (Or.inr rfl))⟩
    · rintro ⟨front, here⟩ m (hm | rfl)
      · exact front m hm
      · have inv : Inv t := guarded_invariant Inv init start (ih.mp front) keeps
        exact (exact_at inv last).mpr here

theorem forall_visited {P : State → Prop} :
    (∀ a ∈ visited s moves, P a) ↔ P s ∧ ∀ m ∈ moves, P m.after := by
  simp [visited]

theorem visited_append_one {m : Move State Label} :
    visited s (moves ++ [m]) = visited s moves ++ [m.after] := by
  rw [visited, visited, List.map_append, List.map_singleton, List.cons_append]

theorem visited_snoc {m : Move State Label} {a : State}
    (there : a ∈ visited s (moves ++ [m])) : a ∈ visited s moves ∨ a = m.after := by
  rw [visited_append_one] at there
  exact (List.mem_append.mp there).imp_right List.mem_singleton.mp

theorem visited_invariant (Inv : State → Prop) {ok : State → Label → Prop}
    (run : Run step s moves t) (start : Inv s) (heeds : Heeds ok moves)
    (keeps : ∀ {a l b}, Inv a → step a l b → ok a l → Inv b) : ∀ a ∈ visited s moves, Inv a := by
  induction run with
  | nil =>
    intro a there
    rw [List.mem_singleton.mp there]
    exact start
  | snoc init last ih =>
    obtain ⟨front, here⟩ := heeds_snoc.mp heeds
    intro a there
    rcases visited_snoc there with old | rfl
    · exact ih front a old
    · exact keeps (guarded_invariant Inv init start front keeps) last here

theorem moves_invariant (Inv : State → Prop) {ok : State → Label → Prop}
    (run : Run step s moves t) (start : Inv s) (heeds : Heeds ok moves)
    (keeps : ∀ {a l b}, Inv a → step a l b → ok a l → Inv b) :
    ∀ m ∈ moves, Inv m.before ∧ step m.before m.label m.after := by
  induction run with
  | nil =>
    intro m there
    cases there
  | snoc init last ih =>
    obtain ⟨front, -⟩ := heeds_snoc.mp heeds
    intro m there
    rcases List.mem_append.mp there with old | new
    · exact ih front m old
    · rw [List.mem_singleton.mp new]
      exact ⟨guarded_invariant Inv init start front keeps, last⟩

theorem run_brings (Inv : State → Prop) {P : State → Prop} {ok brings : State → Label → Prop}
    (run : Run step s moves t) (start : Inv s) (heeds : Heeds ok moves)
    (keeps : ∀ {a l b}, Inv a → step a l b → ok a l → Inv b)
    (brought : ∀ {a l b}, Inv a → step a l b → ok a l → brings a l → P b)
    (stays : ∀ {a l b}, Inv a → step a l b → ok a l → P a → P b)
    (some_move : ∃ m ∈ moves, brings m.before m.label) : P t := by
  induction run with
  | nil =>
    obtain ⟨m, there, -⟩ := some_move
    cases there
  | snoc init last ih =>
    obtain ⟨front, here⟩ := heeds_snoc.mp heeds
    have inv := guarded_invariant Inv init start front keeps
    obtain ⟨m, there, brings⟩ := some_move
    rcases List.mem_append.mp there with old | new
    · exact stays inv last here (ih front ⟨m, old, brings⟩)
    · rw [List.mem_singleton.mp new] at brings
      exact brought inv last here brings

theorem run_log (Inv : State → Prop) {A : Type} (log : State → List A)
    (adds : Move State Label → List A) (run : Run step s moves t) (start : Inv s)
    (keeps : ∀ {a l b}, Inv a → step a l b → Inv b)
    (each : ∀ {a l b}, Inv a → step a l b → log b = log a ++ adds ⟨a, l, b⟩) :
    log t = log s ++ moves.flatMap adds := by
  induction run with
  | nil => exact (List.append_nil _).symm
  | snoc init last ih =>
    rw [each (run_invariant init start keeps) last, ih, List.flatMap_append, List.flatMap_singleton,
      List.append_assoc]

theorem states_safe_iff (Inv Safe : State → Prop) {ok : State → Label → Prop}
    (run : Run step s moves t) (start : Inv s) (safe : Safe s)
    (keeps : ∀ {a l b}, Inv a → step a l b → Inv b)
    (exact_at : ∀ {a l b}, Inv a → Safe a → step a l b → (Safe b ↔ ok a l)) :
    (∀ a ∈ visited s moves, Safe a) ↔ Heeds ok moves := by
  rw [forall_visited, and_iff_right safe]
  refine run_good_iff (fun a => Inv a ∧ Safe a) (fun _ _ b => Safe b) run ⟨start, safe⟩ ?_ ?_
  · intro a l b inv move here
    exact ⟨keeps inv.1 move, (exact_at inv.1 inv.2 move).mpr here⟩
  · intro a l b inv move
    exact exact_at inv.1 inv.2 move

/-- The moves of a system that is given by a function, along a list of labels. -/
def trail (next : State → Label → State) : State → List Label → List (Move State Label)
  | _, [] => []
  | s, l :: labels => ⟨s, l, next s l⟩ :: trail next (next s l) labels

theorem run_trail {next : State → Label → State} {ready : State → Label → Prop}
    {labels : List Label} (allowed : Heeds ready (trail next s labels)) :
    Run (fun a l b => ready a l ∧ b = next a l) s (trail next s labels) (labels.foldl next s) := by
  induction labels generalizing s with
  | nil => exact .nil
  | cons l labels ih =>
    have first : ready s l := allowed ⟨s, l, next s l⟩ (List.mem_cons.mpr (Or.inl rfl))
    have rest := ih (s := next s l) fun m there => allowed m (List.mem_cons_of_mem _ there)
    exact (Run.nil.snoc ⟨first, rfl⟩).append rest

theorem trail_labels (next : State → Label → State) (labels : List Label) :
    (trail next s labels).map Move.label = labels := by
  induction labels generalizing s with
  | nil => rfl
  | cons l labels ih => rw [trail, List.map_cons, ih]

theorem run_of_trail (next : State → Label → State) (labels : List Label) :
    Run (fun a l b => b = next a l) s (trail next s labels) (labels.foldl next s) := by
  induction labels generalizing s with
  | nil => exact .nil
  | cons l labels ih => exact (Run.nil.snoc rfl).append ih

/-- The moves of a system whose calls may fail, along a list of calls. A failing call leaves the
    state as it is and makes no move. -/
def followed (exec : Label → State → Option State) :
    List Label → State → List (Move State Label) × State
  | [], s => ([], s)
  | l :: labels, s =>
    match exec l s with
    | none => followed exec labels s
    | some t => (⟨s, l, t⟩ :: (followed exec labels t).1, (followed exec labels t).2)

theorem run_followed_of {exec : Label → State → Option State}
    (sound : ∀ {a l b}, exec l a = some b → step a l b) (labels : List Label) (s : State) :
    Run step s (followed exec labels s).1 (followed exec labels s).2 := by
  induction labels generalizing s with
  | nil => exact .nil
  | cons l labels ih =>
    rw [followed]
    split
    · exact ih s
    · rename_i t executed
      exact (Run.nil.snoc (sound executed)).append (ih t)

theorem run_followed (exec : Label → State → Option State) (labels : List Label) (s : State) :
    Run (fun a l b => exec l a = some b) s (followed exec labels s).1 (followed exec labels s).2 :=
  run_followed_of (fun executed => executed) labels s

theorem visited_to_end {R : State → State → Prop} (refl : ∀ a, R a a)
    (trans : ∀ {a b c}, R a b → R b c → R a c) (run : Run step s moves t)
    (kept : ∀ m ∈ moves, R m.before m.after) : ∀ a ∈ visited s moves, R a t := by
  induction run with
  | nil =>
    intro a there
    rw [List.mem_singleton.mp there]
    exact refl s
  | snoc init last ih =>
    rw [List.forall_mem_append, List.forall_mem_singleton] at kept
    intro a there
    rcases visited_snoc there with old | rfl
    · exact trans (ih kept.1 a old) kept.2
    · exact refl _

theorem visited_related {R : State → State → Prop} (refl : ∀ a, R a a)
    (trans : ∀ {a b c}, R a b → R b c → R a c) (run : Run step s moves t)
    (keeps : ∀ {a l b}, step a l b → R a b) : ∀ a ∈ visited s moves, R a t := by
  refine visited_to_end refl trans run ?_
  have free : Heeds (fun _ _ => True) moves := fun _ _ => trivial
  intro m there
  exact keeps (moves_invariant (fun _ => True) run trivial free (fun _ _ _ => trivial) m there).2

theorem Run.restrict {P : State → Prop} (run : Run step s moves t)
    (all : ∀ m ∈ moves, P m.after) : Run (fun a l b => step a l b ∧ P b) s moves t := by
  induction run with
  | nil => exact .nil
  | @snoc t u l moves init last ih =>
    have front := ih fun m there => all m (List.mem_append.mpr (Or.inl there))
    exact front.snoc ⟨last, all ⟨t, l, u⟩ (List.mem_append.mpr (Or.inr (List.mem_singleton.mpr rfl)))⟩

theorem end_visited (run : Run step s moves t) : t ∈ visited s moves := by
  cases run with
  | nil => exact List.mem_singleton.mpr rfl
  | snoc init last =>
    rw [visited, List.map_append]
    exact List.mem_cons_of_mem _ (List.mem_append.mpr (Or.inr (List.mem_singleton.mpr rfl)))

theorem visited_pairwise_iff {R : State → State → Prop} (refl : ∀ a, R a a)
    (trans : ∀ {a b c}, R a b → R b c → R a c) (run : Run step s moves t) :
    (visited s moves).Pairwise R ↔ ∀ m ∈ moves, R m.before m.after := by
  induction run with
  | nil => exact iff_of_true (List.pairwise_singleton R s) nofun
  | @snoc t u l moves init last ih =>
    rw [visited_append_one, List.pairwise_append, ih, List.forall_mem_append, List.forall_mem_singleton]
    constructor
    · rintro ⟨front, -, across⟩
      exact ⟨front, across t (end_visited init) u (List.mem_singleton.mpr rfl)⟩
    · rintro ⟨front, here⟩
      refine ⟨front, List.pairwise_singleton _ _, ?_⟩
      intro a there b new
      rw [List.mem_singleton.mp new]
      exact trans (visited_to_end refl trans init front a there) here

theorem counted_invariant (Inv : Nat → State → Prop) {ok : State → Label → Prop}
    {marked : State → Label → Bool} (run : Run step s moves t) (start : Inv 0 s)
    (heeds : Heeds ok moves)
    (keeps : ∀ {a l b k}, Inv k a → step a l b → ok a l →
      Inv (k + if marked a l then 1 else 0) b) :
    Inv (moves.countP fun m => marked m.before m.label) t := by
  induction run with
  | nil => exact start
  | snoc init last ih =>
    obtain ⟨front, here⟩ := heeds_snoc.mp heeds
    rw [List.countP_append, List.countP_singleton]
    exact keeps (ih front) last here

end LabelledRuns
