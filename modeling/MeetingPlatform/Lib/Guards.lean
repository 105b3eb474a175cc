import Mathlib.Tactic.Common

/- Guard clauses of a handler that either throws or goes on. -/
namespace Guards
variable {ε α β : Type}

def require (c : Prop) [Decidable c] (e : ε) : Except ε Unit := if c then .ok () else .error e

def expect (o : Option α) (e : ε) : Except ε α :=
  match o with
  | some a => .ok a
  | none => .error e

/-- A check that is left out where there is no value. -/
def onSome (o : Option α) (check : α → Except ε Unit) : Except ε Unit :=
  match o with
  | none => .ok ()
  | some a => check a

@[simp] theorem require_eq_ok {c : Prop} [Decidable c] {e : ε} {u : Unit} :
    require c e = .ok u ↔ c := by
  unfold require
  split <;> simp_all

@[simp] theorem require_eq_error {c : Prop} [Decidable c] {e thrown : ε} :
    require c e = .error thrown ↔ ¬ c ∧ e = thrown := by
  unfold require
  split <;> simp_all

@[simp] theorem expect_eq_ok {o : Option α} {e : ε} {a : α} :
    expect o e = .ok a ↔ o = some a := by
  cases o <;> simp [expect]

@[simp] theorem expect_eq_error {o : Option α} {e thrown : ε} :
    expect o e = .error thrown ↔ o = none ∧ e = thrown := by
  cases o <;> simp [expect]

@[simp] theorem onSome_eq_ok {o : Option α} {check : α → Except ε Unit} {u : Unit} :
    onSome o check = .ok u ↔ ∀ a ∈ o, check a = .ok () := by
  cases o <;> simp [onSome]

@[simp] theorem bind_eq_ok {x : Except ε α} {f : α → Except ε β} {b : β} :
    (x >>= f) = .ok b ↔ ∃ a, x = .ok a ∧ f a = .ok b := by
  cases x <;> simp [bind, Except.bind]

@[simp] theorem bind_eq_error {x : Except ε α} {f : α → Except ε β} {thrown : ε} :
    (x >>= f) = .error thrown ↔ x = .error thrown ∨ ∃ a, x = .ok a ∧ f a = .error thrown := by
  cases x <;> simp [bind, Except.bind]

@[simp] theorem pure_eq_ok {a b : α} : (pure a : Except ε α) = .ok b ↔ a = b := by
  simp [pure, Except.pure]

@[simp] theorem pure_ne_error {a : α} {thrown : ε} : (pure a : Except ε α) ≠ .error thrown := by
  simp [pure, Except.pure]

theorem toOption_eq_some {x : Except ε α} {a : α} : x.toOption = some a ↔ x = .ok a := by
  cases x <;> simp [Except.toOption]

theorem not_ok_of_error {x : Except ε α} {e : ε} (failed : x = .error e) : ¬ ∃ a, x = .ok a := by
  rintro ⟨a, rfl⟩
  cases failed

theorem mem_mapM {f : α → Except ε β} {xs : List α} {ys : List β} (done : xs.mapM f = .ok ys) {y : β} :
    y ∈ ys ↔ ∃ x ∈ xs, f x = .ok y := by
  induction xs generalizing ys with
  | nil =>
    rw [List.mapM_nil, pure_eq_ok] at done
    subst done
    simp
  | cons x xs ih =>
    simp only [List.mapM_cons, bind_eq_ok, pure_eq_ok] at done
    obtain ⟨z, first, rest, others, rfl⟩ := done
    simp only [List.mem_cons, ih others, exists_eq_or_imp, first, Except.ok.injEq]
    exact or_congr_left eq_comm

theorem exists_mapM {f : α → Except ε β} {xs : List α} :
    (∃ ys, xs.mapM f = .ok ys) ↔ ∀ x ∈ xs, ∃ y, f x = .ok y := by
  induction xs with
  | nil => simp
  | cons x xs ih =>
    simp only [List.mapM_cons, bind_eq_ok, pure_eq_ok, List.forall_mem_cons, ← ih]
    constructor
    · rintro ⟨_, y, first, rest, others, rfl⟩
      exact ⟨⟨y, first⟩, rest, others⟩
    · rintro ⟨⟨y, first⟩, rest, others⟩
      exact ⟨y :: rest, y, first, rest, others, rfl⟩

instance decidableAccepts (x : Except ε α) : Decidable (∃ a, x = .ok a) :=
  match x with
  | .ok a => .isTrue ⟨a, rfl⟩
  | .error _ => .isFalse (by simp)

end Guards
