import Mathlib.Tactic.Common

/- Programs that run statements inside one database transaction. A statement that fails aborts the
   transaction: every later one is refused, whatever the program has caught, and its commit is a
   rollback. -/
namespace AbortedTransactions
variable {Data α β : Type}

structure Session (Data : Type) where
  data : Data
  aborted : Bool

/-- A program throws or returns, and leaves its session in some state. -/
def Program (Data α : Type) : Type := Session Data → Except Unit α × Session Data

instance : Monad (Program Data) where
  pure a := fun t => (.ok a, t)
  bind m k := fun t =>
    match m t with
    | (.ok a, t') => k a t'
    | (.error e, t') => (.error e, t')

def caught (m : Program Data α) (handler : Program Data α) : Program Data α := fun t =>
  match m t with
  | (.ok a, t') => (.ok a, t')
  | (.error _, t') => handler t'

def statement (fails : Bool) (run : Data → α × Data) : Program Data α := fun t =>
  if t.aborted ∨ fails then (.error (), { t with aborted := true })
  else (.ok (run t.data).1, ⟨(run t.data).2, false⟩)

/-- The program between begin and commit, or rollback where it throws. The commit of an aborted
    transaction throws nothing. -/
def transaction (body : Program Data α) (data : Data) : Except Unit α × Data :=
  match body ⟨data, false⟩ with
  | (.ok a, t) => (.ok a, if t.aborted then data else t.data)
  | (.error e, _) => (.error e, data)

section Rules

theorem bind_ok {m : Program Data α} {k : α → Program Data β} {t t' : Session Data} {a : α}
    (ran : m t = (.ok a, t')) : (m >>= k) t = k a t' := by
  change (match m t with
    | (.ok a, t') => k a t'
    | (.error e, t') => (.error e, t')) = _
  rw [ran]

theorem bind_error {m : Program Data α} {k : α → Program Data β} {t t' : Session Data} {e : Unit}
    (ran : m t = (.error e, t')) : (m >>= k) t = (.error e, t') := by
  change (match m t with
    | (.ok a, t') => k a t'
    | (.error e, t') => (.error e, t')) = _
  rw [ran]

theorem caught_ok {m handler : Program Data α} {t t' : Session Data} {a : α}
    (ran : m t = (.ok a, t')) : caught m handler t = (.ok a, t') := by
  rw [caught, ran]

theorem caught_error {m handler : Program Data α} {t t' : Session Data} {e : Unit}
    (ran : m t = (.error e, t')) : caught m handler t = handler t' := by
  rw [caught, ran]

theorem statement_runs (run : Data → α × Data) (data : Data) :
    statement false run ⟨data, false⟩ = (.ok (run data).1, ⟨(run data).2, false⟩) := rfl

theorem statement_fails (run : Data → α × Data) (t : Session Data) :
    statement true run t = (.error (), { t with aborted := true }) := if_pos (Or.inr rfl)

theorem statement_refused {t : Session Data} (aborted : t.aborted = true) (fails : Bool)
    (run : Data → α × Data) : statement fails run t = (.error (), t) := by
  obtain ⟨data, stopped⟩ := t
  cases aborted
  exact if_pos (Or.inl rfl)

/-- An aborted session is left as it is, whatever the program does. -/
def Powerless (m : Program Data α) : Prop := ∀ t, t.aborted = true → (m t).2 = t

theorem powerless_pure (a : α) : Powerless (pure a : Program Data α) := fun _ _ => rfl

theorem powerless_statement (fails : Bool) (run : Data → α × Data) :
    Powerless (statement fails run) := by
  intro t aborted
  rw [statement_refused aborted]

theorem Powerless.stays {m : Program Data α} (powerless : Powerless m) {t : Session Data}
    (aborted : t.aborted = true) : ∃ result, m t = (result, t) :=
  ⟨(m t).1, Prod.ext rfl (powerless t aborted)⟩

theorem powerless_bind {m : Program Data α} {k : α → Program Data β} (first : Powerless m)
    (rest : ∀ a, Powerless (k a)) : Powerless (m >>= k) := by
  intro t aborted
  obtain ⟨result, ran⟩ := first.stays aborted
  cases result with
  | ok a =>
    rw [bind_ok ran]
    exact rest a t aborted
  | error e => rw [bind_error ran]

theorem powerless_caught {m handler : Program Data α} (first : Powerless m)
    (then_handler : Powerless handler) : Powerless (caught m handler) := by
  intro t aborted
  obtain ⟨result, ran⟩ := first.stays aborted
  cases result with
  | ok a => rw [caught_ok ran]
  | error e =>
    rw [caught_error ran]
    exact then_handler t aborted

theorem nothing_committed {m : Program Data α} {k : α → Program Data β} {data : Data}
    (aborts : (m ⟨data, false⟩).2.aborted = true) (rest : ∀ a, Powerless (k a)) :
    (transaction (m >>= k) data).2 = data := by
  unfold transaction
  cases ran : m ⟨data, false⟩ with
  | mk result t =>
    rw [ran] at aborts
    cases result with
    | error e => rw [bind_error ran]
    | ok a =>
      obtain ⟨outcome, finished⟩ := (rest a).stays aborts
      rw [bind_ok ran, finished]
      cases outcome with
      | error e => rfl
      | ok b => exact if_pos aborts

theorem committed {body : Program Data α} {data data' : Data} {a : α}
    (ran : body ⟨data, false⟩ = (.ok a, ⟨data', false⟩)) : transaction body data = (.ok a, data') := by
  rw [transaction, ran]
  rfl

end Rules
end AbortedTransactions
