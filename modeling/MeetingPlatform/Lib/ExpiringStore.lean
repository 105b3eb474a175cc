import Mathlib.Data.Option.Basic
import Mathlib.Logic.Function.Basic
import Mathlib.Tactic.Common

/- A cache whose entries disappear at their deadline. Instants are milliseconds, lifetimes
   whole seconds. -/
namespace ExpiringStore
variable {K V : Type}

structure Entry (V : Type) where
  value : V
  deadline : Option Nat

def Entry.Live (e : Entry V) (now : Nat) : Prop := ∀ d ∈ e.deadline, now < d

instance (e : Entry V) (now : Nat) : Decidable (e.Live now) :=
  inferInstanceAs (Decidable (∀ d ∈ e.deadline, now < d))

theorem live_without_deadline (v : V) (now : Nat) : (Entry.mk v none).Live now := by
  intro d same
  cases same

structure Cache (K V : Type) where
  entries : K → Option (Entry V)

def Cache.empty : Cache K V := ⟨fun _ => none⟩

def Cache.entry? (c : Cache K V) (now : Nat) (k : K) : Option (Entry V) :=
  (c.entries k).filter fun e => e.Live now

def Cache.get (c : Cache K V) (now : Nat) (k : K) : Option V := (c.entry? now k).map Entry.value

variable [DecidableEq K]

def Cache.put (c : Cache K V) (k : K) (e : Option (Entry V)) : Cache K V :=
  ⟨Function.update c.entries k e⟩

def Cache.setWithTtl (c : Cache K V) (now : Nat) (k : K) (v : V) (ttlSeconds : Nat) : Cache K V :=
  c.put k (some ⟨v, some (now + ttlSeconds * 1000)⟩)

def Cache.del (c : Cache K V) (k : K) : Cache K V := c.put k none

/-- A counter that is not there starts at one and without a deadline. -/
def Cache.incr (c : Cache K Nat) (now : Nat) (k : K) : Cache K Nat :=
  c.put k (some (match c.entry? now k with
    | some e => ⟨e.value + 1, e.deadline⟩
    | none => ⟨1, none⟩))

def Cache.expire (c : Cache K V) (now : Nat) (k : K) (ttlSeconds : Nat) : Cache K V :=
  c.put k ((c.entry? now k).map fun e => ⟨e.value, some (now + ttlSeconds * 1000)⟩)

variable {c : Cache K V} {now later : Nat} {k k' : K} {v : V} {ttl : Nat}

omit [DecidableEq K] in
theorem get_eq_some : c.get now k = some v ↔
    ∃ e, c.entries k = some e ∧ e.Live now ∧ e.value = v := by
  simp [Cache.get, Cache.entry?, Option.filter_eq_some_iff, and_assoc]

omit [DecidableEq K] in
theorem get_of_entry {deadline : Nat} (there : c.entries k = some ⟨v, some deadline⟩) :
    c.get now k = if now < deadline then some v else none := by
  unfold Cache.get Cache.entry?
  by_cases live : now < deadline <;> simp [there, Entry.Live, Option.filter, live]

@[simp] theorem entries_put_self (e : Option (Entry V)) : (c.put k e).entries k = e :=
  Function.update_self _ _ _

@[simp] theorem entries_put_of_ne (e : Option (Entry V)) (other : k' ≠ k) :
    (c.put k e).entries k' = c.entries k' := Function.update_of_ne other _ _

theorem get_put (e : Option (Entry V)) : (c.put k e).get now k' =
    if k' = k then (e.filter fun e => e.Live now).map Entry.value else c.get now k' := by
  unfold Cache.get Cache.entry? Cache.put
  by_cases same : k' = k
  · subst same
    simp
  · simp [same]

theorem get_setWithTtl : (c.setWithTtl now k v ttl).get later k' =
    if k' = k then (if later < now + ttl * 1000 then some v else none) else c.get later k' := by
  rw [Cache.setWithTtl, get_put]
  by_cases same : k' = k
  · by_cases live : later < now + ttl * 1000 <;> simp [same, live, Entry.Live, Option.filter]
  · simp [same]

end ExpiringStore
