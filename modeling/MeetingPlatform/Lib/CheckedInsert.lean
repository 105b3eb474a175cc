import MeetingPlatform.Lib.CallPool
import Mathlib.Data.List.Nodup

/- Calls that look for a row and insert one later, where nothing keeps other calls from inserting in
   between. -/
namespace CheckedInserts
open LabelledRuns CallPools
variable {Shared Call Request Row : Type} {v : Service Shared Call Request}

/-- `adds` is the row that an access appends, `since` the number of rows when the call has looked. -/
structure Inserting (v : Service Shared Call Request) (Row : Type) where
  rows : Shared → List Row
  clash : Row → Row → Prop
  adds : Shared → Nat → Call → Option Row
  since : Call → Nat
  appends : ∀ s now c, rows (v.act now c s).1 = rows s ++ (adds s now c).toList

variable (t : Inserting v Row)

def Distinct (s : Shared) : Prop := (t.rows s).Pairwise fun r later => ¬ t.clash r later

def Looked (s : Shared) (c : Call) : Prop :=
  ∀ now, ∀ row ∈ t.adds s now c, ∀ r ∈ (t.rows s).take (t.since c), ¬ t.clash r row

def Undisturbed (s : Shared) (now : Nat) (c : Call) : Prop :=
  ∀ row ∈ t.adds s now c, ∀ r ∈ (t.rows s).drop (t.since c), ¬ t.clash r row

variable {t} {s : Shared} {c : Call} {now : Nat}

theorem distinct_access (distinct : Distinct t s) (looked : Looked t s c) :
    Distinct t (v.act now c s).1 ↔ Undisturbed t s now c := by
  rw [Distinct, t.appends, Undisturbed]
  cases added : t.adds s now c with
  | none =>
    rw [Option.toList_none, List.append_nil]
    exact iff_of_true distinct nofun
  | some row =>
    have before := looked now row added
    rw [Option.toList_some, List.pairwise_append]
    constructor
    · rintro ⟨-, -, apart⟩ row' new r there
      cases new
      exact apart r (List.mem_of_mem_drop there) row List.mem_cons_self
    · intro after
      refine ⟨distinct, List.pairwise_singleton _ _, ?_⟩
      intro r there row' new
      rw [List.mem_singleton.mp new]
      rw [← List.take_append_drop (t.since c) (t.rows s)] at there
      rcases List.mem_append.mp there with old | recent
      · exact before r old
      · exact after row rfl r recent

section Runs
variable {Inv : Shared → Prop} {Fits : Shared → Call → Prop} {Apart : Call → Call → Prop}
  {p : Pool Shared Call}
  {moves : List (Move (Pool Shared Call) (Turn Request))}

theorem distinct_iff (keeps : Keeps v Inv Fits Apart fun _ _ _ => True)
    (looked : ∀ s c, Fits s c → Looked t s c) (inv : Inv s) (distinct : Distinct t s)
    (run : Run (Step v) (Pool.idle s) moves p) :
    (∀ a ∈ visited (Pool.idle s) moves, Distinct t a.shared) ↔ Heeds (Allows (Undisturbed t)) moves := by
  refine shared_safe_iff (Distinct t) keeps ?_ inv distinct run
  intro s now c _ fits _ distinct
  exact distinct_access distinct (looked s c fits)

end Runs

theorem distinct_keys_iff {Key : Type} [DecidableEq Key] (key : Row → Key) (rows : List Row) :
    rows.Pairwise (fun r later => ¬ key r = key later) ↔
      ∀ k, (rows.filter fun r => key r = k).length ≤ 1 := by
  have nodup : rows.Pairwise (fun r later => ¬ key r = key later) ↔ (rows.map key).Nodup :=
    (List.pairwise_map (R := (· ≠ ·))).symm
  rw [nodup, List.nodup_iff_count_le_one]
  refine forall_congr' fun k => ?_
  rw [List.count_eq_countP, List.countP_map, List.countP_eq_length_filter]
  rfl

end CheckedInserts
