import Mathlib.Algebra.BigOperators.Group.List.Basic
import Mathlib.Data.List.Induction
import Mathlib.Order.Lattice
import Mathlib.Tactic.Common

/- Weights added up by key in a dictionary that keeps the order of insertion, and the
   first of its heaviest keys. -/
namespace WeightTally
variable {Key Weight : Type} [DecidableEq Key] [AddCommMonoid Weight]

def add (k : Key) (n : Weight) : List (Key × Weight) → List (Key × Weight)
  | [] => [(k, n)]
  | (j, m) :: rest => if j = k then (j, m + n) :: rest else (j, m) :: add k n rest

def tally (votes : List (Key × Weight)) : List (Key × Weight) :=
  votes.foldl (fun sums v => add v.1 v.2 sums) []

def keys (votes : List (Key × Weight)) : List Key := votes.map Prod.fst

def weight (votes : List (Key × Weight)) (k : Key) : Weight :=
  ((votes.filter fun v => v.1 = k).map Prod.snd).sum

section Sums
variable {votes sums : List (Key × Weight)} {j k : Key} {n : Weight}

theorem weight_cons (v : Key × Weight) :
    weight (v :: votes) k = if v.1 = k then v.2 + weight votes k else weight votes k := by
  by_cases same : v.1 = k <;> simp [weight, same]

theorem weight_append (more : List (Key × Weight)) :
    weight (votes ++ more) k = weight votes k + weight more k := by
  simp [weight]

theorem weight_of_not_mem (absent : k ∉ keys votes) : weight votes k = 0 := by
  have none_left : (votes.filter fun v => v.1 = k) = [] := by
    rw [List.filter_eq_nil_iff]
    intro v hv
    simp only [decide_eq_true_eq]
    intro same
    exact absent (same ▸ List.mem_map_of_mem hv)
  simp [weight, none_left]

theorem weight_add : weight (add k n sums) j = weight sums j + if j = k then n else 0 := by
  induction sums with
  | nil =>
    by_cases same : j = k
    · subst same
      simp [add, weight]
    · simp [add, weight, same, Ne.symm same]
  | cons v rest ih =>
    unfold add
    by_cases here : v.1 = k
    · subst here
      by_cases same : j = v.1
      · subst same
        simp only [if_true, weight_cons]
        rw [add_assoc, add_comm n, ← add_assoc]
      · simp [weight_cons, same, Ne.symm same]
    · simp only [here, if_false, weight_cons, ih]
      split
      · rw [add_assoc]
      · rfl

theorem keys_add : keys (add k n sums) = if k ∈ keys sums then keys sums else keys sums ++ [k] := by
  induction sums with
  | nil => simp [add, keys]
  | cons v rest ih =>
    unfold add
    by_cases here : v.1 = k
    · subst here
      simp [keys]
    · simp only [keys, here, if_false, List.map_cons, List.mem_cons, Ne.symm here, false_or] at ih ⊢
      rw [ih]
      by_cases known : k ∈ rest.map Prod.fst <;> simp only [known, if_true, if_false, List.cons_append]

theorem tally_snoc (v : Key × Weight) : tally (votes ++ [v]) = add v.1 v.2 (tally votes) := by
  simp [tally]

theorem weight_tally (votes : List (Key × Weight)) : weight (tally votes) k = weight votes k := by
  induction votes using List.reverseRecOn with
  | nil => rfl
  | append_singleton votes v ih =>
    rw [tally_snoc, weight_add, ih, weight_append]
    by_cases same : k = v.1
    · subst same
      simp [weight]
    · simp [weight, same, Ne.symm same]

theorem mem_keys_tally (votes : List (Key × Weight)) : k ∈ keys (tally votes) ↔ k ∈ keys votes := by
  induction votes using List.reverseRecOn with
  | nil => rfl
  | append_singleton votes v ih =>
    have grown : keys (votes ++ [v]) = keys votes ++ [v.1] := by simp [keys]
    rw [tally_snoc, keys_add, grown, List.mem_append, List.mem_singleton, ← ih]
    split
    · rename_i known
      constructor
      · exact Or.inl
      · rintro (there | rfl)
        · exact there
        · exact known
    · simp

theorem keys_tally_ordered (votes : List (Key × Weight)) :
    (keys (tally votes)).Pairwise fun a b => (keys votes).idxOf a < (keys votes).idxOf b := by
  induction votes using List.reverseRecOn with
  | nil => exact List.Pairwise.nil
  | append_singleton votes v ih =>
    have grown : keys (votes ++ [v]) = keys votes ++ [v.1] := by simp [keys]
    have kept : ∀ {a}, a ∈ keys (tally votes) →
        (keys votes ++ [v.1]).idxOf a = (keys votes).idxOf a := by
      intro a ha
      exact List.idxOf_append_of_mem ((mem_keys_tally votes).mp ha)
    have before : (keys (tally votes)).Pairwise fun a b =>
        (keys votes ++ [v.1]).idxOf a < (keys votes ++ [v.1]).idxOf b := by
      refine ih.imp_of_mem ?_
      intro a b ha hb earlier
      rwa [kept ha, kept hb]
    rw [tally_snoc, keys_add, grown]
    split
    · exact before
    · rename_i unknown
      rw [List.pairwise_append]
      refine ⟨before, List.pairwise_singleton _ _, ?_⟩
      intro a ha b hb
      obtain rfl := List.mem_singleton.mp hb
      have known := (mem_keys_tally votes).mp ha
      have fresh : v.1 ∉ keys votes := fun there => unknown ((mem_keys_tally votes).mpr there)
      rw [kept ha, List.idxOf_append_of_notMem fresh, List.idxOf_cons_self]
      exact Nat.lt_of_lt_of_le (List.idxOf_lt_length_of_mem known) (Nat.le_add_right _ _)

theorem weight_of_entry (distinct : (keys sums).Nodup) (entry : (k, n) ∈ sums) :
    weight sums k = n := by
  induction sums with
  | nil => cases entry
  | cons v rest ih =>
    simp only [keys, List.map_cons, List.nodup_cons] at distinct
    rcases List.mem_cons.mp entry with rfl | later
    · rw [weight_cons, if_pos rfl, weight_of_not_mem distinct.1, add_zero]
    · have other : v.1 ≠ k := fun same => distinct.1 (same ▸ List.mem_map_of_mem later)
      rw [weight_cons, if_neg other, ih distinct.2 later]

theorem keys_tally_nodup (votes : List (Key × Weight)) : (keys (tally votes)).Nodup := by
  refine (keys_tally_ordered votes).imp ?_
  intro a b earlier same
  subst same
  exact Nat.lt_irrefl _ earlier

end Sums

section Heaviest
variable [LinearOrder Weight] {votes sums : List (Key × Weight)} {x : Key × Weight} {k : Key}

def heavier (best v : Key × Weight) : Key × Weight := if best.2 < v.2 then v else best

/-- The first maximal entry, as `max` with a key function finds it. -/
def heaviest : List (Key × Weight) → Option (Key × Weight)
  | [] => none
  | v :: rest => some (rest.foldl heavier v)

omit [DecidableEq Key] [AddCommMonoid Weight] in
theorem foldl_heavier_split (rest : List (Key × Weight)) (best : Key × Weight) :
    ∃ front back, best :: rest = front ++ rest.foldl heavier best :: back ∧
      (∀ y ∈ front, y.2 < (rest.foldl heavier best).2) ∧
      ∀ y ∈ back, y.2 ≤ (rest.foldl heavier best).2 := by
  induction rest generalizing best with
  | nil => exact ⟨[], [], rfl, by simp, by simp⟩
  | cons v rest ih =>
    rw [List.foldl_cons]
    by_cases beaten : best.2 < v.2
    · rw [heavier, if_pos beaten]
      obtain ⟨front, back, split, lighter, behind⟩ := ih v
      refine ⟨best :: front, back, by rw [split, List.cons_append], ?_, behind⟩
      have top : v.2 ≤ (rest.foldl heavier v).2 := by
        have there : v ∈ front ++ rest.foldl heavier v :: back := by rw [← split]; simp
        rcases List.mem_append.mp there with early | late
        · exact (lighter v early).le
        · rcases List.mem_cons.mp late with same | late
          · rw [← same]
          · exact behind v late
      intro y hy
      rcases List.mem_cons.mp hy with rfl | hy
      · exact beaten.trans_le top
      · exact lighter y hy
    · rw [heavier, if_neg beaten]
      obtain ⟨front, back, split, lighter, behind⟩ := ih best
      cases front with
      | nil =>
        obtain ⟨same, rfl⟩ := List.cons.inj split
        refine ⟨[], v :: rest, by rw [List.nil_append, ← same], by simp, ?_⟩
        intro y hy
        rcases List.mem_cons.mp hy with rfl | hy
        · rw [← same]
          exact not_lt.mp beaten
        · exact behind y hy
      | cons first front =>
        obtain ⟨rfl, tail⟩ := List.cons.inj split
        have bound := lighter best List.mem_cons_self
        refine ⟨best :: v :: front, back, congrArg (best :: v :: ·) tail, ?_, behind⟩
        intro y hy
        rcases List.mem_cons.mp hy with rfl | hy
        · exact bound
        rcases List.mem_cons.mp hy with rfl | hy
        · exact (not_lt.mp beaten).trans_lt bound
        · exact lighter y (List.mem_cons_of_mem _ hy)

/-- The key has the most weight, and its first vote precedes those of its equals. -/
def Leads (votes : List (Key × Weight)) (k : Key) : Prop :=
  k ∈ keys votes ∧ ∀ j ∈ keys votes, j ≠ k →
    weight votes j < weight votes k ∨
      weight votes j = weight votes k ∧ (keys votes).idxOf k < (keys votes).idxOf j

theorem leads_unique {j : Key} (hj : Leads votes j) (hk : Leads votes k) : j = k := by
  by_contra other
  rcases hk.2 j hj.1 other with lighter | ⟨even', later⟩ <;>
    rcases hj.2 k hk.1 (Ne.symm other) with heavier | ⟨even, earlier⟩
  · exact lt_asymm lighter heavier
  · exact lighter.ne' even
  · exact heavier.ne' even'
  · exact Nat.lt_asymm later earlier

theorem heaviest_leads (best : heaviest (tally votes) = some x) :
    Leads votes x.1 ∧ x.2 = weight votes x.1 := by
  have ordered := keys_tally_ordered votes
  have distinct := keys_tally_nodup votes
  have entry_weight : ∀ y ∈ tally votes, weight votes y.1 = y.2 := by
    intro y hy
    rw [← weight_tally, weight_of_entry distinct hy]
  cases counted : tally votes with
  | nil =>
    rw [counted] at best
    cases best
  | cons v rest =>
    rw [counted] at best
    obtain ⟨front, back, split, lighter, behind⟩ := foldl_heavier_split rest v
    rw [Option.some.inj best] at split lighter behind
    rw [← counted] at split
    have there : x ∈ tally votes := by rw [split]; simp
    refine ⟨⟨(mem_keys_tally votes).mp (List.mem_map_of_mem there), ?_⟩,
      (entry_weight x there).symm⟩
    intro j hj other
    obtain ⟨y, hy, rfl⟩ := List.mem_map.mp ((mem_keys_tally votes).mpr hj)
    rw [entry_weight y hy, entry_weight x there]
    have place := hy
    rw [split] at place
    rcases List.mem_append.mp place with early | late
    · exact Or.inl (lighter y early)
    rcases List.mem_cons.mp late with rfl | late
    · exact absurd rfl other
    rcases (behind y late).lt_or_eq with less | same
    · exact Or.inl less
    · refine Or.inr ⟨same, ?_⟩
      rw [split] at ordered
      simp only [keys, List.map_append, List.map_cons] at ordered
      exact List.rel_of_pairwise_cons (List.pairwise_append.mp ordered).2.1
        (List.mem_map_of_mem late)

theorem heaviest_isSome (k : Key) (voted : k ∈ keys votes) : (heaviest (tally votes)).isSome := by
  have counted := (mem_keys_tally votes).mpr voted
  cases here : tally votes with
  | nil => simp [here, keys] at counted
  | cons v rest => rfl

theorem heaviest_tally_iff :
    (heaviest (tally votes)).map Prod.fst = some k ↔ Leads votes k := by
  constructor
  · intro best
    obtain ⟨x, found, rfl⟩ := Option.map_eq_some_iff.mp best
    exact (heaviest_leads found).1
  · intro leads
    obtain ⟨x, found⟩ := Option.isSome_iff_exists.mp (heaviest_isSome k leads.1)
    rw [found, Option.map_some, leads_unique (heaviest_leads found).1 leads]

end Heaviest
end WeightTally
