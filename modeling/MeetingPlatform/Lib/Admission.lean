import Mathlib.Data.List.Basic
import Mathlib.Tactic.Common

/- Applicants for places of which there may be a limited number. Each is known by a key, and a key gets
   one place at most. -/
namespace Admissions
variable {α κ : Type} [DecidableEq κ] {key : α → κ} {taken : List κ} {l : List α} {p q : α → Bool}

/-- The applicants whose key is not taken, and is not that of an earlier one. -/
def fresh (key : α → κ) : List κ → List α → List α
  | _, [] => []
  | taken, a :: rest => if key a ∈ taken then fresh key taken rest else a :: fresh key (key a :: taken) rest

def freshAmong (key : α → κ) (p : α → Bool) : List κ → List α → List α
  | _, [] => []
  | taken, a :: rest =>
    if p a = true ∧ key a ∈ taken then freshAmong key p taken rest
    else a :: freshAmong key p (if p a then key a :: taken else taken) rest

/-- The first ones get the places; `none` sets no limit. -/
def seated : Option Nat → List α → List α
  | none, l => l
  | some n, l => l.take n

def Fits (free : Option Nat) (l : List α) : Prop := ∀ n ∈ free, l.length ≤ n

instance (free : Option Nat) (l : List α) : Decidable (Fits free l) :=
  inferInstanceAs (Decidable (∀ n ∈ free, l.length ≤ n))

/-- The applicants as they are taken in one by one, while there is a place. -/
def admitted (key : α → κ) : Option Nat → List κ → List α → List α
  | _, _, [] => []
  | free, taken, a :: rest =>
    if key a ∈ taken ∨ free = some 0 then admitted key free taken rest
    else a :: admitted key (free.map (· - 1)) (key a :: taken) rest

theorem fresh_sublist : (fresh key taken l).Sublist l := by
  induction l generalizing taken with
  | nil => exact List.Sublist.refl []
  | cons a rest ih =>
    rw [fresh]
    split
    · exact ih.cons a
    · exact ih.cons_cons a

theorem fresh_congr {others : List κ} (same : ∀ k, k ∈ taken ↔ k ∈ others) :
    fresh key taken l = fresh key others l := by
  induction l generalizing taken others with
  | nil => rfl
  | cons a rest ih =>
    have later : fresh key (key a :: taken) rest = fresh key (key a :: others) rest := by
      refine ih ?_
      intro k
      rw [List.mem_cons, List.mem_cons, same]
    rw [fresh, fresh, ih same, later]
    simp only [same]

theorem fresh_unused {k : κ} (unused : ∀ a ∈ l, key a ≠ k) : fresh key (k :: taken) l = fresh key taken l := by
  induction l generalizing taken with
  | nil => rfl
  | cons a rest ih =>
    rw [List.forall_mem_cons] at unused
    have later : fresh key (key a :: k :: taken) rest = fresh key (key a :: taken) rest := by
      have swapped : fresh key (key a :: k :: taken) rest = fresh key (k :: key a :: taken) rest := by
        refine fresh_congr ?_
        intro j
        simp only [List.mem_cons]
        exact or_left_comm
      rw [swapped, ih unused.2]
    simp only [fresh, List.mem_cons, unused.1, false_or, ih unused.2, later]

theorem fresh_filter (told : ∀ a b, key a = key b → p a = p b) :
    (fresh key taken l).filter p = fresh key taken (l.filter p) := by
  induction l generalizing taken with
  | nil => rfl
  | cons a rest ih =>
    rw [fresh, List.filter_cons]
    by_cases chosen : p a = true
    · rw [if_pos chosen, fresh]
      split
      · exact ih
      · rw [List.filter_cons, if_pos chosen, ih]
    · rw [if_neg chosen]
      split
      · exact ih
      · rw [List.filter_cons, if_neg chosen, ih]
        refine fresh_unused ?_
        intro b there same
        rw [told a b same.symm] at chosen
        exact chosen (List.mem_filter.mp there).2

theorem fresh_then_taken {seen : List κ} :
    (fresh key seen l).filter (fun a => key a ∉ taken) = fresh key (seen ++ taken) l := by
  induction l generalizing seen with
  | nil => rfl
  | cons a rest ih =>
    rw [fresh, fresh]
    by_cases before : key a ∈ seen
    · rw [if_pos before, if_pos (List.mem_append.mpr (Or.inl before)), ih]
    · rw [if_neg before, List.filter_cons, ih]
      by_cases gone : key a ∈ taken
      · rw [if_pos (List.mem_append.mpr (Or.inr gone)), if_neg (by simpa using gone)]
        refine fresh_congr ?_
        intro k
        rw [List.cons_append, List.mem_cons]
        refine or_iff_right_of_imp ?_
        rintro rfl
        exact List.mem_append.mpr (Or.inr gone)
      · have free : key a ∉ seen ++ taken := fun there => (List.mem_append.mp there).elim before gone
        rw [if_neg free, if_pos (by simpa using gone), List.cons_append]

theorem fresh_keys : ((fresh key taken l).map key).Nodup ∧ ∀ a ∈ fresh key taken l, key a ∉ taken := by
  induction l generalizing taken with
  | nil => exact ⟨List.nodup_nil, fun a there => absurd there List.not_mem_nil⟩
  | cons a rest ih =>
    rw [fresh]
    split
    · exact ih
    · rename_i free
      have later : ((fresh key (key a :: taken) rest).map key).Nodup ∧
          ∀ b ∈ fresh key (key a :: taken) rest, key b ∉ key a :: taken := ih
      obtain ⟨nodup, apart⟩ := later
      rw [List.map_cons, List.nodup_cons, List.forall_mem_cons]
      refine ⟨⟨?_, nodup⟩, free, ?_⟩
      · intro again
        obtain ⟨b, there, same⟩ := List.mem_map.mp again
        exact apart b there (same ▸ List.mem_cons_self)
      · intro b there gone
        exact apart b there (List.mem_cons_of_mem _ gone)

theorem fresh_eq_self (nodup : (l.map key).Nodup) (apart : ∀ a ∈ l, key a ∉ taken) :
    fresh key taken l = l := by
  induction l generalizing taken with
  | nil => rfl
  | cons a rest ih =>
    rw [List.map_cons, List.nodup_cons] at nodup
    rw [List.forall_mem_cons] at apart
    rw [fresh, if_neg apart.1, ih nodup.2]
    intro b there gone
    rcases List.mem_cons.mp gone with same | gone
    · exact nodup.1 (same ▸ List.mem_map_of_mem there)
    · exact apart.2 b there gone

theorem freshAmong_class : (freshAmong key p taken l).filter p = fresh key taken (l.filter p) := by
  induction l generalizing taken with
  | nil => rfl
  | cons a rest ih =>
    rw [freshAmong, List.filter_cons]
    by_cases chosen : p a = true
    · simp only [chosen, true_and, if_true, fresh]
      split
      · exact ih
      · rw [List.filter_cons, if_pos chosen, ih]
    · simp only [chosen, false_and, Bool.false_eq_true, if_false]
      rw [List.filter_cons, if_neg chosen, ih]

theorem freshAmong_others (apart : ∀ a, q a = true → p a = false) :
    (freshAmong key p taken l).filter q = l.filter q := by
  induction l generalizing taken with
  | nil => rfl
  | cons a rest ih =>
    rw [freshAmong]
    split
    · rename_i same
      rw [ih, List.filter_cons, if_neg]
      intro other
      rw [apart a other] at same
      exact Bool.false_ne_true same.1
    · rw [List.filter_cons, List.filter_cons, ih]

theorem seated_sublist (free : Option Nat) : (seated free l).Sublist l := by
  cases free with
  | none => exact List.Sublist.refl l
  | some n => exact List.take_sublist n l

theorem seated_of_fits {free : Option Nat} (fits : Fits free l) : seated free l = l := by
  cases free with
  | none => rfl
  | some n => exact List.take_of_length_le (fits n rfl)

theorem admitted_eq (free : Option Nat) : admitted key free taken l = seated free (fresh key taken l) := by
  induction l generalizing free taken with
  | nil =>
    cases free with
    | none => rfl
    | some n => exact List.take_nil.symm
  | cons a rest ih =>
    rw [admitted, fresh]
    by_cases gone : key a ∈ taken
    · rw [if_pos (Or.inl gone), if_pos gone, ih]
    · rw [if_neg gone]
      cases free with
      | none =>
        rw [if_neg (by simpa using gone), ih]
        rfl
      | some n =>
        cases n with
        | zero =>
          rw [if_pos (Or.inr rfl), ih]
          simp only [seated, List.take_zero]
        | succ n =>
          rw [if_neg (by simpa using gone), ih]
          rfl

theorem admitted_congr {free : Option Nat} {others : List κ} (same : ∀ k, k ∈ taken ↔ k ∈ others) :
    admitted key free taken l = admitted key free others l := by
  rw [admitted_eq, admitted_eq, fresh_congr same]

theorem seated_filter {free : Option Nat} (kept : ∀ a ∈ seated free l, q a = true) :
    seated free (l.filter q) = seated free l := by
  cases free with
  | none => exact List.filter_eq_self.mpr kept
  | some n =>
    simp only [seated] at kept ⊢
    have front : (l.take n).filter q = l.take n := List.filter_eq_self.mpr kept
    by_cases short : l.length ≤ n
    · rw [List.take_of_length_le short] at front ⊢
      rw [front, List.take_of_length_le short]
    · have full : (l.take n).length = n := List.length_take_of_le (Nat.le_of_not_le short)
      rw [← List.take_append_drop n l, List.filter_append, front, List.take_append_of_le_length (Nat.le_of_eq full.symm),
        List.take_append_drop, List.take_take, Nat.min_self]

/-- The same members of a class and the same others, each in their order. -/
def Alike (p : α → Bool) (l m : List α) : Prop :=
  l.filter p = m.filter p ∧ l.filter (!p ·) = m.filter (!p ·)

instance [DecidableEq α] (p : α → Bool) (l m : List α) : Decidable (Alike p l m) :=
  inferInstanceAs (Decidable (_ ∧ _))

theorem seated_apart {free : Option Nat} (enough : Fits free l ∨ l.filter (!p ·) = []) :
    seated free (l.filter p) = (seated free l).filter p ∧
      l.filter (!p ·) = (seated free l).filter (!p ·) := by
  rcases enough with fits | none_other
  · rw [seated_of_fits fits, seated_of_fits]
    · exact ⟨rfl, rfl⟩
    · intro n there
      exact Nat.le_trans (List.length_filter_le p l) (fits n there)
  · have all : ∀ a ∈ l, p a = true := by
      intro a there
      by_contra other
      have listed : a ∈ l.filter (!p ·) := List.mem_filter.mpr ⟨there, by simpa using other⟩
      rw [none_other] at listed
      cases listed
    have seated_all : ∀ a ∈ seated free l, p a = true := fun a there =>
      all a ((seated_sublist free).subset there)
    rw [List.filter_eq_self.mpr all, List.filter_eq_self.mpr seated_all, none_other]
    refine ⟨rfl, (List.filter_eq_nil_iff.mpr ?_).symm⟩
    intro a there
    simp [seated_all a there]

theorem seated_alike_iff {m : List α} (free : Option Nat) :
    (seated free (l.filter p) = (seated free m).filter p ∧
      l.filter (!p ·) = (seated free m).filter (!p ·)) ↔
        (Fits free l ∨ l.filter (!p ·) = []) ∧ Alike p (seated free l) (seated free m) := by
  constructor
  · rintro ⟨same, others⟩
    have enough : Fits free l ∨ l.filter (!p ·) = [] := by
      by_cases nobody : l.filter (!p ·) = []
      · exact Or.inr nobody
      · refine Or.inl ?_
        rintro n ⟨⟩
        simp only [seated] at same others
        -- one of the others takes a seat, so that the class alone does not fill the room
        have total := List.length_eq_length_filter_add (l := l) p
        have total' := List.length_eq_length_filter_add (l := m.take n) p
        have lengths := congrArg List.length same
        have positive := List.length_pos_iff.mpr nobody
        rw [List.length_take] at total' lengths
        rw [← others] at total'
        omega
    obtain ⟨members, rest⟩ := seated_apart enough
    exact ⟨enough, members.symm.trans same, rest.symm.trans others⟩
  · rintro ⟨enough, alike⟩
    obtain ⟨members, rest⟩ := seated_apart enough
    exact ⟨members.trans alike.1, rest.trans alike.2⟩

end Admissions
