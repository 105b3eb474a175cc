import MeetingPlatform.Lib.Table

/- A condition on every row, and a relation of each row to what becomes of it, where one row is
   inserted or updated at a time. -/
namespace KeyedTable
variable {Row : Type}

def Table.All (t : Table Row) (P : Row → Prop) : Prop := ∀ r ∈ t.rows, P r.2

/-- No row is lost, and each is related to what it has become. -/
def GoesOn (R : Row → Row → Prop) (t u : Table Row) : Prop :=
  ∀ r ∈ t.rows, ∃ w, (r.1, w) ∈ u.rows ∧ R r.2 w

instance (t : Table Row) (P : Row → Prop) [DecidablePred P] : Decidable (t.All P) :=
  inferInstanceAs (Decidable (∀ r ∈ t.rows, P r.2))

variable {t : Table Row} {k : Nat} {v : Row} {f : Row → Row} {P : Row → Prop} {R : Row → Row → Prop}

theorem mem_update (row : (k, v) ∈ t.rows) {r : Nat × Row} :
    r ∈ (t.update k f).rows ↔ r.1 ≠ k ∧ r ∈ t.rows ∨ r = (k, f v) := by
  rw [Table.update, mem_updateWhere]
  constructor
  · rintro ⟨q, there, rfl⟩
    by_cases here : q.1 = k
    · have same : q = (k, v) := by
        obtain ⟨j, w⟩ := q
        cases here
        rw [key_unique t there row]
      rw [touch_of_true _ (decide_eq_true here), same]
      exact Or.inr rfl
    · rw [touch_of_false _ (decide_eq_false here)]
      exact Or.inl ⟨here, there⟩
  · intro cases_of
    rcases cases_of with ⟨other, there⟩ | new
    · exact ⟨r, there, touch_of_false _ (decide_eq_false other)⟩
    · exact ⟨(k, v), row, new ▸ touch_of_true _ (decide_eq_true rfl)⟩

theorem column_update {Value : Type} (column : Row → Value)
    (same : ∀ v, (k, v) ∈ t.rows → column (f v) = column v) :
    (t.update k f).rows.map (fun r => column r.2) = t.rows.map fun r => column r.2 := by
  rw [Table.update, Table.updateWhere, List.map_map]
  refine List.map_congr_left ?_
  rintro ⟨j, v⟩ there
  rw [Function.comp_apply, touch]
  split
  · rename_i here
    exact same v (of_decide_eq_true here ▸ there)
  · rfl

theorem filter_own_value {α Value : Type} [DecidableEq Value] {column : α → Value} {rows : List α}
    (distinct : (rows.map column).Nodup) {r : α} (there : r ∈ rows) :
    rows.filter (fun q => column q = column r) = [r] := by
  induction rows with
  | nil => cases there
  | cons q rest ih =>
    obtain ⟨fresh, distinct⟩ := List.nodup_cons.mp distinct
    rcases List.mem_cons.mp there with rfl | later
    · rw [List.filter_cons_of_pos (by simp), List.filter_eq_nil_iff.mpr]
      intro q member same
      exact fresh (List.mem_map.mpr ⟨q, member, of_decide_eq_true same⟩)
    · have other : column q ≠ column r := fun same => fresh (List.mem_map.mpr ⟨r, later, same.symm⟩)
      rw [List.filter_cons_of_neg (by simpa using other)]
      exact ih distinct later

theorem all_insert (all : t.All P) : (t.insert v).All P ↔ P v := by
  constructor
  · intro after
    exact after (t.next, v) (mem_insert.mpr (Or.inr rfl))
  · intro new r there
    rcases mem_insert.mp there with old | rfl
    · exact all r old
    · exact new

theorem all_update (all : t.All P) (row : (k, v) ∈ t.rows) : (t.update k f).All P ↔ P (f v) := by
  constructor
  · intro after
    exact after (k, f v) ((mem_update row).mpr (Or.inr rfl))
  · intro new r there
    rcases (mem_update row).mp there with ⟨-, old⟩ | rfl
    · exact all r old
    · exact new

theorem goesOn_refl (refl : ∀ v, R v v) (t : Table Row) : GoesOn R t t :=
  fun r there => ⟨r.2, there, refl r.2⟩

theorem goesOn_trans (trans : ∀ {u v w}, R u v → R v w → R u w) {t u w : Table Row}
    (first : GoesOn R t u) (second : GoesOn R u w) : GoesOn R t w := by
  intro r there
  obtain ⟨v, between, near⟩ := first r there
  obtain ⟨x, last, far⟩ := second (r.1, v) between
  exact ⟨x, last, trans near far⟩

theorem goesOn_insert (refl : ∀ v, R v v) : GoesOn R t (t.insert v) :=
  fun r there => ⟨r.2, mem_insert.mpr (Or.inl there), refl r.2⟩

theorem goesOn_update (refl : ∀ v, R v v) (row : (k, v) ∈ t.rows) :
    GoesOn R t (t.update k f) ↔ R v (f v) := by
  constructor
  · intro on
    obtain ⟨w, there, related⟩ := on (k, v) row
    have new : (k, f v) ∈ (t.update k f).rows := (mem_update row).mpr (Or.inr rfl)
    rw [key_unique _ there new] at related
    exact related
  · intro related r there
    by_cases here : r.1 = k
    · refine ⟨f v, (mem_update row).mpr (Or.inr (Prod.ext here rfl)), ?_⟩
      obtain ⟨j, w⟩ := r
      cases here
      rw [key_unique t there row]
      exact related
    · exact ⟨r.2, (mem_update row).mpr (Or.inl ⟨here, there⟩), refl r.2⟩

end KeyedTable
