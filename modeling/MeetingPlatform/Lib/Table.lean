import Mathlib.Data.List.Sort
import Mathlib.Tactic.Common

/- Database tables with generated primary keys. Rows stay in insertion order,
   so the order of the rows is also the order of their creation times. -/
namespace KeyedTable
variable {Row : Type}

/-- `next` is the key the following insert will use. -/
structure Table (Row : Type) where
  rows : List (Nat × Row)
  next : Nat
  increasing : (rows.map Prod.fst).Pairwise (· < ·)
  below : ∀ k ∈ rows.map Prod.fst, k < next

def Table.empty : Table Row := ⟨[], 0, by simp, by simp⟩

/-- Applied to the rows a `WHERE` selects; keys are never written. -/
def touch (p : Nat × Row → Bool) (f : Row → Row) (r : Nat × Row) : Nat × Row :=
  if p r then (r.1, f r.2) else r

@[simp] theorem touch_key (p : Nat × Row → Bool) (f : Row → Row) (r : Nat × Row) :
    (touch p f r).1 = r.1 := by
  unfold touch
  split <;> rfl

theorem touch_of_true {p : Nat × Row → Bool} (f : Row → Row) {r : Nat × Row} (h : p r = true) :
    touch p f r = (r.1, f r.2) := by
  simp [touch, h]

theorem touch_of_false {p : Nat × Row → Bool} (f : Row → Row) {r : Nat × Row} (h : p r = false) :
    touch p f r = r := by
  simp [touch, h]

theorem touched_keys (p : Nat × Row → Bool) (f : Row → Row) (rows : List (Nat × Row)) :
    (rows.map (touch p f)).map Prod.fst = rows.map Prod.fst := by
  simp [Function.comp_def]

def Table.updateWhere (t : Table Row) (p : Nat × Row → Bool) (f : Row → Row) : Table Row where
  rows := t.rows.map (touch p f)
  next := t.next
  increasing := by rw [touched_keys]; exact t.increasing
  below := by rw [touched_keys]; exact t.below

def Table.update (t : Table Row) (k : Nat) (f : Row → Row) : Table Row :=
  t.updateWhere (fun r => r.1 = k) f

def Table.save (t : Table Row) (k : Nat) (v : Row) : Table Row := t.update k fun _ => v

def Table.insert (t : Table Row) (v : Row) : Table Row where
  rows := t.rows ++ [(t.next, v)]
  next := t.next + 1
  increasing := by
    rw [List.map_append, List.pairwise_append]
    exact ⟨t.increasing, by simp, fun a ha b hb => by
      rw [List.map_singleton, List.mem_singleton] at hb
      exact hb ▸ t.below a ha⟩
  below := by
    intro k hk
    rw [List.map_append, List.map_singleton, List.mem_append, List.mem_singleton] at hk
    rcases hk with old | fresh
    · exact Nat.lt_succ_of_lt (t.below k old)
    · omega

def Table.get? (t : Table Row) (k : Nat) : Option Row :=
  (t.rows.find? fun r => r.1 = k).map Prod.snd

def Table.select (t : Table Row) (p : Nat × Row → Bool) : List (Nat × Row) := t.rows.filter p

/-- A `findOne` without an order: the first row in storage order. -/
def Table.findOne (t : Table Row) (p : Nat × Row → Bool) : Option (Nat × Row) := (t.select p).head?

/-- A `findOne` ordered by creation time, newest first. -/
def Table.findNewest (t : Table Row) (p : Nat × Row → Bool) : Option (Nat × Row) :=
  (t.select p).getLast?

theorem increasing_unique {rows : List (Nat × Row)}
    (keys : (rows.map Prod.fst).Pairwise (· < ·)) {k : Nat} {v w : Row}
    (hv : (k, v) ∈ rows) (hw : (k, w) ∈ rows) : v = w := by
  induction rows with
  | nil => simp at hv
  | cons r rest ih =>
    rw [List.map_cons, List.pairwise_cons] at keys
    have later : ∀ {u}, (k, u) ∈ rest → r.1 < k := fun h => keys.1 k (List.mem_map_of_mem h)
    rcases List.mem_cons.mp hv with hv | hv <;> rcases List.mem_cons.mp hw with hw | hw
    · exact (Prod.mk.inj (hv.trans hw.symm)).2
    · have := later hw; subst hv; simp at this
    · have := later hv; subst hw; simp at this
    · exact ih keys.2 hv hw

theorem key_unique (t : Table Row) {k : Nat} {v w : Row} (hv : (k, v) ∈ t.rows)
    (hw : (k, w) ∈ t.rows) : v = w := increasing_unique t.increasing hv hw

@[simp] theorem get?_eq_some {t : Table Row} {k : Nat} {v : Row} :
    t.get? k = some v ↔ (k, v) ∈ t.rows := by
  constructor
  · intro h
    obtain ⟨r, found, rfl⟩ := Option.map_eq_some_iff.mp h
    have key : r.1 = k := by simpa using List.find?_some found
    subst key
    exact List.mem_of_find?_eq_some found
  · intro h
    cases found : t.rows.find? (fun r => r.1 = k) with
    | none => exact absurd (List.find?_eq_none.mp found _ h) (by simp)
    | some r =>
      have key : r.1 = k := by simpa using List.find?_some found
      have same : r.2 = v := by
        subst key
        exact key_unique t (List.mem_of_find?_eq_some found) h
      simp [Table.get?, found, same]

theorem get?_eq_none {t : Table Row} {k : Nat} : t.get? k = none ↔ ∀ v, (k, v) ∉ t.rows := by
  rw [Option.eq_none_iff_forall_ne_some]
  simp

@[simp] theorem mem_empty {r : Nat × Row} : r ∈ (Table.empty : Table Row).rows ↔ False := by
  simp [Table.empty]

@[simp] theorem mem_insert {t : Table Row} {v : Row} {r : Nat × Row} :
    r ∈ (t.insert v).rows ↔ r ∈ t.rows ∨ r = (t.next, v) := by
  simp [Table.insert]

theorem mem_updateWhere {t : Table Row} {p : Nat × Row → Bool} {f : Row → Row} {r : Nat × Row} :
    r ∈ (t.updateWhere p f).rows ↔ ∃ q ∈ t.rows, touch p f q = r := by
  simp [Table.updateWhere]

theorem row_below (t : Table Row) {k : Nat} {v : Row} (h : (k, v) ∈ t.rows) : k < t.next :=
  t.below k (List.mem_map_of_mem h)

theorem mem_select {t : Table Row} {p : Nat × Row → Bool} {r : Nat × Row} :
    r ∈ t.select p ↔ r ∈ t.rows ∧ p r = true := by
  simp [Table.select]

theorem select_keys (t : Table Row) (p : Nat × Row → Bool) : ((t.select p).map Prod.fst).Nodup := by
  have sub : ((t.select p).map Prod.fst).Sublist (t.rows.map Prod.fst) :=
    List.filter_sublist.map Prod.fst
  exact (t.increasing.sublist sub).imp Nat.ne_of_lt

theorem findOne_mem {t : Table Row} {p : Nat × Row → Bool} {r : Nat × Row}
    (h : t.findOne p = some r) : r ∈ t.rows ∧ p r = true :=
  mem_select.mp (List.mem_of_mem_head? h)

theorem findOne_none {t : Table Row} {p : Nat × Row → Bool} (nothing : t.findOne p = none) :
    ∀ r ∈ t.rows, p r = false := by
  intro r there
  have empty := List.head?_eq_none_iff.mp nothing
  exact Bool.eq_false_of_not_eq_true (List.filter_eq_nil_iff.mp empty r there)

/-- A save over the one row with a property. -/
theorem mem_save_found {t : Table Row} {p : Nat × Row → Bool} {found r : Nat × Row} {v : Row}
    (one : t.findOne p = some found) (only : ∀ q ∈ t.rows, p q = true → q = found) :
    r ∈ (t.save found.1 v).rows ↔ r ∈ t.rows ∧ p r = false ∨ r = (found.1, v) := by
  obtain ⟨row, selected⟩ := findOne_mem one
  rw [Table.save, Table.update, mem_updateWhere]
  constructor
  · rintro ⟨q, there, rfl⟩
    by_cases here : q.1 = found.1
    · rw [touch_of_true _ (decide_eq_true here)]
      exact Or.inr (Prod.ext here rfl)
    · rw [touch_of_false _ (decide_eq_false here)]
      refine Or.inl ⟨there, Bool.eq_false_of_not_eq_true ?_⟩
      intro same
      exact here (congrArg Prod.fst (only q there same))
  · rintro (⟨there, other⟩ | rfl)
    · refine ⟨r, there, touch_of_false _ (decide_eq_false ?_)⟩
      intro here
      have equal : r = found :=
        Prod.ext here (key_unique t (here ▸ there : (found.1, r.2) ∈ t.rows) row)
      rw [equal, selected] at other
      cases other
    · exact ⟨found, row, touch_of_true _ (decide_eq_true rfl)⟩

theorem findNewest_mem {t : Table Row} {p : Nat × Row → Bool} {r : Nat × Row}
    (h : t.findNewest p = some r) : r ∈ t.rows ∧ p r = true :=
  mem_select.mp (List.mem_of_mem_getLast? h)

theorem get?_updateWhere (t : Table Row) (p : Nat × Row → Bool) (f : Row → Row) (k : Nat) :
    (t.updateWhere p f).get? k = (t.get? k).map fun v => if p (k, v) then f v else v := by
  unfold Table.get? Table.updateWhere
  rw [List.find?_map]
  have same : ((fun r : Nat × Row => decide (r.1 = k)) ∘ touch p f) = fun r => decide (r.1 = k) := by
    funext r
    simp
  rw [same]
  cases found : t.rows.find? fun r => decide (r.1 = k) with
  | none => rfl
  | some r =>
    have key : r.1 = k := by simpa using List.find?_some found
    subst key
    simp only [Option.map_some, touch]
    split <;> rfl

theorem get?_update (t : Table Row) (k j : Nat) (f : Row → Row) :
    (t.update k f).get? j = if j = k then (t.get? j).map f else t.get? j := by
  rw [Table.update, get?_updateWhere]
  by_cases key : j = k
  · simp [key]
  · simp [key]

theorem get?_insert (t : Table Row) (v : Row) (k : Nat) :
    (t.insert v).get? k = if k = t.next then some v else t.get? k := by
  ext w
  by_cases key : k = t.next
  · subst key
    have unused : (t.next, w) ∉ t.rows := fun row => Nat.lt_irrefl _ (row_below t row)
    rw [get?_eq_some, mem_insert]
    simpa [unused] using eq_comm
  · simp [key]

theorem select_insert (t : Table Row) (v : Row) (p : Nat × Row → Bool) :
    (t.insert v).select p = t.select p ++ if p (t.next, v) then [(t.next, v)] else [] := by
  simp only [Table.select, Table.insert, List.filter_append]
  congr 1
  simp [List.filter_cons]

theorem select_updateWhere {t : Table Row} {p sel : Nat × Row → Bool} {f : Row → Row}
    (shrinks : ∀ r ∈ t.rows, sel (touch p f r) = true → sel r = true) :
    (t.updateWhere p f).select sel = ((t.select sel).map (touch p f)).filter sel := by
  simp only [Table.select, Table.updateWhere]
  generalize t.rows = rows at shrinks
  induction rows with
  | nil => rfl
  | cons r rest ih =>
    have tail := ih fun q hq => shrinks q (List.mem_cons_of_mem r hq)
    cases before : sel r with
    | true => simp [List.filter_cons, before, tail]
    | false =>
      have after : sel (touch p f r) = false := by
        by_contra now
        have := shrinks r (by simp) (by simpa using now)
        simp [before] at this
      simp [before, after, tail]

theorem select_updateWhere_frame {t : Table Row} {p sel : Nat × Row → Bool} {f : Row → Row}
    (apart : ∀ r ∈ t.rows, p r = true → sel r = false ∧ sel (r.1, f r.2) = false) :
    (t.updateWhere p f).select sel = t.select sel := by
  simp only [Table.select, Table.updateWhere]
  generalize t.rows = rows at apart
  induction rows with
  | nil => rfl
  | cons r rest ih =>
    have tail := ih fun q hq => apart q (List.mem_cons_of_mem r hq)
    cases hit : p r with
    | true =>
      obtain ⟨before, after⟩ := apart r (by simp) hit
      simp [touch, hit, before, after, tail]
    | false => simp [touch, hit, List.filter_cons, tail]

theorem select_update_frame {t : Table Row} {k : Nat} {f : Row → Row} {sel : Nat × Row → Bool}
    (apart : ∀ w, (k, w) ∈ t.rows → sel (k, w) = false ∧ sel (k, f w) = false) :
    (t.update k f).select sel = t.select sel := by
  apply select_updateWhere_frame
  rintro ⟨j, u⟩ hu here
  have key : j = k := by simpa using here
  subst key
  exact apart u hu

theorem select_update {t : Table Row} {k : Nat} {f : Row → Row} {w : Row}
    {sel : Nat × Row → Bool} (row : t.select sel = [(k, w)]) :
    (t.update k f).select sel = if sel (k, f w) then [(k, f w)] else [] := by
  have here : (k, w) ∈ t.rows ∧ sel (k, w) = true := mem_select.mp (by simp [row])
  rw [Table.update, select_updateWhere, row]
  · simp [touch, List.filter_cons]
  · rintro ⟨j, u⟩ hu now
    by_cases key : j = k
    · subst key
      exact key_unique t hu here.1 ▸ here.2
    · simpa [touch, key] using now

theorem first_by_key_all {α : Type} (key : α → Int) {p : α → Bool} (rows : List α)
    (easier : ∀ a b, key a ≤ key b → p a = true → p b = true) :
    ((rows.insertionSort fun a b => key a ≤ key b).head?.all p) = true ↔ ∀ a ∈ rows, p a = true := by
  let le := fun a b => key a ≤ key b
  have total : Std.Total le := ⟨fun a b => le_total (key a) (key b)⟩
  have trans : IsTrans α le := ⟨fun a b c => le_trans⟩
  have sorted := List.pairwise_insertionSort le rows
  have members := fun a => List.mem_insertionSort le (l := rows) (x := a)
  change (List.head? (rows.insertionSort le)).all p = true ↔ _
  cases ordered : rows.insertionSort le with
  | nil =>
    simp only [List.head?_nil, Option.all_none, true_iff]
    intro a ha
    have := (members a).mpr ha
    simp [ordered] at this
  | cons first rest =>
    rw [ordered] at sorted members
    simp only [List.head?_cons, Option.all_some]
    constructor
    · intro holds a ha
      rcases List.mem_cons.mp ((members a).mpr ha) with rfl | later
      · exact holds
      · exact easier first a (List.rel_of_pairwise_cons sorted later) holds
    · intro all
      exact all first ((members first).mp List.mem_cons_self)

end KeyedTable
