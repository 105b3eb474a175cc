import MeetingPlatform.Lib.Table
import MeetingPlatform.Lib.OrderedMap
import Mathlib.Data.List.Perm.Basic

/- Deletions, and loops of updates and inserts, as they act on the rows of a table. -/
namespace KeyedTable
open OrderedMap
variable {Row A : Type}

def Table.deleteWhere (t : Table Row) (p : Nat × Row → Bool) : Table Row where
  rows := t.rows.filter fun r => !p r
  next := t.next
  increasing := t.increasing.sublist (List.filter_sublist.map Prod.fst)
  below k there := t.below k ((List.filter_sublist.map Prod.fst).subset there)

def Table.updateEach (t : Table Row) (writes : List (Nat × A)) (f : A → Row → Row) : Table Row :=
  writes.foldl (fun t w => t.update w.1 (f w.2)) t

def Table.insertEach (t : Table Row) (rows : List Row) : Table Row := rows.foldl Table.insert t

def written (writes : List (Nat × A)) (f : A → Row → Row) (r : Nat × Row) : Nat × Row :=
  match get writes r.1 with
  | some a => (r.1, f a r.2)
  | none => r

variable {t : Table Row} {writes : List (Nat × A)} {f : A → Row → Row}

theorem written_of_get {r : Nat × Row} {a : A} (found : get writes r.1 = some a) :
    written writes f r = (r.1, f a r.2) := by
  rw [written, found]

theorem written_of_none {r : Nat × Row} (missing : get writes r.1 = none) : written writes f r = r := by
  rw [written, missing]

@[simp] theorem written_key (r : Nat × Row) : (written writes f r).1 = r.1 := by
  unfold written
  split <;> rfl

theorem get_eq_none {k : Nat} (absent : k ∉ writes.map Prod.fst) : get writes k = none := by
  cases found : get writes k with
  | none => rfl
  | some a => exact absurd (List.mem_map_of_mem (mem_of_get found)) absent

theorem updateEach_rows (once : (writes.map Prod.fst).Nodup) :
    (t.updateEach writes f).rows = t.rows.map (written writes f) := by
  induction writes generalizing t with
  | nil => exact (List.map_id _).symm
  | cons w rest ih =>
    obtain ⟨fresh, once⟩ := List.nodup_cons.mp once
    change ((t.update w.1 (f w.2)).updateEach rest f).rows = _
    rw [ih once]
    change (t.rows.map (touch (fun r => r.1 = w.1) (f w.2))).map (written rest f) = _
    rw [List.map_map]
    refine List.map_congr_left ?_
    intro r _
    rw [Function.comp_apply]
    by_cases here : r.1 = w.1
    · have first : get (w :: rest) r.1 = some w.2 := by rw [get_cons, if_pos here.symm]
      have later : get rest r.1 = none := get_eq_none (here ▸ fresh)
      rw [touch_of_true _ (decide_eq_true here), written_of_get first]
      exact written_of_none later
    · have same : get (w :: rest) r.1 = get rest r.1 := by rw [get_cons, if_neg (Ne.symm here)]
      rw [touch_of_false _ (decide_eq_false here), written, written, same]

theorem insertEach_rows (more : List Row) :
    (t.insertEach more).rows.map Prod.snd = t.rows.map Prod.snd ++ more := by
  induction more generalizing t with
  | nil => exact (List.append_nil _).symm
  | cons v rest ih =>
    change ((t.insert v).insertEach rest).rows.map Prod.snd = _
    rw [ih, Table.insert, List.map_append, List.append_assoc]
    rfl

theorem get_filter {k j : Nat} (other : j ≠ k) : get (writes.filter fun w => w.1 ≠ k) j = get writes j := by
  induction writes with
  | nil => rfl
  | cons w rest ih =>
    by_cases here : w.1 = k
    · have apart : w.1 ≠ j := fun same => other (same.symm.trans here)
      rw [List.filter_cons_of_neg (by simpa using here), ih, get_cons, if_neg apart]
    · rw [List.filter_cons_of_pos (by simpa using here), get_cons, get_cons, ih]

theorem keys_nodup (t : Table Row) : (t.rows.map Prod.fst).Nodup := t.increasing.imp Nat.ne_of_lt

theorem perm_deleteWhere {k : Nat} {v : Row} (there : (k, v) ∈ t.rows) :
    t.rows.Perm ((k, v) :: (t.deleteWhere fun r => r.1 = k).rows) := by
  obtain ⟨front, back, split⟩ := List.append_of_mem there
  have once := keys_nodup t
  rw [split, List.map_append, List.map_cons, List.nodup_append] at once
  obtain ⟨-, after, apart⟩ := once
  have left : ∀ r ∈ front, r.1 ≠ k := fun r member =>
    apart r.1 (List.mem_map_of_mem member) k List.mem_cons_self
  have right : ∀ r ∈ back, r.1 ≠ k := by
    intro r member same
    exact (List.nodup_cons.mp after).1 (List.mem_map.mpr ⟨r, member, same⟩)
  have kept : (t.deleteWhere fun r => r.1 = k).rows = front ++ back := by
    change t.rows.filter (fun r => !decide (r.1 = k)) = _
    rw [split, List.filter_append, List.filter_cons_of_neg (by simp)]
    congr 1
    · exact List.filter_eq_self.mpr fun r member => by simpa using left r member
    · exact List.filter_eq_self.mpr fun r member => by simpa using right r member
  rw [kept, split]
  exact List.perm_middle

theorem found_perm (once : (writes.map Prod.fst).Nodup) :
    ((t.rows.filter fun r => r.1 ∈ writes.map Prod.fst).map fun r => (r.1, get writes r.1)).Perm
      ((writes.filter fun w => w.1 ∈ t.rows.map Prod.fst).map fun w => (w.1, some w.2)) := by
  have left : ((t.rows.filter fun r => r.1 ∈ writes.map Prod.fst).map
      fun r => (r.1, get writes r.1)).Nodup := by
    refine List.Nodup.of_map Prod.fst ?_
    rw [List.map_map]
    exact (keys_nodup t).sublist (List.filter_sublist.map Prod.fst)
  have right : ((writes.filter fun w => w.1 ∈ t.rows.map Prod.fst).map
      fun w => (w.1, some w.2)).Nodup := by
    refine List.Nodup.of_map Prod.fst ?_
    rw [List.map_map]
    exact once.sublist (List.filter_sublist.map Prod.fst)
  refine (List.perm_ext_iff_of_nodup left right).mpr ?_
  rintro ⟨k, found⟩
  simp only [List.mem_map, List.mem_filter, decide_eq_true_eq, Prod.mk.injEq]
  constructor
  · rintro ⟨r, ⟨stored, w, there, same⟩, rfl, rfl⟩
    refine ⟨w, ⟨there, r, stored, same.symm⟩, same, ?_⟩
    rw [← same]
    exact (get_of_mem once there).symm
  · rintro ⟨w, ⟨there, r, stored, same⟩, rfl, rfl⟩
    refine ⟨r, ⟨stored, w, there, same.symm⟩, same, ?_⟩
    rw [same]
    exact get_of_mem once there

theorem written_perm {B : Type} {g : Row → B} {h : A → B} (once : (writes.map Prod.fst).Nodup)
    (gives : ∀ a row, g (f a row) = h a) :
    ((t.rows.filter fun r => r.1 ∈ writes.map Prod.fst).map fun r => g (written writes f r).2).Perm
      ((writes.filter fun w => w.1 ∈ t.rows.map Prod.fst).map fun w => h w.2) := by
  have found := (found_perm (t := t) once).map fun u : Nat × Option A => u.2.map h
  have rows : ((t.rows.filter fun r => r.1 ∈ writes.map Prod.fst).map
      fun r => g (written writes f r).2).map some =
      ((t.rows.filter fun r => r.1 ∈ writes.map Prod.fst).map fun r => (r.1, get writes r.1)).map
        fun u => u.2.map h := by
    rw [List.map_map, List.map_map]
    refine List.map_congr_left ?_
    intro r there
    obtain ⟨w, member, same⟩ := List.mem_map.mp (of_decide_eq_true (List.mem_filter.mp there).2)
    have value := get_of_mem once member
    rw [same] at value
    rw [Function.comp_apply, Function.comp_apply, written_of_get value, value, gives]
    rfl
  refine (List.map_perm_map_iff (Option.some_injective B)).mp ?_
  rw [rows]
  refine found.trans (List.Perm.of_eq ?_)
  rw [List.map_map, List.map_map]
  rfl

end KeyedTable
