import MeetingPlatform.Agenda.Calls

/- What the transaction of a replacement leaves in the agenda, when others have written since the items
   were read. -/
namespace Agenda
open KeyedTable Guards CallPools

section Replaced
variable {items : List AgendaItemDto} {userId : Nat} {existingItems : List (Nat × AgendaItem)}
  {t : Table AgendaItem}

/-- The rows that have come since the items were read. -/
def added (t : Table AgendaItem) (existingItems : List (Nat × AgendaItem)) : List (Nat × AgendaItem) :=
  t.rows.filter fun r => r.1 ∉ existingItems.map Prod.fst

/-- The items of the request that become rows or find theirs, with their places. -/
def writes (t : Table AgendaItem) (existingItems : List (Nat × AgendaItem)) (items : List AgendaItemDto) :
    List (AgendaItemDto × Nat) :=
  items.zipIdx.filter fun w =>
    ∀ id ∈ w.1.id, id ∈ existingItems.map Prod.fst ∧ id ∈ t.rows.map Prod.fst

theorem requestIds_zipIdx (items : List AgendaItemDto) :
    requestIds items = items.zipIdx.filterMap fun w => w.1.id := by
  rw [requestIds]
  conv => lhs; rw [← List.zipIdx_map_fst 0 items]
  rw [List.filterMap_map]
  rfl

theorem updates_keys : (updates items existingItems).map Prod.fst = keepIds items existingItems := by
  rw [updates, keepIds, requestIds_zipIdx, List.map_filterMap, List.filter_filterMap]
  refine List.filterMap_congr ?_
  intro w _
  rw [Option.map_map]
  exact congrFun Option.map_id _

theorem updates_once (distinct : (requestIds items).Nodup) :
    ((updates items existingItems).map Prod.fst).Nodup := by
  rw [updates_keys]
  exact distinct.sublist List.filter_sublist

theorem left_alone :
    ((t.deleteWhere fun r => r.1 ∈ idsToDelete items existingItems).rows.filter fun r =>
      !decide (r.1 ∈ (updates items existingItems).map Prod.fst)) = added t existingItems := by
  change (t.rows.filter _).filter _ = _
  rw [List.filter_filter, added]
  refine List.filter_congr ?_
  intro r _
  rw [updates_keys, idsToDelete, Bool.eq_iff_iff]
  simp only [keepIds, List.mem_filter, Bool.and_eq_true, Bool.not_eq_true', decide_eq_false_iff_not,
    decide_eq_true_eq]
  tauto

theorem updates_found :
    ((updates items existingItems).filter fun w =>
      w.1 ∈ (t.deleteWhere fun r => r.1 ∈ idsToDelete items existingItems).rows.map Prod.fst) =
      (updates items existingItems).filter fun w => w.1 ∈ t.rows.map Prod.fst := by
  refine List.filter_congr ?_
  intro w there
  have kept : w.1 ∈ keepIds items existingItems := updates_keys ▸ List.mem_map_of_mem there
  rw [Bool.eq_iff_iff, decide_eq_true_iff, decide_eq_true_iff]
  constructor
  · exact fun found => (List.filter_sublist.map Prod.fst).subset found
  · intro found
    obtain ⟨r, stored, same⟩ := List.mem_map.mp found
    refine List.mem_map.mpr ⟨r, List.mem_filter.mpr ⟨stored, ?_⟩, same⟩
    rw [Bool.not_eq_true', decide_eq_false_iff_not, idsToDelete, List.mem_filter, same]
    rintro ⟨-, dropped⟩
    exact of_decide_eq_true dropped kept

theorem writes_perm :
    (((updates items existingItems).filter fun w => w.1 ∈ t.rows.map Prod.fst).map Prod.snd ++
      newItems items).Perm (writes t existingItems items) := by
  have new : newItems items =
      (writes t existingItems items).filter fun w => !decide (w.1.id.isSome = true) := by
    rw [newItems, writes, List.filter_filter]
    refine List.filter_congr ?_
    intro w _
    cases w.1.id with
    | none => rfl
    | some id => simp
  have old : ((updates items existingItems).filter fun w => w.1 ∈ t.rows.map Prod.fst).map Prod.snd =
      (writes t existingItems items).filter fun w => decide (w.1.id.isSome = true) := by
    rw [updates, writes, List.filter_filter, List.filter_filterMap, List.map_filterMap,
      ← List.filterMap_eq_filter]
    refine List.filterMap_congr ?_
    intro w _
    rw [Option.guard]
    generalize existingItems.map Prod.fst = readIds
    generalize t.rows.map Prod.fst = storedIds
    cases known : w.1.id with
    | none => rfl
    | some id =>
      by_cases read : id ∈ readIds
      · by_cases stored : id ∈ storedIds
        · simp [Option.filter, read, stored]
        · simp [Option.filter, read, stored]
      · simp [Option.filter, read]
  rw [new, old]
  exact List.filter_append_perm _ _

variable {B : Type} {g : AgendaItem → B} {h : AgendaItemDto × Nat → B}

theorem replaced_perm (distinct : (requestIds items).Nodup)
    (overwrites : ∀ (w : AgendaItemDto × Nat) row, g (w.1.overwrite userId w.2 row) = h w)
    (creates : ∀ w : AgendaItemDto × Nat, g (w.1.create userId w.2) = h w) :
    ((replaceItems items userId existingItems t).rows.map fun r => g r.2).Perm
      ((added t existingItems).map (fun r => g r.2) ++ (writes t existingItems items).map h) := by
  have once : ((updates items existingItems).map Prod.fst).Nodup := updates_once distinct
  let kept := t.deleteWhere fun r => r.1 ∈ idsToDelete items existingItems
  let f := fun (w : AgendaItemDto × Nat) => w.1.overwrite userId w.2
  let found := fun r : Nat × AgendaItem => decide (r.1 ∈ (updates items existingItems).map Prod.fst)
  let value := fun r => g (written (updates items existingItems) f r).2
  have whole : (replaceItems items userId existingItems t).rows.map (fun r => g r.2) =
      kept.rows.map value ++ (newItems items).map h := by
    change (((kept.updateEach (updates items existingItems) f).insertEach
      ((newItems items).map fun w => w.1.create userId w.2)).rows.map (g ∘ Prod.snd)) = _
    rw [← List.map_map, insertEach_rows, updateEach_rows once, List.map_append, List.map_map, List.map_map,
      List.map_map]
    congr 1
    exact List.map_congr_left fun w _ => creates w
  have alone : (kept.rows.filter fun r => !found r).map value =
      (added t existingItems).map fun r => g r.2 := by
    rw [show (kept.rows.filter fun r => !found r) = added t existingItems from left_alone]
    refine List.map_congr_left ?_
    intro r there
    have absent : r.1 ∉ (updates items existingItems).map Prod.fst := by
      rw [updates_keys]
      intro keep
      exact of_decide_eq_true (List.mem_filter.mp there).2 (of_decide_eq_true (List.mem_filter.mp keep).2)
    change g (written _ f r).2 = _
    rw [written_of_none (get_eq_none absent)]
  have updated : ((kept.rows.filter found).map value).Perm
      ((((updates items existingItems).filter fun w => w.1 ∈ t.rows.map Prod.fst).map Prod.snd).map h) := by
    refine (written_perm (h := h) once overwrites).trans (List.Perm.of_eq ?_)
    rw [List.map_map]
    exact congrArg (List.map (h ∘ Prod.snd)) updates_found
  have halves : ((kept.rows.filter fun r => !found r).map value ++ (kept.rows.filter found).map value).Perm
      (kept.rows.map value) := by
    rw [← List.map_append]
    exact (List.perm_append_comm.trans (List.filter_append_perm _ _)).map value
  rw [whole]
  refine (halves.symm.append_right _).trans ?_
  rw [alone, List.append_assoc]
  refine List.Perm.append_left _ ?_
  refine (updated.append_right _).trans ?_
  rw [← List.map_append]
  exact writes_perm.map h

end Replaced

section Checks
variable {s : AgendaStore} {c : AgendaCall} {now : Nat}

def Validated : AgendaCall → Prop
  | .replace _ _ .starting => True
  | .replace items _ .idsChecked => (requestIds items).Nodup
  | .replace items _ .validated => (requestIds items).Nodup ∧ ∀ item ∈ items, 0 < item.minutes
  | .replace items _ (.replacing _) => (requestIds items).Nodup ∧ ∀ item ∈ items, 0 < item.minutes
  | _ => True

theorem validateItems_ok {items : List AgendaItemDto} (ok : items.forM validateItem = .ok ()) :
    ∀ item ∈ items, validateItem item = .ok () := by
  induction items with
  | nil => nofun
  | cons first rest ih =>
    have ok : (validateItem first >>= fun _ => rest.forM validateItem) = .ok () := ok
    obtain ⟨_, here, later⟩ := bind_eq_ok.mp ok
    intro item there
    rcases List.mem_cons.mp there with rfl | there
    · exact here
    · exact ih later item there

theorem validateItem_positive {item : AgendaItemDto} (ok : validateItem item = .ok ()) :
    0 < item.minutes := by
  simp only [validateItem, bind_eq_ok, require_eq_ok] at ok
  obtain ⟨-, -, -, -, -, -, minutes, given, positive⟩ := ok
  rw [AgendaItemDto.minutes, given]
  exact positive

theorem next_validated {c' : AgendaCall} (validated : Validated c)
    (next : (agendaCalls.act now c s).2 = some c') : Validated c' := by
  cases c with
  | replace items userId stage =>
    obtain ⟨stage', goes, rfl⟩ := Option.map_eq_some_iff.mp next
    cases stage with
    | starting =>
      obtain ⟨_, checked, rfl⟩ := Option.map_eq_some_iff.mp goes
      have checked := toOption_eq_some.mp checked
      simp only [validateIds, bind_eq_ok, require_eq_ok] at checked
      obtain ⟨-, -, -, -, -, -, -, -, -, -, -, distinct, -⟩ := checked
      exact distinct
    | idsChecked =>
      obtain ⟨_, checked, rfl⟩ := Option.map_eq_some_iff.mp goes
      have checked := toOption_eq_some.mp checked
      simp only [validateFields, bind_eq_ok] at checked
      obtain ⟨_, valid, -⟩ := checked
      exact ⟨validated, fun item there => validateItem_positive (validateItems_ok valid item there)⟩
    | validated =>
      have goes : loadExisting s items = some stage' := goes
      simp only [loadExisting] at goes
      split at goes
      · cases goes
      · cases goes
        exact validated
    | replacing existingItems => cases goes
  | update agendaId dto userId => cases next
  | delete agendaId userId => cases next
  | remove meetingId participantUserId authUserId scope stage =>
    obtain ⟨stage', -, rfl⟩ := Option.map_eq_some_iff.mp next
    trivial

theorem calls_keep {Inv : AgendaStore → Prop}
    (inv : ∀ {s now c}, Inv s → Validated c → Inv (agendaCalls.act now c s).1) :
    Keeps agendaCalls Inv (fun _ c => Validated c) (fun _ _ => True) (fun _ _ _ => True) where
  symm _ _ _ := trivial
  enters _ r _ _ := by cases r <;> exact trivial
  alone _ _ _ _ _ _ := trivial
  inv _ _ _ held validated _ _ := inv held validated
  next _ _ _ _ _ validated _ _ next := next_validated validated next
  others _ _ _ _ _ _ validated _ _ _ := validated
  still_apart _ _ _ _ _ _ _ _ _ _ _ _ := trivial

end Checks
end Agenda
