import MeetingPlatform.Equipment.Calls

/- Deletions that are undone. A save loads the row again, whether it is deleted or not, and writes
   every column in which the entity differs: one that was read before a deletion and is saved after it
   takes `deletedAt` away. -/
namespace EquipmentStore
open KeyedTable LabelledRuns CallPools EntitySaves

section Rows

def Write.onEquipment (id : Nat) (row : EquipmentEntity) : Write → EquipmentEntity
  | .saveEquipment k entity stored => if id = k then savedEquipment entity stored row else row
  | .removeEquipment k => if id = k then row.removed else row
  | _ => row

/-- The save of an entity over a row that it has loaded as a deleted one. -/
def Write.Revives (id : Nat) (w : Write) : Prop :=
  ∃ entity stored, w = .saveEquipment id entity stored ∧ stored.deleted = true

/-- The writes that a call is about to commit. -/
def EquipmentCall.commits (c : EquipmentCall) : List Write :=
  match c.stage with
  | .transaction _ [] writes _ => writes
  | _ => []

def EquipmentCall.Deletes (id : Nat) (c : EquipmentCall) : Prop := Write.removeEquipment id ∈ c.commits

def EquipmentCall.Revives (id : Nat) (c : EquipmentCall) : Prop := ∃ w ∈ c.commits, w.Revives id

instance (id : Nat) (c : EquipmentCall) : Decidable (c.Deletes id) :=
  inferInstanceAs (Decidable (_ ∈ _))

variable {s : Store} {id : Nat} {row : EquipmentEntity}

theorem write_row (startedAt : Nat) (w : Write) :
    (s.write startedAt w).equipments.get? id =
      (s.equipments.get? id).map fun row => w.onEquipment id row := by
  cases w with
  | saveRoom k entity stored => exact Option.map_id'.symm
  | removeRoom k => exact Option.map_id'.symm
  | occupyRoom k => exact Option.map_id'.symm
  | saveEquipment k entity stored =>
    change (s.equipments.update k (savedEquipment entity stored)).get? id = _
    rw [get?_update]
    split
    · simp [Write.onEquipment, *]
    · simp [Write.onEquipment, *]
  | removeEquipment k =>
    change (s.equipments.update k .removed).get? id = _
    rw [get?_update]
    split
    · simp [Write.onEquipment, *]
    · simp [Write.onEquipment, *]
  | log audit => exact Option.map_id'.symm

theorem commit_row (startedAt : Nat) (writes : List Write) :
    (s.commit startedAt writes).equipments.get? id =
      (s.equipments.get? id).map fun row => writes.foldl (Write.onEquipment id) row := by
  induction writes generalizing s with
  | nil => exact Option.map_id'.symm
  | cons w rest ih =>
    change ((s.write startedAt w).commit startedAt rest).equipments.get? id = _
    rw [ih, write_row, Option.map_map]
    rfl

theorem found_iff (there : s.equipments.get? id = some row) :
    (s.findEquipment id).isSome = true ↔ row.deleted = false := by
  rw [Store.findEquipment, there, Option.isSome_filter, Option.any_some, Bool.not_eq_true']

theorem onEquipment_live {w : Write} (fits : w.Fits s) (keeps : w ≠ .removeEquipment id) :
    (w.onEquipment id row).deleted = false ↔ row.deleted = false ∨ w.Revives id := by
  cases w with
  | saveEquipment k entity stored =>
    by_cases here : id = k
    · subst here
      have made : ((Write.saveEquipment id entity stored).onEquipment id row).deleted =
          savedColumn false stored.deleted row.deleted := by
        rw [Write.onEquipment, if_pos rfl, savedEquipment, fits.live]
      rw [made]
      cases loaded : stored.deleted with
      | true =>
        rw [savedColumn_changed Bool.false_ne_true]
        exact iff_of_true rfl (Or.inr ⟨entity, stored, rfl, loaded⟩)
      | false =>
        rw [savedColumn_same]
        constructor
        · exact Or.inl
        · rintro (live | ⟨e, r, same, gone⟩)
          · exact live
          · cases same
            exact absurd (loaded.symm.trans gone) Bool.false_ne_true
    · rw [Write.onEquipment, if_neg here]
      constructor
      · exact Or.inl
      · rintro (live | ⟨e, r, same, gone⟩)
        · exact live
        · cases same
          exact absurd rfl here
  | removeEquipment k =>
    have other : id ≠ k := by
      rintro rfl
      exact keeps rfl
    rw [Write.onEquipment, if_neg other]
    simp [Write.Revives]
  | saveRoom k entity stored => simp [Write.onEquipment, Write.Revives]
  | removeRoom k => simp [Write.onEquipment, Write.Revives]
  | occupyRoom k => simp [Write.onEquipment, Write.Revives]
  | log audit => simp [Write.onEquipment, Write.Revives]

theorem writes_live {writes : List Write} (fits : ∀ w ∈ writes, w.Fits s)
    (keeps : Write.removeEquipment id ∉ writes) :
    (writes.foldl (Write.onEquipment id) row).deleted = false ↔
      row.deleted = false ∨ ∃ w ∈ writes, w.Revives id := by
  induction writes generalizing row with
  | nil => simp
  | cons w rest ih =>
    obtain ⟨first, fits⟩ := List.forall_mem_cons.mp fits
    obtain ⟨differs, keeps⟩ := not_or.mp fun there => keeps (List.mem_cons.mpr there)
    rw [List.foldl_cons, ih fits keeps, onEquipment_live first (Ne.symm differs), or_assoc,
      List.exists_mem_cons_iff]

theorem deletion_stays {writes : List Write} (deletion : ∀ w ∈ writes, w.ofDeletion = true)
    (gone : row.deleted = true) : (writes.foldl (Write.onEquipment id) row).deleted = true := by
  induction writes generalizing row with
  | nil => exact gone
  | cons w rest ih =>
    obtain ⟨first, deletion⟩ := List.forall_mem_cons.mp deletion
    refine ih deletion ?_
    cases w with
    | removeEquipment k =>
      rw [Write.onEquipment]
      split
      · rfl
      · exact gone
    | log audit => exact gone
    | saveRoom k entity stored => cases first
    | removeRoom k => cases first
    | occupyRoom k => cases first
    | saveEquipment k entity stored => cases first

theorem deletion_deletes {writes : List Write} (deletion : ∀ w ∈ writes, w.ofDeletion = true)
    (there : Write.removeEquipment id ∈ writes) :
    (writes.foldl (Write.onEquipment id) row).deleted = true := by
  induction writes generalizing row with
  | nil => cases there
  | cons w rest ih =>
    obtain ⟨-, later⟩ := List.forall_mem_cons.mp deletion
    rcases List.mem_cons.mp there with rfl | there
    · rw [List.foldl_cons]
      refine deletion_stays later ?_
      rw [Write.onEquipment, if_pos rfl]
      rfl
    · exact ih later there

end Rows

section Accesses
variable {s : Store} {id now : Nat} {c c' : EquipmentCall}

/-- Only the end of a transaction commits anything. -/
theorem commits_at_end {w : Write} (there : w ∈ c.commits) : ∃ incoming startedAt writes next,
    c = ⟨incoming, .transaction startedAt [] writes next⟩ ∧ w ∈ writes := by
  obtain ⟨incoming, stage⟩ := c
  unfold EquipmentCall.commits at there
  split at there
  · rename_i same
    cases same
    exact ⟨_, _, _, _, rfl, there⟩
  · cases there

theorem commits_fits (fits : CallFits s c) : ∀ w ∈ c.commits, w.Fits s := by
  intro w there
  obtain ⟨incoming, startedAt, writes, next, rfl, written⟩ := commits_at_end there
  exact fits.written w written

theorem deletes_fits (fits : CallFits s c) (deletes : c.Deletes id) :
    (∀ w ∈ c.commits, w.ofDeletion = true) ∧ (s.equipments.get? id).isSome = true := by
  refine ⟨?_, commits_fits fits _ deletes⟩
  obtain ⟨incoming, startedAt, writes, next, rfl, there⟩ := commits_at_end deletes
  cases fits.kind with
  | saving first written => cases written _ there
  | deleting first written => exact written

theorem act_row (there : (s.equipments.get? id).isSome = true) :
    (c.act now s).1.equipments.get? id =
      (s.equipments.get? id).map fun row => c.commits.foldl (Write.onEquipment id) row := by
  obtain ⟨incoming, stage⟩ := c
  have kept : s.equipments.get? id =
      (s.equipments.get? id).map fun row => ([] : List Write).foldl (Write.onEquipment id) row :=
    Option.map_id'.symm
  cases stage with
  | reading => exact kept
  | readingRoom k dto userId found => exact kept
  | insertingEquipment row userId =>
    change (s.equipments.insert row).get? id = _
    obtain ⟨old, stored⟩ := Option.isSome_iff_exists.mp there
    have other : id ≠ s.equipments.next := Nat.ne_of_lt (row_below _ (get?_eq_some.mp stored))
    rw [get?_insert, if_neg other]
    exact kept
  | insertingRoom row => exact kept
  | transaction startedAt todo writes next =>
    cases todo with
    | cons statement todo => exact kept
    | nil => exact commit_row (startedAt.getD now) writes
  | auditing k entity audit =>
    have same : (EquipmentCall.act ⟨incoming, .auditing k entity audit⟩ now s).1.equipments =
        s.equipments := by
      simp only [EquipmentCall.act]
      split <;> rfl
    rw [same]
    exact kept
  | telling k userId =>
    have same : (EquipmentCall.act ⟨incoming, .telling k userId⟩ now s).1.equipments =
        s.equipments := by
      simp only [EquipmentCall.act]
      split <;> rfl
    rw [same]
    exact kept

theorem act_deletes (fits : CallFits s c) (deletes : c.Deletes id) :
    ((c.act now s).1.findEquipment id).isSome = false := by
  obtain ⟨deletion, there⟩ := deletes_fits fits deletes
  obtain ⟨row, stored⟩ := Option.isSome_iff_exists.mp there
  have made := @act_row s id now c there
  rw [stored, Option.map_some] at made
  rw [← Bool.not_eq_true, found_iff made, deletion_deletes deletion deletes]
  exact Bool.noConfusion

theorem act_found (fits : CallFits s c) (there : (s.equipments.get? id).isSome = true)
    (keeps : ¬ c.Deletes id) :
    ((c.act now s).1.findEquipment id).isSome = true ↔
      (s.findEquipment id).isSome = true ∨ c.Revives id := by
  obtain ⟨row, stored⟩ := Option.isSome_iff_exists.mp there
  have made := @act_row s id now c there
  rw [stored, Option.map_some] at made
  rw [found_iff made, found_iff stored, writes_live (commits_fits fits) keeps]
  rfl

def EquipmentCall.HasRead (id : Nat) (c : EquipmentCall) : Prop :=
  match c.stage with
  | .readingRoom k _ _ _ => k = id
  | .transaction _ todo writes _ =>
    (∃ entity, Statement.saveEquipment id entity ∈ todo) ∨
      ∃ entity stored, Write.saveEquipment id entity stored ∈ writes
  | _ => False

/-- It has loaded the row again since, and found it deleted. -/
def EquipmentCall.Stale (id : Nat) (c : EquipmentCall) : Prop :=
  match c.stage with
  | .transaction _ _ writes _ => ∃ w ∈ writes, w.Revives id
  | _ => False

theorem stale_read (stale : c.Stale id) : c.HasRead id := by
  obtain ⟨incoming, stage⟩ := c
  cases stage with
  | transaction startedAt todo writes next =>
    obtain ⟨w, there, entity, stored, rfl, -⟩ := stale
    exact Or.inr ⟨entity, stored, there⟩
  | reading => cases stale
  | readingRoom k dto userId found => cases stale
  | insertingEquipment row userId => cases stale
  | insertingRoom row => cases stale
  | auditing k entity audit => cases stale
  | telling k userId => cases stale

theorem revives_stale (revives : c.Revives id) : c.Stale id := by
  obtain ⟨incoming, stage⟩ := c
  obtain ⟨w, there, made⟩ := revives
  cases stage with
  | transaction startedAt todo writes next =>
    cases todo with
    | nil => exact ⟨w, there, made⟩
    | cons statement todo => cases there
  | reading => cases there
  | readingRoom k dto userId found => cases there
  | insertingEquipment row userId => cases there
  | insertingRoom row => cases there
  | auditing k entity audit => cases there
  | telling k userId => cases there

theorem act_incoming (on : (c.act now s).2 = some c') : c'.toIncoming = c.toIncoming := by
  obtain ⟨incoming, stage⟩ := c
  cases stage with
  | reading =>
    obtain ⟨stage, -, rfl⟩ := checked_some on
    rfl
  | readingRoom k dto userId found =>
    obtain ⟨stage, -, rfl⟩ := checked_some on
    rfl
  | insertingEquipment row userId =>
    cases Option.some.inj on
    rfl
  | insertingRoom row => cases on
  | transaction startedAt todo writes next =>
    cases todo with
    | cons statement todo =>
      cases Option.some.inj on
      rfl
    | nil =>
      obtain ⟨w, -, rfl⟩ := Option.map_eq_some_iff.mp on
      rfl
  | auditing k entity audit =>
    obtain ⟨w, -, rfl⟩ := Option.map_eq_some_iff.mp on
    rfl
  | telling k userId => cases on

theorem begun_read {request : Request} {stage : Stage} {incoming : Incoming}
    (begun : Begun s request stage) (read : (⟨incoming, stage⟩ : EquipmentCall).HasRead id) :
    (s.findEquipment id).isSome = true := by
  cases begun with
  | assigning live silent =>
    rw [← show _ = id from read, live]
    rfl
  | creating silent => cases read
  | building => cases read
  | @saving k found saved audit live same logs =>
    rcases read with ⟨entity, there⟩ | ⟨entity, stored, there⟩
    · cases List.mem_singleton.mp there
      rw [live]
      rfl
    · cases there
  | deleting live =>
    rcases read with ⟨entity, there⟩ | ⟨entity, stored, there⟩
    · simp at there
    · cases there
  | rooms only =>
    rcases read with ⟨entity, there⟩ | ⟨entity, stored, there⟩
    · cases only _ there
    · cases there
  | confirming live logs => cases read

theorem execute_read {statement : Statement} {entity : EquipmentEntity}
    (there : Statement.saveEquipment id entity ∈ (s.execute statement).1) :
    (s.findEquipment id).isSome = true := by
  cases statement with
  | selectEquipment roomId types userId =>
    obtain ⟨r, chosen, there⟩ := List.mem_flatMap.mp there
    obtain ⟨stored, inside⟩ := mem_select.mp chosen
    rcases List.mem_cons.mp there with same | there
    · obtain ⟨rfl, rfl⟩ := Statement.saveEquipment.inj same
      rw [inRoom, Bool.and_eq_true, Bool.and_eq_true, Bool.not_eq_true'] at inside
      exact (found_iff (get?_eq_some.mpr stored)).mpr inside.1.1
    · cases List.mem_singleton.mp there
  | saveRoom k entity => cases there
  | removeRoom k => cases there
  | occupyRoom k => cases there
  | saveEquipment k entity => cases there
  | removeEquipment k => cases there
  | log audit => cases there

theorem execute_saves {statement : Statement} {entity stored : EquipmentEntity}
    (there : Write.saveEquipment id entity stored ∈ (s.execute statement).2) :
    statement = .saveEquipment id entity ∧ s.equipments.get? id = some stored := by
  cases statement with
  | saveEquipment k e =>
    obtain ⟨row, found, same⟩ := List.mem_map.mp there
    obtain ⟨rfl, rfl, rfl⟩ := Write.saveEquipment.inj same
    exact ⟨rfl, Option.mem_toList.mp found⟩
  | saveRoom k e =>
    obtain ⟨row, -, same⟩ := List.mem_map.mp there
    cases same
  | removeRoom k => simp [Store.execute] at there
  | occupyRoom k => simp [Store.execute] at there
  | selectEquipment roomId types userId => simp [Store.execute] at there
  | removeEquipment k => simp [Store.execute] at there
  | log audit => simp [Store.execute] at there

theorem act_read (fits : CallFits s c) (on : (c.act now s).2 = some c') (read : c'.HasRead id) :
    c.HasRead id ∨ (s.findEquipment id).isSome = true := by
  obtain ⟨incoming, stage⟩ := c
  cases stage with
  | reading =>
    obtain ⟨stage, begun, rfl⟩ := checked_some on
    exact Or.inr (begun_read (begin_begun begun) read)
  | readingRoom k dto userId found =>
    obtain ⟨stage, begun, rfl⟩ := checked_some on
    obtain ⟨saved, audit, rfl, -⟩ := assignFound_begun begun
    rcases read with ⟨entity, there⟩ | ⟨entity, stored, there⟩
    · cases List.mem_singleton.mp there
      exact Or.inl rfl
    · cases there
  | insertingEquipment row userId =>
    cases Option.some.inj on
    cases read
  | insertingRoom row => cases on
  | transaction startedAt todo writes next =>
    cases todo with
    | cons statement todo =>
      cases Option.some.inj on
      rcases read with ⟨entity, there⟩ | ⟨entity, stored, there⟩
      · rcases List.mem_append.mp there with new | old
        · exact Or.inr (execute_read new)
        · exact Or.inl (Or.inl ⟨entity, List.mem_cons_of_mem _ old⟩)
      · rcases List.mem_append.mp there with old | new
        · exact Or.inl (Or.inr ⟨entity, stored, old⟩)
        · obtain ⟨rfl, -⟩ := execute_saves new
          exact Or.inl (Or.inl ⟨entity, List.mem_cons_self⟩)
    | nil =>
      obtain ⟨w, -, rfl⟩ := Option.map_eq_some_iff.mp on
      cases read
  | auditing k entity audit =>
    obtain ⟨w, -, rfl⟩ := Option.map_eq_some_iff.mp on
    cases read
  | telling k userId => cases on

theorem act_stale (on : (c.act now s).2 = some c') (stale : c'.Stale id) :
    c.Stale id ∨ c.HasRead id ∧ (s.findEquipment id).isSome = false := by
  obtain ⟨incoming, stage⟩ := c
  cases stage with
  | reading =>
    obtain ⟨stage, begun, rfl⟩ := checked_some on
    cases begin_begun begun with
    | assigning live silent => cases stale
    | creating silent => cases stale
    | building => cases stale
    | saving live same logs =>
      obtain ⟨w, there, -⟩ := stale
      cases there
    | deleting live =>
      obtain ⟨w, there, -⟩ := stale
      cases there
    | rooms only =>
      obtain ⟨w, there, -⟩ := stale
      cases there
    | confirming live logs => cases stale
  | readingRoom k dto userId found =>
    obtain ⟨stage, begun, rfl⟩ := checked_some on
    obtain ⟨saved, audit, rfl, -⟩ := assignFound_begun begun
    obtain ⟨w, there, -⟩ := stale
    cases there
  | insertingEquipment row userId =>
    cases Option.some.inj on
    cases stale
  | insertingRoom row => cases on
  | transaction startedAt todo writes next =>
    cases todo with
    | cons statement todo =>
      cases Option.some.inj on
      obtain ⟨w, there, entity, stored, rfl, gone⟩ := stale
      rcases List.mem_append.mp there with old | new
      · exact Or.inl ⟨_, old, entity, stored, rfl, gone⟩
      · obtain ⟨rfl, loaded⟩ := execute_saves new
        refine Or.inr ⟨Or.inl ⟨entity, List.mem_cons_self⟩, ?_⟩
        rw [← Bool.not_eq_true, found_iff loaded, gone]
        exact Bool.noConfusion
    | nil =>
      obtain ⟨w, -, rfl⟩ := Option.map_eq_some_iff.mp on
      cases stale
  | auditing k entity audit =>
    obtain ⟨w, -, rfl⟩ := Option.map_eq_some_iff.mp on
    cases stale
  | telling k userId => cases on

end Accesses

section Runs
variable {p q a b r : Pool Store EquipmentCall} {id i now : Nat} {c : EquipmentCall}
  {moves later : List (Move (Pool Store EquipmentCall) (Turn Incoming))}

/-- The call was there before, and had read the equipment. -/
def WasThere (p : Pool Store EquipmentCall) (id i : Nat) (c : EquipmentCall) : Prop :=
  ∃ first, p.calls i = some first ∧ first.toIncoming = c.toIncoming ∧ first.HasRead id

/-- As long as the equipment is deleted, every call that holds it was there at the deletion; and so
    was, for good, every call that has found it deleted. -/
structure Blamed (p : Pool Store EquipmentCall) (id : Nat) (a : Pool Store EquipmentCall) : Prop where
  sound : Sound (fun _ => True) CallFits (fun _ _ => True) a
  row : (a.shared.equipments.get? id).isSome = true
  held : (a.shared.findEquipment id).isSome = false →
    ∀ j d, a.calls j = some d → d.HasRead id → WasThere p id j d
  stale : ∀ j d, a.calls j = some d → d.Stale id → WasThere p id j d

def Keeping (id : Nat) : Pool Store EquipmentCall → Turn Incoming → Prop :=
  Allows fun _ _ c => ¬ c.Deletes id

theorem was_there_later {d d' : EquipmentCall} {j : Nat} (there : WasThere p id j d)
    (same : d'.toIncoming = d.toIncoming) : WasThere p id j d' := by
  obtain ⟨first, waiting, request, read⟩ := there
  exact ⟨first, waiting, request.trans same.symm, read⟩

theorem blamed_step {turn : Turn Incoming} (blamed : Blamed p id a)
    (step : Step equipmentService a turn b) (keeping : Keeping id a turn) : Blamed p id b := by
  have sound := sound_kept calls_kept blamed.sound step
  cases step with
  | @enter j incoming free admitted =>
    refine ⟨sound, blamed.row, ?_, ?_⟩
    · intro gone k d waiting read
      rcases found_in_update waiting with ⟨-, new⟩ | ⟨-, old⟩
      · cases Option.some.inj new
        cases read
      · exact blamed.held gone k d old read
    · intro k d waiting stale
      rcases found_in_update waiting with ⟨-, new⟩ | ⟨-, old⟩
      · cases Option.some.inj new
        cases stale
      · exact blamed.stale k d old stale
  | @act j now c waiting order =>
    have fits : CallFits a.shared c := blamed.sound.fits j c waiting
    have found := @act_found a.shared id now c fits blamed.row (keeping c waiting)
    refine ⟨sound, act_within now c id blamed.row, ?_, ?_⟩
    · intro gone k d there read
      -- what is deleted now was deleted before the access
      have before : (a.shared.findEquipment id).isSome = false := by
        rw [← Bool.not_eq_true]
        intro live
        exact absurd ((found.mpr (Or.inl live)).symm.trans gone) Bool.noConfusion
      rcases found_in_update there with ⟨rfl, new⟩ | ⟨-, old⟩
      · rcases act_read fits new read with same | live
        · exact was_there_later (blamed.held before k c waiting same) (act_incoming new)
        · exact absurd (live.symm.trans before) Bool.noConfusion
      · exact blamed.held before k d old read
    · intro k d there stale
      rcases found_in_update there with ⟨rfl, new⟩ | ⟨-, old⟩
      · rcases act_stale new stale with same | ⟨read, gone⟩
        · exact was_there_later (blamed.stale k c waiting same) (act_incoming new)
        · exact was_there_later (blamed.held gone k c waiting read) (act_incoming new)
      · exact blamed.stale k d old stale

theorem blamed_deletion (sound : Sound (fun _ => True) CallFits (fun _ _ => True) p)
    (waiting : p.calls i = some c) (deletes : c.Deletes id) :
    Blamed p id (p.after equipmentService (.act i now)) ∧
      ((p.after equipmentService (.act i now)).shared.findEquipment id).isSome = false := by
  have fits : CallFits p.shared c := sound.fits i c waiting
  have step : Step equipmentService p (.act i now) (p.after equipmentService (.act i now)) :=
    step_after ⟨by rw [waiting]; rfl, Nat.zero_le _⟩
  have after : p.after equipmentService (.act i now) =
      ⟨(c.act now p.shared).1, Function.update p.calls i (c.act now p.shared).2⟩ := by
    simp only [Pool.after, waiting]
    rfl
  have kept := sound_kept calls_kept sound step
  rw [after] at kept ⊢
  obtain ⟨-, row⟩ := deletes_fits fits deletes
  have ends : ∀ d, (c.act now p.shared).2 = some d → ¬ d.HasRead id := by
    intro d on
    obtain ⟨incoming, startedAt, writes, next, rfl, -⟩ := commits_at_end deletes
    obtain ⟨w, -, rfl⟩ := Option.map_eq_some_iff.mp on
    exact fun read => read
  have held : ∀ j d, Function.update p.calls i (c.act now p.shared).2 j = some d → d.HasRead id →
      WasThere p id j d := by
    intro j d there read
    rcases found_in_update there with ⟨-, new⟩ | ⟨-, old⟩
    · exact absurd read (ends d new)
    · exact ⟨d, old, rfl, read⟩
  exact ⟨⟨kept, act_within now c id row, fun _ => held, fun j d there stale =>
    held j d there (stale_read stale)⟩, act_deletes fits deletes⟩

/-- The access in which a call brings the equipment back. -/
def Undoes (id : Nat) (m : Move (Pool Store EquipmentCall) (Turn Incoming)) : Prop :=
  ∃ i c, Acts m i c ∧ c.Revives id

theorem step_undoes {turn : Turn Incoming} (blamed : Blamed p id a)
    (step : Step equipmentService a turn b) (keeping : Keeping id a turn) :
    (b.shared.findEquipment id).isSome = true ↔
      (a.shared.findEquipment id).isSome = true ∨ Undoes id ⟨a, turn, b⟩ := by
  cases step with
  | enter free admitted =>
    constructor
    · exact Or.inl
    · rintro (live | ⟨i, c, ⟨-, now, label⟩, -⟩)
      · exact live
      · cases label
  | @act j now c waiting order =>
    have found := @act_found a.shared id now c (blamed.sound.fits j c waiting) blamed.row
      (keeping c waiting)
    refine found.trans (or_congr_right ?_)
    constructor
    · exact fun revives => ⟨j, c, ⟨waiting, now, rfl⟩, revives⟩
    · rintro ⟨i, d, ⟨there, now, label⟩, revives⟩
      cases label
      cases waiting.symm.trans there
      exact revives

theorem run_undoes (run : Run (Step equipmentService) q later r) (blamed : Blamed p id q)
    (gone : (q.shared.findEquipment id).isSome = false) (once : Heeds (Keeping id) later) :
    (r.shared.findEquipment id).isSome = true ↔ ∃ m ∈ later, Undoes id m := by
  induction run with
  | nil => simp [gone]
  | snoc init last ih =>
    obtain ⟨front, here⟩ := heeds_snoc.mp once
    have before := guarded_invariant (Blamed p id) init blamed front blamed_step
    rw [step_undoes before last here, ih front]
    simp only [List.mem_append, List.mem_singleton, or_and_right, exists_or, exists_eq_left]

/-- After a deletion, over any run without another deletion of the same equipment: it is found again
    exactly when a call commits the save of an entity over the deleted row, and every call that does
    so was under way at the deletion and had read the equipment before it. -/
theorem deletion_undone_iff (before : Run (Step equipmentService) (Pool.idle .empty) moves p)
    (waiting : p.calls i = some c) (deletes : c.Deletes id)
    (after : Run (Step equipmentService) (p.after equipmentService (.act i now)) later r)
    (once : Heeds (Keeping id) later) :
    ((r.shared.findEquipment id).isSome = true ↔ ∃ m ∈ later, Undoes id m) ∧
      ∀ m ∈ later, ∀ j d, Acts m j d → d.Revives id → WasThere p id j d := by
  have sound := run_invariant before (@sound_idle _ _ (fun _ => True) CallFits (fun _ _ => True) _ trivial)
    (sound_kept calls_kept)
  obtain ⟨blamed, gone⟩ := @blamed_deletion p id i now c sound waiting deletes
  refine ⟨run_undoes after blamed gone once, ?_⟩
  intro m there j d acts revives
  have at_move := (moves_invariant (Blamed p id) after blamed once blamed_step m there).1
  exact at_move.stale j d acts.1 (revives_stale revives)

def newCamera : Incoming := ⟨.create ⟨.camera, none, none, none, none⟩ 4, false, false⟩

def noPicture : Incoming :=
  ⟨.reportFault 0 ⟨some ⟨.faulty, by decide⟩, none, "no picture"⟩ 4, false, false⟩

def reportedAndDeleted : List (Turn Incoming) :=
  [.enter 0 newCamera, .act 0 10, .act 0 11, .act 0 12, .enter 1 noPicture, .act 1 20,
    .enter 2 ⟨.deleteEquipment 0 5, false, false⟩, .act 2 21, .act 2 22, .act 2 23]

theorem deletion_undone_reported :
    ∃ p r later, Run (Step equipmentService) (p.after equipmentService (.act 2 24)) later r ∧
      (r.shared.findEquipment 0).isSome = true ∧
        ∃ m ∈ later, ∃ j d, Acts m j d ∧ d.Revives 0 ∧ WasThere p 0 j d := by
  have first : Follows equipmentService (fun _ _ _ => True) (Pool.idle .empty) reportedAndDeleted := by
    decide
  obtain ⟨moves, before, -⟩ := follows_run first
  have second : Follows equipmentService (fun _ _ c => ¬ c.Deletes 0)
      ((reportedAndDeleted.foldl (Pool.after equipmentService) (Pool.idle .empty)).after
        equipmentService (.act 2 24)) [.act 1 25, .act 1 26] := by decide
  obtain ⟨later, after, once⟩ := follows_run second
  have undone := deletion_undone_iff before rfl List.mem_cons_self after once
  obtain ⟨m, there, j, d, acts, revives⟩ := undone.1.mp rfl
  exact ⟨_, _, later, after, rfl, m, there, j, d, acts, revives, undone.2 m there j d acts revives⟩

end Runs
end EquipmentStore
