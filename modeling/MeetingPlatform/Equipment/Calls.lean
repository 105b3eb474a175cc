import MeetingPlatform.Equipment.Handlers

/- What holds of a call between two of its accesses: what it is going to save is live equipment that
   it has read, and what it is going to log says what it has done. -/
namespace EquipmentStore
open KeyedTable CallPools EntitySaves

section Reading

def happened : Request → EquipmentEntity → Option FaultHistoryItem
  | .reportFault _ dto userId, saved =>
    some ⟨.reported, userId, some dto.issueNote, some saved.healthStatus, some saved.assetStatus⟩
  | .confirmFault _ dto userId, found =>
    some ⟨.confirmed, userId, dto.confirmationNote, some found.healthStatus, none⟩
  | .resolveFault _ dto userId, saved =>
    some ⟨.resolved, userId, some dto.resolutionNote, some saved.healthStatus, some saved.assetStatus⟩
  | _, _ => none

/-- The row says of the equipment what the request has done about it. -/
structure Logs (request : Request) (equipmentId : Nat) (entity : EquipmentEntity)
    (audit : AuditLogEntity) : Prop where
  about : audit.entityId = equipmentId
  item : itemOf audit = happened request entity

def Statement.ofRoom : Statement → Bool
  | .saveRoom _ _ | .removeRoom _ | .occupyRoom _ | .selectEquipment _ _ _ => true
  | _ => false

/-- How a call goes on from its first reads, if it does. -/
inductive Begun (s : Store) (request : Request) : Stage → Prop where
  | assigning {id : Nat} {dto : AssignEquipmentDto} {userId : Nat} {found : EquipmentEntity}
      (live : s.findEquipment id = some found) (silent : happened request = fun _ => none) :
      Begun s request (.readingRoom id dto userId found)
  | creating {row : EquipmentEntity} {userId : Nat} (silent : happened request = fun _ => none) :
      Begun s request (.insertingEquipment row userId)
  | building {row : RoomEntity} : Begun s request (.insertingRoom row)
  | saving {id : Nat} {found saved : EquipmentEntity} {audit : AuditLogEntity}
      (live : s.findEquipment id = some found) (same : saved.deleted = found.deleted)
      (logs : Logs request id saved audit) : Begun s request (savingOne id saved audit)
  | deleting {id userId : Nat} {found : EquipmentEntity} (live : s.findEquipment id = some found) :
      Begun s request
        (.transaction none [.removeEquipment id, .log (deletedLog id userId)] [] none)
  | rooms {todo : List Statement} (only : ∀ statement ∈ todo, statement.ofRoom = true) :
      Begun s request (.transaction none todo [] none)
  | confirming {id : Nat} {found : EquipmentEntity} {audit : AuditLogEntity}
      (live : s.findEquipment id = some found) (logs : Logs request id found audit) :
      Begun s request (.auditing id found audit)

variable {now : Nat} {s : Store} {stage : Stage}

theorem activeFault_live {id : Nat} {found : EquipmentEntity} (ok : activeFault s id = .ok found) :
    s.findEquipment id = some found := by
  rw [activeFault] at ok
  split at ok
  · cases ok
  · rename_i live
    split at ok
    · cases ok
    · cases ok
      exact live

theorem begin_begun {request : Request} (begun : begin now s request = .ok stage) :
    Begun s request stage := by
  cases request with
  | create dto userId =>
    rw [begin, create] at begun
    split at begun
    · cases begun
    · split at begun
      · cases begun
        exact .creating rfl
      · split at begun
        · cases begun
        · cases begun
          exact .creating rfl
  | reportFault id dto userId =>
    rw [begin, reportFault] at begun
    split at begun
    · cases begun
    · split at begun
      · cases begun
      · rename_i live
        split at begun
        · cases begun
        · cases begun
          exact .saving live rfl ⟨rfl, rfl⟩
  | confirmFault id dto userId =>
    rw [begin, confirmFault] at begun
    split at begun
    · cases begun
    · rename_i active
      cases begun
      exact .confirming (activeFault_live active) ⟨rfl, rfl⟩
  | resolveFault id dto userId =>
    rw [begin, resolveFault] at begun
    split at begun
    · cases begun
    · rename_i active
      cases begun
      exact .saving (activeFault_live active) rfl ⟨rfl, rfl⟩
  | deleteEquipment id userId =>
    rw [begin, deleteEquipment] at begun
    split at begun
    · cases begun
    · rename_i live
      cases begun
      exact .deleting live
  | assignToRoom id dto userId =>
    rw [begin, assignToRoom] at begun
    split at begun
    · cases begun
    · rename_i live
      split at begun
      · cases begun
      · cases begun
        exact .assigning live rfl
  | unassignFromRoom id userId =>
    rw [begin, unassignFromRoom] at begun
    split at begun
    · cases begun
    · rename_i live
      split at begun
      · cases begun
      · cases begun
        exact .saving live rfl ⟨rfl, rfl⟩
  | createRoom dto =>
    cases begun
    exact .building
  | updateRoom roomId dto userId =>
    rw [begin, updateRoom] at begun
    split at begun
    · cases begun
    · cases begun
      refine .rooms ?_
      intro statement there
      rcases List.mem_cons.mp there with rfl | there
      · rfl
      · split at there
        · cases there
        · rw [List.mem_singleton.mp there]
          rfl
  | updateAdministrativeStatus roomId status =>
    rw [begin, updateAdministrativeStatus] at begun
    split at begun
    · cases begun
    · cases begun
      exact .rooms (by simp [Statement.ofRoom])
  | deleteRoom roomId userId inProgress scheduled =>
    rw [begin, deleteRoom] at begun
    split at begun
    · cases begun
    · split at begun
      · cases begun
      · split at begun
        · cases begun
        · cases begun
          exact .rooms (by simp [Statement.ofRoom])
  | occupied roomId =>
    cases begun
    exact .rooms (by simp [Statement.ofRoom])

theorem assignFound_begun {id : Nat} {dto : AssignEquipmentDto} {userId : Nat}
    {found : EquipmentEntity} (begun : assignFound now s id dto userId found = .ok stage) :
    ∃ saved audit, stage = savingOne id saved audit ∧ saved.deleted = found.deleted ∧
      audit.entityId = id ∧ itemOf audit = none := by
  rw [assignFound] at begun
  split at begun
  · cases begun
  · cases begun
    exact ⟨_, _, rfl, rfl, rfl, rfl⟩

end Reading

section Fitting

/-- Live equipment, as it was read, that has a row. -/
structure Held (s : Store) (id : Nat) (entity : EquipmentEntity) : Prop where
  live : entity.deleted = false
  row : (s.equipments.get? id).isSome = true

def Statement.Fits (s : Store) : Statement → Prop
  | .saveEquipment id entity => Held s id entity
  | .removeEquipment id => (s.equipments.get? id).isSome = true
  | .log audit => itemOf audit = none
  | _ => True

def Write.Fits (s : Store) : Write → Prop
  | .saveEquipment id entity _ => Held s id entity
  | .removeEquipment id => (s.equipments.get? id).isSome = true
  | .log audit => itemOf audit = none
  | _ => True

def Statement.removes : Statement → Bool
  | .removeEquipment _ => true
  | _ => false

def Write.removes : Write → Bool
  | .removeEquipment _ => true
  | _ => false

def Statement.ofDeletion : Statement → Bool
  | .removeEquipment _ | .log _ => true
  | _ => false

def Write.ofDeletion : Write → Bool
  | .removeEquipment _ | .log _ => true
  | _ => false

/-- No transaction removes equipment and saves some. -/
inductive OneKind (todo : List Statement) (writes : List Write) : Prop where
  | saving (first : ∀ statement ∈ todo, statement.removes = false)
      (then_writes : ∀ w ∈ writes, w.removes = false)
  | deleting (first : ∀ statement ∈ todo, statement.ofDeletion = true)
      (then_writes : ∀ w ∈ writes, w.ofDeletion = true)

structure TransactionFits (s : Store) (request : Request) (todo : List Statement)
    (writes : List Write) (next : Option (Nat × EquipmentEntity × AuditLogEntity)) : Prop where
  statements : ∀ statement ∈ todo, statement.Fits s
  written : ∀ w ∈ writes, w.Fits s
  kind : OneKind todo writes
  logs : ∀ w ∈ next, Logs request w.1 w.2.1 w.2.2

def StageFits (s : Store) (request : Request) : Stage → Prop
  | .reading => True
  | .readingRoom id _ _ found => Held s id found ∧ happened request = fun _ => none
  | .insertingEquipment _ _ => happened request = fun _ => none
  | .insertingRoom _ => True
  | .transaction _ todo writes next => TransactionFits s request todo writes next
  | .auditing id entity audit => Logs request id entity audit
  | .telling id userId => request.tells = some (id, userId)

def CallFits (s : Store) (c : EquipmentCall) : Prop := StageFits s c.request c.stage

variable {s t : Store} {now : Nat} {request : Request} {stage : Stage}

theorem held_found {id : Nat} {found : EquipmentEntity} (live : s.findEquipment id = some found) :
    Held s id found := by
  obtain ⟨row, here⟩ := Option.filter_eq_some_iff.mp live
  exact ⟨by simpa using here, by rw [row]; rfl⟩

theorem savingOne_fits {id : Nat} {saved : EquipmentEntity} {audit : AuditLogEntity}
    (held : Held s id saved) (logs : Logs request id saved audit) :
    StageFits s request (savingOne id saved audit) where
  statements := by
    intro statement there
    rw [List.mem_singleton.mp there]
    exact held
  written := by
    intro w there
    cases there
  kind := by
    refine .saving ?_ ?_
    · intro statement there
      rw [List.mem_singleton.mp there]
      rfl
    · intro w there
      cases there
  logs := by
    intro w there
    cases there
    exact logs

theorem begun_fits (begun : Begun s request stage) : StageFits s request stage := by
  cases begun with
  | assigning live silent => exact ⟨held_found live, silent⟩
  | creating silent => exact silent
  | building => trivial
  | saving live same logs =>
    have held := held_found live
    exact savingOne_fits ⟨same.trans held.live, held.row⟩ logs
  | deleting live =>
    constructor
    · simp only [List.forall_mem_cons]
      exact ⟨(held_found live).row, rfl, by simp⟩
    · simp
    · exact .deleting (by simp [Statement.ofDeletion]) (by simp)
    · simp
  | @rooms todo only =>
    have fits : ∀ statement ∈ todo, statement.Fits s ∧ statement.removes = false := by
      intro statement there
      have here := only statement there
      cases statement with
      | saveRoom id entity => exact ⟨trivial, rfl⟩
      | removeRoom id => exact ⟨trivial, rfl⟩
      | occupyRoom id => exact ⟨trivial, rfl⟩
      | selectEquipment roomId types userId => exact ⟨trivial, rfl⟩
      | saveEquipment id entity => cases here
      | removeEquipment id => cases here
      | log audit => cases here
    constructor
    · exact fun statement there => (fits statement there).1
    · simp
    · exact .saving (fun statement there => (fits statement there).2) (by simp)
    · simp
  | confirming live logs => exact logs

end Fitting

section Growing
variable {s t : Store}

def Store.Within (s t : Store) : Prop :=
  ∀ id, (s.equipments.get? id).isSome = true → (t.equipments.get? id).isSome = true

theorem update_within {id : Nat} {f : EquipmentEntity → EquipmentEntity} :
    s.Within { s with equipments := s.equipments.update id f } := by
  intro k there
  rw [get?_update]
  split
  · rw [Option.isSome_map]
    exact there
  · exact there

theorem write_within (startedAt : Nat) (w : Write) : s.Within (s.write startedAt w) := by
  cases w with
  | saveRoom id entity stored => exact fun _ there => there
  | removeRoom id => exact fun _ there => there
  | occupyRoom id => exact fun _ there => there
  | saveEquipment id entity stored => exact update_within
  | removeEquipment id => exact update_within
  | log audit => exact fun _ there => there

theorem commit_within (startedAt : Nat) (writes : List Write) : s.Within (s.commit startedAt writes) := by
  induction writes generalizing s with
  | nil => exact fun _ there => there
  | cons w rest ih => exact fun id there => ih id (write_within startedAt w id there)

theorem act_within (now : Nat) (c : EquipmentCall) : s.Within (c.act now s).1 := by
  unfold EquipmentCall.act
  split
  · exact fun _ there => there
  · exact fun _ there => there
  · intro id there
    change ((s.equipments.insert _).get? id).isSome = true
    rw [get?_insert]
    split
    · rfl
    · exact there
  · exact fun _ there => there
  · exact fun _ there => there
  · exact commit_within _ _
  · split
    · exact fun _ there => there
    · exact fun _ there => there
  · split
    · exact fun _ there => there
    · exact fun _ there => there

theorem held_within {id : Nat} {entity : EquipmentEntity} (within : s.Within t)
    (held : Held s id entity) : Held t id entity := ⟨held.live, within id held.row⟩

theorem statement_within {statement : Statement} (within : s.Within t) (fits : statement.Fits s) :
    statement.Fits t := by
  cases statement with
  | saveEquipment id entity => exact held_within within fits
  | removeEquipment id => exact within id fits
  | log audit => exact fits
  | saveRoom id entity => trivial
  | removeRoom id => trivial
  | occupyRoom id => trivial
  | selectEquipment roomId types userId => trivial

theorem writes_within {w : Write} (within : s.Within t) (fits : w.Fits s) : w.Fits t := by
  cases w with
  | saveEquipment id entity stored => exact held_within within fits
  | removeEquipment id => exact within id fits
  | log audit => exact fits
  | saveRoom id entity stored => trivial
  | removeRoom id => trivial
  | occupyRoom id => trivial

theorem stage_within {request : Request} {stage : Stage} (within : s.Within t)
    (fits : StageFits s request stage) : StageFits t request stage := by
  cases stage with
  | reading => trivial
  | readingRoom id dto userId found => exact ⟨held_within within fits.1, fits.2⟩
  | insertingEquipment row userId => exact fits
  | insertingRoom row => trivial
  | transaction startedAt todo writes next =>
    exact ⟨fun statement there => statement_within within (fits.statements statement there),
      fun w there => writes_within within (fits.written w there), fits.kind, fits.logs⟩
  | auditing id entity audit => exact fits
  | telling id userId => exact fits

end Growing

section Keeping
variable {s : Store} {now : Nat} {c c' : EquipmentCall}

theorem execute_fits {statement : Statement} (fits : statement.Fits s) :
    (∀ st ∈ (s.execute statement).1, st.Fits s) ∧ ∀ w ∈ (s.execute statement).2, w.Fits s := by
  cases statement with
  | saveRoom id entity =>
    constructor
    · simp [Store.execute]
    · intro w there
      obtain ⟨stored, -, rfl⟩ := List.mem_map.mp there
      trivial
  | removeRoom id => simp [Store.execute, Write.Fits]
  | occupyRoom id => simp [Store.execute, Write.Fits]
  | selectEquipment roomId types userId =>
    constructor
    · intro st there
      obtain ⟨r, chosen, there⟩ := List.mem_flatMap.mp there
      obtain ⟨stored, inside⟩ := mem_select.mp chosen
      rcases List.mem_cons.mp there with rfl | there
      · rw [inRoom, Bool.and_eq_true, Bool.and_eq_true, Bool.not_eq_true'] at inside
        exact ⟨inside.1.1, by rw [get?_eq_some.mpr stored]; rfl⟩
      · rw [List.mem_singleton.mp there]
        exact rfl
    · simp [Store.execute]
  | saveEquipment id entity =>
    constructor
    · simp [Store.execute]
    · intro w there
      obtain ⟨stored, -, rfl⟩ := List.mem_map.mp there
      exact fits
  | removeEquipment id =>
    simp only [Store.execute, List.forall_mem_singleton]
    exact ⟨by simp, fits⟩
  | log audit =>
    simp only [Store.execute, List.forall_mem_singleton]
    exact ⟨by simp, fits⟩

theorem execute_saving {statement : Statement} (saving : statement.removes = false) :
    (∀ st ∈ (s.execute statement).1, st.removes = false) ∧
      ∀ w ∈ (s.execute statement).2, w.removes = false := by
  cases statement with
  | saveRoom id entity => simp [Store.execute, Write.removes]
  | removeRoom id => simp [Store.execute, Write.removes]
  | occupyRoom id => simp [Store.execute, Write.removes]
  | selectEquipment roomId types userId =>
    constructor
    · intro st there
      obtain ⟨r, -, there⟩ := List.mem_flatMap.mp there
      rcases List.mem_cons.mp there with rfl | there
      · rfl
      · rw [List.mem_singleton.mp there]
        rfl
    · simp [Store.execute]
  | saveEquipment id entity => simp [Store.execute, Write.removes]
  | removeEquipment id => cases saving
  | log audit => simp [Store.execute, Write.removes]

theorem execute_deleting {statement : Statement} (deleting : statement.ofDeletion = true) :
    (s.execute statement).1 = [] ∧ ∀ w ∈ (s.execute statement).2, w.ofDeletion = true := by
  cases statement with
  | removeEquipment id => simp [Store.execute, Write.ofDeletion]
  | log audit => simp [Store.execute, Write.ofDeletion]
  | saveRoom id entity => cases deleting
  | removeRoom id => cases deleting
  | occupyRoom id => cases deleting
  | selectEquipment roomId types userId => cases deleting
  | saveEquipment id entity => cases deleting

theorem execute_kind {statement : Statement} {todo : List Statement} {writes : List Write}
    (kind : OneKind (statement :: todo) writes) :
    OneKind ((s.execute statement).1 ++ todo) (writes ++ (s.execute statement).2) := by
  cases kind with
  | saving statements written =>
    obtain ⟨first, rest⟩ := List.forall_mem_cons.mp statements
    obtain ⟨more, made⟩ := @execute_saving s _ first
    exact .saving (List.forall_mem_append.mpr ⟨more, rest⟩) (List.forall_mem_append.mpr ⟨written, made⟩)
  | deleting statements written =>
    obtain ⟨first, rest⟩ := List.forall_mem_cons.mp statements
    obtain ⟨none, made⟩ := @execute_deleting s _ first
    rw [none]
    exact .deleting rest (List.forall_mem_append.mpr ⟨written, made⟩)

theorem checked_some {result : Except EquipmentError Stage} (on : c.checked result = some c') :
    ∃ stage, result = .ok stage ∧ c' = c.goesOn stage := by
  cases result with
  | error refused => cases on
  | ok stage => exact ⟨stage, rfl, (Option.some.inj on).symm⟩

theorem act_fits (fits : CallFits s c) (on : (c.act now s).2 = some c') :
    CallFits (c.act now s).1 c' := by
  have grown := @act_within s now c
  obtain ⟨incoming, stage⟩ := c
  cases stage with
  | reading =>
    obtain ⟨stage, begun, rfl⟩ := checked_some on
    exact begun_fits (begin_begun begun)
  | readingRoom id dto userId found =>
    obtain ⟨stage, begun, rfl⟩ := checked_some on
    obtain ⟨saved, audit, rfl, same, about, item⟩ := assignFound_begun begun
    exact savingOne_fits ⟨same.trans fits.1.live, fits.1.row⟩
      ⟨about, item.trans (congrFun fits.2 saved).symm⟩
  | insertingEquipment row userId =>
    cases Option.some.inj on
    exact ⟨rfl, (congrFun fits row).symm⟩
  | insertingRoom row => cases on
  | transaction startedAt todo writes next =>
    cases todo with
    | cons statement todo =>
      cases Option.some.inj on
      obtain ⟨first, rest⟩ := List.forall_mem_cons.mp fits.statements
      obtain ⟨more, made⟩ := execute_fits first
      exact ⟨List.forall_mem_append.mpr ⟨more, rest⟩, List.forall_mem_append.mpr ⟨fits.written, made⟩,
        execute_kind fits.kind, fits.logs⟩
    | nil =>
      obtain ⟨w, there, rfl⟩ := Option.map_eq_some_iff.mp on
      exact fits.logs w there
  | auditing id entity audit =>
    obtain ⟨w, tells, rfl⟩ := Option.map_eq_some_iff.mp on
    exact tells
  | telling id userId => cases on

theorem calls_kept : Keeps equipmentService (fun _ => True) CallFits (fun _ _ => True)
    fun _ _ _ => True where
  symm _ _ _ := trivial
  enters _ _ _ _ := trivial
  alone _ _ _ _ _ _ := trivial
  inv _ _ _ _ _ _ _ := trivial
  next _ _ _ _ _ fits _ _ on := act_fits fits on
  others _ now c _ _ _ fits _ _ _ := stage_within (act_within now c) fits
  still_apart _ _ _ _ _ _ _ _ _ _ _ _ := trivial

end Keeping
end EquipmentStore
