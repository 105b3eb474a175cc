import MeetingPlatform.Lib.CallPool
import MeetingPlatform.Lib.EntitySaves
import MeetingPlatform.Lib.Table
import Mathlib.Data.List.Sort

/- The equipment of the meeting rooms. A call reads first, outside of a transaction, and saves later
   the entity that it made of what it read; the row of the audit log about it is in most cases a
   transaction of its own, which may fail. -/
namespace EquipmentStore
open KeyedTable CallPools EntitySaves

section Rows

inductive EquipmentType where
  | camera | microphone | display | speaker | captureAgent | sensor | other
  deriving DecidableEq, Repr

inductive AssetStatus where
  | available | assigned | retired | lost | maintenance
  deriving DecidableEq, Repr

inductive HealthStatus where
  | healthy | warning | faulty | offline | unknown
  deriving DecidableEq, Repr

inductive RoomStatus where
  | available | occupied | reserved | maintenance | inactive
  deriving DecidableEq, Repr

structure RoomEntity where
  roomName : String
  hasCamera : Bool
  hasMicrophone : Bool
  hasDisplay : Bool
  isActive : Bool
  currentStatus : RoomStatus
  administrativeStatus : Option RoomStatus
  deleted : Bool
  deriving DecidableEq, Repr

structure EquipmentEntity where
  equipmentType : EquipmentType
  assetStatus : AssetStatus
  healthStatus : HealthStatus
  currentRoomId : Option Nat
  assignedBy : Option Nat
  assignedAt : Option Nat
  installedAt : Option Nat
  assignmentNote : Option String
  lastIssueReportedAt : Option Nat
  lastIssueNote : Option String
  lastMaintenanceAt : Option Nat
  deleted : Bool
  deriving DecidableEq, Repr

inductive AuditAction where
  | create | update | confirm | delete
  deriving DecidableEq, Repr

inductive AuditLogSeverity where
  | info | warning
  deriving DecidableEq, Repr

structure NewValue where
  healthStatus : Option HealthStatus
  assetStatus : Option AssetStatus
  healthStatusAtConfirmation : Option HealthStatus
  lastIssueNote : Option String
  confirmationNote : Option String
  resolutionNote : Option String
  deriving DecidableEq, Repr

structure AuditLogEntity where
  userId : Nat
  actionType : AuditAction
  entityId : Nat
  newValue : NewValue
  severity : AuditLogSeverity
  deriving DecidableEq, Repr

def NewValue.statuses (healthStatus : Option HealthStatus) (assetStatus : Option AssetStatus) :
    NewValue where
  healthStatus := healthStatus
  assetStatus := assetStatus
  healthStatusAtConfirmation := none
  lastIssueNote := none
  confirmationNote := none
  resolutionNote := none

end Rows

section Requests

inductive ReportedAssetAction where
  | active | maintenance | retired
  deriving DecidableEq, Repr

structure CreateEquipmentDto where
  equipmentType : EquipmentType
  healthStatus : Option HealthStatus
  purchaseDate : Option Nat
  roomId : Option Nat
  assignmentNote : Option String
  deriving DecidableEq, Repr

structure ReportEquipmentFaultDto where
  healthStatus : Option { h : HealthStatus // h = .warning ∨ h = .faulty ∨ h = .offline }
  assetStatus : Option ReportedAssetAction
  issueNote : String
  deriving DecidableEq

structure ConfirmEquipmentFaultDto where
  confirmationNote : Option String
  deriving DecidableEq, Repr

structure ResolveEquipmentFaultDto where
  healthStatus : { h : HealthStatus // h = .healthy ∨ h = .warning }
  assetStatus : Option ReportedAssetAction
  resolutionNote : String
  deriving DecidableEq

structure AssignEquipmentDto where
  roomId : Nat
  installedAt : Option Nat
  assignmentNote : Option String
  deriving DecidableEq, Repr

structure RoomFlagsDto where
  roomName : Option String
  hasCamera : Option Bool
  hasMicrophone : Option Bool
  hasDisplay : Option Bool
  deriving DecidableEq, Repr

inductive EquipmentError where
  | invalidPurchaseDate
  | faultNoChange
  | equipmentNotFound
  | equipmentNotReportable (assetStatus : AssetStatus)
  | equipmentNoActiveFault (healthStatus : HealthStatus)
  | equipmentNotAssignable (assetStatus : AssetStatus)
  | equipmentNotAssigned
  | roomNotFound
  | roomNotAssignable (isActive : Bool) (currentStatus : RoomStatus)
  | roomEquipmentTypeMismatch (registeredTypes : List String)
  | roomInUse
  | roomHasScheduledMeetings
  deriving DecidableEq, Repr

/-- The two answers about the meetings of a room are given to `deleteRoom`; `occupied` is the UPDATE
    that the presence of people in a room leads to. -/
inductive Request where
  | create (dto : CreateEquipmentDto) (userId : Nat)
  | reportFault (equipmentId : Nat) (dto : ReportEquipmentFaultDto) (userId : Nat)
  | confirmFault (equipmentId : Nat) (dto : ConfirmEquipmentFaultDto) (userId : Nat)
  | resolveFault (equipmentId : Nat) (dto : ResolveEquipmentFaultDto) (userId : Nat)
  | deleteEquipment (equipmentId userId : Nat)
  | assignToRoom (equipmentId : Nat) (dto : AssignEquipmentDto) (userId : Nat)
  | unassignFromRoom (equipmentId userId : Nat)
  | createRoom (dto : RoomFlagsDto)
  | updateRoom (roomId : Nat) (dto : RoomFlagsDto) (userId : Nat)
  | updateAdministrativeStatus (roomId : Nat) (status : RoomStatus)
  | deleteRoom (roomId userId : Nat) (inProgress scheduled : Bool)
  | occupied (roomId : Nat)
  deriving DecidableEq

/-- The accesses of a transaction, in their order. A save loads the row again, deleted or not. -/
inductive Statement where
  | saveRoom (id : Nat) (entity : RoomEntity)
  | removeRoom (id : Nat)
  | occupyRoom (id : Nat)
  | selectEquipment (roomId : Nat) (types : Option (List EquipmentType)) (userId : Nat)
  | saveEquipment (id : Nat) (entity : EquipmentEntity)
  | removeEquipment (id : Nat)
  | log (audit : AuditLogEntity)
  deriving DecidableEq, Repr

/-- What the others see of a transaction once it is committed. -/
inductive Write where
  | saveRoom (id : Nat) (entity stored : RoomEntity)
  | removeRoom (id : Nat)
  | occupyRoom (id : Nat)
  | saveEquipment (id : Nat) (entity stored : EquipmentEntity)
  | removeEquipment (id : Nat)
  | log (audit : AuditLogEntity)
  deriving DecidableEq, Repr

/-- A transaction begins with its first statement. -/
inductive Stage where
  | reading
  | readingRoom (equipmentId : Nat) (dto : AssignEquipmentDto) (userId : Nat)
      (equipment : EquipmentEntity)
  | insertingEquipment (row : EquipmentEntity) (userId : Nat)
  | insertingRoom (row : RoomEntity)
  | transaction (startedAt : Option Nat) (todo : List Statement) (writes : List Write)
      (next : Option (Nat × EquipmentEntity × AuditLogEntity))
  | auditing (equipmentId : Nat) (entity : EquipmentEntity) (audit : AuditLogEntity)
  | telling (equipmentId userId : Nat)
  deriving DecidableEq

/-- A request, with the failures that are in store for it where a failure is swallowed. -/
structure Incoming where
  request : Request
  auditFails : Bool := false
  tellFails : Bool := false
  deriving DecidableEq

structure EquipmentCall extends Incoming where
  stage : Stage
  deriving DecidableEq

/-- The rows of the audit log come with the instant at which their transaction began, which is their
    `createdAt`; `told` are the users who were told about a fault, each with the equipment. -/
structure Store where
  rooms : Table RoomEntity
  equipments : Table EquipmentEntity
  auditLogs : List (Nat × AuditLogEntity)
  told : List (Nat × Nat)

def Store.empty : Store := ⟨.empty, .empty, [], []⟩

def Store.findRoom (s : Store) (roomId : Nat) : Option RoomEntity :=
  (s.rooms.get? roomId).filter fun room => !room.deleted

def Store.findEquipment (s : Store) (equipmentId : Nat) : Option EquipmentEntity :=
  (s.equipments.get? equipmentId).filter fun equipment => !equipment.deleted

end Requests

section Rooms

def RoomEntity.registered (room : RoomEntity) : EquipmentType → Bool
  | .camera => room.hasCamera
  | .microphone => room.hasMicrophone
  | .display => room.hasDisplay
  | _ => true

def getRoomRegisteredTypeLabels (room : RoomEntity) : List String :=
  (if room.hasCamera then ["Camera"] else []) ++
    (if room.hasMicrophone then ["Microphone"] else []) ++
      if room.hasDisplay then ["Màn hình/Tivi"] else []

/-- The room that equipment of the type is put into, as `create` and `assignToRoom` check it. -/
def assignableRoom (s : Store) (roomId : Nat) (equipmentType : EquipmentType) :
    Except EquipmentError RoomEntity :=
  match s.findRoom roomId with
  | none => .error .roomNotFound
  | some room =>
    if ¬ (room.isActive = true ∧ room.currentStatus ≠ .inactive) then
      .error (.roomNotAssignable room.isActive room.currentStatus)
    else if room.registered equipmentType then .ok room
    else .error (.roomEquipmentTypeMismatch (getRoomRegisteredTypeLabels room))

def createRoom (dto : RoomFlagsDto) : Stage :=
  .insertingRoom
    { roomName := dto.roomName.getD ""
      hasCamera := dto.hasCamera.getD false
      hasMicrophone := dto.hasMicrophone.getD false
      hasDisplay := dto.hasDisplay.getD false
      isActive := true
      currentStatus := .available
      administrativeStatus := none
      deleted := false }

def removedTypes (before saved : RoomEntity) : List EquipmentType :=
  (if before.hasCamera && !saved.hasCamera then [.camera] else []) ++
    (if before.hasMicrophone && !saved.hasMicrophone then [.microphone] else []) ++
      if before.hasDisplay && !saved.hasDisplay then [.display] else []

def updateRoom (s : Store) (roomId : Nat) (dto : RoomFlagsDto) (userId : Nat) :
    Except EquipmentError Stage :=
  match s.findRoom roomId with
  | none => .error .roomNotFound
  | some room =>
    let saved :=
      { room with
        roomName := dto.roomName.getD room.roomName
        hasCamera := dto.hasCamera.getD room.hasCamera
        hasMicrophone := dto.hasMicrophone.getD room.hasMicrophone
        hasDisplay := dto.hasDisplay.getD room.hasDisplay }
    let removed := removedTypes room saved
    .ok (.transaction none
      (.saveRoom roomId saved ::
        if removed = [] then [] else [.selectEquipment roomId (some removed) userId]) [] none)

def updateAdministrativeStatus (s : Store) (roomId : Nat) (status : RoomStatus) :
    Except EquipmentError Stage :=
  match s.findRoom roomId with
  | none => .error .roomNotFound
  | some room =>
    .ok (.transaction none [.saveRoom roomId { room with administrativeStatus := some status }] [] none)

def deleteRoom (s : Store) (roomId userId : Nat) (inProgress scheduled : Bool) :
    Except EquipmentError Stage :=
  match s.findRoom roomId with
  | none => .error .roomNotFound
  | some _ =>
    if inProgress then .error .roomInUse
    else if scheduled then .error .roomHasScheduledMeetings
    else .ok (.transaction none [.removeRoom roomId, .selectEquipment roomId none userId] [] none)

end Rooms

section Equipment

def resolveAssetAction (action : ReportedAssetAction) (currentRoomId : Option Nat) : AssetStatus :=
  match action with
  | .active => if currentRoomId.isSome then .assigned else .available
  | .retired => .retired
  | .maintenance => .maintenance

def resolvedStatus (action : Option ReportedAssetAction) (equipment : EquipmentEntity) : AssetStatus :=
  match action with
  | some action => resolveAssetAction action equipment.currentRoomId
  | none => equipment.assetStatus

def CreateEquipmentDto.stored (dto : CreateEquipmentDto) : EquipmentEntity where
  equipmentType := dto.equipmentType
  assetStatus := .available
  healthStatus := dto.healthStatus.getD .unknown
  currentRoomId := none
  assignedBy := none
  assignedAt := none
  installedAt := none
  assignmentNote := none
  lastIssueReportedAt := none
  lastIssueNote := none
  lastMaintenanceAt := none
  deleted := false

def create (now : Nat) (s : Store) (dto : CreateEquipmentDto) (userId : Nat) :
    Except EquipmentError Stage :=
  if dto.purchaseDate.any (now < ·) then .error .invalidPurchaseDate
  else
    match dto.roomId with
    | none => .ok (.insertingEquipment dto.stored userId)
    | some roomId =>
      match assignableRoom s roomId dto.equipmentType with
      | .error refused => .error refused
      | .ok _ =>
        .ok (.insertingEquipment
          { dto.stored with
            assetStatus := .assigned
            currentRoomId := some roomId
            assignedBy := some userId
            assignedAt := some now
            installedAt := some now
            assignmentNote := dto.assignmentNote }
          userId)

def createdLog (equipmentId userId : Nat) (saved : EquipmentEntity) : AuditLogEntity where
  userId := userId
  actionType := .create
  entityId := equipmentId
  newValue := NewValue.statuses (some saved.healthStatus) (some saved.assetStatus)
  severity := .info

/-- The transaction that saves one entity, and the row of the log that is written behind it. -/
def savingOne (equipmentId : Nat) (saved : EquipmentEntity) (audit : AuditLogEntity) : Stage :=
  .transaction none [.saveEquipment equipmentId saved] [] (some (equipmentId, saved, audit))

def reportFault (now : Nat) (s : Store) (equipmentId : Nat) (dto : ReportEquipmentFaultDto)
    (userId : Nat) : Except EquipmentError Stage :=
  if dto.healthStatus.isNone ∧ dto.assetStatus.isNone then .error .faultNoChange
  else
    match s.findEquipment equipmentId with
    | none => .error .equipmentNotFound
    | some equipment =>
      if equipment.assetStatus = .retired ∨ equipment.assetStatus = .lost then
        .error (.equipmentNotReportable equipment.assetStatus)
      else
        let saved :=
          { equipment with
            healthStatus := (dto.healthStatus.map Subtype.val).getD equipment.healthStatus
            assetStatus := resolvedStatus dto.assetStatus equipment
            lastIssueReportedAt := some now
            lastIssueNote := some dto.issueNote }
        .ok (savingOne equipmentId saved
          { userId := userId
            actionType := .update
            entityId := equipmentId
            newValue :=
              { NewValue.statuses (some saved.healthStatus) (some saved.assetStatus) with
                lastIssueNote := saved.lastIssueNote }
            severity := .warning })

def activeFault (s : Store) (equipmentId : Nat) : Except EquipmentError EquipmentEntity :=
  match s.findEquipment equipmentId with
  | none => .error .equipmentNotFound
  | some equipment =>
    if equipment.healthStatus = .healthy ∨ equipment.healthStatus = .unknown then
      .error (.equipmentNoActiveFault equipment.healthStatus)
    else .ok equipment

def confirmFault (s : Store) (equipmentId : Nat) (dto : ConfirmEquipmentFaultDto) (userId : Nat) :
    Except EquipmentError Stage :=
  match activeFault s equipmentId with
  | .error refused => .error refused
  | .ok equipment =>
    .ok (.auditing equipmentId equipment
      { userId := userId
        actionType := .confirm
        entityId := equipmentId
        newValue :=
          { NewValue.statuses none none with
            confirmationNote := dto.confirmationNote
            healthStatusAtConfirmation := some equipment.healthStatus }
        severity := .info })

def resolveFault (now : Nat) (s : Store) (equipmentId : Nat) (dto : ResolveEquipmentFaultDto)
    (userId : Nat) : Except EquipmentError Stage :=
  match activeFault s equipmentId with
  | .error refused => .error refused
  | .ok equipment =>
    let saved :=
      { equipment with
        healthStatus := dto.healthStatus.val
        assetStatus := resolvedStatus dto.assetStatus equipment
        lastMaintenanceAt := some now }
    .ok (savingOne equipmentId saved
      { userId := userId
        actionType := .update
        entityId := equipmentId
        newValue :=
          { NewValue.statuses (some saved.healthStatus) (some saved.assetStatus) with
            resolutionNote := some dto.resolutionNote }
        severity := .info })

def deletedLog (equipmentId userId : Nat) : AuditLogEntity where
  userId := userId
  actionType := .delete
  entityId := equipmentId
  newValue := NewValue.statuses none none
  severity := .warning

/-- Here the row of the log is written in the transaction. -/
def deleteEquipment (s : Store) (equipmentId userId : Nat) : Except EquipmentError Stage :=
  match s.findEquipment equipmentId with
  | none => .error .equipmentNotFound
  | some _ =>
    .ok (.transaction none [.removeEquipment equipmentId, .log (deletedLog equipmentId userId)] [] none)

def assignToRoom (s : Store) (equipmentId : Nat) (dto : AssignEquipmentDto) (userId : Nat) :
    Except EquipmentError Stage :=
  match s.findEquipment equipmentId with
  | none => .error .equipmentNotFound
  | some equipment =>
    if equipment.assetStatus ≠ .available ∧ equipment.assetStatus ≠ .assigned then
      .error (.equipmentNotAssignable equipment.assetStatus)
    else .ok (.readingRoom equipmentId dto userId equipment)

def assignFound (now : Nat) (s : Store) (equipmentId : Nat) (dto : AssignEquipmentDto) (userId : Nat)
    (equipment : EquipmentEntity) : Except EquipmentError Stage :=
  match assignableRoom s dto.roomId equipment.equipmentType with
  | .error refused => .error refused
  | .ok _ =>
    let saved :=
      { equipment with
        currentRoomId := some dto.roomId
        assetStatus := .assigned
        assignedBy := some userId
        assignedAt := some now
        installedAt := some (dto.installedAt.getD now)
        assignmentNote := dto.assignmentNote }
    .ok (savingOne equipmentId saved
      { userId := userId
        actionType := .update
        entityId := equipmentId
        newValue := NewValue.statuses none (some saved.assetStatus)
        severity := .info })

def EquipmentEntity.unassigned (equipment : EquipmentEntity) : EquipmentEntity :=
  { equipment with
    currentRoomId := none
    assignedBy := none
    assignedAt := none
    installedAt := none
    assignmentNote := none
    assetStatus := if equipment.assetStatus = .assigned then .available else equipment.assetStatus }

def unassignedLog (equipmentId userId : Nat) (saved : EquipmentEntity) : AuditLogEntity where
  userId := userId
  actionType := .update
  entityId := equipmentId
  newValue := NewValue.statuses none (some saved.assetStatus)
  severity := .info

def unassignFromRoom (s : Store) (equipmentId userId : Nat) : Except EquipmentError Stage :=
  match s.findEquipment equipmentId with
  | none => .error .equipmentNotFound
  | some equipment =>
    if equipment.currentRoomId.isNone then .error .equipmentNotAssigned
    else
      .ok (savingOne equipmentId equipment.unassigned
        (unassignedLog equipmentId userId equipment.unassigned))

end Equipment

section Writes

/-- What the columns written by a save make of the row as it is then. -/
def savedRoom (entity stored row : RoomEntity) : RoomEntity where
  roomName := savedColumn entity.roomName stored.roomName row.roomName
  hasCamera := savedColumn entity.hasCamera stored.hasCamera row.hasCamera
  hasMicrophone := savedColumn entity.hasMicrophone stored.hasMicrophone row.hasMicrophone
  hasDisplay := savedColumn entity.hasDisplay stored.hasDisplay row.hasDisplay
  isActive := savedColumn entity.isActive stored.isActive row.isActive
  currentStatus := savedColumn entity.currentStatus stored.currentStatus row.currentStatus
  administrativeStatus :=
    savedColumn entity.administrativeStatus stored.administrativeStatus row.administrativeStatus
  deleted := savedColumn entity.deleted stored.deleted row.deleted

def savedEquipment (entity stored row : EquipmentEntity) : EquipmentEntity where
  equipmentType := savedColumn entity.equipmentType stored.equipmentType row.equipmentType
  assetStatus := savedColumn entity.assetStatus stored.assetStatus row.assetStatus
  healthStatus := savedColumn entity.healthStatus stored.healthStatus row.healthStatus
  currentRoomId := savedColumn entity.currentRoomId stored.currentRoomId row.currentRoomId
  assignedBy := savedColumn entity.assignedBy stored.assignedBy row.assignedBy
  assignedAt := savedColumn entity.assignedAt stored.assignedAt row.assignedAt
  installedAt := savedColumn entity.installedAt stored.installedAt row.installedAt
  assignmentNote := savedColumn entity.assignmentNote stored.assignmentNote row.assignmentNote
  lastIssueReportedAt :=
    savedColumn entity.lastIssueReportedAt stored.lastIssueReportedAt row.lastIssueReportedAt
  lastIssueNote := savedColumn entity.lastIssueNote stored.lastIssueNote row.lastIssueNote
  lastMaintenanceAt := savedColumn entity.lastMaintenanceAt stored.lastMaintenanceAt row.lastMaintenanceAt
  deleted := savedColumn entity.deleted stored.deleted row.deleted

/-- The UPDATE of a deletion and the `softDelete` behind it. -/
def EquipmentEntity.removed (equipment : EquipmentEntity) : EquipmentEntity :=
  { equipment with
    currentRoomId := none
    assignedBy := none
    assignedAt := none
    installedAt := none
    assignmentNote := none
    assetStatus := .retired
    deleted := true }

def inRoom (roomId : Nat) (types : Option (List EquipmentType)) (r : Nat × EquipmentEntity) : Bool :=
  !r.2.deleted && decide (r.2.currentRoomId = some roomId) &&
    types.all fun asked => decide (r.2.equipmentType ∈ asked)

def Store.execute (s : Store) : Statement → List Statement × List Write
  | .saveRoom id entity => ([], (s.rooms.get? id).toList.map fun stored => .saveRoom id entity stored)
  | .removeRoom id => ([], [.removeRoom id])
  | .occupyRoom id => ([], [.occupyRoom id])
  | .selectEquipment roomId types userId =>
    ((s.equipments.select (inRoom roomId types)).flatMap fun r =>
      [.saveEquipment r.1 r.2.unassigned, .log (unassignedLog r.1 userId r.2.unassigned)], [])
  | .saveEquipment id entity =>
    ([], (s.equipments.get? id).toList.map fun stored => .saveEquipment id entity stored)
  | .removeEquipment id => ([], [.removeEquipment id])
  | .log audit => ([], [.log audit])

def Store.write (startedAt : Nat) (s : Store) : Write → Store
  | .saveRoom id entity stored => { s with rooms := s.rooms.update id (savedRoom entity stored) }
  | .removeRoom id => { s with rooms := s.rooms.update id fun room => { room with deleted := true } }
  | .occupyRoom id =>
    { s with rooms := s.rooms.update id fun room => { room with currentStatus := .occupied } }
  | .saveEquipment id entity stored =>
    { s with equipments := s.equipments.update id (savedEquipment entity stored) }
  | .removeEquipment id => { s with equipments := s.equipments.update id .removed }
  | .log audit => { s with auditLogs := s.auditLogs ++ [(startedAt, audit)] }

/-- The rows that a transaction has written are locked up to its end; what others wait for here can
    come in any order. -/
def Store.commit (s : Store) (startedAt : Nat) (writes : List Write) : Store :=
  writes.foldl (Store.write startedAt) s

end Writes

section Reports

def Store.logsOf (s : Store) (equipmentId : Nat) : List (Nat × AuditLogEntity) :=
  s.auditLogs.filter fun row => row.2.entityId = equipmentId

/-- By the descending `createdAt`; where two are the same, the later insert is taken for the newer. -/
def newestFirst {A : Type} (rows : List (Nat × A)) : List (Nat × A) :=
  rows.reverse.insertionSort fun a b => b.1 ≤ a.1

inductive FaultEventType where
  | reported | confirmed | resolved
  deriving DecidableEq, Repr

structure FaultHistoryItem where
  eventType : FaultEventType
  actorId : Nat
  note : Option String
  healthStatus : Option HealthStatus
  assetStatus : Option AssetStatus
  deriving DecidableEq, Repr

def eventOf (row : AuditLogEntity) : Option (FaultEventType × Option String) :=
  if row.actionType = .confirm then some (.confirmed, row.newValue.confirmationNote)
  else if row.actionType = .update ∧ row.severity = .warning then
    some (.reported, row.newValue.lastIssueNote)
  else if row.actionType = .update ∧ row.severity = .info ∧ row.newValue.resolutionNote.isSome then
    some (.resolved, row.newValue.resolutionNote)
  else none

def itemOf (row : AuditLogEntity) : Option FaultHistoryItem :=
  (eventOf row).map fun event =>
    { eventType := event.1
      actorId := row.userId
      note := event.2
      healthStatus := row.newValue.healthStatus.or row.newValue.healthStatusAtConfirmation
      assetStatus := row.newValue.assetStatus }

def getFaultHistory (s : Store) (equipmentId : Nat) : Except EquipmentError (List FaultHistoryItem) :=
  match s.findEquipment equipmentId with
  | none => .error .equipmentNotFound
  | some _ => .ok (((newestFirst (s.logsOf equipmentId)).take 50).filterMap fun row => itemOf row.2)

def findLastFaultReportAuditLog (s : Store) (equipmentId : Nat) : Option Nat :=
  ((newestFirst ((s.logsOf equipmentId).filter fun row =>
    row.2.actionType = .update ∧ row.2.severity = .warning)).head?).map fun row => row.2.userId

/-- The reporter of a fault is told about it, unless it is the user who confirms or repairs it. -/
def Store.tell (s : Store) (equipmentId userId : Nat) : Store :=
  { s with
    told := s.told ++
      ((findLastFaultReportAuditLog s equipmentId).filter fun reporter => reporter ≠ userId).toList.map
        fun reporter => (equipmentId, reporter) }

end Reports

section Service

def begin (now : Nat) (s : Store) : Request → Except EquipmentError Stage
  | .create dto userId => create now s dto userId
  | .reportFault equipmentId dto userId => reportFault now s equipmentId dto userId
  | .confirmFault equipmentId dto userId => confirmFault s equipmentId dto userId
  | .resolveFault equipmentId dto userId => resolveFault now s equipmentId dto userId
  | .deleteEquipment equipmentId userId => deleteEquipment s equipmentId userId
  | .assignToRoom equipmentId dto userId => assignToRoom s equipmentId dto userId
  | .unassignFromRoom equipmentId userId => unassignFromRoom s equipmentId userId
  | .createRoom dto => .ok (createRoom dto)
  | .updateRoom roomId dto userId => updateRoom s roomId dto userId
  | .updateAdministrativeStatus roomId status => updateAdministrativeStatus s roomId status
  | .deleteRoom roomId userId inProgress scheduled => deleteRoom s roomId userId inProgress scheduled
  | .occupied roomId => .ok (.transaction none [.occupyRoom roomId] [] none)

def Request.tells : Request → Option (Nat × Nat)
  | .confirmFault equipmentId _ userId | .resolveFault equipmentId _ userId => some (equipmentId, userId)
  | _ => none

variable (c : EquipmentCall)

def EquipmentCall.goesOn (stage : Stage) : EquipmentCall := { c with stage := stage }

def EquipmentCall.checked (result : Except EquipmentError Stage) : Option EquipmentCall :=
  match result with
  | .ok stage => some (c.goesOn stage)
  | .error _ => none

def EquipmentCall.act (now : Nat) (s : Store) : Store × Option EquipmentCall :=
  match c.stage with
  | .reading => (s, c.checked (begin now s c.request))
  | .readingRoom equipmentId dto userId equipment =>
    (s, c.checked (assignFound now s equipmentId dto userId equipment))
  | .insertingEquipment row userId =>
    ({ s with equipments := s.equipments.insert row },
      some (c.goesOn (.auditing s.equipments.next row (createdLog s.equipments.next userId row))))
  | .insertingRoom row => ({ s with rooms := s.rooms.insert row }, none)
  | .transaction startedAt (statement :: todo) writes next =>
    (s, some (c.goesOn (.transaction (some (startedAt.getD now)) ((s.execute statement).1 ++ todo)
      (writes ++ (s.execute statement).2) next)))
  | .transaction startedAt [] writes next =>
    (s.commit (startedAt.getD now) writes, next.map fun w => c.goesOn (.auditing w.1 w.2.1 w.2.2))
  | .auditing _ _ audit =>
    (if c.auditFails then s else { s with auditLogs := s.auditLogs ++ [(now, audit)] },
      c.request.tells.map fun w => c.goesOn (.telling w.1 w.2))
  | .telling equipmentId userId => (if c.tellFails then s else s.tell equipmentId userId, none)

def equipmentService : Service Store EquipmentCall Incoming where
  clock _ := 0
  admits _ _ := True
  enter _ incoming := ⟨incoming, .reading⟩
  act now c s := c.act now s

instance (s : Store) (incoming : Incoming) : Decidable (equipmentService.admits s incoming) :=
  inferInstanceAs (Decidable True)

end Service
end EquipmentStore
