import MeetingPlatform.Booking.Store
import MeetingPlatform.Lib.TableWrites
import Mathlib.Logic.Function.Basic

/- Faces of the participants of a meeting on the face device at the door of its room, and the rows that
   say which person on a device stands for whom. Every call of a device may fail, before or after it has
   taken effect. -/
namespace FaceAccess
open KeyedTable
open MeetingBooking (MeetingStatus)

section Store

structure Meeting where
  roomId : Option Nat
  status : MeetingStatus
  startTime : Int
  endTime : Int
  deriving DecidableEq, Repr

structure IotDevice where
  roomId : Option Nat
  deviceType : String
  deriving DecidableEq, Repr

structure PersonName where
  userId : Nat
  meetingId : Nat
  deriving DecidableEq, Repr

inductive SyncStatus where
  | pending | synced | failed | deleted
  deriving DecidableEq, Repr

/-- `bookingId`, the times and `source` are fields of the metadata. -/
structure DeviceUserMapping where
  deviceId : Nat
  userId : Nat
  devicePersonId : Option Nat
  devicePersonCode : PersonName
  faceRegistered : Bool
  syncStatus : SyncStatus
  lastSyncError : Option String
  bookingId : Nat
  validFrom : Int
  validTo : Int
  source : Option String
  deletedAt : Option Int
  deriving DecidableEq, Repr

def DeviceUserMapping.live (mp : DeviceUserMapping) : Bool := mp.deletedAt.isNone

/-- The persons of a device have increasing uids, and several may have one name. -/
structure FaceStore where
  meetings : Table Meeting
  participants : List (Nat × Nat)
  iotDevices : Table IotDevice
  mappings : Table DeviceUserMapping
  faces : Nat → Table PersonName

def FaceStore.start (meetings : Table Meeting) (participants : List (Nat × Nat))
    (iotDevices : Table IotDevice) : FaceStore where
  meetings := meetings
  participants := participants
  iotDevices := iotDevices
  mappings := Table.empty
  faces _ := Table.empty

end Store

section Devices
variable (s : FaceStore) (deviceId : Nat)

/-- How a call of a device ends for its caller. A lost one has taken effect and looks like a failure. -/
inductive DeviceAnswer where
  | done | refused | lost
  deriving DecidableEq, Repr

inductive FindAnswer where
  | newest | nothing | failed
  deriving DecidableEq, Repr

def FaceStore.setFaces (persons : Table PersonName) : FaceStore :=
  { s with faces := Function.update s.faces deviceId persons }

def addPerson (uname : PersonName) : FaceStore := s.setFaces deviceId ((s.faces deviceId).insert uname)

def findUidByName (uname : PersonName) : Option Nat :=
  ((s.faces deviceId).findNewest fun p => p.2 = uname).map Prod.fst

def deletePerson (uid : Nat) : FaceStore :=
  s.setFaces deviceId ((s.faces deviceId).deleteWhere fun p => p.1 = uid)

def findFaceDevice (roomId : Nat) : Option Nat :=
  (s.iotDevices.findOne fun d => d.2.roomId = some roomId ∧ d.2.deviceType = "face_server").map Prod.fst

def findDeviceById : Option IotDevice := s.iotDevices.get? deviceId

end Devices

section Mappings
variable (s : FaceStore)

structure UpsertParams where
  deviceId : Nat
  userId : Nat
  uid : Option Nat
  uname : PersonName
  bookingId : Nat
  validFrom : Int
  validTo : Int
  status : SyncStatus
  error : Option String

/-- A row that is written again is live again, and has lost the rest of its metadata. -/
def UpsertParams.row (params : UpsertParams) : DeviceUserMapping where
  deviceId := params.deviceId
  userId := params.userId
  devicePersonId := params.uid
  devicePersonCode := params.uname
  faceRegistered := params.status = .synced
  syncStatus := params.status
  lastSyncError := params.error
  bookingId := params.bookingId
  validFrom := params.validFrom
  validTo := params.validTo
  source := none
  deletedAt := none

def sameSlot (params : UpsertParams) (mp : DeviceUserMapping) : Bool :=
  mp.userId = params.userId ∧ mp.deviceId = params.deviceId ∧ mp.bookingId = params.bookingId

def upsertMapping (params : UpsertParams) : FaceStore :=
  match s.mappings.findOne fun r => sameSlot params r.2 with
  | some existing => { s with mappings := s.mappings.save existing.1 params.row }
  | none => { s with mappings := s.mappings.insert params.row }

def DeviceUserMapping.softDeleted (now : Int) (mp : DeviceUserMapping) : DeviceUserMapping :=
  { mp with
    syncStatus := .deleted
    deletedAt := some now }

def softDelete (id : Nat) (now : Int) : FaceStore :=
  { s with mappings := s.mappings.update id (DeviceUserMapping.softDeleted now) }

end Mappings

section Loop
variable {α : Type}

/-- The items one after the other; the second part counts those that the caller counts. -/
def loop (step : FaceStore → α → FaceStore × Nat) : FaceStore → List α → FaceStore × Nat
  | s, [] => (s, 0)
  | s, a :: rest =>
    let first := step s a
    let others := loop step first.1 rest
    (others.1, first.2 + others.2)

theorem loop_invariant {step : FaceStore → α → FaceStore × Nat} {P : FaceStore → Prop} {s : FaceStore}
    {items : List α} (start : P s) (keeps : ∀ s a, a ∈ items → P s → P (step s a).1) :
    P (loop step s items).1 := by
  induction items generalizing s with
  | nil => exact start
  | cons a rest ih =>
    have first := keeps s a List.mem_cons_self start
    exact ih first fun s b there => keeps s b (List.mem_cons_of_mem a there)

end Loop

section Provision
variable (s : FaceStore)

structure MeetingRow where
  id : Nat
  roomId : Option Nat
  startTime : Int
  endTime : Int
  deriving DecidableEq, Repr

/-- What the calls for one participant come to. `connects` is the creation of the client. -/
structure ProvisionCalls where
  portrait : Bool
  connects : Bool
  upload : Bool
  add : DeviceAnswer
  find : FindAnswer
  message : String
  deriving DecidableEq, Repr

inductive ProvisionResult where
  | provisioned | noop | revived | skipped | skippedNoPortrait
  deriving DecidableEq, Repr

def liveSlot (deviceId userId : Nat) : Option DeviceUserMapping :=
  (s.mappings.findOne fun r => r.2.deviceId = deviceId ∧ r.2.userId = userId ∧ r.2.live).map Prod.snd

section Participant
variable (meeting : MeetingRow) (deviceId userId : Nat) (calls : ProvisionCalls)

def slotParams (uid : Option Nat) (status : SyncStatus) (error : Option String) : UpsertParams where
  deviceId := deviceId
  userId := userId
  uid := uid
  uname := ⟨userId, meeting.id⟩
  bookingId := meeting.id
  validFrom := meeting.startTime
  validTo := meeting.endTime
  status := status
  error := error

def recordPerson (uid : Option Nat) : FaceStore :=
  upsertMapping s (slotParams meeting deviceId userId uid (if uid.isNone then .failed else .synced)
    (if uid.isNone then some "uid not found after addPerson" else none))

def enrol (live : Option DeviceUserMapping) : FaceStore × Except String ProvisionResult :=
  let uname : PersonName := ⟨userId, meeting.id⟩
  match calls.add with
  | .refused => (s, .error calls.message)
  | .lost => (addPerson s deviceId uname, .error calls.message)
  | .done =>
    let added := addPerson s deviceId uname
    let result : ProvisionResult := if live.isSome then .revived else .provisioned
    match calls.find with
    | .failed => (added, .error calls.message)
    | .nothing => (recordPerson added meeting deviceId userId none, .ok result)
    | .newest =>
      (recordPerson added meeting deviceId userId (findUidByName added deviceId uname), .ok result)

def provisionParticipant : FaceStore × Except String ProvisionResult :=
  let live := liveSlot s deviceId userId
  if live.any fun mp => mp.bookingId ≠ meeting.id then (s, .ok .skipped)
  else if live.any fun mp => mp.syncStatus = .synced then (s, .ok .noop)
  else if calls.portrait = false then
    (upsertMapping s (slotParams meeting deviceId userId none .pending (some "no_portrait")),
      .ok .skippedNoPortrait)
  else if calls.connects = false ∨ calls.upload = false then (s, .error calls.message)
  else enrol s meeting deviceId userId calls live

def noteResult (outcome : FaceStore × Except String ProvisionResult) : FaceStore × Nat :=
  match outcome.2 with
  | .ok result => (outcome.1, if result = .skipped ∨ result = .skippedNoPortrait then 1 else 0)
  | .error message =>
    (upsertMapping outcome.1 (slotParams meeting deviceId userId none .failed (some message)), 0)

def provisionTurn : FaceStore × Nat :=
  noteResult meeting deviceId userId (provisionParticipant s meeting deviceId userId calls)

end Participant

def participantsOf (meetingId : Nat) : List Nat :=
  s.participants.filterMap fun p => if p.1 = meetingId then some p.2 else none

def provisionMeeting (meeting : MeetingRow) (participants : List (Nat × ProvisionCalls)) :
    FaceStore × Nat :=
  match meeting.roomId.bind fun roomId => findFaceDevice s roomId with
  | none => (s, 0)
  | some deviceId =>
    loop (fun s p => provisionTurn s meeting deviceId p.1 p.2) s participants

end Provision

section Deprovision
variable (s : FaceStore) (now : Int)

structure RemoveCalls where
  connects : Bool
  delete : DeviceAnswer
  deriving DecidableEq, Repr

def removeMapping (id : Nat) (mp : DeviceUserMapping) (calls : RemoveCalls) : FaceStore × Nat :=
  match mp.devicePersonId, findDeviceById s mp.deviceId with
  | some uid, some _ =>
    if calls.connects = false then (s, 0)
    else match calls.delete with
      | .done => (softDelete (deletePerson s mp.deviceId uid) id now, 1)
      | .refused => (s, 0)
      | .lost => (deletePerson s mp.deviceId uid, 0)
  | _, _ => (softDelete s id now, 1)

/-- The rows that a query has returned, each with what its calls come to. -/
abbrev Removals := List ((Nat × DeviceUserMapping) × RemoveCalls)

def removeAll (maps : Removals) : FaceStore × Nat :=
  loop (fun s w => removeMapping s now w.1.1 w.1.2 w.2) s maps

def meetingOf (mp : DeviceUserMapping) : Option Meeting := s.meetings.get? mp.bookingId

def endedBefore (grace : Int) (mp : DeviceUserMapping) : Bool :=
  (meetingOf s mp).any fun me => me.endTime ≤ now - grace

def notFrom (sources : List String) (mp : DeviceUserMapping) : Bool := (mp.source.getD "") ∉ sources

def endedMaps (grace : Int) : List (Nat × DeviceUserMapping) :=
  s.mappings.select fun r => r.2.live ∧ notFrom ["ivss"] r.2 ∧
    (meetingOf s r.2).any (fun me => me.status ≠ .cancelled) ∧ endedBefore s now grace r.2

def statusMaps : List (Nat × DeviceUserMapping) :=
  s.mappings.select fun r => r.2.live ∧ r.2.syncStatus = .synced ∧ notFrom ["ivss"] r.2 ∧
    (meetingOf s r.2).any fun me => me.status = .completed ∨ me.status = .cancelled

def meetingMaps (meetingId : Nat) : List (Nat × DeviceUserMapping) :=
  s.mappings.select fun r => r.2.bookingId = meetingId ∧
    r.2.syncStatus ∈ [SyncStatus.synced, .failed, .pending] ∧ r.2.live

def participantMaps (meetingId userId : Nat) : List (Nat × DeviceUserMapping) :=
  s.mappings.select fun r => r.2.bookingId = meetingId ∧ r.2.userId = userId ∧
    r.2.syncStatus ∈ [SyncStatus.synced, .failed, .pending] ∧ r.2.live

/-- Rows that are deleted are not left out here, other than by their status. -/
def staleMaps (grace : Int) : List (Nat × DeviceUserMapping) :=
  s.mappings.select fun r => r.2.syncStatus = .synced ∧ notFrom ["ivss"] r.2 ∧ endedBefore s now grace r.2

def dedupMaps : List (Nat × DeviceUserMapping) :=
  s.mappings.select fun r => r.2.syncStatus = .synced ∧ notFrom ["ivss", "portrait"] r.2

structure DedupCalls where
  connects : Bool
  find : FindAnswer
  delete : DeviceAnswer
  deriving DecidableEq, Repr

/-- Every row of the device with that name gets the newest uid. -/
def relinkPersons (deviceId : Nat) (uname : PersonName) (latest : Nat) : FaceStore :=
  let sameName : Nat × DeviceUserMapping → Bool := fun r =>
    r.2.deviceId = deviceId ∧ r.2.devicePersonCode = uname
  { s with mappings := s.mappings.updateWhere sameName fun mp => { mp with devicePersonId := some latest } }

def dedupTurn (mp : DeviceUserMapping) (calls : DedupCalls) : FaceStore × Nat :=
  match mp.devicePersonId, findDeviceById s mp.deviceId with
  | some uid, some _ =>
    if calls.connects = false ∨ calls.find ≠ .newest then (s, 0)
    else match findUidByName s mp.deviceId mp.devicePersonCode with
      | none => (s, 0)
      | some latest =>
        if latest = uid then (s, 0)
        else match calls.delete with
          | .done => (relinkPersons (deletePerson s mp.deviceId uid) mp.deviceId mp.devicePersonCode latest, 1)
          | .refused => (s, 0)
          | .lost => (deletePerson s mp.deviceId uid, 0)
  | _, _ => (s, 0)

def dedupAll (maps : List ((Nat × DeviceUserMapping) × DedupCalls)) : FaceStore × Nat :=
  loop (fun s w => dedupTurn s w.1.2 w.2) s maps

end Deprovision

end FaceAccess
