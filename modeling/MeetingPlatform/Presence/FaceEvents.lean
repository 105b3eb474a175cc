import MeetingPlatform.Lib.LockedInsert
import Mathlib.Algebra.Order.Group.Unbundled.Int

/- Events that the cameras send: faces that were recognised, and people that were counted in a zone.
   What is computed of an event before its transaction, and the look-up for a duplicate in it. -/
namespace Presence
open LockedInserts

def skewMs : Int := 60 * 60 * 1000

def dedupWindowMs : Int := 8000

def parseUtc (raw : Option Int) (now : Nat) : Int × Bool :=
  match raw with
  | some t => if |(now : Int) - t| ≤ skewMs then (t, false) else (now, true)
  | none => (now, true)

section Faces

inductive Direction where
  | enter | leave | seen
  deriving DecidableEq, Repr

inductive MatchState where
  | matched | unmatchedIdentity | unmatchedLocation | unmatchedBoth
  deriving DecidableEq, Repr

inductive ProcessedStatus where
  | processed | unmatched
  deriving DecidableEq, Repr

inductive PresenceSkipped where
  | zoneUnmapped | badUtc | zoneWrongType
  deriving DecidableEq, Repr

/-- `utc` is the instant that the text of the event stands for, if it is one. -/
structure IvssFaceEvent where
  channelId : Int
  personUid : Option String
  similarity : Option Rat
  eventAction : Option String
  utc : Option Int

structure FaceLookups where
  bridgeDeviceId : Option Nat
  mappedUser : String → Option Nat
  minSimilarityThreshold : Rat
  channelRoomMap : Int → Option Nat
  channelPresenceZoneMap : Int → Option Nat
  channelDirectionMap : Int → Option Direction
  meetingAt : Nat → Int → Option Nat
  isParticipant : Nat → Nat → Bool
  isPresenceZone : Nat → Bool
  snapshotFileId : Option Nat

/-- A row of `iot_device_events` of the type `ivss_face_event`. -/
structure FaceEventRow where
  deviceId : Nat
  roomId : Option Nat
  meetingId : Option Nat
  eventTime : Int
  processedStatus : ProcessedStatus
  snapshotFileId : Option Nat
  zoneId : Option Nat
  szUid : Option String
  userId : Option Nat
  channelId : Int
  direction : Direction
  matchState : MatchState
  utcFallback : Bool
  presenceSkipped : Option PresenceSkipped
  deriving DecidableEq, Repr

variable (l : FaceLookups) (evt : IvssFaceEvent)

def resolveUser (szUid : Option String) : Option Nat :=
  match szUid with
  | none => none
  | some uid => if uid = "" then none else l.mappedUser uid

def recognisedUser : Option Nat :=
  match evt.similarity with
  | some similarity =>
    if similarity < l.minSimilarityThreshold then none else resolveUser l evt.personUid
  | none => resolveUser l evt.personUid

def enterActions : List String := ["enter", "in", "1"]

def leaveActions : List String := ["leave", "out", "exit", "2"]

def normalizeDirection (action : Option String) : Direction :=
  match action with
  | none => .seen
  | some text =>
    let a := text.trimAscii.toString.toLower
    if a ∈ enterActions then .enter else if a ∈ leaveActions then .leave else .seen

def matchStateOf (userId roomId : Option Nat) (isParticipant isZoneContext : Bool) : MatchState :=
  let isMatch := if isZoneContext then userId.isSome
    else userId.isSome && roomId.isSome && isParticipant
  if isMatch then .matched
  else if userId.isSome && roomId.isSome && !isParticipant then .unmatchedIdentity
  else if userId.isNone && roomId.isNone then .unmatchedBoth
  else if userId.isNone then .unmatchedIdentity
  else .unmatchedLocation

def presenceSkippedOf (zoneId : Option Nat) (utcFallback : Bool) : Option PresenceSkipped :=
  match zoneId with
  | none => some .zoneUnmapped
  | some zone =>
    if utcFallback then some .badUtc
    else if l.isPresenceZone zone then none else some .zoneWrongType

/-- The row that `onFaceEvent` is about to insert. Without the bridge device there is none. -/
def faceEventRow (now : Nat) : Option FaceEventRow :=
  l.bridgeDeviceId.map fun deviceId =>
    let userId := recognisedUser l evt
    let roomId := l.channelRoomMap evt.channelId
    let zoneId := l.channelPresenceZoneMap evt.channelId
    let (eventTime, utcFallback) := parseUtc evt.utc now
    let meetingId := roomId.bind fun room => l.meetingAt room eventTime
    let isParticipant := match userId, meetingId with
      | some user, some meeting => l.isParticipant meeting user
      | _, _ => false
    let matchState := matchStateOf userId roomId isParticipant (roomId.isNone && zoneId.isSome)
    { deviceId := deviceId
      roomId := roomId
      meetingId := meetingId
      eventTime := eventTime
      processedStatus := if matchState = .matched then .processed else .unmatched
      snapshotFileId := l.snapshotFileId
      zoneId := zoneId
      szUid := evt.personUid
      userId := userId
      channelId := evt.channelId
      direction := (l.channelDirectionMap evt.channelId).getD (normalizeDirection evt.eventAction)
      matchState := matchState
      utcFallback := utcFallback
      presenceSkipped := presenceSkippedOf l zoneId utcFallback }

def faceLockKey (channelId : Int) (szUid : Option String) : String :=
  "ivss_face_dedup_" ++ toString channelId ++ "_" ++ szUid.getD "__stranger__"

def isFaceDuplicate (stored row : FaceEventRow) : Bool :=
  decide (stored.deviceId = row.deviceId ∧ stored.channelId = row.channelId ∧
    stored.szUid = row.szUid ∧ row.eventTime - dedupWindowMs ≤ stored.eventTime)

structure FaceCall where
  lookups : FaceLookups
  event : IvssFaceEvent
  insertFails : Bool

/-- `onFaceEvent`, up to the end of its transaction. -/
def onFaceEvent (hashtext : String → Int) : Insertion FaceEventRow Int FaceCall where
  prepare now call :=
    (faceEventRow call.lookups call.event now).map fun row => ⟨row, call.insertFails⟩
  lock row := hashtext (faceLockKey row.channelId row.szUid)
  found := isFaceDuplicate

end Faces

section Counts

/-- A row of `zone_presence_events` of the type `count`. -/
structure CountEventRow where
  zoneId : Nat
  deviceId : Option Nat
  occupancyCount : Int
  eventTime : Int
  deriving DecidableEq, Repr

structure CountCall where
  input : CountEventRow
  zoneExists : Bool
  insertFails : Bool

def countLockKey (zoneId : Nat) (occupancyCount : Int) : String :=
  "zone_count_dedup_" ++ toString zoneId ++ "_" ++ toString occupancyCount

def isCountDuplicate (stored row : CountEventRow) : Bool :=
  decide (stored.zoneId = row.zoneId ∧ stored.occupancyCount = row.occupancyCount ∧
    row.eventTime - dedupWindowMs ≤ stored.eventTime)

/-- `writeCountEvent`, which throws before its transaction if there is no such zone. -/
def writeCountEvent (hashtext : String → Int) : Insertion CountEventRow Int CountCall where
  prepare _ call := if call.zoneExists then some ⟨call.input, call.insertFails⟩ else none
  lock row := hashtext (countLockKey row.zoneId row.occupancyCount)
  found := isCountDuplicate

end Counts

end Presence
