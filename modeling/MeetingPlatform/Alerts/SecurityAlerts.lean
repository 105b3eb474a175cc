import Mathlib.Data.List.MinMax
import MeetingPlatform.Lib.Guards

/- Security alerts. An alert that is not resolved takes up further events of its kind in its zone;
   two partial unique indexes see to it that there is one such alert at most. -/
namespace Alerts

section Rows

inductive AlertType where
  | intrusion | crowd | stranger | vehicleControlMatch | unknownVehicle | vehicleUnauthorized
  | personWatchlistMatch | deviceError
  deriving DecidableEq, Repr

inductive AlertSeverity where
  | low | medium | high | critical
  deriving DecidableEq, Repr

inductive AlertStatus where
  | new | acknowledged | resolved
  deriving DecidableEq, Repr

/-- An entry of `payload_json.occurrences`. Instants are milliseconds. -/
structure Occurrence where
  userId : Option Nat
  sourceEventId : Option Nat
  occurredAt : Int
  deriving DecidableEq, Repr

structure AlertPayload where
  userId : Option Nat
  occurredAt : Option Int
  occurrences : Option (List Occurrence)
  deriving DecidableEq, Repr

structure SecurityAlert where
  alertType : AlertType
  severity : AlertSeverity
  zoneId : Option Nat
  status : AlertStatus
  triggeredAt : Int
  lastSeenAt : Option Int
  occurrenceCount : Nat
  sourceEventId : Option Nat
  ruleId : Option Nat
  payloadJson : Option AlertPayload
  acknowledgedBy : Option Nat
  acknowledgedAt : Option Int
  resolvedBy : Option Nat
  resolvedAt : Option Int
  resolutionNote : Option String
  deriving DecidableEq, Repr

structure RecordAlertInput where
  alertType : AlertType
  zoneId : Option Nat
  severity : Option AlertSeverity
  triggeredAt : Option Int
  sourceEventId : Option Nat
  ruleId : Option Nat
  payloadJson : Option AlertPayload
  deriving DecidableEq, Repr

def SecurityAlert.Open (a : SecurityAlert) : Prop := a.status ≠ .resolved

instance (a : SecurityAlert) : Decidable a.Open := inferInstanceAs (Decidable (a.status ≠ .resolved))

/-- What the unique indexes and `findOpenAlert` look for. -/
def OpenFor (alertType : AlertType) (zoneId : Option Nat) (a : SecurityAlert) : Prop :=
  a.alertType = alertType ∧ a.zoneId = zoneId ∧ a.Open

instance (alertType : AlertType) (zoneId : Option Nat) (a : SecurityAlert) :
    Decidable (OpenFor alertType zoneId a) :=
  inferInstanceAs (Decidable (_ ∧ _ ∧ _))

def defaultSeverity : AlertType → AlertSeverity
  | .intrusion => .critical
  | .crowd => .high
  | .deviceError => .low
  | .vehicleControlMatch | .personWatchlistMatch | .stranger | .unknownVehicle
  | .vehicleUnauthorized => .medium

end Rows

section Statements
variable (alerts : List SecurityAlert) (now : Int)

def newAlert (input : RecordAlertInput) (triggeredAt : Int) : SecurityAlert where
  alertType := input.alertType
  severity := input.severity.getD (defaultSeverity input.alertType)
  zoneId := input.zoneId
  status := .new
  triggeredAt := triggeredAt
  lastSeenAt := none
  occurrenceCount := 1
  sourceEventId := input.sourceEventId
  ruleId := input.ruleId
  payloadJson := input.payloadJson
  acknowledgedBy := none
  acknowledgedAt := none
  resolvedBy := none
  resolvedAt := none
  resolutionNote := none

/-- `none` where an index is violated. The number of a row is its place in the table. -/
def tryInsert (input : RecordAlertInput) (triggeredAt : Int) : Option (List SecurityAlert) :=
  if ∃ a ∈ alerts, OpenFor input.alertType input.zoneId a then none
  else some (alerts ++ [newAlert input triggeredAt])

def findOpenAlert (alertType : AlertType) (zoneId : Option Nat) : Option Nat :=
  alerts.findIdx? fun a => OpenFor alertType zoneId a

def RecordAlertInput.occurrence (input : RecordAlertInput) : Occurrence where
  userId := input.payloadJson.bind AlertPayload.userId
  sourceEventId := input.sourceEventId
  occurredAt := (input.payloadJson.bind AlertPayload.occurredAt).getD now

def SecurityAlert.occurrences (a : SecurityAlert) : List Occurrence :=
  ((a.payloadJson.bind AlertPayload.occurrences).getD [])

def distance (x y : Int) : Nat := (x - y).natAbs

/-- The entry that an event is compared with: for crowds the one nearest in time, otherwise the last
    one of the same user. -/
def latestMatch (alertType : AlertType) (entry : Occurrence) (occurrences : List Occurrence) :
    Option Occurrence :=
  if alertType = .crowd then occurrences.argmin fun o => distance o.occurredAt entry.occurredAt
  else occurrences.reverse.find? fun o => entry.userId.isSome ∧ o.userId = entry.userId

def isDebounced (debounceSeconds : Nat) (alertType : AlertType) (entry : Occurrence)
    (occurrences : List Occurrence) : Bool :=
  match latestMatch alertType entry occurrences with
  | none => false
  | some o => decide (distance entry.occurredAt o.occurredAt < debounceSeconds * 1000)

def appendOccurrence (occurrences : List Occurrence) (entry : Occurrence) : List Occurrence :=
  let all := occurrences ++ [entry]
  all.drop (all.length - 20)

def SecurityAlert.bump (a : SecurityAlert) (debounceSeconds : Nat) (input : RecordAlertInput) :
    SecurityAlert :=
  let entry := input.occurrence now
  let debounced := isDebounced debounceSeconds input.alertType entry a.occurrences
  { a with
    lastSeenAt := some now
    occurrenceCount :=
      if input.alertType = .crowd ∧ debounced = true then a.occurrenceCount
      else a.occurrenceCount + 1
    payloadJson :=
      if debounced then a.payloadJson
      else some { a.payloadJson.getD ⟨none, none, none⟩ with
        occurrences := some (appendOccurrence a.occurrences entry) } }

def bumpOccurrence (debounceSeconds : Nat) (id : Nat) (input : RecordAlertInput) :
    List SecurityAlert :=
  alerts.modify id fun a => a.bump now debounceSeconds input

def acknowledge (id actorUserId : Nat) : List SecurityAlert :=
  alerts.modify id fun a =>
    if a.status = .new then
      { a with status := .acknowledged, acknowledgedBy := some actorUserId, acknowledgedAt := some now }
    else a

def resolve (id actorUserId : Nat) (resolutionNote : String) : List SecurityAlert :=
  alerts.modify id fun a =>
    if a.status = .acknowledged then
      { a with
        status := .resolved
        resolvedBy := some actorUserId
        resolvedAt := some now
        resolutionNote := some resolutionNote }
    else a

def autoResolveExpired (timeoutMinutes : Nat) : List SecurityAlert :=
  alerts.map fun a =>
    if a.status ≠ .resolved ∧ a.lastSeenAt.getD a.triggeredAt < now - timeoutMinutes * 60000 then
      { a with
        status := .resolved
        resolvedAt := some now
        resolutionNote :=
          some ("Tự động đóng do không tái phát trong " ++ toString timeoutMinutes ++ " phút") }
    else a

/-- A whole `recordAlert` with nothing in between; `none` where it throws. -/
def recordAlert (debounceSeconds : Nat) (input : RecordAlertInput) : Option (List SecurityAlert) :=
  let triggeredAt := input.triggeredAt.getD now
  match tryInsert alerts input triggeredAt with
  | some inserted => some inserted
  | none =>
    match findOpenAlert alerts input.alertType input.zoneId with
    | some id => some (bumpOccurrence alerts now debounceSeconds id input)
    | none =>
      match tryInsert alerts input triggeredAt with
      | some inserted => some inserted
      | none =>
        (findOpenAlert alerts input.alertType input.zoneId).map fun id =>
          bumpOccurrence alerts now debounceSeconds id input

end Statements

section Rules

structure AlertRule where
  id : Nat
  alertType : AlertType
  zoneId : Option Nat
  enabled : Bool
  deleted : Bool
  deriving DecidableEq, Repr

structure EffectiveRule where
  rule : Option AlertRule
  suppressed : Bool
  deriving DecidableEq, Repr

variable (rules : List AlertRule) (alertType : AlertType)

def ruleFor (zoneId : Option Nat) (enabled : Bool) : Option AlertRule :=
  rules.find? fun r => r.alertType = alertType ∧ r.zoneId = zoneId ∧ r.enabled = enabled ∧
    r.deleted = false

def findActiveRule (zoneId : Option Nat) : Option AlertRule :=
  match zoneId.bind fun zone => ruleFor rules alertType (some zone) true with
  | some zoned => some zoned
  | none => ruleFor rules alertType none true

def findEffectiveRule (zoneId : Option Nat) : EffectiveRule :=
  match findActiveRule rules alertType zoneId with
  | some enabled => ⟨some enabled, false⟩
  | none =>
    if (zoneId.bind fun zone => ruleFor rules alertType (some zone) false).isSome then ⟨none, true⟩
    else if (ruleFor rules alertType none false).isSome then ⟨none, true⟩
    else ⟨none, false⟩

end Rules
end Alerts
