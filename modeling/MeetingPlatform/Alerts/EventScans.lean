import MeetingPlatform.Lib.WatermarkScan
import MeetingPlatform.Alerts.SecurityAlerts
import MeetingPlatform.Gates.GateLogs

/- The scans for crowds and for intrusions. Each looks, by the rules that are enabled, at the events
   behind its watermarks; instants are milliseconds. -/
namespace Alerts
open WatermarkScans CallPools LabelledRuns

section Rules

/-- A time of the day, as `HH:mm`. -/
structure HourMinute where
  hour : Nat
  minute : Nat
  deriving DecidableEq, Repr

structure RestrictedHours where
  allowFrom : Option HourMinute
  allowTo : Option HourMinute
  deriving DecidableEq, Repr

/-- A rule with the columns that the scans read. -/
structure ScanRule extends AlertRule where
  threshold : Option Nat
  restrictedHoursJson : Option RestrictedHours
  allowedPersonIdsJson : Option (List Nat)
  createdAt : Int
  deriving DecidableEq, Repr

def ruleLimit : Nat := 500

def Enabled (alertType : AlertType) (r : ScanRule) : Prop :=
  r.deleted = false ∧ r.alertType = alertType ∧ r.enabled = true

instance (alertType : AlertType) (r : ScanRule) : Decidable (Enabled alertType r) :=
  inferInstanceAs (Decidable (_ ∧ _ ∧ _))

variable (rules : List ScanRule)

def list (alertType : AlertType) (limit : Nat) : List ScanRule :=
  ((rules.filter fun r => Enabled alertType r).insertionSort fun a b => b.createdAt ≤ a.createdAt).take
    limit

def loadZoneScopedCrowdRules : List ScanRule :=
  (list rules .crowd ruleLimit).filter fun r => r.zoneId.isSome && r.threshold.isSome

def loadZoneScopedIntrusionRules : List ScanRule :=
  (list rules .intrusion ruleLimit).filter fun r => r.zoneId.isSome

end Rules

section Events

inductive ZonePresenceEventType where
  | appear | disappear | count
  deriving DecidableEq, Repr

structure ZonePresenceEvent where
  zoneId : Nat
  userId : Option Nat
  eventType : ZonePresenceEventType
  occupancyCount : Option Nat
  eventTime : Int
  deriving DecidableEq, Repr

/-- What the intrusion scan reads of a row of `gate_access_logs`. -/
structure ZoneGateLog where
  zoneId : Nat
  userId : Option Nat
  direction : Gates.GateDirection
  accessTime : Int
  deriving DecidableEq, Repr

inductive SourceTable where
  | gateAccessLogs | zonePresenceEvents
  deriving DecidableEq, Repr

inductive Sighting where
  | gateLog (log : ZoneGateLog)
  | presence (event : ZonePresenceEvent)
  deriving DecidableEq, Repr

def Sighting.zoneId : Sighting → Nat
  | .gateLog log => log.zoneId
  | .presence event => event.zoneId

def Sighting.userId : Sighting → Option Nat
  | .gateLog log => log.userId
  | .presence event => event.userId

def Sighting.occurredAt : Sighting → Int
  | .gateLog log => log.accessTime
  | .presence event => event.eventTime

def Sighting.sourceTable : Sighting → SourceTable
  | .gateLog _ => .gateAccessLogs
  | .presence _ => .zonePresenceEvents

def Sighting.Enters : Sighting → Prop
  | .gateLog log => log.direction = .enter
  | .presence event => event.eventType = .appear

instance (e : Sighting) : Decidable e.Enters :=
  match e with
  | .gateLog log => inferInstanceAs (Decidable (log.direction = .enter))
  | .presence event => inferInstanceAs (Decidable (event.eventType = .appear))

end Events

section Evaluations

def isThresholdExceeded (threshold occupancyCount : Nat) : Bool := threshold ≤ occupancyCount

def vnMinutesOfDay (instant : Int) : Int := (instant / 60000 + 7 * 60) % (24 * 60)

def toMinutes (time : HourMinute) : Int := time.hour * 60 + time.minute

def isWithinAllowedHours (allowFrom allowTo : HourMinute) (occurredAt : Int) : Bool :=
  if toMinutes allowFrom ≤ toMinutes allowTo then
    toMinutes allowFrom ≤ vnMinutesOfDay occurredAt && vnMinutesOfDay occurredAt ≤ toMinutes allowTo
  else toMinutes allowFrom ≤ vnMinutesOfDay occurredAt || vnMinutesOfDay occurredAt ≤ toMinutes allowTo

def ScanRule.allows (r : ScanRule) (occurredAt : Int) : Bool :=
  match r.restrictedHoursJson with
  | some ⟨some allowFrom, some allowTo⟩ => isWithinAllowedHours allowFrom allowTo occurredAt
  | _ => false

def isViolation (r : ScanRule) (userId : Option Nat) (occurredAt : Int) : Bool :=
  if r.allows occurredAt then false
  else
    match userId with
    | none => true
    | some user => user ∉ r.allowedPersonIdsJson.getD []

end Evaluations

section Scans
variable (rules : List ScanRule)

/-- `evaluateCrowdAlerts`: one query for each rule, for the counts of its zone. -/
def crowdScan : Scheme ZonePresenceEvent ScanRule Unit where
  time e := e.eventTime
  stream _ := ()
  picks rule e := rule.zoneId = some e.zoneId ∧ e.eventType = .count
  source _ := ()
  queries := loadZoneScopedCrowdRules rules
  streams := [()]
  sourced _ _ _ := rfl
  once := List.nodup_singleton _
  covered _ _ := List.mem_singleton.mpr rfl

/-- The event exceeds the limit of an enabled rule for its zone. -/
def CrowdViolation (rule : ScanRule) (e : ZonePresenceEvent) : Prop :=
  (rule ∈ rules ∧ Enabled .crowd rule) ∧ (rule.zoneId = some e.zoneId ∧ e.eventType = .count) ∧
    ∃ threshold ∈ rule.threshold, isThresholdExceeded threshold (e.occupancyCount.getD 0) = true

instance (rule : ScanRule) (e : ZonePresenceEvent) : Decidable (CrowdViolation rules rule e) :=
  inferInstanceAs (Decidable (_ ∧ _ ∧ _))

/-- `evaluateIntrusions`: two queries for each rule, of the two tables. -/
def intrusionScan : Scheme Sighting (SourceTable × ScanRule) SourceTable where
  time e := e.occurredAt
  stream e := e.sourceTable
  picks q e := q.1 = e.sourceTable ∧ q.2.zoneId = some e.zoneId ∧ e.Enters
  source q := q.1
  queries := (loadZoneScopedIntrusionRules rules).flatMap fun rule =>
    [(.gateAccessLogs, rule), (.zonePresenceEvents, rule)]
  streams := [.gateAccessLogs, .zonePresenceEvents]
  sourced q e picked := (of_decide_eq_true picked).1.symm
  once := by decide
  covered q _ := by
    obtain ⟨table, rule⟩ := q
    cases table with
    | gateAccessLogs => exact List.mem_cons_self
    | zonePresenceEvents => exact List.mem_cons_of_mem _ List.mem_cons_self

/-- The event violates an enabled rule for its zone. -/
def Intrusion (q : SourceTable × ScanRule) (e : Sighting) : Prop :=
  (q.2 ∈ rules ∧ Enabled .intrusion q.2) ∧
    (q.1 = e.sourceTable ∧ q.2.zoneId = some e.zoneId ∧ e.Enters) ∧
    isViolation q.2 e.userId e.occurredAt = true

instance (q : SourceTable × ScanRule) (e : Sighting) : Decidable (Intrusion rules q e) :=
  inferInstanceAs (Decidable (_ ∧ _ ∧ _))

end Scans

section Completeness
variable {rules : List ScanRule}

theorem crowd_picks (rule : ScanRule) (e : ZonePresenceEvent) (violation : CrowdViolation rules rule e) :
    (crowdScan rules).picks rule e = true := decide_eq_true violation.2.1

theorem intrusion_picks (q : SourceTable × ScanRule) (e : Sighting) (violation : Intrusion rules q e) :
    (intrusionScan rules).picks q e = true := decide_eq_true violation.2.1

theorem scans_miss_nothing_iff (rules : List ScanRule) :
    (∀ since s moves t, Fresh since (crowdScan rules) s →
      Run (Step (crowdScan rules).service) (Pool.idle s) moves t →
      ((∀ p ∈ visited (Pool.idle s) moves, NoneMissed (crowdScan rules) (CrowdViolation rules) since p) ↔
        Heeds (Timely (crowdScan rules) (CrowdViolation rules) since) moves) ∧
      (Heeds (Timely (crowdScan rules) (CrowdViolation rules) since) moves →
        EvaluatesAll (crowdScan rules) (CrowdViolation rules) since (Pool.idle s) moves)) ∧
    (∀ since s moves t, Fresh since (intrusionScan rules) s →
      Run (Step (intrusionScan rules).service) (Pool.idle s) moves t →
      ((∀ p ∈ visited (Pool.idle s) moves, NoneMissed (intrusionScan rules) (Intrusion rules) since p) ↔
        Heeds (Timely (intrusionScan rules) (Intrusion rules) since) moves) ∧
      (Heeds (Timely (intrusionScan rules) (Intrusion rules) since) moves →
        EvaluatesAll (intrusionScan rules) (Intrusion rules) since (Pool.idle s) moves)) := by
  constructor
  · intro since s moves t fresh run
    exact ⟨none_missed_iff crowd_picks fresh run, evaluates_all crowd_picks fresh⟩
  · intro since s moves t fresh run
    exact ⟨none_missed_iff intrusion_picks fresh run, evaluates_all intrusion_picks fresh⟩

end Completeness

section Runs

def minutes (n : Nat) : Nat := n * 60000

/-- An event is stored one hour after its instant at the latest. -/
def Recent (_ : Store ZonePresenceEvent ScanRule Unit) (now : Nat) : Call ZonePresenceEvent ScanRule Unit → Prop
  | .inserting e => e.eventTime ≤ now ∧ now ≤ e.eventTime + minutes 60
  | .scanning _ => True

instance (s : Store ZonePresenceEvent ScanRule Unit) (now : Nat) (c : Call ZonePresenceEvent ScanRule Unit) :
    Decidable (Recent s now c) :=
  match c with
  | .inserting _ => inferInstanceAs (Decidable (_ ∧ _))
  | .scanning _ => inferInstanceAs (Decidable True)

def crowdRule (zone : Nat) : ScanRule where
  id := zone
  alertType := .crowd
  zoneId := some zone
  enabled := true
  deleted := false
  threshold := some 3
  restrictedHoursJson := none
  allowedPersonIdsJson := none
  createdAt := 0

def crowdRules : List ScanRule := [crowdRule 5, crowdRule 6]

def counted (zone n : Nat) (eventTime : Int) : ZonePresenceEvent := ⟨zone, none, .count, some n, eventTime⟩

def emptyScanned : Store ZonePresenceEvent ScanRule Unit := ⟨.empty, fun _ => some 0, []⟩

def stored (e : ZonePresenceEvent) (now : Nat) : List (Turn (Request ZonePresenceEvent)) :=
  [.enter 0 (.insert e), .act 0 now]

/-- A load, two queries, a save, and the end. -/
def scanned (now : Nat) : List (Turn (Request ZonePresenceEvent)) :=
  .enter 0 .scan :: List.replicate 5 (.act 0 now)

def untilLate : List (Turn (Request ZonePresenceEvent)) :=
  stored (counted 5 3 (minutes 10)) (minutes 10) ++ scanned (minutes 11) ++
    stored (counted 6 3 (minutes 9)) (minutes 12)

theorem late_event_missed :
    ∃ moves more p t, Fresh (fun _ => 0) (crowdScan crowdRules) emptyScanned ∧
      Run (Step (crowdScan crowdRules).service) (Pool.idle emptyScanned) moves p ∧
      Run (Step (crowdScan crowdRules).service) p more t ∧ Heeds (Allows Recent) (moves ++ more) ∧
      (1, counted 6 3 (minutes 9)) ∈ p.shared.events.rows ∧
      Owed (crowdScan crowdRules) (CrowdViolation crowdRules) (fun _ => 0) (crowdRule 6) (counted 6 3 (minutes 9)) ∧
      (∃ m ∈ more, Begins m.label) ∧ Quiet t ∧
      ¬ Handled (crowdScan crowdRules) t (crowdRule 6) (1, counted 6 3 (minutes 9)) := by
  have first : Follows (crowdScan crowdRules).service Recent (Pool.idle emptyScanned) untilLate := by
    decide +kernel
  have second : Follows (crowdScan crowdRules).service Recent
      (untilLate.foldl (Pool.after (crowdScan crowdRules).service) (Pool.idle emptyScanned))
      (scanned (minutes 13)) := by
    decide +kernel
  obtain ⟨moves, run, recent, -⟩ := follows_labels first
  obtain ⟨more, later, recent', labels⟩ := follows_labels second
  have others : ∀ j, (untilLate.foldl (Pool.after (crowdScan crowdRules).service)
      (Pool.idle emptyScanned)).calls j = none :=
    calls_ended (i := 0) (by decide) (fun _ _ => rfl) (by decide +kernel)
  have ended : ∀ j, ((scanned (minutes 13)).foldl (Pool.after (crowdScan crowdRules).service)
      (untilLate.foldl (Pool.after (crowdScan crowdRules).service) (Pool.idle emptyScanned))).calls j = none :=
    calls_ended (i := 0) (by decide) (fun j _ => others j) (by decide +kernel)
  have quiet : Quiet _ := fun i c found => by cases (ended i).symm.trans found
  have fresh : Fresh (fun _ => 0) (crowdScan crowdRules) emptyScanned := ⟨fun _ => rfl, rfl, nofun⟩
  refine ⟨moves, more, _, _, fresh, run, later, ?_, by decide +kernel, ?_, ?_, quiet, ?_⟩
  · intro m there
    exact (List.mem_append.mp there).elim (recent m) (recent' m)
  · exact ⟨by decide, by decide⟩
  · exact begins_of_labels labels
  · rintro (done | ⟨i, c, found, -⟩ | ⟨-, mark, stored, later⟩)
    · revert done
      decide +kernel
    · exact quiet i c found
    · revert later
      cases stored
      decide +kernel

def intrusionRule (zone : Nat) : ScanRule := { crowdRule zone with alertType := .intrusion, threshold := none }

def seen (zone : Nat) (eventTime : Int) : Sighting := .presence ⟨zone, none, .appear, none, eventTime⟩

def unseen : Store Sighting (SourceTable × ScanRule) SourceTable := ⟨.empty, fun _ => some 0, []⟩

def intrusionRules : List ScanRule := [intrusionRule 7]

def scannedTables (now : Nat) : List (Turn (Request Sighting)) :=
  .enter 0 .scan :: List.replicate 7 (.act 0 now)

def crowdStored : ScanPool ZonePresenceEvent ScanRule Unit :=
  (stored (counted 5 3 (minutes 10)) (minutes 10)).foldl (Pool.after (crowdScan crowdRules).service)
    (Pool.idle emptyScanned)

def intrusionStored : ScanPool Sighting (SourceTable × ScanRule) SourceTable :=
  [.enter 0 (.insert (seen 7 (minutes 10))), .act 0 (minutes 10)].foldl
    (Pool.after (intrusionScan intrusionRules).service) (Pool.idle unseen)

theorem scans_miss_nothing_iff_in_time :
    (∃ moves t, Run (Step (crowdScan crowdRules).service) (Pool.idle emptyScanned) moves t ∧
      Evaluated t.shared (crowdRule 5) (0, counted 5 3 (minutes 10))) ∧
    ∃ moves t, Run (Step (intrusionScan intrusionRules).service) (Pool.idle unseen) moves t ∧
      Evaluated t.shared (.zonePresenceEvents, intrusionRule 7) (0, seen 7 (minutes 10)) := by
  constructor
  · have listed : ∀ q e, CrowdViolation crowdRules q e → q ∈ crowdRules := fun q e due => due.1.1
    have first : Follows (crowdScan crowdRules).service
        (TimelyAlone (crowdScan crowdRules) (CrowdViolation crowdRules) (fun _ => 0) crowdRules)
        (Pool.idle emptyScanned) (stored (counted 5 3 (minutes 10)) (minutes 10)) := by
      decide +kernel
    have second : Follows (crowdScan crowdRules).service
        (TimelyAlone (crowdScan crowdRules) (CrowdViolation crowdRules) (fun _ => 0) crowdRules)
        crowdStored (scanned (minutes 11)) := by
      decide +kernel
    obtain ⟨moves, run, timely, -⟩ := follows_timely listed first
    obtain ⟨more, later, timely', labels⟩ := follows_timely listed second
    have both := (scans_miss_nothing_iff crowdRules).1 (fun _ => 0) emptyScanned (moves ++ more) _
      ⟨fun _ => rfl, rfl, nofun⟩ (run.append later)
    have heeds : Heeds (Timely (crowdScan crowdRules) (CrowdViolation crowdRules) fun _ => 0) (moves ++ more) :=
      fun m there => (List.mem_append.mp there).elim (timely m) (timely' m)
    have others : ∀ j, crowdStored.calls j = none :=
      calls_ended (i := 0) (by decide) (fun _ _ => rfl) (by decide +kernel)
    have ended : ∀ j, ((scanned (minutes 11)).foldl (Pool.after (crowdScan crowdRules).service)
        crowdStored).calls j = none :=
      calls_ended (i := 0) (by decide) (fun j _ => others j) (by decide +kernel)
    refine ⟨moves ++ more, _, run.append later, ?_⟩
    refine both.2 heeds moves more _ _ _ _ (List.prefix_refl _) run later (by decide +kernel)
      ⟨by decide, by decide⟩ (begins_of_labels labels) ?_
    intro i c found
    cases (ended i).symm.trans found
  · have listed : ∀ q e, Intrusion intrusionRules q e →
        q ∈ [(SourceTable.gateAccessLogs, intrusionRule 7), (.zonePresenceEvents, intrusionRule 7)] := by
      rintro ⟨table, rule⟩ e due
      have rule_eq : rule = intrusionRule 7 := List.mem_singleton.mp due.1.1
      subst rule_eq
      cases table with
      | gateAccessLogs => exact List.mem_cons_self
      | zonePresenceEvents => exact List.mem_cons_of_mem _ List.mem_cons_self
    have first : Follows (intrusionScan intrusionRules).service
        (TimelyAlone (intrusionScan intrusionRules) (Intrusion intrusionRules) (fun _ => 0)
          [(.gateAccessLogs, intrusionRule 7), (.zonePresenceEvents, intrusionRule 7)])
        (Pool.idle unseen) [.enter 0 (.insert (seen 7 (minutes 10))), .act 0 (minutes 10)] := by
      decide +kernel
    have second : Follows (intrusionScan intrusionRules).service
        (TimelyAlone (intrusionScan intrusionRules) (Intrusion intrusionRules) (fun _ => 0)
          [(.gateAccessLogs, intrusionRule 7), (.zonePresenceEvents, intrusionRule 7)])
        intrusionStored (scannedTables (minutes 15)) := by
      decide +kernel
    obtain ⟨moves, run, timely, -⟩ := follows_timely listed first
    obtain ⟨more, later, timely', labels⟩ := follows_timely listed second
    have both := (scans_miss_nothing_iff intrusionRules).2 (fun _ => 0) unseen (moves ++ more) _
      ⟨fun _ => rfl, rfl, nofun⟩ (run.append later)
    have heeds : Heeds (Timely (intrusionScan intrusionRules) (Intrusion intrusionRules) fun _ => 0)
        (moves ++ more) := fun m there => (List.mem_append.mp there).elim (timely m) (timely' m)
    have others : ∀ j, intrusionStored.calls j = none :=
      calls_ended (i := 0) (by decide) (fun _ _ => rfl) (by decide +kernel)
    have ended : ∀ j, ((scannedTables (minutes 15)).foldl (Pool.after (intrusionScan intrusionRules).service)
        intrusionStored).calls j = none :=
      calls_ended (i := 0) (by decide) (fun j _ => others j) (by decide +kernel)
    refine ⟨moves ++ more, _, run.append later, ?_⟩
    refine both.2 heeds moves more _ _ _ _ (List.prefix_refl _) run later (by decide +kernel)
      ⟨by decide, by decide⟩ (begins_of_labels labels) ?_
    intro i c found
    cases (ended i).symm.trans found

end Runs
end Alerts
