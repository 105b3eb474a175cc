import MeetingPlatform.Lib.Runs
import MeetingPlatform.Alerts.SecurityAlerts
import Mathlib.Logic.Function.Basic

/- The alert for a plate on the control list, with its throttle. The throttle is armed by the first
   call of a plate, whatever comes of that call. -/
namespace Anpr
open Alerts LabelledRuns

section Evaluation

inductive ListType where
  | blocklist | watchlist
  deriving DecidableEq, Repr

structure ControlListEntry where
  id : Nat
  plateNumber : String
  listType : ListType
  reason : Option String
  active : Bool
  deleted : Bool
  deriving DecidableEq, Repr

inductive RegistrationStatus where
  | active | pending | rejected | disabled
  deriving DecidableEq, Repr

inductive NotificationType where
  | vehicleControlListMatch | unknownVehicleAlert | vehicleUnauthorizedAlert
  deriving DecidableEq, Repr

def checkControlList (entries : List ControlListEntry) (plateNumber : String) :
    Option ControlListEntry :=
  let live := entries.filter fun e => e.plateNumber = plateNumber ∧ e.active ∧ ¬ e.deleted
  (live.find? fun e => e.listType = .blocklist) <|> live.head?

structure EvaluateCall where
  plateNumber : String
  channelId : Nat
  eventId : Option Nat
  now : Int
  presenceZone : Nat → Option Nat
  controlList : List ControlListEntry
  registration : Option RegistrationStatus
  rules : List AlertRule
  recipients : List Nat
  zoneMapFails : Bool
  controlListFails : Bool
  registrationFails : Bool
  rulesFail : Bool
  recordFails : Bool
  recipientsFail : Bool
  notificationFails : Bool

structure VehicleAlert where
  alertType : AlertType
  severity : AlertSeverity
  subject : String
  notificationType : NotificationType
  listed : Option ControlListEntry
  deriving DecidableEq, Repr

/-- What went out: the alert that was recorded and the notification that was created. -/
structure Outcome where
  recorded : Option RecordAlertInput
  notified : Option (VehicleAlert × List Nat)

def Outcome.nothing : Outcome := ⟨none, none⟩

variable (call : EvaluateCall)

def resolveZone : Option Nat :=
  if call.zoneMapFails then none else call.presenceZone call.channelId

def controlListAlert (entry : ControlListEntry) : VehicleAlert where
  alertType := .vehicleControlMatch
  severity := if entry.listType = .blocklist then .high else .medium
  subject :=
    if entry.listType = .blocklist then "C\\u1ea3nh b\\u00e1o: xe trong danh s\\u00e1ch ch\\u1eb7n"
    else "C\\u1ea3nh b\\u00e1o: xe c\\u1ea7n theo d\\u00f5i"
  notificationType := .vehicleControlListMatch
  listed := some entry

def registrationAlert : Option RegistrationStatus → Option VehicleAlert
  | none => some ⟨.unknownVehicle, .medium,
      "C\\u1ea3nh b\\u00e1o: bi\\u1ec3n s\\u1ed1 kh\\u00f4ng x\\u00e1c \\u0111\\u1ecbnh",
      .unknownVehicleAlert, none⟩
  | some .pending | some .rejected => some ⟨.vehicleUnauthorized, .low,
      "Th\\u00f4ng b\\u00e1o: xe \\u0111ang ch\\u1edd duy\\u1ec7t/b\\u1ecb t\\u1eeb ch\\u1ed1i",
      .vehicleUnauthorizedAlert, none⟩
  | some .active | some .disabled => none

/-- Steps 3 and 4: the reason for an alert with the number of its rule, unless a lookup that is not
    made up for fails or the rule suppresses it. A failure to read the rules is made up for. -/
def alertFor : Option (VehicleAlert × Option Nat) :=
  if call.controlListFails then none
  else
    let found := match checkControlList call.controlList call.plateNumber with
      | some entry => some (controlListAlert entry)
      | none => if call.registrationFails then none else registrationAlert call.registration
    match found with
    | none => none
    | some alert =>
      if call.rulesFail then some (alert, none)
      else
        let effective := findEffectiveRule call.rules alert.alertType (resolveZone call)
        if effective.suppressed then none else some (alert, effective.rule.map AlertRule.id)

def deliver (alert : VehicleAlert) (ruleId : Option Nat) : Outcome where
  recorded :=
    if call.recordFails then none
    else some ⟨alert.alertType, resolveZone call, some alert.severity, none, call.eventId, ruleId,
      some ⟨none, none, none⟩⟩
  notified :=
    if call.recipientsFail ∨ call.recipients = [] ∨ call.notificationFails then none
    else some (alert, call.recipients)

def outcomeOf : Outcome :=
  match alertFor call with
  | none => .nothing
  | some (alert, ruleId) => deliver call alert ruleId

def Outcome.TellsOfList (o : Outcome) : Prop :=
  (∃ input ∈ o.recorded, input.alertType = .vehicleControlMatch) ∨
    ∃ sent ∈ o.notified, sent.1.notificationType = .vehicleControlListMatch

structure Delivery where
  plateNumber : String
  sentAt : Int
  deriving DecidableEq, Repr

/-- `lastAlertAt` is the throttle of the source; `armedBy` keeps the calls that set it. -/
structure AlertState where
  lastAlertAt : String → Option Int
  armedBy : String → Option EvaluateCall
  delivered : List Delivery

def AlertState.start : AlertState := ⟨fun _ => none, fun _ => none, []⟩

end Evaluation

section Throttle
variable (throttleSeconds : Nat)

def Throttled (s : AlertState) (call : EvaluateCall) : Prop :=
  ∃ last, s.lastAlertAt call.plateNumber = some last ∧ call.now - last < throttleSeconds * 1000

instance (o : Outcome) : Decidable o.TellsOfList :=
  inferInstanceAs (Decidable ((∃ input ∈ o.recorded, _) ∨ ∃ sent ∈ o.notified, _))

instance (s : AlertState) (call : EvaluateCall) : Decidable (Throttled throttleSeconds s call) :=
  inferInstanceAs (Decidable (∃ last ∈ s.lastAlertAt call.plateNumber, _))

def evaluate (s : AlertState) (call : EvaluateCall) : AlertState :=
  if Throttled throttleSeconds s call then s
  else
    { lastAlertAt := Function.update s.lastAlertAt call.plateNumber (some call.now)
      armedBy := Function.update s.armedBy call.plateNumber (some call)
      delivered :=
        if (outcomeOf call).TellsOfList then ⟨call.plateNumber, call.now⟩ :: s.delivered
        else s.delivered }

def EvaluateStep (s : AlertState) (call : EvaluateCall) (t : AlertState) : Prop :=
  True ∧ t = evaluate throttleSeconds s call

def Wanted (call : EvaluateCall) : Prop :=
  (checkControlList call.controlList call.plateNumber).isSome = true ∧
    (findEffectiveRule call.rules .vehicleControlMatch (resolveZone call)).suppressed = false

def InPeriod (s : AlertState) (call : EvaluateCall) : Prop :=
  ∃ d ∈ s.delivered, d.plateNumber = call.plateNumber ∧ call.now - d.sentAt < throttleSeconds * 1000

/-- A wanted call is throttled only where an earlier one in the period was told of. -/
def HidesRepeats (s : AlertState) (call : EvaluateCall) (_ : AlertState) : Prop :=
  Wanted call → Throttled throttleSeconds s call → InPeriod throttleSeconds s call

/-- The list and the rules were read, the plate was on the list and not suppressed, and the alert or
    the notification could be stored. -/
def FindsListed (call : EvaluateCall) : Prop :=
  call.controlListFails = false ∧
    (checkControlList call.controlList call.plateNumber).isSome = true ∧
    (call.rulesFail = true ∨
      (findEffectiveRule call.rules .vehicleControlMatch (resolveZone call)).suppressed = false) ∧
    (call.recordFails = false ∨
      call.recipientsFail = false ∧ call.recipients ≠ [] ∧ call.notificationFails = false)

/-- Where a wanted call is throttled, the call that armed the throttle has itself found the plate on
    the list. -/
def ArmedByListed (s : AlertState) (call : EvaluateCall) : Prop :=
  Wanted call → Throttled throttleSeconds s call →
    ∀ armer, s.armedBy call.plateNumber = some armer → FindsListed armer

/-- The clock has not been set back behind the call that armed the throttle. -/
def ClockForward (s : AlertState) (call : EvaluateCall) : Prop :=
  ∀ armer, s.armedBy call.plateNumber = some armer → armer.now ≤ call.now

structure ThrottleKept (s : AlertState) : Prop where
  armed : ∀ plate, s.lastAlertAt plate = (s.armedBy plate).map EvaluateCall.now
  told : ∀ plate armer, s.armedBy plate = some armer → (outcomeOf armer).TellsOfList →
    ⟨plate, armer.now⟩ ∈ s.delivered
  delivered : ∀ d ∈ s.delivered, ∃ armer, s.armedBy d.plateNumber = some armer ∧
    (d.sentAt = armer.now ∧ (outcomeOf armer).TellsOfList ∨
      d.sentAt + throttleSeconds * 1000 ≤ armer.now)

variable {throttleSeconds : Nat} {s t : AlertState} {call : EvaluateCall}

theorem throttleKept_start : ThrottleKept throttleSeconds AlertState.start where
  armed := by simp [AlertState.start]
  told := by simp [AlertState.start]
  delivered := by simp [AlertState.start]

theorem older_delivered (kept : ThrottleKept throttleSeconds s)
    (free : ¬ Throttled throttleSeconds s call) {d : Delivery} (there : d ∈ s.delivered)
    (same : d.plateNumber = call.plateNumber) : d.sentAt + throttleSeconds * 1000 ≤ call.now := by
  obtain ⟨armer, armed, sent⟩ := kept.delivered d there
  have last : s.lastAlertAt call.plateNumber = some armer.now := by
    rw [kept.armed, ← same, armed]
    rfl
  have passed : ¬ call.now - armer.now < throttleSeconds * 1000 := fun early =>
    free ⟨armer.now, last, early⟩
  rcases sent with ⟨same_time, -⟩ | older <;> omega

theorem throttleKept_step (kept : ThrottleKept throttleSeconds s)
    (step : EvaluateStep throttleSeconds s call t) : ThrottleKept throttleSeconds t := by
  obtain ⟨-, rfl⟩ := step
  unfold evaluate
  by_cases throttled : Throttled throttleSeconds s call
  · rw [if_pos throttled]
    exact kept
  · rw [if_neg throttled]
    have earlier : ∀ d ∈ s.delivered, d ∈ (if (outcomeOf call).TellsOfList then
        ⟨call.plateNumber, call.now⟩ :: s.delivered else s.delivered) := by
      intro d there
      split
      · exact List.mem_cons_of_mem _ there
      · exact there
    constructor
    · intro plate
      by_cases mine : plate = call.plateNumber
      · subst mine
        simp
      · simp [mine, kept.armed]
    · intro plate armer armed tells
      by_cases mine : plate = call.plateNumber
      · subst mine
        simp only [Function.update_self, Option.some.injEq] at armed
        subst armed
        rw [if_pos tells]
        exact List.mem_cons.mpr (Or.inl rfl)
      · simp only [Function.update_of_ne mine] at armed
        exact earlier _ (kept.told plate armer armed tells)
    · intro d there
      by_cases mine : d.plateNumber = call.plateNumber
      · refine ⟨call, by simp [mine], ?_⟩
        by_cases tells : (outcomeOf call).TellsOfList
        · simp only [if_pos tells] at there
          rcases List.mem_cons.mp there with rfl | old
          · exact Or.inl ⟨rfl, tells⟩
          · exact Or.inr (older_delivered kept throttled old mine)
        · simp only [if_neg tells] at there
          exact Or.inr (older_delivered kept throttled there mine)
      · have old : d ∈ s.delivered := by
          by_cases tells : (outcomeOf call).TellsOfList
          · simp only [if_pos tells] at there
            rcases List.mem_cons.mp there with rfl | old
            · exact absurd rfl mine
            · exact old
          · simpa only [if_neg tells] using there
        obtain ⟨armer, armed, sent⟩ := kept.delivered d old
        exact ⟨armer, by simpa [mine] using armed, sent⟩

theorem deliver_listed {entry : ControlListEntry} {ruleId : Option Nat} :
    (deliver call (controlListAlert entry) ruleId).TellsOfList ↔
      call.recordFails = false ∨
        call.recipientsFail = false ∧ call.recipients ≠ [] ∧ call.notificationFails = false := by
  unfold Outcome.TellsOfList
  apply or_congr
  · rw [deliver]
    cases call.recordFails <;> simp [controlListAlert]
  · rw [deliver]
    cases call.recipientsFail <;> cases call.notificationFails <;>
      cases call.recipients <;> simp [controlListAlert]

theorem deliver_unlisted {alert : VehicleAlert} {ruleId : Option Nat}
    {registration : Option RegistrationStatus} (found : registrationAlert registration = some alert) :
    ¬ (deliver call alert ruleId).TellsOfList := by
  have other : alert.alertType ≠ .vehicleControlMatch ∧
      alert.notificationType ≠ .vehicleControlListMatch := by
    unfold registrationAlert at found
    split at found <;> cases found <;> exact ⟨by decide, by decide⟩
  rintro (⟨input, recorded, same⟩ | ⟨sent, notified, same⟩)
  · rw [deliver] at recorded
    dsimp only at recorded
    split at recorded
    · cases recorded
    · cases recorded
      exact other.1 same
  · rw [deliver] at notified
    dsimp only at notified
    split at notified
    · cases notified
    · cases notified
      exact other.2 same

theorem tellsOfList_iff : (outcomeOf call).TellsOfList ↔ FindsListed call := by
  have silent : ¬ Outcome.nothing.TellsOfList := by decide
  rw [outcomeOf, alertFor, FindsListed]
  cases call.controlListFails with
  | true => simpa using silent
  | false =>
    rw [if_neg Bool.false_ne_true]
    cases listed : checkControlList call.controlList call.plateNumber with
    | none =>
      refine iff_of_false ?_ (by simp)
      dsimp only
      split
      · exact silent
      · rename_i alert ruleId reason
        split at reason
        · cases reason
        · rename_i found reading
          have registered : registrationAlert call.registration = some found := by
            cases fails : call.registrationFails <;> simp_all
          have same : found = alert := by
            split at reason
            · exact (Prod.mk.inj (Option.some.inj reason)).1
            · split at reason
              · cases reason
              · exact (Prod.mk.inj (Option.some.inj reason)).1
          exact deliver_unlisted (same ▸ registered)
    | some entry =>
      dsimp only
      cases call.rulesFail with
      | true => simp [deliver_listed]
      | false =>
        cases suppressed : (findEffectiveRule call.rules .vehicleControlMatch
            (resolveZone call)).suppressed with
        | true => simpa [controlListAlert, suppressed] using silent
        | false =>
          have delivered := @deliver_listed call entry
            ((findEffectiveRule call.rules .vehicleControlMatch (resolveZone call)).rule.map AlertRule.id)
          simpa [controlListAlert, suppressed] using delivered

theorem inPeriod_of_armer (kept : ThrottleKept throttleSeconds s)
    (throttled : Throttled throttleSeconds s call) {armer : EvaluateCall}
    (armed : s.armedBy call.plateNumber = some armer) (tells : (outcomeOf armer).TellsOfList) :
    InPeriod throttleSeconds s call := by
  obtain ⟨last, found, early⟩ := throttled
  rw [kept.armed, armed] at found
  cases found
  exact ⟨_, kept.told _ armer armed tells, rfl, early⟩

theorem armer_of_inPeriod (kept : ThrottleKept throttleSeconds s)
    (clock : ClockForward s call) (inPeriod : InPeriod throttleSeconds s call) {armer : EvaluateCall}
    (armed : s.armedBy call.plateNumber = some armer) : (outcomeOf armer).TellsOfList := by
  obtain ⟨d, there, mine, recent⟩ := inPeriod
  obtain ⟨armer', armed', sent⟩ := kept.delivered d there
  rw [mine, armed] at armed'
  obtain rfl := Option.some.inj armed'
  rcases sent with ⟨-, tells⟩ | older
  · exact tells
  · have forward := clock armer armed
    omega

theorem throttleKept_before {moves : List (Move AlertState EvaluateCall)}
    (run : Run (EvaluateStep throttleSeconds) AlertState.start moves s) :
    ∀ m ∈ moves, ThrottleKept throttleSeconds m.before := by
  have heeds : Heeds (fun (_ : AlertState) (_ : EvaluateCall) => True) moves := fun _ _ => trivial
  intro m there
  exact (moves_invariant (ThrottleKept throttleSeconds) run throttleKept_start heeds
    (fun kept step _ => throttleKept_step kept step) m there).1

/-- The throttle hides nothing but repeats throughout a run where each wanted call that is throttled
    is so by a call that found the plate on the list; with a clock that is not set back, only there. -/
theorem throttle_hides_repeats {moves : List (Move AlertState EvaluateCall)}
    (run : Run (EvaluateStep throttleSeconds) AlertState.start moves s) :
    (Heeds (ArmedByListed throttleSeconds) moves →
      ∀ m ∈ moves, HidesRepeats throttleSeconds m.before m.label m.after) ∧
      (Heeds ClockForward moves →
        (∀ m ∈ moves, HidesRepeats throttleSeconds m.before m.label m.after) →
          Heeds (ArmedByListed throttleSeconds) moves) := by
  have kept := throttleKept_before run
  constructor
  · intro heeds m there wanted throttled
    obtain ⟨last, found, early⟩ := throttled
    rw [(kept m there).armed, Option.map_eq_some_iff] at found
    obtain ⟨armer, armed, rfl⟩ := found
    have throttled : Throttled throttleSeconds m.before m.label :=
      ⟨_, by rw [(kept m there).armed, armed, Option.map_some], early⟩
    exact inPeriod_of_armer (kept m there) throttled armed
      (tellsOfList_iff.mpr (heeds m there wanted throttled armer armed))
  · intro clock hides m there wanted throttled armer armed
    exact tellsOfList_iff.mp (armer_of_inPeriod (kept m there) (clock m there)
      (hides m there wanted throttled) armed)

end Throttle

section Runs

instance (call : EvaluateCall) : Decidable (Wanted call) := inferInstanceAs (Decidable (_ ∧ _))

instance (call : EvaluateCall) : Decidable (FindsListed call) :=
  inferInstanceAs (Decidable (_ ∧ _ ∧ (_ ∨ _) ∧ (_ ∨ _ ∧ _ ∧ _)))

instance (throttleSeconds : Nat) (s : AlertState) (call : EvaluateCall) :
    Decidable (InPeriod throttleSeconds s call) :=
  inferInstanceAs (Decidable (∃ d ∈ s.delivered, _))

instance (throttleSeconds : Nat) (s : AlertState) (call : EvaluateCall) :
    Decidable (ArmedByListed throttleSeconds s call) :=
  inferInstanceAs (Decidable (_ → _ → ∀ armer ∈ s.armedBy call.plateNumber, _))

def passing (now : Int) (controlList : List ControlListEntry) : EvaluateCall where
  plateNumber := "30A12345"
  channelId := 1
  eventId := none
  now := now
  presenceZone := fun _ => none
  controlList := controlList
  registration := some .active
  rules := []
  recipients := [1]
  zoneMapFails := false
  controlListFails := false
  registrationFails := false
  rulesFail := false
  recordFails := false
  recipientsFail := false
  notificationFails := false

def blocked : ControlListEntry := ⟨1, "30A12345", .blocklist, some "stolen", true, false⟩

theorem listed_car_throttled : ∃ moves s,
    Run (EvaluateStep 300) AlertState.start moves s ∧
      ¬ ∀ m ∈ moves, HidesRepeats 300 m.before m.label m.after := by
  let calls := [passing 0 [], passing 60000 [blocked]]
  have allowed : Heeds (fun _ _ => True) (trail (evaluate 300) AlertState.start calls) := by
    decide +kernel
  refine ⟨_, _, run_trail allowed, ?_⟩
  intro hides
  have inPeriod := hides _ (List.mem_of_getElem? (i := 1) rfl) (by decide +kernel)
    (by decide +kernel)
  revert inPeriod
  decide +kernel

theorem listed_car_told_once : ∃ moves s,
    Run (EvaluateStep 300) AlertState.start moves s ∧ moves.length = 2 ∧
      ∀ m ∈ moves, HidesRepeats 300 m.before m.label m.after := by
  let calls := [passing 0 [blocked], passing 60000 [blocked]]
  have allowed : Heeds (fun _ _ => True) (trail (evaluate 300) AlertState.start calls) := by
    decide +kernel
  have heeds : Heeds (ArmedByListed 300) (trail (evaluate 300) AlertState.start calls) := by
    decide +kernel
  have run := run_trail allowed
  exact ⟨_, _, run, rfl, (throttle_hides_repeats run).1 heeds⟩

end Runs
end Anpr
