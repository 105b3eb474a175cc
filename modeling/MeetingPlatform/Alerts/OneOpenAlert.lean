import MeetingPlatform.Lib.CallPool
import MeetingPlatform.Alerts.SecurityAlerts

/- Producers and operators at the same alerts. A call of `recordAlert` is cut into its statements;
   the statements of the operators are conditional updates. -/
namespace Alerts
open LabelledRuns CallPools

section Desk

structure AlertDesk where
  clock : Nat
  alerts : List SecurityAlert

inductive AlertRequest where
  | recordAlert (input : RecordAlertInput)
  | acknowledge (id actorUserId : Nat)
  | resolve (id actorUserId : Nat) (resolutionNote : String)
  | autoResolveExpired (timeoutMinutes : Nat)

inductive RecordStage where
  | inserting
  | finding (triggeredAt : Int)
  | retrying (triggeredAt : Int)
  | findingAgain
  | bumping (id : Nat)
  deriving DecidableEq, Repr

/-- What comes after a statement of `recordAlert`: another one, an alert for the caller, or an error. -/
inductive RecordResult where
  | goesOn (stage : RecordStage)
  | returns (id : Nat)
  | throws
  deriving DecidableEq, Repr

def RecordResult.next : RecordResult → Option RecordStage
  | .goesOn stage => some stage
  | .returns _ | .throws => none

inductive AlertCall where
  | record (input : RecordAlertInput) (stage : RecordStage)
  | acknowledge (id actorUserId : Nat)
  | resolve (id actorUserId : Nat) (resolutionNote : String)
  | autoResolveExpired (timeoutMinutes : Nat)
  deriving DecidableEq, Repr

def AlertDesk.put (d : AlertDesk) (now : Nat) (alerts : List SecurityAlert) : AlertDesk :=
  { d with clock := now, alerts := alerts }

variable (debounceSeconds : Nat)

def AlertDesk.record (d : AlertDesk) (now : Nat) (input : RecordAlertInput) :
    RecordStage → AlertDesk × RecordResult
  | .inserting =>
    let triggeredAt := input.triggeredAt.getD now
    match tryInsert d.alerts input triggeredAt with
    | some inserted => (d.put now inserted, .returns d.alerts.length)
    | none => (d.put now d.alerts, .goesOn (.finding triggeredAt))
  | .finding triggeredAt => (d.put now d.alerts,
      match findOpenAlert d.alerts input.alertType input.zoneId with
      | some id => .goesOn (.bumping id)
      | none => .goesOn (.retrying triggeredAt))
  | .retrying triggeredAt =>
    match tryInsert d.alerts input triggeredAt with
    | some inserted => (d.put now inserted, .returns d.alerts.length)
    | none => (d.put now d.alerts, .goesOn .findingAgain)
  | .findingAgain => (d.put now d.alerts,
      match findOpenAlert d.alerts input.alertType input.zoneId with
      | some id => .goesOn (.bumping id)
      | none => .throws)
  -- the alert is read back after the update, and has to be there
  | .bumping id => (d.put now (bumpOccurrence d.alerts now debounceSeconds id input),
      if id < d.alerts.length then .returns id else .throws)

def AlertDesk.access (d : AlertDesk) (now : Nat) : AlertCall → AlertDesk × Option AlertCall
  | .record input stage => ((d.record debounceSeconds now input stage).1,
      (d.record debounceSeconds now input stage).2.next.map (.record input))
  | .acknowledge id actorUserId => (d.put now (acknowledge d.alerts now id actorUserId), none)
  | .resolve id actorUserId resolutionNote =>
    (d.put now (resolve d.alerts now id actorUserId resolutionNote), none)
  | .autoResolveExpired timeoutMinutes =>
    (d.put now (autoResolveExpired d.alerts now timeoutMinutes), none)

def alertService : Service AlertDesk AlertCall AlertRequest where
  clock d := d.clock
  admits _ _ := True
  enter _
    | .recordAlert input => .record input .inserting
    | .acknowledge id actorUserId => .acknowledge id actorUserId
    | .resolve id actorUserId resolutionNote => .resolve id actorUserId resolutionNote
    | .autoResolveExpired timeoutMinutes => .autoResolveExpired timeoutMinutes
  act now c d := d.access debounceSeconds now c

end Desk

section OneOpen

/-- What the two partial unique indexes say. -/
def OneOpen (alerts : List SecurityAlert) : Prop :=
  ∀ (i j : Nat) (a b : SecurityAlert), alerts[i]? = some a → alerts[j]? = some b →
    a.Open → b.Open → a.alertType = b.alertType → a.zoneId = b.zoneId → i = j

/-- An event is inserted as an alert of its own, or added to one that is not resolved. -/
inductive CountedOpen (debounceSeconds : Nat) (now : Int) (input : RecordAlertInput)
    (alerts : List SecurityAlert) : Nat → List SecurityAlert → Prop where
  | inserted (triggeredAt : Int) (isOpen : (newAlert input triggeredAt).Open) :
      CountedOpen debounceSeconds now input alerts alerts.length
        (alerts ++ [newAlert input triggeredAt])
  | bumped (id : Nat) (a : SecurityAlert) (found : alerts[id]? = some a) (isOpen : a.Open) :
      CountedOpen debounceSeconds now input alerts id
        (bumpOccurrence alerts now debounceSeconds id input)

/-- A `recordAlert` that returns in this turn has just been counted, on an alert that was open. -/
def ReturnsCounted (debounceSeconds : Nat) (p : Pool AlertDesk AlertCall) (turn : Turn AlertRequest)
    (q : Pool AlertDesk AlertCall) : Prop :=
  ∀ i now input stage id, turn = .act i now → p.calls i = some (.record input stage) →
    (p.shared.record debounceSeconds now input stage).2 = .returns id →
      CountedOpen debounceSeconds now input p.shared.alerts id q.shared.alerts

def BumpsOpen (d : AlertDesk) (_ : Nat) : AlertCall → Prop
  | .record _ (.bumping id) => ∀ a ∈ d.alerts[id]?, a.Open
  | _ => True

/-- An update that opens nothing and moves nothing. -/
def Closes (f : SecurityAlert → SecurityAlert) : Prop :=
  ∀ a, (f a).alertType = a.alertType ∧ (f a).zoneId = a.zoneId ∧ ((f a).Open → a.Open)

variable {alerts : List SecurityAlert} {now : Int} {f : SecurityAlert → SecurityAlert}

theorem oneOpen_of_rows {rows : List SecurityAlert} (one : OneOpen alerts) (closes : Closes f)
    (row : ∀ (i : Nat) b, rows[i]? = some b → ∃ a, alerts[i]? = some a ∧ (b = a ∨ b = f a)) :
    OneOpen rows := by
  have back : ∀ (i : Nat) b, rows[i]? = some b → ∃ a, alerts[i]? = some a ∧
      b.alertType = a.alertType ∧ b.zoneId = a.zoneId ∧ (b.Open → a.Open) := by
    intro i b there
    obtain ⟨a, found, rfl | rfl⟩ := row i b there
    · exact ⟨b, found, rfl, rfl, id⟩
    · exact ⟨a, found, closes a⟩
  intro i j b b' there there' isOpen isOpen' sameType sameZone
  obtain ⟨a, found, alertType, zone, opens⟩ := back i b there
  obtain ⟨a', found', alertType', zone', opens'⟩ := back j b' there'
  refine one i j a a' found found' (opens isOpen) (opens' isOpen') ?_ ?_
  · rw [← alertType, ← alertType', sameType]
  · rw [← zone, ← zone', sameZone]

theorem oneOpen_modify {id : Nat} (one : OneOpen alerts) (closes : Closes f) :
    OneOpen (alerts.modify id f) := by
  refine oneOpen_of_rows one closes ?_
  intro i b there
  rw [List.getElem?_modify] at there
  obtain ⟨a, found, same⟩ := Option.map_eq_some_iff.mp there
  by_cases here : id = i
  · exact ⟨a, found, Or.inr (by simpa [here] using same.symm)⟩
  · exact ⟨a, found, Or.inl (by simpa [here] using same.symm)⟩

theorem oneOpen_map (one : OneOpen alerts) (closes : Closes f) : OneOpen (alerts.map f) := by
  refine oneOpen_of_rows one closes ?_
  intro i b there
  rw [List.getElem?_map] at there
  obtain ⟨a, found, same⟩ := Option.map_eq_some_iff.mp there
  exact ⟨a, found, Or.inr same.symm⟩

theorem oneOpen_insert {input : RecordAlertInput} {triggeredAt : Int}
    {inserted : List SecurityAlert} (one : OneOpen alerts)
    (done : tryInsert alerts input triggeredAt = some inserted) : OneOpen inserted := by
  unfold tryInsert at done
  split at done
  · cases done
  · rename_i free
    cases done
    have old : ∀ (i : Nat) a, (alerts ++ [newAlert input triggeredAt])[i]? = some a →
        alerts[i]? = some a ∨ i = alerts.length ∧ a = newAlert input triggeredAt := by
      intro i a there
      by_cases before : i < alerts.length
      · rw [List.getElem?_append_left before] at there
        exact Or.inl there
      · obtain ⟨bound, same⟩ := List.getElem?_eq_some_iff.mp there
        have last : i = alerts.length := by
          rw [List.length_append, List.length_singleton] at bound
          omega
        subst last
        exact Or.inr ⟨rfl, by simpa using same.symm⟩
    have alone : ∀ (i : Nat) a, alerts[i]? = some a → a.Open → a.alertType = input.alertType →
        a.zoneId = input.zoneId → False := by
      intro i a there isOpen sameType sameZone
      exact free ⟨a, List.mem_of_getElem? there, sameType, sameZone, isOpen⟩
    intro i j a b there there' isOpen isOpen' sameType sameZone
    rcases old i a there with before | ⟨rfl, rfl⟩ <;> rcases old j b there' with before' | ⟨rfl, rfl⟩
    · exact one i j a b before before' isOpen isOpen' sameType sameZone
    · exact absurd sameZone fun _ => alone i a before isOpen sameType sameZone
    · exact absurd sameZone fun _ => alone j b before' isOpen' sameType.symm sameZone.symm
    · rfl

theorem bump_closes (debounceSeconds : Nat) (input : RecordAlertInput) :
    Closes fun a => a.bump now debounceSeconds input := fun _ => ⟨rfl, rfl, id⟩

theorem acknowledge_closes (actorUserId : Nat) : Closes fun a =>
    if a.status = .new then
      { a with status := .acknowledged, acknowledgedBy := some actorUserId, acknowledgedAt := some now }
    else a := by
  intro a
  by_cases new : a.status = .new
  · simp [new, SecurityAlert.Open]
  · simp [new]

theorem resolve_closes (actorUserId : Nat) (resolutionNote : String) : Closes fun a =>
    if a.status = .acknowledged then
      { a with
        status := .resolved
        resolvedBy := some actorUserId
        resolvedAt := some now
        resolutionNote := some resolutionNote }
    else a := by
  intro a
  by_cases taken : a.status = .acknowledged
  · simp [taken, SecurityAlert.Open]
  · simp [taken]

theorem oneOpen_autoResolve {timeoutMinutes : Nat} (one : OneOpen alerts) :
    OneOpen (autoResolveExpired alerts now timeoutMinutes) := by
  refine oneOpen_map one ?_
  intro a
  dsimp only
  split
  · exact ⟨rfl, rfl, fun isOpen => absurd rfl isOpen⟩
  · exact ⟨rfl, rfl, id⟩

end OneOpen

section Runs
variable {debounceSeconds : Nat} {d : AlertDesk} {now : Nat}

theorem access_oneOpen (one : OneOpen d.alerts) (c : AlertCall) :
    OneOpen (d.access debounceSeconds now c).1.alerts := by
  cases c with
  | record input stage =>
    simp only [AlertDesk.access]
    cases stage with
    | inserting =>
      simp only [AlertDesk.record]
      split
      · rename_i inserted done
        exact oneOpen_insert one done
      · exact one
    | finding triggeredAt => exact one
    | retrying triggeredAt =>
      simp only [AlertDesk.record]
      split
      · rename_i inserted done
        exact oneOpen_insert one done
      · exact one
    | findingAgain => exact one
    | bumping id => exact oneOpen_modify one (bump_closes debounceSeconds input)
  | acknowledge id actorUserId => exact oneOpen_modify one (acknowledge_closes actorUserId)
  | resolve id actorUserId resolutionNote =>
    exact oneOpen_modify one (resolve_closes actorUserId resolutionNote)
  | autoResolveExpired timeoutMinutes => exact oneOpen_autoResolve one

theorem insert_counted {input : RecordAlertInput} {triggeredAt : Int}
    {inserted : List SecurityAlert} (done : tryInsert d.alerts input triggeredAt = some inserted) :
    CountedOpen debounceSeconds now input d.alerts d.alerts.length inserted := by
  unfold tryInsert at done
  split at done
  · cases done
  · cases done
    exact .inserted _ (by simp [newAlert, SecurityAlert.Open])

theorem bump_counted_iff {input : RecordAlertInput} {id : Nat} {a : SecurityAlert}
    (found : d.alerts[id]? = some a) :
    CountedOpen debounceSeconds now input d.alerts id
      (bumpOccurrence d.alerts now debounceSeconds id input) ↔ a.Open := by
  constructor
  · intro counted
    generalize after : bumpOccurrence d.alerts now debounceSeconds id input = rows at counted
    cases counted with
    | inserted triggeredAt isOpen =>
      have longer := congrArg List.length after
      rw [bumpOccurrence, List.length_modify, List.length_append, List.length_singleton] at longer
      omega
    | bumped _ b there isOpen =>
      rw [found] at there
      cases there
      exact isOpen
  · intro isOpen
    exact .bumped id a found isOpen

theorem record_counted_iff (input : RecordAlertInput) (stage : RecordStage) :
    (∀ id, (d.record debounceSeconds now input stage).2 = .returns id →
      CountedOpen debounceSeconds now input d.alerts id
        (d.record debounceSeconds now input stage).1.alerts) ↔
      BumpsOpen d now (.record input stage) := by
  cases stage with
  | inserting | retrying =>
    refine iff_of_true ?_ trivial
    simp only [AlertDesk.record]
    split
    · rename_i inserted done
      intro id returned
      cases returned
      exact insert_counted done
    · intro id returned
      cases returned
  | finding | findingAgain =>
    refine iff_of_true ?_ trivial
    simp only [AlertDesk.record]
    intro id returned
    split at returned <;> cases returned
  | bumping id =>
    simp only [AlertDesk.record, BumpsOpen]
    constructor
    · intro counted a found
      have bound := (List.getElem?_eq_some_iff.mp found).1
      exact (bump_counted_iff found).mp (counted id (if_pos bound))
    · intro opens k returned
      split at returned
      · rename_i bound
        cases returned
        have found := List.getElem?_eq_getElem bound
        exact (bump_counted_iff found).mpr (opens _ found)
      · cases returned

variable {start : AlertDesk} {p : Pool AlertDesk AlertCall}
  {moves : List (Move (Pool AlertDesk AlertCall) (Turn AlertRequest))}

theorem step_oneOpen {a b : Pool AlertDesk AlertCall} {turn : Turn AlertRequest}
    (one : OneOpen a.shared.alerts) (step : Step (alertService debounceSeconds) a turn b) :
    OneOpen b.shared.alerts := by
  cases step with
  | enter _ _ => exact one
  | @act i now c _ _ => exact access_oneOpen one c

theorem at_most_one_open (one : OneOpen start.alerts)
    (run : Run (Step (alertService debounceSeconds)) (Pool.idle start) moves p) :
    ∀ a ∈ visited (Pool.idle start) moves, OneOpen a.shared.alerts := by
  have heeds : Heeds (fun _ _ => True) moves := fun _ _ => trivial
  exact visited_invariant (fun a => OneOpen a.shared.alerts) run one heeds
    fun inv step _ => step_oneOpen inv step

theorem step_counted_iff {a b : Pool AlertDesk AlertCall} {turn : Turn AlertRequest}
    (step : Step (alertService debounceSeconds) a turn b) :
    ReturnsCounted debounceSeconds a turn b ↔ Allows BumpsOpen a turn := by
  cases step with
  | enter free admitted =>
    refine iff_of_true ?_ trivial
    intro i now input stage id same
    cases same
  | @act j instant c waiting order =>
    rw [allows_act waiting]
    cases c with
    | record input stage =>
      rw [← @record_counted_iff debounceSeconds]
      constructor
      · intro all id returned
        exact all j instant input stage id rfl waiting returned
      · intro counted i now input' stage' id same found returned
        cases same
        rw [waiting] at found
        cases found
        exact counted id returned
    | _ =>
      refine iff_of_true ?_ trivial
      intro i now input stage id same found
      cases same
      rw [waiting] at found
      cases found

/-- One alert is open at most, and every call that returns has been counted on an open one, throughout
    a run, exactly when every bump finds its alert open. -/
theorem no_occurrence_lost_iff (one : OneOpen start.alerts)
    (run : Run (Step (alertService debounceSeconds)) (Pool.idle start) moves p) :
    (∀ a ∈ visited (Pool.idle start) moves, OneOpen a.shared.alerts) ∧
        (∀ m ∈ moves, ReturnsCounted debounceSeconds m.before m.label m.after) ↔
      Heeds (Allows BumpsOpen) moves := by
  rw [and_iff_right (at_most_one_open one run)]
  refine run_good_iff (fun _ => True) (ReturnsCounted debounceSeconds) run trivial ?_ ?_
  · intro a turn b _ _ _
    trivial
  · intro a turn b _ step
    exact step_counted_iff step

end Runs

section Interleavings

def noAlerts : AlertDesk := ⟨0, []⟩

def stranger : RecordAlertInput := ⟨.stranger, none, none, none, none, none, none⟩

instance (debounceSeconds : Nat) (d : AlertDesk) (r : AlertRequest) :
    Decidable ((alertService debounceSeconds).admits d r) :=
  inferInstanceAs (Decidable True)

instance (d : AlertDesk) (now : Nat) (c : AlertCall) : Decidable (BumpsOpen d now c) :=
  match c with
  | .record _ (.bumping id) => inferInstanceAs (Decidable (∀ a ∈ d.alerts[id]?, a.Open))
  | .record _ .inserting | .record _ (.finding _) | .record _ (.retrying _)
  | .record _ .findingAgain | .acknowledge _ _ | .resolve _ _ _ | .autoResolveExpired _ =>
    inferInstanceAs (Decidable True)

def resolvedMeanwhile : List (Turn AlertRequest) :=
  [.enter 0 (.recordAlert stranger), .act 0 1000, .enter 1 (.acknowledge 0 7), .act 1 2000,
    .enter 2 (.recordAlert stranger), .act 2 3000, .act 2 3000,
    .enter 3 (.resolve 0 7 "done"), .act 3 4000]

theorem counted_on_resolved : ∃ moves p,
    Run (Step (alertService 30)) (Pool.idle noAlerts) moves p ∧
      ¬ ∀ m ∈ moves, ReturnsCounted 30 m.before m.label m.after := by
  have follows : Follows (alertService 30) (fun _ _ _ => True) (Pool.idle noAlerts)
      resolvedMeanwhile := by decide +kernel
  obtain ⟨moves, run, -⟩ := follows_run follows
  have ready : Ready (alertService 30)
      (resolvedMeanwhile.foldl (Pool.after (alertService 30)) (Pool.idle noAlerts)) (.act 2 5000) := by
    decide +kernel
  refine ⟨_, _, run.snoc (step_after ready), ?_⟩
  intro all
  have counted := all _ (List.mem_append.mpr (Or.inr (List.mem_singleton_self _)))
  rw [step_counted_iff (step_after ready)] at counted
  exact absurd counted (by decide +kernel)

def resolvedAfterwards : List (Turn AlertRequest) :=
  [.enter 0 (.recordAlert stranger), .act 0 1000, .enter 1 (.acknowledge 0 7), .act 1 2000,
    .enter 2 (.recordAlert stranger), .act 2 3000, .act 2 3000, .act 2 3000,
    .enter 3 (.resolve 0 7 "done"), .act 3 4000]

theorem counted_then_resolved : ∃ moves p,
    Run (Step (alertService 30)) (Pool.idle noAlerts) moves p ∧
      p.shared.alerts.map SecurityAlert.occurrenceCount = [2] ∧
      (∀ a ∈ visited (Pool.idle noAlerts) moves, OneOpen a.shared.alerts) ∧
        ∀ m ∈ moves, ReturnsCounted 30 m.before m.label m.after := by
  have follows : Follows (alertService 30) BumpsOpen (Pool.idle noAlerts) resolvedAfterwards := by
    decide +kernel
  have one : OneOpen noAlerts.alerts := by
    intro i j a b there
    cases there
  obtain ⟨moves, run, heeds⟩ := follows_run follows
  exact ⟨moves, _, run, by decide +kernel, (no_occurrence_lost_iff one run).mpr heeds⟩

end Interleavings
end Alerts
