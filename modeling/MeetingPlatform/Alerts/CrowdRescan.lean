import MeetingPlatform.Alerts.SecurityAlerts

/- Crowd events that are evaluated again by the scan of every minute. An occurrence is told apart by
   its instant alone, against a list that does not have the event that opened the alert. -/
namespace Alerts

section Events

structure CrowdEvent where
  id : Nat
  occurredAt : Int
  deriving DecidableEq, Repr

/-- One evaluation of an event. Each evaluation takes a picture of its own. -/
structure Evaluation where
  event : CrowdEvent
  now : Int
  sourceEventId : Option Nat
  deriving DecidableEq, Repr

variable (debounceSeconds zone : Nat) (ruleId : Option Nat)

def crowdInput (e : Evaluation) : RecordAlertInput where
  alertType := .crowd
  zoneId := some zone
  severity := none
  triggeredAt := none
  sourceEventId := e.sourceEventId
  ruleId := ruleId
  payloadJson := some ⟨none, some e.event.occurredAt, none⟩

def recordCrowdAlert (alerts : List SecurityAlert) (e : Evaluation) : Option (List SecurityAlert) :=
  recordAlert alerts e.now debounceSeconds (crowdInput zone ruleId e)

def evaluateAll (alerts : List SecurityAlert) (evaluations : List Evaluation) :
    Option (List SecurityAlert) :=
  evaluations.foldlM (recordCrowdAlert debounceSeconds zone ruleId) alerts

/-- `occurrence_count` and `payload_json.occurrences` of the open alert. -/
structure Tallied where
  occurrenceCount : Nat
  occurrences : Option (List Occurrence)
  deriving DecidableEq, Repr

def SecurityAlert.tallied (a : SecurityAlert) : Tallied :=
  ⟨a.occurrenceCount, a.payloadJson.bind AlertPayload.occurrences⟩

def tally (alerts : List SecurityAlert) : Option Tallied :=
  (alerts.find? fun a => OpenFor .crowd (some zone) a).map SecurityAlert.tallied

def Evaluation.occurrence (e : Evaluation) : Occurrence := ⟨none, e.sourceEventId, e.event.occurredAt⟩

def Near (occurrences : List Occurrence) (e : Evaluation) : Prop :=
  ∃ o ∈ occurrences, distance e.event.occurredAt o.occurredAt < debounceSeconds * 1000

instance (occurrences : List Occurrence) (e : Evaluation) :
    Decidable (Near debounceSeconds occurrences e) :=
  inferInstanceAs (Decidable (∃ o ∈ occurrences, _))

def Tallied.evaluate (t : Option Tallied) (e : Evaluation) : Option Tallied :=
  match t with
  | none => some ⟨1, none⟩
  | some t =>
    if Near debounceSeconds (t.occurrences.getD []) e then some t
    else some ⟨t.occurrenceCount + 1,
      some (appendOccurrence (t.occurrences.getD []) e.occurrence)⟩

def firstAppearances : List CrowdEvent → List Evaluation → List Evaluation
  | _, [] => []
  | seen, e :: rest =>
    if e.event ∈ seen then firstAppearances seen rest
    else e :: firstAppearances (e.event :: seen) rest

/-- The tally is that of each event evaluated once, in the order of first appearance. -/
def SameAsOnce (alerts : List SecurityAlert) (evaluations : List Evaluation) : Prop :=
  (evaluateAll debounceSeconds zone ruleId alerts evaluations).map (tally zone) =
    (evaluateAll debounceSeconds zone ruleId alerts (firstAppearances [] evaluations)).map (tally zone)

/-- A repeated event, when it is evaluated, is near one of the stored occurrences. -/
def RepeatsNear (alerts : List SecurityAlert) (evaluations : List Evaluation) : Prop :=
  ∀ front e, front ++ [e] <+: evaluations → e.event ∈ front.map Evaluation.event →
    ∃ before t, evaluateAll debounceSeconds zone ruleId alerts front = some before ∧
      tally zone before = some t ∧ Near debounceSeconds (t.occurrences.getD []) e

end Events

section Tallies
variable {debounceSeconds zone : Nat} {ruleId : Option Nat} {alerts : List SecurityAlert}
  {evaluations : List Evaluation} {e : Evaluation}

theorem isDebounced_crowd_iff (occurrences : List Occurrence) (entry : Occurrence) :
    isDebounced debounceSeconds .crowd entry occurrences = true ↔
      ∃ o ∈ occurrences, distance entry.occurredAt o.occurredAt < debounceSeconds * 1000 := by
  have symm : ∀ x y, distance x y = distance y x := by
    intro x y
    unfold distance
    omega
  unfold isDebounced latestMatch
  rw [if_pos rfl]
  cases nearest : occurrences.argmin fun o => distance o.occurredAt entry.occurredAt with
  | none => simp [List.argmin_eq_none.mp nearest]
  | some o =>
    have there : o ∈ occurrences := List.argmin_mem nearest
    simp only [decide_eq_true_eq]
    constructor
    · intro near
      exact ⟨o, there, near⟩
    · rintro ⟨other, found, near⟩
      have closest := List.le_of_mem_argmin found nearest
      rw [symm] at near ⊢
      exact Nat.lt_of_le_of_lt closest near

theorem find_modify {p : SecurityAlert → Bool} {f : SecurityAlert → SecurityAlert}
    (keeps : ∀ a, p (f a) = p a) {id : Nat} (found : alerts.findIdx? p = some id) :
    (alerts.modify id f).find? p = (alerts.find? p).map f := by
  induction alerts generalizing id with
  | nil => cases found
  | cons a rest ih =>
    rw [List.findIdx?_cons] at found
    by_cases here : p a = true
    · simp only [here, if_true, Option.some.injEq] at found
      subst found
      simp [here, keeps]
    · simp only [here] at found
      obtain ⟨later, there, rfl⟩ := Option.map_eq_some_iff.mp found
      rw [List.modify_succ_cons, List.find?_cons_of_neg here, List.find?_cons_of_neg here]
      exact ih there

theorem bump_tallied (a : SecurityAlert) :
    (a.bump e.now debounceSeconds (crowdInput zone ruleId e)).tallied =
      if Near debounceSeconds (a.tallied.occurrences.getD []) e then a.tallied
      else ⟨a.occurrenceCount + 1,
        some (appendOccurrence (a.tallied.occurrences.getD []) e.occurrence)⟩ := by
  have near : isDebounced debounceSeconds .crowd e.occurrence a.occurrences = true ↔
      Near debounceSeconds (a.tallied.occurrences.getD []) e :=
    isDebounced_crowd_iff _ _
  have entry : (crowdInput zone ruleId e).occurrence e.now = e.occurrence := rfl
  have kind : (crowdInput zone ruleId e).alertType = .crowd := rfl
  unfold SecurityAlert.bump
  rw [entry, kind]
  by_cases debounced : Near debounceSeconds (a.tallied.occurrences.getD []) e
  · rw [if_pos debounced]
    simp only [near.mpr debounced, and_self, if_true]
    rfl
  · have no : isDebounced debounceSeconds .crowd e.occurrence a.occurrences = false :=
      Bool.eq_false_iff.mpr fun yes => debounced (near.mp yes)
    rw [if_neg debounced]
    simp only [no, Bool.false_eq_true, and_false, if_false]
    rfl

variable (debounceSeconds zone ruleId) in
theorem record_tally (alerts : List SecurityAlert) (e : Evaluation) :
    ∃ after, recordCrowdAlert debounceSeconds zone ruleId alerts e = some after ∧
      tally zone after = Tallied.evaluate debounceSeconds (tally zone alerts) e := by
  have alertType : (crowdInput zone ruleId e).alertType = .crowd := rfl
  have zoneId : (crowdInput zone ruleId e).zoneId = some zone := rfl
  unfold recordCrowdAlert recordAlert tryInsert
  simp only [alertType, zoneId]
  by_cases isOpen : ∃ a ∈ alerts, OpenFor .crowd (some zone) a
  · obtain ⟨a, found⟩ : ∃ a, alerts.find? (fun a => OpenFor .crowd (some zone) a) = some a := by
      rw [← Option.isSome_iff_exists, List.find?_isSome]
      simpa using isOpen
    obtain ⟨id, at_id⟩ : ∃ id, findOpenAlert alerts .crowd (some zone) = some id := by
      unfold findOpenAlert
      rw [← Option.isSome_iff_exists, List.findIdx?_isSome]
      simpa [List.any_eq_true] using isOpen
    simp only [if_pos isOpen, at_id]
    refine ⟨_, rfl, ?_⟩
    have keeps : ∀ b : SecurityAlert,
        decide (OpenFor .crowd (some zone) (b.bump e.now debounceSeconds (crowdInput zone ruleId e))) =
          decide (OpenFor .crowd (some zone) b) := fun b => rfl
    have kept := find_modify keeps at_id
    unfold tally bumpOccurrence
    rw [kept, found, Option.map_some, Option.map_some, bump_tallied]
    exact apply_ite some _ _ _
  · simp only [if_neg isOpen]
    refine ⟨_, rfl, ?_⟩
    have nothing : alerts.find? (fun a => OpenFor .crowd (some zone) a) = none := by
      rw [List.find?_eq_none]
      simpa using isOpen
    unfold tally
    rw [List.find?_append, nothing]
    simp [newAlert, OpenFor, SecurityAlert.Open, Tallied.evaluate, SecurityAlert.tallied, crowdInput]

variable (debounceSeconds zone ruleId) in
theorem evaluateAll_tally (alerts : List SecurityAlert) (evaluations : List Evaluation) :
    ∃ after, evaluateAll debounceSeconds zone ruleId alerts evaluations = some after ∧
      tally zone after = evaluations.foldl (Tallied.evaluate debounceSeconds) (tally zone alerts) := by
  induction evaluations generalizing alerts with
  | nil => exact ⟨alerts, rfl, rfl⟩
  | cons e rest ih =>
    obtain ⟨next, recorded, told⟩ := record_tally debounceSeconds zone ruleId alerts e
    obtain ⟨after, evaluated, all⟩ := ih next
    refine ⟨after, ?_, ?_⟩
    · rw [evaluateAll, List.foldlM_cons, recorded]
      exact evaluated
    · rw [all, told]
      rfl

theorem sameAsOnce_iff : SameAsOnce debounceSeconds zone ruleId alerts evaluations ↔
    evaluations.foldl (Tallied.evaluate debounceSeconds) (tally zone alerts) =
      (firstAppearances [] evaluations).foldl (Tallied.evaluate debounceSeconds)
        (tally zone alerts) := by
  obtain ⟨after, evaluated, told⟩ := evaluateAll_tally debounceSeconds zone ruleId alerts evaluations
  obtain ⟨once, evaluated', told'⟩ := evaluateAll_tally debounceSeconds zone ruleId alerts (firstAppearances [] evaluations)
  rw [SameAsOnce, evaluated, evaluated', ← told, ← told', Option.map_some, Option.map_some,
    Option.some.injEq]

theorem firstAppearances_snoc (seen : List CrowdEvent) (front : List Evaluation) (e : Evaluation) :
    firstAppearances seen (front ++ [e]) = firstAppearances seen front ++
      if e.event ∈ seen ∨ e.event ∈ front.map Evaluation.event then [] else [e] := by
  induction front generalizing seen with
  | nil =>
    by_cases known : e.event ∈ seen <;> simp [firstAppearances, known]
  | cons first rest ih =>
    simp only [List.cons_append, firstAppearances, List.map_cons]
    by_cases known : first.event ∈ seen
    · rw [if_pos known, if_pos known, ih]
      congr 1
      refine if_congr ?_ rfl rfl
      constructor
      · exact fun h => h.imp id (List.mem_cons_of_mem _)
      · rintro (old | new)
        · exact Or.inl old
        · rcases List.mem_cons.mp new with same | later
          · exact Or.inl (same ▸ known)
          · exact Or.inr later
    · rw [if_neg known, if_neg known, ih, List.cons_append]
      congr 2
      refine if_congr ?_ rfl rfl
      rw [List.mem_cons, List.mem_cons, or_assoc, or_left_comm]

theorem evaluate_isSome (t : Option Tallied) (e : Evaluation) :
    ∃ t', Tallied.evaluate debounceSeconds t e = some t' := by
  unfold Tallied.evaluate
  cases t with
  | none => exact ⟨_, rfl⟩
  | some t =>
    by_cases near : Near debounceSeconds (t.occurrences.getD []) e
    · exact ⟨t, if_pos near⟩
    · exact ⟨_, if_neg near⟩

variable (debounceSeconds) in
theorem tallied_after {front : List Evaluation} (t : Option Tallied) (some_front : front ≠ []) :
    ∃ t', front.foldl (Tallied.evaluate debounceSeconds) t = some t' := by
  obtain ⟨init, last, rfl⟩ := (List.eq_nil_or_concat' front).resolve_left some_front
  rw [List.foldl_append]
  exact evaluate_isSome _ last

theorem evaluate_same_iff {t : Tallied} :
    Tallied.evaluate debounceSeconds (some t) e = some t ↔
      Near debounceSeconds (t.occurrences.getD []) e := by
  simp only [Tallied.evaluate]
  by_cases near : Near debounceSeconds (t.occurrences.getD []) e
  · simp [near]
  · rw [if_neg near]
    refine iff_of_false ?_ near
    intro same
    have count := congrArg Tallied.occurrenceCount (Option.some.inj same)
    exact Nat.succ_ne_self t.occurrenceCount count

theorem repeat_same_iff {front : List Evaluation}
    (same : SameAsOnce debounceSeconds zone ruleId alerts front)
    (known : e.event ∈ front.map Evaluation.event) :
    SameAsOnce debounceSeconds zone ruleId alerts (front ++ [e]) ↔
      ∃ before t, evaluateAll debounceSeconds zone ruleId alerts front = some before ∧
        tally zone before = some t ∧ Near debounceSeconds (t.occurrences.getD []) e := by
  obtain ⟨before, evaluated, told⟩ := evaluateAll_tally debounceSeconds zone ruleId alerts front
  have some_front : front ≠ [] := by
    rintro rfl
    cases known
  obtain ⟨t, tallied⟩ := tallied_after debounceSeconds (tally zone alerts) some_front
  rw [sameAsOnce_iff] at same ⊢
  rw [firstAppearances_snoc, if_pos (Or.inr known), List.append_nil, ← same, List.foldl_append,
    tallied]
  change Tallied.evaluate debounceSeconds (some t) e = some t ↔ _
  rw [evaluate_same_iff]
  constructor
  · intro near
    exact ⟨before, t, evaluated, told.trans tallied, near⟩
  · rintro ⟨before', t', evaluated', told', near⟩
    obtain rfl := Option.some.inj (evaluated.symm.trans evaluated')
    obtain rfl := Option.some.inj (told'.symm.trans (told.trans tallied))
    exact near

theorem new_same {front : List Evaluation}
    (same : SameAsOnce debounceSeconds zone ruleId alerts front)
    (unknown : e.event ∉ front.map Evaluation.event) :
    SameAsOnce debounceSeconds zone ruleId alerts (front ++ [e]) := by
  rw [sameAsOnce_iff] at same ⊢
  rw [firstAppearances_snoc, if_neg (by simpa using unknown), List.foldl_append, List.foldl_append,
    same]

/-- Evaluating events again changes nothing, at any point of a list of evaluations, exactly when each
    repeated one comes within the debounce period of an occurrence that is stored by then. -/
theorem reevaluation_changes_nothing_iff :
    (∀ front, front <+: evaluations → SameAsOnce debounceSeconds zone ruleId alerts front) ↔
      RepeatsNear debounceSeconds zone ruleId alerts evaluations := by
  constructor
  · intro all front e within known
    have before : front <+: evaluations := (List.prefix_append front [e]).trans within
    exact (repeat_same_iff (all front before) known).mp (all _ within)
  · intro near front
    induction front using List.reverseRecOn with
    | nil =>
      intro _
      rfl
    | append_singleton front e ih =>
      intro within
      have same := ih ((List.prefix_append front [e]).trans within)
      by_cases known : e.event ∈ front.map Evaluation.event
      · exact (repeat_same_iff same known).mpr (near front e within known)
      · exact new_same same known

end Tallies

section Scans

def seenTwice : List Evaluation := [⟨⟨1, 0⟩, 0, none⟩, ⟨⟨1, 0⟩, 60000, none⟩]

theorem rescan_counted : ¬ SameAsOnce 30 5 none [] seenTwice := by
  rw [sameAsOnce_iff]
  decide +kernel

end Scans
end Alerts
