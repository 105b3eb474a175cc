import MeetingPlatform.Devices.RawEvents
import MeetingPlatform.Lib.Guards

/- Which shapes of the fields of a device event the normalization can bear. A path that runs into a text
   or a number, an object without a text and a number that is no date stop it, and the event is lost. -/
namespace DeviceEvents
open JsonValues Guards

section Lookup
variable {source v : Json} {key : Key} {keys : List Key}

def valueAt : Json → Key → Option Json
  | current, [] => some current
  | .obj fields, part :: parts => (fields.lookup part).bind fun v => valueAt v parts
  | _, _ :: _ => none

/-- The path goes on in a value that is neither an object nor an array nor `null`. -/
def Blocked : Json → Key → Prop
  | _, [] => False
  | .obj fields, part :: parts => ∃ v ∈ fields.lookup part, Blocked v parts
  | .null, _ :: _ | .arr _, _ :: _ => False
  | .bool _, _ :: _ | .num _, _ :: _ | .str _, _ :: _ => True

def UsableAt (source : Json) (key : Key) : Prop := ∃ v ∈ valueAt source key, usable v = true

def firstValue (source : Json) (keys : List Key) : Json :=
  ((keys.filterMap (valueAt source)).find? usable).getD .null

def Unblocked (source : Json) (keys : List Key) : Prop :=
  ∀ earlier key later, keys = earlier ++ key :: later → (∀ k ∈ earlier, ¬ UsableAt source k) →
    ¬ Blocked source key

theorem follow_blocked (blocked : Blocked source key) : follow source key = .error .typeError := by
  induction key generalizing source with
  | nil => exact blocked.elim
  | cons part parts ih =>
    cases source with
    | null => exact blocked.elim
    | arr elements => exact blocked.elim
    | bool b => rfl
    | num n => rfl
    | str s => rfl
    | obj fields =>
      obtain ⟨v, found, later⟩ := blocked
      rw [follow, Option.mem_def.mp found]
      exact ih later

theorem follow_free (free : ¬ Blocked source key) : follow source key = .ok (valueAt source key) := by
  induction key generalizing source with
  | nil =>
    rw [valueAt]
    cases source <;> rfl
  | cons part parts ih =>
    cases source with
    | null => rfl
    | arr elements => rfl
    | bool b => exact absurd trivial free
    | num n => exact absurd trivial free
    | str s => exact absurd trivial free
    | obj fields =>
      rw [follow, valueAt]
      cases found : fields.lookup part with
      | none => rfl
      | some v => exact ih fun blocked => free ⟨v, found, blocked⟩

theorem unblocked_cons : Unblocked source (key :: keys) ↔
    ¬ Blocked source key ∧ (¬ UsableAt source key → Unblocked source keys) := by
  constructor
  · intro unblocked
    refine ⟨unblocked [] key keys rfl (by simp), ?_⟩
    intro unusable earlier k later split none_before
    refine unblocked (key :: earlier) k later (congrArg _ split) ?_
    rw [List.forall_mem_cons]
    exact ⟨unusable, none_before⟩
  · rintro ⟨free, rest⟩ earlier k later split none_before
    cases earlier with
    | nil =>
      cases split
      exact free
    | cons first earlier =>
      cases split
      rw [List.forall_mem_cons] at none_before
      exact rest none_before.1 earlier k later rfl none_before.2

theorem extractField_free (unblocked : Unblocked source keys) :
    extractField source keys = .ok (firstValue source keys) := by
  induction keys with
  | nil => rfl
  | cons key keys ih =>
    obtain ⟨free, rest⟩ := unblocked_cons.mp unblocked
    rw [extractField, follow_free free, firstValue]
    cases found : valueAt source key with
    | none =>
      rw [List.filterMap_cons_none found]
      refine ih (rest ?_)
      rintro ⟨v, there, -⟩
      cases found.symm.trans there
    | some v =>
      rw [List.filterMap_cons_some found]
      dsimp only
      cases use : usable v with
      | true =>
        rw [List.find?_cons_of_pos use]
        rfl
      | false =>
        rw [List.find?_cons_of_neg (by rw [use]; exact Bool.false_ne_true)]
        refine ih (rest ?_)
        rintro ⟨w, there, used⟩
        cases found.symm.trans there
        cases use.symm.trans used

theorem extractField_blocked (blocked : ¬ Unblocked source keys) :
    ∃ e, extractField source keys = .error e := by
  induction keys with
  | nil =>
    refine absurd ?_ blocked
    intro earlier key later split
    cases earlier <;> cases split
  | cons key keys ih =>
    rw [extractField]
    by_cases free : Blocked source key
    · rw [follow_blocked free]
      exact ⟨_, rfl⟩
    · rw [unblocked_cons, not_and] at blocked
      have later := blocked free
      rw [Classical.not_imp] at later
      obtain ⟨unusable, rest⟩ := later
      rw [follow_free free]
      cases found : valueAt source key with
      | none => exact ih rest
      | some v =>
        dsimp only
        rw [if_neg fun use => unusable ⟨v, found, use⟩]
        exact ih rest

theorem extractField_ok_iff : (∃ v, extractField source keys = .ok v) ↔ Unblocked source keys := by
  constructor
  · rintro ⟨v, found⟩
    by_contra blocked
    obtain ⟨e, error⟩ := extractField_blocked blocked
    cases found.symm.trans error
  · intro unblocked
    exact ⟨_, extractField_free unblocked⟩

end Lookup

section Dates
variable {t : Texts} {v : Json}

def Representable (t : Texts) (v : Json) : Prop :=
  ∀ numVal, v.number t = .ok (some numVal) → (numericDate numVal).isSome

/-- The instant that is found in the value, as seconds, milliseconds or the text of a date. -/
def payloadTime (t : Texts) (v : Json) : Option Int :=
  if v.truthy then
    match v.number t with
    | .ok (some numVal) => numericDate numVal
    | .ok none => (v.date t).toOption.join
    | .error _ => none
  else none

theorem similarityOf_ok_iff : (∃ s, similarityOf t v = .ok s) ↔ v.Convertible := by
  by_cases none : v = .null
  · rw [none]
    exact iff_of_true ⟨_, rfl⟩ .null
  · have same : similarityOf t v = v.number t := by
      cases v with
      | null => exact absurd rfl none
      | _ => rfl
    rw [same]
    exact number_ok_iff v

theorem readDate_cases (v : Json) :
    (v.truthy = false ∧ readDate t v = .ok none) ∨
      (v.truthy = true ∧ (∃ e, readDate t v = .error e) ∧ ¬ v.Convertible) ∨
      (v.truthy = true ∧ ∃ n, v.number t = .ok (some n) ∧ readDate t v = .ok (some (numericDate n))) ∨
      (v.truthy = true ∧ v.number t = .ok none ∧
        ∃ date, v.date t = .ok date ∧ readDate t v = .ok (date.map some)) := by
  unfold readDate
  cases truthy : v.truthy with
  | false => exact Or.inl ⟨rfl, rfl⟩
  | true =>
    refine Or.inr ?_
    cases number : v.number t with
    | error e =>
      refine Or.inl ⟨rfl, ⟨e, rfl⟩, ?_⟩
      intro convertible
      obtain ⟨n, ok⟩ := (number_ok_iff (t := t) v).mpr convertible
      cases number.symm.trans ok
    | ok numVal =>
      refine Or.inr ?_
      cases numVal with
      | some n => exact Or.inl ⟨rfl, n, rfl, rfl⟩
      | none =>
        have convertible := (number_ok_iff v).mp ⟨_, number⟩
        obtain ⟨s, text⟩ := (text_ok_iff (t := t) v).mpr convertible
        have date : v.date t = .ok (t.date s) := by rw [Json.date, text, Except.map]
        refine Or.inr ⟨rfl, rfl, t.date s, date, ?_⟩
        simp only [date, if_true]
        rfl

variable {stored requestReceivedAt : Int}

theorem parse_tolerated (borne : v.truthy = true → v.Convertible ∧ Representable t v) :
    parseTolerantDate t v (some stored) requestReceivedAt = .ok (some ((payloadTime t v).getD stored)) := by
  unfold parseTolerantDate payloadTime
  rcases readDate_cases (t := t) v with ⟨falsy, read⟩ | ⟨truthy, -, lost⟩ | ⟨truthy, n, number, read⟩ |
      ⟨truthy, number, date, found, read⟩
  · rw [read, falsy]
    rfl
  · exact absurd (borne truthy).1 lost
  · obtain ⟨instant, some_date⟩ := Option.isSome_iff_exists.mp ((borne truthy).2 n number)
    simp only [read, truthy, number, some_date, if_true]
    rfl
  · simp only [read, truthy, number, found, if_true]
    cases date <;> rfl

theorem borne_of_parsed {date : Option Int} {instant : Int}
    (parsed : parseTolerantDate t v (some stored) requestReceivedAt = .ok date)
    (written : toISOString date = .ok instant) :
    v.truthy = true → v.Convertible ∧ Representable t v := by
  intro is_truthy
  unfold parseTolerantDate at parsed
  rcases readDate_cases (t := t) v with ⟨falsy, read⟩ | ⟨truthy, ⟨e, read⟩, lost⟩ |
      ⟨truthy, n, number, read⟩ | ⟨truthy, number, -⟩
  · cases falsy.symm.trans is_truthy
  · rw [read] at parsed
    cases parsed
  · refine ⟨(number_ok_iff v).mp ⟨_, number⟩, ?_⟩
    rw [read] at parsed
    have same : numericDate n = date := Except.ok.inj parsed
    intro numVal again
    cases number.symm.trans again
    rw [same]
    cases date with
    | none => cases written
    | some instant => rfl
  · refine ⟨(number_ok_iff v).mp ⟨_, number⟩, ?_⟩
    intro numVal again
    cases number.symm.trans again

end Dates

section Events
variable {t : Texts} {message : JsError → String} {event : IoTDeviceEvent} {stored now : Int}

structure Borne (t : Texts) (event : IoTDeviceEvent) : Prop where
  ids : Unblocked event.source devicePersonIdKeys
  names : Unblocked event.source devicePersonNameKeys
  codes : Unblocked event.source devicePersonCodeKeys
  similarities : Unblocked event.source similarityKeys
  times : Unblocked event.source eventTimeKeys
  similarity : (firstValue event.source similarityKeys).Convertible
  time : (firstValue event.source eventTimeKeys).truthy = true →
    (firstValue event.source eventTimeKeys).Convertible ∧
      Representable t (firstValue event.source eventTimeKeys)

/-- The event is processed, and has the time of the payload where that is one of a date. -/
def Normalized (t : Texts) (event : IoTDeviceEvent) (stored : Int) (result : NormalizeResult) : Prop :=
  ∃ row normalizedEvent, result = .saved row ∧ row.processedStatus = .processed ∧
    row.payloadJson.normalizedEvent = some normalizedEvent ∧
    normalizedEvent.eventTime = (payloadTime t (firstValue event.source eventTimeKeys)).getD stored

theorem build_borne (borne : Borne t event) (valid : event.eventTime = some stored) :
    ∃ normalizedEvent, buildNormalizedEvent t event now = .ok normalizedEvent ∧
      normalizedEvent.eventTime =
        (payloadTime t (firstValue event.source eventTimeKeys)).getD stored := by
  obtain ⟨similarity, converted⟩ := (similarityOf_ok_iff (t := t)).mpr borne.similarity
  simp only [buildNormalizedEvent, extractField_free borne.ids, extractField_free borne.names,
    extractField_free borne.codes, extractField_free borne.similarities,
    extractField_free borne.times, valid, bind, Except.bind, converted, parse_tolerated borne.time]
  exact ⟨_, rfl, rfl⟩

theorem borne_of_built {normalizedEvent : NormalizedEvent} (valid : event.eventTime = some stored)
    (built : buildNormalizedEvent t event now = .ok normalizedEvent) : Borne t event := by
  simp only [buildNormalizedEvent, bind_eq_ok, valid] at built
  obtain ⟨_, ids, _, names, _, codes, similarityVal, similarities, _, similarity, timeVal, times, date,
    parsed, instant, written, -⟩ := built
  have free_similarities := extractField_ok_iff.mp ⟨_, similarities⟩
  have free_times := extractField_ok_iff.mp ⟨_, times⟩
  rw [extractField_free free_similarities] at similarities
  rw [extractField_free free_times] at times
  cases similarities
  cases times
  exact {
    ids := extractField_ok_iff.mp ⟨_, ids⟩
    names := extractField_ok_iff.mp ⟨_, names⟩
    codes := extractField_ok_iff.mp ⟨_, codes⟩
    similarities := free_similarities
    times := free_times
    similarity := similarityOf_ok_iff.mp ⟨_, similarity⟩
    time := borne_of_parsed parsed written }

/-- A stored event of a face is processed with the right time exactly when its fields can be borne. -/
theorem normalized_iff (received : event.processedStatus = .received)
    (face : event.eventType = .faceVerify ∨ event.eventType = .faceStranger)
    (valid : event.eventTime = some stored) :
    Normalized t event stored (normalizeRawEvent t message (some event) now) ↔ Borne t event := by
  have supported : ¬ (event.eventType ≠ .faceVerify ∧ event.eventType ≠ .faceStranger) := by
    rintro ⟨not_verify, not_stranger⟩
    exact face.elim not_verify not_stranger
  rw [normalizeRawEvent, if_neg (not_not.mpr received), if_neg supported]
  constructor
  · rintro ⟨row, normalizedEvent, saved, processed, -⟩
    cases built : buildNormalizedEvent t event now with
    | ok normalizedEvent => exact borne_of_built valid built
    | error e =>
      rw [built] at saved
      cases saved
      cases processed
  · intro borne
    obtain ⟨normalizedEvent, built, time⟩ := build_borne borne valid
    rw [built]
    exact ⟨_, normalizedEvent, rfl, rfl, rfl, time⟩

def storedEvent (sample : Fields) : IoTDeviceEvent :=
  { id := 1
    deviceId := 7
    eventType := .faceVerify
    eventTime := some 1780416000000
    payloadJson := { rawPayloadSample := some sample }
    processedStatus := .received }

def textData : Fields := [("data", .str "ok")]

theorem text_data_fails : ¬ ∀ (t : Texts) (message : JsError → String) (event : IoTDeviceEvent)
    (stored now : Int), event.processedStatus = .received →
    event.eventType = .faceVerify ∨ event.eventType = .faceStranger → event.eventTime = some stored →
    Normalized t event stored (normalizeRawEvent t message (some event) now) := by
  intro claimed
  obtain ⟨row, normalizedEvent, saved, processed, -⟩ := claimed ⟨fun _ => none, fun _ => "", fun _ => none⟩
    (fun _ => "Cannot use 'in' operator") (storedEvent textData) 1780416000000 1780416001000 rfl
    (Or.inl rfl) rfl
  have failed : normalizeRawEvent ⟨fun _ => none, fun _ => "", fun _ => none⟩
      (fun _ => "Cannot use 'in' operator") (some (storedEvent textData)) 1780416001000 =
      .saved { storedEvent textData with
        processedStatus := .failed
        errorMessage := some "Cannot use 'in' operator" } := rfl
  rw [failed] at saved
  cases saved
  cases processed

def unreadableTime : Fields :=
  [("data", .obj [("person_id", .str "E1")]), ("time", .str "yesterday"), ("score", .null)]

theorem unreadable_time_borne :
    Normalized ⟨fun _ => none, fun _ => "", fun _ => none⟩ (storedEvent unreadableTime) 1780416000000
      (normalizeRawEvent ⟨fun _ => none, fun _ => "", fun _ => none⟩ (fun _ => "")
        (some (storedEvent unreadableTime)) 1780416001000) := by
  have looked : ∀ keys, (∃ v, extractField (storedEvent unreadableTime).source keys = .ok v) →
      Unblocked (storedEvent unreadableTime).source keys := fun _ => extractField_ok_iff.mp
  exact (normalized_iff rfl (Or.inl rfl) rfl).mpr {
    ids := looked _ ⟨.str "E1", rfl⟩
    names := looked _ ⟨.null, rfl⟩
    codes := looked _ ⟨.null, rfl⟩
    similarities := looked _ ⟨.null, rfl⟩
    times := looked _ ⟨.str "yesterday", rfl⟩
    similarity := .null
    time := fun _ => ⟨.str "yesterday", by rintro n ⟨⟩⟩ }

end Events

end DeviceEvents
