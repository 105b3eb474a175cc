import MeetingPlatform.Transcripts.SpeakerMappings

/- Whether the names given to a transcript are found again after a rerun. Every point in time that was
   stored is looked up, those of corrected mappings included. -/
namespace Transcripts
open MeetingBooking Guards

section Resolve
variable {t : Transcript} {mapping : List (String × Resolution)} {label : String}

@[simp] theorem resolve_segment_label (s : StoredSegment) (resolved : Resolution) :
    (s.resolve resolved).speakerLabel = s.speakerLabel := by
  cases resolved <;> rfl

@[simp] theorem resolve_speaker_label (s : StoredSpeaker) (resolved : Resolution) :
    (s.resolve resolved).speakerLabel = s.speakerLabel := by
  cases resolved <;> rfl

@[simp] theorem resolveSegment_label (s : StoredSegment) :
    (resolveSegment mapping s).speakerLabel = s.speakerLabel := by
  unfold resolveSegment
  split
  · rfl
  · exact resolve_segment_label s _

theorem resolveSegment_outline (mapping : List (String × Resolution)) (s : StoredSegment) :
    (resolveSegment mapping s).startMs = s.startMs ∧ (resolveSegment mapping s).endMs = s.endMs := by
  unfold resolveSegment
  split
  · exact ⟨rfl, rfl⟩
  · rename_i resolved _
    cases resolved <;> exact ⟨rfl, rfl⟩

theorem readStored_apply : readStored (applyResolvedMappingsToTranscript t mapping) =
    (readStored t).map (resolveSegment mapping) := by
  rw [readStored, readStored, applyResolvedMappingsToTranscript]
  cases t.speakerSegmentsJson <;> rfl

theorem readSpeakers_apply : readSpeakers (applyResolvedMappingsToTranscript t mapping) =
    mapping.foldl (fun speakers e => resolveSpeaker e.1 e.2 speakers) (readSpeakers t) := rfl

def speakerOf (label : String) (speakers : List StoredSpeaker) : Option StoredSpeaker :=
  speakers.find? fun s => decide (s.speakerLabel = label)

theorem speakerOf_resolveSpeaker {other : String} {resolved : Resolution}
    (speakers : List StoredSpeaker) : speakerOf label (resolveSpeaker other resolved speakers) =
      if label = other then
        some (((speakerOf label speakers).getD (newSpeaker label)).resolve resolved)
      else speakerOf label speakers := by
  induction speakers with
  | nil =>
    rw [resolveSpeaker, speakerOf, List.find?_cons, resolve_speaker_label]
    by_cases same : label = other
    · subst same
      rw [if_pos rfl, decide_eq_true (show (newSpeaker label).speakerLabel = label from rfl)]
      rfl
    · have apart : ¬ (newSpeaker other).speakerLabel = label := fun equal => same equal.symm
      rw [if_neg same, decide_eq_false apart]
      rfl
  | cons s rest ih =>
    rw [resolveSpeaker]
    by_cases here : s.speakerLabel = other
    · rw [if_pos here, speakerOf, List.find?_cons, resolve_speaker_label, speakerOf, List.find?_cons]
      by_cases same : label = other
      · have found : s.speakerLabel = label := here.trans same.symm
        rw [if_pos same, decide_eq_true found]
        rfl
      · have apart : ¬ s.speakerLabel = label := fun equal => same (equal.symm.trans here)
        rw [if_neg same, decide_eq_false apart]
    · rw [if_neg here]
      simp only [speakerOf, List.find?_cons] at ih ⊢
      by_cases found : s.speakerLabel = label
      · have same : ¬ label = other := fun equal => here (found.trans equal)
        rw [decide_eq_true found, if_neg same]
      · rw [decide_eq_false found]
        exact ih

theorem speakerOf_apply (unique : (mapping.map Prod.fst).Nodup) (speakers : List StoredSpeaker) :
    speakerOf label (mapping.foldl (fun speakers e => resolveSpeaker e.1 e.2 speakers) speakers) =
      match OrderedMap.get mapping label with
      | none => speakerOf label speakers
      | some resolved => some (((speakerOf label speakers).getD (newSpeaker label)).resolve resolved) := by
  induction mapping generalizing speakers with
  | nil => rfl
  | cons e rest ih =>
    rw [List.map_cons, List.nodup_cons] at unique
    rw [List.foldl_cons, ih unique.2, OrderedMap.get_cons, speakerOf_resolveSpeaker]
    by_cases here : e.1 = label
    · have later : OrderedMap.get rest label = none := by
        rw [Option.eq_none_iff_forall_ne_some]
        intro resolved found
        have listed := List.mem_map_of_mem (f := Prod.fst) (OrderedMap.mem_of_get found)
        exact unique.1 (here ▸ listed)
      rw [later, if_pos here, if_pos here.symm]
    · rw [if_neg here, if_neg fun equal => here equal.symm]

end Resolve

section Points
variable {segments : List TranscriptSegment} {g : TranscriptSegment → TranscriptSegment}

/-- A change of segments that leaves their times and labels as they are. -/
def KeepsOutline (g : TranscriptSegment → TranscriptSegment) : Prop :=
  ∀ s, (g s).startMs = s.startMs ∧ (g s).endMs = s.endMs ∧ (g s).speakerLabel = s.speakerLabel

theorem longestSegment_map (keeps : KeepsOutline g) (first : TranscriptSegment)
    (rest : List TranscriptSegment) :
    longestSegment (g first) (rest.map g) = g (longestSegment first rest) := by
  induction rest generalizing first with
  | nil => rfl
  | cons b rest ih =>
    obtain ⟨start_first, end_first, -⟩ := keeps first
    obtain ⟨start_b, end_b, -⟩ := keeps b
    rw [List.map_cons, longestSegment, longestSegment, start_first, end_first, start_b, end_b,
      ← apply_ite g, ih]

theorem representativeOffsetMs_map (keeps : KeepsOutline g) (label : String) :
    representativeOffsetMs (segments.map g) label = representativeOffsetMs segments label := by
  have same_label : (fun s => decide (s.speakerLabel = label)) ∘ g =
      fun s => decide (s.speakerLabel = label) := by
    funext s
    rw [Function.comp_apply, (keeps s).2.2]
  rw [representativeOffsetMs, representativeOffsetMs, List.filter_map, same_label]
  cases segments.filter fun s => decide (s.speakerLabel = label) with
  | nil => rfl
  | cons first rest =>
    rw [List.map_cons]
    obtain ⟨start, stop, -⟩ := keeps (longestSegment first rest)
    simp only [longestSegment_map keeps, middle, start, stop]

/-- What a mapping does to the part of a segment that the worker has delivered. -/
def resolvePlain (mapping : List (String × Resolution)) (s : TranscriptSegment) : TranscriptSegment :=
  (resolveSegment mapping ⟨s, none, none⟩).toTranscriptSegment

theorem resolvePlain_keeps (mapping : List (String × Resolution)) :
    KeepsOutline (resolvePlain mapping) := by
  intro s
  obtain ⟨start, stop⟩ := resolveSegment_outline mapping ⟨s, none, none⟩
  exact ⟨start, stop, resolveSegment_label _⟩

theorem readSegments_apply {t : Transcript} {mapping : List (String × Resolution)} :
    readSegments (applyResolvedMappingsToTranscript t mapping) =
      (readSegments t).map (resolvePlain mapping) := by
  rw [readSegments, readSegments, readStored_apply, List.map_map, List.map_map]
  apply List.map_congr_left
  intro s _
  rw [Function.comp_apply, Function.comp_apply, resolvePlain, resolveSegment, resolveSegment]
  split
  · rename_i missing
    rw [show OrderedMap.get mapping s.toTranscriptSegment.speakerLabel = none from missing]
  · rename_i resolved found
    rw [show OrderedMap.get mapping s.toTranscriptSegment.speakerLabel = some resolved from found]
    cases resolved <;> rfl

end Points

section History

structure MappingRequest where
  context : MappingContext
  mappings : List SpeakerMappingItemDto

/-- Requests on one transcript one after the other, all of them successful. -/
def recordAll (startedAt : Int) :
    Transcript → List MappingRequest → Except MappingError (List MeetingEvent × Transcript)
  | t, [] => .ok ([], t)
  | t, r :: rest => do
    let done ← createSpeakerMappings (some t) (some startedAt) r.context r.mappings
    let later ← recordAll startedAt done.transcript rest
    return (done.events ++ later.1, later.2)

/-- The labels with the targets they were given, in the order of the requests. -/
def assigned (requests : List MappingRequest) : List (String × ResolvedMappingTarget) :=
  requests.flatMap fun r => resolvedByLabel r.mappings

def ResolvedMappingTarget.Valid (r : ResolvedMappingTarget) : Prop :=
  r.speakerUserId.isSome ≠ r.externalParticipantId.isSome

theorem identity_eq_iff {a b : ResolvedMappingTarget} (valid_a : a.Valid) (valid_b : b.Valid) :
    identityKeyOf a = identityKeyOf b ↔
      a.speakerUserId = b.speakerUserId ∧ a.externalParticipantId = b.externalParticipantId := by
  obtain ⟨user_a, external_a, name_a⟩ := a
  obtain ⟨user_b, external_b, name_b⟩ := b
  cases user_a <;> cases external_a <;> cases user_b <;> cases external_b <;>
    simp [ResolvedMappingTarget.Valid, identityKeyOf] at valid_a valid_b ⊢

/-- The part of a transcript that the requests on it leave as it is. -/
structure SameOutline (t u : Transcript) : Prop where
  meeting : u.meetingId = t.meetingId
  session : u.recordingSessionId = t.recordingSessionId
  segments : ∃ g, KeepsOutline g ∧ readSegments u = (readSegments t).map g

theorem sameOutline_refl (t : Transcript) : SameOutline t t where
  meeting := rfl
  session := rfl
  segments := ⟨id, fun _ => ⟨rfl, rfl, rfl⟩, (List.map_id _).symm⟩

theorem SameOutline.apply {t u : Transcript} (same : SameOutline t u)
    (mapping : List (String × Resolution)) :
    SameOutline t (applyResolvedMappingsToTranscript u mapping) := by
  obtain ⟨g, keeps, segments⟩ := same.segments
  refine ⟨same.meeting, same.session, resolvePlain mapping ∘ g, ?_, ?_⟩
  · intro s
    obtain ⟨start, stop, label⟩ := keeps s
    obtain ⟨start', stop', label'⟩ := resolvePlain_keeps mapping (g s)
    exact ⟨start'.trans start, stop'.trans stop, label'.trans label⟩
  · rw [readSegments_apply, segments, List.map_map]

theorem SameOutline.offset {t u : Transcript} (same : SameOutline t u) (label : String) :
    representativeOffsetMs (readSegments u) label = representativeOffsetMs (readSegments t) label := by
  obtain ⟨g, keeps, segments⟩ := same.segments
  rw [segments, representativeOffsetMs_map keeps]

/-- The events that stand for the given points. -/
structure Recorded (t : Transcript) (startedAt : Int) (points : List (String × ResolvedMappingTarget))
    (events : List MeetingEvent) : Prop where
  located : events.map (fun e => (some (e.eventTime - startedAt), e.target)) =
    points.map fun p => (representativeOffsetMs (readSegments t) p.1, p.2)
  posted : ∀ e ∈ events, e.meetingId = t.meetingId ∧ e.recordingSessionId = t.recordingSessionId ∧
    t.recordingSessionId ≠ none ∧ e.tagSource = .post
  valid : ∀ p ∈ points, p.2.Valid
  labelled : ∀ p ∈ points, ∃ s ∈ readSegments t, s.speakerLabel = p.1

theorem tagEvents_recorded {t u : Transcript} {recordingSessionId : Nat} {startedAt : Int}
    {userId : Nat} {points : List (String × ResolvedMappingTarget)} {events : List MeetingEvent}
    (same : SameOutline t u) (session : t.recordingSessionId = some recordingSessionId)
    (done : tagEvents u recordingSessionId startedAt userId points = .ok events) :
    events.map (fun e => (some (e.eventTime - startedAt), e.target)) =
        points.map (fun p => (representativeOffsetMs (readSegments t) p.1, p.2)) ∧
      ∀ e ∈ events, e.meetingId = t.meetingId ∧ e.recordingSessionId = t.recordingSessionId ∧
        t.recordingSessionId ≠ none ∧ e.tagSource = .post := by
  induction points generalizing events with
  | nil =>
    cases done
    exact ⟨rfl, fun e there => by cases there⟩
  | cons p rest ih =>
    obtain ⟨label, resolved⟩ := p
    simp only [tagEvents, computeRepresentativeEventTime, bind_eq_ok, expect_eq_ok,
      pure_eq_ok] at done
    obtain ⟨eventTime, ⟨offset, middle, rfl⟩, later, recorded, rfl⟩ := done
    obtain ⟨located, posted⟩ := ih recorded
    rw [same.offset] at middle
    constructor
    · have back : startedAt + offset - startedAt = offset := by omega
      rw [List.map_cons, List.map_cons, located, middle, back]
    · intro e there
      rcases List.mem_cons.mp there with rfl | old
      · exact ⟨same.meeting, session.symm, by rw [session]; exact Option.some_ne_none _, rfl⟩
      · exact posted e old

theorem mem_resolvedByLabel {mappings : List SpeakerMappingItemDto}
    {p : String × ResolvedMappingTarget} (there : p ∈ resolvedByLabel mappings) :
    ∃ m ∈ mappings, m.speakerLabel = p.1 ∧ m.target = p.2 := by
  have found := OrderedMap.get_of_mem OrderedMap.ofEntries_nodup there
  rw [OrderedMap.get_ofEntries] at found
  obtain ⟨m, listed, same⟩ := List.mem_map.mp (OrderedMap.mem_valuesOf.mp (List.mem_of_getLast? found))
  exact ⟨m, listed, congrArg Prod.fst same, congrArg Prod.snd same⟩

theorem create_recorded {t u : Transcript} {startedAt : Int} {r : MappingRequest} {done : Mapped}
    (same : SameOutline t u)
    (created : createSpeakerMappings (some u) (some startedAt) r.context r.mappings = .ok done) :
    Recorded t startedAt (resolvedByLabel r.mappings) done.events ∧ SameOutline t done.transcript := by
  simp only [createSpeakerMappings, checkMappings, bind_eq_ok, expect_eq_ok, require_eq_ok,
    pure_eq_ok] at created
  obtain ⟨w, read, ⟨recordingSessionId, began⟩, ⟨session, has_session, -, -, -, -, began', started, -,
    twofold, -, invalid, -, -, -, -, -, -, found⟩, events, tagged, rfl⟩ := created
  cases read
  cases started
  cases found
  have has_session := same.session.symm.trans has_session
  obtain ⟨located, posted⟩ := tagEvents_recorded same has_session tagged
  refine ⟨⟨located, posted, ?_, ?_⟩, same.apply _⟩
  · intro p there
    obtain ⟨m, listed, -, target⟩ := mem_resolvedByLabel there
    have once := List.find?_eq_none.mp twofold m listed
    rw [← target]
    exact fun equal => once (decide_eq_true equal)
  · intro p there
    obtain ⟨m, listed, label, -⟩ := mem_resolvedByLabel there
    have known : realLabel (readSegments u) m.speakerLabel = true := by
      have kept := List.filter_eq_nil_iff.mp invalid _ (List.mem_map_of_mem listed)
      simpa using kept
    rw [realLabel, decide_eq_true_eq] at known
    obtain ⟨s, segment, named⟩ := List.any_eq_true.mp known.2.2
    obtain ⟨g, keeps, segments⟩ := same.segments
    rw [segments] at segment
    obtain ⟨s', old, rfl⟩ := List.mem_map.mp segment
    exact ⟨s', old, ((keeps s').2.2.symm.trans (of_decide_eq_true named)).trans label⟩

theorem Recorded.append {t : Transcript} {startedAt : Int}
    {points more : List (String × ResolvedMappingTarget)} {events later : List MeetingEvent}
    (first : Recorded t startedAt points events) (second : Recorded t startedAt more later) :
    Recorded t startedAt (points ++ more) (events ++ later) where
  located := by rw [List.map_append, List.map_append, first.located, second.located]
  posted e there := (List.mem_append.mp there).elim (first.posted e) (second.posted e)
  valid p there := (List.mem_append.mp there).elim (first.valid p) (second.valid p)
  labelled p there := (List.mem_append.mp there).elim (first.labelled p) (second.labelled p)

theorem recordAll_recorded {t u v : Transcript} {startedAt : Int} {requests : List MappingRequest}
    {events : List MeetingEvent} (same : SameOutline t u)
    (recorded : recordAll startedAt u requests = .ok (events, v)) :
    Recorded t startedAt (assigned requests) events := by
  induction requests generalizing u events with
  | nil =>
    cases recorded
    constructor
    · rfl
    · intro e there
      cases there
    · intro p there
      cases there
    · intro p there
      cases there
  | cons r rest ih =>
    simp only [recordAll, bind_eq_ok, pure_eq_ok] at recorded
    obtain ⟨done, created, ⟨later, w⟩, more, equal⟩ := recorded
    cases equal
    obtain ⟨first, after⟩ := create_recorded same created
    exact first.append (ih after more)

end History

section Rerun

/-- The label that the point of another label is found under in a rerun. -/
def lands (segments : List TranscriptSegment) (label : String) : Option String :=
  ((representativeOffsetMs segments label).bind (segmentAt segments)).map (·.speakerLabel)

def lastAssigned (points : List (String × ResolvedMappingTarget)) (label : String) :
    Option ResolvedMappingTarget := (OrderedMap.valuesOf points label).getLast?

/-- Each point that was stored is found under a label whose last identity is the point's, or under
    none, and each label with a name is found at least once. -/
def FoundAgain (segments : List TranscriptSegment) (points : List (String × ResolvedMappingTarget)) :
    Prop :=
  (∀ p ∈ points, ∀ label ∈ lands segments p.1,
    ∃ last ∈ lastAssigned points label, identityKeyOf last = identityKeyOf p.2) ∧
  ∀ p ∈ points, ∃ q ∈ points, lands segments q.1 = some p.1

instance (segments : List TranscriptSegment) (points : List (String × ResolvedMappingTarget)) :
    Decidable (FoundAgain segments points) :=
  inferInstanceAs (Decidable (_ ∧ _))

/-- All segments of the label, and its speaker, show the identity. -/
structure Carries (t : Transcript) (label : String) (r : ResolvedMappingTarget) : Prop where
  segments : ∀ s ∈ readStored t, s.speakerLabel = label → s.userId = r.speakerUserId ∧
    s.mappedExternalParticipantId = r.externalParticipantId ∧ s.displayName ≠ none
  speaker : ∃ s, speakerOf label (readSpeakers t) = some s ∧ s.mappedUserId = r.speakerUserId ∧
    s.mappedExternalParticipantId = r.externalParticipantId ∧ s.mappingSource = .detected .manual

/-- The label is as the rerun has delivered it. -/
structure LeftAlone (before after : Transcript) (label : String) : Prop where
  segments : (readStored after).filter (fun s => decide (s.speakerLabel = label)) =
    (readStored before).filter fun s => decide (s.speakerLabel = label)
  speaker : speakerOf label (readSpeakers after) = speakerOf label (readSpeakers before)

def MappingsSurvive (rerun after : Transcript) (points : List (String × ResolvedMappingTarget)) : Prop :=
  ∀ label, match lastAssigned points label with
    | some last => Carries after label last
    | none => LeftAlone rerun after label

section Outcome
variable {u : Transcript} {result : TranscriptionResult} {mapping : List (String × Resolution)}
  {label : String} {r first : ResolvedMappingTarget}

theorem readStored_result : readStored (updateTranscriptResult u result) =
    result.segments.map TranscriptSegment.stored := rfl

theorem readSegments_result : readSegments (updateTranscriptResult u result) = result.segments := by
  rw [readSegments, readStored_result, List.map_map]
  exact List.map_id _

theorem left_alone {t : Transcript} (unique : (mapping.map Prod.fst).Nodup)
    (unresolved : OrderedMap.get mapping label = none) :
    LeftAlone t (applyResolvedMappingsToTranscript t mapping) label := by
  constructor
  · rw [readStored_apply, List.filter_map]
    have same_label : (fun s : StoredSegment => decide (s.speakerLabel = label)) ∘
        resolveSegment mapping = fun s => decide (s.speakerLabel = label) := by
      funext s
      rw [Function.comp_apply, resolveSegment_label]
    rw [same_label]
    refine (List.map_congr_left ?_).trans (List.map_id _)
    intro s there
    have named : s.speakerLabel = label := of_decide_eq_true (List.mem_filter.mp there).2
    rw [resolveSegment, named, unresolved]
    rfl
  · rw [readSpeakers_apply, speakerOf_apply unique, unresolved]

theorem carries_target_iff {t : Transcript} (unique : (mapping.map Prod.fst).Nodup)
    (resolved : OrderedMap.get mapping label = some (some first)) :
    Carries (applyResolvedMappingsToTranscript t mapping) label r ↔
      first.speakerUserId = r.speakerUserId ∧
        first.externalParticipantId = r.externalParticipantId := by
  have speaker : speakerOf label (readSpeakers (applyResolvedMappingsToTranscript t mapping)) =
      some (((speakerOf label (readSpeakers t)).getD (newSpeaker label)).resolve (some first)) := by
    rw [readSpeakers_apply, speakerOf_apply unique, resolved]
  constructor
  · intro carries
    obtain ⟨s, found, user, external, -⟩ := carries.speaker
    rw [speaker, Option.some.injEq] at found
    subst found
    exact ⟨user, external⟩
  · rintro ⟨user, external⟩
    refine ⟨?_, _, speaker, user, external, rfl⟩
    intro s there named
    rw [readStored_apply] at there
    obtain ⟨old, -, rfl⟩ := List.mem_map.mp there
    rw [resolveSegment_label] at named
    rw [resolveSegment, named, resolved]
    exact ⟨user, external, Option.some_ne_none _⟩

theorem conflict_carries_none {t : Transcript} (unique : (mapping.map Prod.fst).Nodup)
    (resolved : OrderedMap.get mapping label = some none) (valid : r.Valid) :
    ¬ Carries (applyResolvedMappingsToTranscript t mapping) label r := by
  intro carries
  obtain ⟨s, found, user, external, -⟩ := carries.speaker
  rw [readSpeakers_apply, speakerOf_apply unique, resolved] at found
  cases found
  apply valid
  rw [← user, ← external]
  rfl

theorem not_left_alone (unique : (mapping.map Prod.fst).Nodup) {resolution : Resolution}
    (resolved : OrderedMap.get mapping label = some resolution)
    (named : ∃ s ∈ result.segments, s.speakerLabel = label) :
    ¬ LeftAlone (updateTranscriptResult u result)
      (applyResolvedMappingsToTranscript (updateTranscriptResult u result) mapping) label := by
  intro alone
  cases resolution with
  | none =>
    have same := alone.speaker
    rw [readSpeakers_apply, speakerOf_apply unique, resolved] at same
    obtain ⟨d, -, stored⟩ := List.mem_map.mp (List.mem_of_find?_eq_some same.symm)
    have source := congrArg StoredSpeaker.mappingSource stored
    cases source
  | some first =>
    obtain ⟨s, there, label_s⟩ := named
    have after : resolveSegment mapping s.stored ∈
        (readStored (applyResolvedMappingsToTranscript (updateTranscriptResult u result) mapping)).filter
          fun s => decide (s.speakerLabel = label) := by
      rw [readStored_apply, List.mem_filter, resolveSegment_label]
      refine ⟨List.mem_map_of_mem (List.mem_map_of_mem there), decide_eq_true label_s⟩
    rw [alone.segments] at after
    obtain ⟨plain, -, same⟩ := List.mem_map.mp (List.mem_filter.mp after).1
    have shown := congrArg StoredSegment.displayName same
    have label_s : s.stored.speakerLabel = label := label_s
    rw [resolveSegment, label_s, resolved] at shown
    cases shown

theorem unlabelled_carries_none (unresolved : OrderedMap.get mapping label = none)
    (named : ∃ s ∈ result.segments, s.speakerLabel = label) :
    ¬ Carries (applyResolvedMappingsToTranscript (updateTranscriptResult u result) mapping) label r := by
  intro carries
  obtain ⟨s, there, label_s⟩ := named
  have stored : s.stored ∈ readStored
      (applyResolvedMappingsToTranscript (updateTranscriptResult u result) mapping) := by
    rw [readStored_apply]
    refine List.mem_map.mpr ⟨s.stored, List.mem_map_of_mem there, ?_⟩
    have label_s : s.stored.speakerLabel = label := label_s
    rw [resolveSegment, label_s, unresolved]
  exact (carries.segments s.stored stored label_s).2.2 rfl

end Outcome

section Lookup
variable {t u : Transcript} {startedAt : Int} {latestMarker : Option Int}
  {points : List (String × ResolvedMappingTarget)} {events events' : List MeetingEvent}

def landed (u : Transcript) (startedAt : Int) (latestMarker : Option Int)
    (events : List MeetingEvent) : List (String × ResolvedMappingTarget) :=
  ((events.filter fun e => decide (e.meetingId = u.meetingId)).filter (relevant u)).filterMap
    (landing u startedAt latestMarker)

def settled (entries : List (String × ResolvedMappingTarget)) : List (String × Resolution) :=
  (OrderedMap.group entries).map fun e => (e.1, settle e.2)

theorem settled_nodup (entries : List (String × ResolvedMappingTarget)) :
    ((settled entries).map Prod.fst).Nodup := by
  rw [settled, List.map_map]
  exact OrderedMap.group_nodup

theorem settle_cons (first : ResolvedMappingTarget) (rest : List ResolvedMappingTarget) :
    settle (first :: rest) = none ∧ (∃ r ∈ first :: rest, identityKeyOf r ≠ identityKeyOf first) ∨
      settle (first :: rest) = some first ∧ ∀ r ∈ first :: rest, identityKeyOf r = identityKeyOf first := by
  rw [settle]
  split
  · rename_i other
    obtain ⟨r, there, apart⟩ := List.any_eq_true.mp other
    exact Or.inl ⟨rfl, r, there, of_decide_eq_true apart⟩
  · rename_i none_other
    refine Or.inr ⟨rfl, fun r there => ?_⟩
    by_contra apart
    exact none_other (List.any_eq_true.mpr ⟨r, there, decide_eq_true apart⟩)

theorem settled_cases (entries : List (String × ResolvedMappingTarget)) (label : String) :
    (∀ r, (label, r) ∉ entries) ∧ OrderedMap.get (settled entries) label = none ∨
    (∃ a b, (label, a) ∈ entries ∧ (label, b) ∈ entries ∧ identityKeyOf a ≠ identityKeyOf b) ∧
      OrderedMap.get (settled entries) label = some none ∨
    ∃ first, (label, first) ∈ entries ∧
      (∀ r, (label, r) ∈ entries → identityKeyOf r = identityKeyOf first) ∧
      OrderedMap.get (settled entries) label = some (some first) := by
  rw [settled, OrderedMap.get_map, OrderedMap.get_group]
  cases values : OrderedMap.valuesOf entries label with
  | nil =>
    refine Or.inl ⟨?_, rfl⟩
    intro r there
    have listed := OrderedMap.mem_valuesOf.mpr there
    rw [values] at listed
    cases listed
  | cons first rest =>
    have member : ∀ r, (label, r) ∈ entries ↔ r ∈ first :: rest := fun r => by
      rw [← values, OrderedMap.mem_valuesOf]
    rw [if_neg (List.cons_ne_nil _ _), Option.map_some]
    rcases settle_cons first rest with ⟨conflict, r, there, apart⟩ | ⟨one, same⟩
    · refine Or.inr (Or.inl ⟨⟨r, first, (member r).mpr there, ?_, apart⟩, ?_⟩)
      · exact (member first).mpr List.mem_cons_self
      · rw [conflict]
    · refine Or.inr (Or.inr ⟨first, (member first).mpr List.mem_cons_self, ?_, ?_⟩)
      · intro r there
        exact same r ((member r).mp there)
      · rw [one]

theorem landing_post {e : MeetingEvent} (post : e.tagSource = .post) :
    landing u startedAt latestMarker e = (segmentAt (readSegments u) (e.eventTime - startedAt)).map
      fun s => (s.speakerLabel, e.target) := by
  rw [landing, eventOffset, post]
  cases found : segmentAt (readSegments u) (e.eventTime - startedAt) <;> simp [found]

theorem mem_landed (latestMarker : Option Int) (recorded : Recorded t startedAt points events) (perm : events'.Perm events)
    (meeting : u.meetingId = t.meetingId) (session : u.recordingSessionId = t.recordingSessionId)
    (outline : readSegments u = readSegments t) (label : String) (r : ResolvedMappingTarget) :
    (label, r) ∈ landed u startedAt latestMarker events' ↔
      ∃ p ∈ points, lands (readSegments t) p.1 = some label ∧ p.2 = r := by
  have pass : ∀ e ∈ events, e ∈ (events'.filter fun e => decide (e.meetingId = u.meetingId)).filter
      (relevant u) := by
    intro e there
    obtain ⟨same_meeting, same_session, -, -⟩ := recorded.posted e there
    refine List.mem_filter.mpr ⟨List.mem_filter.mpr ⟨perm.mem_iff.mpr there, ?_⟩, ?_⟩
    · exact decide_eq_true (same_meeting.trans meeting.symm)
    · exact decide_eq_true (Or.inl (same_session.trans session.symm))
  constructor
  · intro found
    obtain ⟨e, there, lands_here⟩ := List.mem_filterMap.mp found
    have there : e ∈ events :=
      perm.mem_iff.mp (List.mem_filter.mp (List.mem_filter.mp there).1).1
    obtain ⟨-, -, -, post⟩ := recorded.posted e there
    rw [landing_post post, outline] at lands_here
    obtain ⟨s, found_s, same⟩ := Option.map_eq_some_iff.mp lands_here
    have point : (some (e.eventTime - startedAt), e.target) ∈
        points.map fun p => (representativeOffsetMs (readSegments t) p.1, p.2) := by
      rw [← recorded.located]
      exact List.mem_map.mpr ⟨e, there, rfl⟩
    obtain ⟨p, listed, equal⟩ := List.mem_map.mp point
    obtain ⟨middle, target⟩ := Prod.mk.inj equal
    obtain ⟨named, aimed⟩ := Prod.mk.inj same
    refine ⟨p, listed, ?_, target.trans aimed⟩
    rw [lands, middle, Option.bind_some, found_s, Option.map_some, named]
  · rintro ⟨p, listed, lands_here, rfl⟩
    obtain ⟨s, found_s, named⟩ := Option.map_eq_some_iff.mp lands_here
    obtain ⟨offset, middle, inside⟩ := Option.bind_eq_some_iff.mp found_s
    have point : (representativeOffsetMs (readSegments t) p.1, p.2) ∈
        events.map fun e => (some (e.eventTime - startedAt), e.target) := by
      rw [recorded.located]
      exact List.mem_map.mpr ⟨p, listed, rfl⟩
    obtain ⟨e, there, equal⟩ := List.mem_map.mp point
    obtain ⟨located, target⟩ := Prod.mk.inj equal
    obtain ⟨-, -, -, post⟩ := recorded.posted e there
    have here : e.eventTime - startedAt = offset := Option.some.inj (located.trans middle)
    refine List.mem_filterMap.mpr ⟨e, pass e there, ?_⟩
    rw [landing_post post, outline, here, inside, Option.map_some, named, target]

end Lookup

section Survival
variable {t u v : Transcript} {result : TranscriptionResult} {startedAt : Int}
  {latestMarker : Option Int} {requests : List MappingRequest} {events events' : List MeetingEvent}

theorem apply_events_eq (recorded : ∀ e ∈ events', u.recordingSessionId ≠ none) :
    applySpeakerMappingsFromEvents (updateTranscriptResult u result) latestMarker (some startedAt)
        events' =
      applyResolvedMappingsToTranscript (updateTranscriptResult u result)
        (settled (landed (updateTranscriptResult u result) startedAt latestMarker events')) := by
  have nothing : applyResolvedMappingsToTranscript (updateTranscriptResult u result) [] =
      updateTranscriptResult u result := by
    rw [applyResolvedMappingsToTranscript]
    have same : (resultJson result).segments.map (resolveSegment []) = (resultJson result).segments :=
      (List.map_congr_left fun s _ => rfl).trans (List.map_id _)
    simp only [updateTranscriptResult, Option.getD_some, same]
    rfl
  unfold applySpeakerMappingsFromEvents
  cases session : (updateTranscriptResult u result).recordingSessionId with
  | none =>
    have empty : events' = [] := by
      rw [List.eq_nil_iff_forall_not_mem]
      intro e there
      exact recorded e there session
    subst empty
    exact nothing.symm
  | some id =>
    simp only [applyEvents]
    split
    · rename_i none_landed
      rw [landed, none_landed]
      exact nothing.symm
    · rfl

theorem last_of_mem {points : List (String × ResolvedMappingTarget)} {p : String × ResolvedMappingTarget}
    (there : p ∈ points) : ∃ last, lastAssigned points p.1 = some last ∧ (p.1, last) ∈ points := by
  have listed := OrderedMap.mem_valuesOf.mpr there
  have nonempty := List.ne_nil_of_mem listed
  refine ⟨_, List.getLast?_eq_some_getLast nonempty, ?_⟩
  exact OrderedMap.mem_valuesOf.mp (List.getLast_mem nonempty)

theorem mem_of_last {points : List (String × ResolvedMappingTarget)} {label : String}
    {last : ResolvedMappingTarget} (found : lastAssigned points label = some last) :
    (label, last) ∈ points := OrderedMap.mem_valuesOf.mp (List.mem_of_getLast? found)

section Entries
variable {points entries : List (String × ResolvedMappingTarget)}

/-- The entries are the identities of the points, each under the label that its point is found at. -/
structure Landing (result : TranscriptionResult)
    (points entries : List (String × ResolvedMappingTarget)) : Prop where
  valid : ∀ p ∈ points, p.2.Valid
  named : ∀ p ∈ points, ∃ s ∈ result.segments, s.speakerLabel = p.1
  lands_iff : ∀ label r, (label, r) ∈ entries ↔
    ∃ p ∈ points, lands result.segments p.1 = some label ∧ p.2 = r

theorem Landing.entry_valid (landing : Landing result points entries) {label : String}
    {r : ResolvedMappingTarget} (there : (label, r) ∈ entries) : r.Valid := by
  obtain ⟨p, listed, -, rfl⟩ := (landing.lands_iff label r).mp there
  exact landing.valid p listed

theorem Landing.entry_named (landing : Landing result points entries) {label : String}
    {r : ResolvedMappingTarget} (there : (label, r) ∈ entries) :
    ∃ s ∈ result.segments, s.speakerLabel = label := by
  obtain ⟨p, -, found, -⟩ := (landing.lands_iff label r).mp there
  obtain ⟨s, inside, rfl⟩ := Option.map_eq_some_iff.mp found
  obtain ⟨offset, -, at_offset⟩ := Option.bind_eq_some_iff.mp inside
  exact ⟨s, List.mem_of_find?_eq_some at_offset, rfl⟩

def Survive (u : Transcript) (result : TranscriptionResult)
    (points entries : List (String × ResolvedMappingTarget)) : Prop :=
  MappingsSurvive (updateTranscriptResult u result)
    (applyResolvedMappingsToTranscript (updateTranscriptResult u result) (settled entries)) points

theorem Landing.agrees (landing : Landing result points entries) (survive : Survive u result points entries)
    {label : String} {r : ResolvedMappingTarget} (listed : (label, r) ∈ entries) :
    ∃ last ∈ lastAssigned points label, identityKeyOf last = identityKeyOf r := by
  have unique := settled_nodup entries
  have outcome := survive label
  rcases settled_cases entries label with
    ⟨nothing, -⟩ | ⟨-, conflict⟩ | ⟨first, listed_first, same, target⟩
  · exact absurd listed (nothing r)
  · cases last : lastAssigned points label with
    | none =>
      rw [last] at outcome
      exact absurd outcome (not_left_alone unique conflict (landing.entry_named listed))
    | some shown =>
      rw [last] at outcome
      exact absurd outcome
        (conflict_carries_none unique conflict (landing.valid _ (mem_of_last last)))
  · cases last : lastAssigned points label with
    | none =>
      rw [last] at outcome
      exact absurd outcome (not_left_alone unique target (landing.entry_named listed))
    | some shown =>
      rw [last] at outcome
      have carried := (carries_target_iff unique target).mp outcome
      refine ⟨shown, rfl, ?_⟩
      rw [same r listed]
      exact ((identity_eq_iff (landing.entry_valid listed_first)
        (landing.valid _ (mem_of_last last))).mpr carried).symm

theorem Landing.hit (landing : Landing result points entries) (survive : Survive u result points entries)
    {p : String × ResolvedMappingTarget} (there : p ∈ points) :
    ∃ q ∈ points, lands result.segments q.1 = some p.1 := by
  obtain ⟨last, found, -⟩ := last_of_mem there
  have outcome := survive p.1
  rw [found] at outcome
  rcases settled_cases entries p.1 with ⟨-, unresolved⟩ | ⟨⟨a, -, listed, -⟩, -⟩ | ⟨a, listed, -⟩
  · exact absurd outcome (unlabelled_carries_none unresolved (landing.named p there))
  · obtain ⟨q, there_q, lands_here, -⟩ := (landing.lands_iff p.1 a).mp listed
    exact ⟨q, there_q, lands_here⟩
  · obtain ⟨q, there_q, lands_here, -⟩ := (landing.lands_iff p.1 a).mp listed
    exact ⟨q, there_q, lands_here⟩

theorem Landing.survives (landing : Landing result points entries)
    (again : FoundAgain result.segments points) : Survive u result points entries := by
  obtain ⟨agree, hit⟩ := again
  have unique := settled_nodup entries
  intro label
  have identity_of : ∀ r, (label, r) ∈ entries →
      ∃ last, lastAssigned points label = some last ∧ identityKeyOf last = identityKeyOf r := by
    intro r listed
    obtain ⟨p, there, found, rfl⟩ := (landing.lands_iff label r).mp listed
    exact agree p there label found
  cases last : lastAssigned points label with
  | none =>
    rcases settled_cases entries label with ⟨-, unresolved⟩ | ⟨⟨a, -, listed, -⟩, -⟩ | ⟨a, listed, -⟩
    · exact left_alone unique unresolved
    · obtain ⟨r, found, -⟩ := identity_of a listed
      rw [last] at found
      cases found
    · obtain ⟨r, found, -⟩ := identity_of a listed
      rw [last] at found
      cases found
  | some r =>
    have there : (label, r) ∈ points := mem_of_last last
    rcases settled_cases entries label with ⟨nothing, -⟩ | ⟨⟨a, b, listed_a, listed_b, apart⟩, -⟩ |
      ⟨first, listed, -, target⟩
    · obtain ⟨q, there_q, found⟩ := hit (label, r) there
      exact absurd ((landing.lands_iff label q.2).mpr ⟨q, there_q, found, rfl⟩) (nothing q.2)
    · obtain ⟨last_a, found_a, same_a⟩ := identity_of a listed_a
      obtain ⟨last_b, found_b, same_b⟩ := identity_of b listed_b
      rw [found_a, Option.some.injEq] at found_b
      rw [← found_b, same_a] at same_b
      exact absurd same_b apart
    · obtain ⟨last', found, same⟩ := identity_of first listed
      rw [last, Option.some.injEq] at found
      subst found
      apply (carries_target_iff unique target).mpr
      exact (identity_eq_iff (landing.entry_valid listed) (landing.valid _ there)).mp same.symm

theorem survive_entries_iff (landing : Landing result points entries) :
    Survive u result points entries ↔ FoundAgain result.segments points := by
  constructor
  · intro survive
    refine ⟨?_, fun p there => landing.hit survive there⟩
    intro p there label found
    exact landing.agrees survive ((landing.lands_iff label p.2).mpr ⟨p, there, found, rfl⟩)
  · exact landing.survives

end Entries

theorem mappings_survive_iff (latestMarker : Option Int)
    (recorded : recordAll startedAt (updateTranscriptResult t result) requests = .ok (events, v))
    (perm : events'.Perm events) (meeting : u.meetingId = t.meetingId)
    (session : u.recordingSessionId = t.recordingSessionId) :
    MappingsSurvive (updateTranscriptResult u result)
        (applySpeakerMappingsFromEvents (updateTranscriptResult u result) latestMarker
          (some startedAt) events') (assigned requests) ↔
      FoundAgain result.segments (assigned requests) := by
  have facts := recordAll_recorded (sameOutline_refl _) recorded
  have outline : readSegments (updateTranscriptResult u result) =
      readSegments (updateTranscriptResult t result) :=
    readSegments_result.trans readSegments_result.symm
  rw [apply_events_eq fun e there => session ▸ (facts.posted e (perm.mem_iff.mp there)).2.2.1]
  refine survive_entries_iff ⟨facts.valid, ?_, ?_⟩
  · intro p there
    have known := facts.labelled p there
    rwa [readSegments_result] at known
  · intro label r
    have found := mem_landed (u := updateTranscriptResult u result) latestMarker facts perm meeting
      session outline label r
    rwa [readSegments_result] at found

end Survival

section Runs

def mappingHost : MappingContext := ⟨⟨1, true, false⟩, [7, 8], []⟩

def twoVoices : TranscriptionResult :=
  ⟨[plainSegment "seg-0001" 0 1000 "a" "A", plainSegment "seg-0002" 1000 2000 "b" "B"], []⟩

def bothNamed : List MappingRequest :=
  [⟨mappingHost, [⟨"A", some 7, none, "An"⟩]⟩, ⟨mappingHost, [⟨"B", some 8, none, "Binh"⟩]⟩]

theorem mappings_survive_two : ∃ events v,
    recordAll 0 (updateTranscriptResult (newTranscript 1 1 1) twoVoices) bothNamed = .ok (events, v) ∧
      MappingsSurvive (updateTranscriptResult (newTranscript 1 1 2) twoVoices)
        (applySpeakerMappingsFromEvents (updateTranscriptResult (newTranscript 1 1 2) twoVoices) none
          (some 0) events) (assigned bothNamed) := by
  have accepted : ∃ done,
      recordAll 0 (updateTranscriptResult (newTranscript 1 1 1) twoVoices) bothNamed = .ok done := by
    decide +kernel
  obtain ⟨⟨events, v⟩, recorded⟩ := accepted
  refine ⟨events, v, recorded, ?_⟩
  have survive := mappings_survive_iff (u := newTranscript 1 1 2) none recorded (List.Perm.refl _)
    rfl rfl
  exact survive.mpr (by decide +kernel)

def voiceInside : TranscriptionResult :=
  ⟨[plainSegment "seg-0001" 0 1000 "a" "A", plainSegment "seg-0002" 400 600 "b" "B"], []⟩

def innerNamed : List MappingRequest := [⟨mappingHost, [⟨"B", some 8, none, "Binh"⟩]⟩]

def innerEvent : MeetingEvent := ⟨1, 500, 1, some 1, ⟨some 8, none, "Binh"⟩, .post⟩

theorem mapping_moves_to_outer_voice :
    ¬ ∀ (t u v : Transcript) (result : TranscriptionResult) (startedAt : Int)
      (latestMarker : Option Int) (requests : List MappingRequest) (events events' : List MeetingEvent),
      (∀ s ∈ result.segments, s.startMs < s.endMs) →
        recordAll startedAt (updateTranscriptResult t result) requests = .ok (events, v) →
          events'.Perm events → u.meetingId = t.meetingId →
            u.recordingSessionId = t.recordingSessionId →
              MappingsSurvive (updateTranscriptResult u result)
                (applySpeakerMappingsFromEvents (updateTranscriptResult u result) latestMarker
                  (some startedAt) events') (assigned requests) := by
  intro claimed
  have survive := claimed (newTranscript 1 1 1) (newTranscript 1 1 2) _ voiceInside 0 none innerNamed
    [innerEvent] [innerEvent] (by decide) rfl (List.Perm.refl _) rfl rfl "B"
  have last : lastAssigned (assigned innerNamed) "B" = some ⟨some 8, none, "Binh"⟩ := by
    decide +kernel
  rw [last] at survive
  have segment : (plainSegment "seg-0002" 400 600 "b" "B").stored ∈
      readStored (applySpeakerMappingsFromEvents (updateTranscriptResult (newTranscript 1 1 2)
        voiceInside) none (some 0) [innerEvent]) := by decide +kernel
  have shown := (survive.segments _ segment rfl).1
  cases shown

end Runs

end Rerun

end Transcripts
