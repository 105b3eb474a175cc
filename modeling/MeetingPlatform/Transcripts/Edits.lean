import MeetingPlatform.Transcripts.SpeakerMappings

/- Segments corrected by hand. A request reads the whole JSON of the segments, changes some fields of
   some segments in it, and writes the whole JSON back. -/
namespace Transcripts
open MeetingBooking Guards

section Requests

/-- A field that is absent stays as it is. A user can be set to nobody. -/
structure UpdateSegmentItemDto where
  segmentId : String
  text : Option String
  speakerLabel : Option String
  speakerUserId : Option (Option Nat)
  deriving DecidableEq, Repr

structure UpdateTranscriptSegmentsDto where
  segments : List UpdateSegmentItemDto
  revisionNote : Option String
  deriving DecidableEq, Repr

def segmentNotFound (id : String) : ApiError :=
  ⟨.notFound, "SEGMENT_NOT_FOUND", "Segment khong ton tai trong transcript: " ++ id,
    [("segmentId", .text id)]⟩

def readJson (t : Transcript) : SpeakerSegmentsJson := t.speakerSegmentsJson.getD emptyJson

/-- The place that the map `byId` gives for an id, which is the last one with it. -/
def findSegment (id : String) : List StoredSegment → Option Nat
  | [] => none
  | s :: rest =>
    match findSegment id rest with
    | some k => some (k + 1)
    | none => if s.segmentId = id then some 0 else none

def StoredSegment.edit (item : UpdateSegmentItemDto) (s : StoredSegment) : StoredSegment :=
  { s with
    text := item.text.getD s.text
    speakerLabel := item.speakerLabel.getD s.speakerLabel
    userId := item.speakerUserId.getD s.userId
    speakerSource := if item.speakerUserId.isSome then "manual" else s.speakerSource }

def editSegment (segments : List StoredSegment) (item : UpdateSegmentItemDto) : List StoredSegment :=
  match findSegment item.segmentId segments with
  | some k => segments.modify k (StoredSegment.edit item)
  | none => segments

def checkSegments (found : Option Transcript) (caller : Caller) (dto : UpdateTranscriptSegmentsDto) :
    Except ApiError Unit := do
  let t ← expect found transcriptNotFound
  assertHostOrAdmin caller "Chi Host hoac Admin duoc sua transcript."
  let missing := dto.segments.find? fun item =>
    (findSegment item.segmentId (readJson t).segments).isNone
  require (missing = none) (segmentNotFound ((missing.map (·.segmentId)).getD ""))

def editedJson (json : SpeakerSegmentsJson) (dto : UpdateTranscriptSegmentsDto) :
    SpeakerSegmentsJson :=
  { json with
    segments := dto.segments.foldl editSegment json.segments
    editRevisionNo := json.editRevisionNo + 1
    lastRevisionNote := dto.revisionNote }

structure UpdatedSegments where
  revisionNo : Nat
  updatedSegments : List String
  editedBy : Nat
  updatedAt : Nat
  deriving DecidableEq, Repr

def updatedSegments (json : SpeakerSegmentsJson) (dto : UpdateTranscriptSegmentsDto)
    (caller : Caller) (now : Nat) : UpdatedSegments :=
  ⟨json.editRevisionNo + 1, dto.segments.map (·.segmentId), caller.userId, now⟩

/-- The `UPDATE`, of three columns. -/
def writeSegments (t : Transcript) (json : SpeakerSegmentsJson) (caller : Caller) (now : Nat) :
    Transcript :=
  { t with
    speakerSegmentsJson := some json
    editedBy := some caller.userId
    editedAt := some now }

def mappedJson (json : SpeakerSegmentsJson) (mapping : List (String × Resolution)) :
    SpeakerSegmentsJson :=
  { json with segments := json.segments.map (resolveSegment mapping) }

end Requests

section Fields

inductive SegmentField where
  | text | speakerLabel | speakerSource | userId | mappedExternalParticipantId | displayName
  deriving DecidableEq, Repr

inductive FieldValue where
  | text (value : String)
  | id (value : Option Nat)
  | name (value : Option String)
  deriving DecidableEq, Repr

def StoredSegment.read (s : StoredSegment) : SegmentField → FieldValue
  | .text => .text s.text
  | .speakerLabel => .text s.speakerLabel
  | .speakerSource => .text s.speakerSource
  | .userId => .id s.userId
  | .mappedExternalParticipantId => .id s.mappedExternalParticipantId
  | .displayName => .name s.displayName

def StoredSegment.fixed (s : StoredSegment) : String × Int × Int × Bool × Bool :=
  (s.segmentId, s.startMs, s.endMs, s.lowConfidence, s.manualReviewRequired)

def cell (segments : List StoredSegment) (k : Nat) (f : SegmentField) : Option FieldValue :=
  segments[k]?.map fun s => s.read f

def UpdateSegmentItemDto.sets (item : UpdateSegmentItemDto) : SegmentField → Bool
  | .text => item.text.isSome
  | .speakerLabel => item.speakerLabel.isSome
  | .speakerSource | .userId => item.speakerUserId.isSome
  | .mappedExternalParticipantId | .displayName => false

def mappingFields : List SegmentField := [.userId, .mappedExternalParticipantId, .displayName]

theorem eq_of_read {s r : StoredSegment} (fixed : s.fixed = r.fixed) (same : ∀ f, s.read f = r.read f) :
    s = r := by
  have text := same .text
  have label := same .speakerLabel
  have source := same .speakerSource
  have user := same .userId
  have external := same .mappedExternalParticipantId
  have name := same .displayName
  obtain ⟨⟨_, _, _, _, _, _, _, _, _⟩, _, _⟩ := s
  obtain ⟨⟨_, _, _, _, _, _, _, _, _⟩, _, _⟩ := r
  simp only [StoredSegment.fixed, Prod.mk.injEq] at fixed
  simp only [StoredSegment.read, FieldValue.text.injEq, FieldValue.id.injEq, FieldValue.name.injEq]
    at text label source user external name
  obtain ⟨rfl, rfl, rfl, rfl, rfl⟩ := fixed
  subst text label source user external name
  rfl

theorem eq_of_cells {xs ys : List StoredSegment}
    (fixed : xs.map StoredSegment.fixed = ys.map StoredSegment.fixed)
    (same : ∀ k f, cell xs k f = cell ys k f) : xs = ys := by
  refine List.ext_getElem? ?_
  intro k
  have shape := congrArg (fun l => l[k]?) fixed
  simp only [List.getElem?_map] at shape
  have values := same k
  simp only [cell] at values
  cases hx : xs[k]? with
  | none =>
    cases hy : ys[k]? with
    | none => rfl
    | some r => simp [hx, hy] at shape
  | some s =>
    cases hy : ys[k]? with
    | none => simp [hx, hy] at shape
    | some r =>
      simp only [hx, hy, Option.map_some, Option.some.injEq] at shape values
      rw [eq_of_read shape values]

@[simp] theorem edit_fixed (item : UpdateSegmentItemDto) (s : StoredSegment) :
    (s.edit item).fixed = s.fixed := rfl

theorem edit_read {item : UpdateSegmentItemDto} (s : StoredSegment) {f : SegmentField}
    (unset : item.sets f = false) : (s.edit item).read f = s.read f := by
  cases f <;> simp_all [UpdateSegmentItemDto.sets, StoredSegment.read, StoredSegment.edit]

theorem findSegment_fixed (id : String) {xs ys : List StoredSegment}
    (same : xs.map StoredSegment.fixed = ys.map StoredSegment.fixed) :
    findSegment id xs = findSegment id ys := by
  induction xs generalizing ys with
  | nil =>
    rw [List.map_nil, eq_comm, List.map_eq_nil_iff] at same
    rw [same]
  | cons x xs ih =>
    cases ys with
    | nil => cases same
    | cons y ys =>
      obtain ⟨head, tail⟩ := List.cons.inj same
      have ids : x.segmentId = y.segmentId := congrArg Prod.fst head
      rw [findSegment, findSegment, ih tail, ids]

theorem editSegment_fixed (segments : List StoredSegment) (item : UpdateSegmentItemDto) :
    (editSegment segments item).map StoredSegment.fixed = segments.map StoredSegment.fixed := by
  rw [editSegment]
  split
  · rename_i k _
    refine List.ext_getElem? ?_
    intro j
    rw [List.getElem?_map, List.getElem?_map, List.getElem?_modify]
    cases segments[j]? with
    | none => rfl
    | some s =>
      by_cases here : k = j <;> simp [here]
  · rfl

theorem editSegment_cell {segments : List StoredSegment} {item : UpdateSegmentItemDto} {k : Nat}
    {f : SegmentField}
    (away : ¬ (findSegment item.segmentId segments = some k ∧ item.sets f = true)) :
    cell (editSegment segments item) k f = cell segments k f := by
  rw [editSegment]
  split
  · rename_i j found
    rw [cell, cell, List.getElem?_modify]
    by_cases here : j = k
    · subst here
      have unset : item.sets f = false := by
        rw [← Bool.not_eq_true]
        exact fun set => away ⟨found, set⟩
      cases segments[j]? with
      | none => rfl
      | some s => simp [edit_read s unset]
    · simp [here]
  · rfl

theorem edits_fixed (items : List UpdateSegmentItemDto) (segments : List StoredSegment) :
    (items.foldl editSegment segments).map StoredSegment.fixed = segments.map StoredSegment.fixed := by
  induction items generalizing segments with
  | nil => rfl
  | cons item items ih =>
    rw [List.foldl_cons, ih, editSegment_fixed]

theorem edits_cell {items : List UpdateSegmentItemDto} {segments : List StoredSegment} {k : Nat}
    {f : SegmentField}
    (away : ∀ item ∈ items, ¬ (findSegment item.segmentId segments = some k ∧ item.sets f = true)) :
    cell (items.foldl editSegment segments) k f = cell segments k f := by
  induction items generalizing segments with
  | nil => rfl
  | cons item items ih =>
    rw [List.foldl_cons, ih, editSegment_cell (away item (List.mem_cons.mpr (Or.inl rfl)))]
    intro later there
    rw [findSegment_fixed _ (editSegment_fixed segments item)]
    exact away later (List.mem_cons_of_mem _ there)

theorem resolveSegment_fixed (resolved : List (String × ResolvedMappingTarget)) (s : StoredSegment) :
    (resolveSegment (resolved.map fun e => (e.1, some e.2)) s).fixed = s.fixed := by
  rw [resolveSegment, OrderedMap.get_map]
  cases OrderedMap.get resolved s.speakerLabel <;> rfl

theorem resolveSegment_read {resolved : List (String × ResolvedMappingTarget)} {s : StoredSegment}
    {f : SegmentField}
    (away : ¬ ((OrderedMap.get resolved s.speakerLabel).isSome = true ∧ f ∈ mappingFields)) :
    (resolveSegment (resolved.map fun e => (e.1, some e.2)) s).read f = s.read f := by
  rw [resolveSegment, OrderedMap.get_map]
  cases found : OrderedMap.get resolved s.speakerLabel with
  | none => rfl
  | some target =>
    have other : f ∉ mappingFields := fun there => away ⟨by rw [found]; rfl, there⟩
    cases f with
    | text | speakerLabel | speakerSource => rfl
    | userId | mappedExternalParticipantId | displayName => exact absurd (by decide) other

end Fields

end Transcripts
