import MeetingPlatform.Lib.CallPool
import MeetingPlatform.Transcripts.Edits

/- Edits of one transcript by calls that run at the same time. Each reads the row first and writes
   later what it has made of it, so that a write can take back what others wrote in between. -/
namespace Transcripts
open LabelledRuns CallPools MeetingBooking Guards

section Calls

inductive EditRequest where
  | updateTranscriptSegments (caller : Caller) (dto : UpdateTranscriptSegmentsDto)
  | createSpeakerMappings (startedAt : Option Int) (context : MappingContext)
      (mappings : List SpeakerMappingItemDto)

def EditRequest.Accepted (r : EditRequest) (t : Transcript) : Prop :=
  match r with
  | .updateTranscriptSegments caller dto => ∃ u, checkSegments (some t) caller dto = .ok u
  | .createSpeakerMappings startedAt context mappings =>
    ∃ mapped, Transcripts.createSpeakerMappings (some t) startedAt context mappings = .ok mapped

instance (r : EditRequest) (t : Transcript) : Decidable (r.Accepted t) :=
  match r with
  | .updateTranscriptSegments _ _ => decidableAccepts _
  | .createSpeakerMappings _ _ _ => decidableAccepts _

def requestedMapping (mappings : List SpeakerMappingItemDto) : List (String × Resolution) :=
  (resolvedByLabel mappings).map fun e => (e.1, some e.2)

def EditRequest.json (r : EditRequest) (seen : SpeakerSegmentsJson) : SpeakerSegmentsJson :=
  match r with
  | .updateTranscriptSegments _ dto => editedJson seen dto
  | .createSpeakerMappings _ _ mappings => mappedJson seen (requestedMapping mappings)

/-- The write. An update sets its columns, whereas `save` loads the row again and puts back every
    column in which the transcript read before is not the same. -/
def EditRequest.write (r : EditRequest) (seen current : Transcript) (now : Nat) : Transcript :=
  match r with
  | .updateTranscriptSegments caller dto =>
    writeSegments current (editedJson (readJson seen) dto) caller now
  | .createSpeakerMappings _ _ mappings =>
    saveTranscript (applyResolvedMappingsToTranscript seen (requestedMapping mappings)) current current

def EditRequest.response (r : EditRequest) (seen : Transcript) (now : Nat) : Option UpdatedSegments :=
  match r with
  | .updateTranscriptSegments caller dto => some (updatedSegments (readJson seen) dto caller now)
  | .createSpeakerMappings _ _ _ => none

/-- A call that has ended with success: the JSON it had read, and what an update responded. -/
structure FinishedEdit where
  request : EditRequest
  seen : SpeakerSegmentsJson
  response : Option UpdatedSegments

structure EditDesk where
  transcript : Transcript
  finished : List FinishedEdit

inductive EditCall where
  | reading (r : EditRequest)
  | writing (r : EditRequest) (seen : Transcript)

def EditDesk.access (d : EditDesk) (now : Nat) : EditCall → EditDesk × Option EditCall
  | .reading r => (d, if r.Accepted d.transcript then some (.writing r d.transcript) else none)
  | .writing r seen =>
    (⟨r.write seen d.transcript now,
      d.finished ++ [⟨r, readJson seen, r.response seen now⟩]⟩, none)

def editService : Service EditDesk EditCall EditRequest where
  clock _ := 0
  admits _ _ := True
  enter _ r := .reading r
  act now c d := d.access now c

instance (d : EditDesk) (r : EditRequest) : Decidable (editService.admits d r) :=
  inferInstanceAs (Decidable True)

@[simp] theorem readJson_write (r : EditRequest) (seen current : Transcript) (now : Nat) :
    readJson (r.write seen current now) = r.json (readJson seen) := by
  cases r with
  | updateTranscriptSegments caller dto => rfl
  | createSpeakerMappings startedAt context mappings =>
    rw [EditRequest.write, saveTranscript_at_once]
    rfl

theorem mapped_transcript {t : Transcript} {startedAt : Option Int} {context : MappingContext}
    {mappings : List SpeakerMappingItemDto} {mapped : Mapped}
    (ok : createSpeakerMappings (some t) startedAt context mappings = .ok mapped) (now : Nat) :
    mapped.transcript =
      (EditRequest.createSpeakerMappings startedAt context mappings).write t t now := by
  simp only [createSpeakerMappings, bind_eq_ok, expect_eq_ok, Option.some.injEq, pure_eq_ok] at ok
  obtain ⟨_, rfl, _, _, _, _, rfl⟩ := ok
  rw [EditRequest.write, saveTranscript_at_once]
  rfl

end Calls

section Touched

abbrev Cell := Nat × SegmentField

def allFields : List SegmentField :=
  [.text, .speakerLabel, .speakerSource, .userId, .mappedExternalParticipantId, .displayName]

def UpdateSegmentItemDto.touched (item : UpdateSegmentItemDto) (segments : List StoredSegment) :
    List Cell :=
  match findSegment item.segmentId segments with
  | some k => (allFields.filter item.sets).map fun f => (k, f)
  | none => []

/-- The fields of segments that a request sets. -/
def EditRequest.touched (r : EditRequest) (segments : List StoredSegment) : List Cell :=
  match r with
  | .updateTranscriptSegments _ dto => dto.segments.flatMap fun item => item.touched segments
  | .createSpeakerMappings _ _ mappings =>
    (segments.zipIdx.filter fun s =>
      (OrderedMap.get (resolvedByLabel mappings) s.1.speakerLabel).isSome).flatMap
        fun s => mappingFields.map fun f => (s.2, f)

def FinishedEdit.touched (e : FinishedEdit) : List Cell := e.request.touched e.seen.segments

def FinishedEdit.Apart (e d : FinishedEdit) : Prop := ∀ c ∈ e.touched, c ∉ d.touched

instance (e d : FinishedEdit) : Decidable (e.Apart d) :=
  inferInstanceAs (Decidable (∀ c ∈ e.touched, c ∉ d.touched))

theorem mem_allFields (f : SegmentField) : f ∈ allFields := by cases f <;> decide

theorem json_fixed (r : EditRequest) (json : SpeakerSegmentsJson) :
    (r.json json).segments.map StoredSegment.fixed = json.segments.map StoredSegment.fixed := by
  cases r with
  | updateTranscriptSegments caller dto => exact edits_fixed dto.segments json.segments
  | createSpeakerMappings startedAt context mappings =>
    rw [EditRequest.json, mappedJson, List.map_map]
    refine List.map_congr_left ?_
    intro s _
    exact resolveSegment_fixed _ s

theorem json_cell (r : EditRequest) (json : SpeakerSegmentsJson) {k : Nat} {f : SegmentField}
    (away : (k, f) ∉ r.touched json.segments) :
    cell (r.json json).segments k f = cell json.segments k f := by
  cases r with
  | updateTranscriptSegments caller dto =>
    refine edits_cell ?_
    rintro item there ⟨found, set⟩
    refine away (List.mem_flatMap.mpr ⟨item, there, ?_⟩)
    rw [UpdateSegmentItemDto.touched, found]
    exact List.mem_map.mpr ⟨f, List.mem_filter.mpr ⟨mem_allFields f, set⟩, rfl⟩
  | createSpeakerMappings startedAt context mappings =>
    rw [EditRequest.json, mappedJson, cell, cell, List.getElem?_map]
    cases here : json.segments[k]? with
    | none => rfl
    | some s =>
      refine congrArg some (resolveSegment_read ?_)
      rintro ⟨mapped, set⟩
      refine away (List.mem_flatMap.mpr ⟨(s, k), ?_, List.mem_map.mpr ⟨f, set, rfl⟩⟩)
      exact List.mem_filter.mpr ⟨List.mem_zipIdx_iff_getElem?.mpr here, mapped⟩

end Touched

section Kept

def revisions (finished : List FinishedEdit) : List Nat :=
  finished.filterMap fun e => e.response.map UpdatedSegments.revisionNo

/-- Every finished call's change is in the segments, and the revisions count the updates. -/
structure EditsKept (d : EditDesk) : Prop where
  changes : ∀ e ∈ d.finished, ∀ c ∈ e.touched,
    cell (readJson d.transcript).segments c.1 c.2 = cell (e.request.json e.seen).segments c.1 c.2
  counted : (readJson d.transcript).editRevisionNo = (revisions d.finished).length
  different : (revisions d.finished).Nodup

/-- The JSON that a call writes back changed is still the stored one. -/
def Fresh (d : EditDesk) (_ : Nat) : EditCall → Prop
  | .reading _ => True
  | .writing _ seen => readJson seen = readJson d.transcript

instance (d : EditDesk) (now : Nat) (c : EditCall) : Decidable (Fresh d now c) :=
  match c with
  | .reading _ => inferInstanceAs (Decidable True)
  | .writing _ _ => inferInstanceAs (Decidable (_ = _))

/-- How a JSON that was read stands to the stored one, after these calls have finished. -/
structure Outdated (finished : List FinishedEdit) (seen current : SpeakerSegmentsJson) : Prop where
  fixed : seen.segments.map StoredSegment.fixed = current.segments.map StoredSegment.fixed
  review : seen.manualReviewRequired = current.manualReviewRequired
  reviewCount : seen.manualReviewSegmentCount = current.manualReviewSegmentCount
  revision : seen.editRevisionNo ≤ current.editRevisionNo
  note : seen.editRevisionNo = current.editRevisionNo →
    seen.lastRevisionNote = current.lastRevisionNote
  touched : ∀ k f, cell seen.segments k f ≠ cell current.segments k f →
    ∃ e ∈ finished, (k, f) ∈ e.touched

theorem outdated_refl (finished : List FinishedEdit) (json : SpeakerSegmentsJson) :
    Outdated finished json json where
  fixed := rfl
  review := rfl
  reviewCount := rfl
  revision := Nat.le_refl _
  note := fun _ => rfl
  touched := fun _ _ differs => absurd rfl differs

theorem outdated_write {finished : List FinishedEdit} {seen current : SpeakerSegmentsJson}
    (outdated : Outdated finished seen current) (r : EditRequest)
    (response : Option UpdatedSegments) :
    Outdated (finished ++ [⟨r, current, response⟩]) seen (r.json current) := by
  constructor
  · exact outdated.fixed.trans (json_fixed r current).symm
  · rw [outdated.review]
    cases r <;> rfl
  · rw [outdated.reviewCount]
    cases r <;> rfl
  · have older := outdated.revision
    cases r with
    | updateTranscriptSegments caller dto => exact Nat.le_succ_of_le older
    | createSpeakerMappings startedAt context mappings => exact older
  · have older := outdated.revision
    cases r with
    | updateTranscriptSegments caller dto =>
      intro same
      have grown : (editedJson current dto).editRevisionNo = current.editRevisionNo + 1 := rfl
      rw [EditRequest.json, grown] at same
      omega
    | createSpeakerMappings startedAt context mappings => exact outdated.note
  · intro k f differs
    by_cases mine : (k, f) ∈ r.touched current.segments
    · exact ⟨_, List.mem_append.mpr (Or.inr (List.mem_singleton.mpr rfl)), mine⟩
    · rw [json_cell r current mine] at differs
      obtain ⟨e, there, touched⟩ := outdated.touched k f differs
      exact ⟨e, List.mem_append.mpr (Or.inl there), touched⟩

theorem eq_of_not_overtaken {finished : List FinishedEdit} {seen current : SpeakerSegmentsJson}
    (outdated : Outdated finished seen current)
    (revision : current.editRevisionNo ≤ seen.editRevisionNo)
    (cells : ∀ e ∈ finished, ∀ c ∈ e.touched,
      cell seen.segments c.1 c.2 = cell current.segments c.1 c.2) : seen = current := by
  have revisions := Nat.le_antisymm outdated.revision revision
  have note := outdated.note revisions
  have segments : seen.segments = current.segments := by
    refine eq_of_cells outdated.fixed ?_
    intro k f
    by_contra differs
    obtain ⟨e, there, touched⟩ := outdated.touched k f differs
    exact differs (cells e there (k, f) touched)
  have review := outdated.review
  have count := outdated.reviewCount
  cases seen
  cases current
  simp only at *
  subst segments revisions note review count
  rfl

theorem revisions_snoc (finished : List FinishedEdit) (e : FinishedEdit) :
    revisions (finished ++ [e]) =
      revisions finished ++ (e.response.map UpdatedSegments.revisionNo).toList := by
  rw [revisions, revisions, List.filterMap_append]
  cases responded : e.response <;> simp [responded]

def EditsDisjoint (d : EditDesk) : Prop := d.finished.Pairwise FinishedEdit.Apart

instance (d : EditDesk) : Decidable (EditsDisjoint d) :=
  inferInstanceAs (Decidable (List.Pairwise _ _))

/-- The revisions given out go up to the current one. -/
structure EditsTidy (d : EditDesk) : Prop where
  kept : EditsKept d
  bounded : ∀ n ∈ revisions d.finished, n ≤ (readJson d.transcript).editRevisionNo

def FitsDesk (d : EditDesk) : EditCall → Prop
  | .reading _ => True
  | .writing _ seen => Outdated d.finished (readJson seen) (readJson d.transcript)

variable {d : EditDesk} {r : EditRequest} {seen : Transcript} {now : Nat}

theorem access_writing : d.access now (.writing r seen) =
    (⟨r.write seen d.transcript now, d.finished ++ [⟨r, readJson seen, r.response seen now⟩]⟩,
      none) := rfl

theorem tidy_write (tidy : EditsTidy d) (fresh : readJson seen = readJson d.transcript)
    (disjoint : EditsDisjoint (d.access now (.writing r seen)).1) :
    EditsTidy (d.access now (.writing r seen)).1 := by
  rw [access_writing] at disjoint ⊢
  obtain ⟨-, -, apart⟩ := List.pairwise_append.mp disjoint
  have counted := tidy.kept.counted
  constructor
  · constructor
    · intro e there c touched
      rw [readJson_write]
      rcases List.mem_append.mp there with old | new
      · have away : c ∉ r.touched (readJson seen).segments :=
          apart e old _ (List.mem_singleton.mpr rfl) c touched
        rw [json_cell r _ away, fresh]
        exact tidy.kept.changes e old c touched
      · rw [List.mem_singleton.mp new]
    · simp only [readJson_write, revisions_snoc, List.length_append]
      rw [← counted, ← fresh]
      cases r <;> rfl
    · rw [revisions_snoc]
      refine List.Nodup.append tidy.kept.different ?_ ?_
      · cases r <;> simp [EditRequest.response]
      · intro n old new
        have small := tidy.bounded n old
        cases r with
        | updateTranscriptSegments caller dto =>
          have here : n = (readJson seen).editRevisionNo + 1 := by
            simpa [EditRequest.response, updatedSegments] using new
          rw [here, fresh] at small
          omega
        | createSpeakerMappings startedAt context mappings => cases new
  · intro n there
    rw [revisions_snoc] at there
    rw [readJson_write]
    have larger : (readJson d.transcript).editRevisionNo ≤ (r.json (readJson seen)).editRevisionNo := by
      rw [fresh]
      cases r with
      | updateTranscriptSegments caller dto => exact Nat.le_succ _
      | createSpeakerMappings startedAt context mappings => exact Nat.le_refl _
    rcases List.mem_append.mp there with old | new
    · exact Nat.le_trans (tidy.bounded n old) larger
    · cases r with
      | updateTranscriptSegments caller dto =>
        have here : n = (readJson seen).editRevisionNo + 1 := by
          simpa [EditRequest.response, updatedSegments] using new
        rw [here]
        exact Nat.le_refl _
      | createSpeakerMappings startedAt context mappings => cases new

theorem fresh_of_kept (kept : EditsKept d)
    (outdated : Outdated d.finished (readJson seen) (readJson d.transcript))
    (disjoint : EditsDisjoint (d.access now (.writing r seen)).1)
    (still : EditsKept (d.access now (.writing r seen)).1) :
    readJson seen = readJson d.transcript := by
  rw [access_writing] at disjoint still
  obtain ⟨-, -, apart⟩ := List.pairwise_append.mp disjoint
  refine eq_of_not_overtaken outdated ?_ ?_
  · have before := kept.counted
    have after := still.counted
    simp only [readJson_write, revisions_snoc, List.length_append] at after
    cases r with
    | updateTranscriptSegments caller dto =>
      have grown : (editedJson (readJson seen) dto).editRevisionNo =
        (readJson seen).editRevisionNo + 1 := rfl
      simp only [EditRequest.json, grown, EditRequest.response, Option.map_some, Option.toList_some,
        List.length_cons, List.length_nil] at after
      omega
    | createSpeakerMappings startedAt context mappings =>
      have same : (mappedJson (readJson seen) (requestedMapping mappings)).editRevisionNo =
        (readJson seen).editRevisionNo := rfl
      simp only [EditRequest.json, same, EditRequest.response, Option.map_none, Option.toList_none,
        List.length_nil] at after
      omega
  · intro e there c touched
    have away : c ∉ r.touched (readJson seen).segments :=
      apart e there _ (List.mem_singleton.mpr rfl) c touched
    have lasting := still.changes e (List.mem_append.mpr (Or.inl there)) c touched
    rw [readJson_write, json_cell r _ away] at lasting
    rw [lasting, kept.changes e there c touched]

def FreshAndDisjoint (d : EditDesk) (now : Nat) (c : EditCall) : Prop :=
  Fresh d now c ∧ EditsDisjoint (d.access now c).1

theorem edits_keep : Keeps editService EditsTidy FitsDesk (fun _ _ => True) FreshAndDisjoint where
  symm := fun _ _ _ => trivial
  enters := fun _ _ _ _ => trivial
  alone := fun _ _ _ _ _ _ => trivial
  inv := by
    intro d now c tidy _ _ ok
    cases c with
    | reading r => exact tidy
    | writing r seen => exact tidy_write tidy ok.1 ok.2
  next := by
    intro d now c c' tidy _ _ _ rest
    cases c with
    | reading r =>
      change (if r.Accepted d.transcript then some (EditCall.writing r d.transcript) else none) =
        some c' at rest
      split at rest
      · cases rest
        exact outdated_refl _ _
      · cases rest
    | writing r seen => cases rest
  others := by
    intro d now c other _ _ fits _ _ ok
    cases c with
    | reading r => exact fits
    | writing r seen =>
      cases other with
      | reading _ => trivial
      | writing s held =>
        have written := outdated_write fits r (r.response seen now)
        have fresh : readJson seen = readJson d.transcript := ok.1
        change Outdated (d.finished ++ [⟨r, readJson seen, r.response seen now⟩]) (readJson held)
          (readJson (r.write seen d.transcript now))
        rw [readJson_write, fresh]
        exact written
  still_apart := fun _ _ _ _ _ _ _ _ _ _ _ _ => trivial

end Kept

section Runs
variable {t : Transcript} {p : Pool EditDesk EditCall}
  {moves : List (Move (Pool EditDesk EditCall) (Turn EditRequest))}

theorem finished_prefix {a b : Pool EditDesk EditCall} {l : Turn EditRequest}
    (step : Step editService a l b) : a.shared.finished <+: b.shared.finished := by
  cases step with
  | enter free admitted => exact List.prefix_rfl
  | @act i now c waiting order =>
    cases c with
    | reading r => exact List.prefix_rfl
    | writing r seen => exact List.prefix_append _ _

theorem disjoint_throughout (run : Run (Step editService) (Pool.idle ⟨t, []⟩) moves p)
    (disjoint : EditsDisjoint p.shared) : ∀ m ∈ moves, EditsDisjoint m.after.shared := by
  intro m there
  have kept : ∀ a ∈ visited (Pool.idle ⟨t, []⟩) moves, a.shared.finished <+: p.shared.finished := by
    refine visited_related (R := fun a b => a.shared.finished <+: b.shared.finished) ?_ ?_ run
      finished_prefix
    · exact fun a => List.prefix_rfl
    · intro a b c ab bc
      exact ab.trans bc
  have prefixed := kept m.after (List.mem_cons_of_mem _ (List.mem_map.mpr ⟨m, there, rfl⟩))
  exact List.Pairwise.sublist prefixed.sublist disjoint

theorem edits_kept_iff (run : Run (Step editService) (Pool.idle ⟨t, []⟩) moves p)
    (unedited : (readJson t).editRevisionNo = 0) (disjoint : EditsDisjoint p.shared) :
    (∀ a ∈ visited (Pool.idle ⟨t, []⟩) moves, EditsKept a.shared) ↔ Heeds (Allows Fresh) moves := by
  have start : EditsKept (Pool.idle ⟨t, []⟩ : Pool EditDesk EditCall).shared :=
    ⟨List.forall_mem_nil _, unedited, List.nodup_nil⟩
  rw [forall_visited, and_iff_right start]
  have apart_run := run.restrict (P := fun b => EditsDisjoint b.shared)
    (disjoint_throughout run disjoint)
  refine run_good_iff (Sound EditsTidy FitsDesk fun _ _ => True)
    (fun _ _ b => EditsKept b.shared) apart_run (sound_idle ⟨start, List.forall_mem_nil _⟩) ?_ ?_
  · rintro a l b sound ⟨step, apart⟩ fresh
    refine sound_step edits_keep sound step ?_
    cases step with
    | enter free admitted => trivial
    | @act i now c waiting order =>
      intro c' same
      cases waiting.symm.trans same
      exact ⟨fresh c waiting, apart⟩
  · rintro a l b sound ⟨step, apart⟩
    cases step with
    | enter free admitted => exact iff_of_true sound.shared.kept trivial
    | @act i now c waiting order =>
      have fits := sound.fits i c waiting
      constructor
      · intro kept c' same
        cases waiting.symm.trans same
        cases c with
        | reading r => trivial
        | writing r seen => exact fresh_of_kept sound.shared.kept fits apart kept
      · intro fresh
        cases c with
        | reading r => exact sound.shared.kept
        | writing r seen => exact (tidy_write sound.shared (fresh _ waiting) apart).kept

def draftOfTwo : Transcript :=
  updateTranscriptResult (newTranscript 1 1 1)
    ⟨[plainSegment "seg-0001" 0 1000 "a" "Speaker_1", plainSegment "seg-0002" 1000 2000 "b" "Speaker_2"],
      []⟩

def editor : Caller := ⟨1, true, false⟩

def setText (id text : String) : EditRequest :=
  .updateTranscriptSegments editor ⟨[⟨id, some text, none, none⟩], none⟩

def nameSpeaker (label : String) (user : Nat) : EditRequest :=
  .createSpeakerMappings (some 0) ⟨editor, [user], []⟩ [⟨label, some user, none, "An"⟩]

/-- Two segments edited and one speaker named, each call after the one before. -/
def oneAfterAnother : List (Turn EditRequest) :=
  [.enter 0 (setText "seg-0001" "x"), .act 0 1, .act 0 1, .enter 0 (nameSpeaker "Speaker_1" 7),
    .act 0 2, .act 0 2, .enter 0 (setText "seg-0002" "y"), .act 0 3, .act 0 3]

theorem edits_kept_in_turn : ∃ moves p,
    Run (Step editService) (Pool.idle ⟨draftOfTwo, []⟩) moves p ∧ p.shared.finished.length = 3 ∧
      ∀ a ∈ visited (Pool.idle ⟨draftOfTwo, []⟩) moves, EditsKept a.shared := by
  have follows : Follows editService Fresh (Pool.idle ⟨draftOfTwo, []⟩) oneAfterAnother := by
    decide +kernel
  obtain ⟨moves, run, heeds⟩ := follows_run follows
  have disjoint : EditsDisjoint
      (oneAfterAnother.foldl (Pool.after editService) (Pool.idle ⟨draftOfTwo, []⟩)).shared := by
    decide +kernel
  exact ⟨moves, _, run, by decide +kernel, (edits_kept_iff run rfl disjoint).mpr heeds⟩

/-- Two editors of different segments read the same row, and the second write takes back the first. -/
def atTheSameTime : List (Turn EditRequest) :=
  [.enter 0 (setText "seg-0001" "x"), .enter 1 (setText "seg-0002" "y"), .act 0 1, .act 1 1, .act 0 2,
    .act 1 3]

theorem edit_taken_back :
    ¬ ∀ (t : Transcript) (p : Pool EditDesk EditCall)
      (moves : List (Move (Pool EditDesk EditCall) (Turn EditRequest))),
      Run (Step editService) (Pool.idle ⟨t, []⟩) moves p → (readJson t).editRevisionNo = 0 →
        EditsDisjoint p.shared → EditsKept p.shared := by
  intro claimed
  have follows : Follows editService (fun _ _ _ => True) (Pool.idle ⟨draftOfTwo, []⟩)
      atTheSameTime := by decide +kernel
  obtain ⟨moves, run, -⟩ := follows_run follows
  have counted := (claimed _ _ _ run rfl (by decide +kernel)).counted
  exact absurd counted (by decide +kernel)

end Runs

end Transcripts
