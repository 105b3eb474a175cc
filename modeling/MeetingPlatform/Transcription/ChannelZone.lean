import MeetingPlatform.Lib.Guards
import MeetingPlatform.Transcription.ReviewFlags

/- Who is credited where every user has a channel. Loops are looked for in the segments of
   all channels by time, so that a loop may hold the words of several users. -/
namespace Transcription

section Speakers
variable {F : Type} (arith : Arithmetic F) {segments : List (Segment F)}
  {stats : List (DetectedSpeaker F)} {s : Segment F} {label : String}

theorem hearSpeaker_labels :
    (hearSpeaker arith s stats).map DetectedSpeaker.speakerLabel =
      if s.speakerLabel ∈ stats.map DetectedSpeaker.speakerLabel then
        stats.map DetectedSpeaker.speakerLabel
      else stats.map DetectedSpeaker.speakerLabel ++ [s.speakerLabel] := by
  induction stats with
  | nil => rfl
  | cons entry rest ih =>
    unfold hearSpeaker
    by_cases here : entry.speakerLabel = s.speakerLabel
    · simp [here, DetectedSpeaker.hears]
    · simp only [if_neg here, List.map_cons, ih, List.mem_cons, Ne.symm here, false_or]
      split <;> simp

theorem heard_segments_labels :
    label ∈ (segments.foldl (hearSegment arith) stats).map DetectedSpeaker.speakerLabel ↔
      label ∈ stats.map DetectedSpeaker.speakerLabel ∨
        label ≠ "unknown" ∧ ∃ s ∈ segments, s.speakerLabel = label := by
  induction segments generalizing stats with
  | nil => simp
  | cons s segments ih =>
    have here : label ∈ (hearSegment arith stats s).map DetectedSpeaker.speakerLabel ↔
        label ∈ stats.map DetectedSpeaker.speakerLabel ∨ label ≠ "unknown" ∧ s.speakerLabel = label := by
      unfold hearSegment
      by_cases unnamed : s.speakerLabel = "unknown"
      · rw [if_pos unnamed, unnamed]
        constructor
        · exact Or.inl
        · intro h
          exact h.resolve_right fun other => other.1 other.2.symm
      · rw [if_neg unnamed, hearSpeaker_labels]
        by_cases same : s.speakerLabel = label
        · subst same
          split <;> simp [*]
        · split <;> simp [same, Ne.symm same]
    rw [List.foldl_cons, ih, here, List.exists_mem_cons_iff]
    tauto

theorem detected_labels (segments : List (Segment F)) (label : String) :
    label ∈ (buildDetectedSpeakers arith segments).map DetectedSpeaker.speakerLabel ↔
      label ≠ "unknown" ∧ ∃ s ∈ segments, s.speakerLabel = label := by
  rw [buildDetectedSpeakers, heard_segments_labels]
  simp

/-- A segment from a channel is labelled by the channel's user. -/
structure FromChannel (s : Segment F) : Prop where
  source : s.speakerSource = .channelZone
  user : s.userId = some s.speakerLabel

theorem hearSpeaker_mapped (zone : FromChannel s)
    (mapped : ∀ e ∈ stats, e.mappedUserId = some e.speakerLabel) :
    ∀ e ∈ hearSpeaker arith s stats, e.mappedUserId = some e.speakerLabel := by
  induction stats with
  | nil =>
    intro e he
    rw [List.mem_singleton.mp he]
    simp [DetectedSpeaker.hears, newSpeaker, zone.source, zone.user]
  | cons entry rest ih =>
    obtain ⟨here, later⟩ := List.forall_mem_cons.mp mapped
    unfold hearSpeaker
    split
    · exact List.forall_mem_cons.mpr ⟨here, later⟩
    · exact List.forall_mem_cons.mpr ⟨here, ih later⟩

theorem detected_mapped (zone : ∀ s ∈ segments, FromChannel s) :
    ∀ e ∈ buildDetectedSpeakers arith segments, e.mappedUserId = some e.speakerLabel := by
  have fold : ∀ stats : List (DetectedSpeaker F),
      (∀ e ∈ stats, e.mappedUserId = some e.speakerLabel) →
        ∀ e ∈ segments.foldl (hearSegment arith) stats, e.mappedUserId = some e.speakerLabel := by
    induction segments with
    | nil => exact fun stats mapped => mapped
    | cons s segments ih =>
      intro stats mapped
      obtain ⟨here, later⟩ := List.forall_mem_cons.mp zone
      apply ih later
      unfold hearSegment
      split
      · exact mapped
      · exact hearSpeaker_mapped arith here mapped
  exact fold [] (by simp)

theorem user_detected_iff (zone : ∀ s ∈ segments, FromChannel s) (user : String) :
    (∃ e ∈ buildDetectedSpeakers arith segments, e.mappedUserId = some user) ↔
      user ≠ "unknown" ∧ ∃ s ∈ segments, s.userId = some user := by
  have mapped := detected_mapped arith zone
  have labels := detected_labels arith segments user
  have by_label : (∃ s ∈ segments, s.speakerLabel = user) ↔ ∃ s ∈ segments, s.userId = some user := by
    constructor
    · intro h
      obtain ⟨s, hs, rfl⟩ := h
      exact ⟨s, hs, (zone s hs).user⟩
    · intro h
      obtain ⟨s, hs, user⟩ := h
      exact ⟨s, hs, Option.some.inj ((zone s hs).user.symm.trans user)⟩
  rw [← by_label, ← labels, List.mem_map]
  constructor
  · intro h
    obtain ⟨e, he, user⟩ := h
    exact ⟨e, he, Option.some.inj ((mapped e he).symm.trans user)⟩
  · intro h
    obtain ⟨e, he, rfl⟩ := h
    exact ⟨e, he, mapped e he⟩

end Speakers

section Sources
variable {F : Type} (lower : List Char → List Char) {segments : List (Segment F)}

/-- What a run gives, every output with the segments it is built from. -/
def Cluster.built (run : Cluster F) : List (Segment F × List (Segment F)) :=
  if run.isLoop then [(run.merged, run.pieces)] else run.pieces.map fun p => (p, [p])

def collapseSources (segments : List (Segment F)) : List (Segment F × List (Segment F)) :=
  (repeatedRuns lower segments).flatMap Cluster.built

theorem collapseSources_outputs (segments : List (Segment F)) :
    (collapseSources lower segments).map Prod.fst = (collapseRepeatedSegments lower segments).1 := by
  rw [collapseSources, List.map_flatMap]
  apply List.flatMap_congr
  intro run _
  unfold Cluster.built Cluster.collapse
  split <;> simp [Function.comp_def]

theorem collapseSources_inputs (segments : List (Segment F)) :
    (collapseSources lower segments).flatMap Prod.snd = segments := by
  have each : ∀ run : Cluster F, run.built.flatMap Prod.snd = run.pieces := by
    intro run
    unfold Cluster.built
    split
    · simp
    · simp [List.flatMap_map]
  rw [collapseSources, List.flatMap_assoc]
  simp only [each]
  exact repeatedRuns_pieces lower segments

/-- Nobody's words stand in a loop with those of somebody else. -/
def LoopsOfOneUser (segments : List (Segment F)) : Prop :=
  ∀ run ∈ repeatedRuns lower segments, run.isLoop = true →
    ∀ p ∈ run.pieces, ∀ q ∈ run.pieces, p.userId = q.userId

def BuiltFromOneUser (segments : List (Segment F)) : Prop :=
  ∀ b ∈ collapseSources lower segments, ∀ p ∈ b.2, ∀ q ∈ b.2, p.userId = q.userId

theorem built_from_one_iff :
    BuiltFromOneUser lower segments ↔ LoopsOfOneUser lower segments := by
  constructor
  · intro built run there loop
    exact built (run.merged, run.pieces) (List.mem_flatMap.mpr ⟨run, there, by simp [Cluster.built, loop]⟩)
  · intro loops b hb p hp q hq
    obtain ⟨run, there, made⟩ := List.mem_flatMap.mp hb
    unfold Cluster.built at made
    split at made
    · rename_i loop
      obtain rfl := List.mem_singleton.mp made
      exact loops run there loop p hp q hq
    · obtain ⟨alone, -, rfl⟩ := List.mem_map.mp made
      rw [List.mem_singleton.mp hp, List.mem_singleton.mp hq]

theorem collapse_users (loops : LoopsOfOneUser lower segments) (user : Option String) :
    (∃ s ∈ (collapseRepeatedSegments lower segments).1, s.userId = user) ↔
      ∃ s ∈ segments, s.userId = user := by
  constructor
  · intro h
    obtain ⟨s, hs, rfl⟩ := h
    obtain ⟨first, member, same | ⟨run, -, -, same, merged⟩⟩ := collapse_first lower hs
    · exact ⟨first, member, same ▸ rfl⟩
    · refine ⟨first, member, ?_⟩
      rw [merged, ← same]
      rfl
  · intro h
    obtain ⟨s, hs, rfl⟩ := h
    rw [← repeatedRuns_pieces lower segments] at hs
    obtain ⟨run, there, piece⟩ := List.mem_flatMap.mp hs
    cases loop : run.isLoop with
    | true =>
      refine ⟨run.merged, List.mem_flatMap.mpr ⟨run, there, by simp [Cluster.collapse, loop]⟩, ?_⟩
      exact loops run there loop run.first List.mem_cons_self s piece
    | false =>
      exact ⟨s, List.mem_flatMap.mpr ⟨run, there, by simp [Cluster.collapse, loop, piece]⟩, rfl⟩

end Sources

section Zones
variable {F : Type} (arith : Arithmetic F) (lower : List Char → List Char)
  {settings : PipelineSettings F} {channels : List (Channel F)} {s : Segment F}

theorem mem_channelSegments {counter : Nat} : s ∈ channelSegments arith counter channels →
    ∃ c ∈ channels, ∃ raw ∈ c.whisper.segments, ∃ k, s = zoneSegment arith c.userId raw k := by
  induction channels generalizing counter with
  | nil =>
    intro there
    cases there
  | cons channel rest ih =>
    intro there
    rcases List.mem_append.mp there with here | later
    · obtain ⟨⟨raw, k⟩, hraw, rfl⟩ := List.mem_map.mp here
      exact ⟨channel, List.mem_cons_self, raw, List.fst_mem_of_mem_zipIdx hraw, k, rfl⟩
    · obtain ⟨c, hc, found⟩ := ih later
      exact ⟨c, List.mem_cons_of_mem _ hc, found⟩

theorem channelSegments_user {counter : Nat} {c : Channel F} {raw : WhisperSegment F}
    (there : c ∈ channels) (said : raw ∈ c.whisper.segments) :
    ∃ s ∈ channelSegments arith counter channels, s.userId = some c.userId := by
  induction channels generalizing counter with
  | nil => cases there
  | cons channel rest ih =>
    rcases List.mem_cons.mp there with rfl | later
    · have indexed : raw ∈ (c.whisper.segments.zipIdx counter).map Prod.fst := by
        rwa [List.zipIdx_map_fst]
      obtain ⟨⟨raw', k⟩, hraw, rfl⟩ := List.mem_map.mp indexed
      exact ⟨_, List.mem_append_left _ (List.mem_map_of_mem hraw), rfl⟩
    · obtain ⟨s, hs, found⟩ := ih later
      exact ⟨s, List.mem_append_right _ hs, found⟩

def sortedZones (channels : List (Channel F)) : List (Segment F) :=
  sortByStart (channelSegments arith 0 channels)

def zoneSegments (settings : PipelineSettings F) (channels : List (Channel F)) : List (Segment F) :=
  let collapsed := (collapseRepeatedSegments lower (sortedZones arith channels)).1
  if settings.overlapDetectionEnabled then
    markOverlappingSegments collapsed (detectOverlapsFromSegments collapsed)
  else collapsed

theorem mem_sortedZones : s ∈ sortedZones arith channels ↔ s ∈ channelSegments arith 0 channels :=
  List.mem_insertionSort _

theorem collapsed_from_channel
    (there : s ∈ (collapseRepeatedSegments lower (sortedZones arith channels)).1) :
    FromChannel s := by
  obtain ⟨first, member, made⟩ := collapse_first lower there
  obtain ⟨c, -, raw, -, k, rfl⟩ := mem_channelSegments arith ((mem_sortedZones arith).mp member)
  rcases made with same | ⟨run, -, -, same, merged⟩
  · rw [same]
    exact ⟨rfl, rfl⟩
  · rw [merged]
    exact ⟨congrArg Segment.speakerSource same,
      by simp [Cluster.merged, same, zoneSegment]⟩

theorem markOverlap_from_channel (windows : List SpokenWindow) (zone : FromChannel s) :
    FromChannel (markOverlap windows s) ∧ (markOverlap windows s).userId = s.userId := by
  unfold markOverlap
  split
  · exact ⟨⟨zone.source, zone.user⟩, rfl⟩
  · exact ⟨zone, rfl⟩

theorem zoneSegments_from_channel (there : s ∈ zoneSegments arith lower settings channels) :
    FromChannel s := by
  unfold zoneSegments at there
  simp only at there
  split at there
  · obtain ⟨collapsed, member, rfl⟩ := List.mem_map.mp there
    exact (markOverlap_from_channel _ (collapsed_from_channel arith lower member)).1
  · exact collapsed_from_channel arith lower there

theorem zoneSegments_users (user : Option String) :
    (∃ s ∈ zoneSegments arith lower settings channels, s.userId = user) ↔
      ∃ s ∈ (collapseRepeatedSegments lower (sortedZones arith channels)).1, s.userId = user := by
  unfold zoneSegments
  simp only
  split
  · constructor
    · intro h
      obtain ⟨marked, there, rfl⟩ := h
      obtain ⟨s, member, rfl⟩ := List.mem_map.mp there
      exact ⟨s, member, (markOverlap_from_channel _ (collapsed_from_channel arith lower member)).2.symm⟩
    · intro h
      obtain ⟨s, member, rfl⟩ := h
      exact ⟨_, List.mem_map_of_mem member,
        (markOverlap_from_channel _ (collapsed_from_channel arith lower member)).2⟩
  · rfl

theorem runChannelZonePipeline_segments {result : PipelineResult F}
    (done : runChannelZonePipeline arith lower settings channels = .ok result) :
    result.segments = zoneSegments arith lower settings channels ∧
      result.detectedSpeakers =
        buildDetectedSpeakers arith (zoneSegments arith lower settings channels) := by
  unfold runChannelZonePipeline at done
  simp only [Guards.bind_eq_ok, Guards.pure_eq_ok] at done
  obtain ⟨-, -, rfl⟩ := done
  exact ⟨rfl, rfl⟩

theorem channels_kept_apart_iff (settings : PipelineSettings F) (channels : List (Channel F)) :
    (BuiltFromOneUser lower (sortedZones arith channels) ∧
        ∀ c ∈ channels, (∃ raw ∈ c.whisper.segments, raw.text ≠ []) →
          ∃ speaker ∈ buildDetectedSpeakers arith (zoneSegments arith lower settings channels),
            speaker.mappedUserId = some c.userId) ↔
      LoopsOfOneUser lower (sortedZones arith channels) ∧
        ∀ c ∈ channels, c.userId = "unknown" → ∀ raw ∈ c.whisper.segments, raw.text = [] := by
  rw [built_from_one_iff]
  apply and_congr_right
  intro loops
  apply forall_congr'
  intro c
  apply forall_congr'
  intro member
  rw [user_detected_iff arith (fun s hs => zoneSegments_from_channel arith lower hs),
    zoneSegments_users, collapse_users lower loops]
  constructor
  · intro detected unnamed raw said
    by_contra spoken
    exact (detected ⟨raw, said, spoken⟩).1 unnamed
  · intro named spoken
    obtain ⟨raw, said, words⟩ := spoken
    have heard : ∃ s ∈ channelSegments arith 0 channels, s.userId = some c.userId :=
      channelSegments_user arith member said
    obtain ⟨s, hs, user⟩ := heard
    refine ⟨?_, s, (mem_sortedZones arith).mpr hs, user⟩
    intro unnamed
    exact words (named unnamed raw said)

end Zones

section Answers

/-- The audio of a user who says one short word. -/
def answering (userId : String) (startMs : Int) : Channel Rat :=
  ⟨userId, ⟨"vi-VN", [⟨0, startMs, startMs + 500, "OK.".toList, some 1⟩], 1⟩⟩

theorem answers_credited_to_first :
    ¬ ∀ channels : List (Channel Rat),
      let sorted := sortedZones exactArithmetic channels
      BuiltFromOneUser (List.map Char.toLower) sorted ∧
        ∀ c ∈ channels, (∃ raw ∈ c.whisper.segments, raw.text ≠ []) →
          ∃ speaker ∈ buildDetectedSpeakers exactArithmetic
              (zoneSegments exactArithmetic (List.map Char.toLower) defaultSettings channels),
            speaker.mappedUserId = some c.userId := by
  intro all
  obtain ⟨-, detected⟩ := all [answering "ann" 0, answering "bob" 1000, answering "cyd" 2000,
    answering "dan" 3000, answering "eve" 4000]
  obtain ⟨speaker, there, bob⟩ := detected (answering "bob" 1000) (by simp)
    ⟨_, List.mem_cons_self, by decide⟩
  have listed : (buildDetectedSpeakers exactArithmetic
      (zoneSegments exactArithmetic (List.map Char.toLower) defaultSettings
        [answering "ann" 0, answering "bob" 1000, answering "cyd" 2000, answering "dan" 3000,
          answering "eve" 4000])).map DetectedSpeaker.mappedUserId = [some "ann"] := by
    decide +kernel
  have among := List.mem_map_of_mem (f := DetectedSpeaker.mappedUserId) there
  rw [listed, bob] at among
  revert among
  decide

end Answers
end Transcription
