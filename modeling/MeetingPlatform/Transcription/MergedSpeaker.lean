import MeetingPlatform.Transcription.Segments
import Mathlib.Algebra.Order.BigOperators.Group.List

/- Who speaks in a merged segment. Its pieces agree on a speaker, but its span also
   holds the gaps between them, where others may be heard. -/
namespace Transcription

/-- The pieces of a merged segment; there is always a first one. -/
structure Cluster (F : Type) where
  first : Segment F
  more : List (Segment F) := []

def Cluster.pieces {F : Type} (c : Cluster F) : List (Segment F) := c.first :: c.more

section Clusters
variable {F : Type} (arith : Arithmetic F)

def Cluster.segment (c : Cluster F) : Segment F := c.more.foldl (mergeTwoSegments arith) c.first

/-- The loop of `mergeFrom`, with the pieces kept. -/
def clustersFrom (maxGapMs : Int) (turns : List Turn) (c : Cluster F)
    (prevSpeaker : Option (String × F)) : List (Segment F) → List (Cluster F)
  | [] => [c]
  | segment :: rest =>
    let currentSpeaker := dominantSpeaker arith segment turns
    if canMerge maxGapMs (c.segment arith) segment prevSpeaker currentSpeaker then
      clustersFrom maxGapMs turns ⟨c.first, c.more ++ [segment]⟩ currentSpeaker rest
    else
      c :: clustersFrom maxGapMs turns ⟨segment, []⟩ currentSpeaker rest

def mergeClusters (maxGapMs : Int) (segments : List (Segment F)) (turns : List Turn) :
    List (Cluster F) :=
  match segments, turns with
  | [], _ => []
  | segments, [] => segments.map fun s => ⟨s, []⟩
  | first :: rest, turns =>
    clustersFrom arith maxGapMs turns ⟨first, []⟩ (dominantSpeaker arith first turns) rest

variable {maxGapMs : Int} {segments rest : List (Segment F)} {turns : List Turn} {c made : Cluster F}
  {prevSpeaker : Option (String × F)}

theorem segment_grown (segment : Segment F) :
    Cluster.segment arith ⟨c.first, c.more ++ [segment]⟩ =
      mergeTwoSegments arith (c.segment arith) segment := by
  simp [Cluster.segment]

theorem clustersFrom_segments :
    (clustersFrom arith maxGapMs turns c prevSpeaker rest).map (Cluster.segment arith) =
      mergeFrom arith maxGapMs turns (c.segment arith) prevSpeaker rest := by
  induction rest generalizing c prevSpeaker with
  | nil => rfl
  | cons segment rest ih =>
    simp only [clustersFrom, mergeFrom]
    split
    · rw [ih, segment_grown]
    · rw [List.map_cons, ih]
      rfl

theorem clustersFrom_pieces :
    (clustersFrom arith maxGapMs turns c prevSpeaker rest).flatMap Cluster.pieces =
      c.pieces ++ rest := by
  induction rest generalizing c prevSpeaker with
  | nil => simp [clustersFrom]
  | cons segment rest ih =>
    simp only [clustersFrom]
    split
    · rw [ih]
      simp [Cluster.pieces]
    · rw [List.flatMap_cons, ih]
      simp [Cluster.pieces]

theorem mergeClusters_segments (maxGapMs : Int) (segments : List (Segment F)) (turns : List Turn) :
    (mergeClusters arith maxGapMs segments turns).map (Cluster.segment arith) =
      mergeFragmentedSegments arith maxGapMs segments turns := by
  cases segments with
  | nil => rfl
  | cons first rest =>
    cases turns with
    | nil => simp [mergeClusters, mergeFragmentedSegments, Cluster.segment, Function.comp_def]
    | cons t turns => exact clustersFrom_segments arith

theorem mergeClusters_pieces (maxGapMs : Int) (segments : List (Segment F)) (turns : List Turn) :
    (mergeClusters arith maxGapMs segments turns).flatMap Cluster.pieces = segments := by
  cases segments with
  | nil => rfl
  | cons first rest =>
    cases turns with
    | nil => simp [mergeClusters, Cluster.pieces, List.flatMap_map]
    | cons t turns => exact clustersFrom_pieces arith

/-- All pieces have this label, and there is one where pieces were merged. -/
def Unanimous (turns : List Turn) (c : Cluster F) (label : Option String) : Prop :=
  (∀ p ∈ c.pieces, (dominantSpeaker arith p turns).map Prod.fst = label) ∧
    (c.more ≠ [] → label ≠ none)

theorem canMerge_speaker {prev segment : Segment F} {currentSpeaker : Option (String × F)}
    (merges : canMerge maxGapMs prev segment prevSpeaker currentSpeaker = true) :
    prevSpeaker.map Prod.fst = currentSpeaker.map Prod.fst ∧ currentSpeaker.map Prod.fst ≠ none := by
  cases prevSpeaker with
  | none => simp [canMerge] at merges
  | some p =>
    cases currentSpeaker with
    | none => simp [canMerge] at merges
    | some q =>
      simp only [canMerge, decide_eq_true_eq] at merges
      simp [merges.1]

theorem clustersFrom_unanimous (agreed : Unanimous arith turns c (prevSpeaker.map Prod.fst))
    (from_loop : made ∈ clustersFrom arith maxGapMs turns c prevSpeaker rest) :
    ∃ label, Unanimous arith turns made label := by
  induction rest generalizing c prevSpeaker with
  | nil =>
    obtain rfl := List.mem_singleton.mp from_loop
    exact ⟨_, agreed⟩
  | cons segment rest ih =>
    simp only [clustersFrom] at from_loop
    split at from_loop
    · rename_i merges
      obtain ⟨same, known⟩ := canMerge_speaker merges
      refine ih ⟨?_, fun _ => known⟩ from_loop
      intro p hp
      rw [Cluster.pieces, ← List.cons_append] at hp
      rcases List.mem_append.mp hp with old | new
      · rw [agreed.1 p old, same]
      · rw [List.mem_singleton.mp new]
    · rcases List.mem_cons.mp from_loop with rfl | later
      · exact ⟨_, agreed⟩
      · refine ih ⟨?_, fun other => absurd rfl other⟩ later
        intro p hp
        rw [List.mem_singleton.mp hp]

theorem merged_unanimous (made_here : made ∈ mergeClusters arith maxGapMs segments turns)
    (several : made.more ≠ []) :
    ∃ label, ∀ p ∈ made.pieces, (dominantSpeaker arith p turns).map Prod.fst = some label := by
  have agreed : ∃ label, Unanimous arith turns made label := by
    cases segments with
    | nil => cases made_here
    | cons first rest =>
      cases turns with
      | nil =>
        obtain ⟨s, -, rfl⟩ := List.mem_map.mp made_here
        exact absurd rfl several
      | cons t turns =>
        refine clustersFrom_unanimous arith ⟨?_, fun other => absurd rfl other⟩ made_here
        intro p hp
        rw [List.mem_singleton.mp hp]
  obtain ⟨label, same, known⟩ := agreed
  obtain ⟨speaker, rfl⟩ := Option.ne_none_iff_exists'.mp (known several)
  exact ⟨speaker, same⟩

end Clusters

section Spans
variable {F : Type} (arith : Arithmetic F)

def spokenOn (turns : List Turn) (label : String) (p : Segment F) : Int :=
  spokenIn p.startMs p.endMs turns label

def onPieces (turns : List Turn) (label : String) (c : Cluster F) : Int :=
  (c.pieces.map (spokenOn turns label)).sum

def gapsAfter (turns : List Turn) (label : String) (endMs : Int) : List (Segment F) → Int
  | [] => 0
  | q :: rest => spokenIn endMs q.startMs turns label + gapsAfter turns label q.endMs rest

def inGaps (turns : List Turn) (label : String) (c : Cluster F) : Int :=
  gapsAfter turns label c.first.endMs c.more

/-- `b` gains less in the gaps than `a` leads by on the pieces; if it gains as much, the
    first turn of `a` within the merged span comes before those of `b`. -/
def KeepsLead (turns : List Turn) (c : Cluster F) (a b : String) : Prop :=
  let lead := onPieces turns a c - onPieces turns b c
  let gain := inGaps turns b c - inGaps turns a c
  gain < lead ∨
    gain = lead ∧ HeardBefore c.first.startMs (c.segment arith).endMs turns a b

def WellFormed (segments : List (Segment F)) : Prop := ∀ s ∈ segments, s.startMs ≤ s.endMs

def Disjoint (segments : List (Segment F)) : Prop :=
  segments.Pairwise fun a b => a.endMs ≤ b.startMs

variable {turns : List Turn} {label : String} {c : Cluster F}

theorem gapsAfter_nonneg (turns : List Turn) (label : String) (endMs : Int)
    (rest : List (Segment F)) : 0 ≤ gapsAfter turns label endMs rest := by
  induction rest generalizing endMs with
  | nil => exact Int.le_refl 0
  | cons q rest ih =>
    have here := spokenIn_nonneg endMs q.startMs turns label
    have later := ih q.endMs
    simp only [gapsAfter]
    omega

theorem segment_start (c : Cluster F) : (c.segment arith).startMs = c.first.startMs := by
  obtain ⟨first, more⟩ := c
  induction more generalizing first with
  | nil => rfl
  | cons q rest ih => exact ih (mergeTwoSegments arith first q)

theorem fold_spoken (turns : List Turn) (label : String) (prev : Segment F)
    (more : List (Segment F)) (ordered : WellFormed (prev :: more)) (apart : Disjoint (prev :: more)) :
    spokenIn prev.startMs (more.foldl (mergeTwoSegments arith) prev).endMs turns label =
      spokenOn turns label prev + (more.map (spokenOn turns label)).sum +
        gapsAfter turns label prev.endMs more := by
  induction more generalizing prev with
  | nil => simp [spokenOn, gapsAfter]
  | cons q rest ih =>
    have here := ordered prev List.mem_cons_self
    have there := ordered q (List.mem_cons_of_mem _ List.mem_cons_self)
    have between := List.rel_of_pairwise_cons apart List.mem_cons_self
    have tail := List.pairwise_cons.mp (List.pairwise_cons.mp apart).2
    have grown := ih (mergeTwoSegments arith prev q) (by
      intro s hs
      rcases List.mem_cons.mp hs with rfl | hs
      · exact here.trans (between.trans there)
      · exact ordered s (List.mem_cons_of_mem _ (List.mem_cons_of_mem _ hs)))
      (List.pairwise_cons.mpr tail)
    have first := spokenIn_split here (between.trans there) turns label
    have second := spokenIn_split between there turns label
    simp only [List.foldl_cons, List.map_cons, List.sum_cons, gapsAfter, spokenOn] at grown ⊢
    have span : (mergeTwoSegments arith prev q).startMs = prev.startMs ∧
        (mergeTwoSegments arith prev q).endMs = q.endMs := ⟨rfl, rfl⟩
    rw [span.1, span.2] at grown
    omega

theorem merged_spoken (turns : List Turn) (label : String) (ordered : WellFormed c.pieces)
    (apart : Disjoint c.pieces) :
    spokenIn (c.segment arith).startMs (c.segment arith).endMs turns label =
      onPieces turns label c + inGaps turns label c := by
  rw [segment_start, Cluster.segment, fold_spoken arith turns label c.first c.more ordered apart]
  simp [onPieces, inGaps, Cluster.pieces]

theorem onPieces_pos (everywhere : ∀ p ∈ c.pieces, 0 < spokenOn turns label p) :
    0 < onPieces turns label c := by
  have rest : 0 ≤ (c.more.map (spokenOn turns label)).sum := by
    apply List.sum_nonneg
    intro n hn
    obtain ⟨p, -, rfl⟩ := List.mem_map.mp hn
    exact spokenIn_nonneg p.startMs p.endMs turns label
  have first := everywhere c.first List.mem_cons_self
  simp only [onPieces, Cluster.pieces, List.map_cons, List.sum_cons]
  omega

theorem merged_dominant_iff (ordered : WellFormed c.pieces) (apart : Disjoint c.pieces)
    (agreed : ∀ p ∈ c.pieces, (dominantSpeaker arith p turns).map Prod.fst = some label) :
    (dominantSpeaker arith (c.segment arith) turns).map Prod.fst = some label ↔
      ∀ other ≠ label, KeepsLead arith turns c label other := by
  have heard : 0 < onPieces turns label c := by
    apply onPieces_pos
    intro p hp
    exact ((dominant_iff arith p turns label).mp (agreed p hp)).1
  have gaps := gapsAfter_nonneg turns label c.first.endMs c.more
  rw [dominant_iff]
  simp only [merged_spoken arith turns _ ordered apart, KeepsLead]
  rw [and_iff_right (by unfold inGaps; omega), segment_start]
  apply forall_congr'
  intro other
  apply forall_congr'
  intro _
  apply or_congr
  · omega
  · apply and_congr_left
    intro _
    omega

end Spans

section Merge
variable {F : Type} (arith : Arithmetic F) (maxGapMs : Int) {segments : List (Segment F)}

theorem pieces_sublist {turns : List Turn} {c : Cluster F}
    (made : c ∈ mergeClusters arith maxGapMs segments turns) :
    c.pieces.Sublist segments := by
  rw [← mergeClusters_pieces arith maxGapMs segments turns, List.flatMap]
  exact List.sublist_flatten_of_mem (List.mem_map_of_mem made)

/-- The pieces of a merged segment agree on their speaker, who is also found to speak in
    the whole exactly when nobody catches up in the gaps. -/
theorem merged_speaker_iff (turns : List Turn) (ordered : WellFormed segments)
    (apart : Disjoint segments) :
    (mergeClusters arith maxGapMs segments turns).map (Cluster.segment arith) =
        mergeFragmentedSegments arith maxGapMs segments turns ∧
      (mergeClusters arith maxGapMs segments turns).flatMap Cluster.pieces = segments ∧
      ∀ c ∈ mergeClusters arith maxGapMs segments turns, 2 ≤ c.pieces.length →
        ∃ label, (∀ p ∈ c.pieces, (dominantSpeaker arith p turns).map Prod.fst = some label) ∧
          ((dominantSpeaker arith (c.segment arith) turns).map Prod.fst = some label ↔
            ∀ other ≠ label, KeepsLead arith turns c label other) := by
  refine ⟨mergeClusters_segments arith maxGapMs segments turns,
    mergeClusters_pieces arith maxGapMs segments turns, ?_⟩
  intro c made several
  have merged : c.more ≠ [] := by
    intro alone
    simp [Cluster.pieces, alone] at several
  have within := pieces_sublist arith maxGapMs made
  obtain ⟨label, agreed⟩ := merged_unanimous arith made merged
  refine ⟨label, agreed, merged_dominant_iff arith ?_ (apart.sublist within) agreed⟩
  intro s hs
  exact ordered s (within.subset hs)

end Merge
def fragment (startMs endMs : Int) (text : String) : Segment Rat where
  segmentId := "seg-0000"
  startMs := startMs
  endMs := endMs
  text := text.toList
  sttConfidence := some 1
  finalConfidence := some 1
  lowConfidence := false
  manualReviewRequired := false
  notes := []

def twoFragments : List (Segment Rat) := [fragment 0 100 "so", fragment 800 900 "that"]

theorem twoFragments_ordered : WellFormed twoFragments := by
  intro s hs
  simp only [twoFragments, List.mem_cons, List.not_mem_nil, or_false] at hs
  rcases hs with rfl | rfl <;> decide

theorem twoFragments_apart : Disjoint twoFragments := by
  simp only [twoFragments, Disjoint, List.pairwise_pair]
  decide

theorem uninterrupted_speaker_kept :
    ∃ c ∈ mergeClusters exactArithmetic 800 twoFragments [⟨0, 900, "A"⟩], 2 ≤ c.pieces.length ∧
      ∃ label, (∀ p ∈ c.pieces,
          (dominantSpeaker exactArithmetic p [⟨0, 900, "A"⟩]).map Prod.fst = some label) ∧
        ((dominantSpeaker exactArithmetic (c.segment exactArithmetic) [⟨0, 900, "A"⟩]).map Prod.fst =
            some label ↔
          ∀ other ≠ label, KeepsLead exactArithmetic [⟨0, 900, "A"⟩] c label other) := by
  obtain ⟨-, -, all⟩ := merged_speaker_iff exactArithmetic 800 [⟨0, 900, "A"⟩]
    twoFragments_ordered twoFragments_apart
  exact ⟨_, List.mem_cons_self, by decide, all _ List.mem_cons_self (by decide)⟩

theorem interrupted_speaker_lost :
    ¬ ∀ (segments : List (Segment Rat)) (turns : List Turn),
      WellFormed segments → Disjoint segments →
        ∀ c ∈ mergeClusters exactArithmetic (segmentMergeMaxGapMs none) segments turns,
          2 ≤ c.pieces.length →
            ∃ label,
              (∀ p ∈ c.pieces, (dominantSpeaker exactArithmetic p turns).map Prod.fst = some label) ∧
                (dominantSpeaker exactArithmetic (c.segment exactArithmetic) turns).map Prod.fst =
                  some label := by
  intro all
  obtain ⟨label, agreed, merged⟩ := all twoFragments
    [⟨0, 100, "A"⟩, ⟨100, 800, "B"⟩, ⟨800, 900, "A"⟩] twoFragments_ordered twoFragments_apart
    _ List.mem_cons_self (by decide)
  have piece := agreed _ List.mem_cons_self
  have same := piece.trans merged.symm
  revert same
  decide

end Transcription
