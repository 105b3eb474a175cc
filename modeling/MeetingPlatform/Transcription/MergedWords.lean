import MeetingPlatform.Transcription.MergedSpeaker
import Mathlib.Data.List.Flatten

/- What the merge of fragments keeps: the words and their order, the spans of the pieces
   and the notes. -/
namespace Transcription

/-- The words that `str.split` finds. -/
def words (text : List Char) : List (List Char) := (text.splitOnP isSpace).filter (· ≠ [])

section Words
variable {c : Char} {text : List Char}

theorem words_append_space (front back : List Char) (space : isSpace c = true) :
    words (front ++ c :: back) = words front ++ words back := by
  unfold words
  rw [List.splitOnP_append_cons front back space, List.filter_append]

@[simp] theorem words_nil : words [] = [] := by
  simp [words]

theorem words_dropWhile (text : List Char) : words (text.dropWhile isSpace) = words text := by
  induction text with
  | nil => rfl
  | cons c rest ih =>
    cases space : isSpace c with
    | false => simp [space]
    | true =>
      have shorter : words (c :: rest) = words rest := by
        simpa using words_append_space [] rest space
      rw [shorter, List.dropWhile_cons_of_pos space, ih]

theorem words_rdropWhile (text : List Char) : words (text.rdropWhile isSpace) = words text := by
  induction text using List.reverseRecOn with
  | nil => rfl
  | append_singleton front c ih =>
    cases space : isSpace c with
    | false => rw [List.rdropWhile_concat_neg _ _ _ (by simp [space])]
    | true =>
      rw [List.rdropWhile_concat_pos _ _ _ space, ih, words_append_space front [] space, words_nil,
        List.append_nil]

@[simp] theorem words_strip (text : List Char) : words (strip text) = words text := by
  rw [strip, words_rdropWhile, words_dropWhile]

end Words

section Notes
variable {n note : String} {notes : List String}

theorem count_addNote : (addNote notes note).count n =
    max (notes.count n) (if n = note then 1 else 0) := by
  unfold addNote
  split
  · rename_i there
    have some_there := List.count_pos_iff.mpr there
    split
    · rename_i same
      subst same
      omega
    · omega
  · rename_i absent
    rw [List.count_append, List.count_singleton']
    split
    · rename_i same
      subst same
      rw [List.count_eq_zero_of_not_mem absent, if_pos rfl]
      omega
    · rename_i other
      rw [if_neg (Ne.symm other)]
      omega

theorem count_addNotes (more : List String) : (more.foldl addNote notes).count n =
    max (notes.count n) (if n ∈ more then 1 else 0) := by
  induction more generalizing notes with
  | nil => simp
  | cons note more ih =>
    rw [List.foldl_cons, ih, count_addNote]
    by_cases here : n = note
    · subst here
      rw [if_pos rfl, if_pos List.mem_cons_self]
      split <;> omega
    · have same : n ∈ note :: more ↔ n ∈ more := by simp [here]
      simp only [same, here, if_false]
      split <;> omega

end Notes

section Merge
variable {F : Type} (arith : Arithmetic F) {c : Cluster F}

def mergeNote : String := "segment_merged_same_turn"

/-- A note that some piece has, or that the merge adds. -/
def Cluster.Notes (c : Cluster F) (note : String) : Prop :=
  (∃ p ∈ c.pieces, note ∈ p.notes) ∨ 2 ≤ c.pieces.length ∧ note = mergeNote

theorem words_merged (first : Segment F) (more : List (Segment F)) :
    words (more.foldl (mergeTwoSegments arith) first).text =
      (first :: more).flatMap fun p => words p.text := by
  induction more generalizing first with
  | nil => simp
  | cons p more ih =>
    have two : words (mergeTwoSegments arith first p).text = words first.text ++ words p.text := by
      have space : isSpace ' ' = true := by decide
      simp only [mergeTwoSegments, words_strip, List.append_assoc, List.singleton_append]
      rw [words_append_space _ _ space, words_strip, words_strip]
    rw [List.foldl_cons, ih]
    simp [two]

theorem segment_end (c : Cluster F) : (c.segment arith).endMs = (c.more.getLastD c.first).endMs := by
  obtain ⟨first, more⟩ := c
  induction more using List.reverseRecOn with
  | nil => rfl
  | append_singleton more p _ => simp [Cluster.segment, mergeTwoSegments]

theorem notes_merged (first : Segment F) (more : List (Segment F)) :
    (more.foldl (mergeTwoSegments arith) first).notes =
      (more.flatMap fun p => p.notes ++ [mergeNote]).foldl addNote first.notes := by
  induction more generalizing first with
  | nil => rfl
  | cons p more ih =>
    have two : (mergeTwoSegments arith first p).notes =
        (p.notes ++ [mergeNote]).foldl addNote first.notes := by
      simp [mergeTwoSegments, mergeNote]
    simp only [List.foldl_cons, ih, two, List.flatMap_cons, List.foldl_append]

theorem count_notes (c : Cluster F) (note : String) : (c.segment arith).notes.count note =
    max (c.first.notes.count note)
      (if note ∈ c.more.flatMap fun p => p.notes ++ [mergeNote] then 1 else 0) := by
  rw [Cluster.segment, notes_merged, count_addNotes]

theorem notes_iff {note : String} : c.Notes note ↔
    note ∈ c.first.notes ∨ note ∈ c.more.flatMap fun p => p.notes ++ [mergeNote] := by
  obtain ⟨first, more⟩ := c
  simp only [Cluster.Notes, Cluster.pieces, List.mem_cons, List.mem_flatMap, List.mem_append,
    List.length_cons, exists_eq_or_imp, List.not_mem_nil, or_false, or_assoc]
  apply or_congr_right
  constructor
  · intro h
    rcases h with ⟨p, hp, there⟩ | ⟨several, rfl⟩
    · exact ⟨p, hp, Or.inl there⟩
    · obtain ⟨p, hp⟩ := List.exists_mem_of_length_pos (l := more) (by omega)
      exact ⟨p, hp, Or.inr rfl⟩
  · intro h
    obtain ⟨p, hp, there | rfl⟩ := h
    · exact Or.inl ⟨p, hp, there⟩
    · have some_more := List.length_pos_of_mem hp
      exact Or.inr ⟨by omega, rfl⟩

theorem mem_notes (c : Cluster F) (note : String) : note ∈ (c.segment arith).notes ↔ c.Notes note := by
  rw [← List.count_pos_iff, count_notes, notes_iff, ← List.count_pos_iff (l := c.first.notes)]
  split <;> simp [*]

theorem count_of_mem_notes {note : String} (there : c.Notes note) :
    (c.segment arith).notes.count note = max 1 (c.first.notes.count note) := by
  rw [notes_iff, ← List.count_pos_iff (l := c.first.notes)] at there
  rw [count_notes]
  split
  · exact max_comm _ _
  · rename_i absent
    have in_first := there.resolve_right absent
    omega

end Merge

section Order
variable {F : Type} (arith : Arithmetic F) (maxGapMs : Int) (segments : List (Segment F))
  (turns : List Turn)

def SortedByStart (segments : List (Segment F)) : Prop :=
  segments.Pairwise fun a b => a.startMs ≤ b.startMs

def EndsNonDecreasing (segments : List (Segment F)) : Prop :=
  segments.Pairwise fun a b => a.endMs ≤ b.endMs

def wordsOf (segments : List (Segment F)) : List (List Char) := segments.flatMap fun s => words s.text

theorem firsts_sublist (clusters : List (Cluster F)) :
    (clusters.map Cluster.first).Sublist (clusters.flatMap Cluster.pieces) := by
  induction clusters with
  | nil => exact List.Sublist.refl _
  | cons c clusters ih =>
    rw [List.map_cons, List.flatMap_cons, Cluster.pieces, List.cons_append]
    exact (ih.trans (List.sublist_append_right _ _)).cons_cons _

theorem merged_words : wordsOf (mergeFragmentedSegments arith maxGapMs segments turns) =
    wordsOf segments := by
  have whole : ∀ c : Cluster F, words (c.segment arith).text = wordsOf c.pieces :=
    fun c => words_merged arith c.first c.more
  rw [← mergeClusters_segments]
  conv_rhs => rw [← mergeClusters_pieces arith maxGapMs segments turns]
  simp only [wordsOf, List.flatMap_map, List.flatMap_assoc] at whole ⊢
  simp only [whole]

variable {maxGapMs segments turns}

theorem merged_sorted (sorted : SortedByStart segments) :
    SortedByStart (mergeFragmentedSegments arith maxGapMs segments turns) := by
  have firsts := firsts_sublist (mergeClusters arith maxGapMs segments turns)
  rw [mergeClusters_pieces] at firsts
  have in_order := sorted.sublist firsts
  rw [SortedByStart, ← mergeClusters_segments, List.pairwise_map]
  rw [List.pairwise_map] at in_order
  simpa only [segment_start] using in_order

theorem ends_by_last {first p : Segment F} {more : List (Segment F)}
    (ends : EndsNonDecreasing (first :: more)) (piece : p ∈ first :: more) :
    p.endMs ≤ (more.getLastD first).endMs := by
  induction more using List.reverseRecOn with
  | nil => rw [List.mem_singleton.mp piece, List.getLastD_nil]
  | append_singleton more q _ =>
    rw [EndsNonDecreasing, ← List.cons_append, List.pairwise_append] at ends
    rw [List.getLastD_concat]
    rw [← List.cons_append] at piece
    rcases List.mem_append.mp piece with earlier | last
    · exact ends.2.2 p earlier q List.mem_cons_self
    · rw [List.mem_singleton.mp last]

theorem merged_covers (sorted : SortedByStart segments) (ends : EndsNonDecreasing segments)
    {c : Cluster F} (made : c ∈ mergeClusters arith maxGapMs segments turns) {p : Segment F}
    (piece : p ∈ c.pieces) :
    (c.segment arith).startMs ≤ p.startMs ∧ p.endMs ≤ (c.segment arith).endMs := by
  have within := pieces_sublist arith maxGapMs made
  rw [segment_start, segment_end]
  constructor
  · rcases List.mem_cons.mp piece with rfl | later
    · exact Int.le_refl _
    · exact List.rel_of_pairwise_cons (sorted.sublist within) later
  · exact ends_by_last (ends.sublist within) piece

variable (maxGapMs segments turns)

/-- What the merge keeps: every word in its place, every piece in one segment that spans it,
    the order of the starts, and every note. -/
structure Keeps : Prop where
  words : wordsOf (mergeFragmentedSegments arith maxGapMs segments turns) = wordsOf segments
  pieces : (mergeClusters arith maxGapMs segments turns).flatMap Cluster.pieces = segments
  merged : (mergeClusters arith maxGapMs segments turns).map (Cluster.segment arith) =
    mergeFragmentedSegments arith maxGapMs segments turns
  spans : ∀ c ∈ mergeClusters arith maxGapMs segments turns,
    (c.segment arith).startMs = c.first.startMs ∧
      (c.segment arith).endMs = (c.more.getLastD c.first).endMs ∧
      ∀ p ∈ c.pieces, (c.segment arith).startMs ≤ p.startMs ∧ p.endMs ≤ (c.segment arith).endMs
  sorted : SortedByStart (mergeFragmentedSegments arith maxGapMs segments turns)
  notes : ∀ c ∈ mergeClusters arith maxGapMs segments turns, ∀ note,
    note ∈ (c.segment arith).notes ↔ c.Notes note

variable {segments} in
/-- A note comes once, unless the first piece repeats it. -/
theorem merge_keeps (sorted : SortedByStart segments) (ends : EndsNonDecreasing segments) :
    Keeps arith maxGapMs segments turns ∧
      ∀ c ∈ mergeClusters arith maxGapMs segments turns, ∀ note, c.Notes note →
        (c.segment arith).notes.count note = max 1 (c.first.notes.count note) := by
  constructor
  · constructor
    · exact merged_words arith maxGapMs segments turns
    · exact mergeClusters_pieces arith maxGapMs segments turns
    · exact mergeClusters_segments arith maxGapMs segments turns
    · intro c made
      exact ⟨segment_start arith c, segment_end arith c, fun _ => merged_covers arith sorted ends made⟩
    · exact merged_sorted arith sorted
    · intro c _
      exact mem_notes arith c
  · intro c _ _
    exact count_of_mem_notes arith

end Order

theorem twoFragments_kept :
    Keeps exactArithmetic 800 twoFragments [⟨0, 900, "A"⟩] ∧
      ∀ c ∈ mergeClusters exactArithmetic 800 twoFragments [⟨0, 900, "A"⟩], ∀ note, c.Notes note →
        (c.segment exactArithmetic).notes.count note = max 1 (c.first.notes.count note) :=
  merge_keeps exactArithmetic 800 [⟨0, 900, "A"⟩] (by simp [SortedByStart, twoFragments, fragment])
    (by simp [EndsNonDecreasing, twoFragments, fragment])

def notedTwice : Segment Rat := { fragment 0 100 "so" with notes := ["checked", "checked"] }

theorem repeated_note_kept :
    ¬ ∀ (segments : List (Segment Rat)) (turns : List Turn),
      SortedByStart segments → EndsNonDecreasing segments →
        Keeps exactArithmetic (segmentMergeMaxGapMs none) segments turns ∧
          ∀ c ∈ mergeClusters exactArithmetic (segmentMergeMaxGapMs none) segments turns, ∀ note,
            c.Notes note → (c.segment exactArithmetic).notes.count note = 1 := by
  intro all
  have once := (all [notedTwice, fragment 150 200 "that"] [⟨0, 900, "A"⟩]
    (by simp [SortedByStart, notedTwice, fragment]) (by simp [EndsNonDecreasing, notedTwice, fragment])).2
    _ List.mem_cons_self "checked" (Or.inl ⟨notedTwice, List.mem_cons_self, List.mem_cons_self⟩)
  revert once
  decide

end Transcription
