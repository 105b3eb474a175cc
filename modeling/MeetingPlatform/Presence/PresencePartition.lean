import MeetingPlatform.Presence.Stays

/- The segments of a session and the gaps that they leave. A sighting that stands alone is taken to
   last for one gap, whatever happens next; an enter within that gap is counted from its own time. -/
namespace FacePresence
open TimeSpans Admissions

section Partition

def SessionResult.spans (session : SessionResult) : List (Span Int) :=
  session.segments.map PresenceSegment.span

structure Partitions (bound : Bound) (session : SessionResult) : Prop where
  within : ∀ s ∈ session.spans, bound.startMs ≤ s.start ∧ s.start ≤ s.stop ∧ s.stop ≤ bound.endMs
  sorted : session.spans.Pairwise fun s t => s.start ≤ t.start
  disjoint : session.spans.Pairwise fun s t => s.stop ≤ t.start ∨ t.stop ≤ s.start
  duration : session.durationMs = total session.spans
  once : ∀ x, bound.startMs ≤ x → x < bound.endMs →
    (session.spans ++ absentGaps session.segments bound).countP (Span.has x) = 1
  balance : session.durationMs + total (absentGaps session.segments bound) =
    bound.endMs - bound.startMs

/-- What the loop has before it, up to the event `e`. -/
def LoneBefore (r : Reading) (w : Whereabouts) (earlier : List RawEvt) (e : RawEvt) (c : Int) : Prop :=
  (whereAfter r w earlier).LoneEnter e c

/-- Where an enter comes after a sighting at `c` that stands alone, no later stay has a part in the
    meeting before the gap after `c` is over. -/
def TailsFree (r : Reading) (w : Whereabouts) (events : List RawEvt) : Prop :=
  ∀ earlier e later c, events = earlier ++ e :: later → LoneBefore r w earlier e c →
    ∀ s ∈ stays r (.inside e.eventTime e.eventTime) later,
      min (c + r.gapMs) (min s.stop r.bound.endMs) ≤ max s.start r.bound.startMs

/-- Some stay has a part in the meeting, or no part of the meeting lies between two of the events. -/
def SomeStay (r : Reading) (events : List RawEvt) : Prop :=
  (∃ s ∈ stays r .outside events, max s.start r.bound.startMs < min s.stop r.bound.endMs) ∨
    ∀ a ∈ events, ∀ b ∈ events, min b.eventTime r.bound.endMs ≤ max a.eventTime r.bound.startMs

end Partition

section Segments
variable {r : Reading} {w : Whereabouts} {e : RawEvt} {events : List RawEvt} {t : Int}

theorem spans_clipped (bound : Bound) (raw : List PresenceSegment) :
    (clippedSegments bound raw).map PresenceSegment.span =
      clipped bound.span (raw.map PresenceSegment.span) := by
  induction raw with
  | nil => rfl
  | cons s rest ih =>
    simp only [clippedSegments, clipped, List.map_cons, List.filter_cons] at ih ⊢
    by_cases proper : (s.clip bound).start < (s.clip bound).stop
    · rw [if_pos (decide_eq_true proper)]
      exact (congrArg _ ih).trans (if_pos (decide_eq_true proper)).symm
    · rw [if_neg (by rw [decide_eq_true_eq]; exact proper)]
      exact ih.trans (if_neg (by rw [decide_eq_true_eq]; exact proper)).symm

theorem total_spans (segments : List PresenceSegment) :
    total (segments.map PresenceSegment.span) = durationOf segments := by
  rw [total, durationOf, List.map_map]
  rfl

theorem tailsFree_cons : TailsFree r w (e :: events) ↔
    (∀ c, w.LoneEnter e c → ∀ s ∈ stays r (.inside e.eventTime e.eventTime) events,
      min (c + r.gapMs) (min s.stop r.bound.endMs) ≤ max s.start r.bound.startMs) ∧
      TailsFree r (w.next r e) events := by
  constructor
  · intro free
    refine ⟨fun c lone => free [] e events c rfl lone, ?_⟩
    intro earlier e' later c split lone
    exact free (e :: earlier) e' later c (congrArg _ split) lone
  · rintro ⟨here, rest⟩ earlier e' later c split lone
    cases earlier with
    | nil =>
      cases split
      exact here c lone
    | cons first earlier =>
      cases split
      exact rest earlier e' later c rfl lone

theorem clear_of_many (by_now : w.By e.eventTime) (events_from : From e.eventTime events)
    (many : ∀ c, ¬ w.LoneEnter e c) : ∀ s ∈ (w.ended r e).toList, ∀ s' ∈ stays r (w.next r e) events,
      ClearIn r.bound.span s.span s'.span := by
  intro s now s' later
  have ended := Option.mem_toList.mp now
  have start := since_le_start (next_by by_now) events_from later
  rw [(ended_start ended).2] at start
  exact clearIn_of_before ((ended_by by_now ended many).trans start)

theorem clear_iff_tailsFree (by_now : w.By t) (events_from : From t events) :
    (stays r w events).Pairwise (fun s s' => ClearIn r.bound.span s.span s'.span) ↔
      TailsFree r w events := by
  induction events generalizing w t with
  | nil =>
    refine iff_of_true ?_ ?_
    · rw [stays]
      cases w.final r with
      | none => exact List.Pairwise.nil
      | some s => exact List.pairwise_singleton _ s
    · intro earlier e later c split
      cases earlier <;> cases split
  | cons e rest ih =>
    have by_event := by_later by_now (events_from.later e List.mem_cons_self)
    have rest_from := from_tail events_from
    have one : ((w.ended r e).toList).Pairwise
        (fun s s' => ClearIn r.bound.span s.span s'.span) := by
      cases w.ended r e with
      | none => exact List.Pairwise.nil
      | some s => exact List.pairwise_singleton _ s
    rw [stays, List.pairwise_append, and_iff_right one, ih (next_by by_event) rest_from,
      tailsFree_cons, and_comm]
    refine and_congr_left' ?_
    by_cases lone : ∃ c, w.LoneEnter e c
    · obtain ⟨c, rfl, sign⟩ := lone
      have ended : (Whereabouts.sighted c c).ended r e = some (sighting r c c) := by
        simp only [Whereabouts.ended, sign]
      have next : (Whereabouts.sighted c c).next r e = .inside e.eventTime e.eventTime := by
        simp only [Whereabouts.next, sign]
      rw [ended, next]
      have each : ∀ s ∈ stays r (.inside e.eventTime e.eventTime) rest,
          (ClearIn r.bound.span (sighting r c c).span s.span ↔
            min (c + r.gapMs) (min s.stop r.bound.endMs) ≤ max s.start r.bound.startMs) := by
        intro s there
        have start : e.eventTime ≤ s.start :=
          since_le_start (w := .inside e.eventTime e.eventTime) ⟨le_rfl, le_rfl⟩ rest_from there
        rw [clearIn_iff (by_event.2.trans start)]
        simp only [PresenceSegment.span, sighting, clusterEnd, if_true, Bound.span]
        omega
      constructor
      · rintro clear c' ⟨⟨⟩, -⟩ s there
        exact (each s there).mp (clear _ (List.mem_singleton.mpr rfl) s there)
      · intro free s now s' there
        cases List.mem_singleton.mp now
        exact (each s' there).mpr (free c ⟨rfl, sign⟩ s' there)
    · rw [not_exists] at lone
      exact iff_of_true (clear_of_many by_event rest_from lone) fun c is_lone => absurd is_lone (lone c)

end Segments

section Session
variable {r : Reading} {events : List RawEvt}

theorem inOrder_sorted (events : List RawEvt) :
    (inOrder events).Pairwise fun a b => a.eventTime ≤ b.eventTime := by
  let le := fun a b : RawEvt => a.eventTime ≤ b.eventTime
  have total : Std.Total le := ⟨fun a b => le_total a.eventTime b.eventTime⟩
  have trans : IsTrans RawEvt le := ⟨fun a b c => le_trans⟩
  exact List.pairwise_insertionSort le _

theorem inOrder_from {first : RawEvt} {rest : List RawEvt} (read : inOrder events = first :: rest) :
    From first.eventTime (first :: rest) := by
  have sorted := read ▸ inOrder_sorted events
  refine ⟨sorted, ?_⟩
  rw [List.forall_mem_cons]
  exact ⟨le_rfl, (List.pairwise_cons.mp sorted).1⟩

theorem session_spans (r : Reading) (events : List RawEvt) : (buildSession r events).spans =
    clipped r.bound.span ((stays r .outside (inOrder events)).map PresenceSegment.span) := by
  unfold buildSession
  cases inOrder events with
  | nil => rfl
  | cons first rest =>
    have raw := loop_refines (r := r) (l := {}) (w := .outside) ⟨rfl, rfl⟩ (first :: rest)
    rw [List.nil_append] at raw
    rw [← raw, ← spans_clipped]
    rfl

theorem spans_apart_iff (r : Reading) (events : List RawEvt) :
    (buildSession r events).spans.Pairwise Span.Before ↔ TailsFree r .outside (inOrder events) := by
  rw [session_spans, clipped_before_iff, List.pairwise_map]
  cases read : inOrder events with
  | nil => exact clear_iff_tailsFree (t := 0) trivial ⟨List.Pairwise.nil, by simp⟩
  | cons first rest => exact clear_iff_tailsFree trivial (inOrder_from read)

theorem spans_sorted (r : Reading) (events : List RawEvt) :
    (buildSession r events).spans.Pairwise fun s t => s.start ≤ t.start := by
  rw [session_spans]
  refine clipped_sorted (List.pairwise_map.mpr ?_)
  cases read : inOrder events with
  | nil => exact List.Pairwise.nil
  | cons first rest => exact stays_sorted (t := first.eventTime) trivial (inOrder_from read)

theorem spans_empty_iff (r : Reading) (events : List RawEvt) : (buildSession r events).spans = [] ↔
    ¬ ∃ s ∈ stays r .outside (inOrder events),
      max s.start r.bound.startMs < min s.stop r.bound.endMs := by
  rw [session_spans, clipped, List.filter_eq_nil_iff, List.map_map, List.forall_mem_map]
  simp only [decide_eq_true_eq, not_exists, not_and]
  exact Iff.rfl

theorem segments_empty_iff (session : SessionResult) : session.segments = [] ↔ session.spans = [] := by
  rw [SessionResult.spans, List.map_eq_nil_iff]

theorem no_part_iff {first last : RawEvt} {init rest : List RawEvt} {bound : Bound}
    (events_from : From first.eventTime (first :: rest)) (split : first :: rest = init ++ [last]) :
    max 0 (min last.eventTime bound.endMs - max first.eventTime bound.startMs) = 0 ↔
      ∀ a ∈ first :: rest, ∀ b ∈ first :: rest,
        min b.eventTime bound.endMs ≤ max a.eventTime bound.startMs := by
  have last_there : last ∈ first :: rest := by
    rw [split]
    exact List.mem_append.mpr (Or.inr (List.mem_singleton.mpr rfl))
  have latest : ∀ e ∈ first :: rest, e.eventTime ≤ last.eventTime := by
    have sorted := events_from.sorted
    rw [split] at sorted ⊢
    intro e there
    rcases List.mem_append.mp there with before | same
    · exact (List.pairwise_append.mp sorted).2.2 e before last (List.mem_singleton.mpr rfl)
    · exact (congrArg _ (List.mem_singleton.mp same)).le
  constructor
  · intro no_span a a_there b b_there
    have first_le := events_from.later a a_there
    have le_last := latest b b_there
    omega
  · intro apart
    have ends := apart first List.mem_cons_self last last_there
    omega

theorem duration_iff (r : Reading) (events : List RawEvt) :
    (buildSession r events).durationMs = total (buildSession r events).spans ↔
      SomeStay r (inOrder events) := by
  have empty := spans_empty_iff r events
  rw [← segments_empty_iff] at empty
  rw [SessionResult.spans, total_spans]
  unfold buildSession at empty ⊢
  unfold SomeStay
  cases read : inOrder events with
  | nil => exact iff_of_true rfl (Or.inr (List.forall_mem_nil _))
  | cons first rest =>
    obtain ⟨init, last, split⟩ :=
      (List.eq_nil_or_concat' (first :: rest)).resolve_left (List.cons_ne_nil first rest)
    have lastActivity : (((first :: rest).foldl (Loop.step r) {}).close r).lastActivity =
        last.eventTime := by
      rw [close_lastActivity, split, loop_lastActivity]
    rw [read] at empty
    dsimp only at empty ⊢
    rw [lastActivity]
    by_cases none_left : clippedSegments r.bound
        (((first :: rest).foldl (Loop.step r) {}).close r).raw = []
    · rw [if_pos none_left, none_left, or_iff_right (empty.mp none_left)]
      exact no_part_iff (inOrder_from read) split
    · rw [if_neg none_left]
      exact iff_of_true rfl (Or.inl (not_not.mp (mt empty.mpr none_left)))

theorem absentGaps_eq (sorted : (buildSession r events).spans.Pairwise fun s t => s.start ≤ t.start) :
    absentGaps (buildSession r events).segments r.bound =
      gaps r.bound.endMs r.bound.startMs (buildSession r events).spans := by
  have same := List.Pairwise.insertionSort_eq sorted
  rw [absentGaps]
  exact congrArg _ same

/-- A session is a partition of its meeting exactly when no lone sighting runs on into a later stay
    within the meeting, and some stay lies in the meeting where the events go on during it. -/
theorem session_partitions_iff (order : r.bound.startMs ≤ r.bound.endMs) :
    Partitions r.bound (buildSession r events) ↔
      TailsFree r .outside (inOrder events) ∧ SomeStay r (inOrder events) := by
  have sorted := spans_sorted r events
  have proper : ∀ s ∈ (buildSession r events).spans, s.Proper := by
    intro s there
    rw [session_spans] at there
    exact (mem_clipped.mp there).1
  rw [← spans_apart_iff, ← duration_iff]
  constructor
  · intro partition
    refine ⟨?_, partition.duration⟩
    refine (List.Pairwise.and sorted partition.disjoint).imp_of_mem ?_
    rintro s t - t_there ⟨starts, before | after⟩
    · exact before
    · exact absurd (lt_of_lt_of_le (proper t t_there) after) (not_lt.mpr starts)
  · rintro ⟨apart, duration⟩
    have row : InRow r.bound.startMs r.bound.endMs (buildSession r events).spans := by
      rw [session_spans] at apart ⊢
      exact clipped_inRow apart
    have balance := total_with_gaps order row
    refine ⟨row.within, sorted, apart.imp Or.inl, duration, ?_, ?_⟩
    · intro x from_start until_end
      rw [absentGaps_eq sorted, List.countP_append, count_with_gaps order row,
        if_pos ⟨from_start, until_end⟩]
    · rw [absentGaps_eq sorted, duration, balance]

def hourReading : Reading := ⟨⟨0, 3600000, "completed"⟩, 120000, 4000000⟩

def seenThenEnter : List RawEvt :=
  [⟨600000, some "seen"⟩, ⟨660000, some "enter"⟩, ⟨1200000, some "leave"⟩]

theorem minute_counted_twice : ¬ ∀ (r : Reading) (events : List RawEvt), 0 < r.gapMs →
    r.bound.startMs < r.bound.endMs → Partitions r.bound (buildSession r events) := by
  intro claimed
  have disjoint := (claimed hourReading seenThenEnter (by decide) (by decide)).disjoint
  exact absurd disjoint (by decide)

def seenEarlier : List RawEvt :=
  [⟨540000, some "seen"⟩, ⟨660000, some "enter"⟩, ⟨1200000, some "leave"⟩, ⟨1800000, none⟩]

theorem partition_of_seenEarlier : hourReading.bound.startMs ≤ hourReading.bound.endMs ∧
    (buildSession hourReading seenEarlier).spans =
      [⟨540000, 660000⟩, ⟨660000, 1200000⟩, ⟨1800000, 1920000⟩] ∧
    Partitions hourReading.bound (buildSession hourReading seenEarlier) := by
  have order : hourReading.bound.startMs ≤ hourReading.bound.endMs := by decide
  have apart := (spans_apart_iff hourReading seenEarlier).mp (by decide)
  have duration := (duration_iff hourReading seenEarlier).mp (by decide)
  exact ⟨order, by decide, (session_partitions_iff order).mpr ⟨apart, duration⟩⟩

end Session

end FacePresence
