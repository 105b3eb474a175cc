import MeetingPlatform.Lib.Stretches
import MeetingPlatform.NoShow.Cases
import Mathlib.Algebra.Order.Group.Unbundled.Int

/- The presence in a room, as the query for a confirmed segment cuts it: zero counts that nobody
   comes back from are departures, and the positive counts between two of them are a segment. -/
namespace Presence
open Stretches

section Settings
open NoShow (ConfigKeyDef min_le_effective)

def presenceConfirmKey : ConfigKeyDef :=
  ⟨"no_show.presence_confirm_seconds", "NO_SHOW_PRESENCE_CONFIRM_SECONDS", 30, 1, by decide⟩

def presenceNoiseToleranceKey : ConfigKeyDef :=
  ⟨"no_show.presence_noise_tolerance_seconds", "NO_SHOW_PRESENCE_NOISE_TOLERANCE_SECONDS", 3, 0,
    by decide⟩

structure PresenceConfig where
  presenceConfirmSeconds : Int
  presenceNoiseToleranceSeconds : Int
  confirm_pos : 1 ≤ presenceConfirmSeconds
  tolerance_nonneg : 0 ≤ presenceNoiseToleranceSeconds

def presenceValues (stored env : String → Option Int) : PresenceConfig where
  presenceConfirmSeconds := presenceConfirmKey.effective stored env
  presenceNoiseToleranceSeconds := presenceNoiseToleranceKey.effective stored env
  confirm_pos := min_le_effective presenceConfirmKey stored env
  tolerance_nonneg := min_le_effective presenceNoiseToleranceKey stored env

def PresenceConfig.confirmMs (cfg : PresenceConfig) : Int := cfg.presenceConfirmSeconds * 1000

def PresenceConfig.toleranceMs (cfg : PresenceConfig) : Int :=
  cfg.presenceNoiseToleranceSeconds * 1000

end Settings

/-- A row of `room_events` of the type `occupancy_detected`. -/
structure OccupancyEvent where
  roomId : Nat
  meetingId : Option Nat
  eventTime : Int
  occupancyCount : Nat
  confidence : Option Rat
  deriving DecidableEq, Repr

structure SegmentQuery where
  roomId : Nat
  boundStart : Int
  boundEnd : Int
  toleranceMs : Int
  confirmMs : Int

section Query
variable (q : SegmentQuery) (events : List OccupancyEvent)

def SegmentQuery.within (e : OccupancyEvent) : Bool :=
  decide (e.roomId = q.roomId ∧ q.boundStart ≤ e.eventTime ∧ e.eventTime ≤ q.boundEnd)

def zeroEvents : List Int :=
  (events.filter fun e => q.within e && e.occupancyCount == 0).map (·.eventTime)

/-- A positive count follows within the tolerance, wherever the bounds are. -/
def comesBack (z : Int) : Bool :=
  events.any fun p => decide (p.roomId = q.roomId ∧ 0 < p.occupancyCount ∧ z < p.eventTime ∧
    p.eventTime ≤ z + q.toleranceMs)

def realDepartures : List Int := (zeroEvents q events).filter fun z => !comesBack q events z

def positiveEvents : List Int :=
  (events.filter fun e => q.within e && decide (0 < e.occupancyCount)).map (·.eventTime)

/-- The last real departure before a positive count. -/
def since (departures : List Int) (p : Int) : Option Int :=
  (departures.filter fun d => decide (d < p)).max?

structure Segment where
  segStart : Int
  segLastPositive : Int
  deriving DecidableEq, Repr

def groupOf (departures positives : List Int) (d : Option Int) : Option Segment := do
  let members := positives.filter fun p => decide (since departures p = d)
  let segStart ← members.min?
  let segLastPositive ← members.max?
  return ⟨segStart, segLastPositive⟩

/-- The positive counts, grouped by the departure that they come after. -/
def segments (departures positives : List Int) : List Segment :=
  (positives.map (since departures)).eraseDups.filterMap (groupOf departures positives)

def nextDeparture (departures : List Int) (s : Segment) : Option Int :=
  (departures.filter fun d => decide (s.segLastPositive < d)).min?

structure ConfirmedSegment where
  start : Int
  isActive : Bool
  lastSeenAt : Int
  deriving DecidableEq, Repr

def confirmed (departures : List Int) (s : Segment) : Option ConfirmedSegment :=
  let next := nextDeparture departures s
  let lastSeenAt := next.getD q.boundEnd
  if q.confirmMs ≤ lastSeenAt - s.segStart then some ⟨s.segStart, next.isNone, lastSeenAt⟩ else none

def computeConfirmedSegment : Option ConfirmedSegment :=
  let departures := realDepartures q events
  ((segments departures (positiveEvents q events)).filterMap (confirmed q departures)).minOn?
    (·.start)

end Query

section Meaning
variable (q : SegmentQuery) (events : List OccupancyEvent)

def presenceView : View Int where
  positive := {t | ∃ e ∈ events, e.roomId = q.roomId ∧ 0 < e.occupancyCount ∧ e.eventTime = t}
  zero := {t | ∃ e ∈ events, e.roomId = q.roomId ∧ e.occupancyCount = 0 ∧ e.eventTime = t}
  tolerance := q.toleranceMs
  start := q.boundStart
  bound := q.boundEnd

variable {q events}

theorem view_finite : (presenceView q events).Finite where
  positive := by
    refine (List.finite_toSet (events.map (·.eventTime))).subset ?_
    rintro t ⟨e, there, -, -, rfl⟩
    exact List.mem_map.mpr ⟨e, there, rfl⟩
  zero := by
    refine (List.finite_toSet (events.map (·.eventTime))).subset ?_
    rintro t ⟨e, there, -, -, rfl⟩
    exact List.mem_map.mpr ⟨e, there, rfl⟩

theorem mem_positiveEvents {p : Int} : p ∈ positiveEvents q events ↔ (presenceView q events).Seen p := by
  simp only [positiveEvents, List.mem_map, List.mem_filter, SegmentQuery.within, Bool.and_eq_true,
    decide_eq_true_eq]
  constructor
  · rintro ⟨e, ⟨there, ⟨room, from_start, to_end⟩, positive⟩, rfl⟩
    exact ⟨⟨e, there, room, positive, rfl⟩, from_start, to_end⟩
  · rintro ⟨⟨e, there, room, positive, rfl⟩, from_start, to_end⟩
    exact ⟨e, ⟨there, ⟨room, from_start, to_end⟩, positive⟩, rfl⟩

theorem comesBack_eq_false {z : Int} : comesBack q events z = false ↔
    ∀ p ∈ (presenceView q events).positive, z < p → z + q.toleranceMs < p := by
  rw [comesBack, List.any_eq_false]
  constructor
  · rintro nobody p ⟨e, there, room, positive, rfl⟩ after
    by_contra back
    exact nobody e there (decide_eq_true ⟨room, positive, after, not_lt.mp back⟩)
  · intro away e there back
    obtain ⟨room, positive, after, within⟩ := of_decide_eq_true back
    exact not_lt.mpr within (away e.eventTime ⟨e, there, room, positive, rfl⟩ after)

theorem mem_realDepartures {d : Int} :
    d ∈ realDepartures q events ↔ (presenceView q events).Departs d := by
  rw [realDepartures, List.mem_filter, Bool.not_eq_true', comesBack_eq_false]
  simp only [zeroEvents, List.mem_map, List.mem_filter, SegmentQuery.within, Bool.and_eq_true,
    decide_eq_true_eq, beq_iff_eq]
  constructor
  · rintro ⟨⟨e, ⟨there, ⟨room, from_start, to_end⟩, zero⟩, rfl⟩, away⟩
    exact ⟨⟨e, there, room, zero, rfl⟩, from_start, to_end, away⟩
  · rintro ⟨⟨e, there, room, zero, rfl⟩, from_start, to_end, away⟩
    exact ⟨⟨e, ⟨there, ⟨room, from_start, to_end⟩, zero⟩, rfl⟩, away⟩

theorem since_mem {departures : List Int} {p d : Int} (found : since departures p = some d) :
    d ∈ departures ∧ d < p := by
  have there := List.max?_mem found
  rw [List.mem_filter, decide_eq_true_eq] at there
  exact there

theorem le_since {departures : List Int} {p d c : Int} (found : since departures p = some d)
    (there : c ∈ departures) (before : c < p) : c ≤ d :=
  (List.max?_eq_some_iff.mp found).2 c (List.mem_filter.mpr ⟨there, decide_eq_true before⟩)

theorem since_eq_iff {departures : List Int} {p r : Int} (order : p ≤ r) :
    since departures p = since departures r ↔ ∀ d ∈ departures, p ≤ d → r ≤ d := by
  constructor
  · intro same d there after
    by_contra before
    cases later : since departures r with
    | none =>
      have empty := List.max?_eq_none_iff.mp later
      have mem : d ∈ departures.filter fun d => decide (d < r) :=
        List.mem_filter.mpr ⟨there, decide_eq_true (not_le.mp before)⟩
      rw [empty] at mem
      cases mem
    | some c =>
      have reach := le_since later there (not_le.mp before)
      have early := (since_mem (same.trans later)).2
      omega
  · intro joined
    have filters : (departures.filter fun d => decide (d < p)) =
        departures.filter fun d => decide (d < r) := by
      refine List.filter_congr ?_
      intro d there
      rw [decide_eq_decide]
      constructor
      · exact fun before => lt_of_lt_of_le before order
      · intro before
        by_contra after
        exact not_le.mpr before (joined d there (not_lt.mp after))
    rw [since, since, filters]

theorem joined_iff_since {p r : Int} (order : p ≤ r) : (presenceView q events).Joined p r ↔
    since (realDepartures q events) p = since (realDepartures q events) r := by
  rw [since_eq_iff order]
  constructor
  · exact fun joined d there after => joined d (mem_realDepartures.mp there) after
  · exact fun joined d departs after => joined d (mem_realDepartures.mpr departs) after

theorem groupOf_eq_some {departures positives : List Int} {d : Option Int} {s : Segment} :
    groupOf departures positives d = some s ↔
      (s.segStart ∈ positives ∧ since departures s.segStart = d) ∧
        (s.segLastPositive ∈ positives ∧ since departures s.segLastPositive = d) ∧
        ∀ p ∈ positives, since departures p = d → s.segStart ≤ p ∧ p ≤ s.segLastPositive := by
  obtain ⟨a, b⟩ := s
  simp only [groupOf, Option.bind_eq_bind, Option.bind_eq_some_iff, Option.pure_def,
    Option.some.injEq, Segment.mk.injEq, List.min?_eq_some_iff, List.max?_eq_some_iff,
    List.mem_filter, decide_eq_true_eq]
  constructor
  · rintro ⟨x, ⟨first, least⟩, y, ⟨last, greatest⟩, rfl, rfl⟩
    exact ⟨first, last, fun p there same => ⟨least p ⟨there, same⟩, greatest p ⟨there, same⟩⟩⟩
  · rintro ⟨first, last, between⟩
    exact ⟨a, ⟨first, fun p there => (between p there.1 there.2).1⟩, b,
      ⟨last, fun p there => (between p there.1 there.2).2⟩, rfl, rfl⟩

theorem mem_segments {s : Segment} :
    s ∈ segments (realDepartures q events) (positiveEvents q events) ↔
      (presenceView q events).Begins s.segStart ∧
        (presenceView q events).LastOf s.segStart s.segLastPositive := by
  rw [segments, List.mem_filterMap]
  simp only [List.mem_eraseDups, List.mem_map, groupOf_eq_some]
  constructor
  · rintro ⟨d, -, ⟨first, same⟩, ⟨last, same'⟩, between⟩
    have order := (between _ first same).2
    refine ⟨⟨mem_positiveEvents.mp first, ?_⟩, ⟨mem_positiveEvents.mp last, order, ?_, ?_⟩⟩
    · intro p seen before
      refine departure_of_not_joined ?_
      rw [joined_iff_since before.le, same]
      intro joined
      have least := (between p (mem_positiveEvents.mpr seen) joined).1
      omega
    · exact (joined_iff_since order).mpr (same.trans same'.symm)
    · intro p seen after joined
      have here := ((joined_iff_since after).mp joined).symm.trans same
      exact (between p (mem_positiveEvents.mpr seen) here).2
  · rintro ⟨begins, last⟩
    have first := mem_positiveEvents.mpr begins.seen
    refine ⟨since (realDepartures q events) s.segStart, ⟨_, first, rfl⟩, ⟨first, rfl⟩,
      ⟨mem_positiveEvents.mpr last.seen, ((joined_iff_since last.after).mp last.joined).symm⟩, ?_⟩
    intro p there same
    have seen := mem_positiveEvents.mp there
    have after : s.segStart ≤ p := by
      by_contra before
      obtain ⟨d, departs, between, until_s⟩ := begins.first p seen (not_le.mp before)
      have joined := (joined_iff_since (not_le.mp before).le).mpr same
      exact not_lt.mpr (joined d departs between) until_s
    exact ⟨after, last.greatest p seen after ((joined_iff_since after).mpr same.symm)⟩

theorem endsAt_iff {s : Segment} {e : Int} :
    (presenceView q events).EndsAt s.segLastPositive e ↔
      (nextDeparture (realDepartures q events) s).getD q.boundEnd = e := by
  have members : ∀ d, d ∈ ((realDepartures q events).filter fun d =>
      decide (s.segLastPositive < d)) ↔
        (presenceView q events).Departs d ∧ s.segLastPositive < d := by
    intro d
    rw [List.mem_filter, mem_realDepartures, decide_eq_true_eq]
  have ends : (presenceView q events).EndsAt s.segLastPositive
      ((nextDeparture (realDepartures q events) s).getD q.boundEnd) := by
    cases next : nextDeparture (realDepartures q events) s with
    | none =>
      have empty := List.min?_eq_none_iff.mp next
      refine .ongoing ?_
      intro c departs
      by_contra later
      have there := (members c).mpr ⟨departs, not_le.mp later⟩
      rw [empty] at there
      cases there
    | some d =>
      obtain ⟨there, least⟩ := List.min?_eq_some_iff.mp next
      obtain ⟨departs, later⟩ := (members d).mp there
      exact .departed departs later fun c departs later => least c ((members c).mpr ⟨departs, later⟩)
  constructor
  · intro other
    exact ends_unique ends other
  · rintro rfl
    exact ends

theorem confirmed_eq_some {s : Segment} {c : ConfirmedSegment}
    (found : confirmed q (realDepartures q events) s = some c) : c.start = s.segStart ∧
      (presenceView q events).EndsAt s.segLastPositive c.lastSeenAt ∧
        c.start + q.confirmMs ≤ c.lastSeenAt := by
  simp only [confirmed, Option.ite_none_right_eq_some, Option.some.injEq] at found
  obtain ⟨long, rfl⟩ := found
  refine ⟨rfl, endsAt_iff.mpr rfl, ?_⟩
  rw [add_comm]
  exact add_le_of_le_sub_right long

theorem candidate_of_lasts {r : Int} (begins : (presenceView q events).Begins r)
    (lasts : (presenceView q events).Lasts q.confirmMs r) :
    ∃ c ∈ (segments (realDepartures q events) (positiveEvents q events)).filterMap
      (confirmed q (realDepartures q events)), c.start = r := by
  obtain ⟨l, e, last, ends, long⟩ := lasts
  have row : ⟨r, l⟩ ∈ segments (realDepartures q events) (positiveEvents q events) :=
    mem_segments.mpr ⟨begins, last⟩
  have same := endsAt_iff.mp (show (presenceView q events).EndsAt (Segment.mk r l).segLastPositive e
    from ends)
  refine ⟨⟨r, (nextDeparture (realDepartures q events) ⟨r, l⟩).isNone, e⟩,
    List.mem_filterMap.mpr ⟨⟨r, l⟩, row, ?_⟩, rfl⟩
  have enough : q.confirmMs ≤ e - r := by omega
  simp only [confirmed, same]
  rw [if_pos enough]

theorem compute_first {c : ConfirmedSegment} (found : computeConfirmedSegment q events = some c) :
    (presenceView q events).FirstLasting q.confirmMs c.start ∧
      ∃ l, (presenceView q events).LastOf c.start l ∧
        (presenceView q events).EndsAt l c.lastSeenAt := by
  have there := List.minOn?_mem found
  obtain ⟨s, row, some_c⟩ := List.mem_filterMap.mp there
  obtain ⟨same, ends, long⟩ := confirmed_eq_some some_c
  obtain ⟨begins, last⟩ := mem_segments.mp row
  rw [← same] at begins last
  refine ⟨⟨begins, ⟨_, _, last, ends, long⟩, ?_⟩, _, last, ends⟩
  intro r begins' lasts'
  obtain ⟨d, candidate, rfl⟩ := candidate_of_lasts begins' lasts'
  have least := List.apply_get_minOn?_le_of_mem (f := fun c => c.start) candidate
  rw [computeConfirmedSegment] at found
  simp only [found, Option.get_some] at least
  exact least

theorem compute_start_iff {s : Int} : (computeConfirmedSegment q events).map (·.start) = some s ↔
    (presenceView q events).FirstLasting q.confirmMs s := by
  constructor
  · intro found
    obtain ⟨c, here, rfl⟩ := Option.map_eq_some_iff.mp found
    exact (compute_first here).1
  · intro first
    cases found : computeConfirmedSegment q events with
    | none =>
      obtain ⟨c, candidate, -⟩ := candidate_of_lasts first.begins first.lasts
      have some_found := List.isSome_minOn?_of_mem (f := fun c => c.start) candidate
      rw [computeConfirmedSegment] at found
      rw [found] at some_found
      cases some_found
    | some c => rw [Option.map_some, first_lasting_unique (compute_first found).1 first]

end Meaning

end Presence
