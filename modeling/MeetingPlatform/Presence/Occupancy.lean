import MeetingPlatform.Lib.Runs
import MeetingPlatform.Presence.Segments

/- Counts of the people in a room, and what they tell about the booking of the room: when somebody
   was there first and last. A booking is confirmed by the next event, or by a run of the scheduler. -/
namespace Presence
open MeetingBooking Guards KeyedTable NoShow LabelledRuns

/-- The events, the bookings with their usages, and the statuses of the rooms. -/
structure Site where
  events : List OccupancyEvent
  store : NoShow.Store
  roomStatus : Nat → RoomStatus

section Times
variable (s : Site)

def Site.lastPresence (id : Nat) : Option Int :=
  (s.store.usages id).bind RoomBookingUsage.lastPresenceAt

/-- The columns `first_presence_at` and `last_presence_at` of a booking. -/
def Site.times (id : Nat) : Option Int × Option Int := (s.store.firstPresence id, s.lastPresence id)

def Site.confirm (id : Nat) (first last : Int) : Site :=
  { s with store := upsertPresenceConfirmation id first last s.store }

/-- The `UPDATE` for a booking that is confirmed already. -/
def bumpUsage (eventTime : Int) (occupancyCount : Nat) (u : RoomBookingUsage) : RoomBookingUsage :=
  { u with
    firstPresenceAt := some (u.firstPresenceAt.getD eventTime)
    lastPresenceAt := some eventTime
    usageStatus := if u.usageStatus = .notStarted ∧ 0 < occupancyCount then .inUse
      else u.usageStatus }

def Site.bump (id : Nat) (eventTime : Int) (occupancyCount : Nat) : Site :=
  let row := (s.store.usages id).map (bumpUsage eventTime occupancyCount)
  { s with store := { s.store with usages := Function.update s.store.usages id row } }

def Site.occupy (roomId : Nat) (allowed : Bool) : Site × Bool :=
  if allowed = true ∧ s.roomStatus roomId ≠ .occupied then
    ({ s with roomStatus := Function.update s.roomStatus roomId .occupied }, true)
  else (s, false)

def Site.record (e : OccupancyEvent) : Site := { s with events := s.events ++ [e] }

end Times

section Persist

structure PersistOccupancyInput where
  roomId : Nat
  meetingId : Option Nat
  occupancyCount : Int
  confidence : Option Rat
  eventTime : Int

def PersistOccupancyInput.event (input : PersistOccupancyInput) : OccupancyEvent :=
  ⟨input.roomId, input.meetingId, input.eventTime, input.occupancyCount.toNat, input.confidence⟩

def maxOccupancy : Int := 1000

def invalidOccupancyPayload : ApiError :=
  ⟨.badRequest, "INVALID_OCCUPANCY_PAYLOAD",
    "occupancyCount must be an integer between 0 and 1000.", []⟩

/-- The booking of a room at an instant: of several the one that started first. -/
def Site.activeBooking (s : Site) (roomId : Nat) (t : Int) : Option (Nat × RoomBooking) :=
  (s.store.bookings.select fun r => decide (r.2.roomId = roomId ∧ r.2.reservedStartTime ≤ t ∧
    t < r.2.reservedEndTime) && r.2.status.holdsRoom).minOn? fun r => r.2.reservedStartTime

def segmentQuery (cfg : PresenceConfig) (b : RoomBooking) (upTo : Int) : SegmentQuery :=
  ⟨b.roomId, b.reservedStartTime, min upTo b.reservedEndTime, cfg.toleranceMs, cfg.confirmMs⟩

/-- A new event, for the booking it falls in, and whether the room may become occupied by it. -/
def Site.evaluate (cfg : PresenceConfig) (s : Site) (e : OccupancyEvent) : Site × Bool :=
  match s.activeBooking e.roomId e.eventTime with
  | none => (s, true)
  | some (id, b) =>
    match s.store.firstPresence id with
    | some _ => (s.bump id e.eventTime e.occupancyCount, true)
    | none =>
      match computeConfirmedSegment (segmentQuery cfg b e.eventTime) s.events with
      | some c => (s.confirm id c.start e.eventTime, c.isActive)
      | none => (s, false)

def persist (cfg : PresenceConfig) (input : PersistOccupancyInput) (s : Site) :
    Except ApiError (Site × Bool) := do
  require (0 ≤ input.occupancyCount ∧ input.occupancyCount ≤ maxOccupancy) invalidOccupancyPayload
  let (s, allowed) := (s.record input.event).evaluate cfg input.event
  return s.occupy input.roomId (decide (0 < input.occupancyCount) && allowed)

end Persist

section Reconcile

def Site.candidate (s : Site) (now : Int) (r : Nat × RoomBooking) : Bool :=
  decide (s.store.firstPresence r.1 = none ∧ r.2.reservedStartTime ≤ now ∧
    now < r.2.reservedEndTime) && r.2.status.holdsRoom &&
    s.events.any fun e => decide (e.roomId = r.2.roomId ∧ 0 < e.occupancyCount ∧
      r.2.reservedStartTime ≤ e.eventTime ∧ e.eventTime ≤ now)

def reconcileOne (cfg : PresenceConfig) (now : Int) (acc : Site × Nat) (r : Nat × RoomBooking) :
    Site × Nat :=
  let (s, done) := acc
  match computeConfirmedSegment (segmentQuery cfg r.2 now) s.events with
  | none => (s, done)
  | some c =>
    let justConfirmed := (s.store.firstPresence r.1).isNone
    (((s.confirm r.1 c.start c.lastSeenAt).occupy r.2.roomId (justConfirmed && c.isActive)).1,
      if justConfirmed then done + 1 else done)

structure Reconciled where
  scanned : Nat
  confirmed : Nat

def reconcilePendingConfirmations (cfg : PresenceConfig) (now : Int) (s : Site) : Site × Reconciled :=
  let candidates := s.store.bookings.select (s.candidate now)
  let (s, done) := candidates.foldl (reconcileOne cfg now) (s, 0)
  (s, ⟨candidates.length, done⟩)

end Reconcile

section Frames
variable (s : Site)

@[simp] theorem confirm_events (id : Nat) (first last : Int) :
    (s.confirm id first last).events = s.events := rfl

@[simp] theorem confirm_bookings (id : Nat) (first last : Int) :
    (s.confirm id first last).store.bookings = s.store.bookings := rfl

@[simp] theorem occupy_events (roomId : Nat) (allowed : Bool) :
    (s.occupy roomId allowed).1.events = s.events := by
  rw [Site.occupy]
  split <;> rfl

@[simp] theorem occupy_store (roomId : Nat) (allowed : Bool) :
    (s.occupy roomId allowed).1.store = s.store := by
  rw [Site.occupy]
  split <;> rfl

@[simp] theorem occupy_times (roomId : Nat) (allowed : Bool) (k : Nat) :
    (s.occupy roomId allowed).1.times k = s.times k := by
  simp only [Site.times, Site.lastPresence, occupy_store]

variable {s}

theorem confirm_times (id : Nat) (first last : Int) (k : Nat) :
    (s.confirm id first last).times k =
      if k = id ∧ (s.times k).1 = none then (some first, some last) else s.times k := by
  by_cases same : k = id
  · subst same
    rw [Site.times, Site.times, Site.lastPresence, Site.lastPresence, Store.firstPresence,
      Store.firstPresence, Site.confirm, upsertPresenceConfirmation]
    simp only [Function.update_self, Option.bind_some, true_and]
    cases s.store.usages k with
    | none => rfl
    | some u =>
      by_cases before : u.firstPresenceAt.isSome = true
      · obtain ⟨x, first_x⟩ := Option.isSome_iff_exists.mp before
        simp [first_x]
      · rw [Option.not_isSome_iff_eq_none] at before
        simp [before]
  · rw [if_neg fun both => same both.1, Site.times, Site.times, Site.lastPresence,
      Site.lastPresence, Store.firstPresence, Store.firstPresence, Site.confirm,
      upsertPresenceConfirmation]
    simp only [Function.update_of_ne same]

theorem bump_times {id : Nat} {x : Int} (confirmed : (s.times id).1 = some x) (t : Int)
    (count : Nat) (k : Nat) :
    (s.bump id t count).times k = if k = id then (some x, some t) else s.times k := by
  by_cases same : k = id
  · subst same
    simp only [Site.times, Store.firstPresence] at confirmed
    obtain ⟨u, row, first_x⟩ := Option.bind_eq_some_iff.mp confirmed
    simp [Site.times, Site.lastPresence, Store.firstPresence, Site.bump, bumpUsage, row, first_x]
  · simp [Site.times, Site.lastPresence, Store.firstPresence, Site.bump, same]

theorem activeBooking_some {roomId : Nat} {t : Int} {id : Nat} {b : RoomBooking}
    (active : s.activeBooking roomId t = some (id, b)) :
    s.store.bookings.get? id = some b ∧ b.roomId = roomId ∧ b.reservedStartTime ≤ t ∧
      t < b.reservedEndTime := by
  have there := List.minOn?_mem active
  rw [mem_select] at there
  simp only [Bool.and_eq_true, decide_eq_true_eq] at there
  exact ⟨get?_eq_some.mpr there.1, there.2.1⟩

end Frames

section Steps
variable {cfg : PresenceConfig} {input : PersistOccupancyInput} {s s' : Site} {changed : Bool}

/-- What an event does to the times of a booking, with the reason in each case. -/
inductive Noticed (cfg : PresenceConfig) (s : Site) (e : OccupancyEvent) (k : Nat) :
    Option Int × Option Int → Prop where
  | elsewhere (other : ∀ b, s.activeBooking e.roomId e.eventTime ≠ some (k, b)) :
      Noticed cfg s e k (s.times k)
  | bumped {b : RoomBooking} {x : Int}
      (active : s.activeBooking e.roomId e.eventTime = some (k, b))
      (already : (s.times k).1 = some x) : Noticed cfg s e k (some x, some e.eventTime)
  | waiting {b : RoomBooking} (active : s.activeBooking e.roomId e.eventTime = some (k, b))
      (unconfirmed : (s.times k).1 = none)
      (none_lasts : computeConfirmedSegment (segmentQuery cfg b e.eventTime) s.events = none) :
      Noticed cfg s e k (s.times k)
  | confirmed {b : RoomBooking} {c : ConfirmedSegment}
      (active : s.activeBooking e.roomId e.eventTime = some (k, b))
      (unconfirmed : (s.times k).1 = none)
      (lasts : computeConfirmedSegment (segmentQuery cfg b e.eventTime) s.events = some c) :
      Noticed cfg s e k (some c.start, some e.eventTime)

theorem evaluate_times (e : OccupancyEvent) (k : Nat) :
    Noticed cfg s e k ((s.evaluate cfg e).1.times k) := by
  rw [Site.evaluate]
  cases active : s.activeBooking e.roomId e.eventTime with
  | none => exact .elsewhere fun b other => by simp [active] at other
  | some r =>
    obtain ⟨id, b⟩ := r
    have other_booking : k ≠ id → ∀ b', s.activeBooking e.roomId e.eventTime ≠ some (k, b') := by
      intro apart b' same
      rw [active, Option.some.injEq, Prod.mk.injEq] at same
      exact apart same.1.symm
    cases first : s.store.firstPresence id with
    | some x =>
      have already : (s.times id).1 = some x := first
      simp only [first]
      rw [bump_times already]
      by_cases same : k = id
      · subst same
        rw [if_pos rfl]
        exact .bumped active already
      · rw [if_neg same]
        exact .elsewhere (other_booking same)
    | none =>
      cases lasts : computeConfirmedSegment (segmentQuery cfg b e.eventTime) s.events with
      | none =>
        simp only [first, lasts]
        by_cases same : k = id
        · subst same
          exact .waiting active first lasts
        · exact .elsewhere (other_booking same)
      | some c =>
        simp only [first, lasts]
        rw [confirm_times]
        by_cases same : k = id
        · subst same
          rw [if_pos ⟨rfl, first⟩]
          exact .confirmed active first lasts
        · rw [if_neg fun both => same both.1]
          exact .elsewhere (other_booking same)

@[simp] theorem evaluate_events (e : OccupancyEvent) : (s.evaluate cfg e).1.events = s.events := by
  rw [Site.evaluate]
  split
  · rfl
  · split
    · rfl
    · split <;> rfl

@[simp] theorem evaluate_bookings (e : OccupancyEvent) :
    (s.evaluate cfg e).1.store.bookings = s.store.bookings := by
  rw [Site.evaluate]
  split
  · rfl
  · split
    · rfl
    · split <;> rfl

theorem persist_eq_ok : persist cfg input s = .ok (s', changed) ↔
    (0 ≤ input.occupancyCount ∧ input.occupancyCount ≤ maxOccupancy) ∧
      ((s.record input.event).evaluate cfg input.event).1.occupy input.roomId
        (decide (0 < input.occupancyCount) &&
          ((s.record input.event).evaluate cfg input.event).2) = (s', changed) := by
  simp only [persist, bind_eq_ok, require_eq_ok, pure_eq_ok]
  constructor
  · rintro ⟨_, within, result⟩
    exact ⟨within, result⟩
  · rintro ⟨within, result⟩
    exact ⟨(), within, result⟩

theorem persist_events (ok : persist cfg input s = .ok (s', changed)) :
    s'.events = s.events ++ [input.event] := by
  obtain ⟨-, result⟩ := persist_eq_ok.mp ok
  obtain rfl := congrArg Prod.fst result
  rw [occupy_events, evaluate_events]
  rfl

theorem persist_bookings (ok : persist cfg input s = .ok (s', changed)) :
    s'.store.bookings = s.store.bookings := by
  obtain ⟨-, result⟩ := persist_eq_ok.mp ok
  obtain rfl := congrArg Prod.fst result
  rw [occupy_store, evaluate_bookings]
  rfl

theorem persist_times (ok : persist cfg input s = .ok (s', changed)) (k : Nat) :
    Noticed cfg (s.record input.event) input.event k (s'.times k) := by
  obtain ⟨-, result⟩ := persist_eq_ok.mp ok
  obtain rfl := congrArg Prod.fst result
  rw [occupy_times]
  exact evaluate_times input.event k

end Steps

section Scheduler
variable {cfg : PresenceConfig} {now : Int}

theorem reconcileOne_cases (cfg : PresenceConfig) (now : Int) (s : Site) (done : Nat) (r : Nat × RoomBooking) :
    (reconcileOne cfg now (s, done) r).1.events = s.events ∧
      (reconcileOne cfg now (s, done) r).1.store.bookings = s.store.bookings ∧
      ∀ k, (reconcileOne cfg now (s, done) r).1.times k =
        match computeConfirmedSegment (segmentQuery cfg r.2 now) s.events with
        | none => s.times k
        | some c => if k = r.1 ∧ (s.times k).1 = none then (some c.start, some c.lastSeenAt)
          else s.times k := by
  simp only [reconcileOne]
  cases computeConfirmedSegment (segmentQuery cfg r.2 now) s.events with
  | none => exact ⟨rfl, rfl, fun _ => rfl⟩
  | some c =>
    refine ⟨by simp, by simp, ?_⟩
    intro k
    simp only [occupy_times]
    exact confirm_times r.1 c.start c.lastSeenAt k

theorem reconcile_fold (cfg : PresenceConfig) (now : Int) (rows : List (Nat × RoomBooking)) (s : Site) (done : Nat)
    (keys : (rows.map Prod.fst).Nodup) :
    (rows.foldl (reconcileOne cfg now) (s, done)).1.events = s.events ∧
      (rows.foldl (reconcileOne cfg now) (s, done)).1.store.bookings = s.store.bookings ∧
      (∀ k, k ∉ rows.map Prod.fst →
        (rows.foldl (reconcileOne cfg now) (s, done)).1.times k = s.times k) ∧
      ∀ k b, (k, b) ∈ rows → (rows.foldl (reconcileOne cfg now) (s, done)).1.times k =
        match computeConfirmedSegment (segmentQuery cfg b now) s.events with
        | none => s.times k
        | some c => if (s.times k).1 = none then (some c.start, some c.lastSeenAt)
          else s.times k := by
  induction rows generalizing s done with
  | nil => exact ⟨rfl, rfl, fun _ _ => rfl, nofun⟩
  | cons r rows ih =>
    rw [List.map_cons, List.nodup_cons] at keys
    obtain ⟨fresh, rest⟩ := keys
    obtain ⟨events, bookings, times⟩ := reconcileOne_cases cfg now s done r
    obtain ⟨ih_events, ih_bookings, ih_others, ih_rows⟩ :=
      ih (reconcileOne cfg now (s, done) r).1 (reconcileOne cfg now (s, done) r).2 rest
    have untouched : ∀ k, k ≠ r.1 → (reconcileOne cfg now (s, done) r).1.times k = s.times k := by
      intro k other
      rw [times k]
      split
      · rfl
      · rw [if_neg fun both => other both.1]
    rw [List.foldl_cons]
    refine ⟨ih_events.trans events, ih_bookings.trans bookings, ?_, ?_⟩
    · intro k away
      rw [List.map_cons, List.mem_cons, not_or] at away
      exact (ih_others k away.2).trans (untouched k away.1)
    · intro k b there
      rcases List.mem_cons.mp there with rfl | later
      · refine (ih_others k fresh).trans ?_
        rw [times k]
        simp only [true_and]
      · have other : k ≠ r.1 := by
          rintro rfl
          exact fresh (List.mem_map.mpr ⟨_, later, rfl⟩)
        rw [ih_rows k b later, events, untouched k other]

variable {s : Site}

theorem reconcile_events :
    (reconcilePendingConfirmations cfg now s).1.events = s.events :=
  (reconcile_fold _ _ _ s 0 (select_keys _ _)).1

theorem reconcile_bookings :
    (reconcilePendingConfirmations cfg now s).1.store.bookings = s.store.bookings :=
  (reconcile_fold _ _ _ s 0 (select_keys _ _)).2.1

/-- What a run of the scheduler does to the times of a booking. -/
inductive Settled (cfg : PresenceConfig) (s : Site) (now : Int) (k : Nat) :
    Option Int × Option Int → Prop where
  | passed (other : ∀ b, s.store.bookings.get? k = some b → s.candidate now (k, b) = false) :
      Settled cfg s now k (s.times k)
  | waiting {b : RoomBooking} (row : s.store.bookings.get? k = some b)
      (candidate : s.candidate now (k, b) = true)
      (none_lasts : computeConfirmedSegment (segmentQuery cfg b now) s.events = none) :
      Settled cfg s now k (s.times k)
  | confirmed {b : RoomBooking} {c : ConfirmedSegment} (row : s.store.bookings.get? k = some b)
      (candidate : s.candidate now (k, b) = true)
      (lasts : computeConfirmedSegment (segmentQuery cfg b now) s.events = some c) :
      Settled cfg s now k (some c.start, some c.lastSeenAt)

theorem candidate_unconfirmed {k : Nat} {b : RoomBooking} (candidate : s.candidate now (k, b) = true) :
    (s.times k).1 = none ∧ b.reservedStartTime ≤ now ∧ now < b.reservedEndTime := by
  simp only [Site.candidate, Bool.and_eq_true, decide_eq_true_eq] at candidate
  exact candidate.1.1

theorem reconcile_times (k : Nat) :
    Settled cfg s now k ((reconcilePendingConfirmations cfg now s).1.times k) := by
  obtain ⟨-, -, others, rows⟩ := reconcile_fold cfg now
    (s.store.bookings.select (s.candidate now)) s 0 (select_keys _ _)
  change Settled cfg s now k
    (((s.store.bookings.select (s.candidate now)).foldl (reconcileOne cfg now) (s, 0)).1.times k)
  by_cases there : k ∈ (s.store.bookings.select (s.candidate now)).map Prod.fst
  · obtain ⟨⟨k', b⟩, selected, rfl⟩ := List.mem_map.mp there
    rw [rows k' b selected]
    obtain ⟨row, candidate⟩ := mem_select.mp selected
    have stored := get?_eq_some.mpr row
    cases lasts : computeConfirmedSegment (segmentQuery cfg b now) s.events with
    | none => exact .waiting stored candidate lasts
    | some c =>
      simp only
      rw [if_pos (candidate_unconfirmed candidate).1]
      exact .confirmed stored candidate lasts
  · rw [others k there]
    refine .passed ?_
    intro b row
    rw [← Bool.not_eq_true]
    intro candidate
    exact there (List.mem_map.mpr ⟨(k, b), mem_select.mpr ⟨get?_eq_some.mp row, candidate⟩, rfl⟩)

end Scheduler

end Presence
