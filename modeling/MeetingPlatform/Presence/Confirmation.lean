import MeetingPlatform.Presence.PresenceTimes

/- Who confirms the presence in a booking: the next event, or a run of the scheduler before it. Both
   look for the first segment that lasts long enough, and what they have found stays the first one,
   as long as no event comes later with a time before that look. -/
namespace Presence
open MeetingBooking KeyedTable NoShow LabelledRuns Stretches

section Looks
variable {q : SegmentQuery} {events later : List OccupancyEvent}

theorem view_extends {bound : Int} (further : q.boundEnd ≤ bound)
    (after : ∀ e ∈ later, q.boundEnd ≤ e.eventTime ∧
      ∀ o ∈ events, o.roomId = q.roomId → o.eventTime ≤ e.eventTime) :
    Extends (presenceView q events) (presenceView { q with boundEnd := bound } (events ++ later)) where
  tolerance := rfl
  start := rfl
  bound := further
  positive := by
    rintro t ⟨e, there, found⟩
    exact ⟨e, List.mem_append.mpr (Or.inl there), found⟩
  zero := by
    rintro t ⟨e, there, found⟩
    exact ⟨e, List.mem_append.mpr (Or.inl there), found⟩
  new_positive := by
    rintro p ⟨e, there, room, positive, rfl⟩ new
    rcases List.mem_append.mp there with old | here
    · exact absurd ⟨e, old, room, positive, rfl⟩ new
    · refine ⟨(after e here).1, ?_⟩
      rintro r ⟨o, there, room, -, rfl⟩
      exact (after e here).2 o there room
  new_zero := by
    rintro z ⟨e, there, room, zero, rfl⟩ new
    rcases List.mem_append.mp there with old | here
    · exact absurd ⟨e, old, room, zero, rfl⟩ new
    · refine ⟨(after e here).1, ?_⟩
      rintro r ⟨o, there, room, -, rfl⟩
      exact (after e here).2 o there room

theorem first_lasting_extends {bound duration x : Int} (further : q.boundEnd ≤ bound)
    (after : ∀ e ∈ later, q.boundEnd ≤ e.eventTime ∧
      ∀ o ∈ events, o.roomId = q.roomId → o.eventTime ≤ e.eventTime)
    (first : (presenceView q events).FirstLasting duration x) :
    (presenceView { q with boundEnd := bound } (events ++ later)).FirstLasting duration x :=
  first_lasting_stable (view_extends further after) view_finite view_finite first

end Looks

section Operations
variable (cfg : PresenceConfig) (b : RoomBooking)

def SiteOp.time : SiteOp → Int
  | .persist _ input => input.eventTime
  | .reconcile _ now => now

def SiteOp.isEvent : SiteOp → Bool
  | .persist _ _ => true
  | .reconcile _ _ => false

/-- An event of the booking, or a run of the scheduler, under one configuration. -/
def SiteOp.OfBooking : SiteOp → Prop
  | .persist c input => c = cfg ∧ input.Valid ∧ input.roomId = b.roomId ∧
      b.reservedStartTime ≤ input.eventTime ∧ input.eventTime < b.reservedEndTime
  | .reconcile c _ => c = cfg

/-- No event has a time before that of an operation which came before it. -/
def SiteOp.Before (earlier later : SiteOp) : Prop := later.isEvent = true → earlier.time ≤ later.time

def SiteOp.EventsInOrder (earlier later : SiteOp) : Prop :=
  earlier.isEvent = true → later.isEvent = true → earlier.time ≤ later.time

instance (earlier later : SiteOp) : Decidable (earlier.Before later) :=
  inferInstanceAs (Decidable (_ = true → _ ≤ _))

instance (earlier later : SiteOp) : Decidable (earlier.EventsInOrder later) :=
  inferInstanceAs (Decidable (_ = true → _ = true → _ ≤ _))

def SiteOp.event? : SiteOp → Option OccupancyEvent
  | .persist _ input => some input.event
  | .reconcile _ _ => none

def eventsOf (ops : List SiteOp) : List OccupancyEvent := ops.filterMap SiteOp.event?

def closedFirst (id : Nat) (s : Site) (ops : List SiteOp) (now : Int) : Option Int :=
  firstColumn id ((ops.foldl Site.apply s).apply (.reconcile cfg now))

end Operations

section Placement
variable {cfg : PresenceConfig} {b : RoomBooking} {id : Nat} {s s₀ : Site} {ops : List SiteOp}
  {op : SiteOp} {now : Int}

/-- The booking is the active one in its room for as long as it lasts. -/
structure Alone (id : Nat) (b : RoomBooking) (s : Site) : Prop where
  row : s.store.bookings.get? id = some b
  active : ∀ t, b.reservedStartTime ≤ t → t < b.reservedEndTime →
    s.activeBooking b.roomId t = some (id, b)

/-- Nothing has been seen in the room since the booking started. -/
def Quiet (b : RoomBooking) (s : Site) : Prop :=
  ∀ e ∈ s.events, e.roomId = b.roomId → e.eventTime < b.reservedStartTime

theorem alone_apply (alone : Alone id b s) : Alone id b (s.apply op) where
  row := by rw [apply_bookings, alone.row]
  active := by
    intro t started ends
    rw [Site.activeBooking, apply_bookings]
    exact alone.active t started ends

theorem events_apply (ours : op.OfBooking cfg b) :
    (s.apply op).events = s.events ++ eventsOf [op] := by
  rw [apply_events]
  cases op with
  | persist c input =>
    simp only
    rw [if_pos ours.2.1]
    rfl
  | reconcile c now => exact (List.append_nil _).symm

theorem eventsOf_append (ops more : List SiteOp) :
    eventsOf (ops ++ more) = eventsOf ops ++ eventsOf more := List.filterMap_append

theorem eventsOf_isEvent (ops : List SiteOp) :
    eventsOf (ops.filter SiteOp.isEvent) = eventsOf ops := by
  rw [eventsOf, List.filterMap_filter]
  refine List.filterMap_congr ?_
  intro op _
  cases op <;> rfl

def lookUpTo (cfg : PresenceConfig) (b : RoomBooking) (bound : Int) : SegmentQuery :=
  { segmentQuery cfg b bound with boundEnd := bound }

def RightlyConfirmed (cfg : PresenceConfig) (b : RoomBooking) (id : Nat) (ops : List SiteOp)
    (s : Site) : Prop :=
  ∀ x, firstColumn id s = some x → ∃ bound ≤ b.reservedEndTime, (∃ op ∈ ops, bound ≤ op.time) ∧
    (presenceView (lookUpTo cfg b bound) s.events).FirstLasting cfg.confirmMs x

/-- What the operations leave behind, from the site `s₀`. -/
structure Followed (cfg : PresenceConfig) (b : RoomBooking) (id : Nat) (s₀ : Site)
    (ops : List SiteOp) (s : Site) : Prop where
  alone : Alone id b s
  events : s.events = s₀.events ++ eventsOf ops
  rightly : RightlyConfirmed cfg b id ops s

theorem seen_before_event (quiet : Quiet b s₀) (events : s.events = s₀.events ++ eventsOf ops)
    {c : PresenceConfig} {input : PersistOccupancyInput} (ours : (SiteOp.persist c input).OfBooking cfg b)
    (before : ∀ earlier ∈ ops, earlier.Before (.persist c input)) :
    ∀ o ∈ s.events, o.roomId = b.roomId → o.eventTime ≤ input.eventTime := by
  intro o there room
  rw [events] at there
  rcases List.mem_append.mp there with old | new
  · exact le_trans (quiet o old room).le ours.2.2.2.1
  · obtain ⟨earlier, listed, is_event⟩ := List.mem_filterMap.mp new
    have order := before earlier listed rfl
    cases earlier with
    | persist c' input' =>
      cases is_event
      exact order
    | reconcile c' t => cases is_event

theorem rightly_later (quiet : Quiet b s₀) (ours : op.OfBooking cfg b)
    (before : ∀ earlier ∈ ops, earlier.Before op) (followed : Followed cfg b id s₀ ops s) {x : Int}
    (there : firstColumn id s = some x) :
    ∃ bound ≤ b.reservedEndTime, (∃ looked ∈ ops ++ [op], bound ≤ looked.time) ∧
      (presenceView (lookUpTo cfg b bound) (s.apply op).events).FirstLasting cfg.confirmMs x := by
  obtain ⟨bound, inside, ⟨looked, listed, up_to⟩, first⟩ := followed.rightly x there
  refine ⟨bound, inside, ⟨looked, List.mem_append.mpr (Or.inl listed), up_to⟩, ?_⟩
  rw [events_apply ours]
  refine first_lasting_extends (q := lookUpTo cfg b bound) le_rfl ?_ first
  intro e new
  obtain ⟨op', only, is_event⟩ := List.mem_filterMap.mp new
  cases List.mem_singleton.mp only
  cases op with
  | persist c input =>
    cases is_event
    exact ⟨le_trans up_to (before looked listed rfl),
      seen_before_event quiet followed.events ours before⟩
  | reconcile c t => cases is_event

theorem rightly_confirmed_apply (quiet : Quiet b s₀) (ours : op.OfBooking cfg b)
    (before : ∀ earlier ∈ ops, earlier.Before op) (followed : Followed cfg b id s₀ ops s) :
    RightlyConfirmed cfg b id (ops ++ [op]) (s.apply op) := by
  have step := apply_times (s := s) op id
  have kept := fun x => rightly_later (x := x) quiet ours before followed
  have here : op ∈ ops ++ [op] := List.mem_append.mpr (Or.inr (List.mem_singleton.mpr rfl))
  simp only [RightlyConfirmed, firstColumn] at step kept ⊢
  generalize (s.apply op).times id = after at step
  cases step with
  | invalid invalid => exact kept
  | @noticed c input after valid noticed =>
    have grown := events_apply (s := s) ours
    obtain ⟨rfl, -, room, started, ends⟩ := ours
    have active : s.activeBooking input.roomId input.eventTime = some (id, b) := by
      rw [room]
      exact followed.alone.active _ started ends
    cases noticed with
    | elsewhere other => exact kept
    | bumped active' already =>
      intro x there
      exact kept x (already.trans there)
    | waiting active' unconfirmed none_lasts => exact kept
    | @confirmed b' found active' unconfirmed lasts =>
      cases active.symm.trans active'
      intro x there
      cases there
      rw [grown]
      exact ⟨_, min_le_right _ _, ⟨_, here, min_le_left _ _⟩, (compute_first lasts).1⟩
  | @settled c t after settled =>
    cases ours
    cases settled with
    | passed other => exact kept
    | waiting row candidate none_lasts => exact kept
    | @confirmed b' found row candidate lasts =>
      cases followed.alone.row.symm.trans row
      intro x there
      cases there
      have same : (s.apply (.reconcile cfg t)).events = s.events := reconcile_events
      rw [same]
      exact ⟨_, min_le_right _ _, ⟨_, here, min_le_left _ _⟩, (compute_first lasts).1⟩

theorem followed_run (alone : Alone id b s₀) (quiet : Quiet b s₀)
    (unset : firstColumn id s₀ = none) (ours : ∀ op ∈ ops, op.OfBooking cfg b)
    (order : ops.Pairwise SiteOp.Before) :
    Followed cfg b id s₀ ops (ops.foldl Site.apply s₀) := by
  induction ops using List.reverseRecOn with
  | nil =>
    refine ⟨alone, (List.append_nil _).symm, ?_⟩
    intro x first
    cases unset.symm.trans first
  | append_singleton ops op ih =>
    rw [List.pairwise_append] at order
    obtain ⟨front, -, across⟩ := order
    have here : op ∈ ops ++ [op] := List.mem_append.mpr (Or.inr (List.mem_singleton.mpr rfl))
    have followed := ih (fun op' there => ours op' (List.mem_append.mpr (Or.inl there))) front
    rw [List.foldl_append, List.foldl_cons, List.foldl_nil]
    refine ⟨alone_apply followed.alone, ?_, ?_⟩
    · rw [events_apply (ours op here), followed.events, eventsOf_append, List.append_assoc]
    · exact rightly_confirmed_apply quiet (ours op here)
        (fun earlier there => across earlier there op (List.mem_singleton.mpr rfl)) followed

theorem alone_holdsRoom (alone : Alone id b s) (started : b.reservedStartTime ≤ now)
    (ends : now < b.reservedEndTime) : b.status.holdsRoom = true := by
  have there := List.minOn?_mem (alone.active now started ends)
  rw [mem_select, Bool.and_eq_true] at there
  exact there.2.2

theorem nobody_of_passed (alone : Alone id b s) (started : b.reservedStartTime ≤ now)
    (ends : now < b.reservedEndTime) (unset : firstColumn id s = none)
    (passed : s.candidate now (id, b) = false) {x : Int} :
    ¬ (presenceView (segmentQuery cfg b now) s.events).Seen x := by
  rintro ⟨⟨e, there, room, positive, rfl⟩, from_start, to_now⟩
  have candidate : s.candidate now (id, b) = true := by
    simp only [Site.candidate, Bool.and_eq_true, decide_eq_true_eq, List.any_eq_true]
    exact ⟨⟨⟨unset, started, ends⟩, alone_holdsRoom alone started ends⟩, e, there, room, positive,
      from_start, le_trans to_now (min_le_left _ _)⟩
  rw [passed] at candidate
  cases candidate

theorem closing_iff (followed : Followed cfg b id s₀ ops s) (past : ∀ op ∈ ops, op.time ≤ now)
    (started : b.reservedStartTime ≤ now) (ends : now < b.reservedEndTime) (x : Int) :
    firstColumn id (s.apply (.reconcile cfg now)) = some x ↔
      (presenceView (segmentQuery cfg b now) s.events).FirstLasting cfg.confirmMs x := by
  have step : Settled cfg s now id ((reconcilePendingConfirmations cfg now s).1.times id) :=
    reconcile_times id
  simp only [firstColumn, Site.apply] at step ⊢
  generalize (reconcilePendingConfirmations cfg now s).1.times id = after at step
  cases step with
  | passed other =>
    cases first : (s.times id).1 with
    | none =>
      refine iff_of_false (Option.some_ne_none x).symm ?_
      intro lasting
      exact nobody_of_passed followed.alone started ends first (other b followed.alone.row)
        lasting.begins.seen
    | some y =>
      obtain ⟨bound, inside, ⟨looked, listed, up_to⟩, lasting⟩ := followed.rightly y first
      have further : bound ≤ min now b.reservedEndTime :=
        le_min (le_trans up_to (past looked listed)) inside
      have still := first_lasting_extends further
        (fun e nowhere => absurd nowhere (List.not_mem_nil (a := e))) lasting
      rw [List.append_nil] at still
      constructor
      · rintro ⟨⟩
        exact still
      · intro lasting'
        rw [first_lasting_unique still lasting']
  | @waiting b' row candidate none_lasts =>
    cases followed.alone.row.symm.trans row
    refine Iff.trans ?_ compute_start_iff
    rw [none_lasts, (candidate_unconfirmed candidate).1]
    exact Iff.rfl
  | @confirmed b' c row candidate lasts =>
    cases followed.alone.row.symm.trans row
    refine Iff.trans ?_ compute_start_iff
    rw [lasts]
    rfl

/-- Whoever confirms the booking, and whenever the scheduler runs: the first presence is the start
    of the first segment that lasts long enough. -/
theorem first_presence_agrees (alone : Alone id b s) (quiet : Quiet b s)
    (unset : firstColumn id s = none) (ours : ∀ op ∈ ops, op.OfBooking cfg b)
    (order : ops.Pairwise SiteOp.Before) (past : ∀ op ∈ ops, op.time ≤ now)
    (started : b.reservedStartTime ≤ now) (ends : now < b.reservedEndTime) :
    closedFirst cfg id s ops now = closedFirst cfg id s (ops.filter SiteOp.isEvent) now ∧
      ∀ x, closedFirst cfg id s ops now = some x ↔
        (presenceView (segmentQuery cfg b now) (s.events ++ eventsOf ops)).FirstLasting
          cfg.confirmMs x := by
  have found : ∀ ops' : List SiteOp, ops'.Sublist ops → ∀ x, closedFirst cfg id s ops' now = some x ↔
      (presenceView (segmentQuery cfg b now) (s.events ++ eventsOf ops')).FirstLasting
        cfg.confirmMs x := by
    intro ops' among x
    have followed := followed_run alone quiet unset (fun op there => ours op (among.subset there))
      (order.sublist among)
    rw [← followed.events]
    exact closing_iff followed (fun op there => past op (among.subset there)) started ends x
  refine ⟨?_, found ops (List.Sublist.refl ops)⟩
  refine Option.ext ?_
  intro x
  rw [found ops (List.Sublist.refl ops), found _ List.filter_sublist, eventsOf_isEvent]

end Placement

section Delayed

def onlyBooking : RoomBooking := ⟨1, 5, 0, 3600000, .approved⟩

theorem freshSite_alone : Alone 0 onlyBooking freshSite where
  row := by decide
  active := by
    intro t started ends
    have inside : decide (onlyBooking.roomId = onlyBooking.roomId ∧
        onlyBooking.reservedStartTime ≤ t ∧ t < onlyBooking.reservedEndTime) = true :=
      decide_eq_true ⟨rfl, started, ends⟩
    have selected : (freshSite.store.bookings.select fun r => decide (r.2.roomId = 5 ∧
        r.2.reservedStartTime ≤ t ∧ t < r.2.reservedEndTime) && r.2.status.holdsRoom) =
          [(0, onlyBooking)] :=
      List.filter_cons_of_pos ((Bool.and_eq_true _ _).mpr ⟨inside, rfl⟩)
    rw [Site.activeBooking]
    exact congrArg (List.minOn? _) selected

theorem counts_ofBooking {t run u : Int} (first : 0 ≤ t ∧ t < 3600000)
    (last : 0 ≤ u ∧ u < 3600000) :
    ∀ op ∈ [count 1 t, .reconcile thirtySeconds run, count 0 u],
      op.OfBooking thirtySeconds onlyBooking := by
  have one_valid : (0 : Int) ≤ 1 ∧ 1 ≤ maxOccupancy := by decide
  have zero_valid : (0 : Int) ≤ 0 ∧ 0 ≤ maxOccupancy := by decide
  intro op there
  simp only [List.mem_cons, List.not_mem_nil, or_false] at there
  rcases there with rfl | rfl | rfl
  · exact ⟨rfl, one_valid, rfl, first.1, first.2⟩
  · rfl
  · exact ⟨rfl, zero_valid, rfl, last.1, last.2⟩

def noticedByScheduler : List SiteOp := [count 1 0, .reconcile thirtySeconds 31000, count 0 45000]

theorem first_presence_agrees_in_order :
    closedFirst thirtySeconds 0 freshSite noticedByScheduler 60000 =
      closedFirst thirtySeconds 0 freshSite [count 1 0, count 0 45000] 60000 := by
  have ours : ∀ op ∈ noticedByScheduler, op.OfBooking thirtySeconds onlyBooking :=
    counts_ofBooking (by decide) (by decide)
  exact (first_presence_agrees freshSite_alone nofun rfl ours (by decide) (by decide) (by decide)
    (by decide)).1

def delayedZero : List SiteOp := [count 1 0, .reconcile thirtySeconds 35000, count 0 29000]

theorem delayed_event_differs : ¬ ∀ cfg id b s ops now, Alone id b s → Quiet b s →
    firstColumn id s = none → (∀ op ∈ ops, op.OfBooking cfg b) →
    ops.Pairwise SiteOp.EventsInOrder → (∀ op ∈ ops, op.time ≤ now) →
    b.reservedStartTime ≤ now → now < b.reservedEndTime →
    closedFirst cfg id s ops now = closedFirst cfg id s (ops.filter SiteOp.isEvent) now := by
  intro claimed
  have ours : ∀ op ∈ delayedZero, op.OfBooking thirtySeconds onlyBooking :=
    counts_ofBooking (by decide) (by decide)
  have same := claimed thirtySeconds 0 onlyBooking freshSite delayedZero 40000 freshSite_alone nofun
    rfl ours (by decide) (by decide) (by decide) (by decide)
  exact absurd same (by decide +kernel)

end Delayed

end Presence
