import MeetingPlatform.Presence.Occupancy

/- The first and the last presence of a booking over whole runs. The first one stays; the last one is
   the time of whatever event came last, so that it goes back with an event that comes late. -/
namespace Presence
open MeetingBooking KeyedTable NoShow LabelledRuns Stretches

section Operations

/-- Each with the configuration that is read for it. -/
inductive SiteOp where
  | persist (cfg : PresenceConfig) (input : PersistOccupancyInput)
  | reconcile (cfg : PresenceConfig) (now : Int)

def Site.apply (s : Site) : SiteOp → Site
  | .persist cfg input =>
    match Presence.persist cfg input s with
    | .ok (s', _) => s'
    | .error _ => s
  | .reconcile cfg now => (reconcilePendingConfirmations cfg now s).1

def PersistOccupancyInput.Valid (input : PersistOccupancyInput) : Prop :=
  0 ≤ input.occupancyCount ∧ input.occupancyCount ≤ maxOccupancy

instance (input : PersistOccupancyInput) : Decidable input.Valid :=
  inferInstanceAs (Decidable (_ ∧ _))

variable {cfg : PresenceConfig} {input : PersistOccupancyInput} {s : Site} {id : Nat}

theorem apply_invalid (invalid : ¬ input.Valid) : s.apply (.persist cfg input) = s := by
  rw [Site.apply]
  cases result : Presence.persist cfg input s with
  | error e => rfl
  | ok p => exact absurd (persist_eq_ok.mp result).1 invalid

theorem apply_valid (cfg : PresenceConfig) (s : Site) (valid : input.Valid) : ∃ changed,
    Presence.persist cfg input s = .ok (s.apply (.persist cfg input), changed) := by
  have accepted : ∃ s' changed, Presence.persist cfg input s = .ok (s', changed) :=
    ⟨_, _, persist_eq_ok.mpr ⟨valid, rfl⟩⟩
  obtain ⟨s', changed, ok⟩ := accepted
  refine ⟨changed, ?_⟩
  rw [Site.apply, ok]

/-- What a step does to the times of a booking. -/
inductive TimesStep (s : Site) (k : Nat) : SiteOp → Option Int × Option Int → Prop where
  | invalid {cfg : PresenceConfig} {input : PersistOccupancyInput} (invalid : ¬ input.Valid) :
      TimesStep s k (.persist cfg input) (s.times k)
  | noticed {cfg : PresenceConfig} {input : PersistOccupancyInput} {after : Option Int × Option Int}
      (valid : input.Valid) (noticed : Noticed cfg (s.record input.event) input.event k after) :
      TimesStep s k (.persist cfg input) after
  | settled {cfg : PresenceConfig} {now : Int} {after : Option Int × Option Int}
      (settled : Settled cfg s now k after) : TimesStep s k (.reconcile cfg now) after

theorem apply_times (op : SiteOp) (k : Nat) : TimesStep s k op ((s.apply op).times k) := by
  cases op with
  | persist cfg input =>
    by_cases valid : input.Valid
    · obtain ⟨changed, ok⟩ := apply_valid cfg s valid
      exact .noticed valid (persist_times ok k)
    · rw [apply_invalid valid]
      exact .invalid valid
  | reconcile cfg now => exact .settled (reconcile_times k)

theorem apply_bookings (op : SiteOp) : (s.apply op).store.bookings = s.store.bookings := by
  cases op with
  | persist cfg input =>
    by_cases valid : input.Valid
    · obtain ⟨changed, ok⟩ := apply_valid cfg s valid
      exact persist_bookings ok
    · rw [apply_invalid valid]
  | reconcile cfg now => exact reconcile_bookings

theorem apply_events (op : SiteOp) : (s.apply op).events =
    match op with
    | .persist _ input => if input.Valid then s.events ++ [input.event] else s.events
    | .reconcile _ _ => s.events := by
  cases op with
  | persist cfg input =>
    by_cases valid : input.Valid
    · obtain ⟨changed, ok⟩ := apply_valid cfg s valid
      simp only
      rw [if_pos valid]
      exact persist_events ok
    · simp only
      rw [if_neg valid, apply_invalid valid]
  | reconcile cfg now => exact reconcile_events

end Operations

section Times
variable (id : Nat)

/-- The event is one of the booking, which is confirmed already. -/
structure Reaches (s : Site) (input : PersistOccupancyInput) : Prop where
  valid : input.Valid
  active : ∃ b, s.activeBooking input.roomId input.eventTime = some (id, b)
  already : ((s.times id).1).isSome = true

/-- An event of the confirmed booking comes with a time that is not before that of the column. -/
def NotBefore (column : Site → Option Int) (s : Site) : SiteOp → Prop
  | .persist _ input => Reaches id s input → ∀ x ∈ column s, x ≤ input.eventTime
  | .reconcile _ _ => True

instance (s : Site) (input : PersistOccupancyInput) : Decidable (Reaches id s input) :=
  decidable_of_iff (input.Valid ∧
    ((s.activeBooking input.roomId input.eventTime).map Prod.fst = some id) ∧
      ((s.times id).1).isSome = true) (by
    simp only [Option.map_eq_some_iff, Prod.exists, exists_and_right, exists_eq_right]
    exact ⟨fun h => ⟨h.1, h.2.1, h.2.2⟩, fun h => ⟨h.valid, h.active, h.already⟩⟩)

instance (column : Site → Option Int) (s : Site) (op : SiteOp) : Decidable (NotBefore id column s op) :=
  match op with
  | .persist _ _ => inferInstanceAs (Decidable (_ → ∀ x ∈ column s, _))
  | .reconcile _ _ => inferInstanceAs (Decidable True)

def firstColumn (s : Site) : Option Int := (s.times id).1

def lastColumn (s : Site) : Option Int := (s.times id).2

/-- `last_presence_at` does not go back. -/
def LastForward (before after : Site) : Prop :=
  ∀ x ∈ lastColumn id before, ∃ y ∈ lastColumn id after, x ≤ y

def FirstBeforeLast (s : Site) : Prop :=
  ∀ x ∈ firstColumn id s, ∀ y ∈ lastColumn id s, x ≤ y

def TimesTogether (s : Site) : Prop := (firstColumn id s).isSome = (lastColumn id s).isSome

variable {id} {s : Site} {op : SiteOp}

theorem start_le_end {v : View Int} {r l e : Int} (last : v.LastOf r l) (ends : v.EndsAt l e) :
    r ≤ e := by
  cases ends with
  | departed departs later next => exact le_trans last.after later.le
  | ongoing stays => exact le_trans last.after last.seen.bounded

theorem start_le_event {cfg : PresenceConfig} {b : RoomBooking} {t : Int}
    {events : List OccupancyEvent} {c : ConfirmedSegment}
    (lasts : computeConfirmedSegment (segmentQuery cfg b t) events = some c) : c.start ≤ t :=
  le_trans (compute_first lasts).1.begins.seen.bounded (min_le_left _ _)

theorem start_le_lastSeen {q : SegmentQuery} {events : List OccupancyEvent} {c : ConfirmedSegment}
    (lasts : computeConfirmedSegment q events = some c) : c.start ≤ c.lastSeenAt := by
  obtain ⟨-, l, last, ends⟩ := compute_first lasts
  exact start_le_end last ends

theorem times_together (together : TimesTogether id s) : TimesTogether id (s.apply op) := by
  have step := apply_times (s := s) op id
  simp only [TimesTogether, firstColumn, lastColumn] at together ⊢
  generalize (s.apply op).times id = after at step
  cases step with
  | invalid invalid => exact together
  | noticed valid noticed =>
    cases noticed with
    | elsewhere other => exact together
    | bumped active already => rfl
    | waiting active unconfirmed none_lasts => exact together
    | confirmed active unconfirmed lasts => rfl
  | settled settled =>
    cases settled with
    | passed other => exact together
    | waiting row candidate none_lasts => exact together
    | confirmed row candidate lasts => rfl

theorem first_kept {x : Int} (first : firstColumn id s = some x) :
    firstColumn id (s.apply op) = some x := by
  have step := apply_times (s := s) op id
  simp only [firstColumn] at first ⊢
  generalize (s.apply op).times id = after at step
  cases step with
  | invalid invalid => exact first
  | noticed valid noticed =>
    cases noticed with
    | elsewhere other => exact first
    | bumped active already => exact already.symm.trans first
    | waiting active unconfirmed none_lasts => exact first
    | confirmed active unconfirmed lasts => exact absurd (unconfirmed.symm.trans first) nofun
  | settled settled =>
    cases settled with
    | passed other => exact first
    | waiting row candidate none_lasts => exact first
    | confirmed row candidate lasts =>
      exact absurd ((candidate_unconfirmed candidate).1.symm.trans first) nofun

theorem not_reaches_of_unconfirmed {input : PersistOccupancyInput} (unconfirmed : (s.times id).1 = none) :
    ¬ Reaches id s input := by
  intro reaches
  have already := reaches.already
  rw [unconfirmed] at already
  cases already

theorem not_reaches_elsewhere {input : PersistOccupancyInput}
    (other : ∀ b, s.activeBooking input.roomId input.eventTime ≠ some (id, b)) :
    ¬ Reaches id s input := by
  intro reaches
  obtain ⟨b, active⟩ := reaches.active
  exact other b active

theorem reaches_bumped {input : PersistOccupancyInput} {b : RoomBooking} {x : Int}
    (valid : input.Valid) (active : s.activeBooking input.roomId input.eventTime = some (id, b))
    (already : (s.times id).1 = some x) : Reaches id s input :=
  ⟨valid, ⟨b, active⟩, Option.isSome_iff_exists.mpr ⟨x, already⟩⟩

theorem last_forward_iff (together : TimesTogether id s) :
    LastForward id s (s.apply op) ↔ NotBefore id (lastColumn id) s op := by
  have step := apply_times (s := s) op id
  have unset : (s.times id).1 = none → (s.times id).2 = none := by
    intro unconfirmed
    rw [← Option.not_isSome_iff_eq_none, lastColumn.eq_def id s |>.symm, ← together]
    simp [firstColumn, unconfirmed]
  simp only [LastForward, lastColumn] at step ⊢
  generalize (s.apply op).times id = after at step
  have same : (∀ x ∈ (s.times id).2, ∃ y ∈ (s.times id).2, x ≤ y) := fun x there => ⟨x, there, le_rfl⟩
  cases step with
  | invalid invalid => exact iff_of_true same fun reaches => absurd reaches.valid invalid
  | noticed valid noticed =>
    cases noticed with
    | elsewhere other =>
      exact iff_of_true same fun reaches => absurd reaches (not_reaches_elsewhere other)
    | @bumped b x active already =>
      constructor
      · intro forward _ y there
        obtain ⟨z, at_event, le⟩ := forward y there
        cases at_event
        exact le
      · intro not_before y there
        have reaches : Reaches id s _ := reaches_bumped valid active already
        exact ⟨_, rfl, not_before reaches y there⟩
    | waiting active unconfirmed none_lasts =>
      exact iff_of_true same fun reaches => absurd reaches (not_reaches_of_unconfirmed unconfirmed)
    | confirmed active unconfirmed lasts =>
      refine iff_of_true ?_ fun reaches => absurd reaches (not_reaches_of_unconfirmed unconfirmed)
      intro x there
      rw [unset unconfirmed] at there
      cases there
  | settled settled =>
    cases settled with
    | passed other => exact iff_of_true same trivial
    | waiting row candidate none_lasts => exact iff_of_true same trivial
    | confirmed row candidate lasts =>
      refine iff_of_true ?_ trivial
      intro x there
      rw [unset (candidate_unconfirmed candidate).1] at there
      cases there

theorem first_before_last_iff (safe : FirstBeforeLast id s) :
    FirstBeforeLast id (s.apply op) ↔ NotBefore id (firstColumn id) s op := by
  have step := apply_times (s := s) op id
  simp only [FirstBeforeLast, firstColumn, lastColumn] at step safe ⊢
  generalize (s.apply op).times id = after at step
  cases step with
  | invalid invalid => exact iff_of_true safe fun reaches => absurd reaches.valid invalid
  | noticed valid noticed =>
    cases noticed with
    | elsewhere other =>
      exact iff_of_true safe fun reaches => absurd reaches (not_reaches_elsewhere other)
    | @bumped b x active already =>
      have reaches : Reaches id s _ := reaches_bumped valid active already
      constructor
      · intro before _ y there
        have same : y = x := Option.some.inj (there.symm.trans already)
        exact same ▸ before x rfl _ rfl
      · intro not_before y first z last
        cases first
        cases last
        exact not_before reaches _ already
    | waiting active unconfirmed none_lasts =>
      exact iff_of_true safe fun reaches => absurd reaches (not_reaches_of_unconfirmed unconfirmed)
    | confirmed active unconfirmed lasts =>
      refine iff_of_true ?_ fun reaches => absurd reaches (not_reaches_of_unconfirmed unconfirmed)
      intro x first y last
      cases first
      cases last
      exact start_le_event lasts
  | settled settled =>
    cases settled with
    | passed other => exact iff_of_true safe trivial
    | waiting row candidate none_lasts => exact iff_of_true safe trivial
    | confirmed row candidate lasts =>
      refine iff_of_true ?_ trivial
      intro x first y last
      cases first
      cases last
      exact start_le_lastSeen lasts

/-- `last_presence_at` is the time of an event in the room, of any count, or the instant of a run of
    the scheduler. -/
def LastWitnessed (id : Nat) (b : RoomBooking) (ops : List SiteOp) (s : Site) : Prop :=
  ∀ y ∈ lastColumn id s, (∃ e ∈ s.events, e.roomId = b.roomId ∧ e.eventTime = y) ∨
    ∃ cfg, .reconcile cfg y ∈ ops

theorem events_grow : s.events ⊆ (s.apply op).events := by
  rw [apply_events]
  cases op with
  | persist cfg input =>
    simp only
    split
    · exact List.subset_append_left _ _
    · exact List.Subset.refl _
  | reconcile cfg now => exact List.Subset.refl _

theorem event_recorded {cfg : PresenceConfig} {input : PersistOccupancyInput} {b b' : RoomBooking}
    (row : s.store.bookings.get? id = some b) (valid : input.Valid)
    (active : s.activeBooking input.roomId input.eventTime = some (id, b')) :
    ∃ e ∈ (s.apply (.persist cfg input)).events, e.roomId = b.roomId ∧
      e.eventTime = input.eventTime := by
  obtain ⟨row', room, -⟩ := activeBooking_some active
  cases row.symm.trans row'
  refine ⟨input.event, ?_, room.symm, rfl⟩
  rw [apply_events]
  simp only
  rw [if_pos valid]
  exact List.mem_append.mpr (Or.inr (List.mem_singleton.mpr rfl))

theorem lastSeen_cases {q : SegmentQuery} {events : List OccupancyEvent} {c : ConfirmedSegment}
    (lasts : computeConfirmedSegment q events = some c) :
    (∃ e ∈ events, e.roomId = q.roomId ∧ e.eventTime = c.lastSeenAt) ∨ c.lastSeenAt = q.boundEnd := by
  obtain ⟨-, l, last, ends⟩ := compute_first lasts
  generalize c.lastSeenAt = e at ends
  cases ends with
  | departed departs later next =>
    obtain ⟨z, zero_event, room, -, time⟩ := departs.zero
    exact Or.inl ⟨z, zero_event, room, time⟩
  | ongoing stays => exact Or.inr rfl

theorem last_witnessed {b : RoomBooking} {ops : List SiteOp} (row : s.store.bookings.get? id = some b)
    (witnessed : LastWitnessed id b ops s) (listed : op ∈ ops) :
    LastWitnessed id b ops (s.apply op) := by
  have step := apply_times (s := s) op id
  have kept : ∀ y ∈ (s.times id).2,
      (∃ e ∈ (s.apply op).events, e.roomId = b.roomId ∧ e.eventTime = y) ∨
        ∃ cfg, .reconcile cfg y ∈ ops := by
    intro y there
    rcases witnessed y there with ⟨e, old, found⟩ | run
    · exact Or.inl ⟨e, events_grow old, found⟩
    · exact Or.inr run
  simp only [LastWitnessed, lastColumn] at step ⊢
  generalize (s.apply op).times id = after at step
  cases step with
  | invalid invalid => exact kept
  | @noticed cfg input after valid noticed =>
    cases noticed with
    | elsewhere other => exact kept
    | bumped active already =>
      intro y there
      cases there
      exact Or.inl (event_recorded row valid active)
    | waiting active unconfirmed none_lasts => exact kept
    | confirmed active unconfirmed lasts =>
      intro y there
      cases there
      exact Or.inl (event_recorded row valid active)
  | @settled cfg now after settled =>
    cases settled with
    | passed other => exact kept
    | waiting row' candidate none_lasts => exact kept
    | @confirmed b' c row' candidate lasts =>
      cases row.symm.trans row'
      intro y there
      cases there
      rcases lastSeen_cases lasts with ⟨e, recorded, room, time⟩ | at_bound
      · exact Or.inl ⟨e, events_grow recorded, room, time⟩
      · have clock : min now b.reservedEndTime = now :=
          min_eq_left (candidate_unconfirmed candidate).2.2.le
        have instant : c.lastSeenAt = now := at_bound.trans clock
        refine Or.inr ⟨cfg, ?_⟩
        rw [instant]
        exact listed

end Times

section Runs
variable {s t : Site} {moves : List (Move Site SiteOp)} {id : Nat} {b : RoomBooking}

/-- A sequence of events and of runs of the scheduler. -/
abbrev SiteRun (s : Site) (moves : List (Move Site SiteOp)) (t : Site) : Prop :=
  Run (fun a op a' => a' = a.apply op) s moves t

theorem presence_times (run : SiteRun s moves t) (row : s.store.bookings.get? id = some b)
    (unseen : s.times id = (none, none)) :
    (∀ m ∈ moves, ∀ x, firstColumn id m.before = some x → firstColumn id m.after = some x) ∧
      ((∀ m ∈ moves, LastForward id m.before m.after) ↔
        Heeds (NotBefore id (lastColumn id)) moves) ∧
      ((∀ a ∈ visited s moves, FirstBeforeLast id a) ↔
        Heeds (NotBefore id (firstColumn id)) moves) ∧
      ∀ a ∈ visited s moves, LastWitnessed id b (moves.map Move.label) a := by
  have no_last : lastColumn id s = none := congrArg Prod.snd unseen
  have no_first : firstColumn id s = none := congrArg Prod.fst unseen
  have together : TimesTogether id s := by rw [TimesTogether, no_first, no_last]
  refine ⟨?_, ?_, ?_, ?_⟩
  · intro m there x first
    have anyhow : Heeds (fun _ _ => True) moves := fun _ _ => trivial
    have step := (moves_invariant (fun _ => True) run trivial anyhow (fun _ _ _ => trivial) m
      there).2
    rw [step]
    exact first_kept first
  · refine run_good_iff (TimesTogether id) (fun a _ c => LastForward id a c) run together ?_ ?_
    · rintro a op _ here rfl _
      exact times_together here
    · rintro a op _ here rfl
      exact last_forward_iff here
  · refine states_safe_iff (fun _ => True) (FirstBeforeLast id) run trivial ?_ ?_ ?_
    · intro x first
      rw [no_first] at first
      cases first
    · exact fun _ _ => trivial
    · rintro a op _ - safe rfl
      exact first_before_last_iff safe
  · have all : ∀ a ∈ visited s moves, a.store.bookings.get? id = some b ∧
        LastWitnessed id b (moves.map Move.label) a := by
      have listed : Heeds (fun _ op => op ∈ moves.map Move.label) moves :=
        fun m there => List.mem_map.mpr ⟨m, there, rfl⟩
      refine visited_invariant
        (fun a => a.store.bookings.get? id = some b ∧ LastWitnessed id b (moves.map Move.label) a)
        run ⟨row, ?_⟩ listed ?_
      · intro y last
        rw [no_last] at last
        cases last
      · rintro a op _ ⟨row, witnessed⟩ rfl listed
        exact ⟨by rw [apply_bookings, row], last_witnessed row witnessed listed⟩
    exact fun a there => (all a there).2

def thirtySeconds : PresenceConfig := presenceValues (fun _ => none) (fun _ => none)

def freshSite : Site where
  events := []
  store := ⟨.empty, Table.empty.insert ⟨1, 5, 0, 3600000, .approved⟩, fun _ => none⟩
  roomStatus _ := .available

def count (n : Int) (t : Int) : SiteOp := .persist thirtySeconds ⟨5, none, n, none, t⟩

def comeAndGo : List SiteOp := [count 2 10000, count 3 50000, count 0 60000]

theorem presence_times_in_order : ∃ moves t, SiteRun freshSite moves t ∧
    t.times 0 = (some 10000, some 60000) ∧ (∀ m ∈ moves, LastForward 0 m.before m.after) ∧
      ∀ a ∈ visited freshSite moves, FirstBeforeLast 0 a := by
  have run := run_of_trail Site.apply comeAndGo (s := freshSite)
  have row : freshSite.store.bookings.get? 0 = some ⟨1, 5, 0, 3600000, .approved⟩ := by decide
  have times := presence_times run row rfl
  exact ⟨_, _, run, by decide +kernel, times.2.1.mpr (by decide +kernel),
    times.2.2.1.mpr (by decide +kernel)⟩

def comeLate : Site := (comeAndGo.foldl Site.apply freshSite).apply (count 1 5000)

theorem presence_times_go_back :
    (¬ ∀ s moves t id, SiteRun s moves t → s.times id = (none, none) →
      ∀ m ∈ moves, LastForward id m.before m.after) ∧
    (¬ ∀ s moves t id, SiteRun s moves t → s.times id = (none, none) → FirstBeforeLast id t) ∧
    ¬ ∀ s moves t id, SiteRun s moves t → s.times id = (none, none) →
      ∀ y ∈ lastColumn id t, ∃ e ∈ t.events, 0 < e.occupancyCount ∧ e.eventTime = y := by
  have prompt := run_of_trail Site.apply comeAndGo (s := freshSite)
  have late : SiteRun freshSite _ comeLate := prompt.snoc rfl
  have went_back : lastColumn 0 comeLate = some 5000 := by decide +kernel
  refine ⟨?_, ?_, ?_⟩
  · intro claimed
    have forward := claimed _ _ _ 0 late rfl _
      (List.mem_append.mpr (Or.inr (List.mem_singleton.mpr rfl)))
    obtain ⟨y, last, later⟩ := forward 60000 (by decide +kernel)
    have same : y = 5000 := Option.some.inj (last.symm.trans went_back)
    omega
  · intro claimed
    have before := claimed _ _ _ 0 late rfl 10000 (by decide +kernel) 5000 went_back
    exact absurd before (by decide)
  · intro claimed
    have seen := claimed _ _ _ 0 prompt rfl 60000 (by decide +kernel)
    exact absurd seen (by decide +kernel)

end Runs

end Presence
