import MeetingPlatform.Booking.Operations

/- A scheduled meeting and the booking that holds its room. -/
namespace MeetingBooking
open KeyedTable LabelledRuns

def Store.holdingBookings (s : Store) (i : Nat) : List (Nat × RoomBooking) :=
  s.bookings.select (ofMeeting i RoomBookingStatus.holdsRoom)

def OwnsRoom (s : Store) (i : Nat) (m : Meeting) : Prop :=
  (∃ k b, s.holdingBookings i = [(k, b)] ∧ m.slot = some b.slot) ∧
    ∀ r ∈ s.bookings.rows, r.2.meetingId = i → r.2.status ≠ .pending

def ScheduledOwnRooms (s : Store) : Prop :=
  ∀ i m, (i, m) ∈ s.meetings.rows → m.status = .scheduled → OwnsRoom s i m

/-- A change request is expired although nothing holds a room for its meeting any more. -/
def ExpiresUnheldChange (s : Store) : Op → Prop
  | .expireOne q => ∃ r i m, s.requests.get? q = some r ∧ r.approvalStatus = .pending ∧
      r.requestType.isUpdate = true ∧ r.meetingId = some i ∧ s.findMeeting i = some m ∧
      m.status = .pendingApproval ∧ s.holdingBookings i = []
  | _ => False

section Held
variable {s : Store} {i k : Nat} {m : Meeting} {b : RoomBooking}
  {pending : List (Nat × MeetingRequest)}

theorem holding_of_dossier (d : s.dossier i = ⟨some m, [(k, b)], pending⟩) :
    s.holdingBookings i = if b.status.holdsRoom then [(k, b)] else [] := by
  unfold Store.holdingBookings
  rw [select_among (fun _ => live_of_holds), dossier_live d]
  cases holds : b.status.holdsRoom <;> simp [holds]

theorem booked_owns {held : Bool} (fits : (s.dossier i).Fits (.booked held))
    (row : (i, m) ∈ s.meetings.rows) : OwnsRoom s i m ↔ held = true := by
  have found : (s.dossier i).meeting = some m := get?_eq_some.mpr row
  have scheduled : m.status = .scheduled := by
    simpa [found, Standing.meetingStatus] using fits.status
  obtain ⟨k, b, held', d, same, status⟩ := fits_scheduled fits found scheduled
  obtain rfl : held = held' := Standing.booked.inj same
  have holding := holding_of_dossier d
  rw [status] at holding
  cases held with
  | false =>
    refine ⟨fun owns => ?_, fun h => by cases h⟩
    obtain ⟨⟨k', b', one, -⟩, -⟩ := owns
    rw [holding] at one
    cases one
  | true =>
    refine ⟨fun _ => rfl, fun _ => ⟨⟨k, b, holding, ?_⟩, fun r hr mine idle => ?_⟩⟩
    · obtain ⟨-, slot, sits, -, same⟩ := fits.seated m found
      exact sits.trans (congrArg some (same (k, b) (by simp [d])).symm)
    · have live : r ∈ liveRows s.bookings i := mem_liveRows.mpr ⟨hr, mine, by rw [idle]; rfl⟩
      rw [dossier_live d, List.mem_singleton] at live
      subst live
      rw [status] at idle
      cases idle

theorem scheduled_own_iff (sound : Consistent s) :
    ScheduledOwnRooms s ↔ ∀ i, ¬ (s.dossier i).Fits (.booked false) := by
  constructor
  · intro owned i fits
    obtain ⟨m, row, status⟩ := Option.map_eq_some_iff.mp fits.status
    have row : (i, m) ∈ s.meetings.rows := get?_eq_some.mp row
    exact Bool.false_ne_true ((booked_owns fits row).mp (owned i m row status))
  · intro held i m row scheduled
    obtain ⟨st, fits⟩ := sound i
    obtain ⟨k, b, was, d, rfl, status⟩ := fits_scheduled fits (get?_eq_some.mpr row) scheduled
    cases was with
    | true => exact (booked_owns fits row).mpr rfl
    | false => exact absurd fits (held i)

end Held

theorem expiry_unheld {s s' : Store} {q : Nat} (sound : Consistent s)
    (h : expireOne q s = some s') :
    ExpiresUnheldChange s (.expireOne q) ↔
      ∃ r i, s.requests.get? q = some r ∧ r.meetingId = some i ∧
        (s.dossier i).Fits (.changing false) := by
  obtain ⟨r, i, m, row, pending, mine, found, awaiting, -⟩ := expireOne_some h
  obtain ⟨st, fits⟩ := sound i
  obtain ⟨k, b, q', r', d, standing⟩ := fits_awaiting fits (dossier_of_found found) awaiting
  obtain ⟨rfl, rfl⟩ := pending_here d row mine pending
  have holding := holding_of_dossier d
  constructor
  · rintro ⟨r₁, i₁, -, row₁, -, type, mine₁, -, -, idle⟩
    obtain rfl : r = r₁ := Option.some.inj (row.symm.trans row₁)
    obtain rfl : i = i₁ := Option.some.inj (mine.symm.trans mine₁)
    refine ⟨r, i, row, mine, ?_⟩
    rcases standing with ⟨-, other, -⟩ | ⟨held, rfl, -, status⟩
    · simp [other] at type
    · cases held with
      | false => exact fits
      | true =>
        rw [status, idle] at holding
        cases holding
  · rintro ⟨r₁, i₁, row₁, mine₁, lost⟩
    obtain rfl : r = r₁ := Option.some.inj (row.symm.trans row₁)
    obtain rfl : i = i₁ := Option.some.inj (mine.symm.trans mine₁)
    obtain rfl := fits_unique fits lost
    rcases standing with ⟨impossible, -, -⟩ | ⟨held, same, type, status⟩
    · cases impossible
    · cases same
      refine ⟨r, i, m, row, pending, type, mine, found, awaiting, ?_⟩
      rw [holding, status]
      rfl

theorem step_owns_iff {cfg : Config} {s s' : Store} {op : Op} (sound : Consistent s)
    (owned : ScheduledOwnRooms s) (step : Step cfg s op s') :
    ScheduledOwnRooms s' ↔ ¬ ExpiresUnheldChange s op := by
  rw [scheduled_own_iff (step_consistent sound step)]
  rw [scheduled_own_iff sound] at owned
  constructor
  · intro held lost
    cases op with
    | expireOne q =>
      obtain ⟨r, i, row, mine, fits⟩ := (expiry_unheld sound step).mp lost
      obtain ⟨r₁, i₁, row₁, mine₁, advances⟩ := expireOne_advances step
      obtain rfl : r = r₁ := Option.some.inj (row.symm.trans row₁)
      obtain rfl : i = i₁ := Option.some.inj (mine.symm.trans mine₁)
      obtain ⟨st', d', edge, fits', after⟩ := advances _ fits
      cases edge
      apply held i
      rw [after, Function.update_self]
      exact fits'
    | _ => exact lost
  · intro kept j lost
    obtain ⟨st, fits⟩ := sound j
    obtain ⟨st', fits', same | ⟨a, does, edge⟩⟩ := step_simulates sound step fits
    · obtain rfl := fits_unique fits' lost
      exact owned j (same ▸ fits)
    · obtain rfl := fits_unique fits' lost
      obtain ⟨rfl, rfl⟩ := expiry_of_unheld edge
      cases does with
      | expireOne row mine => exact kept ((expiry_unheld sound step).mpr ⟨_, j, row, mine, fits⟩)

theorem empty_owns : ScheduledOwnRooms Store.empty := by
  intro i m row
  exact (mem_empty.mp row).elim

/-- Over a whole run, scheduled meetings own their rooms exactly when no step expires
    a change whose room is no longer held. -/
theorem scheduled_meetings_own_rooms_iff {cfg : Config} {moves : List (Move Store Op)} {t : Store}
    (run : Run (Step cfg) Store.empty moves t) :
    (∀ s ∈ visited Store.empty moves, ScheduledOwnRooms s) ↔
      Heeds (fun s op => ¬ ExpiresUnheldChange s op) moves :=
  states_safe_iff Consistent ScheduledOwnRooms run empty_consistent empty_owns step_consistent
    step_owns_iff

theorem rooms_owned_in_approved_change : ∃ moves t,
    Run (Step (Config.load none none)) Store.empty moves t ∧
      moves.map Move.label = approvedChange ∧
      ((∀ s ∈ visited Store.empty moves, ScheduledOwnRooms s) ↔
        Heeds (fun s op => ¬ ExpiresUnheldChange s op) moves) := by
  obtain ⟨moves, t, run, labels⟩ := approved_change_runs
  exact ⟨moves, t, run, labels, scheduled_meetings_own_rooms_iff run⟩

def roomChangedTwice : List Op :=
  approvedAtOnce ++ [.updateMeetingRoom openDirectory 0 0 { newRoomId := 2 } 7,
    .updateMeetingRoom openDirectory 0 0 { newRoomId := 3 } 7,
    .expireOne 1]

theorem expired_room_change_loses_room : ∃ moves t,
    Run (Step (Config.load none none)) Store.empty moves t ∧
      moves.map Move.label = roomChangedTwice ∧ ¬ ScheduledOwnRooms t := by
  have lost : ∃ t m, execAll (Config.load none none) roomChangedTwice Store.empty = some t ∧
      t.meetings.get? 0 = some m ∧ m.status = .scheduled ∧ t.holdingBookings 0 = [] :=
    ⟨_, _, rfl, rfl, rfl, rfl⟩
  obtain ⟨t, m, ran, row, scheduled, idle⟩ := lost
  obtain ⟨moves, run, labels⟩ := run_of_execAll ran
  refine ⟨moves, t, run, labels, ?_⟩
  intro owned
  obtain ⟨⟨k, b, one, -⟩, -⟩ := owned 0 m (get?_eq_some.mp row) scheduled
  rw [idle] at one
  cases one

end MeetingBooking
