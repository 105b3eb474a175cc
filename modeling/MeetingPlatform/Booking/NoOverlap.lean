import MeetingPlatform.Booking.Operations

/- Double bookings, when every call runs on its own. -/
namespace MeetingBooking
open KeyedTable LabelledRuns HalfOpen Guards

def NoDoubleBooking (s : Store) : Prop :=
  ∀ k k' b b', (k, b) ∈ s.bookings.rows → (k', b') ∈ s.bookings.rows → k ≠ k' →
    b.roomId = b'.roomId → b.status.holdsRoom = true → b'.status.holdsRoom = true →
    Apart b.reservedStartTime b.reservedEndTime b'.reservedStartTime b'.reservedEndTime

section Calendar
variable {t : Table RoomBooking} {k : Nat} {b v : RoomBooking} {f : RoomBooking → RoomBooking}

/-- The entry a booking makes in the calendar of the rooms. -/
def RoomBooking.entry (b : RoomBooking) : Option (Nat × Int × Int) :=
  if b.status.holdsRoom then some (b.roomId, b.reservedStartTime, b.reservedEndTime) else none

def calendar (t : Table RoomBooking) (k : Nat) : Option (Nat × Int × Int) :=
  (t.get? k).bind RoomBooking.entry

theorem entry_eq_some {r : Nat} {s e : Int} : b.entry = some (r, s, e) ↔
    b.status.holdsRoom = true ∧ b.roomId = r ∧ b.reservedStartTime = s ∧ b.reservedEndTime = e := by
  unfold RoomBooking.entry
  split <;> simp_all

theorem calendar_eq_some {r : Nat} {s e : Int} : calendar t k = some (r, s, e) ↔
    ∃ b, (k, b) ∈ t.rows ∧ b.status.holdsRoom = true ∧ b.roomId = r ∧
      b.reservedStartTime = s ∧ b.reservedEndTime = e := by
  simp [calendar, Option.bind_eq_some_iff, entry_eq_some]

theorem no_double_booking_iff {s : Store} :
    NoDoubleBooking s ↔ ClashFree (calendar s.bookings) := by
  constructor
  · intro free k k' r s₁ e₁ s₂ e₂ other here there
    obtain ⟨b, row, holds, rfl, rfl, rfl⟩ := calendar_eq_some.mp here
    obtain ⟨b', row', holds', same, rfl, rfl⟩ := calendar_eq_some.mp there
    exact free k k' b b' row row' other same.symm holds holds'
  · intro free k k' b b' row row' other same holds holds'
    exact free k k' b.roomId _ _ _ _ other (calendar_eq_some.mpr ⟨b, row, holds, rfl, rfl, rfl⟩)
      (calendar_eq_some.mpr ⟨b', row', holds', same.symm, rfl, rfl⟩)

theorem calendar_update (row : t.get? k = some b) :
    calendar (t.update k f) = Function.update (calendar t) k (f b).entry := by
  funext j
  unfold calendar
  rw [get?_update]
  by_cases here : j = k
  · subst here
    rw [if_pos rfl, row, Function.update_self]
    rfl
  · rw [if_neg here, Function.update_of_ne here]

theorem calendar_insert : calendar (t.insert v) = Function.update (calendar t) t.next v.entry := by
  funext j
  unfold calendar
  rw [get?_insert]
  by_cases here : j = t.next
  · subst here
    rw [if_pos rfl, Function.update_self]
    rfl
  · rw [if_neg here, Function.update_of_ne here]

theorem calendar_activate (among : Nat → Bool) :
    calendar (t.updateWhere (approvedOf among) activate) = calendar t := by
  funext j
  unfold calendar
  rw [get?_updateWhere]
  cases t.get? j with
  | none => rfl
  | some b =>
    simp only [Option.map_some, Option.bind_some]
    split
    · rename_i hit
      simp only [approvedOf, decide_eq_true_eq] at hit
      simp [activate, RoomBooking.entry, hit.2, RoomBookingStatus.holdsRoom]
    · rfl

theorem put_clear {s : Store} {cfg : Config} (slot : Slot) {exclude : Option Nat}
    (free : ClashFree (calendar s.bookings)) (known : ∀ j, exclude = some j → j = k)
    (clear : s.roomConflicts cfg.bufferMs slot.roomId exclude slot.startTime slot.endTime = []) :
    ClashFree (Function.update (calendar s.bookings) k
      (some (slot.roomId, slot.startTime, slot.endTime))) := by
  refine (clash_free_put_iff free).mpr fun k' s' e' other entry => ?_
  obtain ⟨b, row, holds, room, rfl, rfl⟩ := calendar_eq_some.mp entry
  exact apart_of_no_conflict cfg.bufferMs_nonneg clear row room holds
    fun excluded => other (known k' excluded)

end Calendar

section Steps
variable {cfg : Config} {dir : Directory} {now : Int} {i q userId : Nat} {s s' : Store}

theorem create_clash_free {dto : CreateMeetingDto} (free : ClashFree (calendar s.bookings))
    (h : create cfg dir now dto userId s = .ok s') : ClashFree (calendar s'.bookings) := by
  obtain ⟨plan, checked, rfl⟩ := create_ok h
  obtain ⟨rfl, -, -, clear⟩ := checkCreate_ok checked
  change ClashFree (calendar (s.bookings.insert (plan.booking s.meetings.next)))
  rw [calendar_insert]
  cases auto : plan.isAutoApprovable with
  | true =>
    have entry : (plan.booking s.meetings.next).entry =
        some (plan.dto.roomId, plan.dto.startTime, plan.dto.endTime) := by
      simp [RoomBooking.entry, CreatePlan.booking, auto, RoomBookingStatus.holdsRoom]
    rw [entry]
    exact put_clear ⟨plan.dto.roomId, plan.dto.startTime, plan.dto.endTime⟩ free (by simp) clear
  | false =>
    have entry : (plan.booking s.meetings.next).entry = none := by
      simp [RoomBooking.entry, CreatePlan.booking, auto, RoomBookingStatus.holdsRoom]
    rw [entry]
    exact clash_free_drop free _

theorem save_clash_free {k : Nat} {b v : RoomBooking} (slot : Slot)
    (free : ClashFree (calendar s.bookings)) (row : s.bookings.get? k = some b) (at_slot : v.slot = slot)
    (clear : s.roomConflicts cfg.bufferMs slot.roomId (some k) slot.startTime slot.endTime = []) :
    ClashFree (calendar (s.bookings.save k v)) := by
  unfold Table.save
  rw [calendar_update row]
  unfold RoomBooking.entry
  subst at_slot
  split
  · exact put_clear v.slot free (by simp) clear
  · exact clash_free_drop free k

theorem updateMeetingTime_clash_free {dto : UpdateMeetingTimeDto}
    (free : ClashFree (calendar s.bookings))
    (h : updateMeetingTime cfg dir now i dto userId s = .ok s') :
    ClashFree (calendar s'.bookings) := by
  obtain ⟨m, roomId, slot, -, -, -, -, clear, ⟨-, written⟩ | ⟨-, rfl⟩⟩ := updateMeetingTime_ok h
  · cases active : s.bookings.findOne (ofMeeting i RoomBookingStatus.isLive) with
    | none =>
      rw [active] at written
      obtain ⟨-, -, -, rfl⟩ := editPendingTime_unbooked_ok written
      change ClashFree (calendar (s.bookings.insert (slot.booking i .pending)))
      rw [calendar_insert]
      exact clash_free_drop free _
    | some found =>
      obtain ⟨k, b⟩ := found
      rw [active] at written clear
      have row : s.bookings.get? k = some b := get?_eq_some.mpr (findOne_mem active).1
      obtain ⟨-, -, -, rfl⟩ := editPendingTime_ok row written
      exact save_clash_free slot free row (slot_onBooking slot b) clear
  · exact free

theorem updateMeetingRoom_clash_free {dto : UpdateMeetingRoomDto}
    (free : ClashFree (calendar s.bookings))
    (h : updateMeetingRoom cfg dir now i dto userId s = .ok s') :
    ClashFree (calendar s'.bookings) := by
  obtain ⟨m, roomId, -, -, -, ⟨-, written⟩ | ⟨-, rfl⟩⟩ := updateMeetingRoom_ok h
  · obtain ⟨-, -, -, rfl⟩ := editPendingRoom_ok written
    change ClashFree (calendar (Table.insert _ _))
    rw [calendar_insert]
    apply clash_free_drop
    apply clash_free_of_fewer free
    intro k x entry
    unfold calendar at entry ⊢
    rw [get?_updateWhere] at entry
    cases row : s.bookings.get? k with
    | none => simp [row] at entry
    | some b =>
      simp only [row, Option.map_some, Option.bind_some] at entry ⊢
      split at entry
      · cases entry
      · exact entry
  · exact free

theorem approve_clash_free (free : ClashFree (calendar s.bookings))
    (h : approve cfg now q userId s = .ok s') : ClashFree (calendar s'.bookings) := by
  obtain ⟨plan, read, rfl⟩ := approve_ok h
  obtain ⟨opened, -, -, clear⟩ := readApproval_ok read
  have row := get?_eq_some.mpr (findNewest_mem opened.newest).1
  exact save_clash_free plan.target free row rfl clear

theorem drop_clash_free {k : Nat} {f : RoomBooking → RoomBooking}
    (free : ClashFree (calendar s.bookings)) (idle : ∀ b, (f b).status.holdsRoom = false) :
    ClashFree (calendar (s.bookings.update k f)) := by
  cases row : s.bookings.get? k with
  | some b =>
    rw [calendar_update row]
    have none_left : (f b).entry = none := by
      simp [RoomBooking.entry, idle]
    rw [none_left]
    exact clash_free_drop free k
  | none =>
    apply clash_free_of_fewer free
    intro j x entry
    unfold calendar at entry ⊢
    rw [get?_update] at entry
    by_cases here : j = k
    · subst here
      simp [row] at entry
    · rwa [if_neg here] at entry

theorem turnDown_clash_free {r : MeetingRequest} {m : Meeting} {closed : ApprovalStatus}
    {bookings : Table RoomBooking} (free : ClashFree (calendar s.bookings))
    (dropped : ClashFree (calendar bookings)) :
    ClashFree (calendar (turnDown s q r i m closed bookings).bookings) := by
  unfold turnDown
  cases r.requestType.isUpdate with
  | true => exact free
  | false => exact dropped

theorem reject_clash_free (free : ClashFree (calendar s.bookings))
    (h : reject q userId s = .ok s') : ClashFree (calendar s'.bookings) := by
  obtain ⟨v, -, rfl⟩ := reject_ok.mp h
  exact turnDown_clash_free free (drop_clash_free free fun _ => rfl)

theorem expireOne_clash_free (free : ClashFree (calendar s.bookings))
    (h : expireOne q s = some s') : ClashFree (calendar s'.bookings) := by
  obtain ⟨r, i, m, -, -, -, -, -, rfl⟩ := expireOne_some h
  apply turnDown_clash_free free
  unfold cancelNewestBooking
  split
  · exact drop_clash_free free fun _ => rfl
  · exact free

theorem cancelMeeting_clash_free (free : ClashFree (calendar s.bookings))
    (h : cancelMeeting dir now i userId s = .ok s') : ClashFree (calendar s'.bookings) := by
  obtain ⟨-, -, -, rfl⟩ := commitCancel_ok.mp (cancelMeeting_ok h).2
  change ClashFree (calendar (cancelFirstBooking i s))
  unfold cancelFirstBooking
  split
  · exact drop_clash_free free fun _ => rfl
  · exact free

theorem startMeeting_clash_free (free : ClashFree (calendar s.bookings))
    (h : startMeeting now i userId s = .ok s') : ClashFree (calendar s'.bookings) := by
  rcases startMeeting_ok h with rfl | written
  · exact free
  · obtain ⟨-, -, -, -, rfl⟩ := executeStart_ok written
    change ClashFree (calendar (Table.updateWhere _ _ _))
    rwa [calendar_activate]

theorem autoStart_clash_free (free : ClashFree (calendar s.bookings)) :
    ClashFree (calendar (autoStartDueMeetings now s).bookings) := by
  change ClashFree (calendar (Table.updateWhere _ _ _))
  rwa [calendar_activate]

theorem endMeeting_clash_free (free : ClashFree (calendar s.bookings))
    (h : endMeeting now i userId s = .ok s') : ClashFree (calendar s'.bookings) := by
  obtain ⟨-, -, -, rfl⟩ := executeEnd_ok (endMeeting_ok h)
  change ClashFree (calendar (completeFirstBooking i s))
  unfold completeFirstBooking
  split
  · exact drop_clash_free free fun _ => rfl
  · exact free

end Steps

section Extension
variable {cfg : Config} {i k userId : Nat} {dto : ExtensionRequestDto} {s s' : Store}
  {basis : ExtensionBasis}

theorem fits_before_next_iff : fitsBeforeNext cfg.policy basis dto k s = true ↔
    ∀ r ∈ s.bookings.rows, r.2.roomId = basis.roomId → r.1 ≠ k → r.2.status.isLive = true →
      basis.oldEndTime < r.2.reservedStartTime →
      basis.requestedNewEndTime dto ≤ r.2.reservedStartTime - cfg.policy.bufferMs := by
  unfold fitsBeforeNext nextBooking
  rw [first_by_key_all fun r : Nat × RoomBooking => r.2.reservedStartTime]
  · simp only [mem_select, decide_eq_true_eq]
    constructor
    · intro all r row room other live after
      exact all r ⟨row, room, other, live, after⟩
    · rintro all r ⟨row, room, other, live, after⟩
      exact all r row room other live after
  · intro a b order fits
    simp only [decide_eq_true_eq] at fits ⊢
    omega

/-- The meeting to be extended ends exactly where another booking takes over its room,
    and the room's later bookings leave space for the extension. -/
def ExtendsIntoNeighbour (cfg : Config) (s : Store) : Op → Prop
  | .requestExtension i dto _ => ∃ m roomId, s.findMeeting i = some m ∧ m.roomId = some roomId ∧
      (∃ r ∈ s.bookings.rows, r.2.roomId = roomId ∧ r.2.status.holdsRoom = true ∧
        r.2.reservedStartTime = m.endTime) ∧
      ∀ r ∈ s.bookings.rows, r.2.roomId = roomId → r.2.status.isLive = true →
        m.endTime < r.2.reservedStartTime →
        m.endTime + dto.extensionMinutes * minuteMs + cfg.policy.bufferMs ≤ r.2.reservedStartTime
  | _ => False

theorem live_booking_lasts (sound : Consistent s) {b : RoomBooking}
    (row : (k, b) ∈ s.bookings.rows) (live : b.status.isLive = true) : b.slot.lasts := by
  obtain ⟨st, fits⟩ := sound b.meetingId
  have here : (k, b) ∈ (s.dossier b.meetingId).live := mem_liveRows.mpr ⟨row, rfl, live⟩
  cases known : (s.dossier b.meetingId).meeting with
  | none =>
    obtain ⟨-, nothing⟩ := fits_absent fits known
    rw [nothing] at here
    cases here
  | some m =>
    obtain ⟨-, slot, -, lasts, same⟩ := fits.seated m known
    rw [same (k, b) here]
    exact lasts

theorem applied_clash_free_iff (sound : Consistent s) (free : ClashFree (calendar s.bookings))
    (read : readExtensionMeeting i userId s = .ok basis) (active : readActiveBooking i s = .ok k)
    (fits : fitsBeforeNext cfg.policy basis dto k s = true)
    (h : handleAutoApplyPath basis i k userId dto s = .ok s') :
    ClashFree (calendar s'.bookings) ↔
      ¬ ∃ r ∈ s.bookings.rows, r.2.roomId = basis.roomId ∧ r.2.status.holdsRoom = true ∧
        r.2.reservedStartTime = basis.oldEndTime := by
  obtain ⟨st, here⟩ := sound i
  obtain ⟨m, b, d, -, status, -, room, finish⟩ := active_only read active here
  obtain ⟨row, -⟩ := booking_row d
  have lasts : b.reservedStartTime < b.reservedEndTime :=
    live_booking_lasts sound (get?_eq_some.mp row) (by rw [status]; rfl)
  have before : calendar s.bookings k =
      some (b.roomId, b.reservedStartTime, b.reservedEndTime) := by
    simp [calendar, row, RoomBooking.entry, status, RoomBookingStatus.holdsRoom]
  have gains := extension_gains basis dto
  have fits := fits_before_next_iff.mp fits
  have margin := cfg.policy.bufferMs_nonneg
  obtain ⟨-, -, -, rfl⟩ := handleAutoApplyPath_ok.mp h
  change ClashFree (calendar (s.bookings.update k _)) ↔ _
  have entry : (bookedUntil (basis.requestedNewEndTime dto) b).entry =
      some (b.roomId, b.reservedStartTime, basis.requestedNewEndTime dto) := by
    simp [RoomBooking.entry, bookedUntil, status, RoomBookingStatus.holdsRoom]
  rw [calendar_update row, entry, clash_free_put_iff free]
  constructor
  · rintro apart ⟨⟨j, c⟩, row', inRoom, holds, start⟩
    have inRoom : c.roomId = b.roomId := inRoom.trans room.symm
    have start : c.reservedStartTime = b.reservedEndTime := start.trans finish.symm
    have other : j ≠ k := by
      rintro rfl
      obtain rfl := key_unique s.bookings row' (get?_eq_some.mp row)
      omega
    have long : c.reservedStartTime < c.reservedEndTime :=
      live_booking_lasts sound row' (live_of_holds holds)
    have clear := (apart_iff (by omega) long).mp (apart j _ _ other
      (calendar_eq_some.mpr ⟨c, row', holds, inRoom, rfl, rfl⟩))
    omega
  · intro nobody j s₂ e₂ other entry'
    obtain ⟨c, row', holds, inRoom, rfl, rfl⟩ := calendar_eq_some.mp entry'
    have long : c.reservedStartTime < c.reservedEndTime :=
      live_booking_lasts sound row' (live_of_holds holds)
    have apart := (apart_iff lasts long).mp (free k j _ _ _ _ _ other.symm before entry')
    apply apart_of_order
    rcases apart with late | early
    · have apart_start : c.reservedStartTime ≠ basis.oldEndTime := fun same =>
        nobody ⟨(j, c), row', inRoom.trans room, holds, same⟩
      have := fits (j, c) row' (inRoom.trans room) other (live_of_holds holds) (by
        simp only
        omega)
      left
      simp only at this
      omega
    · exact Or.inr early

theorem requestExtension_clash_free_iff (sound : Consistent s)
    (free : ClashFree (calendar s.bookings))
    (h : requestExtension cfg i dto userId s = .ok s') :
    ClashFree (calendar s'.bookings) ↔
      ¬ ExtendsIntoNeighbour cfg s (.requestExtension i dto userId) := by
  obtain ⟨basis, k, read, active, branches⟩ := requestExtension_ok h
  obtain ⟨m, found, -, room, finish⟩ := readExtensionMeeting_ok read
  have target : basis.requestedNewEndTime dto = m.endTime + dto.extensionMinutes * minuteMs := by
    rw [ExtensionBasis.requestedNewEndTime, finish]
  have reads : ExtendsIntoNeighbour cfg s (.requestExtension i dto userId) ↔
      (∃ r ∈ s.bookings.rows, r.2.roomId = basis.roomId ∧ r.2.status.holdsRoom = true ∧
        r.2.reservedStartTime = basis.oldEndTime) ∧
      fitsBeforeNext cfg.policy basis dto k s = true := by
    rw [fits_before_next_iff, target, ← finish]
    constructor
    · rintro ⟨m', roomId, found', room', neighbour, space⟩
      obtain rfl : m = m' := Option.some.inj (found.symm.trans found')
      obtain rfl : basis.roomId = roomId := Option.some.inj (room.symm.trans room')
      refine ⟨neighbour, ?_⟩
      intro r row inRoom _ live after
      have := space r row inRoom live after
      omega
    · rintro ⟨neighbour, space⟩
      refine ⟨m, basis.roomId, found, room, neighbour, ?_⟩
      intro r row inRoom live after
      have other : r.1 ≠ k := by
        rintro rfl
        obtain ⟨st, here⟩ := sound i
        obtain ⟨_, b, d, -, status, -, -, ends⟩ := active_only read active here
        obtain ⟨row', -⟩ := booking_row d
        obtain rfl : r.2 = b := key_unique s.bookings row (get?_eq_some.mp row')
        have : r.2.reservedStartTime < r.2.reservedEndTime := live_booking_lasts sound row live
        omega
      have := space r row inRoom other live after
      omega
  rw [reads, not_and]
  rcases branches with ⟨fits, written⟩ | ⟨fits, rfl⟩
  · rw [applied_clash_free_iff sound free read active fits written]
    simp [fits]
  · rw [fits]
    simpa [handleRejectedPath] using free

end Extension

theorem step_no_double_booking_iff {cfg : Config} {s s' : Store} {op : Op} (sound : Consistent s)
    (free : NoDoubleBooking s) (step : Step cfg s op s') :
    NoDoubleBooking s' ↔ ¬ ExtendsIntoNeighbour cfg s op := by
  rw [no_double_booking_iff] at free ⊢
  have always : ClashFree (calendar s'.bookings) → (ClashFree (calendar s'.bookings) ↔ ¬ False) :=
    fun still => iff_of_true still not_false
  cases op with
  | create => exact always (create_clash_free free (toOption_eq_some.mp step))
  | updateMeetingTime => exact always (updateMeetingTime_clash_free free (toOption_eq_some.mp step))
  | updateMeetingRoom => exact always (updateMeetingRoom_clash_free free (toOption_eq_some.mp step))
  | approve => exact always (approve_clash_free free (toOption_eq_some.mp step))
  | reject => exact always (reject_clash_free free (toOption_eq_some.mp step))
  | expireOne => exact always (expireOne_clash_free free step)
  | cancelMeeting => exact always (cancelMeeting_clash_free free (toOption_eq_some.mp step))
  | startMeeting => exact always (startMeeting_clash_free free (toOption_eq_some.mp step))
  | autoStartDueMeetings =>
    obtain rfl := Option.some.inj step
    exact always (autoStart_clash_free free)
  | requestExtension => exact requestExtension_clash_free_iff sound free (toOption_eq_some.mp step)
  | endMeeting => exact always (endMeeting_clash_free free (toOption_eq_some.mp step))

theorem idle_no_double_booking {s : Store}
    (idle : s.bookings.rows.all (fun r => !r.2.status.holdsRoom) = true) : NoDoubleBooking s := by
  intro k k' b b' row _ _ _ holds
  have := List.all_eq_true.mp idle (k, b) row
  simp [holds] at this

theorem empty_no_double_booking : NoDoubleBooking Store.empty := by
  intro k k' b b' row
  exact (mem_empty.mp row).elim

/-- Over a whole run, no room is booked twice exactly when no meeting is extended into
    a booking that starts at its end. -/
theorem rooms_never_double_booked_iff {cfg : Config} {moves : List (Move Store Op)} {t : Store}
    (run : Run (Step cfg) Store.empty moves t) :
    (∀ s ∈ visited Store.empty moves, NoDoubleBooking s) ↔
      Heeds (fun s op => ¬ ExtendsIntoNeighbour cfg s op) moves :=
  states_safe_iff Consistent NoDoubleBooking run empty_consistent empty_no_double_booking
    step_consistent step_no_double_booking_iff

theorem rooms_in_approved_change : ∃ moves t,
    Run (Step (Config.load none none)) Store.empty moves t ∧
      moves.map Move.label = approvedChange ∧
      ((∀ s ∈ visited Store.empty moves, NoDoubleBooking s) ↔
        Heeds (fun s op => ¬ ExtendsIntoNeighbour (Config.load none none) s op) moves) := by
  obtain ⟨moves, t, run, labels⟩ := approved_change_runs
  exact ⟨moves, t, run, labels, rooms_never_double_booked_iff run⟩

def extendedIntoNeighbour : List Op :=
  approvedAtOnce ++ [.create openDirectory 0 { roomId := 1, startTime := 10800000, endTime := 14400000 } 7,
    .startMeeting 7200000 0 7,
    .requestExtension 0 halfAnHour 7]

theorem extension_double_books : ∃ moves t,
    Run (Step (Config.load (some 0) none)) Store.empty moves t ∧
      moves.map Move.label = extendedIntoNeighbour ∧ ¬ NoDoubleBooking t := by
  have booked : ∃ t b b', execAll (Config.load (some 0) none) extendedIntoNeighbour Store.empty =
      some t ∧ t.bookings.get? 0 = some b ∧ t.bookings.get? 1 = some b' ∧
      b = ⟨0, 1, 7200000, 12600000, .active⟩ ∧ b' = ⟨1, 1, 10800000, 14400000, .approved⟩ :=
    ⟨_, _, _, rfl, rfl, rfl, by decide +kernel, by decide +kernel⟩
  obtain ⟨t, _, _, ran, first, second, rfl, rfl⟩ := booked
  obtain ⟨moves, run, labels⟩ := run_of_execAll ran
  refine ⟨moves, t, run, labels, ?_⟩
  intro free
  have apart := free 0 1 _ _ (get?_eq_some.mp first) (get?_eq_some.mp second) (by decide)
    rfl rfl rfl
  rw [apart_iff (by decide) (by decide)] at apart
  revert apart
  decide

end MeetingBooking
