import MeetingPlatform.Booking.Ownership

/- What is left of a scheduled meeting when its change request is closed without being
   granted, after any number of edits. -/
namespace MeetingBooking
open KeyedTable Guards

inductive Edit where
  | time (dir : Directory) (now : Int) (dto : UpdateMeetingTimeDto) (userId : Nat)
  | room (dir : Directory) (now : Int) (dto : UpdateMeetingRoomDto) (userId : Nat)

def Edit.op (i : Nat) : Edit → Op
  | .time dir now dto userId => .updateMeetingTime dir now i dto userId
  | .room dir now dto userId => .updateMeetingRoom dir now i dto userId

def follow : Slot → List Edit → Option Slot
  | slot, [] => some slot
  | slot, .time _ _ dto _ :: edits => (dto.target slot.roomId).bind (follow · edits)
  | _, .room .. :: _ => none

/-- The meeting is back at its times and its room, and the one booking that holds a
    room for it is in that slot too. -/
def Restored (s : Store) (i : Nat) (m : Meeting) (slot : Slot) : Prop :=
  (∃ m', s.meetings.get? i = some m' ∧ m'.startTime = m.startTime ∧ m'.endTime = m.endTime ∧
      m'.roomId = m.roomId) ∧
    (s.holdingBookings i).map (fun b => b.2.slot) = [slot]

def Waits (s : Store) (i : Nat) (slot : Slot) (status : RoomBookingStatus) : Prop :=
  ∃ m k b, s.findMeeting i = some m ∧ m.status = .pendingApproval ∧ m.slot = some slot ∧
    liveRows s.bookings i = [(k, b)] ∧ b.slot = slot ∧ b.status = status

section Edits
variable {cfg : Config} {dir : Directory} {now : Int} {i userId : Nat} {s s' : Store} {slot : Slot}
  {status : RoomBookingStatus}

theorem found_after_update {m : Meeting} {f : Meeting → Meeting} (found : s.findMeeting i = some m)
    (meetings : s'.meetings = s.meetings.update i f) (kept : (f m).deletedAt = m.deletedAt) :
    s'.findMeeting i = some (f m) := by
  obtain ⟨row, open_yet⟩ := findMeeting_eq_some.mp found
  refine findMeeting_eq_some.mpr ⟨?_, kept.trans open_yet⟩
  rw [meetings, ← get?_eq_some, meeting_update (get?_eq_some.mpr row), Function.update_self]

theorem first_edit_waits {m : Meeting} {k : Nat} {b : RoomBooking} {e : Edit}
    (row : s.meetings.get? i = some m) (scheduled : m.status = .scheduled)
    (only : liveRows s.bookings i = [(k, b)]) (seated : m.slot = some b.slot)
    (step : Step cfg s (e.op i) s') : Waits s' i b.slot b.status := by
  have filed : ∀ {userId type slot}, s.findMeeting i = some m →
      Waits (requestChange i userId type slot s) i b.slot b.status := by
    intro userId type slot found
    exact ⟨_, k, b, found_after_update found rfl rfl, rfl, seated, only, rfl, rfl⟩
  have settled : ∀ {m'}, s.findMeeting i = some m' → m' = m := by
    intro m' found
    exact Option.some.inj ((found_row found).symm.trans row)
  cases e with
  | time dir now dto userId =>
    obtain ⟨m', -, -, found, -, -, -, -, ⟨awaiting, -⟩ | ⟨-, rfl⟩⟩ :=
      updateMeetingTime_ok (toOption_eq_some.mp step)
    · obtain rfl := settled found
      rw [scheduled] at awaiting
      cases awaiting
    · exact filed (settled found ▸ found)
  | room dir now dto userId =>
    obtain ⟨m', -, found, -, -, ⟨awaiting, -⟩ | ⟨-, rfl⟩⟩ :=
      updateMeetingRoom_ok (toOption_eq_some.mp step)
    · obtain rfl := settled found
      rw [scheduled] at awaiting
      cases awaiting
    · exact filed (settled found ▸ found)

theorem time_edit_waits {dto : UpdateMeetingTimeDto} (waits : Waits s i slot status)
    (h : updateMeetingTime cfg dir now i dto userId s = .ok s') :
    ∃ target, dto.target slot.roomId = some target ∧ Waits s' i target status := by
  obtain ⟨m, k, b, found, awaiting, seated, only, rfl, rfl⟩ := waits
  obtain ⟨m', roomId, target, found', room, leads, -, -, branches⟩ := updateMeetingTime_ok h
  obtain rfl : m = m' := Option.some.inj (found.symm.trans found')
  obtain rfl : b.slot.roomId = roomId :=
    Option.some.inj ((meeting_slot seated).1.symm.trans room)
  refine ⟨target, leads, ?_⟩
  rcases branches with ⟨-, written⟩ | ⟨scheduled, -⟩
  · rw [only_live_first only] at written
    obtain ⟨meetings, live⟩ := editPendingTime_live only written
    refine ⟨target.onMeeting m, k, target.onBooking b, ?_, awaiting, rfl, ?_, rfl, rfl⟩
    · exact found_after_update found meetings rfl
    · rw [live, Function.update_self]
  · rw [awaiting] at scheduled
    cases scheduled

theorem room_edit_waits {dto : UpdateMeetingRoomDto} (waits : Waits s i slot status)
    (h : updateMeetingRoom cfg dir now i dto userId s = .ok s') :
    ∃ target, Waits s' i target .pending := by
  obtain ⟨m, k, b, found, awaiting, seated, only, rfl, rfl⟩ := waits
  obtain ⟨m', roomId, found', room, -, branches⟩ := updateMeetingRoom_ok h
  obtain rfl : m = m' := Option.some.inj (found.symm.trans found')
  have inRoom : b.roomId = roomId := Option.some.inj ((meeting_slot seated).1.symm.trans room)
  refine ⟨⟨dto.newRoomId, m.startTime, m.endTime⟩, ?_⟩
  rcases branches with ⟨-, written⟩ | ⟨scheduled, -⟩
  · obtain ⟨meetings, live⟩ := editPendingRoom_live only inRoom written
    refine ⟨_, s.bookings.next, Slot.booking ⟨dto.newRoomId, m.startTime, m.endTime⟩ i .pending,
      found_after_update found meetings rfl, awaiting, rfl, ?_, rfl, rfl⟩
    rw [live, Function.update_self]
  · rw [awaiting] at scheduled
    cases scheduled

theorem unheld_edits_wait {edits : List Edit} {t : Store} (waits : Waits s i slot .pending)
    (edited : execAll cfg (edits.map (Edit.op i)) s = some t) :
    ∃ target, Waits t i target .pending := by
  induction edits generalizing s slot with
  | nil =>
    obtain rfl := Option.some.inj edited
    exact ⟨slot, waits⟩
  | cons e edits ih =>
    obtain ⟨u, step, rest⟩ := Option.bind_eq_some_iff.mp edited
    cases e with
    | time =>
      obtain ⟨target, -, still⟩ := time_edit_waits waits (toOption_eq_some.mp step)
      exact ih still rest
    | room =>
      obtain ⟨target, still⟩ := room_edit_waits waits (toOption_eq_some.mp step)
      exact ih still rest

theorem edits_wait {edits : List Edit} {t : Store} (waits : Waits s i slot .approved)
    (edited : execAll cfg (edits.map (Edit.op i)) s = some t) :
    (∃ target, follow slot edits = some target ∧ Waits t i target .approved) ∨
      follow slot edits = none ∧ ∃ target, Waits t i target .pending := by
  induction edits generalizing s slot with
  | nil =>
    obtain rfl := Option.some.inj edited
    exact Or.inl ⟨slot, rfl, waits⟩
  | cons e edits ih =>
    obtain ⟨u, step, rest⟩ := Option.bind_eq_some_iff.mp edited
    cases e with
    | time dir now dto userId =>
      obtain ⟨target, leads, still⟩ := time_edit_waits waits (toOption_eq_some.mp step)
      have onward : follow slot (.time dir now dto userId :: edits) = follow target edits := by
        simp [follow, leads]
      rw [onward]
      exact ih still rest
    | room =>
      obtain ⟨target, still⟩ := room_edit_waits waits (toOption_eq_some.mp step)
      exact Or.inr ⟨rfl, unheld_edits_wait still rest⟩

end Edits

section Closing
variable {s s' : Store} {i q : Nat} {m : Meeting} {r : MeetingRequest} {slot target : Slot}
  {status : RoomBookingStatus}

/-- The calls that close a pending request without granting it. -/
def Closes (q : Nat) (s s' : Store) : Prop :=
  (∃ userId, reject q userId s = .ok s') ∨ expireOne q s = some s'

theorem closes_turnDown (closes : Closes q s s') (row : s.requests.get? q = some r)
    (mine : r.meetingId = some i) (change : r.requestType.isUpdate = true) :
    ∃ m, s.findMeeting i = some m ∧ m.status = .pendingApproval ∧
      s'.meetings = s.meetings.save i { m with status := .scheduled } ∧
      s'.bookings = s.bookings := by
  rcases closes with ⟨userId, h⟩ | h
  · obtain ⟨v, opened, rfl⟩ := reject_ok.mp h
    obtain rfl : r = v.request := Option.some.inj (row.symm.trans opened.request_row)
    obtain rfl : i = v.meetingId := Option.some.inj (mine.symm.trans opened.of_meeting)
    exact ⟨v.meeting, opened.meeting_row, opened.awaiting, by simp [turnDown, change],
      by simp [turnDown, change]⟩
  · obtain ⟨r', i', m, row', -, mine', found, awaiting, rfl⟩ := expireOne_some h
    obtain rfl : r = r' := Option.some.inj (row.symm.trans row')
    obtain rfl : i = i' := Option.some.inj (mine.symm.trans mine')
    exact ⟨m, found, awaiting, by simp [turnDown, change], by simp [turnDown, change]⟩

theorem closing_restores_iff (waits : Waits s i target status) (closes : Closes q s s')
    (row : s.requests.get? q = some r) (mine : r.meetingId = some i)
    (change : r.requestType.isUpdate = true) (seated : m.slot = some slot) :
    Restored s' i m slot ↔ status.holdsRoom = true ∧ target = slot := by
  obtain ⟨m₁, k, b, found, -, seated₁, only, rfl, rfl⟩ := waits
  obtain ⟨m₂, found₂, -, meetings, bookings⟩ := closes_turnDown closes row mine change
  obtain rfl : m₁ = m₂ := Option.some.inj (found.symm.trans found₂)
  have after : s'.meetings.get? i = some { m₁ with status := .scheduled } := by
    rw [meetings, Table.save, meeting_update (found_row found), Function.update_self]
  have holding : s'.holdingBookings i = if b.status.holdsRoom then [(k, b)] else [] := by
    unfold Store.holdingBookings
    rw [bookings, select_among (fun _ => live_of_holds), only]
    cases holds : b.status.holdsRoom <;> simp [holds]
  obtain ⟨room, start, finish⟩ := meeting_slot seated
  obtain ⟨room₁, start₁, finish₁⟩ := meeting_slot seated₁
  unfold Restored
  rw [holding]
  constructor
  · rintro ⟨-, same⟩
    cases holds : b.status.holdsRoom with
    | true => exact ⟨rfl, by simpa [holds] using same⟩
    | false => simp [holds] at same
  · rintro ⟨holds, rfl⟩
    refine ⟨⟨_, after, ?_, ?_, ?_⟩, by simp [holds]⟩
    · exact start₁.trans start.symm
    · exact finish₁.trans finish.symm
    · exact room₁.trans room.symm

end Closing

/-- A change that is rejected or expires leaves the meeting as it was approved exactly
    when all edits after the first are time edits that lead back to the old slot. -/
theorem closed_change_restores_iff {cfg : Config} {s t t' : Store} {i k q : Nat} {m : Meeting}
    {b : RoomBooking} {r : MeetingRequest} {edits : List Edit}
    (row : s.meetings.get? i = some m) (scheduled : m.status = .scheduled)
    (only : liveRows s.bookings i = [(k, b)]) (approved : b.status = .approved)
    (seated : m.slot = some b.slot) (edited : execAll cfg (edits.map (Edit.op i)) s = some t)
    (request : t.requests.get? q = some r) (mine : r.meetingId = some i)
    (change : r.requestType.isUpdate = true) (closes : Closes q t t') :
    Restored t' i m b.slot ↔ follow b.slot edits.tail = some b.slot := by
  cases edits with
  | nil =>
    obtain rfl := Option.some.inj edited
    obtain ⟨m', found, awaiting, -, -⟩ := closes_turnDown closes request mine change
    obtain rfl : m = m' := Option.some.inj (row.symm.trans (found_row found))
    rw [scheduled] at awaiting
    cases awaiting
  | cons e edits =>
    obtain ⟨u, step, rest⟩ := Option.bind_eq_some_iff.mp edited
    have waits := first_edit_waits row scheduled only seated step
    rw [approved] at waits
    rw [List.tail_cons]
    rcases edits_wait waits rest with ⟨target, leads, still⟩ | ⟨lost, target, still⟩
    · rw [closing_restores_iff still closes request mine change seated, leads]
      simp [RoomBookingStatus.holdsRoom]
    · rw [closing_restores_iff still closes request mine change seated, lost]
      simp [RoomBookingStatus.holdsRoom]

def moveTo (startTime endTime : Int) : Edit :=
  .time openDirectory 0 { startTime := some startTime, endTime := some endTime } 7

theorem moved_back_and_rejected : ∃ s t t' m b,
    execAll (Config.load none none) approvedAtOnce Store.empty = some s ∧
      s.meetings.get? 0 = some m ∧
      execAll (Config.load none none)
        ([moveTo 10800000 14400000, moveTo 7200000 10800000].map (Edit.op 0)) s = some t ∧
      Closes 1 t t' ∧
      (Restored t' 0 m b ↔ follow b [moveTo 7200000 10800000] = some b) := by
  have run : ∃ s t t' m k b r, execAll (Config.load none none) approvedAtOnce Store.empty = some s ∧
      s.meetings.get? 0 = some m ∧ m.status = .scheduled ∧ liveRows s.bookings 0 = [(k, b)] ∧
      b.status = .approved ∧ m.slot = some b.slot ∧
      execAll (Config.load none none)
        ([moveTo 10800000 14400000, moveTo 7200000 10800000].map (Edit.op 0)) s = some t ∧
      t.requests.get? 1 = some r ∧ r.meetingId = some 0 ∧ r.requestType.isUpdate = true ∧
      reject 1 8 t = .ok t' :=
    ⟨_, _, _, _, _, _, _, rfl, rfl, rfl, rfl, rfl, rfl, rfl, rfl, rfl, rfl, rfl⟩
  obtain ⟨s, t, t', m, k, b, r, created, row, scheduled, only, approved, seated, edited, request,
    mine, change, rejected⟩ := run
  have closes : Closes 1 t t' := Or.inl ⟨8, rejected⟩
  exact ⟨s, t, t', m, b.slot, created, row, edited, closes,
    closed_change_restores_iff row scheduled only approved seated edited request mine change closes⟩

theorem expired_change_stays_applied : ∃ s t t' m k b r,
    execAll (Config.load none none) approvedAtOnce Store.empty = some s ∧
      s.meetings.get? 0 = some m ∧ m.status = .scheduled ∧ liveRows s.bookings 0 = [(k, b)] ∧
      b.status = .approved ∧ m.slot = some b.slot ∧
      execAll (Config.load none none)
        ([moveTo 10800000 14400000, moveTo 18000000 21600000].map (Edit.op 0)) s = some t ∧
      t.requests.get? 1 = some r ∧ r.meetingId = some 0 ∧ r.requestType.isUpdate = true ∧
      Closes 1 t t' ∧ ¬ Restored t' 0 m b.slot := by
  refine ⟨_, _, _, _, _, _, _, rfl, rfl, rfl, rfl, rfl, rfl, rfl, rfl, rfl, rfl, Or.inr rfl, ?_⟩
  rintro ⟨⟨m', row, start, -, -⟩, -⟩
  cases row
  revert start
  decide

end MeetingBooking
