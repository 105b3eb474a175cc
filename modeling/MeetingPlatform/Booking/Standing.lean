import MeetingPlatform.Booking.Handlers

/- The abstract life of a meeting and its room: an automaton of standings, and when
   the rows of a meeting fit one of them. -/
namespace MeetingBooking
open KeyedTable

/-- Where a meeting stands. `held` tells whether its booking keeps others out of the
    room; a booking that does not is PENDING. -/
inductive Standing where
  | absent
  | requested
  | booked (held : Bool)
  | changing (held : Bool)
  | running (held : Bool)
  | finished (held : Bool)
  | calledOff
  deriving DecidableEq, Repr

def heldAs (held : Bool) (status : RoomBookingStatus) : RoomBookingStatus :=
  if held then status else .pending

def Standing.meetingStatus : Standing → Option MeetingStatus
  | .absent => none
  | .requested | .changing _ => some .pendingApproval
  | .booked _ => some .scheduled
  | .running _ => some .inProgress
  | .finished _ => some .completed
  | .calledOff => some .cancelled

def Standing.bookingStatus : Standing → Option RoomBookingStatus
  | .requested => some .pending
  | .booked held | .changing held => some (heldAs held .approved)
  | .running held => some (heldAs held .active)
  | .finished held => if held then none else some .pending
  | .absent | .calledOff => none

def Standing.asksForChange : Standing → Option Bool
  | .requested => some false
  | .changing _ => some true
  | _ => none

structure Dossier.Fits (d : Dossier) (st : Standing) : Prop where
  status : d.meeting.map Meeting.status = st.meetingStatus
  booking : d.live.map (fun b => b.2.status) = st.bookingStatus.toList
  request : d.pending.map (fun r => r.2.requestType.isUpdate) = st.asksForChange.toList
  seated : ∀ m, d.meeting = some m → m.deletedAt = none ∧
    ∃ slot : Slot, m.slot = some slot ∧ slot.lasts ∧ ∀ b ∈ d.live, b.2.slot = slot
  aimed : ∀ r ∈ d.pending, r.2.requestType ∈ supportedRequestTypes ∧
    ∃ slot : Slot, r.2.slot = some slot ∧ slot.lasts

section Reading
variable {d : Dossier} {st : Standing} {m : Meeting}

theorem fits_status (fits : d.Fits st) (row : d.meeting = some m) : st.meetingStatus = some m.status := by
  rw [← fits.status, row]
  rfl

theorem fits_alone {status : RoomBookingStatus} (fits : d.Fits st) (row : d.meeting = some m)
    (books : st.bookingStatus = some status) (asks : st.asksForChange = none) :
    ∃ k b, d = ⟨some m, [(k, b)], []⟩ ∧ b.status = status := by
  obtain ⟨meeting, live, pending⟩ := d
  obtain ⟨-, booking, request, -, -⟩ := fits
  rw [books] at booking
  rw [asks] at request
  obtain rfl : meeting = some m := row
  obtain ⟨⟨k, b⟩, rfl, same⟩ := List.map_eq_singleton_iff.mp booking
  obtain rfl := List.map_eq_nil_iff.mp request
  exact ⟨k, b, rfl, same⟩

theorem fits_asking {status : RoomBookingStatus} {change : Bool} (fits : d.Fits st) (row : d.meeting = some m)
    (books : st.bookingStatus = some status) (asks : st.asksForChange = some change) :
    ∃ k b q r, d = ⟨some m, [(k, b)], [(q, r)]⟩ ∧ r.requestType.isUpdate = change ∧ b.status = status := by
  obtain ⟨meeting, live, pending⟩ := d
  obtain ⟨-, booking, request, -, -⟩ := fits
  rw [books] at booking
  rw [asks] at request
  obtain rfl : meeting = some m := row
  obtain ⟨⟨k, b⟩, rfl, same⟩ := List.map_eq_singleton_iff.mp booking
  obtain ⟨⟨q, r⟩, rfl, asked⟩ := List.map_eq_singleton_iff.mp request
  exact ⟨k, b, q, r, rfl, asked, same⟩

theorem fits_awaiting (fits : d.Fits st) (row : d.meeting = some m)
    (awaiting : m.status = .pendingApproval) :
    ∃ k b q r, d = ⟨some m, [(k, b)], [(q, r)]⟩ ∧
      (st = .requested ∧ r.requestType.isUpdate = false ∧ b.status = .pending ∨
        ∃ held, st = .changing held ∧ r.requestType.isUpdate = true ∧
          b.status = heldAs held .approved) := by
  have status := fits_status fits row
  rw [awaiting] at status
  cases st with
  | requested =>
    obtain ⟨k, b, q, r, shape, asked, same⟩ := fits_asking fits row rfl rfl
    exact ⟨k, b, q, r, shape, Or.inl ⟨rfl, asked, same⟩⟩
  | changing held =>
    obtain ⟨k, b, q, r, shape, asked, same⟩ := fits_asking fits row rfl rfl
    exact ⟨k, b, q, r, shape, Or.inr ⟨held, rfl, asked, same⟩⟩
  | _ => simp [Standing.meetingStatus] at status

theorem fits_scheduled (fits : d.Fits st) (row : d.meeting = some m)
    (scheduled : m.status = .scheduled) :
    ∃ k b held, d = ⟨some m, [(k, b)], []⟩ ∧ st = .booked held ∧
      b.status = heldAs held .approved := by
  have status := fits_status fits row
  rw [scheduled] at status
  cases st with
  | booked held =>
    obtain ⟨k, b, shape, same⟩ := fits_alone fits row rfl rfl
    exact ⟨k, b, held, shape, rfl, same⟩
  | _ => simp [Standing.meetingStatus] at status

theorem fits_running (fits : d.Fits st) (row : d.meeting = some m)
    (running : m.status = .inProgress) :
    ∃ k b held, d = ⟨some m, [(k, b)], []⟩ ∧ st = .running held ∧
      b.status = heldAs held .active := by
  have status := fits_status fits row
  rw [running] at status
  cases st with
  | running held =>
    obtain ⟨k, b, shape, same⟩ := fits_alone fits row rfl rfl
    exact ⟨k, b, held, shape, rfl, same⟩
  | _ => simp [Standing.meetingStatus] at status

theorem standing_read_back : ∀ st st' : Standing, st.meetingStatus = st'.meetingStatus →
    st.bookingStatus.toList = st'.bookingStatus.toList →
    st.asksForChange.toList = st'.asksForChange.toList → st = st' := by
  rintro (_ | _ | ⟨_ | _⟩ | ⟨_ | _⟩ | ⟨_ | _⟩ | ⟨_ | _⟩ | _)
    (_ | _ | ⟨_ | _⟩ | ⟨_ | _⟩ | ⟨_ | _⟩ | ⟨_ | _⟩ | _) <;> decide

theorem fits_unique {st' : Standing} (fits : d.Fits st) (fits' : d.Fits st') : st = st' :=
  standing_read_back st st' (fits.status.symm.trans fits'.status)
    (fits.booking.symm.trans fits'.booking) (fits.request.symm.trans fits'.request)

end Reading

inductive Action where
  | create (auto : Bool)
  | moveTime
  | moveRoom
  | approve
  | reject
  | expire
  | cancel
  | start
  | extend
  | finish
  deriving DecidableEq, Repr

/-- A move to another room while a change is pending is the one edge that loses a room that was
    held. -/
def Standing.next : Standing → Action → Option Standing
  | .absent, .create auto => some (if auto then .booked true else .requested)
  | .requested, .moveTime | .requested, .moveRoom => some .requested
  | .requested, .approve => some (.booked true)
  | .requested, .reject | .requested, .expire => some .calledOff
  | .booked held, .moveTime | .booked held, .moveRoom => some (.changing held)
  | .booked _, .cancel => some .calledOff
  | .booked held, .start | .running held, .start => some (.running held)
  | .changing held, .moveTime => some (.changing held)
  | .changing _, .moveRoom => some (.changing false)
  | .changing true, .approve | .changing true, .reject => some (.booked true)
  | .changing held, .expire => some (.booked held)
  | .running held, .extend => some (.running held)
  | .running held, .finish => some (.finished held)
  | _, _ => none

theorem expiry_of_unheld {st : Standing} {a : Action} (edge : st.next a = some (.booked false)) :
    st = .changing false ∧ a = .expire := by
  revert edge
  rcases st with _ | _ | ⟨_ | _⟩ | ⟨_ | _⟩ | ⟨_ | _⟩ | ⟨_ | _⟩ | _ <;>
    rcases a with ⟨_ | _⟩ | _ | _ | _ | _ | _ | _ | _ | _ | _ <;> decide

theorem unheld_change {st : Standing} {a : Action} (edge : st.next a = some (.changing false)) :
    st = .booked false ∨ st = .changing false ∨ st = .changing true ∧ a = .moveRoom := by
  revert edge
  rcases st with _ | _ | ⟨_ | _⟩ | ⟨_ | _⟩ | ⟨_ | _⟩ | ⟨_ | _⟩ | _ <;>
    rcases a with ⟨_ | _⟩ | _ | _ | _ | _ | _ | _ | _ | _ | _ <;> decide

/-- The step takes meeting `i` along an edge and changes the dossier of no other. -/
def Advances (s : Store) (i : Nat) (a : Action) (s' : Store) : Prop :=
  ∀ st, (s.dossier i).Fits st → ∃ st' d', st.next a = some st' ∧ d'.Fits st' ∧
    s'.dossier = Function.update s.dossier i d'

section Lookups
variable {s : Store} {i k q : Nat} {m : Meeting} {b : RoomBooking} {r : MeetingRequest}
  {live : List (Nat × RoomBooking)} {pending : List (Nat × MeetingRequest)}

theorem dossier_of_found (found : s.findMeeting i = some m) : (s.dossier i).meeting = some m :=
  get?_eq_some.mpr (findMeeting_eq_some.mp found).1

theorem found_row (found : s.findMeeting i = some m) : s.meetings.get? i = some m :=
  get?_eq_some.mpr (findMeeting_eq_some.mp found).1

theorem booking_row (d : s.dossier i = ⟨some m, [(k, b)], pending⟩) :
    s.bookings.get? k = some b ∧ b.meetingId = i := by
  obtain ⟨row, mine, -⟩ := only_live_row (dossier_live d)
  exact ⟨row, mine⟩

theorem first_pending (d : s.dossier i = ⟨some m, live, [(q, r)]⟩) :
    s.requests.findOne (pendingOf i) = some (q, r) := by
  have only : pendingRows s.requests i = [(q, r)] := dossier_pending d
  exact congrArg List.head? only

theorem pending_row (d : s.dossier i = ⟨some m, live, [(q, r)]⟩) :
    s.requests.get? q = some r ∧ r.meetingId = some i ∧ r.approvalStatus = .pending := by
  have only : pendingRows s.requests i = [(q, r)] := dossier_pending d
  obtain ⟨row, mine, pending⟩ := mem_pendingRows.mp (by rw [only]; exact List.mem_singleton_self _)
  exact ⟨get?_eq_some.mpr row, mine, pending⟩

theorem pending_here (d : s.dossier i = ⟨some m, live, [(q, r)]⟩) {q' : Nat} {r' : MeetingRequest}
    (row : s.requests.get? q' = some r') (mine : r'.meetingId = some i)
    (pending : r'.approvalStatus = .pending) : q' = q ∧ r' = r := by
  have only : pendingRows s.requests i = [(q, r)] := dossier_pending d
  have here : (q', r') ∈ pendingRows s.requests i :=
    mem_pendingRows.mpr ⟨get?_eq_some.mp row, mine, pending⟩
  rw [only, List.mem_singleton] at here
  exact Prod.mk.inj here

end Lookups

end MeetingBooking
