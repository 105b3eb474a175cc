import MeetingPlatform.Booking.Review
import MeetingPlatform.Booking.Live
import Mathlib.Logic.Function.Basic

/- What the three tables say about one meeting: its row, its live bookings and its
   pending requests. The single-row writes of the services are read off here as
   updates of this view at one meeting. -/
namespace MeetingBooking
open KeyedTable

section Slots

def Meeting.slot (m : Meeting) : Option Slot :=
  m.roomId.map fun roomId => ⟨roomId, m.startTime, m.endTime⟩

def RoomBooking.slot (b : RoomBooking) : Slot := ⟨b.roomId, b.reservedStartTime, b.reservedEndTime⟩

def MeetingRequest.slot (r : MeetingRequest) : Option Slot :=
  match r.targetRoomId, r.requestedStartTime, r.requestedEndTime with
  | some roomId, some startTime, some endTime => some ⟨roomId, startTime, endTime⟩
  | _, _, _ => none

def Slot.lasts (slot : Slot) : Prop := slot.startTime < slot.endTime

variable (slot : Slot)

@[simp] theorem slot_onMeeting (m : Meeting) : (slot.onMeeting m).slot = some slot := rfl

@[simp] theorem slot_onBooking (b : RoomBooking) : (slot.onBooking b).slot = slot := rfl

@[simp] theorem slot_onRequest (r : MeetingRequest) : (slot.onRequest r).slot = some slot := rfl

@[simp] theorem slot_booking (i : Nat) (st : RoomBookingStatus) : (slot.booking i st).slot = slot :=
  rfl

@[simp] theorem slot_request (i userId : Nat) (type : MeetingRequestType) :
    (slot.request i userId type).slot = some slot := rfl

theorem meeting_slot {m : Meeting} {slot : Slot} (h : m.slot = some slot) :
    m.roomId = some slot.roomId ∧ m.startTime = slot.startTime ∧ m.endTime = slot.endTime := by
  obtain ⟨roomId, room, rfl⟩ := Option.map_eq_some_iff.mp h
  exact ⟨room, rfl, rfl⟩

theorem request_slot {r : MeetingRequest} {slot : Slot} (h : r.slot = some slot) :
    r.targetRoomId = some slot.roomId ∧ r.requestedStartTime = some slot.startTime ∧
      r.requestedEndTime = some slot.endTime := by
  unfold MeetingRequest.slot at h
  split at h
  · rename_i room start finish
    cases h
    exact ⟨room, start, finish⟩
  · cases h

end Slots

section Bookings

def liveRows (t : Table RoomBooking) (i : Nat) : List (Nat × RoomBooking) :=
  t.select (ofMeeting i RoomBookingStatus.isLive)

variable {t : Table RoomBooking} {i k : Nat} {b v : RoomBooking} {f : RoomBooking → RoomBooking}

theorem mem_liveRows {r : Nat × RoomBooking} :
    r ∈ liveRows t i ↔ r ∈ t.rows ∧ r.2.meetingId = i ∧ r.2.status.isLive = true := by
  simp [liveRows, mem_select, ofMeeting]

theorem only_live_row (only : liveRows t i = [(k, b)]) :
    t.get? k = some b ∧ b.meetingId = i ∧ b.status.isLive = true := by
  obtain ⟨row, mine, live⟩ := mem_liveRows.mp (by rw [only]; exact List.mem_singleton_self _)
  exact ⟨get?_eq_some.mpr row, mine, live⟩

theorem only_live_first (only : liveRows t i = [(k, b)]) :
    t.findOne (ofMeeting i RoomBookingStatus.isLive) = some (k, b) :=
  congrArg List.head? only

theorem only_live_newest (only : liveRows t i = [(k, b)]) :
    t.findNewest (ofMeeting i RoomBookingStatus.isLive) = some (k, b) :=
  congrArg List.getLast? only

theorem live_update (only : liveRows t i = [(k, b)]) (same : (f b).meetingId = i) :
    liveRows (t.update k f) =
      Function.update (liveRows t) i (if (f b).status.isLive then [(k, f b)] else []) := by
  obtain ⟨row, mine, -⟩ := only_live_row only
  funext j
  by_cases here : j = i
  · subst here
    rw [Function.update_self, liveRows, select_update only]
    simp [ofMeeting, same]
  · rw [Function.update_of_ne here]
    apply select_update_frame
    intro w hw
    obtain rfl := key_unique t hw (get?_eq_some.mp row)
    simp only [ofMeeting, same, decide_eq_false_iff_not, not_and]
    exact ⟨fun eq => absurd (eq.symm.trans mine) here, fun eq => absurd eq.symm here⟩

theorem live_insert (same : v.meetingId = i) :
    liveRows (t.insert v) =
      Function.update (liveRows t) i
        (liveRows t i ++ if v.status.isLive then [(t.next, v)] else []) := by
  funext j
  unfold liveRows
  rw [select_insert]
  by_cases here : j = i
  · subst here
    simp [ofMeeting, same]
  · rw [Function.update_of_ne here]
    have other : v.meetingId ≠ j := fun eq => here (eq.symm.trans same)
    simp [ofMeeting, other]

theorem live_release {p : Nat × RoomBooking → Bool}
    (within : ∀ r ∈ t.rows, p r = true → r.2.meetingId = i)
    (all : ∀ r ∈ liveRows t i, p r = true) (dead : ∀ b, (f b).status.isLive = false) :
    liveRows (t.updateWhere p f) = Function.update (liveRows t) i [] := by
  funext j
  by_cases here : j = i
  · subst here
    rw [Function.update_self, liveRows, List.eq_nil_iff_forall_not_mem]
    intro r hr
    obtain ⟨row, mine⟩ := mem_select.mp hr
    obtain ⟨q, hq, rfl⟩ := mem_updateWhere.mp row
    cases hit : p q with
    | true => simp [touch_of_true f hit, ofMeeting, dead] at mine
    | false =>
      rw [touch_of_false f hit] at mine
      have := all q (mem_select.mpr ⟨hq, mine⟩)
      simp [hit] at this
  · rw [Function.update_of_ne here]
    apply select_updateWhere_frame
    intro r hr hit
    have other : r.2.meetingId ≠ j := fun eq => here (eq.symm.trans (within r hr hit))
    simp [ofMeeting, dead, other]

theorem select_among {among : RoomBookingStatus → Bool}
    (narrow : ∀ st, among st = true → st.isLive = true) :
    t.select (ofMeeting i among) = (liveRows t i).filter fun r => among r.2.status := by
  unfold liveRows Table.select
  rw [List.filter_filter]
  apply List.filter_congr
  intro r _
  by_cases chosen : among r.2.status = true
  · simp [ofMeeting, chosen, narrow _ chosen]
  · simp [ofMeeting, chosen]

theorem live_activate {among : Nat → Bool} :
    liveRows (t.updateWhere (approvedOf among) activate) i =
      (liveRows t i).map (touch (approvedOf among) activate) := by
  unfold liveRows Table.select Table.updateWhere
  rw [List.filter_map]
  congr 1
  apply List.filter_congr
  intro r _
  by_cases hit : approvedOf among r = true
  · have approved : r.2.status = .approved := by
      simp only [approvedOf, decide_eq_true_eq] at hit
      exact hit.2
    simp [touch, hit, ofMeeting, activate, approved, RoomBookingStatus.isLive]
  · simp [touch, hit]

end Bookings

section Requests

def pendingRows (t : Table MeetingRequest) (i : Nat) : List (Nat × MeetingRequest) :=
  t.select (pendingOf i)

variable {t : Table MeetingRequest} {i k : Nat} {r v : MeetingRequest}
  {f : MeetingRequest → MeetingRequest}

theorem mem_pendingRows {q : Nat × MeetingRequest} :
    q ∈ pendingRows t i ↔
      q ∈ t.rows ∧ q.2.meetingId = some i ∧ q.2.approvalStatus = .pending := by
  simp [pendingRows, mem_select, pendingOf]

theorem pending_update (only : pendingRows t i = [(k, r)]) (same : (f r).meetingId = some i) :
    pendingRows (t.update k f) =
      Function.update (pendingRows t) i
        (if (f r).approvalStatus = .pending then [(k, f r)] else []) := by
  obtain ⟨row, mine, -⟩ := mem_pendingRows.mp (by rw [only]; exact List.mem_singleton_self _)
  funext j
  by_cases here : j = i
  · subst here
    rw [Function.update_self, pendingRows, select_update only]
    simp [pendingOf, same]
  · rw [Function.update_of_ne here]
    apply select_update_frame
    intro w hw
    obtain rfl := key_unique t hw row
    have other : i ≠ j := fun eq => here eq.symm
    have mine' : w.meetingId = some i := mine
    simp [pendingOf, same, mine', other]

theorem pending_insert (same : v.meetingId = some i) :
    pendingRows (t.insert v) =
      Function.update (pendingRows t) i
        (pendingRows t i ++ if v.approvalStatus = .pending then [(t.next, v)] else []) := by
  funext j
  unfold pendingRows
  rw [select_insert]
  by_cases here : j = i
  · subst here
    simp [pendingOf, same]
  · rw [Function.update_of_ne here]
    have other : i ≠ j := fun eq => here eq.symm
    simp [pendingOf, same, other]

theorem pending_insert_closed (closed : v.approvalStatus ≠ .pending) :
    pendingRows (t.insert v) = pendingRows t := by
  funext j
  unfold pendingRows
  rw [select_insert]
  simp [pendingOf, closed]

end Requests

section Meetings
variable {t : Table Meeting} {i : Nat} {m : Meeting} {f : Meeting → Meeting}

theorem meeting_update (row : t.get? i = some m) :
    (t.update i f).get? = Function.update t.get? i (some (f m)) := by
  funext j
  rw [get?_update]
  by_cases here : j = i
  · subst here
    simp only [if_true, Function.update_self, row, Option.map_some]
  · rw [if_neg here, Function.update_of_ne here]

theorem meeting_insert : (t.insert m).get? = Function.update t.get? t.next (some m) := by
  funext j
  rw [get?_insert]
  by_cases here : j = t.next
  · subst here
    simp only [if_true, Function.update_self]
  · rw [if_neg here, Function.update_of_ne here]

end Meetings

theorem view_unchanged {V : Type} {view : Nat → V} {i : Nat} {v : V} (h : view i = v) :
    view = Function.update view i v := by
  rw [← h, Function.update_eq_self]

structure Dossier where
  meeting : Option Meeting
  live : List (Nat × RoomBooking)
  pending : List (Nat × MeetingRequest)

def Store.dossier (s : Store) (i : Nat) : Dossier :=
  ⟨s.meetings.get? i, liveRows s.bookings i, pendingRows s.requests i⟩

theorem dossier_update {s s' : Store} {i : Nat} {m : Option Meeting}
    {live : List (Nat × RoomBooking)} {pending : List (Nat × MeetingRequest)}
    (meetings : s'.meetings.get? = Function.update s.meetings.get? i m)
    (bookings : liveRows s'.bookings = Function.update (liveRows s.bookings) i live)
    (requests : pendingRows s'.requests = Function.update (pendingRows s.requests) i pending) :
    s'.dossier = Function.update s.dossier i ⟨m, live, pending⟩ := by
  funext j
  unfold Store.dossier
  rw [meetings, bookings, requests]
  by_cases here : j = i
  · subst here
    simp only [Function.update_self]
  · simp only [Function.update_of_ne here]

section Rows
variable {s : Store} {i k q : Nat} {m : Meeting} {b : RoomBooking} {r : MeetingRequest}
  {live : List (Nat × RoomBooking)} {pending : List (Nat × MeetingRequest)}

theorem dossier_meeting {d : Dossier} (h : s.dossier i = d) : s.meetings.get? i = d.meeting :=
  congrArg Dossier.meeting h

theorem dossier_live {d : Dossier} (h : s.dossier i = d) : liveRows s.bookings i = d.live :=
  congrArg Dossier.live h

theorem dossier_pending {d : Dossier} (h : s.dossier i = d) :
    pendingRows s.requests i = d.pending := congrArg Dossier.pending h

end Rows

end MeetingBooking
