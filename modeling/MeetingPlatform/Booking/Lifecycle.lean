import MeetingPlatform.Booking.Standing

/- Each handler moves one meeting along an edge of the automaton and leaves all
   others where they are. -/
namespace MeetingBooking
open KeyedTable

section Reviews
variable {cfg : Config} {now : Int} {requestId userId : Nat} {s s' : Store} {v : Review}

theorem opened_dossier {st : Standing} (opened : Opened s requestId userId v)
    (fits : (s.dossier v.meetingId).Fits st) :
    s.dossier v.meetingId =
        ⟨some v.meeting, [(v.bookingId, v.booking)], [(requestId, v.request)]⟩ ∧
      (st = .requested ∧ v.request.requestType.isUpdate = false ∧ v.booking.status = .pending ∨
        st = .changing true ∧ v.request.requestType.isUpdate = true ∧
          v.booking.status = .approved) := by
  obtain ⟨k, b, q, r, d, standing⟩ :=
    fits_awaiting fits (dossier_of_found opened.meeting_row) opened.awaiting
  obtain ⟨rfl, rfl⟩ := pending_here d opened.request_row opened.of_meeting opened.pending
  obtain ⟨rfl, rfl⟩ : k = v.bookingId ∧ b = v.booking :=
    Prod.mk.inj (Option.some.inj ((only_live_newest (dossier_live d)).symm.trans opened.newest))
  refine ⟨d, ?_⟩
  have expected := opened.expected
  rcases standing with first | ⟨held, rfl, type, status⟩
  · exact Or.inl first
  · unfold expectedBookingStatuses at expected
    cases held with
    | true => exact Or.inr ⟨rfl, type, status⟩
    | false => simp [type, status, heldAs] at expected

theorem aimed_slot {st : Standing} (opened : Opened s requestId userId v)
    (fits : (s.dossier v.meetingId).Fits st) {target : Slot} (aims : v.AimsAt target) :
    v.request.slot = some target ∧ target.lasts := by
  obtain ⟨d, -⟩ := opened_dossier opened fits
  obtain ⟨-, slot, asked, lasts⟩ := fits.aimed (requestId, v.request) (by simp [d])
  have asked : v.request.slot = some slot := asked
  obtain ⟨room, start, finish⟩ := request_slot asked
  have same : target = slot := by
    obtain ⟨roomId, startTime, endTime⟩ := target
    obtain ⟨hr, hs, he⟩ := aims
    rw [start, Option.getD_some] at hs
    rw [finish, Option.getD_some] at he
    obtain rfl : slot.roomId = roomId := by simpa [room] using hr
    simp only at hs he
    subst hs he
    rfl
  exact ⟨same ▸ asked, same ▸ lasts⟩

theorem approve_dossier {st : Standing} {plan : ApprovalPlan}
    (opened : Opened s requestId userId plan.review)
    (fits : (s.dossier plan.review.meetingId).Fits st) :
    (commitApproval plan s).dossier = Function.update s.dossier plan.review.meetingId
      ⟨some { plan.target.onMeeting plan.review.meeting with status := .scheduled },
        [(plan.review.bookingId, plan.booking)], []⟩ := by
  obtain ⟨d, standing⟩ := opened_dossier opened fits
  have live : plan.booking.status.isLive = true := by
    unfold ApprovalPlan.booking approvedStatus
    rcases standing with ⟨-, -, status⟩ | ⟨-, -, status⟩ <;> simp [status] <;> rfl
  have mine : plan.booking.meetingId = plan.review.meetingId := (booking_row d).2
  apply dossier_update
  · exact meeting_update (found_row opened.meeting_row)
  · refine (live_update (f := fun _ => plan.booking) (dossier_live d) mine).trans ?_
    simp [live]
  · obtain rfl := opened.named
    refine (pending_update
      (f := fun _ => { plan.review.request with approvalStatus := .approved })
      (dossier_pending d) opened.of_meeting).trans ?_
    simp

theorem approve_advances (h : approve cfg now requestId userId s = .ok s') :
    ∃ v, Opened s requestId userId v ∧ Advances s v.meetingId .approve s' := by
  obtain ⟨plan, read, rfl⟩ := approve_ok h
  obtain ⟨opened, aims, -, -⟩ := readApproval_ok read
  refine ⟨plan.review, opened, ?_⟩
  intro st fits
  refine ⟨.booked true, _, ?_, ⟨rfl, ?_, rfl, ?_, by simp⟩, approve_dossier opened fits⟩
  · obtain ⟨-, ⟨rfl, -, -⟩ | ⟨rfl, -, -⟩⟩ := opened_dossier opened fits <;> rfl
  · obtain ⟨-, ⟨-, -, status⟩ | ⟨-, -, status⟩⟩ := opened_dossier opened fits <;>
      simp [ApprovalPlan.booking, approvedStatus, status, Standing.bookingStatus, heldAs]
  · rintro m ⟨⟩
    have kept := (findMeeting_eq_some.mp opened.meeting_row).2
    refine ⟨kept, plan.target, rfl, (aimed_slot opened fits aims).2, ?_⟩
    simp [ApprovalPlan.booking, RoomBooking.slot, Slot.onBooking]

section TurnDown
variable {i k q : Nat} {m : Meeting} {b : RoomBooking} {r : MeetingRequest} {st : Standing}
  {closed : ApprovalStatus}

theorem turnDown_change_dossier {bookings : Table RoomBooking}
    (d : s.dossier i = ⟨some m, [(k, b)], [(q, r)]⟩) (type : r.requestType.isUpdate = true)
    (final : closed ≠ .pending) :
    (turnDown s q r i m closed bookings).dossier = Function.update s.dossier i
      ⟨some { m with status := .scheduled }, [(k, b)], []⟩ := by
  apply dossier_update
  · refine (meeting_update (dossier_meeting d)).trans ?_
    simp [type]
  · have same : (turnDown s q r i m closed bookings).bookings = s.bookings := by
      simp [turnDown, type]
    rw [same]
    exact view_unchanged (dossier_live d)
  · refine (pending_update (f := fun _ => { r with approvalStatus := closed })
      (dossier_pending d) (pending_row d).2.1).trans ?_
    simp [final]

theorem turnDown_create_dossier (d : s.dossier i = ⟨some m, [(k, b)], [(q, r)]⟩)
    (type : r.requestType.isUpdate = false) (final : closed ≠ .pending) :
    (turnDown s q r i m closed
        (s.bookings.save k { b with status := .cancelled })).dossier =
      Function.update s.dossier i ⟨some { m with status := .cancelled }, [], []⟩ := by
  apply dossier_update
  · refine (meeting_update (dossier_meeting d)).trans ?_
    simp [type]
  · have same : (turnDown s q r i m closed
        (s.bookings.save k { b with status := .cancelled })).bookings =
          s.bookings.save k { b with status := .cancelled } := by
      simp [turnDown, type]
    rw [same]
    refine (live_update (f := fun _ => { b with status := .cancelled })
      (dossier_live d) (booking_row d).2).trans ?_
    simp [RoomBookingStatus.isLive]
  · refine (pending_update (f := fun _ => { r with approvalStatus := closed })
      (dossier_pending d) (pending_row d).2.1).trans ?_
    simp [final]

theorem turnDown_change_fits {held : Bool} (d : s.dossier i = ⟨some m, [(k, b)], [(q, r)]⟩)
    (fits : (s.dossier i).Fits (.changing held)) :
    Dossier.Fits ⟨some { m with status := .scheduled }, [(k, b)], []⟩ (.booked held) := by
  rw [d] at fits
  refine ⟨rfl, fits.booking, rfl, ?_, by simp⟩
  rintro _ ⟨⟩
  exact fits.seated m rfl

theorem turnDown_create_fits (d : s.dossier i = ⟨some m, [(k, b)], [(q, r)]⟩)
    (fits : (s.dossier i).Fits .requested) :
    Dossier.Fits ⟨some { m with status := .cancelled }, [], []⟩ .calledOff := by
  rw [d] at fits
  refine ⟨rfl, rfl, rfl, ?_, by simp⟩
  rintro _ ⟨⟩
  obtain ⟨kept, slot, sits, lasts, -⟩ := fits.seated m rfl
  exact ⟨kept, slot, sits, lasts, by simp⟩

end TurnDown

theorem reject_advances (h : reject requestId userId s = .ok s') :
    ∃ v, Opened s requestId userId v ∧ Advances s v.meetingId .reject s' := by
  obtain ⟨v, opened, rfl⟩ := reject_ok.mp h
  refine ⟨v, opened, ?_⟩
  intro st fits
  obtain ⟨d, ⟨rfl, type, -⟩ | ⟨rfl, type, -⟩⟩ := opened_dossier opened fits
  · exact ⟨.calledOff, _, rfl, turnDown_create_fits d fits,
      turnDown_create_dossier d type (by decide)⟩
  · exact ⟨.booked true, _, rfl, turnDown_change_fits d fits,
      turnDown_change_dossier d type (by decide)⟩

theorem expireOne_advances (h : expireOne requestId s = some s') :
    ∃ r i, s.requests.get? requestId = some r ∧ r.meetingId = some i ∧
      Advances s i .expire s' := by
  obtain ⟨r, i, m, row, pending, mine, found, awaiting, rfl⟩ := expireOne_some h
  refine ⟨r, i, row, mine, ?_⟩
  intro st fits
  obtain ⟨k, b, q, r', d, standing⟩ := fits_awaiting fits (dossier_of_found found) awaiting
  obtain ⟨rfl, rfl⟩ := pending_here d row mine pending
  rcases standing with ⟨rfl, type, -⟩ | ⟨held, rfl, type, -⟩
  · refine ⟨.calledOff, _, rfl, turnDown_create_fits d fits, ?_⟩
    unfold cancelNewestBooking
    rw [only_live_newest (dossier_live d)]
    exact turnDown_create_dossier d type (by decide)
  · exact ⟨.booked held, _, rfl, turnDown_change_fits d fits,
      turnDown_change_dossier d type (by decide)⟩

end Reviews

section Edits
variable {cfg : Config} {dir : Directory} {now : Int} {i k q userId : Nat} {s s' : Store}
  {m : Meeting} {b : RoomBooking} {r : MeetingRequest} {slot : Slot}

theorem awaiting_fits {st : Standing} {target : Slot} (awaiting : m.status = .pendingApproval)
    (kept : m.deletedAt = none) (sits : m.slot = some slot) (lasts : slot.lasts)
    (same : b.slot = slot) (supported : r.requestType ∈ supportedRequestTypes)
    (aims : r.slot = some target) (targetLasts : target.lasts)
    (stands : st.meetingStatus = some .pendingApproval) (booked : st.bookingStatus = some b.status)
    (asked : st.asksForChange = some r.requestType.isUpdate) :
    Dossier.Fits ⟨some m, [(k, b)], [(q, r)]⟩ st := by
  refine ⟨by simp [stands, awaiting], by simp [booked], by simp [asked], ?_, ?_⟩
  · rintro _ ⟨⟩
    exact ⟨kept, slot, sits, lasts, by simpa using same⟩
  · simp only [List.mem_singleton, forall_eq]
    exact ⟨supported, target, aims, targetLasts⟩

theorem requestChange_advances {a : Action} {type : MeetingRequestType}
    (change : type.isUpdate = true) (edge : ∀ held, Standing.next (.booked held) a = some (.changing held))
    (found : s.findMeeting i = some m) (scheduled : m.status = .scheduled) (lasts : slot.lasts) :
    Advances s i a (requestChange i userId type slot s) := by
  intro st fits
  obtain ⟨k, b, held, d, rfl, status⟩ := fits_scheduled fits (dossier_of_found found) scheduled
  have supported : type ∈ supportedRequestTypes := by
    cases type <;> first | decide | cases change
  refine ⟨.changing held, ⟨some { m with status := .pendingApproval }, [(k, b)],
    [(s.requests.next, slot.request i userId type)]⟩, edge held, ?_, ?_⟩
  · rw [d] at fits
    obtain ⟨kept, place, sits, placeLasts, same⟩ := fits.seated m rfl
    exact awaiting_fits rfl kept sits placeLasts (same (k, b) (by simp)) supported rfl lasts rfl
      (by rw [status]; rfl) (congrArg some change.symm)
  · apply dossier_update
    · exact meeting_update (dossier_meeting d)
    · exact view_unchanged (dossier_live d)
    · refine (pending_insert (v := slot.request i userId type) rfl).trans ?_
      rw [dossier_pending d]
      simp [Slot.request]

theorem pending_moved {live : List (Nat × RoomBooking)}
    (d : s.dossier i = ⟨some m, live, [(q, r)]⟩) (slot : Slot) :
    pendingRows (s.requests.update q fun _ => slot.onRequest r) =
      Function.update (pendingRows s.requests) i [(q, slot.onRequest r)] := by
  obtain ⟨-, same, pending⟩ := pending_row d
  refine (pending_update (f := fun _ => slot.onRequest r) (dossier_pending d) same).trans ?_
  simp [Slot.onRequest, pending]

theorem editPendingTime_live (only : liveRows s.bookings i = [(k, b)])
    (h : editPendingTime cfg i slot (some (k, b)) s = .ok s') :
    s'.meetings = s.meetings.update i slot.onMeeting ∧
      liveRows s'.bookings = Function.update (liveRows s.bookings) i [(k, slot.onBooking b)] := by
  obtain ⟨row, mine, live⟩ := only_live_row only
  obtain ⟨-, -, -, rfl⟩ := editPendingTime_ok row h
  refine ⟨rfl, (live_update (f := fun _ => slot.onBooking b) only mine).trans ?_⟩
  simp [Slot.onBooking, live]

theorem editPendingTime_dossier (d : s.dossier i = ⟨some m, [(k, b)], [(q, r)]⟩)
    (h : editPendingTime cfg i slot (some (k, b)) s = .ok s') :
    s'.dossier = Function.update s.dossier i
      ⟨some (slot.onMeeting m), [(k, slot.onBooking b)], [(q, slot.onRequest r)]⟩ := by
  obtain ⟨meetings, live⟩ := editPendingTime_live (dossier_live d) h
  obtain ⟨_, _, request, rfl⟩ := editPendingTime_ok (booking_row d).1 h
  cases request.symm.trans (first_pending d)
  apply dossier_update
  · exact meeting_update (dossier_meeting d)
  · exact live
  · exact pending_moved d slot

theorem updateMeetingTime_advances {dto : UpdateMeetingTimeDto}
    (h : updateMeetingTime cfg dir now i dto userId s = .ok s') : Advances s i .moveTime s' := by
  obtain ⟨m, roomId, slot, found, room, target, lasts, free,
    ⟨awaiting, written⟩ | ⟨scheduled, rfl⟩⟩ := updateMeetingTime_ok h
  · intro st fits
    obtain ⟨k, b, q, r, d, standing⟩ := fits_awaiting fits (dossier_of_found found) awaiting
    rw [only_live_first (dossier_live d)] at written
    refine ⟨st, _, ?_, ?_, editPendingTime_dossier d written⟩
    · rcases standing with ⟨rfl, -, -⟩ | ⟨held, rfl, -, -⟩ <;> rfl
    · rw [d] at fits
      refine ⟨fits.status, fits.booking, fits.request, ?_, ?_⟩
      · rintro _ ⟨⟩
        exact ⟨(fits.seated m rfl).1, slot, rfl, lasts, by simp⟩
      · simp only [List.mem_singleton, forall_eq]
        exact ⟨(fits.aimed (q, r) (by simp)).1, slot, rfl, lasts⟩
  · exact requestChange_advances rfl (fun _ => rfl) found scheduled lasts

theorem editPendingRoom_live {roomId : Nat} (only : liveRows s.bookings i = [(k, b)])
    (inRoom : b.roomId = roomId) (h : editPendingRoom i roomId slot s = .ok s') :
    s'.meetings = s.meetings.update i (fun m => { m with roomId := some slot.roomId }) ∧
      liveRows s'.bookings = Function.update (liveRows s.bookings) i
        [(s.bookings.next, slot.booking i .pending)] := by
  obtain ⟨-, -, -, rfl⟩ := editPendingRoom_ok h
  obtain ⟨-, mine, live⟩ := only_live_row only
  have released : liveRows (s.bookings.updateWhere (unreleasedIn i roomId) release) =
      Function.update (liveRows s.bookings) i [] := by
    apply live_release
    · intro w _ hit
      simp only [unreleasedIn, decide_eq_true_eq] at hit
      exact hit.1
    · rw [only]
      simp only [List.mem_singleton, forall_eq, unreleasedIn, decide_eq_true_eq]
      refine ⟨mine, inRoom, ?_⟩
      intro gone
      simp [gone, RoomBookingStatus.isLive] at live
    · intro w
      rfl
  refine ⟨rfl, (live_insert (i := i) (v := slot.booking i .pending) rfl).trans ?_⟩
  rw [released, Function.update_idem, Function.update_self]
  rfl

theorem editPendingRoom_dossier {roomId : Nat} (d : s.dossier i = ⟨some m, [(k, b)], [(q, r)]⟩)
    (inRoom : b.roomId = roomId) (h : editPendingRoom i roomId slot s = .ok s') :
    s'.dossier = Function.update s.dossier i
      ⟨some { m with roomId := some slot.roomId }, [(s.bookings.next, slot.booking i .pending)],
        [(q, slot.onRequest r)]⟩ := by
  obtain ⟨meetings, live⟩ := editPendingRoom_live (dossier_live d) inRoom h
  obtain ⟨_, _, request, rfl⟩ := editPendingRoom_ok h
  cases request.symm.trans (first_pending d)
  apply dossier_update
  · exact meeting_update (dossier_meeting d)
  · exact live
  · exact pending_moved d slot

theorem updateMeetingRoom_advances {dto : UpdateMeetingRoomDto}
    (h : updateMeetingRoom cfg dir now i dto userId s = .ok s') : Advances s i .moveRoom s' := by
  obtain ⟨m, roomId, found, room, moved, branches⟩ := updateMeetingRoom_ok h
  intro st fits
  obtain ⟨kept, slot, sits, lasts, same⟩ := fits.seated m (dossier_of_found found)
  obtain ⟨inRoom, start, finish⟩ := meeting_slot sits
  have target : Slot.lasts ⟨dto.newRoomId, m.startTime, m.endTime⟩ := by
    simpa [Slot.lasts, start, finish] using lasts
  rcases branches with ⟨awaiting, written⟩ | ⟨scheduled, rfl⟩
  · obtain ⟨k, b, q, r, d, standing⟩ := fits_awaiting fits (dossier_of_found found) awaiting
    have here : b.roomId = roomId := by
      have := same (k, b) (by simp [d])
      rw [room] at inRoom
      exact (congrArg Slot.roomId this).trans (Option.some.inj inRoom).symm
    have written := editPendingRoom_dossier d here written
    rw [d] at fits
    have aimed := (fits.aimed (q, r) (by simp)).1
    rcases standing with ⟨rfl, type, -⟩ | ⟨held, rfl, type, -⟩
    · refine ⟨.requested, _, rfl, ?_, written⟩
      exact awaiting_fits awaiting kept rfl target rfl aimed rfl target rfl rfl
        (congrArg some type.symm)
    · refine ⟨.changing false, _, rfl, ?_, written⟩
      exact awaiting_fits awaiting kept rfl target rfl aimed rfl target rfl rfl
        (congrArg some type.symm)
  · exact requestChange_advances rfl (fun _ => rfl) found scheduled target st fits

end Edits

section Live
variable {cfg : Config} {dir : Directory} {now : Int} {i k userId : Nat} {s s' : Store}
  {m : Meeting} {b : RoomBooking} {pending : List (Nat × MeetingRequest)}

theorem first_among (among : RoomBookingStatus → Bool)
    (narrow : ∀ st, among st = true → st.isLive = true)
    (d : s.dossier i = ⟨some m, [(k, b)], pending⟩) :
    s.bookings.findOne (ofMeeting i among) = if among b.status then some (k, b) else none := by
  unfold Table.findOne
  rw [select_among narrow, dossier_live d]
  cases chosen : among b.status <;> simp [chosen]

theorem commitCancel_advances (found : s.findMeeting i = some m) (scheduled : m.status = .scheduled)
    (h : commitCancel i s = .ok s') : Advances s i .cancel s' := by
  obtain ⟨-, -, -, rfl⟩ := commitCancel_ok.mp h
  intro st fits
  obtain ⟨k, b, held, d, rfl, status⟩ := fits_scheduled fits (dossier_of_found found) scheduled
  have first : s.bookings.findOne (cancellable i) = some (k, b) := by
    refine (first_among _ ?_ d).trans ?_
    · intro st chosen
      cases st <;> simp_all [RoomBookingStatus.isLive]
    · cases held <;> simp [status, heldAs]
  refine ⟨.calledOff, ⟨some { m with status := .cancelled }, [], []⟩, rfl, ?_, ?_⟩
  · rw [d] at fits
    obtain ⟨kept, slot, sits, lasts, -⟩ := fits.seated m rfl
    refine ⟨rfl, rfl, rfl, ?_, by simp⟩
    rintro _ ⟨⟩
    exact ⟨kept, slot, sits, lasts, by simp⟩
  · apply dossier_update
    · exact meeting_update (dossier_meeting d)
    · unfold cancelFirstBooking
      rw [first]
      refine (live_update (f := fun b => { b with status := .cancelled }) (dossier_live d)
        (booking_row d).2).trans ?_
      simp [RoomBookingStatus.isLive]
    · exact view_unchanged (dossier_pending d)

theorem cancelMeeting_advances (h : cancelMeeting dir now i userId s = .ok s') :
    Advances s i .cancel s' := by
  obtain ⟨⟨m, found, scheduled⟩, written⟩ := cancelMeeting_ok h
  exact commitCancel_advances found scheduled written

theorem activated_fits {held : Bool} {f : Meeting → Meeting} (among : Nat → Bool)
    (mine : b.meetingId = i) (chosen : among i = true) (st : Standing)
    (stands : st = .booked held ∨ st = .running held)
    (fits : Dossier.Fits ⟨some m, [(k, b)], []⟩ st)
    (keeps : (f m).status = .inProgress ∧ (f m).slot = m.slot ∧ (f m).deletedAt = m.deletedAt) :
    Dossier.Fits ⟨some (f m), [touch (approvedOf among) activate (k, b)], []⟩ (.running held) := by
  obtain ⟨-, booking, -, seated, -⟩ := fits
  obtain ⟨kept, slot, sits, lasts, same⟩ := seated m rfl
  have same : b.slot = slot := same (k, b) (by simp)
  refine ⟨by simp [keeps.1, Standing.meetingStatus], ?_, rfl, ?_, by simp⟩
  · rcases stands with rfl | rfl <;> cases held <;>
      simp_all [Standing.bookingStatus, heldAs, touch, approvedOf, activate]
  · rintro _ ⟨⟩
    refine ⟨keeps.2.2.trans kept, slot, keeps.2.1.trans sits, lasts, ?_⟩
    simp only [List.mem_singleton, forall_eq, touch]
    split <;> exact same

theorem executeStart_advances (h : executeStartMeetingInTransaction now i s = .ok s') :
    Advances s i .start s' := by
  obtain ⟨m, found, -, status, rfl⟩ := executeStart_ok h
  intro st fits
  have booked : ∃ k b held, s.dossier i = ⟨some m, [(k, b)], []⟩ ∧
      (st = .booked held ∨ st = .running held) := by
    rcases status with scheduled | running
    · obtain ⟨k, b, held, d, rfl, -⟩ := fits_scheduled fits (dossier_of_found found) scheduled
      exact ⟨k, b, held, d, Or.inl rfl⟩
    · obtain ⟨k, b, held, d, rfl, -⟩ := fits_running fits (dossier_of_found found) running
      exact ⟨k, b, held, d, Or.inr rfl⟩
  obtain ⟨k, b, held, d, stands⟩ := booked
  refine ⟨.running held, ⟨some (started now m), [touch (approvedOf (· = i)) activate (k, b)], []⟩,
    ?_, ?_, ?_⟩
  · rcases stands with rfl | rfl <;> rfl
  · exact activated_fits (· = i) (booking_row d).2 (by simp) st stands (d ▸ fits) ⟨rfl, rfl, rfl⟩
  · apply dossier_update
    · exact meeting_update (dossier_meeting d)
    · funext j
      rw [live_activate]
      by_cases here : j = i
      · subst here
        rw [Function.update_self, dossier_live d]
        rfl
      · rw [Function.update_of_ne here]
        refine (List.map_congr_left fun r hr => ?_).trans (List.map_id _)
        apply touch_of_false
        have other : r.2.meetingId ≠ i := fun eq => here ((mem_liveRows.mp hr).2.1.symm.trans eq)
        simp [approvedOf, other]
    · exact view_unchanged (dossier_pending d)

theorem startMeeting_advances (h : startMeeting now i userId s = .ok s') :
    s' = s ∨ Advances s i .start s' := by
  rcases startMeeting_ok h with rfl | written
  · exact Or.inl rfl
  · exact Or.inr (executeStart_advances written)

theorem autoStart_cases (now : Int) (j : Nat) :
    (∃ m, (s.dossier j).meeting = some m ∧ isDue now m = true ∧
        (autoStartDueMeetings now s).dossier j = ⟨some (autoStart m),
          (s.dossier j).live.map (touch (approvedOf fun i => (s.meetings.get? i).any (isDue now))
            activate), (s.dossier j).pending⟩) ∨
      (autoStartDueMeetings now s).dossier j = s.dossier j := by
  unfold Store.dossier autoStartDueMeetings
  simp only [get?_updateWhere, live_activate]
  cases row : s.meetings.get? j with
  | none =>
    right
    refine congrArg (Dossier.mk none · _) ?_
    refine (List.map_congr_left fun r hr => ?_).trans (List.map_id _)
    apply touch_of_false
    simp [approvedOf, (mem_liveRows.mp hr).2.1, row]
  | some m =>
    cases due : isDue now m with
    | true => exact Or.inl ⟨m, rfl, due, by simp [due]⟩
    | false =>
      right
      simp only [due, Option.map_some]
      refine congrArg (Dossier.mk (some m) · _) ?_
      refine (List.map_congr_left fun r hr => ?_).trans (List.map_id _)
      apply touch_of_false
      simp [approvedOf, (mem_liveRows.mp hr).2.1, row, due]

theorem autoStart_fits (now : Int) {j : Nat} {st : Standing} (fits : (s.dossier j).Fits st) :
    (∃ held, st = .booked held ∧ ((autoStartDueMeetings now s).dossier j).Fits (.running held)) ∨
      (autoStartDueMeetings now s).dossier j = s.dossier j := by
  rcases autoStart_cases now j with ⟨m, row, due, after⟩ | same
  · left
    have scheduled : m.status = .scheduled := by
      simp only [isDue, decide_eq_true_eq] at due
      exact due.1
    obtain ⟨k, b, held, d, rfl, -⟩ := fits_scheduled fits row scheduled
    refine ⟨held, rfl, ?_⟩
    rw [after, d]
    have chosen : (s.meetings.get? j).any (isDue now) = true := by
      rw [dossier_meeting d]
      exact due
    exact activated_fits (f := autoStart) (fun i => (s.meetings.get? i).any (isDue now)) (booking_row d).2 chosen
      (.booked held) (Or.inl rfl) (d ▸ fits) ⟨rfl, rfl, rfl⟩
  · exact Or.inr same

theorem executeEnd_advances (h : executeEndMeetingInTransaction now i s = .ok s') :
    Advances s i .finish s' := by
  obtain ⟨m, found, running, rfl⟩ := executeEnd_ok h
  intro st fits
  obtain ⟨k, b, held, d, rfl, status⟩ := fits_running fits (dossier_of_found found) running
  have first := first_among RoomBookingStatus.holdsRoom (fun _ => live_of_holds) d
  rw [status] at first
  have fits' := d ▸ fits
  obtain ⟨kept, slot, sits, lasts, same⟩ := fits'.seated m rfl
  cases held with
  | true =>
    refine ⟨.finished true, ⟨some (ended now m), [], []⟩, rfl, ⟨rfl, rfl, rfl, ?_, by simp⟩, ?_⟩
    · rintro _ ⟨⟩
      exact ⟨kept, slot, sits, lasts, by simp⟩
    · apply dossier_update
      · exact meeting_update (dossier_meeting d)
      · unfold completeFirstBooking
        rw [show s.bookings.findOne _ = some (k, b) from first]
        refine (live_update (f := fun b => { b with status := .completed }) (dossier_live d)
          (booking_row d).2).trans ?_
        simp [RoomBookingStatus.isLive]
      · exact view_unchanged (dossier_pending d)
  | false =>
    refine ⟨.finished false, ⟨some (ended now m), [(k, b)], []⟩, rfl,
      ⟨rfl, fits'.booking, rfl, ?_, by simp⟩, ?_⟩
    · rintro _ ⟨⟩
      exact ⟨kept, slot, sits, lasts, same⟩
    · apply dossier_update
      · exact meeting_update (dossier_meeting d)
      · unfold completeFirstBooking
        rw [show s.bookings.findOne _ = none from first]
        exact view_unchanged (dossier_live d)
      · exact view_unchanged (dossier_pending d)

theorem endMeeting_advances (h : endMeeting now i userId s = .ok s') :
    Advances s i .finish s' := executeEnd_advances (endMeeting_ok h)

end Live

section Extension
variable {cfg : Config} {i k userId : Nat} {dto : ExtensionRequestDto} {s s' : Store}
  {m : Meeting} {b : RoomBooking}

theorem extension_gains (basis : ExtensionBasis) (dto : ExtensionRequestDto) :
    basis.oldEndTime < basis.requestedNewEndTime dto := by
  have := dto.atLeastOne
  unfold ExtensionBasis.requestedNewEndTime minuteMs
  omega

theorem rejected_dossier {basis : ExtensionBasis} :
    (handleRejectedPath basis i userId dto s).dossier = s.dossier := by
  funext j
  unfold Store.dossier handleRejectedPath
  rw [pending_insert_closed]
  rintro ⟨⟩

theorem active_only {st : Standing} {basis : ExtensionBasis}
    (read : readExtensionMeeting i userId s = .ok basis) (active : readActiveBooking i s = .ok k)
    (fits : (s.dossier i).Fits st) :
    ∃ m b, s.dossier i = ⟨some m, [(k, b)], []⟩ ∧ st = .running true ∧ b.status = .active ∧
      m.slot = some b.slot ∧ b.roomId = basis.roomId ∧ b.reservedEndTime = basis.oldEndTime := by
  obtain ⟨m, found, running, room, finish⟩ := readExtensionMeeting_ok read
  obtain ⟨b', first⟩ := readActiveBooking_ok active
  obtain ⟨k', b, held, d, rfl, status⟩ := fits_running fits (dossier_of_found found) running
  have only := first_among (· = .active) (by
    intro st chosen
    simp only [decide_eq_true_eq] at chosen
    rw [chosen]
    rfl) d
  rw [first, status] at only
  cases held with
  | false => simp [heldAs] at only
  | true =>
    obtain ⟨rfl, rfl⟩ : k = k' ∧ b' = b := by simpa [heldAs] using only
    obtain ⟨-, slot, sits, -, same⟩ := fits.seated m (by rw [d])
    have here : b'.slot = slot := same (k, b') (by simp [d])
    obtain ⟨inRoom, -, ends⟩ := meeting_slot sits
    refine ⟨m, b', d, rfl, status, here ▸ sits, ?_, ?_⟩
    · exact (congrArg Slot.roomId here).trans (Option.some.inj (inRoom.symm.trans room))
    · exact (congrArg Slot.endTime here).trans (ends.symm.trans finish)

theorem applied_dossier {basis : ExtensionBasis}
    (d : s.dossier i = ⟨some m, [(k, b)], []⟩) (live : b.status.isLive = true)
    (h : handleAutoApplyPath basis i k userId dto s = .ok s') :
    s'.dossier = Function.update s.dossier i
      ⟨some (extended (basis.requestedNewEndTime dto) m),
        [(k, bookedUntil (basis.requestedNewEndTime dto) b)], []⟩ := by
  obtain ⟨-, -, -, rfl⟩ := handleAutoApplyPath_ok.mp h
  apply dossier_update
  · exact meeting_update (dossier_meeting d)
  · refine (live_update (f := bookedUntil (basis.requestedNewEndTime dto)) (dossier_live d)
      (booking_row d).2).trans ?_
    simp [bookedUntil, live]
  · refine (pending_insert_closed ?_).trans (view_unchanged (dossier_pending d))
    rintro ⟨⟩

theorem requestExtension_advances (h : requestExtension cfg i dto userId s = .ok s') :
    Advances s i .extend s' := by
  obtain ⟨basis, k, read, active, branches⟩ := requestExtension_ok h
  intro st fits
  obtain ⟨m, b, d, rfl, status, sits, room, finish⟩ := active_only read active fits
  rcases branches with ⟨-, written⟩ | ⟨-, rfl⟩
  · have live : b.status.isLive = true := by
      rw [status]
      rfl
    refine ⟨.running true, _, rfl, ?_, applied_dossier d live written⟩
    obtain ⟨state, booking, -, seated, -⟩ := d ▸ fits
    obtain ⟨kept, slot, sits', lasts, -⟩ := seated m rfl
    refine ⟨state, booking, rfl, ?_, by simp⟩
    rintro _ ⟨⟩
    obtain rfl : b.slot = slot := Option.some.inj (sits.symm.trans sits')
    refine ⟨kept, ⟨b.roomId, b.reservedStartTime, basis.requestedNewEndTime dto⟩, ?_, ?_, ?_⟩
    · obtain ⟨inRoom, start, -⟩ := meeting_slot sits
      simp [extended, Meeting.slot, inRoom, start, RoomBooking.slot]
    · have gains := extension_gains basis dto
      unfold Slot.lasts RoomBooking.slot at lasts
      unfold Slot.lasts
      simp only at lasts ⊢
      omega
    · simp [bookedUntil, RoomBooking.slot]
  · refine ⟨.running true, s.dossier i, rfl, fits, ?_⟩
    rw [rejected_dossier, Function.update_eq_self]

end Extension

section Create
variable {cfg : Config} {dir : Directory} {now : Int} {dto : CreateMeetingDto} {userId : Nat}
  {s s' : Store}

theorem next_absent : (s.dossier s.meetings.next).meeting = none := by
  apply get?_eq_none.mpr
  intro m row
  exact Nat.lt_irrefl _ (row_below s.meetings row)

theorem fits_absent {d : Dossier} {st : Standing} (fits : d.Fits st) (row : d.meeting = none) :
    st = .absent ∧ d = ⟨none, [], []⟩ := by
  obtain ⟨meeting, live, pending⟩ := d
  obtain ⟨status, booking, request, -, -⟩ := fits
  simp only at row status booking request
  subst row
  cases st with
  | absent =>
    obtain rfl := List.map_eq_nil_iff.mp booking
    obtain rfl := List.map_eq_nil_iff.mp request
    exact ⟨rfl, rfl⟩
  | _ => simp [Standing.meetingStatus] at status

theorem create_dossier {plan : CreatePlan} (d : s.dossier s.meetings.next = ⟨none, [], []⟩) :
    (commitCreate plan s).dossier = Function.update s.dossier s.meetings.next
      ⟨some plan.meeting, [(s.bookings.next, plan.booking s.meetings.next)],
        if plan.isAutoApprovable then []
        else [(s.requests.next, plan.request s.meetings.next)]⟩ := by
  have live : (plan.booking s.meetings.next).status.isLive = true := by
    unfold CreatePlan.booking
    cases plan.isAutoApprovable <;> rfl
  apply dossier_update
  · exact meeting_insert
  · refine (live_insert (i := s.meetings.next) (v := plan.booking s.meetings.next) rfl).trans ?_
    rw [dossier_live d, live]
    rfl
  · refine (pending_insert (i := s.meetings.next) (v := plan.request s.meetings.next) rfl).trans ?_
    rw [dossier_pending d]
    cases auto : plan.isAutoApprovable <;> simp [CreatePlan.request, auto]

theorem create_advances (h : create cfg dir now dto userId s = .ok s') :
    Advances s s.meetings.next (.create (dir.approverIds.contains userId)) s' := by
  obtain ⟨plan, checked, rfl⟩ := create_ok h
  obtain ⟨rfl, auto, lasts, -⟩ := checkCreate_ok checked
  intro st fits
  obtain ⟨rfl, d⟩ := fits_absent fits next_absent
  have seat : ∀ m, some plan.meeting = some m → m.deletedAt = none ∧
      ∃ slot : Slot, m.slot = some slot ∧ slot.lasts ∧
        ∀ b ∈ [(s.bookings.next, plan.booking s.meetings.next)], b.2.slot = slot := by
    rintro _ ⟨⟩
    exact ⟨rfl, ⟨plan.dto.roomId, plan.dto.startTime, plan.dto.endTime⟩, rfl, lasts,
      by simp [CreatePlan.booking, RoomBooking.slot]⟩
  refine ⟨if plan.isAutoApprovable then .booked true else .requested, _, by rw [← auto]; rfl, ?_,
    create_dossier d⟩
  cases given : plan.isAutoApprovable with
  | true =>
    exact ⟨by simp [CreatePlan.meeting, given]; rfl, by simp [CreatePlan.booking, given]; rfl, rfl,
      seat, by simp⟩
  | false =>
    refine ⟨by simp [CreatePlan.meeting, given]; rfl, by simp [CreatePlan.booking, given]; rfl, rfl,
      seat, ?_⟩
    simp only [Bool.false_eq_true, if_false, List.mem_singleton, forall_eq]
    exact ⟨(by decide : MeetingRequestType.createMeeting ∈ supportedRequestTypes), _, rfl, lasts⟩

end Create

end MeetingBooking
