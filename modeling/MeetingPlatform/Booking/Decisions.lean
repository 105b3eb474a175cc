import MeetingPlatform.Booking.Operations

/- Whether a reviewer can still decide a pending request. -/
namespace MeetingBooking
open KeyedTable LabelledRuns Guards HalfOpen

def InTheWay (cfg : Config) (s : Store) (i : Nat) (target : Slot) (k : Nat) : Prop :=
  ∃ b, (k, b) ∈ s.bookings.rows ∧ b.roomId = target.roomId ∧ b.status.holdsRoom = true ∧
    b.meetingId ≠ i ∧ Clashes cfg.bufferMs target.startTime target.endTime
      b.reservedStartTime b.reservedEndTime

def FairRefusal (cfg : Config) (s : Store) (now : Int) (q i : Nat) (r : MeetingRequest)
    (e : ApiError) : Prop :=
  ∃ target, r.slot = some target ∧
    (e = requestExpired q target.startTime ∧ target.startTime ≤ now ∨
      ∃ ids, e = approveRoomConflict ids ∧ ids ≠ [] ∧ ∀ k ∈ ids, InTheWay cfg s i target k)

/-- The pending requests that somebody has to be able to decide. -/
structure Undecided (s : Store) (q i : Nat) (r : MeetingRequest) (m : Meeting) : Prop where
  row : s.requests.get? q = some r
  pending : r.approvalStatus = .pending
  supported : r.requestType ∈ supportedRequestTypes
  mine : r.meetingId = some i
  found : s.findMeeting i = some m
  awaiting : m.status = .pendingApproval

def CanBeDecided (cfg : Config) (s : Store) (q i : Nat) (r : MeetingRequest) (m : Meeting) :
    Prop :=
  ∀ userId, userId ≠ r.requestedBy → userId ≠ m.organizerId →
    (∃ s', reject q userId s = .ok s') ∧
      ∀ now e, approve cfg now q userId s = .error e → FairRefusal cfg s now q i r e

def AllCanBeDecided (cfg : Config) (s : Store) : Prop :=
  ∀ q i r m, Undecided s q i r m → CanBeDecided cfg s q i r m

/-- A room edit of a meeting whose earlier change still waits for its decision. -/
def MovesRoomAgain (s : Store) : Op → Prop
  | .updateMeetingRoom _ _ i _ _ => ∃ q r m, Undecided s q i r m ∧ r.requestType.isUpdate = true
  | _ => False

section Deciding
variable {cfg : Config} {s : Store} {q i k userId : Nat} {r : MeetingRequest} {m : Meeting}
  {b : RoomBooking} {st : Standing}

theorem undecided_dossier (undecided : Undecided s q i r m) (fits : (s.dossier i).Fits st) :
    ∃ k b, s.dossier i = ⟨some m, [(k, b)], [(q, r)]⟩ ∧
      (st = .requested ∧ r.requestType.isUpdate = false ∧ b.status = .pending ∨
        ∃ held, st = .changing held ∧ r.requestType.isUpdate = true ∧
          b.status = heldAs held .approved) := by
  obtain ⟨k, b, q', r', d, standing⟩ :=
    fits_awaiting fits (dossier_of_found undecided.found) undecided.awaiting
  obtain ⟨rfl, rfl⟩ := pending_here d undecided.row undecided.mine undecided.pending
  exact ⟨k, b, d, standing⟩

theorem changing_undecided {held : Bool} (fits : (s.dossier i).Fits (.changing held)) :
    ∃ q r m, Undecided s q i r m ∧ r.requestType.isUpdate = true := by
  obtain ⟨m, row, awaiting⟩ := Option.map_eq_some_iff.mp fits.status
  obtain ⟨k, b, q, r, d, ⟨impossible, -, -⟩ | ⟨-, -, type, -⟩⟩ := fits_awaiting fits row awaiting
  · cases impossible
  · obtain ⟨request, mine, pending⟩ := pending_row d
    have kept := (fits.seated m row).1
    have supported := (fits.aimed (q, r) (by simp [d])).1
    exact ⟨q, r, m, ⟨request, pending, supported, mine,
      findMeeting_eq_some.mpr ⟨get?_eq_some.mp row, kept⟩, awaiting⟩, type⟩

theorem review_opens (undecided : Undecided s q i r m)
    (d : s.dossier i = ⟨some m, [(k, b)], [(q, r)]⟩)
    (expected : b.status ∈ expectedBookingStatuses r.requestType)
    (requester : userId ≠ r.requestedBy) (organizer : userId ≠ m.organizerId) :
    Opened s q userId ⟨q, r, i, m, k, b⟩ where
  named := rfl
  request_row := undecided.row
  supported := undecided.supported
  pending := undecided.pending
  of_meeting := undecided.mine
  meeting_row := undecided.found
  awaiting := undecided.awaiting
  newest := only_live_newest (dossier_live d)
  expected := expected
  third_party := ⟨requester.symm, organizer.symm⟩

theorem other_in_the_way {target : Slot} (d : s.dossier i = ⟨some m, [(k, b)], [(q, r)]⟩)
    {c : Nat × RoomBooking} (conflict : c ∈ s.roomConflicts cfg.bufferMs target.roomId (some k)
      target.startTime target.endTime) : InTheWay cfg s i target c.1 := by
  obtain ⟨row, room, holds, other, clash⟩ := mem_roomConflicts.mp conflict
  refine ⟨c.2, row, room, holds, fun mine => ?_, clash⟩
  have live : c ∈ liveRows s.bookings i := mem_liveRows.mpr ⟨row, mine, live_of_holds holds⟩
  rw [dossier_live d, List.mem_singleton] at live
  subst live
  exact other rfl

theorem refusal_is_fair {now : Int} {e : ApiError} (fits : (s.dossier i).Fits st)
    (d : s.dossier i = ⟨some m, [(k, b)], [(q, r)]⟩)
    (opened : Opened s q userId ⟨q, r, i, m, k, b⟩)
    (h : approve cfg now q userId s = .error e) : FairRefusal cfg s now q i r e := by
  obtain ⟨-, target, aims, -⟩ := fits.aimed (q, r) (by simp [d])
  obtain ⟨room, start, finish⟩ := request_slot aims
  have room : r.targetRoomId = some target.roomId := room
  have start : r.requestedStartTime = some target.startTime := start
  have finish : r.requestedEndTime = some target.endTime := finish
  have reads : openReview q userId true bookingNotApprovable s = .ok ⟨q, r, i, m, k, b⟩ := by
    refine openReview_ok.mpr ⟨opened, Or.inr (Or.inr ?_)⟩
    simp [room]
  refine ⟨target, aims, ?_⟩
  simp only [approve, readApproval, reads, bind_eq_error, bind_eq_ok, expect_eq_error, expect_eq_ok,
    require_eq_error, pure_ne_error, reduceCtorEq, false_or, and_false, exists_false, or_false,
    Except.ok.injEq, exists_eq_left', room, start, finish, Option.getD_some,
    Option.orElse_eq_orElse, Option.orElse_some, Option.some.injEq, false_and] at h
  rcases h with ⟨past, rfl⟩ | ⟨-, -, conflict, rfl⟩
  · exact Or.inl ⟨rfl, not_lt.mp past⟩
  · refine Or.inr ⟨_, rfl, by simpa using conflict, ?_⟩
    intro c hc
    obtain ⟨row, found, rfl⟩ := List.mem_map.mp hc
    exact other_in_the_way d found

theorem can_be_decided_iff (undecided : Undecided s q i r m) (fits : (s.dossier i).Fits st) :
    CanBeDecided cfg s q i r m ↔ st ≠ .changing false := by
  obtain ⟨k, b, d, standing⟩ := undecided_dossier undecided fits
  constructor
  · rintro decided rfl
    obtain ⟨⟨s', rejected⟩, -⟩ :=
      decided (r.requestedBy + m.organizerId + 1) (by omega) (by omega)
    obtain ⟨v, opened, -⟩ := reject_ok.mp rejected
    obtain rfl : r = v.request := Option.some.inj (undecided.row.symm.trans opened.request_row)
    obtain rfl : i = v.meetingId :=
      Option.some.inj (undecided.mine.symm.trans opened.of_meeting)
    obtain ⟨-, ⟨other, -⟩ | ⟨other, -⟩⟩ := opened_dossier opened fits <;> cases other
  · intro kept userId requester organizer
    have expected : b.status ∈ expectedBookingStatuses r.requestType := by
      unfold expectedBookingStatuses
      rcases standing with ⟨-, type, status⟩ | ⟨held, rfl, type, status⟩
      · simp [type, status]
      · cases held with
        | true => simp [type, status, heldAs]
        | false => exact absurd rfl kept
    have opened := review_opens undecided d expected requester organizer
    exact ⟨⟨_, reject_ok.mpr ⟨_, opened, rfl⟩⟩, fun now e => refusal_is_fair fits d opened⟩

theorem all_can_be_decided_iff (sound : Consistent s) :
    AllCanBeDecided cfg s ↔ ∀ i, ¬ (s.dossier i).Fits (.changing false) := by
  constructor
  · intro decided i fits
    obtain ⟨q, r, m, undecided, -⟩ := changing_undecided fits
    exact (can_be_decided_iff undecided fits).mp (decided q i r m undecided) rfl
  · intro held q i r m undecided
    obtain ⟨st, fits⟩ := sound i
    refine (can_be_decided_iff undecided fits).mpr ?_
    rintro rfl
    exact held i fits

end Deciding

def NoneLost (s : Store) : Prop :=
  ∀ i, ¬ (s.dossier i).Fits (.changing false) ∧ ¬ (s.dossier i).Fits (.booked false)

theorem step_decides_iff {cfg : Config} {s s' : Store} {op : Op}
    (sound : Consistent s ∧ NoneLost s) (step : Step cfg s op s') :
    AllCanBeDecided cfg s' ↔ ¬ MovesRoomAgain s op := by
  rw [all_can_be_decided_iff (step_consistent sound.1 step)]
  constructor
  · intro held again
    cases op with
    | updateMeetingRoom dir now i dto userId =>
      obtain ⟨q, r, m, undecided, type⟩ := again
      obtain ⟨st, fits⟩ := sound.1 i
      obtain ⟨-, -, -, ⟨-, other, -⟩ | ⟨was, rfl, -, -⟩⟩ := undecided_dossier undecided fits
      · simp [type] at other
      · obtain ⟨st', d', edge, fits', after⟩ :=
          updateMeetingRoom_advances (toOption_eq_some.mp step) _ fits
        have : st' = .changing false := by
          cases was <;> exact (Option.some.inj edge).symm
        subst this
        apply held i
        rw [after, Function.update_self]
        exact fits'
    | _ => exact again
  · intro kept j lost
    obtain ⟨st, fits⟩ := sound.1 j
    obtain ⟨st', fits', same | ⟨a, does, edge⟩⟩ := step_simulates sound.1 step fits
    · obtain rfl := fits_unique fits' lost
      exact (sound.2 j).1 (same ▸ fits)
    · obtain rfl := fits_unique fits' lost
      rcases unheld_change edge with rfl | rfl | ⟨rfl, rfl⟩
      · exact (sound.2 j).2 fits
      · exact (sound.2 j).1 fits
      · cases does with
        | updateMeetingRoom =>
          obtain ⟨q, r, m, undecided, type⟩ := changing_undecided fits
          exact kept ⟨q, r, m, undecided, type⟩

theorem none_lost_kept {cfg : Config} {s s' : Store} {op : Op}
    (sound : Consistent s ∧ NoneLost s) (step : Step cfg s op s')
    (kept : ¬ MovesRoomAgain s op) : Consistent s' ∧ NoneLost s' := by
  have sound' := step_consistent sound.1 step
  refine ⟨sound', fun j => ⟨?_, fun lost => ?_⟩⟩
  · exact (all_can_be_decided_iff sound').mp ((step_decides_iff sound step).mpr kept) j
  · obtain ⟨st, fits⟩ := sound.1 j
    obtain ⟨st', fits', same | ⟨a, -, edge⟩⟩ := step_simulates sound.1 step fits
    · obtain rfl := fits_unique fits' lost
      exact (sound.2 j).2 (same ▸ fits)
    · obtain rfl := fits_unique fits' lost
      obtain ⟨rfl, -⟩ := expiry_of_unheld edge
      exact (sound.2 j).1 fits

theorem empty_none_lost : NoneLost Store.empty := by
  intro i
  constructor <;> intro fits <;> cases fits.status

/-- Over a whole run, every pending request can be decided exactly when no step edits
    the room of a meeting whose earlier change is still pending. -/
theorem pending_requests_decidable_iff {cfg : Config} {moves : List (Move Store Op)} {t : Store}
    (run : Run (Step cfg) Store.empty moves t) :
    (∀ s ∈ visited Store.empty moves, AllCanBeDecided cfg s) ↔
      Heeds (fun s op => ¬ MovesRoomAgain s op) moves := by
  have first : AllCanBeDecided cfg Store.empty :=
    (all_can_be_decided_iff empty_consistent).mpr fun i => (empty_none_lost i).1
  rw [forall_visited, and_iff_right first]
  exact run_good_iff (fun s => Consistent s ∧ NoneLost s) (fun _ _ s' => AllCanBeDecided cfg s')
    run ⟨empty_consistent, empty_none_lost⟩ none_lost_kept step_decides_iff

theorem decisions_in_approved_change : ∃ moves t,
    Run (Step (Config.load none none)) Store.empty moves t ∧
      moves.map Move.label = approvedChange ∧
      ((∀ s ∈ visited Store.empty moves, AllCanBeDecided (Config.load none none) s) ↔
        Heeds (fun s op => ¬ MovesRoomAgain s op) moves) := by
  obtain ⟨moves, t, run, labels⟩ := approved_change_runs
  exact ⟨moves, t, run, labels, pending_requests_decidable_iff run⟩

def roomMovedAgain : List Op :=
  approvedAtOnce ++ [.updateMeetingRoom openDirectory 0 0 { newRoomId := 2 } 7,
    .updateMeetingRoom openDirectory 0 0 { newRoomId := 3 } 7]

theorem second_room_edit_blocks_decision : ∃ moves t,
    Run (Step (Config.load none none)) Store.empty moves t ∧
      moves.map Move.label = roomMovedAgain ∧ ¬ AllCanBeDecided (Config.load none none) t := by
  have blocked : ∃ t r m, execAll (Config.load none none) roomMovedAgain Store.empty = some t ∧
      Undecided t 1 0 r m ∧ r.requestedBy = 7 ∧ m.organizerId = 7 ∧
      reject 1 8 t = .error (bookingNotRejectable .pending) := by
    refine ⟨_, _, _, rfl, ⟨rfl, rfl, ?_, rfl, rfl, rfl⟩, rfl, rfl, rfl⟩
    decide
  obtain ⟨t, r, m, ran, undecided, requester, organizer, refused⟩ := blocked
  obtain ⟨moves, run, labels⟩ := run_of_execAll ran
  refine ⟨moves, t, run, labels, ?_⟩
  intro decided
  obtain ⟨⟨s', rejected⟩, -⟩ := decided 1 0 r m undecided 8 (by omega) (by omega)
  rw [refused] at rejected
  cases rejected

end MeetingBooking
