import MeetingPlatform.Booking.RoomUsages

/- Which usage rows the end of a meeting closes. -/
namespace RoomUsages
open MeetingBooking Guards KeyedTable LabelledRuns
open NoShow (RoomUsageStatus)

def isFinal : RoomUsageStatus → Bool
  | .completed | .noShow | .released => true
  | .notStarted | .inUse | .earlyEmpty => false

/-- The status is final, and a row with an actual start has an actual end. -/
def RoomBookingUsage.Closed (u : RoomBookingUsage) : Prop :=
  isFinal u.usageStatus = true ∧ (u.actualStartTime.isSome = true → u.actualEndTime.isSome = true)

/-- No usage row of a completed meeting is left open. -/
def UsagesClosed (p : Premises) : Prop :=
  ∀ q ∈ p.store.meetings.rows, q.2.status = .completed →
    ∀ r ∈ p.usages.rows, r.2.meetingId = q.1 → r.2.Closed

/-- An end closes rows in use. It leaves the others alone, of which no final one may lack its
    end, and none may wait for a start or stand flagged as empty. -/
def RoomBookingUsage.Ready (u : RoomBookingUsage) : Prop :=
  match u.usageStatus with
  | .inUse => True
  | .notStarted | .earlyEmpty => False
  | .completed | .noShow | .released => u.actualStartTime = none ∨ u.actualEndTime ≠ none

/-- No meeting ends while one of its usage rows waits for a start, stands flagged as empty, or has
    a final status without its end. -/
def EndsReady (p : Premises) : Event → Prop
  | .endMeeting _ meetingId _ => ∀ r ∈ p.usages.rows, r.2.meetingId = meetingId → r.2.Ready
  | _ => True

section Decisions

instance (u : RoomBookingUsage) : Decidable u.Closed :=
  inferInstanceAs (Decidable (isFinal u.usageStatus = true ∧ (_ → _)))

instance (u : RoomBookingUsage) : Decidable u.Ready :=
  match u with
  | ⟨_, _, _, _, _, _, _, .inUse, _, _⟩ => .isTrue trivial
  | ⟨_, _, _, _, _, _, _, .notStarted, _, _⟩ | ⟨_, _, _, _, _, _, _, .earlyEmpty, _, _⟩ =>
    .isFalse id
  | ⟨_, _, _, _, _, _, _, .completed, _, _⟩ | ⟨_, _, _, _, _, _, _, .noShow, _, _⟩
  | ⟨_, _, _, _, _, _, _, .released, _, _⟩ => inferInstanceAs (Decidable (_ ∨ _))

instance (p : Premises) : Decidable (UsagesClosed p) :=
  inferInstanceAs (Decidable (∀ q ∈ p.store.meetings.rows, q.2.status = .completed →
    ∀ r ∈ p.usages.rows, r.2.meetingId = q.1 → r.2.Closed))

instance (p : Premises) : (e : Event) → Decidable (EndsReady p e)
  | .endMeeting _ meetingId _ =>
    inferInstanceAs (Decidable (∀ r ∈ p.usages.rows, r.2.meetingId = meetingId → r.2.Ready))
  | .startMeeting .. | .autoStartDueMeetings _ | .detect .. | .flagBooking .. | .requestExtension .. =>
    .isTrue trivial

end Decisions

section Rows
variable {p p' : Premises} {u : RoomBookingUsage}

theorem ready_iff : u.Ready ↔ u.usageStatus = .inUse ∨ u.Closed := by
  unfold RoomBookingUsage.Ready RoomBookingUsage.Closed
  cases status : u.usageStatus <;> cases u.actualStartTime <;> cases u.actualEndTime <;>
    simp [isFinal]

/-- What every step does that ends no meeting. -/
structure Kept (p p' : Premises) : Prop where
  completed : ∀ q' ∈ p'.store.meetings.rows, q'.2.status = .completed →
    ∃ q ∈ p.store.meetings.rows, q.1 = q'.1 ∧ q.2.status = .completed
  closed : ∀ r' ∈ p'.usages.rows, ∃ r ∈ p.usages.rows,
    r.2.meetingId = r'.2.meetingId ∧ (r.2.Closed → r'.2.Closed)

theorem Kept.refl (p : Premises) : Kept p p :=
  ⟨fun q there done => ⟨q, there, rfl, done⟩, fun r there => ⟨r, there, rfl, fun h => h⟩⟩

theorem Kept.trans {p'' : Premises} (first : Kept p p') (second : Kept p' p'') : Kept p p'' := by
  constructor
  · intro q'' there done
    obtain ⟨q', there', same', done'⟩ := second.completed q'' there done
    obtain ⟨q, there, same, done⟩ := first.completed q' there' done'
    exact ⟨q, there, same.trans same', done⟩
  · intro r'' there
    obtain ⟨r', there', same', closes'⟩ := second.closed r'' there
    obtain ⟨r, there, same, closes⟩ := first.closed r' there'
    exact ⟨r, there, same.trans same', fun h => closes' (closes h)⟩

theorem closed_of_kept (closed : UsagesClosed p) (kept : Kept p p') : UsagesClosed p' := by
  intro q' there done r' row mine
  obtain ⟨q, there, same_key, done⟩ := kept.completed q' there done
  obtain ⟨r, row, same_meeting, closes⟩ := kept.closed r' row
  exact closes (closed q there done r row (same_meeting.trans (mine.trans same_key.symm)))

/-- A write that no closed row is opened by. -/
def Harmless (hit : Nat × RoomBookingUsage → Bool) (write : RoomBookingUsage → RoomBookingUsage) :
    Prop :=
  ∀ r, hit r = true → (write r.2).meetingId = r.2.meetingId ∧ (r.2.Closed → (write r.2).Closed)

theorem updateWhere_closed {t : Table RoomBookingUsage} {hit : Nat × RoomBookingUsage → Bool}
    {write : RoomBookingUsage → RoomBookingUsage} (harmless : Harmless hit write) :
    ∀ r' ∈ (t.updateWhere hit write).rows, ∃ r ∈ t.rows,
      r.2.meetingId = r'.2.meetingId ∧ (r.2.Closed → r'.2.Closed) := by
  intro r' there
  obtain ⟨r, row, rfl⟩ := mem_updateWhere.mp there
  refine ⟨r, row, ?_⟩
  cases selected : hit r with
  | true =>
    rw [touch_of_true write selected]
    exact ⟨(harmless r selected).1.symm, (harmless r selected).2⟩
  | false =>
    rw [touch_of_false write selected]
    exact ⟨rfl, fun h => h⟩

theorem open_of_status {status : RoomUsageStatus} (here : u.usageStatus = status)
    (unfinished : isFinal status = false) : ¬ u.Closed := by
  intro closed
  rw [RoomBookingUsage.Closed, here, unfinished] at closed
  exact Bool.false_ne_true closed.1

theorem harmless_of_unfinished {hit : Nat × RoomBookingUsage → Bool}
    {write : RoomBookingUsage → RoomBookingUsage} {status : RoomUsageStatus}
    (same : ∀ u, (write u).meetingId = u.meetingId)
    (only : ∀ r, hit r = true → r.2.usageStatus = status) (unfinished : isFinal status = false) :
    Harmless hit write :=
  fun r selected => ⟨same r.2, fun closed => absurd closed (open_of_status (only r selected) unfinished)⟩

theorem usageOf_status {i : Nat} {status : RoomUsageStatus} {r : Nat × RoomBookingUsage}
    (selected : usageOf i status r = true) : r.2.meetingId = i ∧ r.2.usageStatus = status := by
  simpa [usageOf] using selected

theorem reserved_harmless (hit : Nat × RoomBookingUsage → Bool) (newEndTime : Int) :
    Harmless hit (reservedUntil newEndTime) := fun _ _ => ⟨rfl, fun closed => closed⟩

theorem begun_harmless (i : Nat) (now : Int) (source : OccupancySource) :
    Harmless (usageOf i .notStarted) (begun now source) :=
  harmless_of_unfinished (fun _ => rfl) (fun _ selected => (usageOf_status selected).2) rfl

theorem flagged_harmless (bookingId : Nat) (detectedAt emptyMinutes : Int) :
    Harmless (inUseOf bookingId) (flagged detectedAt emptyMinutes) := by
  have only : ∀ r, inUseOf bookingId r = true → r.2.usageStatus = .inUse := by
    intro r selected
    simp only [inUseOf, decide_eq_true_eq] at selected
    exact selected.2
  exact harmless_of_unfinished (fun _ => rfl) only rfl

end Rows
section Steps
variable {cfg : Config} {now : Int} {i userId : Nat} {dto : ExtensionRequestDto} {p p' : Premises}

theorem flagBooking_kept (cand : CandidateRow) (detectedAt emptyMinutes : Int) :
    Kept p (flagBooking cand detectedAt emptyMinutes p).1 := by
  unfold flagBooking
  split
  · exact Kept.refl p
  · exact ⟨(Kept.refl p).completed, updateWhere_closed (flagged_harmless _ _ _)⟩

theorem detect_kept (evd : EarlyVacancyConfig) (snapshots : List PresenceSnapshot)
    (attempt : CandidateRow → Option Int) : Kept p (detect evd now snapshots attempt p).1 :=
  detect_keeps Kept.refl Kept.trans evd.emptyMinutes
    (fun _ cand detectedAt => flagBooking_kept cand detectedAt evd.emptyMinutes) attempt _ (p, 0)

theorem completed_before {t : Table Meeting} {hit : Nat × Meeting → Bool} {write : Meeting → Meeting}
    (completes : ∀ r, hit r = true → (write r.2).status = .completed → r.2.status = .completed) :
    ∀ q' ∈ (t.updateWhere hit write).rows, q'.2.status = .completed →
      ∃ q ∈ t.rows, q.1 = q'.1 ∧ q.2.status = .completed := by
  intro q' there done
  obtain ⟨q, row, rfl⟩ := mem_updateWhere.mp there
  refine ⟨q, row, (touch_key hit write q).symm, ?_⟩
  cases selected : hit q with
  | true =>
    rw [touch_of_true write selected] at done
    exact completes q selected done
  | false =>
    rw [touch_of_false write selected] at done
    exact done

theorem start_completed (ok : MeetingBooking.startMeeting now i userId p.store = .ok p'.store) :
    ∀ q' ∈ p'.store.meetings.rows, q'.2.status = .completed →
      ∃ q ∈ p.store.meetings.rows, q.1 = q'.1 ∧ q.2.status = .completed := by
  rcases MeetingBooking.startMeeting_ok ok with same | executed
  · rw [same]
    exact (Kept.refl p).completed
  · obtain ⟨m, -, -, -, written⟩ := executeStart_ok executed
    rw [written]
    exact completed_before fun r _ done => by cases done

theorem startMeeting_kept (ok : startMeeting now i userId p = .ok p') : Kept p p' := by
  obtain ⟨store, usages⟩ := startMeeting_ok ok
  refine ⟨start_completed store, ?_⟩
  rcases usages with same | begun
  · rw [same]
    exact (Kept.refl p).closed
  · rw [begun]
    exact updateWhere_closed (begun_harmless _ _ _)

theorem autoStart_kept : Kept p (autoStartDueMeetings now p) :=
  ⟨completed_before fun _ _ done => (by cases done), (Kept.refl p).closed⟩

theorem extension_completed
    (ok : MeetingBooking.requestExtension cfg i dto userId p.store = .ok p'.store) :
    ∀ q' ∈ p'.store.meetings.rows, q'.2.status = .completed →
      ∃ q ∈ p.store.meetings.rows, q.1 = q'.1 ∧ q.2.status = .completed := by
  obtain ⟨basis, k, -, -, ⟨-, applied⟩ | ⟨-, rejected⟩⟩ := MeetingBooking.requestExtension_ok ok
  · obtain ⟨m, -, -, written⟩ := handleAutoApplyPath_ok.mp applied
    rw [written]
    exact completed_before fun r _ done => done
  · rw [rejected]
    exact (Kept.refl p).completed

theorem requestExtension_kept (ok : requestExtension cfg i dto userId p = .ok p') : Kept p p' := by
  obtain ⟨store, usages⟩ := requestExtension_ok ok
  refine ⟨extension_completed store, ?_⟩
  rcases usages with same | ⟨newEndTime, extended⟩
  · rw [same]
    exact (Kept.refl p).closed
  · intro r'' there
    rw [extended] at there
    obtain ⟨r', row', same', closes'⟩ := updateWhere_closed (reserved_harmless _ _) r'' there
    obtain ⟨r, row, same, closes⟩ := updateWhere_closed (reserved_harmless _ _) r' row'
    exact ⟨r, row, same.trans same', fun h => closes' (closes h)⟩

end Steps
section Ends
variable {cfg : Config} {now : Int} {i userId : Nat} {p p' : Premises}

theorem finished_closed (now originalEndTime : Int) (u : RoomBookingUsage) :
    (finished now originalEndTime u).Closed := by
  refine ⟨?_, fun _ => rfl⟩
  unfold finished
  dsimp only
  split <;> rfl

theorem untouched {r : Nat × RoomBookingUsage} (write : RoomBookingUsage → RoomBookingUsage)
    (missed : ¬ (r.2.meetingId = i ∧ r.2.usageStatus = .inUse)) : touch (usageOf i .inUse) write r = r :=
  touch_of_false write (decide_eq_false missed)

theorem endMeeting_closes_iff (ok : endMeeting now i userId p = .ok p') (closed : UsagesClosed p) :
    UsagesClosed p' ↔ ∀ r ∈ p.usages.rows, r.2.meetingId = i → r.2.Ready := by
  obtain ⟨store, t, usages⟩ := endMeeting_ok ok
  obtain ⟨m, found, -, written⟩ := executeEnd_ok (MeetingBooking.endMeeting_ok store)
  constructor
  · intro closed' r row mine
    rw [ready_iff]
    by_cases inUse : r.2.usageStatus = .inUse
    · exact Or.inl inUse
    · right
      have completed : (i, ended now m) ∈ p'.store.meetings.rows := by
        rw [written, ← get?_eq_some]
        change (p.store.meetings.update i (ended now)).get? i = some (ended now m)
        rw [get?_update, if_pos rfl, found_row found, Option.map_some]
      have kept : r ∈ p'.usages.rows := by
        rw [usages, mem_updateWhere]
        exact ⟨r, row, untouched _ fun both => inUse both.2⟩
      exact closed' _ completed rfl r kept mine
  · intro ready q' there done r' row' mine
    rw [usages] at row'
    obtain ⟨r, row, rfl⟩ := mem_updateWhere.mp row'
    rw [written] at there
    obtain ⟨q, before, rfl⟩ := mem_updateWhere.mp there
    rw [touch_key] at mine
    by_cases ours : r.2.meetingId = i ∧ r.2.usageStatus = .inUse
    · rw [touch_of_true _ (decide_eq_true ours)]
      exact finished_closed now t r.2
    · rw [untouched _ ours] at mine ⊢
      by_cases here : r.2.meetingId = i
      · exact (ready_iff.mp (ready r row here)).resolve_left fun inUse => ours ⟨here, inUse⟩
      · have other : decide (q.1 = i) = false := decide_eq_false fun same => here (mine.trans same)
        rw [touch_of_false _ other] at done
        exact closed q before done r row mine

theorem closed_step_iff {e : Event} (closed : UsagesClosed p) (happens : Happens cfg p e p') :
    UsagesClosed p' ↔ EndsReady p e := by
  cases e with
  | startMeeting now i userId =>
    exact iff_of_true (closed_of_kept closed (startMeeting_kept (toOption_eq_some.mp happens))) trivial
  | autoStartDueMeetings now =>
    cases happens
    exact iff_of_true (closed_of_kept closed autoStart_kept) trivial
  | detect evd now snapshots attempt =>
    cases happens
    exact iff_of_true (closed_of_kept closed (detect_kept evd snapshots attempt)) trivial
  | flagBooking cand detectedAt emptyMinutes =>
    cases happens
    exact iff_of_true (closed_of_kept closed (flagBooking_kept cand detectedAt emptyMinutes)) trivial
  | requestExtension i dto userId =>
    exact iff_of_true (closed_of_kept closed (requestExtension_kept (toOption_eq_some.mp happens))) trivial
  | endMeeting now i userId => exact endMeeting_closes_iff (toOption_eq_some.mp happens) closed

theorem usages_closed_iff {moves : List (Move Premises Event)} {last : Premises}
    (closed : UsagesClosed p) (run : Run (Happens cfg) p moves last) :
    (∀ q ∈ visited p moves, UsagesClosed q) ↔ Heeds EndsReady moves :=
  states_safe_iff (fun _ => True) UsagesClosed run trivial closed (fun _ _ => trivial)
    fun _ safe happens => closed_step_iff safe happens

def beforeStart : Premises where
  store := { Store.empty with
    meetings := Table.empty.insert
      { organizerId := 1, hostId := some 2, roomId := some 1, startTime := 0, endTime := 3600000,
        status := .scheduled }
    bookings := Table.empty.insert ⟨0, 1, 0, 3600000, .approved⟩ }
  usages := Table.empty.insert
    { bookingId := 0, meetingId := 0, roomId := 1, reservedEndTime := 3600000,
      firstPresenceAt := some (-300000), usageStatus := .inUse }

def desertedAt20 : Event :=
  .detect (getValues (fun _ => none) fun _ => none) 1200000 [⟨0, some 3, 300000⟩, ⟨0, some 0, 1140000⟩]
    fun _ => some 1200001

def flaggedRun : List Event := [.startMeeting 0 0 1, desertedAt20, .endMeeting 1800000 0 2]

theorem flagged_usage_stays_open :
    ∃ moves last, Run (Happens (Config.load none none)) beforeStart moves last ∧
      UsagesClosed beforeStart ∧ ¬ ∀ q ∈ visited beforeStart moves, UsagesClosed q := by
  have run := run_followed (Event.exec (Config.load none none)) flaggedRun beforeStart
  refine ⟨_, _, run, by decide +kernel, fun all => ?_⟩
  have closed := all _ (end_visited run)
  revert closed
  decide +kernel

def attendedRun : List Event :=
  [.startMeeting 0 0 1, .detect (getValues (fun _ => none) fun _ => none) 1200000 [⟨0, some 3, 1140000⟩]
    fun _ => some 1200001, .requestExtension 0 halfAnHour 2, .endMeeting 5400000 0 2]

theorem usages_closed_iff_attended :
    ∃ moves last, Run (Happens (Config.load none none)) beforeStart moves last ∧ moves.length = 4 ∧
      last.usages.rows.map (fun r => (r.2.usageStatus, r.2.actualEndTime)) =
        [(.completed, some 5400000)] ∧
      ∀ q ∈ visited beforeStart moves, UsagesClosed q := by
  have run := run_followed (Event.exec (Config.load none none)) attendedRun beforeStart
  have heeds : Heeds EndsReady
      (followed (Event.exec (Config.load none none)) attendedRun beforeStart).1 := by
    decide +kernel
  have closed : UsagesClosed beforeStart := by decide +kernel
  exact ⟨_, _, run, by decide +kernel, by decide +kernel, (usages_closed_iff closed run).mpr heeds⟩

end Ends
end RoomUsages
