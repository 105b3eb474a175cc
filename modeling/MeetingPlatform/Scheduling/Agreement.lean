import MeetingPlatform.Scheduling.ParticipantConflict

/- Whether a suggested slot passes the check. The search for free time counts approved
   meetings only, the check counts all that are not over, so drafts and meetings that wait
   for approval make the difference. -/
namespace Scheduling
open KeyedTable MeetingBooking Guards

section Users
variable {db : Database} {ids : List Nat}

theorem later_shorter (a : Nat) (rest : List Nat) :
    (rest.filter fun b => !b == a).length < (a :: rest).length :=
  Nat.lt_succ_of_le (List.length_filter_le _ _)

theorem eraseDups_sublist (ids : List Nat) : ids.eraseDups.Sublist ids := by
  cases ids with
  | nil => exact List.Sublist.refl _
  | cons a rest =>
    rw [List.eraseDups_cons]
    have others := eraseDups_sublist (rest.filter fun b => !b == a)
    exact (others.trans List.filter_sublist).cons_cons a
termination_by ids.length
decreasing_by exact later_shorter a rest

theorem eraseDups_nodup (ids : List Nat) : ids.eraseDups.Nodup := by
  cases ids with
  | nil => exact List.nodup_nil
  | cons a rest =>
    have fresh : a ∉ (rest.filter fun b => !b == a).eraseDups := by
      rw [List.mem_eraseDups]
      simp
    rw [List.eraseDups_cons]
    exact List.nodup_cons.mpr ⟨fresh, eraseDups_nodup _⟩
termination_by ids.length
decreasing_by exact later_shorter a rest

theorem eraseDups_of_nodup (distinct : ids.Nodup) : ids.eraseDups = ids := by
  induction ids with
  | nil => rfl
  | cons a rest ih =>
    obtain ⟨fresh, rest_distinct⟩ := List.nodup_cons.mp distinct
    have kept : rest.filter (fun b => !b == a) = rest := by
      rw [List.filter_eq_self]
      intro b hb
      have other : b ≠ a := fun same => fresh (same ▸ hb)
      simp [other]
    rw [List.eraseDups_cons, kept, ih rest_distinct]

theorem usersFound_exist (found : usersFound db ids = true) : ∀ id ∈ ids, db.userExists id = true := by
  intro id there
  simp only [usersFound, decide_eq_true_eq] at found
  have counted := found.resolve_left (List.ne_nil_of_mem there)
  have shorter := (eraseDups_sublist ids).length_le
  have most := List.countP_le_length (p := db.userExists) (l := ids.eraseDups)
  have all := List.countP_eq_length.mp (show ids.eraseDups.countP db.userExists = ids.eraseDups.length by
    omega)
  exact all id (List.mem_eraseDups.mpr there)

theorem usersFound_of_exist (distinct : ids.Nodup) (exist : ∀ id ∈ ids, db.userExists id = true) :
    usersFound db ids = true := by
  simp only [usersFound, decide_eq_true_eq]
  right
  rw [eraseDups_of_nodup distinct]
  exact List.countP_eq_length.mpr exist

end Users

section Agreement
variable {percent : Nat → Nat → Int} {formatTime : Int → String} {db : Database} {now : Int}
  {dto : SuggestTimeSlotDto} {currentUserId : Nat} {response : TimeSuggestionResponse}

theorem suggestion_found (done : suggestTimeSlots percent db now dto currentUserId = .ok response) :
    (∀ id ∈ requiredUsers dto currentUserId, db.userExists id = true) ∧
      validateExcludeMeetingAccess db dto.excludeMeetingId currentUserId = .ok () ∧
      ∃ rangeStart rangeEnd, ∀ item ∈ response.data,
        ∃ slot : Interval, item.startTime = slot.start ∧ item.endTime = slot.stop ∧
          slot.start < slot.stop ∧ ∀ userId ∈ requiredUsers dto currentUserId,
            ∃ w ∈ freeWindows db rangeStart rangeEnd dto.excludeMeetingId userId, slot.Within w := by
  simp only [suggestTimeSlots, bind_eq_ok, require_eq_ok, pure_eq_ok, Prod.exists] at done
  obtain ⟨rangeStart, rangeEnd, -, _, -, _, -, _, -, _, -, _, found, _, access, rfl⟩ := done
  refine ⟨?_, access, rangeStart, rangeEnd, ?_⟩
  · intro id there
    exact usersFound_exist found id
      (List.mem_eraseDups.mpr (List.mem_append_left _ there))
  · intro item listed
    have scored := (List.mem_insertionSort _).mp (List.mem_of_mem_take listed)
    obtain ⟨slot, candidate, rfl⟩ := List.mem_map.mp scored
    obtain ⟨window, common, cut⟩ := List.mem_flatMap.mp (List.mem_of_mem_take candidate)
    have lasting : 0 < dto.durationMinutes * 60000 := by
      have bounds := dto.duration_bounds
      omega
    obtain ⟨inner, positive⟩ := windowSlots_within lasting cut
    refine ⟨slot, rfl, rfl, positive, ?_⟩
    intro userId required
    obtain ⟨w, free, outer⟩ := intersectAll_within common (List.mem_map_of_mem required)
    exact ⟨w, free, inner.trans outer⟩

theorem access_checked (granted : validateExcludeMeetingAccess db dto.excludeMeetingId currentUserId =
    .ok ()) : validateExcludedMeeting db dto.excludeMeetingId (some currentUserId) = .ok () := by
  cases left_out : dto.excludeMeetingId with
  | none => rfl
  | some meetingId =>
    rw [left_out] at granted
    simp only [validateExcludeMeetingAccess, bind_eq_ok, expect_eq_ok, require_eq_ok] at granted
    obtain ⟨m, found, access⟩ := granted
    simp [validateExcludedMeeting, found, access]

/-- A meeting of the user within the slot that is not approved, or not yet again. -/
def UnapprovedMeeting (db : Database) (userId : Nat) (start stop : Int)
    (excludeMeetingId : Option Nat) : Prop :=
  ∃ r ∈ db.meetingsOf userId, (r.2.status = .draft ∨ r.2.status = .pendingApproval) ∧
    Meets start stop excludeMeetingId r

theorem countsAsConflict_iff (status : MeetingStatus) : countsAsConflict status = true ↔
    countsAsBusy status = true ∨ status = .draft ∨ status = .pendingApproval := by
  cases status <;> decide

theorem suggested_slot_free_iff
    (done : suggestTimeSlots percent db now dto currentUserId = .ok response) (later : Int) :
    ∀ item ∈ response.data,
      ∃ report, checkConflicts formatTime db later
          { startTime := some item.startTime
            endTime := some item.endTime
            participantUserIds := requiredUsers dto currentUserId
            excludeMeetingId := dto.excludeMeetingId } (some currentUserId) = .ok report ∧
        ∀ userId ∈ requiredUsers dto currentUserId,
          ((∃ p ∈ report.participants, p.userId = userId ∧ p.status = .free) ↔
            ¬ UnapprovedMeeting db userId item.startTime item.endTime dto.excludeMeetingId) := by
  obtain ⟨exist, access, rangeStart, rangeEnd, slots⟩ := suggestion_found done
  intro item listed
  obtain ⟨slot, starts, ends, positive, within⟩ := slots item listed
  have distinct : (requiredUsers dto currentUserId).Nodup := eraseDups_nodup _
  have checked : ∃ report, checkConflicts formatTime db later
      { startTime := some item.startTime
        endTime := some item.endTime
        participantUserIds := requiredUsers dto currentUserId
        excludeMeetingId := dto.excludeMeetingId } (some currentUserId) = .ok report := by
    have in_order : ¬ item.endTime ≤ item.startTime := by omega
    have users : validateParticipants db (requiredUsers dto currentUserId) = .ok () := by
      simp [validateParticipants, eraseDups_of_nodup distinct, usersFound_of_exist distinct exist]
    simp only [checkConflicts, bind_eq_ok, pure_eq_ok, Prod.exists]
    have slot_valid : validateSlot (some item.startTime) (some item.endTime) =
        .ok (item.startTime, item.endTime) := by
      simp only [validateSlot, bind_eq_ok, expect_eq_ok, require_eq_ok, pure_eq_ok]
      exact ⟨_, rfl, _, rfl, (), in_order, rfl⟩
    exact ⟨_, item.startTime, item.endTime, slot_valid, (), users, (), access_checked access, rfl⟩
  obtain ⟨report, reported⟩ := checked
  refine ⟨report, reported, ?_⟩
  intro userId required
  rw [reported_free_iff reported ⟨rfl, rfl⟩ required, not_iff_not, UnapprovedMeeting]
  apply exists_congr
  intro r
  apply and_congr_right
  intro there
  apply and_congr_left
  intro meets
  rw [countsAsConflict_iff, or_iff_right]
  intro busy
  obtain ⟨w, free, inner⟩ := within userId required
  rw [starts, ends] at meets
  exact free_slot_meets_none free inner there busy meets

end Agreement

section Calendars

/-- Two users, one meeting of theirs from 01:00 to 02:00. -/
def onePlan (status : MeetingStatus) : Database where
  store := { Store.empty with
    meetings := KeyedTable.Table.empty.insert
      ⟨0, none, none, 3600000, 7200000, status, none, none, none, none, none, none⟩
    participants := (KeyedTable.Table.empty.insert ⟨0, 0⟩).insert ⟨0, 1⟩ }
  userExists := fun id => id < 2

def firstHours : SuggestTimeSlotDto where
  requiredParticipantUserIds := some [1]
  searchRangeStart := some 3600000
  searchRangeEnd := some 10800000
  durationMinutes := 30
  maxSuggestions := some 1
  required_unique := by simp
  optional_unique := by simp
  duration_bounds := by decide
  suggestions_bounds := by simp

/-- The one suggestion, from `startTime` on. -/
def halfHour (startTime : Int) (evaluated : Nat) : TimeSuggestionResponse :=
  ⟨[⟨startTime, startTime + 1800000, 100, 2, 2, 0, 0, []⟩],
    ⟨3600000, 10800000, 30, evaluated, 1⟩, "Danh sách khung giờ đề xuất"⟩

theorem found_after_meeting : suggestTimeSlots (fun _ _ => 100) (onePlan .scheduled) 0 firstHours 0 =
    .ok (halfHour 7200000 3) := by
  decide +kernel

theorem found_despite_request :
    suggestTimeSlots (fun _ _ => 100) (onePlan .pendingApproval) 0 firstHours 0 =
      .ok (halfHour 3600000 7) := by
  decide +kernel

theorem scheduled_slot_free :
    ∃ report, checkConflicts toString (onePlan .scheduled) 1
        { startTime := some 7200000
          endTime := some 9000000
          participantUserIds := requiredUsers firstHours 0
          excludeMeetingId := none } (some 0) = .ok report ∧
      ∀ userId ∈ requiredUsers firstHours 0,
        ((∃ p ∈ report.participants, p.userId = userId ∧ p.status = .free) ↔
          ¬ UnapprovedMeeting (onePlan .scheduled) userId 7200000 9000000 none) :=
  suggested_slot_free_iff found_after_meeting 1 _ List.mem_cons_self

theorem pending_slot_busy :
    ¬ ∀ (db : Database) (now : Int) (dto : SuggestTimeSlotDto) (currentUserId : Nat)
      (response : TimeSuggestionResponse),
      suggestTimeSlots (fun _ _ => 100) db now dto currentUserId = .ok response →
        ∀ item ∈ response.data,
          ∃ report, checkConflicts toString db now
              { startTime := some item.startTime
                endTime := some item.endTime
                participantUserIds := requiredUsers dto currentUserId
                excludeMeetingId := dto.excludeMeetingId } (some currentUserId) = .ok report ∧
            ∀ userId ∈ requiredUsers dto currentUserId,
              ∃ p ∈ report.participants, p.userId = userId ∧ p.status = .free := by
  intro all
  obtain ⟨report, done, free⟩ := all _ _ _ _ _ found_despite_request _ List.mem_cons_self
  have required : 0 ∈ requiredUsers firstHours 0 := by decide
  have reported := reported_free_iff done ⟨rfl, rfl⟩ required
  exact reported.mp (free 0 required) (by decide)

end Calendars
end Scheduling
