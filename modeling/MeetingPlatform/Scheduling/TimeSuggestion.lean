import MeetingPlatform.Lib.IsoTimes
import MeetingPlatform.Scheduling.FreeBusy
import Mathlib.Data.List.TakeDrop

/- The suggestion of time slots: the common free time of all required users is cut into
   slots, which are ranked by how many optional users are free as well. -/
namespace Scheduling
open KeyedTable MeetingBooking Guards IsoTimes

def granularityMinutes : Int := 15
def maxTotalParticipants : Nat := 50
def defaultMaxSuggestions : Nat := 5
def maxCandidatesEvaluated : Nat := 2000
def maxSearchDays : Int := 30

/-- The body of a request, with what its validation pipe guarantees. A date that cannot be
    read is `none`. -/
structure SuggestTimeSlotDto where
  requiredParticipantUserIds : Option (List Nat) := none
  optionalParticipantUserIds : Option (List Nat) := none
  searchRangeStart : Option Int
  searchRangeEnd : Option Int
  durationMinutes : Int
  excludeMeetingId : Option Nat := none
  maxSuggestions : Option Nat := none
  required_unique : ∀ ids ∈ requiredParticipantUserIds, ids.Nodup
  optional_unique : ∀ ids ∈ optionalParticipantUserIds, ids.Nodup
  duration_bounds : 15 ≤ durationMinutes ∧ durationMinutes ≤ 480
  suggestions_bounds : ∀ n ∈ maxSuggestions, 1 ≤ n ∧ n ≤ 10

structure BusyParticipant where
  userId : Nat
  busyFrom : Int
  busyTo : Int
  deriving DecidableEq, Repr

structure TimeSuggestionItem where
  startTime : Int
  endTime : Int
  matchScore : Int
  requiredFreeCount : Nat
  requiredTotal : Nat
  optionalFreeCount : Nat
  optionalTotal : Nat
  busyParticipants : List BusyParticipant
  deriving DecidableEq, Repr

structure TimeSuggestionMeta where
  searchRangeStart : Int
  searchRangeEnd : Int
  durationMinutes : Int
  totalCandidatesEvaluated : Nat
  resultLimit : Nat
  deriving DecidableEq, Repr

structure TimeSuggestionResponse where
  data : List TimeSuggestionItem
  info : TimeSuggestionMeta
  message : String
  deriving DecidableEq, Repr

section Errors

def invalidRequest (message : String) (details : List (String × Detail) := []) : ApiError :=
  ⟨.badRequest, "VALIDATION_ERROR", message, details⟩

def rangeUnreadable : ApiError :=
  invalidRequest "searchRangeStart hoặc searchRangeEnd không đúng định dạng"

def rangeEndsEarly : ApiError := invalidRequest "searchRangeEnd phải sau searchRangeStart"

def rangeInPast : ApiError := invalidRequest "searchRangeStart không được ở quá khứ"

def rangeTooLong : ApiError :=
  ⟨.badRequest, "SCHEDULING_SEARCH_RANGE_TOO_LONG",
    "Khoảng thời gian tìm kiếm không được vượt quá 30 ngày.", []⟩

def requiredAndOptional (duplicated : List Nat) : ApiError :=
  invalidRequest "Một người dùng không thể vừa là khách mời bắt buộc vừa là tùy chọn."
    [("duplicated", .ids duplicated)]

def tooFewParticipants : ApiError := invalidRequest "Cần ít nhất 2 người tham gia."

def tooManyParticipants : ApiError :=
  invalidRequest s!"Tổng số khách mời không được vượt quá {maxTotalParticipants} người."

def suggestedUsersUnknown : ApiError :=
  invalidRequest "Một hoặc nhiều participantUserId không tồn tại hoặc đã bị xóa"

def excludedMeetingNotFound : ApiError :=
  ⟨.notFound, "RESOURCE_NOT_FOUND", "Không tìm thấy cuộc họp với excludeMeetingId", []⟩

def excludedMeetingDenied : ApiError :=
  ⟨.forbidden, "PERMISSION_DENIED", "Bạn không có quyền truy cập cuộc họp này", []⟩

end Errors

section Checks

def usersFound (db : Database) (userIds : List Nat) : Bool :=
  userIds = [] ∨ (userIds.eraseDups.countP db.userExists) = userIds.length

/-- The organizer and the participants of a meeting may leave it out. -/
def mayAccess (db : Database) (meetingId : Nat) (m : Meeting) (userId : Nat) : Bool :=
  m.organizerId = userId ∨
    db.store.participants.rows.any fun r => r.2.meetingId = meetingId ∧ r.2.userId = userId

def validateTimeRange (now : Int) (start stop : Option Int) : Except ApiError (Int × Int) := do
  let start ← expect start rangeUnreadable
  let stop ← expect stop rangeUnreadable
  require (¬ stop ≤ start) rangeEndsEarly
  require (¬ start < now) rangeInPast
  return (start, stop)

def validateSearchRangeMaxDays (start stop : Int) : Except ApiError Unit :=
  require (¬ maxSearchDays * 86400000 < stop - start) rangeTooLong

def validateExcludeMeetingAccess (db : Database) (excludeMeetingId : Option Nat) (userId : Nat) :
    Except ApiError Unit :=
  match excludeMeetingId with
  | none => .ok ()
  | some meetingId => do
    let m ← expect (db.store.findMeeting meetingId) excludedMeetingNotFound
    require (mayAccess db meetingId m userId = true) excludedMeetingDenied

end Checks

section Candidates

def windowSlots (durationMs : Int) (window : Interval) : List Interval :=
  if window.stop - window.start < durationMs then []
  else
    let granularityMs := granularityMinutes * 60000
    let latestStartMs := window.stop - durationMs
    (List.range (((latestStartMs - window.start) / granularityMs).toNat + 1)).map fun (k : Nat) =>
      ⟨window.start + k * granularityMs, window.start + k * granularityMs + durationMs⟩

/-- The loop stops with the candidate that reaches the limit. -/
def candidates (durationMs : Int) (windows : List Interval) : List Interval :=
  (windows.flatMap (windowSlots durationMs)).take maxCandidatesEvaluated

def mergeForDisplay : List Interval → Option Interval
  | [] => none
  | first :: rest => some
    ⟨rest.foldl (fun m iv => if iv.start < m then iv.start else m) first.start,
      rest.foldl (fun m iv => if m < iv.stop then iv.stop else m) first.stop⟩

def busyParticipant (busyOf : Nat → List Interval) (c : Interval) (userId : Nat) :
    Option BusyParticipant :=
  (mergeForDisplay ((busyOf userId).filter fun iv => iv.start < c.stop ∧ c.start < iv.stop)).map
    fun merged => ⟨userId, merged.start, merged.stop⟩

/-- `percent a b` is what `Math.round(a / b * 100)` gives in floating point. -/
def scoreCandidate (percent : Nat → Nat → Int) (busyOf : Nat → List Interval) (requiredTotal : Nat)
    (optionalUserIds : List Nat) (c : Interval) : TimeSuggestionItem :=
  let busyOptional := optionalUserIds.filter fun userId => overlapsAny (busyOf userId) c.start c.stop
  let optionalTotal := optionalUserIds.length
  let optionalFreeCount := optionalTotal - busyOptional.length
  let total := requiredTotal + optionalTotal
  { startTime := c.start
    endTime := c.stop
    matchScore := if 0 < total then percent (requiredTotal + optionalFreeCount) total else 100
    requiredFreeCount := requiredTotal
    requiredTotal := requiredTotal
    optionalFreeCount := optionalFreeCount
    optionalTotal := optionalTotal
    busyParticipants := busyOptional.filterMap (busyParticipant busyOf c) }

/-- The best score first, the earliest start among equals. The starts are compared as texts. -/
def RanksBefore (a b : TimeSuggestionItem) : Prop :=
  b.matchScore < a.matchScore ∨ a.matchScore = b.matchScore ∧
    localeCompare (isoText a.startTime) (isoText b.startTime) ≠ .gt

instance : DecidableRel RanksBefore := fun _ _ => inferInstanceAs (Decidable (_ ∨ _))

end Candidates

def requiredUsers (dto : SuggestTimeSlotDto) (currentUserId : Nat) : List Nat :=
  (currentUserId :: dto.requiredParticipantUserIds.getD []).eraseDups

def suggestTimeSlots (percent : Nat → Nat → Int) (db : Database) (now : Int)
    (dto : SuggestTimeSlotDto) (currentUserId : Nat) : Except ApiError TimeSuggestionResponse := do
  let (searchRangeStart, searchRangeEnd) ←
    validateTimeRange now dto.searchRangeStart dto.searchRangeEnd
  validateSearchRangeMaxDays searchRangeStart searchRangeEnd
  let requiredRaw := dto.requiredParticipantUserIds.getD []
  let optionalRaw := dto.optionalParticipantUserIds.getD []
  let overlap := requiredRaw.filter fun id => id ∈ optionalRaw
  require (overlap = []) (requiredAndOptional overlap)
  let requiredUserIds := requiredUsers dto currentUserId
  let optionalUserIds := optionalRaw.eraseDups
  let allInternalUserIds := (requiredUserIds ++ optionalUserIds).eraseDups
  require (¬ allInternalUserIds.length < 2) tooFewParticipants
  require (¬ maxTotalParticipants < allInternalUserIds.length) tooManyParticipants
  require (usersFound db allInternalUserIds = true) suggestedUsersUnknown
  validateExcludeMeetingAccess db dto.excludeMeetingId currentUserId
  let busyOf := db.getBusyIntervals searchRangeStart searchRangeEnd dto.excludeMeetingId
  let requiredFreeWindows := intersectAll (requiredUserIds.map fun userId =>
    complement (busyOf userId) searchRangeStart searchRangeEnd)
  let candidates := candidates (dto.durationMinutes * 60000) requiredFreeWindows
  let scored := candidates.map (scoreCandidate percent busyOf requiredUserIds.length optionalUserIds)
  let maxSuggestions := dto.maxSuggestions.getD defaultMaxSuggestions
  let limited := (scored.insertionSort RanksBefore).take maxSuggestions
  return {
    data := limited
    info := {
      searchRangeStart, searchRangeEnd
      durationMinutes := dto.durationMinutes
      totalCandidatesEvaluated := candidates.length
      resultLimit := maxSuggestions }
    message := if limited = [] then
        "Không tìm thấy khung giờ chung nào phù hợp. Vui lòng thử mở rộng khoảng thời gian tìm kiếm hoặc giảm bớt số lượng khách mời."
      else "Danh sách khung giờ đề xuất" }

section Results
variable {durationMs : Int} {window slot : Interval}

theorem windowSlots_within (positive : 0 < durationMs) (there : slot ∈ windowSlots durationMs window) :
    slot.Within window ∧ slot.start < slot.stop := by
  unfold windowSlots at there
  split at there
  · cases there
  · rename_i room
    obtain ⟨k, bound, rfl⟩ := List.mem_map.mp there
    have steps := List.mem_range.mp bound
    have last : (k : Int) ≤ (window.stop - durationMs - window.start) / (granularityMinutes * 60000) := by
      have fits : 0 ≤ (window.stop - durationMs - window.start) / (granularityMinutes * 60000) := by
        apply Int.ediv_nonneg
        · omega
        · decide
      omega
    have reach := Int.mul_le_of_le_ediv (by decide) last
    have past : 0 ≤ (k : Int) * (granularityMinutes * 60000) := by
      unfold granularityMinutes
      omega
    refine ⟨⟨?_, ?_⟩, ?_⟩ <;> simp only <;> omega

end Results
end Scheduling
