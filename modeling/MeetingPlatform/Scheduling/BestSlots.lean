import MeetingPlatform.Lib.Doubles
import MeetingPlatform.Scheduling.SoundSlots

/- Whether the suggested slots are the best ones. The rounded percentage and the texts of the starts rank
   the slots like the free optional users and the starts themselves, but only the first candidates are
   ranked at all. -/
namespace Scheduling
open KeyedTable MeetingBooking Guards IsoTimes Doubles

section Percentage

/-- `Math.round(a / b * 100)` -/
def percentOf (a b : Nat) : Int := ⌊fl (fl (a / b) * 100) + 1 / 2⌋

variable {a b total : Nat}

theorem fl_close {x : ℚ} (bounds : x = 0 ∨ 1 / 64 ≤ x ∧ x ≤ 128) : |fl x - x| ≤ 1 / 2 ^ 40 := by
  have normal : x = 0 ∨ (2 : ℚ) ^ (-1022 : ℤ) ≤ |x| := by
    refine bounds.imp_right ?_
    rintro ⟨least, -⟩
    have tiny : (2 : ℚ) ^ (-1022 : ℤ) ≤ 2 ^ (-6 : ℤ) := zpow_le_zpow_right₀ (by norm_num) (by norm_num)
    have sixth : (2 : ℚ) ^ (-6 : ℤ) = 1 / 64 := by norm_num
    exact (tiny.trans_eq sixth).trans (least.trans (le_abs_self x))
  have size : |x| ≤ 128 := by
    rcases bounds with rfl | ⟨least, most⟩
    · norm_num
    · rw [abs_of_nonneg (by linarith)]
      exact most
  calc |fl x - x| ≤ |x| / 2 ^ 53 := fl_error normal
    _ ≤ 128 / 2 ^ 53 := by gcongr
    _ ≤ 1 / 2 ^ 40 := by norm_num

theorem percentage_close (few : total ≤ 51) (fits : a ≤ total) :
    |fl (fl ((a : ℚ) / total) * 100) - (a : ℚ) / total * 100| ≤ 1 / 10 := by
  rcases Nat.eq_zero_or_pos a with rfl | some_free
  · rw [Nat.cast_zero, zero_div, fl_zero, zero_mul, fl_zero]
    norm_num
  have positive : (0 : ℚ) < total := by
    exact_mod_cast some_free.trans_le fits
  have most : (a : ℚ) / total ≤ 1 := by
    rw [div_le_one positive]
    exact_mod_cast fits
  have least : 1 / 51 ≤ (a : ℚ) / total := by
    have one : (1 : ℚ) ≤ a := by exact_mod_cast some_free
    have small : (total : ℚ) ≤ 51 := by exact_mod_cast few
    exact div_le_div₀ (by linarith) one positive small
  have share := abs_le.mp (fl_close (x := (a : ℚ) / total) (Or.inr ⟨by linarith, by linarith⟩))
  have tiny : (1 : ℚ) / 2 ^ 40 ≤ 1 / 10000 := by norm_num
  have product := abs_le.mp (fl_close (x := fl ((a : ℚ) / total) * 100)
    (Or.inr ⟨by linarith, by linarith⟩))
  rw [abs_le]
  constructor <;> linarith

theorem percentOf_lt (few : total ≤ 51) (order : a < b) (fits : b ≤ total) :
    percentOf a total < percentOf b total := by
  have positive : (0 : ℚ) < total := by
    exact_mod_cast (Nat.zero_lt_of_lt order).trans_le fits
  have step : (a : ℚ) / total + 1 / 51 ≤ b / total := by
    have one : (a : ℚ) + 1 ≤ b := by exact_mod_cast order
    have small : (total : ℚ) ≤ 51 := by exact_mod_cast few
    calc (a : ℚ) / total + 1 / 51 ≤ a / total + 1 / total := by gcongr
      _ = (a + 1) / total := by ring
      _ ≤ b / total := by gcongr
  have lower := abs_le.mp (percentage_close few (order.le.trans fits))
  have upper := abs_le.mp (percentage_close few fits)
  unfold percentOf
  rw [Int.lt_iff_add_one_le, Int.le_floor]
  push_cast
  have floor := Int.floor_le (fl (fl ((a : ℚ) / total) * 100) + 1 / 2)
  linarith

end Percentage

section Ranking
variable {busyOf : Nat → List Interval} {requiredTotal optionalTotal : Nat} {optionalUserIds : List Nat}
  {slots : List Interval} {a b : TimeSuggestionItem} {items : List TimeSuggestionItem} {durationMs : Int}

/-- More free optional users first, the earliest start among equals. -/
def BestBefore (a b : TimeSuggestionItem) : Prop :=
  b.optionalFreeCount < a.optionalFreeCount ∨
    a.optionalFreeCount = b.optionalFreeCount ∧ a.startTime ≤ b.startTime

instance : DecidableRel BestBefore := fun _ _ => inferInstanceAs (Decidable (_ ∨ _))

instance : Std.Total BestBefore where
  total a b := by
    unfold BestBefore
    omega

instance : IsTrans TimeSuggestionItem BestBefore where
  trans a b c := by
    unfold BestBefore
    omega

/-- The first items in the order, and what is left out is before none of them. -/
structure BestOf (limit : Nat) (items found : List TimeSuggestionItem) : Prop where
  first : found = (items.insertionSort BestBefore).take limit
  none_missed : ∀ outside ∈ items, outside ∉ found → ∀ inside ∈ found, ¬ BestBefore outside inside

theorem insertionSort_congr {r s : TimeSuggestionItem → TimeSuggestionItem → Prop} [DecidableRel r]
    [DecidableRel s] (agree : ∀ a ∈ items, ∀ b ∈ items, r a b ↔ s a b) :
    items.insertionSort r = items.insertionSort s := by
  have mapped := List.map_insertionSort (r := r) (s := s) id items agree
  rwa [List.map_id, List.map_id] at mapped

structure Scored (requiredTotal optionalTotal : Nat) (item : TimeSuggestionItem) : Prop where
  score : item.matchScore = if 0 < requiredTotal + optionalTotal then
    percentOf (requiredTotal + item.optionalFreeCount) (requiredTotal + optionalTotal) else 100
  free_le : item.optionalFreeCount ≤ optionalTotal

theorem scoreCandidate_scored (slot : Interval) : Scored requiredTotal optionalUserIds.length
    (scoreCandidate percentOf busyOf requiredTotal optionalUserIds slot) :=
  ⟨rfl, Nat.sub_le _ _⟩

theorem matchScore_lt_iff (few : requiredTotal + optionalTotal ≤ 51)
    (scored : Scored requiredTotal optionalTotal a) (scored' : Scored requiredTotal optionalTotal b) :
    a.matchScore < b.matchScore ↔ a.optionalFreeCount < b.optionalFreeCount := by
  have free := scored.free_le
  have free' := scored'.free_le
  rw [scored.score, scored'.score]
  split_ifs with someone
  · rcases lt_trichotomy a.optionalFreeCount b.optionalFreeCount with less | same | more
    · exact iff_of_true (percentOf_lt few (by omega) (by omega)) less
    · rw [same]
      exact iff_of_false (lt_irrefl _) (lt_irrefl _)
    · have order := percentOf_lt (a := requiredTotal + b.optionalFreeCount)
        (b := requiredTotal + a.optionalFreeCount) few (by omega) (by omega)
      exact iff_of_false order.asymm more.asymm
  · exact iff_of_false (lt_irrefl _) (by omega)

theorem ranksBefore_iff (few : requiredTotal + optionalTotal ≤ 51)
    (scored : Scored requiredTotal optionalTotal a) (scored' : Scored requiredTotal optionalTotal b)
    (year : InFourDigitYears a.startTime) (year' : InFourDigitYears b.startTime) :
    RanksBefore a b ↔ BestBefore a b := by
  have less := matchScore_lt_iff few scored scored'
  have more := matchScore_lt_iff few scored' scored
  have texts : localeCompare (isoText a.startTime) (isoText b.startTime) ≠ .gt ↔
      a.startTime ≤ b.startTime := by
    rw [compare_isoText year year', Ne, compare_gt_iff_gt, not_lt]
  unfold RanksBefore BestBefore
  rw [more]
  refine or_congr_right (and_congr ?_ texts)
  omega

theorem insertionSort_ranking (few : requiredTotal + optionalTotal ≤ 51)
    (scored : ∀ item ∈ items, Scored requiredTotal optionalTotal item)
    (years : ∀ item ∈ items, InFourDigitYears item.startTime) :
    items.insertionSort RanksBefore = items.insertionSort BestBefore := by
  apply insertionSort_congr
  intro a ha b hb
  exact ranksBefore_iff few (scored a ha) (scored b hb) (years a ha) (years b hb)

theorem first_bestOf (alone : ∀ a ∈ items, ∀ b ∈ items, a.startTime = b.startTime → a = b)
    (limit : Nat) : BestOf limit items ((items.insertionSort BestBefore).take limit) := by
  refine ⟨rfl, ?_⟩
  intro outside there missed inside found before
  have sorted := List.pairwise_insertionSort BestBefore items
  have placed := (List.mem_insertionSort BestBefore).mpr there
  rw [← List.take_append_drop limit (items.insertionSort BestBefore)] at sorted placed
  have later := (List.mem_append.mp placed).resolve_left missed
  have after := (List.pairwise_append.mp sorted).2.2 inside found outside later
  have at_once : outside.startTime = inside.startTime := by
    unfold BestBefore at before after
    omega
  have one := alone outside there inside
    ((List.mem_insertionSort _).mp (List.mem_of_mem_take found)) at_once
  exact missed (one ▸ found)

theorem ranked_best (few : requiredTotal + optionalUserIds.length ≤ 51)
    (years : ∀ slot ∈ slots, InFourDigitYears slot.start)
    (lasting : ∀ slot ∈ slots, slot.stop - slot.start = durationMs) (limit : Nat) :
    BestOf limit (slots.map (scoreCandidate percentOf busyOf requiredTotal optionalUserIds))
      (((slots.map (scoreCandidate percentOf busyOf requiredTotal optionalUserIds)).insertionSort
        RanksBefore).take limit) := by
  rw [insertionSort_ranking few]
  · apply first_bestOf
    simp only [List.forall_mem_map]
    intro c hc d hd (at_once : c.start = d.start)
    have ends : c.stop = d.stop := by
      have := lasting c hc
      have := lasting d hd
      omega
    have one : c = d := congrArg₂ Interval.mk at_once ends
    rw [one]
  · exact List.forall_mem_map.mpr fun slot _ => scoreCandidate_scored slot
  · exact List.forall_mem_map.mpr years

end Ranking

section Search
variable {percent : Nat → Nat → Int} {db : Database} {now : Int} {dto : SuggestTimeSlotDto}
  {currentUserId : Nat} {response : TimeSuggestionResponse} {rangeStart rangeEnd : Int}

def optionalUsers (dto : SuggestTimeSlotDto) : List Nat :=
  (dto.optionalParticipantUserIds.getD []).eraseDups

/-- All slots of the windows that are free for the required users, window by window. -/
def Database.allCandidates (db : Database) (dto : SuggestTimeSlotDto) (currentUserId : Nat)
    (rangeStart rangeEnd : Int) : List Interval :=
  (intersectAll ((requiredUsers dto currentUserId).map
    (freeWindows db rangeStart rangeEnd dto.excludeMeetingId))).flatMap
      (windowSlots (dto.durationMinutes * 60000))

def Database.scoreSlot (db : Database) (dto : SuggestTimeSlotDto) (currentUserId : Nat)
    (rangeStart rangeEnd : Int) : Interval → TimeSuggestionItem :=
  scoreCandidate percentOf (db.getBusyIntervals rangeStart rangeEnd dto.excludeMeetingId)
    (requiredUsers dto currentUserId).length (optionalUsers dto)

theorem search_ranked (done : suggestTimeSlots percentOf db now dto currentUserId = .ok response) :
    (dto.requiredParticipantUserIds.getD []).filter
        (fun id => id ∈ dto.optionalParticipantUserIds.getD []) = [] ∧
      (internalUsers dto currentUserId).length ≤ maxTotalParticipants ∧
      response.data = ((((db.allCandidates dto currentUserId response.info.searchRangeStart
        response.info.searchRangeEnd).take maxCandidatesEvaluated).map
          (db.scoreSlot dto currentUserId response.info.searchRangeStart
            response.info.searchRangeEnd)).insertionSort RanksBefore).take
              (dto.maxSuggestions.getD defaultMaxSuggestions) := by
  simp only [suggestTimeSlots, bind_eq_ok, require_eq_ok, pure_eq_ok, Prod.exists] at done
  obtain ⟨rangeStart, rangeEnd, -, _, -, _, apart, _, -, _, few, _, -, _, -, rfl⟩ := done
  exact ⟨apart, Nat.le_of_not_lt few, rfl⟩

theorem allCandidates_within {slot : Interval}
    (there : slot ∈ db.allCandidates dto currentUserId rangeStart rangeEnd) :
    slot.Within ⟨rangeStart, rangeEnd⟩ ∧ slot.start < slot.stop ∧
      slot.stop - slot.start = dto.durationMinutes * 60000 := by
  obtain ⟨window, common, cut⟩ := List.mem_flatMap.mp there
  have lasting : 0 < dto.durationMinutes * 60000 := by
    have bounds := dto.duration_bounds
    omega
  obtain ⟨inner, positive⟩ := windowSlots_within lasting cut
  obtain ⟨w, free, outer⟩ := intersectAll_within common
    (List.mem_map_of_mem (List.mem_eraseDups.mpr List.mem_cons_self))
  exact ⟨(inner.trans outer).trans (freeWindows_within free), positive, windowSlots_lasts cut⟩

theorem participants_few (apart : (dto.requiredParticipantUserIds.getD []).filter
      (fun id => id ∈ dto.optionalParticipantUserIds.getD []) = [])
    (few : (internalUsers dto currentUserId).length ≤ maxTotalParticipants) :
    (requiredUsers dto currentUserId).length + (optionalUsers dto).length ≤ 51 := by
  have distinct : (optionalUsers dto).Nodup := eraseDups_nodup _
  have together : (requiredUsers dto currentUserId ++ (optionalUsers dto).erase currentUserId).Nodup := by
    refine List.nodup_append'.mpr ⟨eraseDups_nodup _, distinct.erase _, ?_⟩
    intro userId required optional
    obtain ⟨other, listed⟩ := distinct.mem_erase_iff.mp optional
    rcases List.mem_cons.mp (List.mem_eraseDups.mp required) with asks | chosen
    · exact other asks
    · exact List.filter_eq_nil_iff.mp apart userId chosen
        (decide_eq_true (List.mem_eraseDups.mp listed))
  have known : requiredUsers dto currentUserId ++ (optionalUsers dto).erase currentUserId ⊆
      internalUsers dto currentUserId := by
    intro userId there
    refine List.mem_eraseDups.mpr (List.mem_append.mpr ?_)
    exact (List.mem_append.mp there).imp_right List.mem_of_mem_erase
  have counted := (List.subperm_of_subset together known).length_le
  rw [List.length_append, List.length_erase] at counted
  unfold maxTotalParticipants at few
  split at counted <;> omega

theorem response_best (done : suggestTimeSlots percentOf db now dto currentUserId = .ok response)
    (since : dayFromYear 0 * dayLength ≤ response.info.searchRangeStart)
    (until_end : response.info.searchRangeEnd ≤ dayFromYear 10000 * dayLength) :
    BestOf (dto.maxSuggestions.getD defaultMaxSuggestions)
      (((db.allCandidates dto currentUserId response.info.searchRangeStart
        response.info.searchRangeEnd).take maxCandidatesEvaluated).map
          (db.scoreSlot dto currentUserId response.info.searchRangeStart response.info.searchRangeEnd))
      response.data := by
  obtain ⟨apart, few, ranked⟩ := search_ranked done
  rw [ranked]
  apply ranked_best (participants_few apart few)
  · intro slot there
    obtain ⟨range, positive, -⟩ := allCandidates_within (List.mem_of_mem_take there)
    exact ⟨since.trans range.1, positive.trans_le (range.2.trans until_end)⟩
  · intro slot there
    exact (allCandidates_within (List.mem_of_mem_take there)).2.2

theorem search_answered (range : validateTimeRange now dto.searchRangeStart dto.searchRangeEnd =
      .ok (rangeStart, rangeEnd))
    (short : validateSearchRangeMaxDays rangeStart rangeEnd = .ok ())
    (apart : (dto.requiredParticipantUserIds.getD []).filter
      (fun id => id ∈ dto.optionalParticipantUserIds.getD []) = [])
    (several : 2 ≤ (internalUsers dto currentUserId).length)
    (few : (internalUsers dto currentUserId).length ≤ maxTotalParticipants)
    (exist : usersFound db (internalUsers dto currentUserId) = true)
    (access : validateExcludeMeetingAccess db dto.excludeMeetingId currentUserId = .ok ()) :
    ∃ response, suggestTimeSlots percent db now dto currentUserId = .ok response ∧
      response.info.searchRangeStart = rangeStart ∧ response.info.searchRangeEnd = rangeEnd := by
  simp only [suggestTimeSlots, bind_eq_ok, require_eq_ok, pure_eq_ok, Prod.exists]
  exact ⟨_, ⟨rangeStart, rangeEnd, range, (), short, (), apart, (), Nat.not_lt.mpr several, (),
    Nat.not_lt.mpr few, (), exist, (), access, rfl⟩, rfl, rfl⟩

/-- The suggestions are the best of the candidates that are evaluated, in the years that are written with
    four digits. -/
theorem suggestions_best_of_evaluated :
    (∀ (busyOf : Nat → List Interval) (requiredTotal : Nat) (optionalUserIds : List Nat)
      (windows : List Interval) (durationMs : Int) (limit : Nat),
      requiredTotal + optionalUserIds.length ≤ 51 →
      (∀ slot ∈ windows.flatMap (windowSlots durationMs), InFourDigitYears slot.start) →
        let scored := ((windows.flatMap (windowSlots durationMs)).take maxCandidatesEvaluated).map
          (scoreCandidate percentOf busyOf requiredTotal optionalUserIds)
        BestOf limit scored ((scored.insertionSort RanksBefore).take limit)) ∧
      ∀ (db : Database) (now : Int) (dto : SuggestTimeSlotDto) (currentUserId : Nat)
        (response : TimeSuggestionResponse),
        suggestTimeSlots percentOf db now dto currentUserId = .ok response →
        dayFromYear 0 * dayLength ≤ response.info.searchRangeStart →
        response.info.searchRangeEnd ≤ dayFromYear 10000 * dayLength →
          let evaluated := (db.allCandidates dto currentUserId response.info.searchRangeStart
            response.info.searchRangeEnd).take maxCandidatesEvaluated
          BestOf (dto.maxSuggestions.getD defaultMaxSuggestions)
            (evaluated.map (db.scoreSlot dto currentUserId response.info.searchRangeStart
              response.info.searchRangeEnd)) response.data := by
  constructor
  · intro busyOf requiredTotal optionalUserIds windows durationMs limit few years scored
    apply ranked_best few
    · exact fun slot there => years slot (List.mem_of_mem_take there)
    · intro slot there
      obtain ⟨window, -, cut⟩ := List.mem_flatMap.mp (List.mem_of_mem_take there)
      exact windowSlots_lasts cut
  · intro db now dto currentUserId response done since until_end
    exact response_best done since until_end

theorem best_hours :
    (let scored := (([⟨0, 3600000⟩].flatMap (windowSlots 1800000)).take maxCandidatesEvaluated).map
        (scoreCandidate percentOf (fun _ => [⟨0, 1800000⟩]) 1 [2]);
      BestOf 1 scored ((scored.insertionSort RanksBefore).take 1)) ∧
    ∃ response, suggestTimeSlots percentOf (onePlan .scheduled) 0 firstHours 0 = .ok response ∧
      BestOf 1 ((((onePlan .scheduled).allCandidates firstHours 0 3600000 10800000).take
        maxCandidatesEvaluated).map ((onePlan .scheduled).scoreSlot firstHours 0 3600000 10800000))
          response.data := by
  constructor
  · refine suggestions_best_of_evaluated.1 _ _ _ _ _ _ (by decide) ?_
    unfold InFourDigitYears
    decide
  · have answered : ∃ response,
        suggestTimeSlots percentOf (onePlan .scheduled) 0 firstHours 0 = .ok response ∧
          response.info.searchRangeStart = 3600000 ∧ response.info.searchRangeEnd = 10800000 :=
      search_answered (by decide) (by decide) (by decide) (by decide) (by decide) (by decide) (by decide)
    obtain ⟨response, done, starts, ends⟩ := answered
    have best := suggestions_best_of_evaluated.2 _ _ _ _ response done (by rw [starts]; decide)
      (by rw [ends]; decide)
    rw [starts, ends] at best
    exact ⟨response, done, best⟩

end Search

section LongRange

def longMeeting : Database where
  store := { Store.empty with
    meetings := KeyedTable.Table.empty.insert
      ⟨0, none, none, 0, 2160000000, .scheduled, none, none, none, none, none, none⟩
    participants := KeyedTable.Table.empty.insert ⟨0, 2⟩ }
  userExists := fun id => id < 3

def thirtyDays : SuggestTimeSlotDto where
  requiredParticipantUserIds := some [0]
  optionalParticipantUserIds := some [2]
  searchRangeStart := some 0
  searchRangeEnd := some 2592000000
  durationMinutes := 15
  required_unique := by simp
  optional_unique := by simp
  duration_bounds := by decide
  suggestions_bounds := by simp

/-- The slot `k` quarters of an hour after the start. -/
def quarter (k : Nat) : Interval := ⟨k * 900000, k * 900000 + 900000⟩

theorem thirtyDays_candidates :
    longMeeting.allCandidates thirtyDays 0 0 2592000000 = (List.range 2880).map quarter := by
  have windows : intersectAll ((requiredUsers thirtyDays 0).map
      (freeWindows longMeeting 0 2592000000 thirtyDays.excludeMeetingId)) = [⟨0, 2592000000⟩] := by
    decide
  rw [Database.allCandidates, windows, List.flatMap_singleton, windowSlots, if_neg (by decide)]
  apply List.map_congr_left
  intro k _
  simp only [granularityMinutes, quarter, Interval.mk.injEq]
  exact ⟨by omega, by simp only [thirtyDays]; omega⟩

theorem quarter_free (k : Nat) :
    (longMeeting.scoreSlot thirtyDays 0 0 2592000000 (quarter k)).optionalFreeCount =
      if k < 2400 then 0 else 1 := by
  have busy : longMeeting.getBusyIntervals 0 2592000000 none 2 = [⟨0, 2160000000⟩] := by
    decide
  have users : optionalUsers thirtyDays = [2] := by
    decide
  have overlap : overlapsAny [⟨0, 2160000000⟩] (quarter k).start (quarter k).stop =
      decide (k < 2400) := by
    simp only [overlapsAny, List.any_cons, List.any_nil, Bool.or_false, quarter]
    apply decide_eq_decide.mpr
    omega
  have left_out : thirtyDays.excludeMeetingId = none := rfl
  rw [Database.scoreSlot, scoreCandidate, users, left_out]
  simp only [List.filter_cons, List.filter_nil, busy, overlap, decide_eq_true_eq]
  split_ifs <;> rfl

theorem free_slot_unevaluated :
    ¬ ∀ (db : Database) (now : Int) (dto : SuggestTimeSlotDto) (currentUserId : Nat)
      (response : TimeSuggestionResponse),
      suggestTimeSlots percentOf db now dto currentUserId = .ok response →
        BestOf (dto.maxSuggestions.getD defaultMaxSuggestions)
          ((db.allCandidates dto currentUserId response.info.searchRangeStart
            response.info.searchRangeEnd).map (db.scoreSlot dto currentUserId
              response.info.searchRangeStart response.info.searchRangeEnd)) response.data := by
  intro all
  have answered : ∃ response, suggestTimeSlots percentOf longMeeting 0 thirtyDays 0 = .ok response ∧
      response.info.searchRangeStart = 0 ∧ response.info.searchRangeEnd = 2592000000 :=
    search_answered (by decide) (by decide) (by decide) (by decide) (by decide) (by decide) (by decide)
  obtain ⟨response, done, starts, ends⟩ := answered
  have best := all _ _ _ _ response done
  obtain ⟨-, -, ranked⟩ := search_ranked done
  rw [starts, ends, thirtyDays_candidates] at best ranked
  have none_free : ∀ item ∈ response.data, item.optionalFreeCount = 0 := by
    intro item found
    rw [ranked] at found
    obtain ⟨slot, there, rfl⟩ := List.mem_map.mp
      ((List.mem_insertionSort _).mp (List.mem_of_mem_take found))
    rw [← List.map_take, List.take_range] at there
    obtain ⟨k, evaluated, rfl⟩ := List.mem_map.mp there
    have early := List.mem_range.mp evaluated
    unfold maxCandidatesEvaluated at early
    rw [quarter_free, if_pos (by omega)]
  have some_found : 0 < response.data.length := by
    rw [best.first, List.length_take, List.length_insertionSort, List.length_map, List.length_map,
      List.length_range]
    decide
  obtain ⟨inside, found⟩ := List.exists_mem_of_length_pos some_found
  have later := quarter_free 2400
  rw [if_neg (by decide)] at later
  refine best.none_missed _ (List.mem_map_of_mem (List.mem_map_of_mem (List.mem_range.mpr
    (show 2400 < 2880 by decide)))) ?_ inside found ?_
  · intro listed
    have := none_free _ listed
    omega
  · left
    rw [none_free inside found, later]
    decide

end LongRange
end Scheduling
