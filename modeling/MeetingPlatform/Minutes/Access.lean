import MeetingPlatform.Minutes.Store
import Mathlib.Data.List.Sort

/- Who sees which minutes. The list and the comparison select them in the database, while the page of
   a single one decides in code and knows one more ground. -/
namespace Minutes
open KeyedTable Guards
open MeetingBooking (MeetingStatus)

section Tables

structure MinutesStore where
  meetings : Table Meeting
  participants : List MeetingParticipant
  minutes : Table MeetingMinutes
  shares : List MinutesShare
  effectiveRoles : Nat → List String

/-- The partial unique index: of each source, a meeting has at most one record that is not deleted. -/
def OneActive (minutes : Table MeetingMinutes) : Prop :=
  ∀ r ∈ minutes.rows, ∀ q ∈ minutes.rows, r.2.deletedAt = none → q.2.deletedAt = none →
    r.2.meetingId = q.2.meetingId → r.2.source = q.2.source → r = q

structure ValidStore extends MinutesStore where
  oneActive : OneActive minutes

variable (s : MinutesStore)

def isAdmin (userId : Nat) : Bool :=
  (s.effectiveRoles userId).any fun role => role = "SYSTEM_ADMIN" ∨ role = "BUSINESS_ADMIN"

def joinedMeeting (meetingId : Nat) : Option Meeting :=
  (s.meetings.get? meetingId).filter fun meeting => meeting.deletedAt.isNone

def isParticipant (meetingId userId : Nat) : Bool :=
  s.participants.any fun p => p.meetingId = meetingId ∧ p.userId = userId

end Tables

section Queries
variable (s : MinutesStore) (userId : Nat)

/-- The condition of the list and of the comparison, as it is in the query: without a joined meeting,
    its host and its participants are compared with null. -/
def visibilityScope (minutes : MeetingMinutes) : Bool :=
  let meeting := joinedMeeting s minutes.meetingId
  let takesPart := meeting.isSome ∧ isParticipant s minutes.meetingId userId
  (minutes.status = .draft ∧ minutes.preparedBy = some userId) ∨
    ((minutes.status = .published ∨ minutes.status = .archived) ∧
      (meeting.any (fun m => m.hostId = some userId) ∨ takesPart)) ∨
    (minutes.status = .draft ∧ minutes.isLiveShared ∧ takesPart)

inductive MinutesSort where
  | actualStartTime | createdAt
  deriving DecidableEq, Repr

structure MinutesQueryDto where
  page : Option Nat := none
  limit : Option Nat := none
  status : Option MinutesStatus := none
  roomId : Option Nat := none
  meetingId : Option Nat := none
  startsFrom : Option Int := none
  startsTo : Option Int := none
  sortBy : MinutesSort := .actualStartTime
  ascending : Bool := false

@[ext]
structure MinutesListItem where
  id : Nat
  minutes : MeetingMinutes
  meeting : Meeting
  deriving DecidableEq, Repr

structure MinutesListResult where
  items : List MinutesListItem
  total : Nat
  page : Nat
  limit : Nat
  deriving DecidableEq, Repr

def listMaxLimit : Nat := 20

def MinutesQueryDto.effectivePage (dto : MinutesQueryDto) : Nat := max 1 (dto.page.getD 1)

def MinutesQueryDto.effectiveLimit (dto : MinutesQueryDto) : Nat :=
  min listMaxLimit (max 1 (dto.limit.getD listMaxLimit))

def matchesFilters (dto : MinutesQueryDto) (minutes : MeetingMinutes) : Bool :=
  let meeting := joinedMeeting s minutes.meetingId
  let start := meeting.map fun m => m.actualStartTime.getD m.startTime
  (∀ status ∈ dto.status, minutes.status = status) ∧
    (∀ roomId ∈ dto.roomId, meeting.any fun m => m.roomId = some roomId) ∧
    (∀ meetingId ∈ dto.meetingId, meeting.isSome ∧ minutes.meetingId = meetingId) ∧
    (∀ since ∈ dto.startsFrom, start.any fun t => since ≤ t) ∧
    (∀ latest ∈ dto.startsTo, start.any fun t => t ≤ latest)

def nullsLast : Option Int → Option Int → Bool
  | _, none => true
  | none, some _ => false
  | some a, some b => a ≤ b

def sortKey (field : MinutesSort) (minutes : MeetingMinutes) : Option Int :=
  match field with
  | .actualStartTime => (joinedMeeting s minutes.meetingId).bind Meeting.actualStartTime
  | .createdAt => some minutes.createdAt

def sortRows (dto : MinutesQueryDto) (rows : List (Nat × MeetingMinutes)) :
    List (Nat × MeetingMinutes) :=
  rows.insertionSort fun a b =>
    if dto.ascending then nullsLast (sortKey s dto.sortBy a.2) (sortKey s dto.sortBy b.2) = true
    else nullsLast (sortKey s dto.sortBy b.2) (sortKey s dto.sortBy a.2) = true

def buildMinutesListItem (r : Nat × MeetingMinutes) : Except MinutesError MinutesListItem := do
  let meeting ← expect (joinedMeeting s r.2.meetingId) .typeError
  pure ⟨r.1, r.2, meeting⟩

def selectMinutes (p : MeetingMinutes → Bool) : List (Nat × MeetingMinutes) :=
  s.minutes.select fun r => r.2.deletedAt.isNone ∧ (isAdmin s userId ∨ visibilityScope s userId r.2) ∧ p r.2

def listError : MinutesError := .thrown .internal "INTERNAL_ERROR" "Lá»—i há»‡ thá»‘ng" []

/-- The rows of a page, in the order of the query. -/
def pageRows (dto : MinutesQueryDto) : List (Nat × MeetingMinutes) :=
  ((sortRows s dto (selectMinutes s userId fun minutes => matchesFilters s dto minutes)).drop
    ((dto.effectivePage - 1) * dto.effectiveLimit)).take dto.effectiveLimit

def findMinutesList (dto : MinutesQueryDto) : Except MinutesError MinutesListResult :=
  match (pageRows s userId dto).mapM (buildMinutesListItem s) with
  | .error _ => .error listError
  | .ok items => .ok {
      items := items
      total := (selectMinutes s userId fun minutes => matchesFilters s dto minutes).length
      page := dto.effectivePage
      limit := dto.effectiveLimit }

def meetingNotFound (meetingId : Nat) : MinutesError :=
  .thrown .notFound "MEETING_NOT_FOUND" "Cuộc họp không tồn tại hoặc đã bị xóa"
    [("meetingId", .id meetingId)]

/-- The manual and the generated minutes of a meeting, as far as the user may see them. -/
def compareMinutes (meetingId : Nat) :
    Except MinutesError (Option MinutesListItem × Option MinutesListItem) := do
  let _ ← expect (joinedMeeting s meetingId) (meetingNotFound meetingId)
  let items ← (selectMinutes s userId fun minutes => minutes.meetingId = meetingId).mapM
    (buildMinutesListItem s)
  pure ((items.filter fun item => item.minutes.source = .manual).getLast?,
    (items.filter fun item => item.minutes.source = .ai).getLast?)

def canAccessMinutes (id : Nat) (minutes : MeetingMinutes) (meeting : Option Meeting)
    (admin participant : Bool) : Except MinutesError Bool :=
  if admin then pure true
  else match minutes.status with
    | .draft => pure (minutes.preparedBy = some userId ∨ (minutes.isLiveShared ∧ participant))
    | .published | .archived => do
      let meeting ← expect meeting .typeError
      if meeting.hostId = some userId ∨ participant then pure true
      else pure (s.shares.any fun share => share.minutesId = id ∧ share.userId = userId)
    | .deleted => pure false

structure MinutesDetailResponse where
  id : Nat
  minutes : MeetingMinutes
  meeting : Meeting
  shares : List MinutesShare
  canEditOrIssue : Bool

def findMinutesDetail (id : Nat) : Except MinutesError MinutesDetailResponse := do
  let minutes ← expect ((s.minutes.get? id).filter fun minutes => minutes.deletedAt.isNone)
    (.thrown .notFound "MEETING_MINUTES_NOT_FOUND" "Bien ban hop khong ton tai hoac da bi xoa"
      [("id", .id id)])
  let meeting := joinedMeeting s minutes.meetingId
  let admin := isAdmin s userId
  let allowed ← canAccessMinutes s userId id minutes meeting admin
    (isParticipant s minutes.meetingId userId)
  require (allowed = true) (.thrown .forbidden "MEETING_MINUTES_ACCESS_DENIED"
    "Ban khong co quyen xem bien ban hop nay" [])
  let meeting ← expect meeting .typeError
  pure {
    id := id
    minutes := minutes
    meeting := meeting
    shares := (s.shares.filter fun share => share.minutesId = id).insertionSort fun a b =>
      b.grantedAt ≤ a.grantedAt
    canEditOrIssue := minutes.status = .draft ∧ (admin ∨ minutes.preparedBy = some userId) }

end Queries

section Grounds
variable {s : MinutesStore} {userId id : Nat} {minutes : MeetingMinutes} {meeting : Meeting}

def Opens (s : MinutesStore) (userId id : Nat) : Prop := ∃ detail, findMinutesDetail s userId id = .ok detail

structure Present (s : MinutesStore) (id : Nat) (minutes : MeetingMinutes) (meeting : Meeting) : Prop where
  row : (id, minutes) ∈ s.minutes.rows
  kept : minutes.deletedAt = none
  joined : joinedMeeting s minutes.meetingId = some meeting

def sharedWith (s : MinutesStore) (userId id : Nat) : Bool :=
  s.shares.any fun share => share.minutesId = id ∧ share.userId = userId

/-- The ground that only the page of a single record knows. -/
def OpenedByShare (s : MinutesStore) (userId id : Nat) (minutes : MeetingMinutes) : Prop :=
  (minutes.status = .published ∨ minutes.status = .archived) ∧ sharedWith s userId id = true

instance : Decidable (OpenedByShare s userId id minutes) := inferInstanceAs (Decidable ((_ ∨ _) ∧ _))

theorem access_iff (joined : joinedMeeting s minutes.meetingId = some meeting) :
    canAccessMinutes s userId id minutes (some meeting) false (isParticipant s minutes.meetingId userId) =
      .ok true ↔ visibilityScope s userId minutes = true ∨ OpenedByShare s userId id minutes := by
  unfold canAccessMinutes visibilityScope OpenedByShare sharedWith
  rw [joined]
  generalize isParticipant s minutes.meetingId userId = participant
  generalize (s.shares.any fun share => decide (share.minutesId = id ∧ share.userId = userId)) = shared
  cases minutes.status with
  | draft => cases participant <;> simp [pure, Except.pure]
  | published =>
    simp only [Bool.false_eq_true, if_false, expect, bind, Except.bind, Option.any_some]
    split
    · rename_i takes
      simpa [pure, Except.pure] using Or.inl takes
    · rename_i apart
      obtain ⟨other, absent⟩ := not_or.mp apart
      simp [pure, Except.pure, other, absent]
  | archived =>
    simp only [Bool.false_eq_true, if_false, expect, bind, Except.bind, Option.any_some]
    split
    · rename_i takes
      simpa [pure, Except.pure] using Or.inl takes
    · rename_i apart
      obtain ⟨other, absent⟩ := not_or.mp apart
      simp [pure, Except.pure, other, absent]
  | deleted => simp [pure, Except.pure]

theorem opens_iff (plain : isAdmin s userId = false) : Opens s userId id ↔
    ∃ minutes meeting, Present s id minutes meeting ∧
      (visibilityScope s userId minutes = true ∨ OpenedByShare s userId id minutes) := by
  simp only [Opens, findMinutesDetail, bind_eq_ok, expect_eq_ok, require_eq_ok, pure_eq_ok, plain]
  constructor
  · rintro ⟨_, minutes, found, allowed, passed, _, rfl, meeting, joined, -⟩
    obtain ⟨there, kept⟩ := Option.filter_eq_some_iff.mp found
    rw [joined] at passed
    exact ⟨minutes, meeting, ⟨get?_eq_some.mp there, Option.isNone_iff_eq_none.mp kept, joined⟩,
      (access_iff joined).mp passed⟩
  · rintro ⟨minutes, meeting, ⟨row, kept, joined⟩, grounds⟩
    refine ⟨_, minutes, ?_, true, ?_, (), rfl, meeting, joined, rfl⟩
    · exact Option.filter_eq_some_iff.mpr ⟨get?_eq_some.mpr row, Option.isNone_iff_eq_none.mpr kept⟩
    · rw [joined]
      exact (access_iff joined).mpr grounds

theorem scope_without_meeting (joined : joinedMeeting s minutes.meetingId = none) :
    visibilityScope s userId minutes = true ↔ minutes.status = .draft ∧ minutes.preparedBy = some userId := by
  simp [visibilityScope, joined]

end Grounds

section Lists
variable {s : MinutesStore} {userId : Nat}

theorem on_a_page {α : Type} (rows : List α) {n : Nat} (pos : 0 < n) {x : α} : x ∈ rows ↔
    ∃ page, x ∈ (rows.drop ((max 1 page - 1) * n)).take n := by
  constructor
  · intro there
    obtain ⟨i, short, rfl⟩ := List.mem_iff_getElem.mp there
    refine ⟨i / n + 1, List.mem_take_iff_getElem.mpr ⟨i % n, ?_, ?_⟩⟩
    · have within : i % n < n := Nat.mod_lt i pos
      have parts : n * (i / n) + i % n = i := Nat.div_add_mod i n
      rw [List.length_drop, Nat.max_eq_right (Nat.le_add_left 1 _), Nat.add_sub_cancel, Nat.mul_comm]
      omega
    · have parts : (i / n + 1 - 1) * n + i % n = i := by
        rw [Nat.add_sub_cancel, Nat.mul_comm]
        exact Nat.div_add_mod i n
      rw [List.getElem_drop]
      simp only [Nat.max_eq_right (Nat.le_add_left 1 (i / n)), parts]
  · rintro ⟨page, there⟩
    exact List.mem_of_mem_drop (List.mem_of_mem_take there)

theorem effectiveLimit_pos (dto : MinutesQueryDto) : 0 < dto.effectiveLimit := by
  unfold MinutesQueryDto.effectiveLimit listMaxLimit
  omega

theorem mem_selectMinutes (plain : isAdmin s userId = false) {p : MeetingMinutes → Bool}
    {r : Nat × MeetingMinutes} : r ∈ selectMinutes s userId p ↔ r ∈ s.minutes.rows ∧
      r.2.deletedAt = none ∧ visibilityScope s userId r.2 = true ∧ p r.2 = true := by
  rw [selectMinutes, mem_select, decide_eq_true_eq, plain, Option.isNone_iff_eq_none]
  simp only [Bool.false_eq_true, false_or]

theorem build_ok {r : Nat × MeetingMinutes} {item : MinutesListItem} :
    buildMinutesListItem s r = .ok item ↔
      ∃ meeting, joinedMeeting s r.2.meetingId = some meeting ∧ item = ⟨r.1, r.2, meeting⟩ := by
  simp only [buildMinutesListItem, bind_eq_ok, expect_eq_ok, pure_eq_ok]
  exact exists_congr fun meeting => and_congr_right fun _ => eq_comm

def unfiltered (limit : Option Nat) (sortBy : MinutesSort) (ascending : Bool) (page : Nat) :
    MinutesQueryDto where
  page := some page
  limit := limit
  sortBy := sortBy
  ascending := ascending

variable {limit : Option Nat} {sortBy : MinutesSort} {ascending : Bool}

theorem findMinutesList_ok {dto : MinutesQueryDto} {result : MinutesListResult} :
    findMinutesList s userId dto = .ok result ↔
      ∃ items, (pageRows s userId dto).mapM (buildMinutesListItem s) = .ok items ∧ result =
        ⟨items, (selectMinutes s userId fun minutes => matchesFilters s dto minutes).length,
          dto.effectivePage, dto.effectiveLimit⟩ := by
  rw [findMinutesList]
  cases (pageRows s userId dto).mapM (buildMinutesListItem s) with
  | error e => simp
  | ok items => simp [eq_comm]

theorem mem_pages (limit : Option Nat) (sortBy : MinutesSort) (ascending : Bool)
    (plain : isAdmin s userId = false) {r : Nat × MeetingMinutes} :
    (∃ page, r ∈ pageRows s userId (unfiltered limit sortBy ascending page)) ↔
      r ∈ s.minutes.rows ∧ r.2.deletedAt = none ∧ visibilityScope s userId r.2 = true := by
  have pos : 0 < (unfiltered limit sortBy ascending 0).effectiveLimit := effectiveLimit_pos _
  have all : ∀ minutes, matchesFilters s (unfiltered limit sortBy ascending 0) minutes = true := by
    intro minutes
    simp [matchesFilters, unfiltered]
  have covered := on_a_page (x := r) (sortRows s (unfiltered limit sortBy ascending 0)
    (selectMinutes s userId fun minutes => matchesFilters s (unfiltered limit sortBy ascending 0) minutes)) pos
  have sorted : r ∈ sortRows s (unfiltered limit sortBy ascending 0) (selectMinutes s userId fun minutes =>
      matchesFilters s (unfiltered limit sortBy ascending 0) minutes) ↔
      r ∈ s.minutes.rows ∧ r.2.deletedAt = none ∧ visibilityScope s userId r.2 = true := by
    rw [sortRows, List.mem_insertionSort, mem_selectMinutes plain, and_iff_left (all r.2)]
  exact covered.symm.trans sorted

/-- All pages are answered, and together they hold what can be opened. -/
def ListAgrees (s : MinutesStore) (userId : Nat) (limit : Option Nat) (sortBy : MinutesSort)
    (ascending : Bool) : Prop :=
  (∀ page, ∃ result, findMinutesList s userId (unfiltered limit sortBy ascending page) = .ok result) ∧
  ∀ id, (∃ page result, findMinutesList s userId (unfiltered limit sortBy ascending page) = .ok result ∧
    id ∈ result.items.map MinutesListItem.id) ↔ Opens s userId id

/-- No record is known to the user by a share alone. -/
def SharesKnown (s : MinutesStore) (userId : Nat) : Prop :=
  ∀ r ∈ s.minutes.rows, r.2.deletedAt = none → (joinedMeeting s r.2.meetingId).isSome = true →
    OpenedByShare s userId r.1 r.2 → visibilityScope s userId r.2 = true

instance (s : MinutesStore) (userId : Nat) : Decidable (SharesKnown s userId) :=
  inferInstanceAs (Decidable (∀ r ∈ s.minutes.rows, _ → _ → _ → _))

/-- No draft of the user has lost its meeting. -/
def DraftsJoined (s : MinutesStore) (userId : Nat) : Prop :=
  ∀ r ∈ s.minutes.rows, r.2.deletedAt = none → r.2.status = .draft → r.2.preparedBy = some userId →
    (joinedMeeting s r.2.meetingId).isSome = true

instance (s : MinutesStore) (userId : Nat) : Decidable (DraftsJoined s userId) :=
  inferInstanceAs (Decidable (∀ r ∈ s.minutes.rows, _ → _ → _ → _))

theorem pages_answered_iff (plain : isAdmin s userId = false) :
    (∀ page, ∃ result, findMinutesList s userId (unfiltered limit sortBy ascending page) = .ok result) ↔
      DraftsJoined s userId := by
  have answered : ∀ page,
      (∃ result, findMinutesList s userId (unfiltered limit sortBy ascending page) = .ok result) ↔
        ∀ r ∈ pageRows s userId (unfiltered limit sortBy ascending page),
          (joinedMeeting s r.2.meetingId).isSome = true := by
    intro page
    simp only [findMinutesList_ok]
    rw [← exists_comm]
    simp only [exists_and_left, exists_eq, and_true, exists_mapM, build_ok, Option.isSome_iff_exists]
    refine forall₂_congr fun r _ => ?_
    rw [exists_comm]
    simp only [exists_and_left, exists_eq, and_true]
  simp only [answered]
  constructor
  · intro joined r there kept draft own
    by_contra lost
    have absent : joinedMeeting s r.2.meetingId = none := Option.not_isSome_iff_eq_none.mp lost
    obtain ⟨page, listed⟩ := (mem_pages limit sortBy ascending plain).mpr
      ⟨there, kept, (scope_without_meeting absent).mpr ⟨draft, own⟩⟩
    exact lost (joined page r listed)
  · intro joined page r listed
    obtain ⟨there, kept, scope⟩ := (mem_pages limit sortBy ascending plain).mp ⟨page, listed⟩
    by_contra lost
    have absent : joinedMeeting s r.2.meetingId = none := Option.not_isSome_iff_eq_none.mp lost
    obtain ⟨draft, own⟩ := (scope_without_meeting absent).mp scope
    exact lost (joined r there kept draft own)

theorem listed_iff (plain : isAdmin s userId = false) (joined : DraftsJoined s userId) {id : Nat} :
    (∃ page result, findMinutesList s userId (unfiltered limit sortBy ascending page) = .ok result ∧
      id ∈ result.items.map MinutesListItem.id) ↔ ∃ minutes, (id, minutes) ∈ s.minutes.rows ∧
        minutes.deletedAt = none ∧ visibilityScope s userId minutes = true := by
  constructor
  · rintro ⟨page, result, answered, listed⟩
    obtain ⟨items, built, rfl⟩ := findMinutesList_ok.mp answered
    obtain ⟨item, there, rfl⟩ := List.mem_map.mp listed
    obtain ⟨r, on_page, one⟩ := (mem_mapM built).mp there
    obtain ⟨meeting, -, rfl⟩ := build_ok.mp one
    exact ⟨r.2, (mem_pages limit sortBy ascending plain).mp ⟨page, on_page⟩⟩
  · rintro ⟨minutes, visible⟩
    obtain ⟨page, on_page⟩ := (mem_pages limit sortBy ascending plain).mpr visible
    obtain ⟨result, answered⟩ := (pages_answered_iff plain).mpr joined page
    obtain ⟨items, built, rfl⟩ := findMinutesList_ok.mp answered
    obtain ⟨item, one⟩ := exists_mapM.mp ⟨items, built⟩ _ on_page
    have there : item ∈ items := (mem_mapM built).mpr ⟨_, on_page, one⟩
    obtain ⟨meeting, -, rfl⟩ := build_ok.mp one
    exact ⟨page, _, answered, List.mem_map_of_mem there⟩

theorem list_agrees_iff (plain : isAdmin s userId = false) :
    ListAgrees s userId limit sortBy ascending ↔ DraftsJoined s userId ∧ SharesKnown s userId := by
  rw [ListAgrees, pages_answered_iff plain]
  refine and_congr_right fun joined => ?_
  simp only [listed_iff plain joined, opens_iff plain]
  constructor
  · intro same r there kept is_joined shared
    obtain ⟨meeting, found⟩ := Option.isSome_iff_exists.mp is_joined
    obtain ⟨minutes, row, -, scope⟩ := (same r.1).mpr ⟨r.2, meeting, ⟨there, kept, found⟩, Or.inr shared⟩
    rw [key_unique s.minutes there row]
    exact scope
  · intro known id
    constructor
    · rintro ⟨minutes, row, kept, scope⟩
      cases found : joinedMeeting s minutes.meetingId with
      | none =>
        obtain ⟨draft, own⟩ := (scope_without_meeting found).mp scope
        have is_joined := joined _ row kept draft own
        rw [found] at is_joined
        cases is_joined
      | some meeting => exact ⟨minutes, meeting, ⟨row, kept, found⟩, Or.inl scope⟩
    · rintro ⟨minutes, meeting, ⟨row, kept, found⟩, scope | shared⟩
      · exact ⟨minutes, row, kept, scope⟩
      · have is_joined : (joinedMeeting s minutes.meetingId).isSome = true := by rw [found]; rfl
        exact ⟨minutes, row, kept, known _ row kept is_joined shared⟩

end Lists

section Comparison
variable {s : MinutesStore} {userId meetingId id : Nat}

def Compared (s : MinutesStore) (userId meetingId id : Nat) : Prop :=
  ∃ found, compareMinutes s userId meetingId = .ok found ∧
    ∃ item, (found.1 = some item ∨ found.2 = some item) ∧ item.id = id

def CompareAgrees (s : MinutesStore) (userId : Nat) : Prop :=
  ∀ meetingId id, Compared s userId meetingId id ↔ Opens s userId id ∧
    ∃ minutes, (id, minutes) ∈ s.minutes.rows ∧ minutes.meetingId = meetingId

theorem getLast?_of_only {α : Type} {l : List α} {x : α} (there : x ∈ l) (only : ∀ y ∈ l, y = x) :
    l.getLast? = some x := by
  rw [List.getLast?_eq_some_getLast (List.ne_nil_of_mem there)]
  exact congrArg some (only _ (List.getLast_mem _))

theorem mem_comparedRows (plain : isAdmin s userId = false) {r : Nat × MeetingMinutes} :
    r ∈ selectMinutes s userId (fun minutes => minutes.meetingId = meetingId) ↔ r ∈ s.minutes.rows ∧
      r.2.deletedAt = none ∧ visibilityScope s userId r.2 = true ∧ r.2.meetingId = meetingId := by
  rw [mem_selectMinutes plain, decide_eq_true_eq]

theorem compared_items (plain : isAdmin s userId = false) {meeting : Meeting}
    (joined : joinedMeeting s meetingId = some meeting) : ∃ items,
      (selectMinutes s userId fun minutes => minutes.meetingId = meetingId).mapM
        (buildMinutesListItem s) = .ok items ∧
      ∀ item, item ∈ items ↔ ((item.id, item.minutes) ∈ s.minutes.rows ∧ item.minutes.deletedAt = none ∧
        visibilityScope s userId item.minutes = true ∧ item.minutes.meetingId = meetingId) ∧
          item.meeting = meeting := by
  obtain ⟨items, built⟩ : ∃ items, (selectMinutes s userId fun minutes => minutes.meetingId = meetingId).mapM
      (buildMinutesListItem s) = .ok items := by
    refine exists_mapM.mpr ?_
    intro r there
    obtain ⟨-, -, -, same⟩ := (mem_comparedRows plain).mp there
    exact ⟨_, build_ok.mpr ⟨meeting, same ▸ joined, rfl⟩⟩
  refine ⟨items, built, ?_⟩
  intro item
  rw [mem_mapM built]
  constructor
  · rintro ⟨r, there, one⟩
    obtain ⟨m, found, rfl⟩ := build_ok.mp one
    have row := (mem_comparedRows plain).mp there
    rw [row.2.2.2, joined] at found
    exact ⟨row, (Option.some.inj found).symm⟩
  · rintro ⟨row, rfl⟩
    refine ⟨(item.id, item.minutes), (mem_comparedRows plain).mpr row, build_ok.mpr ⟨item.meeting, ?_, rfl⟩⟩
    rw [row.2.2.2]
    exact joined

theorem compared_iff (plain : isAdmin s userId = false) (one : OneActive s.minutes) {meeting : Meeting}
    (joined : joinedMeeting s meetingId = some meeting) : Compared s userId meetingId id ↔
      ∃ minutes, (id, minutes) ∈ s.minutes.rows ∧ minutes.deletedAt = none ∧
        visibilityScope s userId minutes = true ∧ minutes.meetingId = meetingId := by
  obtain ⟨items, built, in_items⟩ := compared_items plain joined
  have compared : compareMinutes s userId meetingId =
      .ok ((items.filter fun item => item.minutes.source = .manual).getLast?,
        (items.filter fun item => item.minutes.source = .ai).getLast?) := by
    simp only [compareMinutes, bind_eq_ok, expect_eq_ok, pure_eq_ok]
    exact ⟨meeting, joined, items, built, rfl⟩
  have shown : ∀ source, ∀ item ∈ items, item.minutes.source = source →
      (items.filter fun item => item.minutes.source = source).getLast? = some item := by
    intro source item there same
    refine getLast?_of_only (List.mem_filter.mpr ⟨there, decide_eq_true same⟩) ?_
    intro other listed
    obtain ⟨there', same'⟩ := List.mem_filter.mp listed
    obtain ⟨⟨row, kept, -, own⟩, meets⟩ := (in_items item).mp there
    obtain ⟨⟨row', kept', -, own'⟩, meets'⟩ := (in_items other).mp there'
    have equal := one _ row' _ row kept' kept (own'.trans own.symm)
      ((of_decide_eq_true same').trans same.symm)
    obtain ⟨ids, minutes⟩ := Prod.mk.inj equal
    exact MinutesListItem.ext ids minutes (meets'.trans meets.symm)
  rw [Compared, compared]
  constructor
  · rintro ⟨_, same, item, found, rfl⟩
    cases same
    have there : item ∈ items := by
      rcases found with manual | ai
      · exact (List.mem_filter.mp (List.mem_of_getLast? manual)).1
      · exact (List.mem_filter.mp (List.mem_of_getLast? ai)).1
    exact ⟨item.minutes, ((in_items item).mp there).1⟩
  · rintro ⟨minutes, visible⟩
    have there : (⟨id, minutes, meeting⟩ : MinutesListItem) ∈ items := (in_items _).mpr ⟨visible, rfl⟩
    refine ⟨_, rfl, ⟨id, minutes, meeting⟩, ?_, rfl⟩
    cases source : minutes.source with
    | manual => exact Or.inl (shown .manual _ there source)
    | ai => exact Or.inr (shown .ai _ there source)

theorem compare_agrees_iff (plain : isAdmin s userId = false) (one : OneActive s.minutes) :
    CompareAgrees s userId ↔ SharesKnown s userId := by
  simp only [CompareAgrees, opens_iff plain]
  constructor
  · intro same r there kept is_joined shared
    obtain ⟨meeting, joined⟩ := Option.isSome_iff_exists.mp is_joined
    have opened := (same r.2.meetingId r.1).mpr
      ⟨⟨r.2, meeting, ⟨there, kept, joined⟩, Or.inr shared⟩, r.2, there, rfl⟩
    obtain ⟨minutes, row, -, scope, -⟩ := (compared_iff plain one joined).mp opened
    rw [key_unique s.minutes there row]
    exact scope
  · intro known meetingId id
    cases joined : joinedMeeting s meetingId with
    | none =>
      constructor
      · rintro ⟨found, compared, -⟩
        simp only [compareMinutes, bind_eq_ok, expect_eq_ok, joined] at compared
        obtain ⟨_, never, -⟩ := compared
        cases never
      · rintro ⟨⟨minutes, meeting, ⟨row, -, found⟩, -⟩, minutes', row', rfl⟩
        rw [key_unique s.minutes row row', joined] at found
        cases found
    | some meeting =>
      rw [compared_iff plain one joined]
      constructor
      · rintro ⟨minutes, row, kept, scope, rfl⟩
        exact ⟨⟨minutes, meeting, ⟨row, kept, joined⟩, Or.inl scope⟩, minutes, row, rfl⟩
      · rintro ⟨⟨minutes, m, ⟨row, kept, found⟩, grounds⟩, minutes', row', rfl⟩
        obtain rfl := key_unique s.minutes row row'
        refine ⟨minutes, row, kept, ?_, rfl⟩
        rcases grounds with scope | shared
        · exact scope
        · exact known _ row kept (by rw [found]; rfl) shared

/-- The list, the comparison and the single pages agree for a user who is no administrator exactly if
    no share is the only ground, and no own draft has lost its meeting. -/
theorem minutes_agree_iff (s : ValidStore) (userId : Nat) (plain : isAdmin s.toMinutesStore userId = false)
    (limit : Option Nat) (sortBy : MinutesSort) (ascending : Bool) :
    (ListAgrees s.toMinutesStore userId limit sortBy ascending ∧ CompareAgrees s.toMinutesStore userId) ↔
      DraftsJoined s.toMinutesStore userId ∧ SharesKnown s.toMinutesStore userId := by
  rw [list_agrees_iff plain, compare_agrees_iff plain s.oneActive]
  exact and_iff_left_of_imp And.right

def weeklyMeeting : Meeting where
  title := "Weekly"
  organizerId := 1
  hostId := some 1
  roomId := none
  status := .completed
  startTime := 0
  actualStartTime := some 0
  deletedAt := none

def weeklyMinutes : MeetingMinutes where
  meetingId := 0
  title := "Weekly"
  versionNo := 1
  status := .published
  isLiveShared := false
  source := .manual
  minutesContent := "Done."
  attendeesSnapshotJson := none
  decisionsJson := none
  actionItemsJson := none
  aiSummaryJson := none
  linkedTranscriptId := none
  linkedRecordingFileId := none
  issuedBy := some 1
  issuedAt := some 10
  preparedBy := some 1
  createdAt := 5
  deletedAt := none

/-- The published minutes of a meeting of users 1 and 2, which are shared with one user. -/
def sharedMinutes (userId : Nat) : ValidStore where
  meetings := Table.empty.insert weeklyMeeting
  participants := [⟨0, 2, .attendee, .present, none, none⟩]
  minutes := Table.empty.insert weeklyMinutes
  shares := [⟨0, userId, 20⟩]
  effectiveRoles _ := ["EMPLOYEE"]
  oneActive := by
    intro r there q there' _ _ _ _
    rcases mem_insert.mp there with old | rfl
    · cases old
    · rcases mem_insert.mp there' with old | rfl
      · cases old
      · rfl

theorem shared_with_participant_agrees :
    ListAgrees (sharedMinutes 2).toMinutesStore 2 none .actualStartTime false ∧
      CompareAgrees (sharedMinutes 2).toMinutesStore 2 :=
  (minutes_agree_iff (sharedMinutes 2) 2 (by decide) none .actualStartTime false).mpr
    ⟨by decide, by decide⟩

theorem shared_minutes_unlisted :
    Opens (sharedMinutes 3).toMinutesStore 3 0 ∧
      findMinutesList (sharedMinutes 3).toMinutesStore 3 (unfiltered none .actualStartTime false 1) =
        .ok ⟨[], 0, 1, 20⟩ ∧
      ¬ ∀ (s : ValidStore) (userId : Nat), isAdmin s.toMinutesStore userId = false →
        ListAgrees s.toMinutesStore userId none .actualStartTime false ∧
          CompareAgrees s.toMinutesStore userId := by
  refine ⟨?_, by decide, ?_⟩
  · exact ⟨_, rfl⟩
  · intro claimed
    obtain ⟨-, compared⟩ := claimed (sharedMinutes 3) 3 (by decide)
    have opened : Opens (sharedMinutes 3).toMinutesStore 3 0 := ⟨_, rfl⟩
    obtain ⟨found, done, item, shown, -⟩ := (compared 0 0).mpr ⟨opened, weeklyMinutes, by decide, rfl⟩
    have nothing : compareMinutes (sharedMinutes 3).toMinutesStore 3 0 = .ok (none, none) := by decide
    cases done.symm.trans nothing
    rcases shown with never | never
    · cases never
    · cases never

end Comparison

end Minutes
