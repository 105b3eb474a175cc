import MeetingPlatform.Scheduling.Agreement

/- Which instants the windows of a search hold. Merging keeps the union of the busy time, the
   complement takes it out of the range and the intersection loses nothing common. -/
namespace Scheduling
open KeyedTable MeetingBooking Guards

def Interval.Contains (iv : Interval) (t : Int) : Prop := iv.start ≤ t ∧ t < iv.stop

/-- Some interval holds the instant. -/
def Holds (intervals : List Interval) (t : Int) : Prop := ∃ iv ∈ intervals, iv.Contains t

/-- In order, apart and not empty, as a sweep leaves its windows. -/
structure Laid (intervals : List Interval) : Prop where
  long : ∀ iv ∈ intervals, iv.start < iv.stop
  apart : intervals.Pairwise fun a b => a.stop ≤ b.start

section Holding
variable {intervals as bs : List Interval} {a b iv current : Interval} {t cursor rangeEnd : Int}

@[simp] theorem holds_nil : ¬ Holds [] t := by
  simp [Holds]

@[simp] theorem holds_cons : Holds (iv :: intervals) t ↔ iv.Contains t ∨ Holds intervals t := by
  simp [Holds]

theorem holds_append : Holds (as ++ bs) t ↔ Holds as t ∨ Holds bs t := by
  simp [Holds, or_and_right, exists_or]

theorem laid_ascending (laid : Laid intervals) : Ascending intervals := by
  refine laid.apart.imp_of_mem ?_
  intro a b ha _ order
  have long := laid.long a ha
  omega

theorem mergeFrom_holds (ascending : Ascending (current :: intervals)) :
    Holds (mergeFrom current intervals) t ↔ Holds (current :: intervals) t := by
  induction intervals generalizing current with
  | nil => rfl
  | cons next rest ih =>
    obtain ⟨first, tail⟩ := List.pairwise_cons.mp ascending
    have here := first next List.mem_cons_self
    unfold mergeFrom
    split
    · rename_i meets
      have grown : Ascending ((if current.stop < next.stop then { current with stop := next.stop }
          else current : Interval) :: rest) := by
        refine List.pairwise_cons.mpr ⟨?_, (List.pairwise_cons.mp tail).2⟩
        intro iv hiv
        have later := first iv (List.mem_cons_of_mem _ hiv)
        split <;> exact later
      rw [ih grown, holds_cons, holds_cons, holds_cons, ← or_assoc]
      apply or_congr_left
      unfold Interval.Contains
      split
      · simp only
        omega
      · omega
    · rw [holds_cons, ih tail]
      exact holds_cons.symm

theorem mergeFrom_laid (ascending : Ascending (current :: intervals))
    (long : ∀ iv ∈ current :: intervals, iv.start < iv.stop) :
    Laid (mergeFrom current intervals) := by
  induction intervals generalizing current with
  | nil => exact ⟨long, List.pairwise_singleton _ _⟩
  | cons next rest ih =>
    obtain ⟨first, tail⟩ := List.pairwise_cons.mp ascending
    obtain ⟨current_long, later_long⟩ := List.forall_mem_cons.mp long
    obtain ⟨next_long, rest_long⟩ := List.forall_mem_cons.mp later_long
    unfold mergeFrom
    split
    · apply ih
      · refine List.pairwise_cons.mpr ⟨?_, (List.pairwise_cons.mp tail).2⟩
        intro iv hiv
        have later := first iv (List.mem_cons_of_mem _ hiv)
        split <;> exact later
      · refine List.forall_mem_cons.mpr ⟨?_, rest_long⟩
        split
        · simp only
          omega
        · exact current_long
    · rename_i gap
      have later := ih tail later_long
      constructor
      · exact List.forall_mem_cons.mpr ⟨current_long, later.long⟩
      · refine List.pairwise_cons.mpr ⟨?_, later.apart⟩
        intro m hm
        rcases mergeFrom_start m hm with same | ⟨iv, hiv, same⟩
        · omega
        · have order := (List.pairwise_cons.mp tail).1 iv hiv
          omega

theorem mergeIntervals_holds (ascending : Ascending intervals) :
    Holds (mergeIntervals intervals) t ↔ Holds intervals t := by
  cases intervals with
  | nil => rfl
  | cons first rest => exact mergeFrom_holds ascending

theorem mergeIntervals_laid (ascending : Ascending intervals)
    (long : ∀ iv ∈ intervals, iv.start < iv.stop) : Laid (mergeIntervals intervals) := by
  cases intervals with
  | nil => exact ⟨by simp [mergeIntervals], List.Pairwise.nil⟩
  | cons first rest => exact mergeFrom_laid ascending long

theorem complementFrom_holds (ascending : Ascending intervals)
    (early : ∀ iv ∈ intervals, iv.start ≤ rangeEnd) :
    Holds (complementFrom rangeEnd cursor intervals) t ↔
      cursor ≤ t ∧ t < rangeEnd ∧ ¬ Holds intervals t := by
  induction intervals generalizing cursor with
  | nil =>
    unfold complementFrom
    split
    · simp [Interval.Contains]
    · simp only [holds_nil, not_false_eq_true, and_true, false_iff]
      omega
  | cons b busy ih =>
    obtain ⟨first, tail⟩ := List.pairwise_cons.mp ascending
    obtain ⟨here, later⟩ := List.forall_mem_cons.mp early
    have before : Holds (if cursor < b.start then [⟨cursor, b.start⟩] else []) t ↔
        cursor ≤ t ∧ t < b.start := by
      split
      · simp [Interval.Contains]
      · simp only [holds_nil, false_iff]
        omega
    have after : (if cursor < b.stop then b.stop else cursor) ≤ t ↔ cursor ≤ t ∧ b.stop ≤ t := by
      split <;> omega
    have not_yet : t < b.start → ¬ Holds busy t := by
      intro soon held
      obtain ⟨iv, hiv, begun, -⟩ := held
      have order := first iv hiv
      omega
    rw [complementFrom, holds_append, before, ih tail later, after, holds_cons, not_or,
      Interval.Contains]
    constructor
    · intro h
      rcases h with ⟨since, soon⟩ | ⟨⟨since, past⟩, in_range, free⟩
      · exact ⟨since, by omega, by omega, not_yet soon⟩
      · exact ⟨since, in_range, by omega, free⟩
    · intro h
      obtain ⟨since, in_range, beside, free⟩ := h
      by_cases soon : t < b.start
      · exact Or.inl ⟨since, soon⟩
      · exact Or.inr ⟨⟨since, by omega⟩, in_range, free⟩

theorem complementFrom_laid (laid : Laid intervals) : Laid (complementFrom rangeEnd cursor intervals) := by
  induction intervals generalizing cursor with
  | nil =>
    unfold complementFrom
    split
    · rename_i room
      exact ⟨by simpa using room, List.pairwise_singleton _ _⟩
    · exact ⟨by simp, List.Pairwise.nil⟩
  | cons b busy ih =>
    have tail : Laid busy :=
      ⟨(List.forall_mem_cons.mp laid.long).2, (List.pairwise_cons.mp laid.apart).2⟩
    have b_long := (List.forall_mem_cons.mp laid.long).1
    have later : Laid (complementFrom rangeEnd (if cursor < b.stop then b.stop else cursor) busy) :=
      ih tail
    unfold complementFrom
    split
    · rename_i room
      constructor
      · exact List.forall_mem_cons.mpr ⟨room, later.long⟩
      · refine List.pairwise_cons.mpr ⟨?_, later.apart⟩
        intro w hw
        have since := (complementFrom_beside (laid_ascending tail) w hw).1
        simp only
        split at since <;> omega
    · exact later

theorem intersection_holds : Holds (intersection a b) t ↔ a.Contains t ∧ b.Contains t := by
  have start : (if b.start < a.start then a.start else b.start) ≤ t ↔ a.start ≤ t ∧ b.start ≤ t := by
    split <;> omega
  have stop : t < (if a.stop < b.stop then a.stop else b.stop) ↔ t < a.stop ∧ t < b.stop := by
    split <;> omega
  have both : a.Contains t ∧ b.Contains t ↔
      (if b.start < a.start then a.start else b.start) ≤ t ∧
        t < if a.stop < b.stop then a.stop else b.stop := by
    rw [start, stop, Interval.Contains, Interval.Contains]
    omega
  rw [both]
  by_cases room : (if b.start < a.start then a.start else b.start) <
      if a.stop < b.stop then a.stop else b.stop
  · rw [intersection, if_pos room, holds_cons, or_iff_left holds_nil]
    rfl
  · rw [intersection, if_neg room]
    simp only [holds_nil, false_iff]
    intro h
    exact room (h.1.trans_lt h.2)

theorem intersectWith_holds {further : List Interval → List Interval}
    (rest : ∀ bs, Laid bs → (Holds (further bs) t ↔ Holds as t ∧ Holds bs t))
    (laid : Laid (a :: as)) (other : Laid bs) :
    Holds (intersectWith a further bs) t ↔ Holds (a :: as) t ∧ Holds bs t := by
  induction bs with
  | nil => simp [intersectWith]
  | cons b bs ih =>
    have tail : Laid bs :=
      ⟨(List.forall_mem_cons.mp other.long).2, (List.pairwise_cons.mp other.apart).2⟩
    have a_last : Holds as t → a.stop ≤ t := by
      intro held
      obtain ⟨iv, hiv, begun, -⟩ := held
      exact ((List.pairwise_cons.mp laid.apart).1 iv hiv).trans begun
    have b_last : Holds bs t → b.stop ≤ t := by
      intro held
      obtain ⟨iv, hiv, begun, -⟩ := held
      exact ((List.pairwise_cons.mp other.apart).1 iv hiv).trans begun
    have in_a : a.Contains t → t < a.stop := And.right
    have in_b : b.Contains t → t < b.stop := And.right
    unfold intersectWith
    rw [holds_append, intersection_holds]
    split
    · rename_i sooner
      have none_left : ¬ (a.Contains t ∧ Holds bs t) := by
        intro h
        have before := in_a h.1
        have past := b_last h.2
        omega
      rw [rest (b :: bs) other, holds_cons, holds_cons, or_and_right]
      apply or_congr_left
      rw [and_or_left]
      exact (or_iff_left none_left).symm
    · rename_i later
      have none_left : ¬ (Holds as t ∧ b.Contains t) := by
        intro h
        have past := a_last h.1
        have before := in_b h.2
        omega
      rw [ih tail, holds_cons, holds_cons, and_or_left]
      apply or_congr_left
      rw [or_and_right]
      exact (or_iff_left none_left).symm

theorem intersectTwo_holds (laid : Laid as) (other : Laid bs) :
    Holds (intersectTwo as bs) t ↔ Holds as t ∧ Holds bs t := by
  induction as generalizing bs with
  | nil => simp [intersectTwo]
  | cons a as ih =>
    have tail : Laid as :=
      ⟨(List.forall_mem_cons.mp laid.long).2, (List.pairwise_cons.mp laid.apart).2⟩
    exact intersectWith_holds (fun bs => ih tail) laid other

theorem intersection_long : ∀ w ∈ intersection a b, w.start < w.stop := by
  intro w hw
  by_cases room : (if b.start < a.start then a.start else b.start) <
      if a.stop < b.stop then a.stop else b.stop
  · rw [intersection, if_pos room] at hw
    rw [List.mem_singleton.mp hw]
    exact room
  · rw [intersection, if_neg room] at hw
    cases hw

theorem intersection_apart : (intersection a b).Pairwise fun v w => v.stop ≤ w.start := by
  by_cases room : (if b.start < a.start then a.start else b.start) <
      if a.stop < b.stop then a.stop else b.stop
  · rw [intersection, if_pos room]
    exact List.pairwise_singleton _ _
  · rw [intersection, if_neg room]
    exact List.Pairwise.nil

theorem laid_append (front : Laid as) (back : Laid bs)
    (order : ∀ v ∈ as, ∀ w ∈ bs, v.stop ≤ w.start) : Laid (as ++ bs) := by
  constructor
  · intro iv hiv
    rcases List.mem_append.mp hiv with early | late
    · exact front.long iv early
    · exact back.long iv late
  · exact List.pairwise_append.mpr ⟨front.apart, back.apart, order⟩

theorem intersectWith_laid {further : List Interval → List Interval}
    (rest : ∀ bs, Laid bs → Laid (further bs))
    (inside : ∀ bs, ∀ w ∈ further bs, (∃ a ∈ as, w.Within a) ∧ ∃ b ∈ bs, w.Within b)
    (laid : Laid (a :: as)) (other : Laid bs) : Laid (intersectWith a further bs) := by
  induction bs with
  | nil => exact ⟨by simp [intersectWith], List.Pairwise.nil⟩
  | cons b bs ih =>
    have tail : Laid bs :=
      ⟨(List.forall_mem_cons.mp other.long).2, (List.pairwise_cons.mp other.apart).2⟩
    unfold intersectWith
    split
    · refine laid_append ⟨intersection_long, intersection_apart⟩ (rest (b :: bs) other) ?_
      intro v hv w hw
      obtain ⟨in_a, -⟩ := intersection_within hv
      obtain ⟨⟨a', ha', in_a'⟩, -⟩ := inside (b :: bs) w hw
      have order := (List.pairwise_cons.mp laid.apart).1 a' ha'
      exact in_a.2.trans (order.trans in_a'.1)
    · refine laid_append ⟨intersection_long, intersection_apart⟩ (ih tail) ?_
      intro v hv w hw
      obtain ⟨-, in_b⟩ := intersection_within hv
      obtain ⟨-, b', hb', in_b'⟩ := intersectWith_within inside w hw
      have order := (List.pairwise_cons.mp other.apart).1 b' hb'
      exact in_b.2.trans (order.trans in_b'.1)

theorem intersectTwo_laid (laid : Laid as) (other : Laid bs) : Laid (intersectTwo as bs) := by
  induction as generalizing bs with
  | nil => exact ⟨by simp [intersectTwo], List.Pairwise.nil⟩
  | cons a as ih =>
    have tail : Laid as :=
      ⟨(List.forall_mem_cons.mp laid.long).2, (List.pairwise_cons.mp laid.apart).2⟩
    exact intersectWith_laid (fun bs => ih tail) (fun bs => intersectTwo_within) laid other

theorem foldl_intersectTwo_holds {sets : List (List Interval)} (laid : Laid as)
    (others : ∀ s ∈ sets, Laid s) :
    Holds (sets.foldl intersectTwo as) t ↔ Holds as t ∧ ∀ s ∈ sets, Holds s t := by
  induction sets generalizing as with
  | nil => simp
  | cons s sets ih =>
    obtain ⟨here, later⟩ := List.forall_mem_cons.mp others
    rw [List.foldl_cons, ih (intersectTwo_laid laid here) later, intersectTwo_holds laid here,
      List.forall_mem_cons, and_assoc]

theorem intersectAll_holds {sets : List (List Interval)} (some_set : sets ≠ [])
    (laid : ∀ s ∈ sets, Laid s) : Holds (intersectAll sets) t ↔ ∀ s ∈ sets, Holds s t := by
  cases sets with
  | nil => exact absurd rfl some_set
  | cons first others =>
    obtain ⟨here, later⟩ := List.forall_mem_cons.mp laid
    rw [intersectAll, foldl_intersectTwo_holds here later, List.forall_mem_cons]

end Holding

section Windows

/-- The rows of the query for several users, put together by user. -/
def rowsOf (rows : List (Nat × Interval)) (userId : Nat) : List Interval :=
  (rows.filter fun r => r.1 = userId).map Prod.snd

def requiredFreeWindows (rows : List (Nat × Interval)) (userIds : List Nat)
    (rangeStart rangeEnd : Int) : List Interval :=
  intersectAll (userIds.map fun userId =>
    complement (mergeIntervals (rowsOf rows userId)) rangeStart rangeEnd)

/-- Rows as the query orders and filters them. -/
structure BusyRows (rows : List (Nat × Interval)) (rangeStart rangeEnd : Int) : Prop where
  sorted : rows.Pairwise fun a b => a.1 = b.1 → a.2.start ≤ b.2.start
  long : ∀ r ∈ rows, r.2.start < r.2.stop
  meets : ∀ r ∈ rows, r.2.start < rangeEnd ∧ rangeStart < r.2.stop

variable {rows : List (Nat × Interval)} {userIds : List Nat} {rangeStart rangeEnd t : Int}

theorem mem_rowsOf {userId : Nat} {iv : Interval} : iv ∈ rowsOf rows userId ↔ (userId, iv) ∈ rows := by
  simp [rowsOf]

theorem rowsOf_ascending (busy : BusyRows rows rangeStart rangeEnd) (userId : Nat) :
    Ascending (rowsOf rows userId) := by
  rw [Ascending, rowsOf, List.pairwise_map]
  refine (busy.sorted.sublist List.filter_sublist).imp_of_mem ?_
  intro a b ha hb order
  have mine := (List.mem_filter.mp ha).2
  have mine' := (List.mem_filter.mp hb).2
  rw [decide_eq_true_eq] at mine mine'
  exact order (mine.trans mine'.symm)

theorem userWindows_holds (busy : BusyRows rows rangeStart rangeEnd) (userId : Nat) :
    Holds (complement (mergeIntervals (rowsOf rows userId)) rangeStart rangeEnd) t ↔
      rangeStart ≤ t ∧ t < rangeEnd ∧ ¬ Holds (rowsOf rows userId) t := by
  have ascending := rowsOf_ascending busy userId
  rw [complement, complementFrom_holds (mergeIntervals_ascending ascending),
    mergeIntervals_holds ascending]
  intro m hm
  obtain ⟨iv, hiv, same⟩ := mergeIntervals_start m hm
  have meets := (busy.meets _ (mem_rowsOf.mp hiv)).1
  rw [same]
  exact meets.le

theorem userWindows_laid (busy : BusyRows rows rangeStart rangeEnd) (userId : Nat) :
    Laid (complement (mergeIntervals (rowsOf rows userId)) rangeStart rangeEnd) := by
  apply complementFrom_laid
  apply mergeIntervals_laid (rowsOf_ascending busy userId)
  intro iv hiv
  exact busy.long _ (mem_rowsOf.mp hiv)

theorem requiredFreeWindows_holds (busy : BusyRows rows rangeStart rangeEnd)
    (some_user : userIds ≠ []) :
    Holds (requiredFreeWindows rows userIds rangeStart rangeEnd) t ↔
      rangeStart ≤ t ∧ t < rangeEnd ∧ ∀ userId ∈ userIds, ¬ Holds (rowsOf rows userId) t := by
  rw [requiredFreeWindows, intersectAll_holds (by simpa using some_user)]
  · simp only [List.forall_mem_map, userWindows_holds busy]
    constructor
    · intro free
      obtain ⟨userId, there⟩ := List.exists_mem_of_ne_nil _ some_user
      obtain ⟨since, until_end, -⟩ := free userId there
      exact ⟨since, until_end, fun userId there => (free userId there).2.2⟩
    · intro h userId there
      exact ⟨h.1, h.2.1, h.2.2 userId there⟩
  · rw [List.forall_mem_map]
    intro userId _
    exact userWindows_laid busy userId

/-- A slot that lies in the range, takes as long as asked and meets no busy row of a
    required user. -/
structure SoundSlot (rows : List (Nat × Interval)) (userIds : List Nat)
    (rangeStart rangeEnd durationMs : Int) (slot : Interval) : Prop where
  in_range : slot.Within ⟨rangeStart, rangeEnd⟩
  lasts : slot.stop - slot.start = durationMs
  free : ∀ userId ∈ userIds, ∀ iv ∈ rowsOf rows userId, slot.Beside iv

theorem windowSlots_lasts {durationMs : Int} {window slot : Interval}
    (there : slot ∈ windowSlots durationMs window) : slot.stop - slot.start = durationMs := by
  unfold windowSlots at there
  split at there
  · cases there
  · obtain ⟨k, -, rfl⟩ := List.mem_map.mp there
    simp only
    omega

theorem candidate_sound (busy : BusyRows rows rangeStart rangeEnd) (some_user : userIds ≠ [])
    {durationMs : Int} (positive : 0 < durationMs) {slot : Interval}
    (there : slot ∈ candidates durationMs (requiredFreeWindows rows userIds rangeStart rangeEnd)) :
    SoundSlot rows userIds rangeStart rangeEnd durationMs slot := by
  obtain ⟨window, common, cut⟩ := List.mem_flatMap.mp (List.mem_of_mem_take there)
  obtain ⟨inner, long⟩ := windowSlots_within positive cut
  have lies : ∀ t, slot.start ≤ t → t < slot.stop →
      rangeStart ≤ t ∧ t < rangeEnd ∧ ∀ userId ∈ userIds, ¬ Holds (rowsOf rows userId) t := by
    intro t since until_end
    have held : Holds (requiredFreeWindows rows userIds rangeStart rangeEnd) t :=
      ⟨window, common, inner.1.trans since, until_end.trans_le inner.2⟩
    exact (requiredFreeWindows_holds busy some_user).mp held
  constructor
  · have first := lies slot.start (Int.le_refl _) long
    have last := lies (slot.stop - 1) (by omega) (by omega)
    constructor
    · exact first.1
    · simp only
      omega
  · exact windowSlots_lasts cut
  · intro userId required iv hiv
    have iv_long := busy.long _ (mem_rowsOf.mp hiv)
    by_contra meets
    unfold Interval.Beside at meets
    have instant := (lies (max slot.start iv.start) (by omega) (by omega)).2.2 userId required
    simp only at iv_long
    exact instant ⟨iv, hiv, by omega, by omega⟩

end Windows

section Response
variable {percent : Nat → Nat → Int} {db : Database} {now : Int} {dto : SuggestTimeSlotDto}
  {currentUserId : Nat} {response : TimeSuggestionResponse} {rangeStart rangeEnd : Int}
  {excludeMeetingId : Option Nat} {userIds : List Nat}

/-- The rows of the one query for all users. -/
def Database.busyQuery (db : Database) (userIds : List Nat) (rangeStart rangeEnd : Int)
    (excludeMeetingId : Option Nat) : List (Nat × Interval) :=
  userIds.flatMap fun userId =>
    (orderByStart (db.busyRows countsAsBusy userId rangeStart rangeEnd excludeMeetingId)).map
      fun iv => (userId, iv)

def internalUsers (dto : SuggestTimeSlotDto) (currentUserId : Nat) : List Nat :=
  (requiredUsers dto currentUserId ++ (dto.optionalParticipantUserIds.getD []).eraseDups).eraseDups

theorem rowsOf_append (front back : List (Nat × Interval)) (userId : Nat) :
    rowsOf (front ++ back) userId = rowsOf front userId ++ rowsOf back userId := by
  simp [rowsOf]

theorem rowsOf_own (intervals : List Interval) (userId : Nat) :
    rowsOf (intervals.map fun iv => (userId, iv)) userId = intervals := by
  simp [rowsOf, List.filter_map, Function.comp_def]

theorem rowsOf_other {userId other : Nat} (intervals : List Interval) (apart : other ≠ userId) :
    rowsOf (intervals.map fun iv => (other, iv)) userId = [] := by
  simp [rowsOf, List.filter_map, Function.comp_def, apart]

theorem rowsOf_query {userId : Nat} (distinct : userIds.Nodup) :
    rowsOf (db.busyQuery userIds rangeStart rangeEnd excludeMeetingId) userId =
      if userId ∈ userIds then
        orderByStart (db.busyRows countsAsBusy userId rangeStart rangeEnd excludeMeetingId)
      else [] := by
  unfold Database.busyQuery
  induction userIds with
  | nil => rfl
  | cons other rest ih =>
    obtain ⟨fresh, rest_distinct⟩ := List.nodup_cons.mp distinct
    rw [List.flatMap_cons, rowsOf_append, ih rest_distinct]
    by_cases same : other = userId
    · subst same
      rw [rowsOf_own, if_neg fresh, if_pos List.mem_cons_self, List.append_nil]
    · rw [rowsOf_other _ same, List.nil_append]
      simp only [List.mem_cons, Ne.symm same, false_or]

theorem query_busy (distinct : userIds.Nodup)
    (long : ∀ r ∈ db.busyQuery userIds rangeStart rangeEnd excludeMeetingId, r.2.start < r.2.stop) :
    BusyRows (db.busyQuery userIds rangeStart rangeEnd excludeMeetingId) rangeStart rangeEnd := by
  constructor
  · rw [Database.busyQuery, List.pairwise_flatMap]
    constructor
    · intro userId _
      rw [List.pairwise_map]
      refine (ordered_ascending _).imp ?_
      intro a b order _
      exact order
    · refine distinct.imp ?_
      intro a b apart x hx y hy same
      obtain ⟨_, -, rfl⟩ := List.mem_map.mp hx
      obtain ⟨_, -, rfl⟩ := List.mem_map.mp hy
      exact absurd same apart
  · exact long
  · intro r there
    obtain ⟨userId, -, row⟩ := List.mem_flatMap.mp there
    obtain ⟨iv, hiv, rfl⟩ := List.mem_map.mp row
    obtain ⟨r, -, -, meets, rfl⟩ := mem_busyRows.mp ((List.mem_insertionSort _).mp hiv)
    exact ⟨meets.2.1, meets.2.2.1⟩

theorem requiredUsers_some (dto : SuggestTimeSlotDto) (currentUserId : Nat) :
    requiredUsers dto currentUserId ≠ [] :=
  List.ne_nil_of_mem (List.mem_eraseDups.mpr List.mem_cons_self)

theorem response_sound (done : suggestTimeSlots percent db now dto currentUserId = .ok response)
    (long : ∀ r ∈ db.busyQuery (internalUsers dto currentUserId) response.info.searchRangeStart
      response.info.searchRangeEnd dto.excludeMeetingId, r.2.start < r.2.stop) :
    ∀ item ∈ response.data,
      SoundSlot (db.busyQuery (internalUsers dto currentUserId) response.info.searchRangeStart
          response.info.searchRangeEnd dto.excludeMeetingId) (requiredUsers dto currentUserId)
        response.info.searchRangeStart response.info.searchRangeEnd (dto.durationMinutes * 60000)
        ⟨item.startTime, item.endTime⟩ := by
  simp only [suggestTimeSlots, bind_eq_ok, require_eq_ok, pure_eq_ok, Prod.exists] at done
  obtain ⟨rangeStart, rangeEnd, -, _, -, _, -, _, -, _, -, _, -, _, -, rfl⟩ := done
  intro item listed
  have scored := (List.mem_insertionSort _).mp (List.mem_of_mem_take listed)
  obtain ⟨slot, candidate, rfl⟩ := List.mem_map.mp scored
  have lasting : 0 < dto.durationMinutes * 60000 := by
    have bounds := dto.duration_bounds
    omega
  have distinct : (internalUsers dto currentUserId).Nodup := eraseDups_nodup _
  have asked : ∀ userId ∈ requiredUsers dto currentUserId, userId ∈ internalUsers dto currentUserId :=
    fun userId required => List.mem_eraseDups.mpr (List.mem_append_left _ required)
  have windows : requiredFreeWindows (db.busyQuery (internalUsers dto currentUserId) rangeStart rangeEnd
        dto.excludeMeetingId) (requiredUsers dto currentUserId) rangeStart rangeEnd =
      intersectAll ((requiredUsers dto currentUserId).map fun userId =>
        complement (db.getBusyIntervals rangeStart rangeEnd dto.excludeMeetingId userId)
          rangeStart rangeEnd) := by
    rw [requiredFreeWindows]
    congr 1
    apply List.map_congr_left
    intro userId required
    rw [rowsOf_query distinct, if_pos (asked userId required)]
    rfl
  refine candidate_sound (query_busy distinct long) (requiredUsers_some dto currentUserId)
    lasting ?_
  rw [windows]
  exact candidate

/-- The windows hold exactly the free instants, whatever the rows, and every slot cut from them
    or returned by the search is sound. -/
theorem suggested_slots_sound (percent : Nat → Nat → Int) :
    (∀ (rows : List (Nat × Interval)) (userIds : List Nat) (rangeStart rangeEnd durationMs : Int),
      BusyRows rows rangeStart rangeEnd → userIds ≠ [] → 0 < durationMs →
        (∀ t, Holds (requiredFreeWindows rows userIds rangeStart rangeEnd) t ↔
          rangeStart ≤ t ∧ t < rangeEnd ∧ ∀ userId ∈ userIds, ¬ Holds (rowsOf rows userId) t) ∧
        ∀ slot ∈ candidates durationMs (requiredFreeWindows rows userIds rangeStart rangeEnd),
          SoundSlot rows userIds rangeStart rangeEnd durationMs slot) ∧
      ∀ (db : Database) (now : Int) (dto : SuggestTimeSlotDto) (currentUserId : Nat)
        (response : TimeSuggestionResponse),
        suggestTimeSlots percent db now dto currentUserId = .ok response →
          let rows := db.busyQuery (internalUsers dto currentUserId) response.info.searchRangeStart
            response.info.searchRangeEnd dto.excludeMeetingId
          (∀ r ∈ rows, r.2.start < r.2.stop) →
            ∀ item ∈ response.data, SoundSlot rows (requiredUsers dto currentUserId)
              response.info.searchRangeStart response.info.searchRangeEnd
              (dto.durationMinutes * 60000) ⟨item.startTime, item.endTime⟩ := by
  constructor
  · intro rows userIds rangeStart rangeEnd durationMs busy some_user positive
    exact ⟨fun _ => requiredFreeWindows_holds busy some_user,
      fun _ there => candidate_sound busy some_user positive there⟩
  · intro db now dto currentUserId response done rows long
    exact response_sound done long

example : requiredFreeWindows [(0, ⟨-5, 10⟩), (0, ⟨5, 20⟩), (1, ⟨30, 50⟩)] [0, 1] 0 60 =
    [⟨20, 30⟩, ⟨50, 60⟩] := by
  decide

end Response
end Scheduling
