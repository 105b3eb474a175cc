import MeetingPlatform.Booking.Store
import MeetingPlatform.Booking.Errors

/- Busy and free time of users. The meetings of a user are merged to busy intervals, what is
   left of the search range is free, and the free times of several users are intersected. -/
namespace Scheduling
open KeyedTable MeetingBooking

structure Interval where
  start : Int
  stop : Int
  deriving DecidableEq, Repr

structure Database where
  store : Store
  userExists : Nat → Bool

section Queries

/-- The rows of `meeting_participants JOIN meetings` for a user. -/
def Database.meetingsOf (db : Database) (userId : Nat) : List (Nat × Meeting) :=
  (db.store.participants.rows.filter fun r => r.2.userId = userId).filterMap fun r =>
    (db.store.meetings.get? r.2.meetingId).map fun m => (r.2.meetingId, m)

/-- A meeting that runs into a span and is not the one that is left out. -/
def Meets (start stop : Int) (excludeMeetingId : Option Nat) (r : Nat × Meeting) : Prop :=
  r.2.deletedAt = none ∧ r.2.startTime < stop ∧ start < r.2.endTime ∧ excludeMeetingId ≠ some r.1

instance (start stop : Int) (excludeMeetingId : Option Nat) :
    DecidablePred (Meets start stop excludeMeetingId) :=
  fun _ => inferInstanceAs (Decidable (_ ∧ _ ∧ _ ∧ _))

def Database.busyRows (db : Database) (counts : MeetingStatus → Bool) (userId : Nat)
    (start stop : Int) (excludeMeetingId : Option Nat) : List Interval :=
  ((db.meetingsOf userId).filter fun r =>
    counts r.2.status ∧ Meets start stop excludeMeetingId r).map fun r =>
      ⟨r.2.startTime, r.2.endTime⟩

def orderByStart (intervals : List Interval) : List Interval :=
  intervals.insertionSort fun a b => a.start ≤ b.start

end Queries

section Intervals

/-- The loop of `mergeIntervals`, from an interval that may still grow. -/
def mergeFrom (current : Interval) : List Interval → List Interval
  | [] => [current]
  | next :: rest =>
    if next.start ≤ current.stop then
      mergeFrom (if current.stop < next.stop then { current with stop := next.stop } else current) rest
    else current :: mergeFrom next rest

def mergeIntervals : List Interval → List Interval
  | [] => []
  | first :: rest => mergeFrom first rest

/-- The loop of `complement`, from its cursor. -/
def complementFrom (rangeEnd cursor : Int) : List Interval → List Interval
  | [] => if cursor < rangeEnd then [⟨cursor, rangeEnd⟩] else []
  | b :: busy =>
    (if cursor < b.start then [⟨cursor, b.start⟩] else []) ++
      complementFrom rangeEnd (if cursor < b.stop then b.stop else cursor) busy

def complement (busy : List Interval) (rangeStart rangeEnd : Int) : List Interval :=
  complementFrom rangeEnd rangeStart busy

def intersection (a b : Interval) : List Interval :=
  let start := if b.start < a.start then a.start else b.start
  let stop := if a.stop < b.stop then a.stop else b.stop
  if start < stop then [⟨start, stop⟩] else []

/-- The loop while `i` stays; `further` goes on from the next `i`. -/
def intersectWith (a : Interval) (further : List Interval → List Interval) :
    List Interval → List Interval
  | [] => []
  | b :: bs =>
    intersection a b ++ if a.stop < b.stop then further (b :: bs) else intersectWith a further bs

def intersectTwo : List Interval → List Interval → List Interval
  | [] => fun _ => []
  | a :: as => intersectWith a (intersectTwo as)

def intersectAll : List (List Interval) → List Interval
  | [] => []
  | first :: others => others.foldl intersectTwo first

def overlapsAny (intervals : List Interval) (slotStart slotEnd : Int) : Bool :=
  intervals.any fun iv => iv.start < slotEnd ∧ slotStart < iv.stop

end Intervals

def countsAsBusy : MeetingStatus → Bool
  | .scheduled | .inProgress => true
  | _ => false

/-- The entry of a user in the map that `getBusyIntervalsByUser` returns. -/
def Database.getBusyIntervals (db : Database) (rangeStart rangeEnd : Int)
    (excludeMeetingId : Option Nat) (userId : Nat) : List Interval :=
  mergeIntervals
    (orderByStart (db.busyRows countsAsBusy userId rangeStart rangeEnd excludeMeetingId))

section Windows

def Interval.Beside (w iv : Interval) : Prop := w.stop ≤ iv.start ∨ iv.stop ≤ w.start

def Interval.Within (a b : Interval) : Prop := b.start ≤ a.start ∧ a.stop ≤ b.stop

def Ascending (intervals : List Interval) : Prop :=
  intervals.Pairwise fun a b => a.start ≤ b.start

variable {w a b iv current : Interval} {intervals busy as bs : List Interval}
  {rangeStart rangeEnd cursor : Int}

theorem Interval.Within.trans {c : Interval} (inner : a.Within b) (outer : b.Within c) : a.Within c :=
  ⟨outer.1.trans inner.1, inner.2.trans outer.2⟩

theorem Interval.Beside.within (beside : b.Beside iv) (inner : a.Within b) : a.Beside iv := by
  unfold Interval.Beside Interval.Within at *
  omega

theorem Interval.Beside.of_within (beside : w.Beside b) (inner : iv.Within b) : w.Beside iv := by
  unfold Interval.Beside Interval.Within at *
  omega

theorem mergeFrom_start : ∀ m ∈ mergeFrom current intervals,
    m.start = current.start ∨ ∃ iv ∈ intervals, m.start = iv.start := by
  induction intervals generalizing current with
  | nil =>
    intro m hm
    rw [List.mem_singleton.mp hm]
    exact Or.inl rfl
  | cons next rest ih =>
    intro m hm
    unfold mergeFrom at hm
    split at hm
    · have start : (if current.stop < next.stop then { current with stop := next.stop } else
          current : Interval).start = current.start := by
        split <;> rfl
      rcases ih m hm with same | ⟨iv, hiv, same⟩
      · exact Or.inl (same.trans start)
      · exact Or.inr ⟨iv, List.mem_cons_of_mem _ hiv, same⟩
    · rcases List.mem_cons.mp hm with rfl | later
      · exact Or.inl rfl
      · right
        rcases ih m later with same | ⟨iv, hiv, same⟩
        · exact ⟨next, List.mem_cons_self, same⟩
        · exact ⟨iv, List.mem_cons_of_mem _ hiv, same⟩

theorem mergeIntervals_start : ∀ m ∈ mergeIntervals intervals, ∃ iv ∈ intervals, m.start = iv.start := by
  cases intervals with
  | nil => simp [mergeIntervals]
  | cons first rest =>
    intro m hm
    rcases mergeFrom_start m hm with same | ⟨iv, hiv, same⟩
    · exact ⟨first, List.mem_cons_self, same⟩
    · exact ⟨iv, List.mem_cons_of_mem _ hiv, same⟩

theorem mergeFrom_ascending (ascending : Ascending (current :: intervals)) :
    Ascending (mergeFrom current intervals) := by
  induction intervals generalizing current with
  | nil => exact List.pairwise_singleton _ _
  | cons next rest ih =>
    obtain ⟨first, tail⟩ := List.pairwise_cons.mp ascending
    unfold mergeFrom
    split
    · apply ih
      refine List.pairwise_cons.mpr ⟨?_, (List.pairwise_cons.mp tail).2⟩
      intro iv hiv
      have later := first iv (List.mem_cons_of_mem _ hiv)
      split <;> exact later
    · refine List.pairwise_cons.mpr ⟨?_, ih tail⟩
      intro m hm
      rcases mergeFrom_start m hm with same | ⟨iv, hiv, same⟩
      · rw [same]
        exact first next List.mem_cons_self
      · rw [same]
        exact first iv (List.mem_cons_of_mem _ hiv)

theorem mergeIntervals_ascending (ascending : Ascending intervals) :
    Ascending (mergeIntervals intervals) := by
  cases intervals with
  | nil => exact List.Pairwise.nil
  | cons first rest => exact mergeFrom_ascending ascending

theorem mergeFrom_covers (ascending : Ascending (current :: intervals)) :
    ∀ iv ∈ current :: intervals, ∃ m ∈ mergeFrom current intervals, iv.Within m := by
  induction intervals generalizing current with
  | nil =>
    intro iv hiv
    exact ⟨iv, hiv, Int.le_refl _, Int.le_refl _⟩
  | cons next rest ih =>
    obtain ⟨first, tail⟩ := List.pairwise_cons.mp ascending
    unfold mergeFrom
    split
    · rename_i grow
      have grown : ∀ iv ∈ current :: next :: rest, ∃ piece ∈ (if current.stop < next.stop then
          { current with stop := next.stop } else current : Interval) :: rest, iv.Within piece := by
        intro iv hiv
        have here := first next List.mem_cons_self
        rcases List.mem_cons.mp hiv with rfl | hiv
        · refine ⟨_, List.mem_cons_self, ?_⟩
          split
          · rename_i longer
            exact ⟨Int.le_refl _, longer.le⟩
          · exact ⟨Int.le_refl _, Int.le_refl _⟩
        · rcases List.mem_cons.mp hiv with rfl | hiv
          · refine ⟨_, List.mem_cons_self, ?_⟩
            split
            · exact ⟨here, Int.le_refl _⟩
            · rename_i shorter
              exact ⟨here, not_lt.mp shorter⟩
          · exact ⟨iv, List.mem_cons_of_mem _ hiv, Int.le_refl _, Int.le_refl _⟩
      intro iv hiv
      obtain ⟨piece, hpiece, inner⟩ := grown iv hiv
      obtain ⟨m, hm, outer⟩ := ih (by
        refine List.pairwise_cons.mpr ⟨?_, (List.pairwise_cons.mp tail).2⟩
        intro iv hiv
        have later := first iv (List.mem_cons_of_mem _ hiv)
        split <;> exact later) piece hpiece
      exact ⟨m, hm, inner.trans outer⟩
    · intro iv hiv
      rcases List.mem_cons.mp hiv with rfl | hiv
      · exact ⟨iv, List.mem_cons_self, Int.le_refl _, Int.le_refl _⟩
      · obtain ⟨m, hm, inner⟩ := ih tail iv hiv
        exact ⟨m, List.mem_cons_of_mem _ hm, inner⟩

theorem mergeIntervals_covers (ascending : Ascending intervals) (there : iv ∈ intervals) :
    ∃ m ∈ mergeIntervals intervals, iv.Within m := by
  cases intervals with
  | nil => cases there
  | cons first rest => exact mergeFrom_covers ascending iv there

theorem mem_complementFrom_nil :
    w ∈ complementFrom rangeEnd cursor [] ↔ cursor < rangeEnd ∧ w = ⟨cursor, rangeEnd⟩ := by
  unfold complementFrom
  split <;> simp_all

theorem mem_complementFrom_cons : w ∈ complementFrom rangeEnd cursor (b :: busy) ↔
    cursor < b.start ∧ w = ⟨cursor, b.start⟩ ∨
      w ∈ complementFrom rangeEnd (if cursor < b.stop then b.stop else cursor) busy := by
  rw [complementFrom, List.mem_append]
  refine or_congr_left ?_
  split <;> simp_all

theorem complementFrom_beside (ascending : Ascending busy) : ∀ w ∈ complementFrom rangeEnd cursor busy,
    cursor ≤ w.start ∧ ∀ b ∈ busy, w.Beside b := by
  induction busy generalizing cursor with
  | nil =>
    intro w hw
    obtain ⟨-, rfl⟩ := mem_complementFrom_nil.mp hw
    exact ⟨Int.le_refl _, List.forall_mem_nil _⟩
  | cons b busy ih =>
    obtain ⟨first, tail⟩ := List.pairwise_cons.mp ascending
    intro w hw
    rcases mem_complementFrom_cons.mp hw with ⟨-, rfl⟩ | after
    · refine ⟨Int.le_refl _, ?_⟩
      intro b' hb'
      left
      rcases List.mem_cons.mp hb' with rfl | later
      · exact Int.le_refl _
      · exact first b' later
    · obtain ⟨since, beside⟩ := ih tail w after
      have past : cursor ≤ w.start ∧ b.stop ≤ w.start := by
        split at since <;> omega
      refine ⟨past.1, List.forall_mem_cons.mpr ⟨Or.inr past.2, beside⟩⟩

theorem complement_beside (ascending : Ascending busy) (free : w ∈ complement busy rangeStart rangeEnd)
    (there : b ∈ busy) : w.Beside b :=
  (complementFrom_beside ascending w free).2 b there

theorem complementFrom_stop (early : ∀ b ∈ busy, b.start ≤ rangeEnd) :
    ∀ w ∈ complementFrom rangeEnd cursor busy, w.stop ≤ rangeEnd := by
  induction busy generalizing cursor with
  | nil =>
    intro w hw
    obtain ⟨-, rfl⟩ := mem_complementFrom_nil.mp hw
    exact Int.le_refl _
  | cons b busy ih =>
    obtain ⟨here, later⟩ := List.forall_mem_cons.mp early
    intro w hw
    rcases mem_complementFrom_cons.mp hw with ⟨-, rfl⟩ | after
    · exact here
    · exact ih later w after

theorem complement_within (ascending : Ascending busy) (early : ∀ b ∈ busy, b.start ≤ rangeEnd)
    (free : w ∈ complement busy rangeStart rangeEnd) : w.Within ⟨rangeStart, rangeEnd⟩ :=
  ⟨(complementFrom_beside ascending w free).1, complementFrom_stop early w free⟩

theorem intersection_within (both : w ∈ intersection a b) : w.Within a ∧ w.Within b := by
  have start : a.start ≤ (if b.start < a.start then a.start else b.start) ∧
      b.start ≤ if b.start < a.start then a.start else b.start := by
    split <;> omega
  have stop : (if a.stop < b.stop then a.stop else b.stop) ≤ a.stop ∧
      (if a.stop < b.stop then a.stop else b.stop) ≤ b.stop := by
    split <;> omega
  by_cases room : (if b.start < a.start then a.start else b.start) <
      if a.stop < b.stop then a.stop else b.stop
  · rw [intersection, if_pos room] at both
    rw [List.mem_singleton.mp both]
    exact ⟨⟨start.1, stop.1⟩, start.2, stop.2⟩
  · rw [intersection, if_neg room] at both
    cases both

theorem intersectWith_within {further : List Interval → List Interval}
    (rest : ∀ bs, ∀ w ∈ further bs, (∃ a ∈ as, w.Within a) ∧ ∃ b ∈ bs, w.Within b) :
    ∀ w ∈ intersectWith a further bs, (∃ a' ∈ a :: as, w.Within a') ∧ ∃ b ∈ bs, w.Within b := by
  induction bs with
  | nil =>
    intro w hw
    cases hw
  | cons b bs ih =>
    intro w hw
    unfold intersectWith at hw
    rcases List.mem_append.mp hw with here | later
    · obtain ⟨in_a, in_b⟩ := intersection_within here
      exact ⟨⟨a, List.mem_cons_self, in_a⟩, b, List.mem_cons_self, in_b⟩
    · split at later
      · obtain ⟨⟨a', ha', in_a⟩, in_b⟩ := rest (b :: bs) w later
        exact ⟨⟨a', List.mem_cons_of_mem _ ha', in_a⟩, in_b⟩
      · obtain ⟨in_a, b', hb', in_b⟩ := ih w later
        exact ⟨in_a, b', List.mem_cons_of_mem _ hb', in_b⟩

theorem intersectTwo_within : ∀ w ∈ intersectTwo as bs,
    (∃ a ∈ as, w.Within a) ∧ ∃ b ∈ bs, w.Within b := by
  induction as generalizing bs with
  | nil =>
    intro w hw
    cases hw
  | cons a as ih => exact intersectWith_within fun bs => ih

theorem foldl_intersectTwo_within {sets : List (List Interval)} :
    ∀ w ∈ sets.foldl intersectTwo as, (∃ a ∈ as, w.Within a) ∧ ∀ s ∈ sets, ∃ iv ∈ s, w.Within iv := by
  induction sets generalizing as with
  | nil =>
    intro w hw
    exact ⟨⟨w, hw, Int.le_refl _, Int.le_refl _⟩, by simp⟩
  | cons s sets ih =>
    intro w hw
    obtain ⟨⟨both, hboth, inner⟩, others⟩ := ih w hw
    obtain ⟨⟨a, ha, in_a⟩, iv, hiv, in_s⟩ := intersectTwo_within both hboth
    exact ⟨⟨a, ha, inner.trans in_a⟩,
      List.forall_mem_cons.mpr ⟨⟨iv, hiv, inner.trans in_s⟩, others⟩⟩

theorem intersectAll_within {sets : List (List Interval)} {s : List Interval}
    (common : w ∈ intersectAll sets) (there : s ∈ sets) : ∃ iv ∈ s, w.Within iv := by
  cases sets with
  | nil => cases there
  | cons first others =>
    obtain ⟨in_first, in_others⟩ := foldl_intersectTwo_within w common
    rcases List.mem_cons.mp there with rfl | later
    · exact in_first
    · exact in_others s later

end Windows

section FreeTime
variable {db : Database} {rangeStart rangeEnd : Int} {excludeMeetingId : Option Nat} {userId : Nat}
  {w slot : Interval}

theorem mem_busyRows {counts : MeetingStatus → Bool} {start stop : Int} {iv : Interval} :
    iv ∈ db.busyRows counts userId start stop excludeMeetingId ↔
      ∃ r ∈ db.meetingsOf userId, counts r.2.status = true ∧ Meets start stop excludeMeetingId r ∧
        iv = ⟨r.2.startTime, r.2.endTime⟩ := by
  simp only [Database.busyRows, List.mem_map, List.mem_filter, decide_eq_true_eq]
  constructor
  · intro h
    obtain ⟨r, ⟨there, counted, meets⟩, rfl⟩ := h
    exact ⟨r, there, counted, meets, rfl⟩
  · intro h
    obtain ⟨r, there, counted, meets, rfl⟩ := h
    exact ⟨r, ⟨there, counted, meets⟩, rfl⟩

theorem ordered_ascending (intervals : List Interval) : Ascending (orderByStart intervals) :=
  List.pairwise_insertionSort _ _

def freeWindows (db : Database) (rangeStart rangeEnd : Int) (excludeMeetingId : Option Nat)
    (userId : Nat) : List Interval :=
  complement (db.getBusyIntervals rangeStart rangeEnd excludeMeetingId userId) rangeStart rangeEnd

theorem freeWindows_within (free : w ∈ freeWindows db rangeStart rangeEnd excludeMeetingId userId) :
    w.Within ⟨rangeStart, rangeEnd⟩ := by
  apply complement_within (mergeIntervals_ascending (ordered_ascending _)) _ free
  intro m hm
  obtain ⟨iv, hiv, same⟩ := mergeIntervals_start m hm
  obtain ⟨r, -, -, meets, rfl⟩ := mem_busyRows.mp ((List.mem_insertionSort _).mp hiv)
  rw [same]
  exact meets.2.1.le

theorem free_slot_meets_none (free : w ∈ freeWindows db rangeStart rangeEnd excludeMeetingId userId)
    (inner : slot.Within w) {r : Nat × Meeting} (there : r ∈ db.meetingsOf userId)
    (busy : countsAsBusy r.2.status = true) : ¬ Meets slot.start slot.stop excludeMeetingId r := by
  intro meets
  have range := inner.trans (freeWindows_within free)
  have in_range : Meets rangeStart rangeEnd excludeMeetingId r :=
    ⟨meets.1, meets.2.1.trans_le range.2, range.1.trans_lt meets.2.2.1, meets.2.2.2⟩
  have row : (⟨r.2.startTime, r.2.endTime⟩ : Interval) ∈
      orderByStart (db.busyRows countsAsBusy userId rangeStart rangeEnd excludeMeetingId) :=
    (List.mem_insertionSort _).mpr (mem_busyRows.mpr ⟨r, there, busy, in_range, rfl⟩)
  obtain ⟨m, hm, covered⟩ := mergeIntervals_covers (ordered_ascending _) row
  have apart := complement_beside (mergeIntervals_ascending (ordered_ascending _)) free hm
  have beside := (apart.of_within covered).within inner
  rcases beside with before | after
  · exact absurd meets.2.1 before.not_gt
  · exact absurd meets.2.2.1 after.not_gt

end FreeTime
end Scheduling
