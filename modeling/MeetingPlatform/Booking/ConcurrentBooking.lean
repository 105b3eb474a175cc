import MeetingPlatform.Booking.NoOverlap

/- Approvals and creations that run at the same time. Each reads the committed bookings
   in one step and writes its own in a later one; in between it holds no lock but the
   one an approval has on its request row. -/
namespace MeetingBooking
open KeyedTable LabelledRuns HalfOpen Guards

inductive Job where
  | approval (plan : ApprovalPlan)
  | creation (plan : CreatePlan)

inductive Call where
  | approve (now : Int) (requestId userId : Nat)
  | create (dir : Directory) (now : Int) (dto : CreateMeetingDto) (userId : Nat)

def Call.read (cfg : Config) : Call → Store → Option Job
  | .approve now requestId userId, s =>
    (readApproval cfg now requestId userId s).toOption.map .approval
  | .create dir now dto userId, s => (checkCreate cfg dir now dto userId s).toOption.map .creation

def Call.locks : Call → Option Nat
  | .approve _ requestId _ => some requestId
  | .create .. => none

def Job.locks : Job → Option Nat
  | .approval plan => some plan.review.requestId
  | .creation _ => none

def Job.commit : Job → Store → Store
  | .approval plan, s => commitApproval plan s
  | .creation plan, s => commitCreate plan s

def Job.bookingId : Job → Store → Nat
  | .approval plan, _ => plan.review.bookingId
  | .creation _, s => s.bookings.next

def Job.loaded : Job → Option Nat
  | .approval plan => some plan.review.bookingId
  | .creation _ => none

def Job.target : Job → Slot
  | .approval plan => plan.target
  | .creation plan => ⟨plan.dto.roomId, plan.dto.startTime, plan.dto.endTime⟩

def Job.takesRoom : Job → Bool
  | .approval plan => plan.booking.status.holdsRoom
  | .creation plan => plan.isAutoApprovable

/-- `seen` counts the commits that came before the job's reads. -/
structure InFlight where
  job : Job
  seen : Nat

/-- `written` lists the booking rows of all commits so far, oldest first. -/
structure Office where
  store : Store
  inFlight : List InFlight
  written : List Nat

inductive Turn where
  | read (call : Call)
  | commit (f : InFlight)

inductive OfficeStep (cfg : Config) : Office → Turn → Office → Prop where
  | read {o : Office} {call : Call} {job : Job} (reads : call.read cfg o.store = some job)
      (unlocked : ∀ f ∈ o.inFlight, ∀ q, call.locks = some q → f.job.locks ≠ some q) :
      OfficeStep cfg o (.read call) { o with inFlight := ⟨job, o.written.length⟩ :: o.inFlight }
  | commit (o : Office) (f : InFlight) (front back : List InFlight)
      (running : o.inFlight = front ++ f :: back) :
      OfficeStep cfg o (.commit f)
        ⟨f.job.commit o.store, front ++ back, o.written ++ [f.job.bookingId o.store]⟩

def Office.opening (s : Store) : Office := ⟨s, [], []⟩

/-- What a job claims is still free as far as the commits since its reads go. -/
def StillFree (o : Office) (f : InFlight) : Prop :=
  ∀ k ∈ o.written.drop f.seen, k ≠ f.job.bookingId o.store →
    ∀ b, (k, b) ∈ o.store.bookings.rows → b.roomId = f.job.target.roomId →
      b.status.holdsRoom = true → Apart f.job.target.startTime f.job.target.endTime
        b.reservedStartTime b.reservedEndTime

def CommitsInTime (o : Office) : Turn → Prop
  | .read _ => True
  | .commit f => f.job.takesRoom = true → StillFree o f

section Jobs
variable {cfg : Config} {s : Store} {job : Job}

def Job.HasRow (job : Job) (s : Store) : Prop :=
  ∀ k, job.loaded = some k → ∃ b, s.bookings.get? k = some b

theorem commit_calendar (row : job.HasRow s) :
    calendar (job.commit s).bookings = Function.update (calendar s.bookings) (job.bookingId s)
      (if job.takesRoom then
        some (job.target.roomId, job.target.startTime, job.target.endTime) else none) := by
  cases job with
  | approval plan =>
    obtain ⟨b, row⟩ := row plan.review.bookingId rfl
    exact calendar_update row
  | creation plan =>
    refine calendar_insert.trans ?_
    cases auto : plan.isAutoApprovable <;>
      simp [RoomBooking.entry, CreatePlan.booking, Job.takesRoom, Job.target, Job.bookingId, auto,
        RoomBookingStatus.holdsRoom]

theorem commit_rows {k : Nat} (other : k ≠ job.bookingId s) :
    (job.commit s).bookings.get? k = s.bookings.get? k := by
  cases job with
  | approval plan =>
    refine (get?_update ..).trans ?_
    exact if_neg other
  | creation plan =>
    refine (get?_insert ..).trans ?_
    exact if_neg other

theorem commit_keeps_row {k : Nat} {b : RoomBooking} (row : s.bookings.get? k = some b) :
    ∃ b', (job.commit s).bookings.get? k = some b' := by
  by_cases own : k = job.bookingId s
  · cases job with
    | approval plan =>
      refine ⟨plan.booking, (get?_update ..).trans ?_⟩
      rw [row]
      exact if_pos own
    | creation plan =>
      have := row_below s.bookings (get?_eq_some.mp row)
      exact absurd own (Nat.ne_of_lt this)
  · exact ⟨b, (commit_rows own).trans row⟩

theorem read_finds_free {call : Call} (reads : call.read cfg s = some job) :
    job.HasRow s ∧ ∀ k b, (k, b) ∈ s.bookings.rows → k ≠ job.bookingId s →
      b.roomId = job.target.roomId → b.status.holdsRoom = true →
      Apart job.target.startTime job.target.endTime b.reservedStartTime b.reservedEndTime := by
  cases call with
  | approve now requestId userId =>
    obtain ⟨plan, read, rfl⟩ := Option.map_eq_some_iff.mp reads
    obtain ⟨opened, -, -, clear⟩ := readApproval_ok (toOption_eq_some.mp read)
    have row := get?_eq_some.mpr (findNewest_mem opened.newest).1
    refine ⟨fun k own => ⟨_, Option.some.inj own ▸ row⟩, ?_⟩
    intro k b row other room holds
    exact apart_of_no_conflict cfg.bufferMs_nonneg clear row room holds
      fun own => other (Option.some.inj own).symm
  | create dir now dto userId =>
    obtain ⟨plan, checked, rfl⟩ := Option.map_eq_some_iff.mp reads
    obtain ⟨rfl, -, -, clear⟩ := checkCreate_ok (toOption_eq_some.mp checked)
    refine ⟨fun k own => (by cases own), ?_⟩
    intro k b row other room holds
    exact apart_of_no_conflict cfg.bufferMs_nonneg clear row room holds (by simp)

end Jobs

/-- Apart from what was committed since, a job's target is as free as when it was read. -/
structure FreeWhenRead (o : Office) (f : InFlight) : Prop where
  has_row : f.job.HasRow o.store
  seen_le : f.seen ≤ o.written.length
  free : ∀ k b, (k, b) ∈ o.store.bookings.rows → k ≠ f.job.bookingId o.store →
    k ∉ o.written.drop f.seen → b.roomId = f.job.target.roomId → b.status.holdsRoom = true →
    Apart f.job.target.startTime f.job.target.endTime b.reservedStartTime b.reservedEndTime

def Orderly (o : Office) : Prop := ∀ f ∈ o.inFlight, FreeWhenRead o f

section Steps
variable {cfg : Config} {o o' : Office} {turn : Turn}

theorem free_when_read_after_commit {f g : InFlight} {front back : List InFlight}
    (before : FreeWhenRead o g) :
    FreeWhenRead ⟨f.job.commit o.store, front ++ back, o.written ++ [f.job.bookingId o.store]⟩ g where
  has_row := by
    intro k loaded
    obtain ⟨b, row⟩ := before.has_row k loaded
    exact commit_keeps_row row
  seen_le := by
    have := before.seen_le
    simp only [List.length_append, List.length_singleton]
    omega
  free := by
    intro k b row other unwritten room holds
    simp only at row other unwritten
    rw [List.drop_append_of_le_length before.seen_le, List.mem_append, List.mem_singleton,
      not_or] at unwritten
    have same : (k, b) ∈ o.store.bookings.rows :=
      get?_eq_some.mp ((commit_rows unwritten.2).symm.trans (get?_eq_some.mpr row))
    by_cases own : k = g.job.bookingId o.store
    · -- only a creation changes its row id, and the id it had was not used by any row
      cases gj : g.job with
      | approval plan =>
        rw [gj] at own other
        exact absurd own other
      | creation plan =>
        rw [gj] at own
        have := row_below o.store.bookings same
        exact absurd own (Nat.ne_of_lt this)
    · exact before.free k b same own unwritten.1 room holds

theorem step_orderly (orderly : Orderly o) (step : OfficeStep cfg o turn o') : Orderly o' := by
  cases step with
  | @read call job reads unlocked =>
    intro g hg
    obtain ⟨row, free⟩ := read_finds_free reads
    rcases List.mem_cons.mp hg with rfl | hg
    · exact ⟨row, Nat.le_refl _, fun k b there other _ => free k b there other⟩
    · obtain ⟨has_row, seen_le, free⟩ := orderly g hg
      exact ⟨has_row, seen_le, free⟩
  | commit f front back running =>
    intro g hg
    have hg : g ∈ o.inFlight := by
      rw [running]
      rcases List.mem_append.mp hg with hg | hg
      · exact List.mem_append_left _ hg
      · exact List.mem_append_right _ (List.mem_cons_of_mem _ hg)
    exact free_when_read_after_commit (orderly g hg)

theorem step_free_iff (orderly : Orderly o) (free : NoDoubleBooking o.store)
    (step : OfficeStep cfg o turn o') : NoDoubleBooking o'.store ↔ CommitsInTime o turn := by
  cases step with
  | read => exact iff_of_true free trivial
  | commit f front back running =>
    have before : FreeWhenRead o f := orderly f (by simp [running])
    rw [no_double_booking_iff] at free ⊢
    rw [commit_calendar before.has_row]
    by_cases takes : f.job.takesRoom = true
    · rw [if_pos takes, clash_free_put_iff free]
      constructor
      · intro apart _ k _ other b row room holds
        exact apart k _ _ other (calendar_eq_some.mpr ⟨b, row, holds, room, rfl, rfl⟩)
      · intro still k s e other entry
        obtain ⟨b, row, holds, room, rfl, rfl⟩ := calendar_eq_some.mp entry
        by_cases recent : k ∈ o.written.drop f.seen
        · exact still takes k recent other b row room holds
        · exact before.free k b row other recent room holds
    · rw [if_neg takes]
      exact iff_of_true (clash_free_drop free _) fun now => absurd now takes

end Steps

/-- Whatever the order of the steps, no room is booked twice exactly when no call commits
    a slot that another call has taken since its reads. -/
theorem concurrent_bookings_free_iff {cfg : Config} {s : Store} {o : Office}
    {moves : List (Move Office Turn)} (free : NoDoubleBooking s)
    (run : Run (OfficeStep cfg) (Office.opening s) moves o) :
    (∀ a ∈ visited (Office.opening s) moves, NoDoubleBooking a.store) ↔
      Heeds CommitsInTime moves :=
  states_safe_iff Orderly (fun o => NoDoubleBooking o.store) run
    (fun _ hf => absurd hf List.not_mem_nil) free step_orderly step_free_iff

theorem lone_approval_free : ∃ s job,
    execAll (Config.load none none)
        [.create openDirectory 0 { roomId := 1, startTime := 7200000, endTime := 10800000 } 1]
        Store.empty = some s ∧
      Call.read (Config.load none none) (.approve 0 0 8) s = some job ∧
      let opened : Office := ⟨s, [⟨job, 0⟩], []⟩
      let done : Office := ⟨job.commit s, [], [job.bookingId s]⟩
      let moves : List (Move Office Turn) :=
        [⟨Office.opening s, .read (.approve 0 0 8), opened⟩, ⟨opened, .commit ⟨job, 0⟩, done⟩]
      ((∀ a ∈ visited (Office.opening s) moves, NoDoubleBooking a.store) ↔
        Heeds CommitsInTime moves) := by
  have start : ∃ s job, execAll (Config.load none none)
        [.create openDirectory 0 { roomId := 1, startTime := 7200000, endTime := 10800000 } 1]
        Store.empty = some s ∧
      Call.read (Config.load none none) (.approve 0 0 8) s = some job ∧
      s.bookings.rows.all (fun r => !r.2.status.holdsRoom) = true :=
    ⟨_, _, rfl, rfl, rfl⟩
  obtain ⟨s, job, created, reads, idle⟩ := start
  have free := idle_no_double_booking idle
  refine ⟨s, job, created, reads, ?_⟩
  have first : OfficeStep (Config.load none none) (Office.opening s) (.read (.approve 0 0 8))
      ⟨s, [⟨job, 0⟩], []⟩ := .read reads fun f hf => absurd hf List.not_mem_nil
  have second : OfficeStep (Config.load none none) ⟨s, [⟨job, 0⟩], []⟩ (.commit ⟨job, 0⟩)
      ⟨job.commit s, [], [job.bookingId s]⟩ := .commit _ ⟨job, 0⟩ [] [] rfl
  exact concurrent_bookings_free_iff free ((Run.nil.snoc first).snoc second)

theorem concurrent_approvals_double_book : ∃ s moves o,
    NoDoubleBooking s ∧ Run (OfficeStep (Config.load none none)) (Office.opening s) moves o ∧
      ¬ NoDoubleBooking o.store := by
  have start : ∃ s p q b c, execAll (Config.load none none)
        [.create openDirectory 0 { roomId := 1, startTime := 7200000, endTime := 10800000 } 1,
          .create openDirectory 0 { roomId := 1, startTime := 7200000, endTime := 10800000 } 2]
        Store.empty = some s ∧
      Call.read (Config.load none none) (.approve 0 0 8) s = some p ∧
      Call.read (Config.load none none) (.approve 0 1 8) s = some q ∧
      p.locks = some 0 ∧ s.bookings.rows.all (fun r => !r.2.status.holdsRoom) = true ∧
      (q.commit (p.commit s)).bookings.get? 0 = some b ∧
      (q.commit (p.commit s)).bookings.get? 1 = some c ∧
      b = ⟨0, 1, 7200000, 10800000, .approved⟩ ∧ c = ⟨1, 1, 7200000, 10800000, .approved⟩ :=
    ⟨_, _, _, _, _, rfl, rfl, rfl, rfl, rfl, rfl, rfl, rfl, rfl⟩
  obtain ⟨s, p, q, _, _, -, readsP, readsQ, lock, idle, rowP, rowQ, rfl, rfl⟩ := start
  have free := idle_no_double_booking idle
  have first : OfficeStep (Config.load none none) (Office.opening s) (.read (.approve 0 0 8))
      ⟨s, [⟨p, 0⟩], []⟩ := .read readsP fun f hf => absurd hf List.not_mem_nil
  have second : OfficeStep (Config.load none none) ⟨s, [⟨p, 0⟩], []⟩ (.read (.approve 0 1 8))
      ⟨s, [⟨q, 0⟩, ⟨p, 0⟩], []⟩ := by
    refine .read readsQ ?_
    rintro f hf k ⟨⟩
    obtain rfl := List.mem_singleton.mp hf
    simp [lock]
  have third : OfficeStep (Config.load none none) ⟨s, [⟨q, 0⟩, ⟨p, 0⟩], []⟩ (.commit ⟨p, 0⟩)
      ⟨p.commit s, [⟨q, 0⟩], [p.bookingId s]⟩ := .commit _ ⟨p, 0⟩ [⟨q, 0⟩] [] rfl
  have fourth : OfficeStep (Config.load none none) ⟨p.commit s, [⟨q, 0⟩], [p.bookingId s]⟩
      (.commit ⟨q, 0⟩) ⟨q.commit (p.commit s), [], [p.bookingId s, q.bookingId (p.commit s)]⟩ :=
    .commit _ ⟨q, 0⟩ [] [] rfl
  refine ⟨s, _, _, free, (((Run.nil.snoc first).snoc second).snoc third).snoc fourth, ?_⟩
  intro still
  have apart := still 0 1 _ _ (get?_eq_some.mp rowP) (get?_eq_some.mp rowQ) (by decide) rfl rfl rfl
  rw [apart_iff (by decide) (by decide)] at apart
  revert apart
  decide

end MeetingBooking
