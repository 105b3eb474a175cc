import MeetingPlatform.Booking.Operations

/- Requests to extend one meeting that run at the same time. A call reads the meeting,
   the extensions applied so far and the bookings one after the other, without a lock;
   its transaction comes last and looks only at the meeting's status again. -/
namespace MeetingBooking
open KeyedTable LabelledRuns Guards

/-- How far the reads of a call have got. -/
inductive ExtensionStage where
  | meetingRead
  | withinLimits
  | bookingFound (activeBookingId : Nat)
  | cleared (activeBookingId : Nat)
  | refused

structure ExtensionCall where
  dto : ExtensionRequestDto
  userId : Nat
  basis : ExtensionBasis
  stage : ExtensionStage

structure Queue where
  store : Store
  calls : List ExtensionCall

def ExtensionCall.proceed (cfg : Config) (i : Nat) (c : ExtensionCall) (s : Store) :
    Option ExtensionStage :=
  match c.stage with
  | .meetingRead => (checkExtensionLimits cfg.policy i c.dto s).toOption.map fun _ => .withinLimits
  | .withinLimits => (readActiveBooking i s).toOption.map .bookingFound
  | .bookingFound k =>
    some (if fitsBeforeNext cfg.policy c.basis c.dto k s then .cleared k else .refused)
  | .cleared _ | .refused => none

/-- The transaction of a call that has made its reads. -/
def ExtensionCall.commit (i : Nat) (c : ExtensionCall) (s : Store) : Option Store :=
  match c.stage with
  | .cleared k =>
    some ((handleAutoApplyPath c.basis i k c.userId c.dto s).toOption.getD s)
  | .refused => some (handleRejectedPath c.basis i c.userId c.dto s)
  | _ => none

inductive Beat where
  | enter (dto : ExtensionRequestDto) (userId : Nat)
  | proceed (c : ExtensionCall)
  | commit (c : ExtensionCall)

inductive QueueStep (cfg : Config) (i : Nat) : Queue → Beat → Queue → Prop where
  | enter {q : Queue} {dto : ExtensionRequestDto} {userId : Nat} {basis : ExtensionBasis}
      (read : readExtensionMeeting i userId q.store = .ok basis) :
      QueueStep cfg i q (.enter dto userId)
        { q with calls := ⟨dto, userId, basis, .meetingRead⟩ :: q.calls }
  | proceed {q : Queue} (c : ExtensionCall) {stage : ExtensionStage} (front back : List ExtensionCall)
      (waiting : q.calls = front ++ c :: back) (read : c.proceed cfg i q.store = some stage) :
      QueueStep cfg i q (.proceed c) { q with calls := front ++ { c with stage := stage } :: back }
  | commit {q : Queue} (c : ExtensionCall) {s' : Store} (front back : List ExtensionCall)
      (waiting : q.calls = front ++ c :: back) (written : c.commit i q.store = some s') :
      QueueStep cfg i q (.commit c) ⟨s', front ++ back⟩

/-- What is promised: the limits are kept, and the meeting ends later by exactly what was
    granted. -/
structure Granted (policy : ExtensionPolicy) (i : Nat) (base : Int) (s : Store) : Prop where
  count : ((s.appliedRequests i).length : Rat) ≤ policy.maxExtensionCountPerMeeting
  minutes : (totalExtensionMinutes (s.appliedRequests i) : Rat) ≤
    policy.maxTotalExtensionMinutesPerMeeting
  end_time : ∃ m, s.meetings.get? i = some m ∧
    m.endTime = base + totalExtensionMinutes (s.appliedRequests i) * minuteMs

def Whole (x : Rat) : Prop := ∃ n : Nat, x = n

/-- An extension is applied to the end time its call has read. Where the limit is no whole
    number, the applied ones have to be fewer than its whole part as well. -/
def AppliesInTime (policy : ExtensionPolicy) (i : Nat) (q : Queue) : Beat → Prop
  | .commit c => ∀ k m, c.stage = .cleared k → q.store.findMeeting i = some m →
      m.status = .inProgress →
      m.endTime = c.basis.oldEndTime ∧ (Whole policy.maxExtensionCountPerMeeting ∨
        (q.store.appliedRequests i).length < ⌊policy.maxExtensionCountPerMeeting⌋)
  | _ => True

def WithinLimits (policy : ExtensionPolicy) (i : Nat) (dto : ExtensionRequestDto) (s : Store) :
    Prop :=
  ((s.appliedRequests i).length : Rat) < policy.maxExtensionCountPerMeeting ∧
    ((totalExtensionMinutes (s.appliedRequests i) + dto.extensionMinutes : Nat) : Rat) ≤
      policy.maxTotalExtensionMinutesPerMeeting

theorem checkExtensionLimits_ok {policy : ExtensionPolicy} {i : Nat} {dto : ExtensionRequestDto}
    {s : Store} {u : Unit} :
    checkExtensionLimits policy i dto s = .ok u ↔ WithinLimits policy i dto s := by
  simp only [checkExtensionLimits, bind_eq_ok, require_eq_ok, exists_const]
  rfl

section Effects
variable {i userId k : Nat} {s s' : Store} {dto : ExtensionRequestDto} {basis : ExtensionBasis}
  {m : Meeting}

theorem applied_insert {r : MeetingRequest} (meetings : Table Meeting)
    (bookings : Table RoomBooking) (mine : r.meetingId = some i)
    (type : r.requestType = .extendMeeting) :
    Store.appliedRequests { s with
        requests := s.requests.insert r, meetings := meetings, bookings := bookings } i =
      s.appliedRequests i ++ if r.approvalStatus = .applied then [(s.requests.next, r)] else [] := by
  unfold Store.appliedRequests
  rw [select_insert]
  simp [appliedOf, mine, type]

theorem rejected_applied (userId : Nat) (dto : ExtensionRequestDto) (basis : ExtensionBasis) :
    (handleRejectedPath basis i userId dto s).appliedRequests i = s.appliedRequests i := by
  refine (applied_insert s.meetings s.bookings rfl rfl).trans ?_
  simp [ExtensionBasis.request]

structure AppliedOnce (i : Nat) (dto : ExtensionRequestDto) (newEndTime : Int) (s s' : Store) :
    Prop where
  count : (s'.appliedRequests i).length = (s.appliedRequests i).length + 1
  minutes : totalExtensionMinutes (s'.appliedRequests i) =
    totalExtensionMinutes (s.appliedRequests i) + dto.extensionMinutes
  end_time : ∃ m, s'.meetings.get? i = some m ∧ m.endTime = newEndTime

theorem autoApply_applies (h : handleAutoApplyPath basis i k userId dto s = .ok s') :
    AppliedOnce i dto (basis.requestedNewEndTime dto) s s' := by
  obtain ⟨m, found, -, rfl⟩ := handleAutoApplyPath_ok.mp h
  have applied := applied_insert (s := s) (i := i) (r := basis.request i userId dto .applied)
    (s.meetings.update i (extended (basis.requestedNewEndTime dto)))
    (s.bookings.update k (bookedUntil (basis.requestedNewEndTime dto))) rfl rfl
  refine ⟨?_, ?_, extended (basis.requestedNewEndTime dto) m, ?_, rfl⟩
  · rw [applied]
    simp [ExtensionBasis.request]
  · rw [applied]
    simp [totalExtensionMinutes, ExtensionBasis.request]
  · rw [meeting_update (found_row found), Function.update_self]

end Effects

section Limits
variable {policy : ExtensionPolicy} {i : Nat} {base : Int} {s s' : Store} {basis : ExtensionBasis}
  {dto : ExtensionRequestDto} {m : Meeting}

theorem one_more_fits {n : Nat} {limit : Rat} (fits : (n : Rat) < limit) :
    ((n + 1 : Nat) : Rat) ≤ limit ↔ Whole limit ∨ (n : Int) < ⌊limit⌋ := by
  constructor
  · intro below
    right
    have : ((n : Int) + 1 : Int) ≤ ⌊limit⌋ := by
      apply Int.le_floor.mpr
      exact_mod_cast below
    omega
  · rintro (⟨l, rfl⟩ | below)
    · have : n < l := by exact_mod_cast fits
      exact_mod_cast this
    · have : ((n : Int) + 1 : Int) ≤ ⌊limit⌋ := by omega
      exact_mod_cast Int.le_floor.mp this

theorem applied_granted_iff (granted : Granted policy i base s) (row : s.meetings.get? i = some m)
    (limited : m.endTime = basis.oldEndTime → WithinLimits policy i dto s)
    (applied : AppliedOnce i dto (basis.requestedNewEndTime dto) s s') :
    Granted policy i base s' ↔ m.endTime = basis.oldEndTime ∧
      (Whole policy.maxExtensionCountPerMeeting ∨
        (s.appliedRequests i).length < ⌊policy.maxExtensionCountPerMeeting⌋) := by
  obtain ⟨m', row', finish'⟩ := applied.end_time
  obtain ⟨m₀, row₀, finish⟩ := granted.end_time
  obtain rfl : m = m₀ := Option.some.inj (row.symm.trans row₀)
  have total : (totalExtensionMinutes (s'.appliedRequests i) : Int) =
      totalExtensionMinutes (s.appliedRequests i) + dto.extensionMinutes := by
    rw [applied.minutes]
    push_cast
    rfl
  have end_iff : m'.endTime = base + totalExtensionMinutes (s'.appliedRequests i) * minuteMs ↔
      m.endTime = basis.oldEndTime := by
    rw [finish', finish, total]
    unfold ExtensionBasis.requestedNewEndTime minuteMs
    omega
  constructor
  · intro kept
    obtain ⟨m₁, row₁, finish₁⟩ := kept.end_time
    obtain rfl : m' = m₁ := Option.some.inj (row'.symm.trans row₁)
    have fresh := end_iff.mp finish₁
    refine ⟨fresh, (one_more_fits (limited fresh).1).mp ?_⟩
    rw [← applied.count]
    exact kept.count
  · rintro ⟨fresh, whole⟩
    obtain ⟨below, fits⟩ := limited fresh
    refine ⟨?_, ?_, m', row', end_iff.mpr fresh⟩
    · rw [applied.count]
      exact (one_more_fits below).mpr whole
    · rw [applied.minutes]
      exact fits

end Limits

def ExtensionStage.pastLimits : ExtensionStage → Bool
  | .meetingRead => false
  | _ => true

/-- What the reads of a call still say, as long as the meeting ends when they said. -/
structure InStep (policy : ExtensionPolicy) (i : Nat) (s : Store) (c : ExtensionCall) : Prop where
  earlier : ∀ m, s.meetings.get? i = some m → c.basis.oldEndTime ≤ m.endTime
  limited : c.stage.pastLimits = true → ∀ m, s.meetings.get? i = some m →
    m.endTime = c.basis.oldEndTime → WithinLimits policy i c.dto s

def Tally (policy : ExtensionPolicy) (i : Nat) (base : Int) (q : Queue) : Prop :=
  Granted policy i base q.store ∧ ∀ c ∈ q.calls, InStep policy i q.store c

section Steps
variable {cfg : Config} {i : Nat} {base : Int} {q q' : Queue} {beat : Beat}

theorem mem_rest {c : ExtensionCall} {front back calls : List ExtensionCall}
    (waiting : calls = front ++ c :: back) :
    c ∈ calls ∧ ∀ d ∈ front ++ back, d ∈ calls := by
  subst waiting
  refine ⟨by simp, ?_⟩
  intro d hd
  rcases List.mem_append.mp hd with hd | hd
  · exact List.mem_append_left _ hd
  · exact List.mem_append_right _ (List.mem_cons_of_mem _ hd)

theorem proceed_in_step {c : ExtensionCall} {stage : ExtensionStage} {s : Store}
    (before : InStep cfg.policy i s c) (read : c.proceed cfg i s = some stage) :
    InStep cfg.policy i s { c with stage := stage } := by
  refine ⟨before.earlier, ?_⟩
  intro past m row same
  unfold ExtensionCall.proceed at read
  split at read
  · obtain ⟨u, checked, -⟩ := Option.map_eq_some_iff.mp read
    exact checkExtensionLimits_ok.mp (toOption_eq_some.mp checked)
  all_goals
    rename_i now
    exact before.limited (by rw [now]; rfl) m row same

theorem rejection_keeps_granted {s : Store} (c : ExtensionCall)
    (granted : Granted cfg.policy i base s) :
    Granted cfg.policy i base (handleRejectedPath c.basis i c.userId c.dto s) := by
  have same := rejected_applied (i := i) (s := s) c.userId c.dto c.basis
  obtain ⟨count, minutes, end_time⟩ := granted
  refine ⟨?_, ?_, ?_⟩ <;> rw [same]
  · exact count
  · exact minutes
  · exact end_time

theorem rejection_keeps_step {s : Store} {d : ExtensionCall} (c : ExtensionCall)
    (before : InStep cfg.policy i s d) :
    InStep cfg.policy i (handleRejectedPath c.basis i c.userId c.dto s) d := by
  refine ⟨before.earlier, ?_⟩
  intro past m row fresh
  unfold WithinLimits
  rw [rejected_applied]
  exact before.limited past m row fresh

theorem applied_in_step {s s' : Store} {c d : ExtensionCall} {m : Meeting}
    (row : s.meetings.get? i = some m) (fresh : m.endTime = c.basis.oldEndTime)
    (applied : AppliedOnce i c.dto (c.basis.requestedNewEndTime c.dto) s s')
    (before : InStep cfg.policy i s d) : InStep cfg.policy i s' d := by
  obtain ⟨m', row', finish⟩ := applied.end_time
  have gains := extension_gains c.basis c.dto
  have earlier := before.earlier m row
  have later : ∀ n, s'.meetings.get? i = some n → d.basis.oldEndTime < n.endTime := by
    intro n row''
    obtain rfl : m' = n := Option.some.inj (row'.symm.trans row'')
    omega
  refine ⟨fun n hn => (later n hn).le, fun _ n hn same => ?_⟩
  have := later n hn
  omega

theorem commit_cases {s s' : Store} {c : ExtensionCall} (written : c.commit i s = some s') :
    (∃ k m, c.stage = .cleared k ∧ s.findMeeting i = some m ∧ m.status = .inProgress ∧
        AppliedOnce i c.dto (c.basis.requestedNewEndTime c.dto) s s') ∨
      (∀ k m, c.stage = .cleared k → s.findMeeting i = some m → m.status ≠ .inProgress) ∧
        (s' = s ∨ s' = handleRejectedPath c.basis i c.userId c.dto s) := by
  unfold ExtensionCall.commit at written
  split at written
  · rename_i k now
    cases ran : handleAutoApplyPath c.basis i k c.userId c.dto s with
    | ok s₁ =>
      rw [ran] at written
      obtain rfl : s₁ = s' := Option.some.inj written
      obtain ⟨m, found, running, -⟩ := handleAutoApplyPath_ok.mp ran
      exact Or.inl ⟨k, m, now, found, running, autoApply_applies ran⟩
    | error e =>
      rw [ran] at written
      refine Or.inr ⟨fun k' m now' found running => ?_, Or.inl (Option.some.inj written).symm⟩
      obtain rfl : k = k' := ExtensionStage.cleared.inj (now.symm.trans now')
      have ok : ∃ s₁, handleAutoApplyPath c.basis i k c.userId c.dto s = .ok s₁ :=
        ⟨_, handleAutoApplyPath_ok.mpr ⟨m, found, running, rfl⟩⟩
      obtain ⟨s₁, ok⟩ := ok
      rw [ran] at ok
      cases ok
  · rename_i now
    refine Or.inr ⟨fun k m now' => ?_, Or.inr (Option.some.inj written).symm⟩
    rw [now] at now'
    cases now'
  · cases written

theorem commit_granted_iff {c : ExtensionCall} {s' : Store}
    (granted : Granted cfg.policy i base q.store) (here : InStep cfg.policy i q.store c)
    (written : c.commit i q.store = some s') :
    Granted cfg.policy i base s' ↔
      AppliesInTime cfg.policy i q (.commit c) := by
  rcases commit_cases written with ⟨k, m, now, found, running, applied⟩ | ⟨never, rfl | rfl⟩
  · have row := found_row found
    rw [applied_granted_iff granted row (here.limited (by rw [now]; rfl) m row) applied]
    constructor
    · intro timely k' m' _ found' _
      obtain rfl : m = m' := Option.some.inj (found.symm.trans found')
      exact timely
    · intro timely
      exact timely k m now found running
  · exact iff_of_true granted fun k m now found running => absurd running (never k m now found)
  · exact iff_of_true (rejection_keeps_granted c granted)
      fun k m now found running => absurd running (never k m now found)

theorem step_granted_iff (tally : Tally cfg.policy i base q) (step : QueueStep cfg i q beat q') :
    Granted cfg.policy i base q'.store ↔ AppliesInTime cfg.policy i q beat := by
  obtain ⟨granted, calls⟩ := tally
  cases step with
  | enter => exact iff_of_true granted trivial
  | proceed => exact iff_of_true granted trivial
  | commit c front back waiting written =>
    exact commit_granted_iff granted (calls c (mem_rest waiting).1) written

theorem step_tally (tally : Tally cfg.policy i base q) (step : QueueStep cfg i q beat q')
    (timely : AppliesInTime cfg.policy i q beat) : Tally cfg.policy i base q' := by
  refine ⟨(step_granted_iff tally step).mpr timely, ?_⟩
  obtain ⟨granted, calls⟩ := tally
  cases step with
  | @enter dto userId basis read =>
    intro c hc
    rcases List.mem_cons.mp hc with rfl | hc
    · obtain ⟨m, found, -, -, finish⟩ := readExtensionMeeting_ok read
      refine ⟨fun n row => ?_, fun past => by cases past⟩
      obtain rfl : m = n := Option.some.inj ((found_row found).symm.trans row)
      exact finish.ge
    · exact calls c hc
  | @proceed c stage front back waiting read =>
    obtain ⟨here, others⟩ := mem_rest waiting
    intro d hd
    rcases List.mem_append.mp hd with hd | hd
    · exact calls d (others d (List.mem_append_left _ hd))
    · rcases List.mem_cons.mp hd with rfl | hd
      · exact proceed_in_step (calls c here) read
      · exact calls d (others d (List.mem_append_right _ hd))
  | @commit c s' front back waiting written =>
    obtain ⟨here, others⟩ := mem_rest waiting
    intro d hd
    have before := calls d (others d hd)
    rcases commit_cases written with ⟨k, m, now, found, running, applied⟩ | ⟨-, rfl | rfl⟩
    · exact applied_in_step (found_row found) (timely k m now found running).1 applied before
    · exact before
    · exact rejection_keeps_step c before

end Steps

/-- Whatever the order of the steps, extensions are neither lost nor granted beyond the
    limits exactly when each is applied to the end time its call has read. -/
theorem extensions_granted_iff {cfg : Config} {s : Store} {i : Nat} {m : Meeting} {q : Queue}
    {moves : List (Move Queue Beat)} (row : s.meetings.get? i = some m)
    (unextended : s.appliedRequests i = []) (run : Run (QueueStep cfg i) ⟨s, []⟩ moves q) :
    (∀ a ∈ visited ⟨s, []⟩ moves, Granted cfg.policy i m.endTime a.store) ↔
      Heeds (AppliesInTime cfg.policy i) moves := by
  have start : Granted cfg.policy i m.endTime s := by
    refine ⟨?_, ?_, m, row, ?_⟩
    · simpa [unextended] using cfg.policy.count_pos.le
    · simpa [unextended, totalExtensionMinutes] using cfg.policy.total_pos.le
    · simp [unextended, totalExtensionMinutes]
  rw [forall_visited, and_iff_right start]
  exact run_good_iff (Tally cfg.policy i m.endTime)
    (fun _ _ q' => Granted cfg.policy i m.endTime q'.store) run
    ⟨start, fun c hc => absurd hc List.not_mem_nil⟩ step_tally step_granted_iff

section Samples

theorem call_completes (cfg : Config) {i k : Nat} {q : Queue} {c : ExtensionCall} {s' : Store}
    (front back : List ExtensionCall) (waiting : q.calls = front ++ c :: back)
    (fresh : c.stage = .meetingRead)
    (limits : checkExtensionLimits cfg.policy i c.dto q.store = .ok ())
    (active : readActiveBooking i q.store = .ok k)
    (fits : fitsBeforeNext cfg.policy c.basis c.dto k q.store = true)
    (written : handleAutoApplyPath c.basis i k c.userId c.dto q.store = .ok s') :
    ∃ moves, Run (QueueStep cfg i) q moves ⟨s', front ++ back⟩ := by
  obtain ⟨dto, userId, basis, stage⟩ := c
  simp only at fresh limits fits written
  subst fresh
  let call : ExtensionStage → ExtensionCall := fun stage => ⟨dto, userId, basis, stage⟩
  have first : QueueStep cfg i q (.proceed (call .meetingRead))
      { q with calls := front ++ call .withinLimits :: back } := by
    refine .proceed (call .meetingRead) front back waiting ?_
    simp [call, ExtensionCall.proceed, limits, Except.toOption]
  have second : QueueStep cfg i { q with calls := front ++ call .withinLimits :: back }
      (.proceed (call .withinLimits))
      { q with calls := front ++ call (.bookingFound k) :: back } := by
    refine .proceed (call .withinLimits) front back rfl ?_
    simp [call, ExtensionCall.proceed, active, Except.toOption]
  have third : QueueStep cfg i { q with calls := front ++ call (.bookingFound k) :: back }
      (.proceed (call (.bookingFound k))) { q with calls := front ++ call (.cleared k) :: back } := by
    refine .proceed (call (.bookingFound k)) front back rfl ?_
    simp [call, ExtensionCall.proceed, fits]
  have fourth : QueueStep cfg i { q with calls := front ++ call (.cleared k) :: back }
      (.commit (call (.cleared k))) ⟨s', front ++ back⟩ := by
    refine .commit (call (.cleared k)) front back rfl ?_
    simp [call, ExtensionCall.commit, written, Except.toOption]
  exact ⟨_, (((Run.nil.snoc first).snoc second).snoc third).snoc fourth⟩

def inProgressMeeting : List Op := approvedAtOnce ++ [.startMeeting 7200000 0 7]

def halfHourCall : ExtensionCall := ⟨halfAnHour, 7, ⟨1, 10800000⟩, .meetingRead⟩

theorem one_extension_granted : ∃ s m moves s',
    execAll (Config.load none none) inProgressMeeting Store.empty = some s ∧
      s.meetings.get? 0 = some m ∧
      Run (QueueStep (Config.load none none) 0) ⟨s, []⟩ moves ⟨s', []⟩ ∧
      (s'.appliedRequests 0).length = 1 ∧
      ((∀ a ∈ visited ⟨s, []⟩ moves,
          Granted (Config.load none none).policy 0 m.endTime a.store) ↔
        Heeds (AppliesInTime (Config.load none none).policy 0) moves) := by
  have start : ∃ s m s', execAll (Config.load none none) inProgressMeeting Store.empty = some s ∧
      s.meetings.get? 0 = some m ∧ s.appliedRequests 0 = [] ∧
      readExtensionMeeting 0 7 s = .ok ⟨1, 10800000⟩ ∧
      checkExtensionLimits (Config.load none none).policy 0 halfAnHour s = .ok () ∧
      readActiveBooking 0 s = .ok 0 ∧
      fitsBeforeNext (Config.load none none).policy ⟨1, 10800000⟩ halfAnHour 0 s = true ∧
      handleAutoApplyPath ⟨1, 10800000⟩ 0 0 7 halfAnHour s = .ok s' ∧
      (s'.appliedRequests 0).length = 1 :=
    ⟨_, _, _, rfl, rfl, rfl, rfl, by decide +kernel, rfl, rfl, rfl, rfl⟩
  obtain ⟨s, m, s', started, row, unextended, read, limits, active, fits, written, one⟩ := start
  have enters : QueueStep (Config.load none none) 0 ⟨s, []⟩ (.enter halfAnHour 7)
      ⟨s, [halfHourCall]⟩ := .enter read
  obtain ⟨moves, rest⟩ := call_completes (Config.load none none) (q := ⟨s, [halfHourCall]⟩)
    (c := halfHourCall) [] [] rfl rfl limits active fits written
  have run := (Run.nil.snoc enters).append rest
  exact ⟨s, m, _, s', started, row, run, one, extensions_granted_iff row unextended run⟩

theorem overlapping_extensions_get_lost : ∃ s m moves q,
    execAll (Config.load none none) inProgressMeeting Store.empty = some s ∧
      s.meetings.get? 0 = some m ∧ m.status = .inProgress ∧ s.appliedRequests 0 = [] ∧
      Run (QueueStep (Config.load none none) 0) ⟨s, []⟩ moves q ∧
      ¬ Granted (Config.load none none).policy 0 m.endTime q.store := by
  have start : ∃ s m s₁ s₂ m₂, execAll (Config.load none none) inProgressMeeting Store.empty =
        some s ∧
      s.meetings.get? 0 = some m ∧ m.status = .inProgress ∧ s.appliedRequests 0 = [] ∧
      readExtensionMeeting 0 7 s = .ok ⟨1, 10800000⟩ ∧
      checkExtensionLimits (Config.load none none).policy 0 halfAnHour s = .ok () ∧
      readActiveBooking 0 s = .ok 0 ∧
      fitsBeforeNext (Config.load none none).policy ⟨1, 10800000⟩ halfAnHour 0 s = true ∧
      handleAutoApplyPath ⟨1, 10800000⟩ 0 0 7 halfAnHour s = .ok s₁ ∧
      checkExtensionLimits (Config.load none none).policy 0 halfAnHour s₁ = .ok () ∧
      readActiveBooking 0 s₁ = .ok 0 ∧
      fitsBeforeNext (Config.load none none).policy ⟨1, 10800000⟩ halfAnHour 0 s₁ = true ∧
      handleAutoApplyPath ⟨1, 10800000⟩ 0 0 7 halfAnHour s₁ = .ok s₂ ∧
      s₂.meetings.get? 0 = some m₂ ∧ m.endTime = 10800000 ∧ m₂.endTime = 12600000 ∧
      totalExtensionMinutes (s₂.appliedRequests 0) = 60 :=
    ⟨_, _, _, _, _, rfl, rfl, rfl, rfl, rfl, by decide +kernel, rfl, rfl, rfl, by decide +kernel,
      rfl, rfl, rfl, rfl, rfl, rfl, rfl⟩
  obtain ⟨s, m, s₁, s₂, m₂, started, row, running, unextended, read, limits, active, fits, written,
    limits₁, active₁, fits₁, written₁, row₂, base, finish, sum⟩ := start
  have first : QueueStep (Config.load none none) 0 ⟨s, []⟩ (.enter halfAnHour 7)
      ⟨s, [halfHourCall]⟩ := .enter read
  have second : QueueStep (Config.load none none) 0 ⟨s, [halfHourCall]⟩ (.enter halfAnHour 7)
      ⟨s, [halfHourCall, halfHourCall]⟩ := .enter read
  obtain ⟨moves₁, run₁⟩ := call_completes (Config.load none none)
    (q := ⟨s, [halfHourCall, halfHourCall]⟩) (c := halfHourCall) [] [halfHourCall] rfl rfl limits active fits written
  obtain ⟨moves₂, run₂⟩ := call_completes (Config.load none none) (q := ⟨s₁, [halfHourCall]⟩)
    (c := halfHourCall) [] [] rfl rfl limits₁ active₁ fits₁ written₁
  have run := (((Run.nil.snoc first).snoc second).append run₁).append run₂
  refine ⟨s, m, _, _, started, row, running, unextended, run, ?_⟩
  intro granted
  obtain ⟨m', row', gained⟩ := granted.end_time
  obtain rfl : m₂ = m' := Option.some.inj (row₂.symm.trans row')
  simp only [sum, base, finish, minuteMs] at gained
  omega

end Samples

end MeetingBooking
