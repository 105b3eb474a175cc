import MeetingPlatform.NoShow.FinalStatuses

/- What the automatic release overlooks: the cases of a batch are selected once and let
   go one by one, so people and snoozes may come in between. -/
namespace NoShow
open KeyedTable LabelledRuns

/-- Nobody came, and the warning or the snooze has run out. -/
def Warranted (cfg : NoShowConfig) (o : Office) (c : NoShowCase) : Prop :=
  o.store.firstPresence c.bookingId = none ∧
  (c.detectionStatus = .warningSent →
    ∃ sent, c.warningSentAt = some sent ∧ sent + cfg.graceMs ≤ o.now) ∧
  (c.detectionStatus = .snoozed → ∃ u, c.snoozeUntil = some u ∧ u ≤ o.now)

/-- An automatic release that sets a booking to `released` is warranted. -/
def LetsGoFairly (cfg : NoShowConfig) (o : Office) (event : Event) (o' : Office) : Prop :=
  ∀ id rest seen, event = .work (.releasing (id :: rest) seen) →
    ∀ k b b', o.store.bookings.get? k = some b → o'.store.bookings.get? k = some b' →
      b.status ≠ .released → b'.status = .released →
        ∃ c, o.store.cases.get? id = some c ∧ c.bookingId = k ∧
          c.detectionStatus ∈ ReleaseMode.auto.validSources ∧ Warranted cfg o c

def Takes (o : Office) (id : Nat) (c : NoShowCase) : Prop :=
  o.store.releasable (autoReleaseParams id) = some c ∧ ∃ b, o.store.liveBooking c = some b

/-- A sign that speaks against releasing the case now. -/
def Objects (o : Office) (id : Nat) (c : NoShowCase) : Sign → Prop
  | .presence bookingId => bookingId = c.bookingId
  | .snoozed caseId u => caseId = id ∧ o.now < u

/-- Where an automatic release takes effect, no sign against it has come since the
    `SELECT` of its batch. -/
def Undisturbed (o : Office) : Event → Prop
  | .work (.releasing (id :: _) seen) =>
    ∀ c, Takes o id c → ∀ sign ∈ o.log.drop seen, ¬ Objects o id c sign
  | _ => True

def Told (o : Office) : Sign → Prop
  | .presence bookingId => (o.store.firstPresence bookingId).isSome
  | .snoozed id u => ∃ c, o.store.cases.get? id = some c ∧ c.detectionStatus ∉ snoozeSources ∧
      (c.detectionStatus = .snoozed → c.snoozeUntil = some u)

/-- A selected case is due but for the signs that came after the selection. -/
def Selected (o : Office) (seen id : Nat) : Prop :=
  ∃ c, o.store.cases.get? id = some c ∧ c.detectionStatus ≠ .risk ∧
    (c.detectionStatus = .warningSent → ∃ e, c.autoReleaseEligibleAt = some e ∧ e ≤ o.now) ∧
    (c.detectionStatus = .snoozed →
      ∃ u, c.snoozeUntil = some u ∧ (u ≤ o.now ∨ .snoozed id u ∈ o.log.drop seen)) ∧
    ((o.store.firstPresence c.bookingId).isSome → .presence c.bookingId ∈ o.log.drop seen)

def Job.Picked (o : Office) : Job → Prop
  | .releasing rest seen => seen ≤ o.log.length ∧ ∀ id ∈ rest, Selected o seen id
  | _ => True

def Dated (cfg : NoShowConfig) (c : NoShowCase) : Prop :=
  c.detectionStatus = .warningSent →
    ∃ sent, c.warningSentAt = some sent ∧ c.autoReleaseEligibleAt = some (sent + cfg.graceMs)

structure Watched (cfg : NoShowConfig) (o : Office) : Prop where
  dated : ∀ id c, o.store.cases.get? id = some c → Dated cfg c
  told : ∀ sign ∈ o.log, Told o sign
  picked : ∀ job ∈ o.jobs, job.Picked o

section Signs
variable {cfg : NoShowConfig} {o o' : Office} {event : Event} {id : Nat} {c c' : NoShowCase}

theorem Change.bookingId (change : Change cfg o o' id c event c') : c'.bookingId = c.bookingId := by
  cases change <;> rfl

theorem target_cases (target : Option UpdateTarget) (st : NoShowDetectionStatus) :
    (target.map UpdateTarget.status).getD st = st ∨
      ((target.map UpdateTarget.status).getD st).beyondRelease = true := by
  cases target with
  | none => exact Or.inl rfl
  | some t => cases t <;> exact Or.inr rfl

theorem Change.cases (change : Change cfg o o' id c event c') :
    (c'.detectionStatus = c.detectionStatus ∧ c'.warningSentAt = c.warningSentAt ∧
      c'.autoReleaseEligibleAt = c.autoReleaseEligibleAt ∧ c'.snoozeUntil = c.snoozeUntil) ∨
    (c.detectionStatus = .risk ∧ c' = c.warned cfg o.now) ∨
    (c.detectionStatus ∈ snoozeSources ∧ c'.detectionStatus = .snoozed ∧
      ∃ u, c'.snoozeUntil = some u ∧ o'.log = o.log ++ [.snoozed id u]) ∨
    c'.detectionStatus ∉ unsettled := by
  cases change with
  | kept => exact Or.inl ⟨rfl, rfl, rfl, rfl⟩
  | reconciled => exact Or.inr (Or.inr (Or.inr (by simp [NoShowCase.reconciled, unsettled])))
  | warned rest risk => exact Or.inr (Or.inl ⟨risk, rfl⟩)
  | putOff userId note source logged =>
    exact Or.inr (Or.inr (Or.inl ⟨source, rfl, _, rfl, logged⟩))
  | updated target dto userId =>
    rcases target_cases target c.detectionStatus with same | beyond
    · exact Or.inl ⟨same, rfl, rfl, rfl⟩
    · right; right; right
      intro open_yet
      have here : (c.updated target dto userId).detectionStatus.beyondRelease = true := beyond
      cases st : (c.updated target dto userId).detectionStatus <;>
        simp [st, unsettled, NoShowDetectionStatus.beyondRelease] at here open_yet
  | letGo => exact Or.inr (Or.inr (Or.inr (by simp [NoShowCase.letGo, unsettled])))

theorem clock_of_step (step : Step cfg o event o') : o.now ≤ o'.now := by
  cases step with
  | tick now later => exact later
  | create | presence | elsewhere | reconcile | call | work => exact Int.le_refl _

theorem upsert_presence (bookingId : Nat) (first last : Int) (s : Store) (k : Nat) :
    ((upsertPresenceConfirmation bookingId first last s).firstPresence k).isSome =
      (decide (k = bookingId) || (s.firstPresence k).isSome) := by
  by_cases here : k = bookingId
  · subst here
    simp only [upsertPresenceConfirmation, Store.firstPresence, Function.update_self]
    cases s.usages k with
    | none => simp
    | some u => by_cases seen : u.firstPresenceAt.isSome <;> simp [seen]
  · simp [upsertPresenceConfirmation, Store.firstPresence, here]

theorem release_presence (p : ReleaseParams) (now : Int) (s : Store) (k : Nat) :
    (release p now s).2.firstPresence k = s.firstPresence k := by
  rcases release_cases p now s with ⟨-, same⟩ | ⟨_, -, -, same⟩ | ⟨d, b, -, -, after⟩
  · rw [same]
  · rw [same]
  · rw [after]
    exact firstPresence_letGo s p now d.bookingId k

theorem run_presence (job : Job) (k : Nat) :
    (job.run cfg o).store.firstPresence k = o.store.firstPresence k := by
  rcases run_store cfg o job with same | ⟨p, f, after⟩ | ⟨params, after⟩
  · rw [same]
  · rw [after]
    rfl
  · rw [after, release_presence]

theorem presence_of_step (step : Step cfg o event o') (k : Nat) :
    (o'.store.firstPresence k).isSome ↔ (o.store.firstPresence k).isSome ∨
      ∃ first last, event = .presence k first last := by
  cases step with
  | presence bookingId first last =>
    rw [upsert_presence, Bool.or_eq_true, decide_eq_true_eq, or_comm]
    apply or_congr_right
    constructor
    · intro here
      exact ⟨first, last, by rw [here]⟩
    · rintro ⟨_, _, same⟩
      exact (Event.presence.inj same).1.symm
  | work job front back here => simp [Office.absorb, run_presence]
  | call call => simp [Office.absorb, start_writes_nothing]
  | create input =>
    simp only [create]
    split <;> simp [Store.firstPresence]
  | tick | elsewhere | reconcile => simp [Store.firstPresence, reconcilePresence]

theorem run_signs {job : Job} {sign : Sign} (new : sign ∈ (job.run cfg o).signs)
    (after : o'.store = (job.run cfg o).store) : Told o' sign := by
  cases job with
  | warning todo => cases todo <;> cases new
  | releasing todo seen => cases todo <;> cases new
  | snoozing id userId note =>
    cases matched : o.store.snoozable id with
    | none =>
      simp only [Job.run, matched] at new
      cases new
    | some c =>
      simp only [Job.run, matched] at new after
      obtain rfl := List.mem_singleton.mp new
      obtain ⟨row, source⟩ := snoozable_eq_some.mp matched
      refine ⟨c.putOff cfg o.now userId note, ?_, by simp [NoShowCase.putOff, snoozeSources],
        fun _ => rfl⟩
      rw [after]
      simp [snoozeCase, get?_updateWhere, row, source]
  | rereading id =>
    simp only [Job.run] at new
    split at new <;> cases new
  | updating id target dto userId => cases new
  | overriding id reason adminId => cases new
  | answering id found answer => cases new

theorem log_of_step (step : Step cfg o event o') :
    ∃ signs, o'.log = o.log ++ signs ∧ ∀ sign ∈ signs, Told o' sign := by
  cases step with
  | presence bookingId first last =>
    refine ⟨[.presence bookingId], rfl, ?_⟩
    intro sign new
    obtain rfl := List.mem_singleton.mp new
    simp [Told, upsert_presence]
  | work job front back here => exact ⟨_, rfl, fun sign new => run_signs new rfl⟩
  | call call => exact ⟨[], by simp [Office.absorb, start_writes_nothing], fun _ new => by cases new⟩
  | create | tick | elsewhere | reconcile => exact ⟨[], by simp, fun _ new => by cases new⟩

end Signs

section Invariant
variable {cfg : NoShowConfig} {o o' : Office} {event : Event} {id : Nat} {c : NoShowCase}

theorem since_of_step {seen : Nat} {sign : Sign} (step : Step cfg o event o')
    (old : seen ≤ o.log.length) (there : sign ∈ o.log.drop seen) : sign ∈ o'.log.drop seen := by
  obtain ⟨signs, grown, -⟩ := log_of_step step
  rw [grown, List.drop_append_of_le_length old]
  exact List.mem_append_left _ there

theorem newly_since {seen : Nat} {sign : Sign} (old : seen ≤ o.log.length)
    (logged : o'.log = o.log ++ [sign]) : sign ∈ o'.log.drop seen := by
  rw [logged, List.drop_append_of_le_length old]
  exact List.mem_append_right _ (List.mem_singleton_self _)

theorem Told.kept {sign : Sign} (told : Told o sign) (step : Step cfg o event o') :
    Told o' sign := by
  cases sign with
  | presence k => exact (presence_of_step step k).mpr (Or.inl told)
  | snoozed k u =>
    obtain ⟨c, row, source, until_⟩ := told
    obtain ⟨c', row', change⟩ := change_of_step step row
    refine ⟨c', row', ?_⟩
    rcases change.cases with ⟨status, -, -, snooze⟩ | ⟨risk, -⟩ | ⟨open_yet, -⟩ | out
    · rw [status, snooze]
      exact ⟨source, until_⟩
    · exact absurd (by simp [risk, snoozeSources]) source
    · exact absurd open_yet source
    · cases st : c'.detectionStatus <;> simp [st, unsettled, snoozeSources] at out ⊢

theorem Selected.kept {seen : Nat} (selected : Selected o seen id) (old : seen ≤ o.log.length)
    (step : Step cfg o event o') : Selected o' seen id := by
  obtain ⟨c, row, risk, warned, snoozed, present⟩ := selected
  obtain ⟨c', row', change⟩ := change_of_step step row
  have later := clock_of_step step
  have present' : (o'.store.firstPresence c'.bookingId).isSome →
      .presence c'.bookingId ∈ o'.log.drop seen := by
    rw [change.bookingId]
    intro there
    rcases (presence_of_step step c.bookingId).mp there with before | ⟨first, last, rfl⟩
    · exact since_of_step step old (present before)
    · cases step
      exact newly_since old rfl
  refine ⟨c', row', ?_⟩
  rcases change.cases with ⟨status, -, eligible, snooze⟩ | ⟨open_yet, -⟩ | ⟨-, st, u, until_, logged⟩ | out
  · rw [status, eligible, snooze]
    refine ⟨risk, ?_, ?_, present'⟩
    · intro st
      obtain ⟨e, dated, due⟩ := warned st
      exact ⟨e, dated, by omega⟩
    · intro st
      obtain ⟨u, until_, passed | there⟩ := snoozed st
      · exact ⟨u, until_, Or.inl (by omega)⟩
      · exact ⟨u, until_, Or.inr (since_of_step step old there)⟩
  · exact absurd open_yet risk
  · rw [st]
    refine ⟨by decide, ?_, ?_, present'⟩
    · intro other
      cases other
    · intro _
      exact ⟨u, until_, Or.inr (newly_since old logged)⟩
  · refine ⟨?_, ?_, ?_, present'⟩ <;> intro st <;> simp [st, unsettled] at out

theorem Job.Picked.kept {job : Job} (picked : job.Picked o) (step : Step cfg o event o') :
    job.Picked o' := by
  unfold Job.Picked at picked ⊢
  split
  · obtain ⟨old, selected⟩ := picked
    obtain ⟨signs, grown, -⟩ := log_of_step step
    refine ⟨by rw [grown, List.length_append]; omega, ?_⟩
    intro id member
    exact (selected id member).kept old step
  · trivial

theorem mem_autoReleaseCandidates {now : Int} {s : Store}
    (candidate : id ∈ autoReleaseCandidates cfg now s) :
    ∃ c, s.cases.get? id = some c ∧ s.unattended c = true ∧
      ((c.detectionStatus = .warningSent ∧ ∃ e, c.autoReleaseEligibleAt = some e ∧ e ≤ now) ∨
        (c.detectionStatus = .snoozed ∧ ∃ u, c.snoozeUntil = some u ∧ u ≤ now)) := by
  unfold autoReleaseCandidates at candidate
  split at candidate
  · obtain ⟨⟨k, c⟩, chosen, rfl⟩ := List.mem_map.mp candidate
    obtain ⟨row, due⟩ := mem_select.mp chosen
    simp only [decide_eq_true_eq, Option.any_eq_true] at due
    exact ⟨c, get?_eq_some.mpr row, due⟩
  · cases candidate

theorem candidate_selected (candidate : id ∈ autoReleaseCandidates cfg o.now o.store) (seen : Nat) :
    Selected o seen id := by
  obtain ⟨c, row, alone, due⟩ := mem_autoReleaseCandidates candidate
  simp only [Store.unattended, decide_eq_true_eq] at alone
  refine ⟨c, row, ?_, ?_, ?_, ?_⟩
  · rcases due with ⟨st, -⟩ | ⟨st, -⟩ <;> simp [st]
  · intro warned
    rcases due with ⟨-, eligible⟩ | ⟨st, -⟩
    · exact eligible
    · simp [st] at warned
  · intro snoozed
    rcases due with ⟨st, -⟩ | ⟨-, u, until_, passed⟩
    · simp [st] at snoozed
    · exact ⟨u, until_, Or.inl passed⟩
  · rw [alone.2]
    intro never
    cases never

theorem opened_picked {call : Call} {job : Job} (opens : Opens cfg o call job) :
    job.Picked o := by
  cases opens with
  | warning | snoozing | updating | answering | overriding => trivial
  | releasing => exact ⟨Nat.le_refl _, fun id candidate => candidate_selected candidate _⟩

theorem going_on_picked {before job : Job} (picked : before.Picked o)
    (goes_on : GoesOn cfg o before job) : job.Picked o := by
  cases goes_on with
  | warning | rereading | answering => trivial
  | releasing id rest seen =>
    exact ⟨picked.1, fun k member => picked.2 k (List.mem_cons_of_mem _ member)⟩

theorem dated_of_step (watched : Watched cfg o) (step : Step cfg o event o')
    (row' : o'.store.cases.get? id = some c) : Dated cfg c := by
  intro st
  cases before : o.store.cases.get? id with
  | none =>
    obtain ⟨input, rfl⟩ := fresh_of_step step before row'
    simp only [CreateNoShowInput.row] at st
    split at st <;> cases st
  | some d =>
    obtain ⟨c', there, change⟩ := change_of_step step before
    obtain rfl := Option.some.inj (row'.symm.trans there)
    rcases change.cases with ⟨status, sent, eligible, -⟩ | ⟨-, rfl⟩ | ⟨-, snoozed, -⟩ | out
    · rw [sent, eligible]
      exact watched.dated id d before (status ▸ st)
    · exact ⟨o.now, rfl, rfl⟩
    · rw [snoozed] at st
      cases st
    · simp [st, unsettled] at out

theorem step_watched (watched : Watched cfg o) (step : Step cfg o event o') : Watched cfg o' where
  dated id c row := dated_of_step watched step row
  told := by
    obtain ⟨signs, grown, new⟩ := log_of_step step
    intro sign there
    rw [grown] at there
    rcases List.mem_append.mp there with old | fresh
    · exact (watched.told sign old).kept step
    · exact new sign fresh
  picked := by
    intro job waits
    rcases job_of_step step waits with old | ⟨call, rfl, opens⟩ | ⟨before, rfl, old, goes_on⟩
    · exact (watched.picked job old).kept step
    · exact (opened_picked opens).kept step
    · exact (going_on_picked (watched.picked before old) goes_on).kept step

theorem lets_go_iff {rest : List Nat} {seen : Nat}
    (step : Step cfg o (.work (.releasing (id :: rest) seen)) o') :
    LetsGoFairly cfg o (.work (.releasing (id :: rest) seen)) o' ↔
      ∀ c, Takes o id c → Warranted cfg o c := by
  cases step
  constructor
  · intro fair c takes
    obtain ⟨matched, b, live⟩ := takes
    obtain ⟨row, holds⟩ := Option.filter_eq_some_iff.mp live
    have held : b.status ≠ .released := by
      intro released
      simp [released, MeetingBooking.RoomBookingStatus.holdsRoom] at holds
    have after : (release (autoReleaseParams id) o.now o.store).2.bookings.get? c.bookingId =
        some { b with status := .released } := by
      simp [release, matched, live, Store.letGo, get?_update, row]
    obtain ⟨d, there, -, -, warranted⟩ := fair id rest seen rfl c.bookingId b _ row after held rfl
    obtain rfl := Option.some.inj ((releasable_eq_some.mp matched).1.symm.trans there)
    exact warranted
  · intro all k rest' seen' same j b b' row after held released
    cases same
    rcases release_cases (autoReleaseParams id) o.now o.store with
      ⟨-, same⟩ | ⟨_, -, -, same⟩ | ⟨c, d, matched, live, done⟩
    · simp only [Office.absorb, Job.run, same, row, Option.some.injEq] at after
      exact absurd (after ▸ released) held
    · simp only [Office.absorb, Job.run, same, row, Option.some.injEq] at after
      exact absurd (after ▸ released) held
    · simp only [Office.absorb, Job.run, done, Store.letGo, get?_update, row] at after
      split at after
      · rename_i here
        obtain ⟨there, source⟩ := releasable_eq_some.mp matched
        exact ⟨c, there, here.symm, source, all c ⟨matched, d, live⟩⟩
      · exact absurd (Option.some.inj after ▸ released) held

theorem warranted_iff (watched : Watched cfg o) {seen : Nat} (selected : Selected o seen id)
    (takes : Takes o id c) :
    Warranted cfg o c ↔ ∀ sign ∈ o.log.drop seen, ¬ Objects o id c sign := by
  obtain ⟨row, source⟩ := releasable_eq_some.mp takes.1
  have known : o.store.cases.get? id = some c := row
  obtain ⟨c', row', -, warned, snoozed, present⟩ := selected
  obtain rfl := Option.some.inj (known.symm.trans row')
  constructor
  · intro warranted sign there objects
    obtain ⟨alone, -, passed⟩ := warranted
    have told := watched.told sign (List.mem_of_mem_drop there)
    cases sign with
    | presence k =>
      obtain rfl : k = c.bookingId := objects
      simp [Told, alone] at told
    | snoozed k u =>
      obtain ⟨rfl, ahead⟩ := objects
      obtain ⟨d, row', open_yet, until_⟩ := told
      obtain rfl := Option.some.inj (known.symm.trans row')
      have st : c.detectionStatus = .snoozed := by
        cases st : c.detectionStatus <;>
          simp [st, snoozeSources, autoReleaseParams, ReleaseMode.validSources] at open_yet source ⊢
      obtain ⟨v, set, before⟩ := passed st
      obtain rfl := Option.some.inj ((until_ st).symm.trans set)
      omega
  · intro quiet
    refine ⟨?_, ?_, ?_⟩
    · rw [← Option.not_isSome_iff_eq_none]
      intro there
      exact quiet _ (present there) rfl
    · intro st
      obtain ⟨e, eligible, due⟩ := warned st
      obtain ⟨sent, told, dated⟩ := watched.dated id c known st
      obtain rfl := Option.some.inj (dated.symm.trans eligible)
      exact ⟨sent, told, due⟩
    · intro st
      obtain ⟨u, until_, passed | there⟩ := snoozed st
      · exact ⟨u, until_, passed⟩
      · refine ⟨u, until_, ?_⟩
        have := quiet _ there
        simp only [Objects, true_and, Int.not_lt] at this
        exact this

theorem step_undisturbed_iff (watched : Watched cfg o) (step : Step cfg o event o') :
    LetsGoFairly cfg o event o' ↔ Undisturbed o event := by
  unfold Undisturbed
  split
  · rename_i id rest seen
    rw [lets_go_iff step]
    have picked : Job.Picked o (.releasing (id :: rest) seen) :=
      watched.picked _ (working_waits step)
    apply forall_congr'
    intro c
    apply forall_congr'
    intro takes
    exact warranted_iff watched (picked.2 id List.mem_cons_self) takes
  · rename_i other
    refine iff_of_true ?_ trivial
    intro id rest seen same
    exact absurd same (other id rest seen)

end Invariant

/-- No room in use and no snoozed case is let go in exactly the runs where nobody comes
    and no snooze starts between the `SELECT` of a batch and the release. -/
theorem rooms_let_go_fairly_iff (cfg : NoShowConfig) {start finish : Office}
    {moves : List (Move Office Event)} (run : Run (Step cfg) start moves finish)
    (no_cases : start.store.cases = .empty) (idle : start.jobs = []) (silent : start.log = []) :
    (∀ m ∈ moves, LetsGoFairly cfg m.before m.label m.after) ↔ Heeds Undisturbed moves := by
  have watched : Watched cfg start := by
    constructor
    · intro id c row
      rw [no_cases, get?_eq_some, mem_empty] at row
      exact row.elim
    · intro sign there
      rw [silent] at there
      cases there
    · intro job waits
      rw [idle] at waits
      cases waits
  exact run_good_iff (Watched cfg) (LetsGoFairly cfg) run watched
    (fun watched step _ => step_watched watched step) step_undisturbed_iff

theorem empty_room_let_go : ∃ moves finish, Run (Step unconfigured) oneBooking moves finish ∧
    finish.store.bookings.get? 0 = some ⟨0, 0, 0, 3600000, .released⟩ ∧
    ((∀ m ∈ moves, LetsGoFairly unconfigured m.before m.label m.after) ↔
      Heeds Undisturbed moves) := by
  have idle : Run (Step unconfigured) oneBooking [] oneBooking := .nil
  have detected := idle.snoc (.create _ ⟨0, 0, 0, false⟩)
  have warned := (detected.snoc (.call _ .warnBatch)).snoc (.work _ (.warning [0]) [] [] rfl)
  have due := (warned.snoc (.tick _ 300000 (by decide))).snoc (.call _ .autoReleaseBatch)
  have gone := due.snoc (.work _ (.releasing [0] 0) [.warning []] [] rfl)
  exact ⟨_, _, gone, by rfl, rooms_let_go_fairly_iff _ gone rfl rfl rfl⟩

theorem occupied_room_let_go : ∃ moves finish, Run (Step unconfigured) oneBooking moves finish ∧
    ¬ ∀ m ∈ moves, LetsGoFairly unconfigured m.before m.label m.after := by
  have idle : Run (Step unconfigured) oneBooking [] oneBooking := .nil
  have detected := idle.snoc (.create _ ⟨0, 0, 0, false⟩)
  have warned := (detected.snoc (.call _ .warnBatch)).snoc (.work _ (.warning [0]) [] [] rfl)
  have due := (warned.snoc (.tick _ 300000 (by decide))).snoc (.call _ .autoReleaseBatch)
  have occupied := due.snoc (.presence _ 0 300000 300000)
  have gone := occupied.snoc (.work _ (.releasing [0] 0) [.warning []] [] rfl)
  refine ⟨_, _, gone, ?_⟩
  intro fair
  obtain ⟨c, row, room, -, alone, -⟩ :=
    fair _ (List.mem_append_right _ (List.mem_singleton_self _)) 0 [] 0 rfl 0
      ⟨0, 0, 0, 3600000, .approved⟩ ⟨0, 0, 0, 3600000, .released⟩ rfl rfl (by decide) rfl
  rw [room] at alone
  revert alone
  decide

end NoShow
