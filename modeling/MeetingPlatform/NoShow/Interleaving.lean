import MeetingPlatform.NoShow.Cases
import MeetingPlatform.Lib.Runs

/- The calls of the no-show services as they run side by side. A call reads first; each
   statement it runs afterwards is a step of its own and finds what the others left. -/
namespace NoShow
open KeyedTable Guards LabelledRuns
open MeetingBooking (ApiError RoomBooking)

/-- What a batch can overlook: somebody came, or somebody is still coming. -/
inductive Sign where
  | presence (bookingId : Nat)
  | snoozed (caseId : Nat) (until_ : Int)
  deriving DecidableEq, Repr

inductive Reply where
  | shown (id : Nat) (row : NoShowCase) (alreadySnoozed : Option Bool)
      (extensionMinutes : Option Int)
  | release (response : ManualReleaseResponse)

/-- The rest of a call. `seen` counts the signs there were at the `SELECT` of the batch,
    `found` is the status of the case at the decisive statement of a manual release. -/
inductive Job where
  | warning (rest : List Nat)
  | releasing (rest : List Nat) (seen : Nat)
  | snoozing (id : Nat) (userId : Option Nat) (note : Option String)
  | rereading (id : Nat)
  | updating (id : Nat) (target : Option UpdateTarget) (dto : UpdateNoShowDto)
      (userId : Option Nat)
  | overriding (id : Nat) (reason : String) (adminId : Option Nat)
  | answering (id : Nat) (found : Option NoShowDetectionStatus)
      (answer : Except ApiError ManualReleaseResponse)

structure Office where
  store : Store
  now : Int
  log : List Sign
  jobs : List Job
  replies : List (Except ApiError Reply)

structure Outcome where
  store : Store
  signs : List Sign := []
  next : List Job := []
  replies : List (Except ApiError Reply) := []

def Office.absorb (o : Office) (out : Outcome) : Office :=
  ⟨out.store, o.now, o.log ++ out.signs, o.jobs ++ out.next, o.replies ++ out.replies⟩

def Office.status (o : Office) (id : Nat) : Option NoShowDetectionStatus :=
  (o.store.cases.get? id).map NoShowCase.detectionStatus

inductive Call where
  | warnBatch
  | autoReleaseBatch
  | snooze (authz : Authz) (id : Nat) (userId : Option Nat) (note : Option String)
  | update (authz : Authz) (id : Nat) (dto : UpdateNoShowDto) (userId : Option Nat)
  | manualRelease (id : Nat) (reason : String) (adminId : Option Nat)

def Call.start (cfg : NoShowConfig) (o : Office) : Call → Outcome
  | .warnBatch => { store := o.store, next := [.warning (warnCandidates cfg o.now o.store)] }
  | .autoReleaseBatch =>
    { store := o.store
      next := [.releasing (autoReleaseCandidates cfg o.now o.store) o.log.length] }
  | .snooze authz id userId note =>
    match checkSnooze authz id userId o.store with
    | .error e => { store := o.store, replies := [.error e] }
    | .ok (some c) => { store := o.store, replies := [.ok (.shown id c (some true) none)] }
    | .ok none => { store := o.store, next := [.snoozing id userId note] }
  | .update authz id dto userId =>
    match checkUpdate authz id dto userId o.store with
    | .error e => { store := o.store, replies := [.error e] }
    | .ok target => { store := o.store, next := [.updating id target dto userId] }
  | .manualRelease id reason adminId =>
    match checkManualRelease id o.store with
    | .error e => { store := o.store, replies := [.error e] }
    | .ok (some response) =>
      { store := o.store, next := [.answering id (o.status id) (.ok response)] }
    | .ok none => { store := o.store, next := [.overriding id reason adminId] }

def Job.run (cfg : NoShowConfig) (o : Office) : Job → Outcome
  | .warning [] => { store := o.store }
  | .warning (id :: rest) =>
    { store := warnCase cfg o.now id o.store, next := [.warning rest] }
  | .releasing [] _ => { store := o.store }
  | .releasing (id :: rest) seen =>
    { store := (release (autoReleaseParams id) o.now o.store).2, next := [.releasing rest seen] }
  | .snoozing id userId note =>
    match o.store.snoozable id with
    | none => { store := o.store, next := [.rereading id] }
    | some c =>
      { store := snoozeCase cfg o.now id userId note o.store
        signs := [.snoozed id (o.now + cfg.confirmExtensionMinutes * MeetingBooking.minuteMs)]
        replies := [.ok (.shown id (c.putOff cfg o.now userId note) (some false)
          (some cfg.confirmExtensionMinutes))] }
  | .rereading id =>
    match (o.store.cases.get? id).filter fun c => c.detectionStatus = .snoozed with
    | some c => { store := o.store, replies := [.ok (.shown id c (some true) none)] }
    | none => { store := o.store, replies := [.error alreadyFinalized] }
  | .updating id target dto userId =>
    { store := updateCase id target dto userId o.store
      replies := (o.store.cases.get? id).toList.map fun c =>
        .ok (.shown id (c.updated target dto userId) none none) }
  | .overriding id reason adminId =>
    let r := release ⟨id, adminId, reason, .manual⟩ o.now o.store
    { store := r.2, next := [.answering id (o.status id) (manualReleaseResponse id r.1)] }
  | .answering _ _ answer => { store := o.store, replies := [answer.map Reply.release] }

inductive Event where
  | tick (now : Int)
  | create (input : CreateNoShowInput)
  | presence (bookingId : Nat) (first last : Int)
  | elsewhere (bookings : Table RoomBooking)
  | reconcile
  | call (c : Call)
  | work (job : Job)

/-- Other services change bookings in any way they like. -/
inductive Step (cfg : NoShowConfig) : Office → Event → Office → Prop where
  | tick (o : Office) (now : Int) (later : o.now ≤ now) : Step cfg o (.tick now) { o with now }
  | create (o : Office) (input : CreateNoShowInput) :
      Step cfg o (.create input) { o with store := create input o.now o.store }
  | presence (o : Office) (bookingId : Nat) (first last : Int) :
      Step cfg o (.presence bookingId first last)
        { o with
          store := upsertPresenceConfirmation bookingId first last o.store
          log := o.log ++ [.presence bookingId] }
  | elsewhere (o : Office) (bookings : Table RoomBooking) :
      Step cfg o (.elsewhere bookings) { o with store := { o.store with bookings } }
  | reconcile (o : Office) :
      Step cfg o .reconcile { o with store := reconcilePresence o.store }
  | call (o : Office) (c : Call) : Step cfg o (.call c) (o.absorb (c.start cfg o))
  | work (o : Office) (job : Job) (front back : List Job) (here : o.jobs = front ++ job :: back) :
      Step cfg o (.work job) ({ o with jobs := front ++ back }.absorb (job.run cfg o))

section Rows
variable {cfg : NoShowConfig} {o o' : Office} {event : Event} {id : Nat} {c c' : NoShowCase}

/-- All that one step can do to a stored case. -/
inductive Change (cfg : NoShowConfig) (o o' : Office) (id : Nat) (c : NoShowCase) :
    Event → NoShowCase → Prop where
  | kept (event : Event) : Change cfg o o' id c event c
  | reconciled (unsettled : c.detectionStatus ∈ unsettled) :
      Change cfg o o' id c .reconcile c.reconciled
  | warned (rest : List Nat) (risk : c.detectionStatus = .risk) :
      Change cfg o o' id c (.work (.warning (id :: rest))) (c.warned cfg o.now)
  | putOff (userId : Option Nat) (note : Option String) (source : c.detectionStatus ∈ snoozeSources)
      (logged : o'.log = o.log ++
        [.snoozed id (o.now + cfg.confirmExtensionMinutes * MeetingBooking.minuteMs)]) :
      Change cfg o o' id c (.work (.snoozing id userId note)) (c.putOff cfg o.now userId note)
  | updated (target : Option UpdateTarget) (dto : UpdateNoShowDto) (userId : Option Nat) :
      Change cfg o o' id c (.work (.updating id target dto userId)) (c.updated target dto userId)
  | letGo (event : Event) (p : ReleaseParams)
      (source : c.detectionStatus ∈ p.mode.validSources) :
      Change cfg o o' id c event (c.letGo p o.now)

theorem releasable_eq_some {s : Store} {p : ReleaseParams} :
    s.releasable p = some c ↔
      s.cases.get? p.caseId = some c ∧ c.detectionStatus ∈ p.mode.validSources := by
  simp [Store.releasable, Option.filter_eq_some_iff]

theorem snoozable_eq_some {s : Store} :
    s.snoozable id = some c ↔ s.cases.get? id = some c ∧ c.detectionStatus ∈ snoozeSources := by
  simp [Store.snoozable, Option.filter_eq_some_iff]

theorem release_cases (p : ReleaseParams) (now : Int) (s : Store) :
    (s.releasable p = none ∧ release p now s = (.alreadyReleased, s)) ∨
    (∃ c, s.releasable p = some c ∧ s.liveBooking c = none ∧
      release p now s = (.bookingChanged, s)) ∨
    ∃ c b, s.releasable p = some c ∧ s.liveBooking c = some b ∧
      release p now s = (.released, s.letGo p now c.bookingId) := by
  cases matched : s.releasable p with
  | none =>
    left
    simp [release, matched]
  | some c =>
    right
    cases live : s.liveBooking c with
    | none =>
      left
      exact ⟨c, rfl, live, by simp [release, matched, live]⟩
    | some b =>
      right
      exact ⟨c, b, rfl, live, by simp [release, matched, live]⟩

theorem firstPresence_letGo (s : Store) (p : ReleaseParams) (now : Int) (bookingId i : Nat) :
    (s.letGo p now bookingId).firstPresence i = s.firstPresence i := by
  by_cases here : i = bookingId
  · subst here
    simp only [Store.firstPresence, Store.letGo, Function.update_self]
    cases s.usages i <;> rfl
  · simp [Store.firstPresence, Store.letGo, Function.update_of_ne here]

theorem release_change {p : ReleaseParams} (row : o.store.cases.get? id = some c) :
    ∃ c', (release p o.now o.store).2.cases.get? id = some c' ∧ Change cfg o o' id c event c' := by
  rcases release_cases p o.now o.store with ⟨-, same⟩ | ⟨_, -, -, same⟩ | ⟨d, b, matched, -, after⟩
  · rw [same]
    exact ⟨c, row, .kept event⟩
  · rw [same]
    exact ⟨c, row, .kept event⟩
  · rw [after]
    obtain ⟨there, source⟩ := releasable_eq_some.mp matched
    simp only [Store.letGo, get?_update]
    split
    · rename_i here
      subst here
      obtain rfl := Option.some.inj (row.symm.trans there)
      exact ⟨_, congrArg _ row, .letGo event p source⟩
    · exact ⟨c, row, .kept event⟩

theorem start_writes_nothing (call : Call) :
    (call.start cfg o).store = o.store ∧ (call.start cfg o).signs = [] := by
  cases call with
  | warnBatch => exact ⟨rfl, rfl⟩
  | autoReleaseBatch => exact ⟨rfl, rfl⟩
  | snooze authz id userId note =>
    simp only [Call.start]
    split <;> exact ⟨rfl, rfl⟩
  | update authz id dto userId =>
    simp only [Call.start]
    split <;> exact ⟨rfl, rfl⟩
  | manualRelease id reason adminId =>
    simp only [Call.start]
    split <;> exact ⟨rfl, rfl⟩

theorem run_store (cfg : NoShowConfig) (o : Office) (job : Job) :
    (job.run cfg o).store = o.store ∨
      (∃ p f, (job.run cfg o).store = { o.store with cases := o.store.cases.updateWhere p f }) ∨
      ∃ params, (job.run cfg o).store = (release params o.now o.store).2 := by
  cases job with
  | warning todo =>
    cases todo with
    | nil => exact Or.inl rfl
    | cons id rest => exact Or.inr (Or.inl ⟨_, _, rfl⟩)
  | releasing todo seen =>
    cases todo with
    | nil => exact Or.inl rfl
    | cons id rest => exact Or.inr (Or.inr ⟨_, rfl⟩)
  | snoozing id userId note =>
    simp only [Job.run]
    split
    · exact Or.inl rfl
    · exact Or.inr (Or.inl ⟨_, _, rfl⟩)
  | rereading id =>
    simp only [Job.run]
    split <;> exact Or.inl rfl
  | updating id target dto userId => exact Or.inr (Or.inl ⟨_, _, rfl⟩)
  | overriding id reason adminId => exact Or.inr (Or.inr ⟨_, rfl⟩)
  | answering id found answer => exact Or.inl rfl

theorem run_change {job : Job} (row : o.store.cases.get? id = some c)
    (signs : o'.log = o.log ++ (job.run cfg o).signs) :
    ∃ c', (job.run cfg o).store.cases.get? id = some c' ∧
      Change cfg o o' id c (.work job) c' := by
  cases job with
  | warning todo =>
    cases todo with
    | nil => exact ⟨c, row, .kept _⟩
    | cons k rest =>
      simp only [Job.run, warnCase, get?_updateWhere, row, Option.map_some, decide_eq_true_eq]
      split
      · rename_i here
        obtain ⟨rfl, risk⟩ := here
        exact ⟨_, rfl, .warned rest risk⟩
      · exact ⟨c, rfl, .kept _⟩
  | releasing todo seen =>
    cases todo with
    | nil => exact ⟨c, row, .kept _⟩
    | cons k rest => exact release_change row
  | snoozing k userId note =>
    cases matched : o.store.snoozable k with
    | none =>
      simp only [Job.run, matched]
      exact ⟨c, row, .kept _⟩
    | some d =>
      simp only [Job.run, matched] at signs ⊢
      simp only [snoozeCase, get?_updateWhere, row, Option.map_some, decide_eq_true_eq]
      split
      · rename_i here
        obtain ⟨rfl, source⟩ := here
        exact ⟨_, rfl, .putOff userId note source signs⟩
      · exact ⟨c, rfl, .kept _⟩
  | rereading k =>
    simp only [Job.run]
    split <;> exact ⟨c, row, .kept _⟩
  | updating k target dto userId =>
    simp only [Job.run, updateCase, get?_update, row]
    split
    · rename_i here
      subst here
      exact ⟨_, rfl, .updated target dto userId⟩
    · exact ⟨c, rfl, .kept _⟩
  | overriding k reason adminId => exact release_change row
  | answering k found answer => exact ⟨c, row, .kept _⟩

theorem change_of_step (step : Step cfg o event o') (row : o.store.cases.get? id = some c) :
    ∃ c', o'.store.cases.get? id = some c' ∧ Change cfg o o' id c event c' := by
  cases step with
  | tick now later => exact ⟨c, row, .kept _⟩
  | create input =>
    refine ⟨c, ?_, .kept _⟩
    simp only [create]
    split
    · exact row
    · rw [get?_eq_some, mem_insert]
      exact Or.inl (get?_eq_some.mp row)
  | presence bookingId first last => exact ⟨c, row, .kept _⟩
  | elsewhere bookings => exact ⟨c, row, .kept _⟩
  | reconcile =>
    simp only [reconcilePresence, get?_updateWhere, row, Option.map_some, decide_eq_true_eq]
    split
    · rename_i present
      exact ⟨_, rfl, .reconciled present.2⟩
    · exact ⟨c, rfl, .kept _⟩
  | call call => exact ⟨c, by rw [Office.absorb, (start_writes_nothing call).1, row], .kept _⟩
  | work job front back here => exact run_change row rfl

theorem release_unknown {p : ReleaseParams} {now : Int} {s : Store}
    (unknown : s.cases.get? id = none) : (release p now s).2.cases.get? id = none := by
  rcases release_cases p now s with ⟨-, same⟩ | ⟨_, -, -, same⟩ | ⟨d, b, -, -, after⟩
  · rw [same, unknown]
  · rw [same, unknown]
  · rw [after]
    simp [Store.letGo, get?_update, unknown]

theorem run_unknown {job : Job} (unknown : o.store.cases.get? id = none) :
    (job.run cfg o).store.cases.get? id = none := by
  rcases run_store cfg o job with same | ⟨p, f, after⟩ | ⟨params, after⟩
  · rw [same, unknown]
  · rw [after, get?_updateWhere, unknown]
    rfl
  · rw [after, release_unknown unknown]

theorem fresh_of_step (step : Step cfg o event o') (unknown : o.store.cases.get? id = none)
    (row : o'.store.cases.get? id = some c) :
    ∃ input : CreateNoShowInput, c = input.row o.now := by
  have unwritten : o'.store.cases.get? id = none → False := by
    intro missing
    rw [row] at missing
    cases missing
  cases step with
  | tick now later => exact (unwritten unknown).elim
  | create input =>
    simp only [create] at row
    split at row
    · rw [unknown] at row
      cases row
    · simp only [get?_insert] at row
      split at row
      · exact ⟨input, (Option.some.inj row).symm⟩
      · rw [unknown] at row
        cases row
  | presence bookingId first last => exact (unwritten unknown).elim
  | elsewhere bookings => exact (unwritten unknown).elim
  | reconcile =>
    exact (unwritten (by simp [reconcilePresence, get?_updateWhere, unknown])).elim
  | call call =>
    exact (unwritten (by rw [Office.absorb, (start_writes_nothing call).1, unknown])).elim
  | work job front back here => exact (unwritten (run_unknown unknown)).elim

inductive Opens (cfg : NoShowConfig) (o : Office) : Call → Job → Prop where
  | warning : Opens cfg o .warnBatch (.warning (warnCandidates cfg o.now o.store))
  | releasing : Opens cfg o .autoReleaseBatch
      (.releasing (autoReleaseCandidates cfg o.now o.store) o.log.length)
  | snoozing (authz : Authz) (id : Nat) (userId : Option Nat) (note : Option String) :
      Opens cfg o (.snooze authz id userId note) (.snoozing id userId note)
  | updating (authz : Authz) (id : Nat) (dto : UpdateNoShowDto) (userId : Option Nat)
      (target : Option UpdateTarget) :
      Opens cfg o (.update authz id dto userId) (.updating id target dto userId)
  | answering (id : Nat) (reason : String) (adminId : Option Nat)
      (response : ManualReleaseResponse)
      (checked : checkManualRelease id o.store = .ok (some response)) :
      Opens cfg o (.manualRelease id reason adminId) (.answering id (o.status id) (.ok response))
  | overriding (id : Nat) (reason : String) (adminId : Option Nat)
      (checked : checkManualRelease id o.store = .ok none) :
      Opens cfg o (.manualRelease id reason adminId) (.overriding id reason adminId)

/-- The jobs a statement leaves to its call. -/
inductive GoesOn (cfg : NoShowConfig) (o : Office) : Job → Job → Prop where
  | warning (id : Nat) (rest : List Nat) : GoesOn cfg o (.warning (id :: rest)) (.warning rest)
  | releasing (id : Nat) (rest : List Nat) (seen : Nat) :
      GoesOn cfg o (.releasing (id :: rest) seen) (.releasing rest seen)
  | rereading (id : Nat) (userId : Option Nat) (note : Option String) :
      GoesOn cfg o (.snoozing id userId note) (.rereading id)
  | answering (id : Nat) (reason : String) (adminId : Option Nat) :
      GoesOn cfg o (.overriding id reason adminId) (.answering id (o.status id)
        (manualReleaseResponse id (release ⟨id, adminId, reason, .manual⟩ o.now o.store).1))

theorem opens_of_start {call : Call} {job : Job} (new : job ∈ (call.start cfg o).next) :
    Opens cfg o call job := by
  cases call with
  | warnBatch =>
    obtain rfl := List.mem_singleton.mp new
    exact .warning
  | autoReleaseBatch =>
    obtain rfl := List.mem_singleton.mp new
    exact .releasing
  | snooze authz id userId note =>
    simp only [Call.start] at new
    split at new <;> simp at new
    subst new
    exact .snoozing authz id userId note
  | update authz id dto userId =>
    simp only [Call.start] at new
    split at new <;> simp at new
    subst new
    exact .updating authz id dto userId _
  | manualRelease id reason adminId =>
    simp only [Call.start] at new
    split at new
    · cases new
    · rename_i response checked
      obtain rfl := List.mem_singleton.mp new
      exact .answering id reason adminId response checked
    · rename_i checked
      obtain rfl := List.mem_singleton.mp new
      exact .overriding id reason adminId checked

theorem goes_on_of_run {before job : Job} (new : job ∈ (before.run cfg o).next) :
    GoesOn cfg o before job := by
  cases before with
  | warning todo =>
    cases todo with
    | nil => cases new
    | cons id rest =>
      obtain rfl := List.mem_singleton.mp new
      exact .warning id rest
  | releasing todo seen =>
    cases todo with
    | nil => cases new
    | cons id rest =>
      obtain rfl := List.mem_singleton.mp new
      exact .releasing id rest seen
  | snoozing id userId note =>
    simp only [Job.run] at new
    split at new <;> simp at new
    subst new
    exact .rereading id userId note
  | rereading id =>
    simp only [Job.run] at new
    split at new <;> cases new
  | updating id target dto userId => cases new
  | overriding id reason adminId =>
    obtain rfl := List.mem_singleton.mp new
    exact .answering id reason adminId
  | answering id found answer => cases new

theorem job_of_step {job : Job} (step : Step cfg o event o') (waiting : job ∈ o'.jobs) :
    job ∈ o.jobs ∨ (∃ call, event = .call call ∧ Opens cfg o call job) ∨
      ∃ before, event = .work before ∧ before ∈ o.jobs ∧ GoesOn cfg o before job := by
  cases step with
  | tick now later => exact Or.inl waiting
  | create input => exact Or.inl waiting
  | presence bookingId first last => exact Or.inl waiting
  | elsewhere bookings => exact Or.inl waiting
  | reconcile => exact Or.inl waiting
  | call call =>
    rcases List.mem_append.mp waiting with old | new
    · exact Or.inl old
    · exact Or.inr (Or.inl ⟨call, rfl, opens_of_start new⟩)
  | work before front back here =>
    rcases List.mem_append.mp waiting with old | new
    · left
      rw [here]
      rcases List.mem_append.mp old with old | old
      · exact List.mem_append_left _ old
      · exact List.mem_append_right _ (List.mem_cons_of_mem _ old)
    · exact Or.inr (Or.inr ⟨before, rfl, by simp [here], goes_on_of_run new⟩)

theorem working_waits {job : Job} (step : Step cfg o (.work job) o') : job ∈ o.jobs := by
  cases step with
  | work _ front back here => simp [here]

end Rows

end NoShow
