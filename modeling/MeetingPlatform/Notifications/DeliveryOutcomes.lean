import MeetingPlatform.Notifications.MailCounts

/- What the two rows say when a delivery has come to rest, against what became of the mail. -/
namespace EmailDelivery
open LabelledRuns

section Orderly

def Answer.isOk : Answer → Bool
  | .ok _ => true
  | .error _ | .lost _ => false

def Answer.isLost : Answer → Bool
  | .lost _ => true
  | .ok _ | .error _ => false

/-- Errors are taken for what they are, no write of a status fails, and an attempt begins when the
    events of the one before it have been handled. A worker may be gone before it sends. -/
def isOrderly (w : World) : Event → Bool
  | .add answer => !answer.isLost
  | .update _ answer => answer.isOk
  | .start => w.handlers.isEmpty
  | .work _ answer =>
    match w.queue with
    | .active .sendMail => !answer.isLost
    | .active (.markSent _) => answer.isOk
    | _ => true
  | .settle => true
  | .crash =>
    match w.queue with
    | .active (.markSent _) | .active .returned => false
    | _ => true
  | .handle _ _ answer => answer.isOk

def Orderly (w : World) (e : Event) : Prop := isOrderly w e = true

instance (w : World) (e : Event) : Decidable (Orderly w e) :=
  inferInstanceAs (Decidable (_ = true))

/-- `markQueued` comes when the notification has been settled already. -/
def overtakes (w : World) : Event → Bool
  | .update _ _ =>
    match w.enqueuer with
    | some .markQueued => w.rows.settled
    | _ => false
  | _ => false

def overtaken (moves : List (Move World Event)) : Nat :=
  moves.countP fun m => overtakes m.before m.label

def shown (overtaken : Nat) (outcome : NotificationDeliveryStatus) : NotificationDeliveryStatus :=
  if overtaken = 0 then outcome else .queued

structure World.AtRest (w : World) : Prop where
  enqueuer : w.enqueuer = none
  handlers : w.handlers = []
  queue : w.queue = .absent ∨ w.queue = .completed ∨ w.queue = .failed

end Orderly

section Accounts

/-- The request has only `markQueued` to make, or is through; once overtaken, it is. -/
def World.Added (behind : Nat) (w : World) : Prop :=
  w.enqueuer = none ∨ w.enqueuer = some .markQueued ∧ behind = 0

/-- Nothing has been sent, and the notification is not settled. -/
def World.Unsent (behind : Nat) (w : World) (n : NotificationEntity) : Prop :=
  w.rows.mails = [] ∧ isSettled n.deliveryStatus = false ∧ behind = 0

inductive Retried (w : World) : Prop where
  | counted (handlers : w.handlers = []) (retries : w.rows.job.retryCount = w.attemptsMade)
  | counting (message : String) (handlers : w.handlers = [.incrementRetryCount message])
      (retries : w.rows.job.retryCount + 1 = w.attemptsMade)
  | marking (message : String) (handlers : w.handlers = [.markRetrying message])
      (retries : w.rows.job.retryCount = w.attemptsMade)
  | noting (message : String) (handlers : w.handlers = [.noteError message])
      (retries : w.rows.job.retryCount = w.attemptsMade)

inductive GivenUp (behind : Nat) (w : World) (n : NotificationEntity) : Prop where
  | marking (message : String) (handlers : w.handlers = [.markFailed message])
      (open_row : isSettled n.deliveryStatus = false) (fresh : behind = 0)
  | markingJob (message : String) (handlers : w.handlers = [.markJobFailed message])
      (status : n.deliveryStatus = shown behind .failed)
  | done (handlers : w.handlers = []) (status : n.deliveryStatus = shown behind .failed)
      (job : w.rows.job.status = .failed)

def AttemptAccount (p : Setup) (behind : Nat) (w : World) (n : NotificationEntity) : Attempt → Prop
  | .findOne _ | .markRunning | .downloadFile | .sendMail => w.Unsent behind n
  | .markSent _ =>
    w.rows.mails = [p.data.mail] ∧ isSettled n.deliveryStatus = false ∧ behind = 0
  | .returned => w.rows.mails = [p.data.mail] ∧ n.deliveryStatus = shown behind .sent
  | .skip => False

inductive Refused (w : World) (n : NotificationEntity) : Prop where
  | marking (message : String) (enqueuer : w.enqueuer = some (.markFailed message))
  | markingJob (message : String) (enqueuer : w.enqueuer = some (.markJobFailed message))
      (status : n.deliveryStatus = .failed)
  | done (enqueuer : w.enqueuer = none) (status : n.deliveryStatus = .failed)
      (job : w.rows.job.status = .failed)

inductive Account (p : Setup) (behind : Nat) (w : World) (n : NotificationEntity) : Prop where
  | adding (queue : w.queue = .absent) (enqueuer : w.enqueuer = some .addJob)
      (handlers : w.handlers = []) (made : w.attemptsMade = 0) (retries : w.rows.job.retryCount = 0)
      (unsent : w.Unsent behind n)
  | refused (queue : w.queue = .absent) (handlers : w.handlers = []) (mails : w.rows.mails = [])
      (fresh : behind = 0) (refused : Refused w n)
  | waiting (queue : w.queue = .waiting) (added : w.Added behind) (unsent : w.Unsent behind n)
      (made : w.attemptsMade < p.attempts) (retried : Retried w)
  | active (a : Attempt) (queue : w.queue = .active a) (added : w.Added behind)
      (handlers : w.handlers = []) (made : w.attemptsMade < p.attempts)
      (retries : w.rows.job.retryCount = w.attemptsMade) (attempt : AttemptAccount p behind w n a)
  | completed (queue : w.queue = .completed) (added : w.Added behind)
      (mails : w.rows.mails = [p.data.mail]) (status : n.deliveryStatus = shown behind .sent)
      (retries : w.rows.job.retryCount = w.attemptsMade)
      (handled : w.handlers = [.markCompleted] ∨
        w.handlers = [] ∧ w.rows.job.status = .completed)
  | failed (queue : w.queue = .failed) (added : w.Added behind) (mails : w.rows.mails = [])
      (made : w.attemptsMade = p.attempts) (retries : w.rows.job.retryCount + 1 = p.attempts)
      (givenUp : GivenUp behind w n)

def Accounted (p : Setup) (behind : Nat) (w : World) : Prop :=
  ∃ n, w.rows.notification = some n ∧ Account p behind w n

end Accounts

section Steps
variable {p : Setup} {w w' : World} {e : Event} {behind : Nat} {n : NotificationEntity}

theorem accounted_start : Accounted p 0 World.start :=
  ⟨createNotification, rfl, .adding rfl rfl rfl rfl rfl ⟨rfl, rfl, rfl⟩⟩

theorem settled_row (row : w.rows.notification = some n) :
    w.rows.settled = isSettled n.deliveryStatus := by
  rw [Rows.settled, row]

theorem accounted_add {answer : Answer} (attempts : 0 < p.attempts) (here : w.enqueuer = some .addJob)
    (orderly : Orderly w (.add answer)) (inv : Accounted p behind w) :
    Accounted p behind (w.addJob answer) := by
  obtain ⟨n, row, account⟩ := inv
  refine ⟨n, by cases answer <;> exact row, ?_⟩
  cases account with
  | adding queue enqueuer handlers made retries unsent =>
    cases answer with
    | lost message => cases orderly
    | error message => exact .refused queue handlers unsent.1 unsent.2.2 (.marking _ rfl)
    | ok id =>
      refine .waiting rfl (Or.inr ⟨rfl, unsent.2.2⟩) unsent ?_ (.counted handlers ?_)
      · exact made ▸ attempts
      · exact retries.trans made.symm
  | refused queue handlers mails fresh refused => cases refused <;> simp_all
  | waiting queue added => simp_all [World.Added]
  | active a queue added => simp_all [World.Added]
  | completed queue added => simp_all [World.Added]
  | failed queue added => simp_all [World.Added]

theorem markQueued_row (row : w.rows.notification = some n) :
    (w.rows.updateNotification markQueued).notification = some (markQueued n) := by
  rw [Rows.updateNotification, row]
  rfl

theorem shown_overtaken {outcome : NotificationDeliveryStatus} {k : Nat} :
    shown (k + 1) outcome = .queued := if_neg (Nat.succ_ne_zero k)

theorem overtakes_eq {now : Nat} {answer : Answer} (here : w.enqueuer = some .markQueued)
    (row : w.rows.notification = some n) :
    overtakes w (.update now answer) = isSettled n.deliveryStatus := by
  simp only [overtakes, here]
  exact settled_row row

theorem Retried.of_same (retried : Retried w) (handlers : w'.handlers = w.handlers)
    (made : w'.attemptsMade = w.attemptsMade)
    (retries : w'.rows.job.retryCount = w.rows.job.retryCount) : Retried w' := by
  cases retried with
  | counted there count => exact .counted (handlers.trans there) (by rw [made, retries, count])
  | counting m there count => exact .counting m (handlers.trans there) (by rw [made, retries, count])
  | marking m there count => exact .marking m (handlers.trans there) (by rw [made, retries, count])
  | noting m there count => exact .noting m (handlers.trans there) (by rw [made, retries, count])

theorem accounted_markQueued {now : Nat} {id : Option String} (here : w.enqueuer = some .markQueued)
    (inv : Accounted p behind w) :
    Accounted p (behind + if overtakes w (.update now (.ok id)) then 1 else 0)
      (w.enqueuerUpdates now .markQueued (.ok id)) := by
  obtain ⟨n, row, account⟩ := inv
  rw [overtakes_eq here row]
  refine ⟨markQueued n, markQueued_row row, ?_⟩
  have through : ∀ {k}, World.Added k (w.enqueuerUpdates now .markQueued (.ok id)) := Or.inl rfl
  have fresh_of : w.Added behind → behind = 0 := by
    rintro (gone | ⟨-, fresh⟩)
    · simp [here] at gone
    · exact fresh
  have unsent_stays : w.Unsent behind n → isSettled n.deliveryStatus = false ∧
      (w.enqueuerUpdates now .markQueued (.ok id)).Unsent behind (markQueued n) := fun unsent =>
    ⟨unsent.2.1, unsent.1, rfl, unsent.2.2⟩
  -- A settled status is overwritten, and the count of it says so.
  have late : ∀ outcome, isSettled outcome = true → w.Added behind → n.deliveryStatus = shown behind outcome →
      (markQueued n).deliveryStatus =
        shown (behind + if isSettled n.deliveryStatus = true then 1 else 0) outcome := by
    intro outcome settled added status
    have fresh := fresh_of added
    subst fresh
    have closed : isSettled n.deliveryStatus = true := by rw [status]; exact settled
    rw [if_pos closed, shown_overtaken]
    rfl
  cases account with
  | adding queue enqueuer => simp_all
  | refused queue handlers mails fresh refused => cases refused <;> simp_all
  | waiting queue added unsent made retried =>
    obtain ⟨open_row, unsent⟩ := unsent_stays unsent
    rw [open_row, if_neg nofun]
    exact .waiting queue through unsent made (retried.of_same rfl rfl rfl)
  | active a queue added handlers made retries attempt =>
    refine .active a queue through handlers made retries ?_
    cases a with
    | findOne m =>
      obtain ⟨open_row, unsent⟩ := unsent_stays attempt
      rw [open_row, if_neg nofun]
      exact unsent
    | markRunning =>
      obtain ⟨open_row, unsent⟩ := unsent_stays attempt
      rw [open_row, if_neg nofun]
      exact unsent
    | downloadFile =>
      obtain ⟨open_row, unsent⟩ := unsent_stays attempt
      rw [open_row, if_neg nofun]
      exact unsent
    | sendMail =>
      obtain ⟨open_row, unsent⟩ := unsent_stays attempt
      rw [open_row, if_neg nofun]
      exact unsent
    | markSent id =>
      obtain ⟨mails, open_row, fresh⟩ := attempt
      rw [open_row, if_neg nofun]
      exact ⟨mails, rfl, fresh⟩
    | returned => exact ⟨attempt.1, late .sent rfl added attempt.2⟩
    | skip => exact attempt
  | completed queue added mails status retries handled =>
    exact .completed queue through mails (late .sent rfl added status) retries handled
  | failed queue added mails made retries givenUp =>
    refine .failed queue through mails made retries ?_
    cases givenUp with
    | marking m handlers open_row fresh =>
      rw [open_row, if_neg nofun]
      exact .marking m handlers rfl fresh
    | markingJob m handlers status => exact .markingJob m handlers (late .failed rfl added status)
    | done handlers status job => exact .done handlers (late .failed rfl added status) job

theorem accounted_update {now : Nat} {answer : Answer} {en : Enqueuer} (here : w.enqueuer = some en)
    (later : en ≠ .addJob) (orderly : Orderly w (.update now answer)) (inv : Accounted p behind w) :
    Accounted p (behind + if overtakes w (.update now answer) then 1 else 0)
      (w.enqueuerUpdates now en answer) := by
  cases answer with
  | error message => cases orderly
  | lost message => cases orderly
  | ok id =>
    cases en with
    | addJob => exact absurd rfl later
    | markQueued => exact accounted_markQueued here inv
    | markFailed message =>
      obtain ⟨n, row, account⟩ := inv
      have good : overtakes w (.update now (.ok id)) = false := by simp [overtakes, here]
      rw [good]
      refine ⟨markFailed message n, ?_, ?_⟩
      · change (w.rows.updateNotification _).notification = _
        rw [Rows.updateNotification, row]
        rfl
      · cases account with
        | adding queue enqueuer => simp_all
        | refused queue handlers mails fresh refused =>
          exact .refused queue handlers mails fresh (.markingJob message rfl rfl)
        | waiting queue added => simp_all [World.Added]
        | active a queue added => simp_all [World.Added]
        | completed queue added => simp_all [World.Added]
        | failed queue added => simp_all [World.Added]
    | markJobFailed message =>
      obtain ⟨n, row, account⟩ := inv
      have good : overtakes w (.update now (.ok id)) = false := by simp [overtakes, here]
      rw [good]
      refine ⟨n, row, ?_⟩
      cases account with
      | adding queue enqueuer => simp_all
      | refused queue handlers mails fresh refused =>
        refine .refused queue handlers mails fresh ?_
        cases refused with
        | marking m enqueuer => simp_all
        | markingJob m enqueuer status => exact .done rfl status rfl
        | done enqueuer => simp_all
      | waiting queue added => simp_all [World.Added]
      | active a queue added => simp_all [World.Added]
      | completed queue added => simp_all [World.Added]
      | failed queue added => simp_all [World.Added]

theorem accounted_begin (waiting : w.queue = .waiting) (orderly : Orderly w .start)
    (inv : Accounted p behind w) :
    Accounted p behind { w with queue := .active (.findOne w.attemptsMade) } := by
  have quiet : w.handlers = [] := List.isEmpty_iff.mp orderly
  obtain ⟨n, row, account⟩ := inv
  refine ⟨n, row, ?_⟩
  cases account with
  | waiting queue added unsent made retried =>
    cases retried with
    | counted handlers retries => exact .active _ rfl added quiet made retries unsent
    | counting message handlers => simp_all
    | marking message handlers => simp_all
    | noting message handlers => simp_all
  | adding queue => simp_all
  | refused queue => simp_all
  | active a queue => simp_all
  | completed queue => simp_all
  | failed queue => simp_all

theorem account_fails (rows : Rows) {message : String} (attempts : 0 < p.attempts)
    (added : w.Added behind) (handlers : w.handlers = []) (made : w.attemptsMade < p.attempts)
    (retries : rows.job.retryCount = w.attemptsMade)
    (unsent : World.Unsent behind { w with rows := rows } n) :
    Account p behind (({ w with rows := rows } : World).attemptFails p message) n := by
  have limit : maxAttempts p.attempts = p.attempts := if_neg (by omega)
  by_cases more : w.attemptsMade + 1 < p.attempts
  · refine .waiting (if_pos more) added unsent more (.counting message ?_ ?_)
    · change w.handlers ++ [onJobFailed p.attempts (w.attemptsMade + 1) message] = _
      rw [handlers, onJobFailed, limit, if_neg (by omega)]
      rfl
    · exact congrArg (· + 1) retries
  · have last : w.attemptsMade + 1 = p.attempts := by omega
    refine .failed (if_neg more) added unsent.1 last ?_ (.marking message ?_ unsent.2.1 unsent.2.2)
    · exact (congrArg (· + 1) retries).trans last
    · change w.handlers ++ [onJobFailed p.attempts (w.attemptsMade + 1) message] = _
      rw [handlers, onJobFailed, limit, if_pos (by omega)]
      rfl

theorem attemptAccount_afterRunning {rows : Rows} (unsent : World.Unsent behind { w with rows := rows } n) :
    AttemptAccount p behind { w with rows := rows, queue := .active (afterRunning p.data) } n
      (afterRunning p.data) := by
  unfold afterRunning
  split <;> exact unsent

theorem accounted_work {now : Nat} {answer : Answer} {a : Attempt} (attempts : 0 < p.attempts)
    (active : w.queue = .active a) (going : a ≠ .returned)
    (orderly : Orderly w (.work now answer)) (inv : Accounted p behind w) :
    Accounted p behind (w.attempts p now answer a) := by
  obtain ⟨n, row, account⟩ := inv
  simp only [Orderly, isOrderly, active] at orderly
  cases account with
  | adding queue => simp_all
  | refused queue => simp_all
  | waiting queue => simp_all
  | completed queue => simp_all
  | failed queue => simp_all
  | active b queue added handlers made retries attempt =>
    obtain rfl : a = b := QueueJob.active.inj (active.symm.trans queue)
    cases a with
    | returned => exact absurd rfl going
    | skip => exact False.elim attempt
    | findOne m =>
      cases answer with
      | error message => exact ⟨n, row, account_fails w.rows attempts added handlers made retries attempt⟩
      | lost message =>
        have rows : (Attempt.act p.data now none w.rows (.findOne m)).1 = w.rows := findOne_rows
        refine ⟨n, ?_, ?_⟩
        · change (Attempt.act p.data now none w.rows (.findOne m)).1.notification = some n
          rw [rows, row]
        · change Account p behind (World.attemptFails p
            { w with rows := (Attempt.act p.data now none w.rows (.findOne m)).1 } message) n
          rw [rows]
          exact account_fails w.rows attempts added handlers made retries attempt
      | ok id =>
        have open_row : isSettled n.deliveryStatus = false := attempt.2.1
        by_cases first : m = 0
        · have next : w.attempts p now (.ok id) (.findOne m) =
              { w with queue := .active .markRunning } := by
            simp [World.attempts, Attempt.access, Attempt.act, row, open_row, first]
          rw [next]
          exact ⟨n, row, .active _ rfl added handlers made retries attempt⟩
        · have next : w.attempts p now (.ok id) (.findOne m) =
              { w with queue := .active (afterRunning p.data) } := by
            simp [World.attempts, Attempt.access, Attempt.act, row, open_row, first]
          rw [next]
          exact ⟨n, row, .active _ rfl added handlers made retries (attemptAccount_afterRunning attempt)⟩
    | markRunning =>
      cases answer with
      | error message => exact ⟨n, row, account_fails w.rows attempts added handlers made retries attempt⟩
      | lost message =>
        exact ⟨n, row, account_fails (w.rows.updateJob (markRunning now)) attempts added
          handlers made retries attempt⟩
      | ok id =>
        exact ⟨n, row, .active _ rfl added handlers made retries (attemptAccount_afterRunning attempt)⟩
    | downloadFile =>
      cases answer with
      | error message => exact ⟨n, row, account_fails w.rows attempts added handlers made retries attempt⟩
      | lost message => exact ⟨n, row, account_fails w.rows attempts added handlers made retries attempt⟩
      | ok id => exact ⟨n, row, .active _ rfl added handlers made retries attempt⟩
    | sendMail =>
      cases answer with
      | error message => exact ⟨n, row, account_fails w.rows attempts added handlers made retries attempt⟩
      | lost message => cases orderly
      | ok id =>
        refine ⟨n, row, .active _ rfl added handlers made retries ⟨?_, attempt.2⟩⟩
        change w.rows.mails ++ [p.data.mail] = _
        rw [attempt.1]
        rfl
    | markSent sent =>
      cases answer with
      | error message => cases orderly
      | lost message => cases orderly
      | ok id =>
        obtain ⟨mails, -, fresh⟩ := attempt
        subst fresh
        refine ⟨markSent sent now n, ?_, .active _ rfl added handlers made retries ⟨mails, rfl⟩⟩
        change (w.rows.updateNotification _).notification = _
        rw [Rows.updateNotification, row]
        rfl

theorem accounted_settle (done : w.queue = .active .returned) (inv : Accounted p behind w) :
    Accounted p behind { w with
      queue := .completed
      handlers := w.handlers ++ [.markCompleted] } := by
  obtain ⟨n, row, account⟩ := inv
  refine ⟨n, row, ?_⟩
  cases account with
  | active b queue added handlers made retries attempt =>
    obtain rfl : Attempt.returned = b := QueueJob.active.inj (done.symm.trans queue)
    refine .completed rfl added attempt.1 attempt.2 retries (Or.inl ?_)
    rw [handlers]
    rfl
  | adding queue => simp_all
  | refused queue => simp_all
  | waiting queue => simp_all
  | completed queue => simp_all
  | failed queue => simp_all

theorem accounted_crash {a : Attempt} (active : w.queue = .active a) (orderly : Orderly w .crash)
    (inv : Accounted p behind w) : Accounted p behind { w with queue := .waiting } := by
  obtain ⟨n, row, account⟩ := inv
  refine ⟨n, row, ?_⟩
  simp only [Orderly, isOrderly, active] at orderly
  cases account with
  | active b queue added handlers made retries attempt =>
    obtain rfl : a = b := QueueJob.active.inj (active.symm.trans queue)
    have again : Retried { w with queue := .waiting } := .counted handlers retries
    cases a with
    | findOne m => exact .waiting rfl added attempt made again
    | markRunning => exact .waiting rfl added attempt made again
    | downloadFile => exact .waiting rfl added attempt made again
    | sendMail => exact .waiting rfl added attempt made again
    | skip => exact False.elim attempt
    | markSent id => cases orderly
    | returned => cases orderly
  | adding queue => simp_all
  | refused queue => simp_all
  | waiting queue => simp_all
  | completed queue => simp_all
  | failed queue => simp_all

theorem only_handler {h h' : Handler} {i : Nat} (single : w.handlers = [h'])
    (there : w.handlers[i]? = some h) : i = 0 ∧ h = h' := by
  rw [single] at there
  cases i with
  | zero =>
    rw [List.getElem?_cons_zero] at there
    exact ⟨rfl, (Option.some.inj there).symm⟩
  | succ i =>
    rw [List.getElem?_cons_succ] at there
    cases there

theorem no_handler {h : Handler} {i : Nat} (none : w.handlers = []) :
    w.handlers[i]? ≠ some h := by
  rw [none]
  exact nofun

theorem accounted_handle {h : Handler} {i now : Nat} {id : Option String}
    (there : w.handlers[i]? = some h) (inv : Accounted p behind w) :
    Accounted p behind (w.handles p i now (.ok id) h) := by
  obtain ⟨n, row, account⟩ := inv
  cases account with
  | adding queue enqueuer handlers => exact absurd there (no_handler handlers)
  | refused queue handlers => exact absurd there (no_handler handlers)
  | active a queue added handlers => exact absurd there (no_handler handlers)
  | waiting queue added unsent made retried =>
    cases retried with
    | counted handlers => exact absurd there (no_handler handlers)
    | counting message handlers retries =>
      obtain ⟨rfl, rfl⟩ := only_handler handlers there
      refine ⟨n, row, .waiting queue added unsent made (.marking message ?_ retries)⟩
      change w.handlers.set 0 _ = _
      rw [handlers]
      rfl
    | marking message handlers retries =>
      obtain ⟨rfl, rfl⟩ := only_handler handlers there
      refine ⟨n, row, .waiting queue added unsent made (.noting message ?_ retries)⟩
      change w.handlers.set 0 _ = _
      rw [handlers]
      rfl
    | noting message handlers retries =>
      obtain ⟨rfl, rfl⟩ := only_handler handlers there
      refine ⟨n, row, .waiting queue added unsent made (.counted ?_ retries)⟩
      change w.handlers.eraseIdx 0 = _
      rw [handlers]
      rfl
  | completed queue added mails status retries handled =>
    rcases handled with handlers | ⟨handlers, -⟩
    · obtain ⟨rfl, rfl⟩ := only_handler handlers there
      refine ⟨n, row, .completed queue added mails status retries (Or.inr ⟨?_, rfl⟩)⟩
      change w.handlers.eraseIdx 0 = _
      rw [handlers]
      rfl
    · exact absurd there (no_handler handlers)
  | failed queue added mails made retries givenUp =>
    cases givenUp with
    | done handlers => exact absurd there (no_handler handlers)
    | marking message handlers open_row fresh =>
      obtain ⟨rfl, rfl⟩ := only_handler handlers there
      subst fresh
      refine ⟨markFailed message n, ?_, .failed queue added mails made retries
        (.markingJob message ?_ rfl)⟩
      · change (w.rows.updateNotification _).notification = _
        rw [Rows.updateNotification, row]
        rfl
      · change w.handlers.set 0 _ = _
        rw [handlers]
        rfl
    | markingJob message handlers status =>
      obtain ⟨rfl, rfl⟩ := only_handler handlers there
      refine ⟨n, row, .failed queue added mails made retries (.done ?_ status rfl)⟩
      change w.handlers.eraseIdx 0 = _
      rw [handlers]
      rfl

theorem accounted_step (attempts : 0 < p.attempts) (inv : Accounted p behind w) (step : Step p w e w')
    (orderly : Orderly w e) : Accounted p (behind + if overtakes w e then 1 else 0) w' := by
  cases step with
  | add here => exact accounted_add attempts here orderly inv
  | update here later => exact accounted_update here later orderly inv
  | start waiting => exact accounted_begin waiting orderly inv
  | work active going => exact accounted_work attempts active going orderly inv
  | settle done => exact accounted_settle done inv
  | crash active => exact accounted_crash active orderly inv
  | @handle h i now answer there =>
    cases answer with
    | ok id => exact accounted_handle there inv
    | error message => cases orderly
    | lost message => cases orderly

/-- The first attempt fails, the second sends the mail, and only then `markQueued` arrives. -/
def queuedLate : List Event :=
  [.add (.ok none), .start, .work 1 (.ok none), .work 2 (.ok none), .work 3 (.error "timeout"),
    .handle 0 4 (.ok none), .handle 0 5 (.ok none), .handle 0 6 (.ok none), .start, .work 7 (.ok none),
    .work 8 (.ok (some "m1")), .work 9 (.ok none), .settle, .handle 0 10 (.ok none),
    .update 11 (.ok none)]

end Steps

end EmailDelivery
