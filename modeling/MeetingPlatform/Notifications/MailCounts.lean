import MeetingPlatform.Notifications.EmailDelivery

/- How many mails one notification can cause, in any order of the accesses. -/
namespace EmailDelivery
open LabelledRuns

section Counting

def Rows.settled (s : Rows) : Bool :=
  match s.notification with
  | none => true
  | some n => isSettled n.deliveryStatus

/-- Whether the queue or its worker can come to the mail server once more. -/
def World.mayStillSend (w : World) : Bool :=
  match w.queue with
  | .absent => true
  | .waiting => !w.rows.settled
  | .active (.findOne _) => !w.rows.settled
  | .active .skip => !w.rows.settled
  | .active .returned => !w.rows.settled
  | .active (.markSent _) => false
  | .active .markRunning => true
  | .active .downloadFile => true
  | .active .sendMail => true
  | .completed => false
  | .failed => false

def World.ended (w : World) : Bool :=
  match w.queue with
  | .completed | .failed => true
  | .absent | .waiting | .active _ => false

/-- The moves after which a mail that the server has taken is not on record: its acknowledgement is
    lost, the note of it fails or is cut off, or `markQueued` comes late and wipes it out. -/
def forgets (w : World) : Event → Bool
  | .work _ (.lost _) =>
    match w.queue with
    | .active .sendMail => true
    | _ => false
  | .work _ (.error _) =>
    match w.queue with
    | .active (.markSent _) => true
    | _ => false
  | .crash =>
    match w.queue with
    | .active (.markSent _) => true
    | _ => false
  | .update _ _ =>
    match w.enqueuer with
    | some .markQueued => w.rows.settled && !w.ended
    | _ => false
  | _ => false

def isCrash : Event → Bool
  | .crash => true
  | _ => false

/-- The mails stay within what has been forgotten, and one. -/
def Counted (forgotten : Nat) (w : World) : Prop :=
  w.rows.mails.length ≤ forgotten + 1 ∧ (w.mayStillSend = true → w.rows.mails.length ≤ forgotten)

def forgotten (moves : List (Move World Event)) : Nat :=
  moves.countP fun m => forgets m.before m.label

def crashes (moves : List (Move World Event)) : Nat := moves.countP fun m => isCrash m.label

end Counting

section Bounds
variable {p : Setup} {w w' : World} {e : Event} {k : Nat}

theorem counted_of_quiet (counted : Counted k w) (mails : w'.rows.mails = w.rows.mails)
    (quiet : w'.mayStillSend = true → w.mayStillSend = true) : Counted k w' := by
  unfold Counted
  rw [mails]
  exact ⟨counted.1, fun still => counted.2 (quiet still)⟩

theorem counted_of_forgotten (counted : Counted k w) (mails : w'.rows.mails = w.rows.mails) :
    Counted (k + 1) w' := by
  unfold Counted
  rw [mails]
  exact ⟨Nat.le_succ_of_le counted.1, fun _ => counted.1⟩

theorem settled_update {s : Rows} {f : NotificationEntity → NotificationEntity}
    (f_settles : ∀ n, isSettled (f n).deliveryStatus = true) :
    (s.updateNotification f).settled = true := by
  unfold Rows.settled Rows.updateNotification
  cases s.notification with
  | none => rfl
  | some n => exact f_settles n

theorem settled_markFailed {s : Rows} {reason : String} :
    (s.updateNotification (markFailed reason)).settled = true :=
  settled_update fun _ => rfl

theorem settled_markSent {s : Rows} {id : Option String} {now : Nat} :
    (s.updateNotification (markSent id now)).settled = true :=
  settled_update fun _ => rfl

theorem quiet_of_settled (still : w'.mayStillSend = true) (queue : w'.queue = w.queue)
    (settled : w'.rows.settled = true) : w.mayStillSend = true := by
  unfold World.mayStillSend at still ⊢
  rw [queue] at still
  cases there : w.queue with
  | absent => rfl
  | waiting => simp [there, settled] at still
  | active a =>
    rw [there] at still
    cases a <;> simp_all
  | completed => simp [there] at still
  | failed => simp [there] at still

theorem quiet_of_same (still : w'.mayStillSend = true) (queue : w'.queue = w.queue)
    (settled : w'.rows.settled = w.rows.settled) : w.mayStillSend = true := by
  unfold World.mayStillSend at still ⊢
  rw [queue, settled] at still
  exact still

theorem counted_add {answer : Answer} (counted : Counted k w) (before : w.queue = .absent) :
    Counted k (w.addJob answer) := by
  refine counted_of_quiet counted ?_ ?_
  · cases answer <;> rfl
  · intro _
    unfold World.mayStillSend
    rw [before]

theorem settled_markQueued {s : Rows} (open_row : s.settled = false) :
    (s.updateNotification markQueued).settled = false := by
  unfold Rows.settled Rows.updateNotification at *
  cases there : s.notification with
  | none => simp [there] at open_row
  | some n => rfl

theorem quiet_of_ended (ended : w.ended = true) (queue : w'.queue = w.queue) :
    w'.mayStillSend = false := by
  unfold World.ended at ended
  unfold World.mayStillSend
  rw [queue]
  cases there : w.queue with
  | completed => rfl
  | failed => rfl
  | absent => simp [there] at ended
  | waiting => simp [there] at ended
  | active a => simp [there] at ended

theorem quiet_markQueued {now : Nat} {answer : Answer} (here : w.enqueuer = some .markQueued)
    (harmless : forgets w (.update now answer) = false)
    (still : (w.enqueuerUpdates now .markQueued answer).mayStillSend = true) :
    w.mayStillSend = true := by
  have queue : (w.enqueuerUpdates now .markQueued answer).queue = w.queue := by cases answer <;> rfl
  simp only [forgets, here, Bool.and_eq_false_iff, Bool.not_eq_false'] at harmless
  rcases harmless with open_row | ended
  · refine quiet_of_same still queue ?_
    rw [open_row]
    cases answer with
    | ok id => exact settled_markQueued open_row
    | error message => exact open_row
    | lost message => exact settled_markQueued open_row
  · rw [quiet_of_ended ended queue] at still
    cases still

theorem quiet_update {now : Nat} {answer : Answer} {en : Enqueuer} (here : w.enqueuer = some en)
    (later : en ≠ .addJob) (harmless : forgets w (.update now answer) = false)
    (still : (w.enqueuerUpdates now en answer).mayStillSend = true) : w.mayStillSend = true := by
  cases en with
  | addJob => exact absurd rfl later
  | markQueued => exact quiet_markQueued here harmless still
  | markFailed message =>
    cases answer with
    | ok id => exact quiet_of_settled still rfl settled_markFailed
    | error message => exact quiet_of_same still rfl rfl
    | lost message => exact quiet_of_settled still rfl settled_markFailed
  | markJobFailed message => cases answer <;> exact quiet_of_same still rfl rfl

theorem counted_update {now : Nat} {answer : Answer} {en : Enqueuer} (here : w.enqueuer = some en)
    (later : en ≠ .addJob) (counted : Counted k w) :
    Counted (k + if forgets w (.update now answer) then 1 else 0)
      (w.enqueuerUpdates now en answer) := by
  have mails : (w.enqueuerUpdates now en answer).rows.mails = w.rows.mails := by
    cases answer <;> cases en <;> rfl
  cases bad : forgets w (.update now answer) with
  | true => exact counted_of_forgotten counted mails
  | false => exact counted_of_quiet counted mails (quiet_update here later bad)

theorem quiet_fails {message : String} (still : (w.attemptFails p message).mayStillSend = true) :
    w.rows.settled = false := by
  by_cases more : w.attemptsMade + 1 < p.attempts
  · simpa [World.mayStillSend, World.attemptFails, more] using still
  · simp [World.mayStillSend, World.attemptFails, more] at still

theorem counted_work_error {now : Nat} {message : String} {a : Attempt}
    (active : w.queue = .active a) (counted : Counted k w) :
    Counted (k + if forgets w (.work now (.error message)) then 1 else 0)
      (w.attempts p now (.error message) a) := by
  have mails : (w.attempts p now (.error message) a).rows.mails = w.rows.mails := rfl
  cases bad : forgets w (.work now (.error message)) with
  | true => exact counted_of_forgotten counted mails
  | false =>
    refine counted_of_quiet counted mails fun still => ?_
    have open_row : w.rows.settled = false := quiet_fails (p := p) (w := w) still
    unfold World.mayStillSend
    rw [active]
    cases a with
    | markSent id => simp [forgets, active] at bad
    | findOne made => simp [open_row]
    | skip => simp [open_row]
    | returned => simp [open_row]
    | markRunning => rfl
    | downloadFile => rfl
    | sendMail => rfl

theorem mayStillSend_of_open {a : Attempt} (active : w.queue = .active a)
    (open_row : w.rows.settled = false) (unsent : ∀ id, a ≠ .markSent id) :
    w.mayStillSend = true := by
  unfold World.mayStillSend
  rw [active]
  cases a with
  | findOne made => simp [open_row]
  | skip => simp [open_row]
  | returned => simp [open_row]
  | markSent id => exact absurd rfl (unsent id)
  | markRunning => rfl
  | downloadFile => rfl
  | sendMail => rfl

theorem mails_append {s : Rows} {m : Mail} :
    ({ s with mails := s.mails ++ [m] } : Rows).mails.length = s.mails.length + 1 :=
  List.length_append

theorem findOne_rows {data : SendEmailJobData} {now made : Nat} {id : Option String} {s : Rows} :
    (Attempt.act data now id s (.findOne made)).1 = s := by
  simp only [Attempt.act]
  split
  · rfl
  · split
    · rfl
    · split <;> rfl

theorem counted_work_ok {now : Nat} {id : Option String} {a : Attempt} (active : w.queue = .active a)
    (going : a ≠ .returned) (counted : Counted k w) :
    Counted k (w.attempts p now (.ok id) a) := by
  cases a with
  | returned => exact absurd rfl going
  | findOne made =>
    have rows : (w.attempts p now (.ok id) (.findOne made)).rows = w.rows := findOne_rows
    refine counted_of_quiet counted (congrArg Rows.mails rows) fun still => ?_
    refine mayStillSend_of_open active ?_ nofun
    by_contra settled
    have skips : (w.attempts p now (.ok id) (.findOne made)).queue = .active .skip := by
      unfold Rows.settled at settled
      simp only [World.attempts, Attempt.access, Attempt.act]
      split <;> simp_all
    unfold World.mayStillSend at still
    rw [skips, rows] at still
    simp_all
  | skip =>
    refine counted_of_quiet counted rfl fun still => ?_
    unfold World.mayStillSend
    rw [active]
    exact still
  | markRunning =>
    refine counted_of_quiet counted rfl fun _ => ?_
    unfold World.mayStillSend
    rw [active]
  | downloadFile =>
    refine counted_of_quiet counted rfl fun _ => ?_
    unfold World.mayStillSend
    rw [active]
  | sendMail =>
    have still : w.mayStillSend = true := by
      unfold World.mayStillSend
      rw [active]
    refine ⟨?_, nofun⟩
    have one_more : (w.attempts p now (.ok id) .sendMail).rows.mails.length
        = w.rows.mails.length + 1 := mails_append
    rw [one_more]
    exact Nat.succ_le_succ (counted.2 still)
  | markSent sent =>
    refine counted_of_quiet counted rfl fun still => ?_
    have settled : (w.attempts p now (.ok id) (.markSent sent)).rows.settled = true :=
      settled_markSent
    unfold World.mayStillSend at still
    simp only [World.attempts, Attempt.access, Attempt.act] at still settled
    simp [settled] at still

theorem counted_work_lost {now : Nat} {message : String} {a : Attempt}
    (active : w.queue = .active a) (going : a ≠ .returned) (counted : Counted k w) :
    Counted (k + if forgets w (.work now (.lost message)) then 1 else 0)
      (w.attempts p now (.lost message) a) := by
  have open_row : (w.attempts p now (.lost message) a).mayStillSend = true →
      (a.act p.data now none w.rows).1.settled = false := fun still =>
    quiet_fails (p := p) (w := { w with rows := (a.act p.data now none w.rows).1 }) still
  by_cases sending : a = .sendMail
  · subst sending
    have bad : forgets w (.work now (.lost message)) = true := by simp [forgets, active]
    have still : w.mayStillSend = true := by
      unfold World.mayStillSend
      rw [active]
    have one_more : (w.attempts p now (.lost message) .sendMail).rows.mails.length
        = w.rows.mails.length + 1 := mails_append
    rw [if_pos bad]
    unfold Counted
    rw [one_more]
    have few := counted.2 still
    exact ⟨by omega, fun _ => by omega⟩
  · have good : forgets w (.work now (.lost message)) = false := by
      simp only [forgets, active]
      cases a <;> first | rfl | exact absurd rfl sending
    have mails : (w.attempts p now (.lost message) a).rows.mails = w.rows.mails := by
      change (a.act p.data now none w.rows).1.mails = w.rows.mails
      cases a with
      | sendMail => exact absurd rfl sending
      | findOne made => exact congrArg Rows.mails findOne_rows
      | skip => rfl
      | markRunning => rfl
      | downloadFile => rfl
      | markSent id => rfl
      | returned => rfl
    rw [good]
    refine counted_of_quiet counted mails fun still => ?_
    have open_now := open_row still
    cases a with
    | markSent id =>
      rw [show (Attempt.act p.data now none w.rows (.markSent id)).1.settled = true from
        settled_markSent] at open_now
      cases open_now
    | findOne made =>
      refine mayStillSend_of_open active ?_ nofun
      rwa [findOne_rows] at open_now
    | skip => exact mayStillSend_of_open active open_now nofun
    | markRunning => exact mayStillSend_of_open active open_now nofun
    | downloadFile => exact mayStillSend_of_open active open_now nofun
    | sendMail => exact absurd rfl sending
    | returned => exact absurd rfl going

theorem counted_crash {a : Attempt} (active : w.queue = .active a) (counted : Counted k w) :
    Counted (k + if forgets w .crash then 1 else 0) { w with queue := .waiting } := by
  cases bad : forgets w .crash with
  | true => exact counted_of_forgotten counted rfl
  | false =>
    refine counted_of_quiet counted rfl fun still => ?_
    refine mayStillSend_of_open active ?_ ?_
    · simpa [World.mayStillSend] using still
    · rintro id rfl
      simp [forgets, active] at bad

theorem counted_handle {h : Handler} {i now : Nat} {answer : Answer} (counted : Counted k w) :
    Counted k (w.handles p i now answer h) := by
  have mails : (w.handles p i now answer h).rows.mails = w.rows.mails := by
    cases answer <;> cases h <;> rfl
  refine counted_of_quiet counted mails fun still => ?_
  cases h with
  | markFailed message =>
    cases answer with
    | ok id => exact quiet_of_settled still rfl settled_markFailed
    | error text => exact quiet_of_same still rfl rfl
    | lost text => exact quiet_of_settled still rfl settled_markFailed
  | markCompleted => cases answer <;> exact quiet_of_same still rfl rfl
  | markJobFailed message => cases answer <;> exact quiet_of_same still rfl rfl
  | incrementRetryCount message => cases answer <;> exact quiet_of_same still rfl rfl
  | markRetrying message => cases answer <;> exact quiet_of_same still rfl rfl
  | noteError message => cases answer <;> exact quiet_of_same still rfl rfl

/-- The job is not in the queue while it is still to be put there. -/
def World.AddedOnce (w : World) : Prop := w.enqueuer = some .addJob → w.queue = .absent

theorem addedOnce_step (inv : w.AddedOnce) (step : Step p w e w') : w'.AddedOnce := by
  have gone : ∀ {x : World}, x.enqueuer ≠ some .addJob → x.AddedOnce := fun no here =>
    absurd here no
  cases step with
  | @add answer here => cases answer <;> exact gone nofun
  | @update en now answer here later =>
    cases answer <;> cases en <;> first | exact absurd rfl later | exact gone nofun
  | start waiting => exact fun here => absurd (inv here) (waiting ▸ nofun)
  | @work a now answer active going =>
    intro here
    have same : (w.attempts p now answer a).enqueuer = w.enqueuer := by cases answer <;> rfl
    exact absurd (inv (same ▸ here)) (active ▸ nofun)
  | settle done => exact fun here => absurd (inv here) (done ▸ nofun)
  | crash active => exact fun here => absurd (inv here) (active ▸ nofun)
  | handle there => exact inv

theorem counted_step (once : w.AddedOnce) (counted : Counted k w) (step : Step p w e w') :
    Counted (k + if forgets w e then 1 else 0) w' := by
  cases step with
  | add here => exact counted_add counted (once here)
  | update here later => exact counted_update here later counted
  | start waiting =>
    refine counted_of_quiet counted rfl fun still => ?_
    unfold World.mayStillSend
    rw [waiting]
    exact still
  | @work a now answer active going =>
    cases answer with
    | ok id => exact counted_work_ok active going counted
    | error message => exact counted_work_error active counted
    | lost message => exact counted_work_lost active going counted
  | settle done => exact counted_of_quiet counted rfl nofun
  | crash active => exact counted_crash active counted
  | handle there => exact counted_handle counted

end Bounds

section Attempts

/-- A mail of the attempt under way may be out before the queue counts the attempt. -/
def World.sentPhase (w : World) : Nat :=
  match w.queue with
  | .active .skip | .active (.markSent _) | .active .returned | .completed => 1
  | _ => 0

def World.ongoing (w : World) : Nat :=
  match w.queue with
  | .failed => 0
  | _ => 1

/-- Every mail belongs to an attempt that was counted, that goes on or that was cut off. -/
structure Attempted (p : Setup) (cutOff : Nat) (w : World) : Prop where
  mails : w.rows.mails.length ≤ w.attemptsMade + cutOff + w.sentPhase
  attempts : w.attemptsMade + w.ongoing ≤ max p.attempts 1
  asked : ∀ m ∈ w.rows.mails, m = p.data.mail

variable {p : Setup} {w w' : World} {e : Event} {k : Nat}

theorem attempted_of_same (inv : Attempted p k w) (mails : w'.rows.mails = w.rows.mails)
    (made : w'.attemptsMade = w.attemptsMade) (phase : w.sentPhase ≤ w'.sentPhase)
    (ongoing : w'.ongoing ≤ w.ongoing) : Attempted p k w' := by
  refine ⟨?_, ?_, ?_⟩
  · have few := inv.mails
    rw [mails, made]
    omega
  · have some_left := inv.attempts
    rw [made]
    omega
  · rw [mails]
    exact inv.asked

theorem act_mails {now : Nat} {id : Option String} {a : Attempt} :
    (a.act p.data now id w.rows).1.mails =
      match a with
      | .sendMail => w.rows.mails ++ [p.data.mail]
      | _ => w.rows.mails := by
  cases a with
  | findOne made => exact congrArg Rows.mails findOne_rows
  | skip => rfl
  | markRunning => rfl
  | downloadFile => rfl
  | sendMail => rfl
  | markSent id => rfl
  | returned => rfl

theorem asked_append (asked : ∀ m ∈ w.rows.mails, m = p.data.mail) :
    ∀ m ∈ w.rows.mails ++ [p.data.mail], m = p.data.mail := by
  intro m there
  rcases List.mem_append.mp there with old | new
  · exact asked m old
  · exact List.mem_singleton.mp new

theorem attempted_fails {message : String} {rows : Rows} (active : w.ongoing = 1)
    (attempts : w.attemptsMade + w.ongoing ≤ max p.attempts 1)
    (few : rows.mails.length ≤ w.attemptsMade + k + 1)
    (asked : ∀ m ∈ rows.mails, m = p.data.mail) :
    Attempted p k (({ w with rows := rows } : World).attemptFails p message) := by
  refine ⟨?_, ?_, asked⟩
  · change rows.mails.length ≤ w.attemptsMade + 1 + k + _
    omega
  · change w.attemptsMade + 1 + _ ≤ _
    unfold World.ongoing World.attemptFails
    by_cases more : w.attemptsMade + 1 < p.attempts
    · simp only [more, if_true]
      omega
    · simp only [more, if_false]
      omega

theorem attempted_work {now : Nat} {answer : Answer} {a : Attempt} (inv : Attempted p k w)
    (active : w.queue = .active a) (going : a ≠ .returned) :
    Attempted p k (w.attempts p now answer a) := by
  have ongoing : w.ongoing = 1 := by simp [World.ongoing, active]
  have few := inv.mails
  cases answer with
  | error message =>
    refine attempted_fails ongoing inv.attempts ?_ inv.asked
    have phase : w.sentPhase ≤ 1 := by
      unfold World.sentPhase
      split <;> omega
    omega
  | lost message =>
    refine attempted_fails ongoing inv.attempts ?_ ?_
    · rw [act_mails]
      cases a <;> simp_all [World.sentPhase] <;> omega
    · rw [act_mails]
      cases a with
      | sendMail => exact asked_append inv.asked
      | _ => exact inv.asked
  | ok id =>
    refine ⟨?_, ?_, ?_⟩
    · change (a.act p.data now id w.rows).1.mails.length ≤ w.attemptsMade + k + _
      rw [act_mails]
      cases a <;> simp_all [World.sentPhase, World.attempts, Attempt.access, Attempt.act] <;> omega
    · have same : (w.attempts p now (.ok id) a).ongoing = w.ongoing := by
        rw [ongoing]
        rfl
      rw [same]
      exact inv.attempts
    · change ∀ m ∈ (a.act p.data now id w.rows).1.mails, m = p.data.mail
      rw [act_mails]
      cases a with
      | sendMail => exact asked_append inv.asked
      | _ => exact inv.asked

theorem attempted_step (once : w.AddedOnce) (inv : Attempted p k w) (step : Step p w e w') :
    Attempted p (k + if isCrash e then 1 else 0) w' := by
  cases step with
  | @add answer here =>
    have absent := once here
    refine attempted_of_same inv ?_ ?_ ?_ ?_
    · cases answer <;> rfl
    · cases answer <;> rfl
    · simp [World.sentPhase, absent]
    · cases answer <;> simp [World.ongoing, World.addJob, absent]
  | @update en now answer here later =>
    refine attempted_of_same inv ?_ ?_ ?_ ?_
    · cases answer <;> cases en <;> rfl
    · cases answer <;> rfl
    · cases answer <;> exact Nat.le_refl _
    · cases answer <;> exact Nat.le_refl _
  | start waiting =>
    refine attempted_of_same inv rfl rfl ?_ ?_
    · simp [World.sentPhase, waiting]
    · simp [World.ongoing, waiting]
  | work active going => exact attempted_work inv active going
  | settle done =>
    refine attempted_of_same inv rfl rfl ?_ ?_
    · simp [World.sentPhase, done]
    · simp [World.ongoing, done]
  | @crash a active =>
    have few := inv.mails
    have some_left := inv.attempts
    refine ⟨?_, ?_, inv.asked⟩
    · have phase : w.sentPhase ≤ 1 := by
        unfold World.sentPhase
        split <;> omega
      change w.rows.mails.length ≤ w.attemptsMade + (k + 1) + 0
      omega
    · simpa [World.ongoing, active] using some_left
  | @handle h i now answer there =>
    refine attempted_of_same inv ?_ rfl (Nat.le_refl _) (Nat.le_refl _)
    cases answer <;> cases h <;> rfl

theorem attempted_start : Attempted p 0 World.start where
  mails := Nat.le_refl 0
  attempts := Nat.le_max_right _ _
  asked := nofun

theorem attempted_bound (inv : Attempted p k w) : w.rows.mails.length ≤ max p.attempts 1 + k := by
  have few := inv.mails
  have some_left := inv.attempts
  have phase : w.sentPhase ≤ w.ongoing := by
    unfold World.sentPhase World.ongoing
    cases w.queue with
    | active a => cases a <;> simp
    | absent => simp
    | waiting => simp
    | completed => simp
    | failed => simp
  omega

/-- Only what was asked for is sent; there is at most one mail, and one more for each time that a
    sent one is forgotten; and never more than the attempts allowed, with those that were cut off. -/
theorem mails_bounded {moves : List (Move World Event)} (run : Run (Step p) World.start moves w) :
    (∀ m ∈ w.rows.mails, m = p.data.mail) ∧
      w.rows.mails.length ≤ 1 + forgotten moves ∧
      w.rows.mails.length ≤ max p.attempts 1 + crashes moves := by
  have free : Heeds (fun _ _ => True) moves := fun _ _ => trivial
  have counted : w.AddedOnce ∧ Counted (forgotten moves) w :=
    counted_invariant (fun k w => w.AddedOnce ∧ Counted k w) run
      ⟨fun _ => rfl, Nat.zero_le _, fun _ => Nat.le_refl 0⟩ free
      fun inv step _ => ⟨addedOnce_step inv.1 step, counted_step inv.1 inv.2 step⟩
  have attempted : w.AddedOnce ∧ Attempted p (crashes moves) w :=
    counted_invariant (fun k w => w.AddedOnce ∧ Attempted p k w) run
      ⟨fun _ => rfl, attempted_start⟩ free
      fun inv step _ => ⟨addedOnce_step inv.1 step, attempted_step inv.1 inv.2 step⟩
  refine ⟨attempted.2.asked, ?_, attempted_bound attempted.2⟩
  rw [Nat.add_comm]
  exact counted.2.1

def sampleSetup : Setup where
  data := ⟨["an@example.com"], some "Hello", "Hello", none, none⟩
  bullJobId := "1"
  attempts := 3

def sentTwice : List Event :=
  [.add (.ok none), .start, .work 1 (.ok none), .work 2 (.ok none), .work 3 (.ok (some "m1")), .crash,
    .start, .work 4 (.ok none), .work 5 (.ok none), .work 6 (.ok (some "m2"))]

theorem mails_bounded_cut_off :
    (followed (World.next sampleSetup) sentTwice World.start).2.rows.mails.length = 2 ∧
      2 ≤ 1 + forgotten (followed (World.next sampleSetup) sentTwice World.start).1 ∧
      2 ≤ max 3 1 + crashes (followed (World.next sampleSetup) sentTwice World.start).1 := by
  have run := run_followed_of (@step_of_next sampleSetup) sentTwice World.start
  have bounds := mails_bounded run
  exact ⟨rfl, bounds.2.1, bounds.2.2⟩

end Attempts

end EmailDelivery
