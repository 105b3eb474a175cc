import MeetingPlatform.Lib.Runs

/- One e-mail from the request that enqueues it to the end of its job. The request goes on writing
   after the job is in the queue, the worker's events are answered by handlers nobody waits for, and
   the queue runs an attempt once more when a worker is gone. All of them write the same two rows. -/
namespace EmailDelivery
open LabelledRuns

section Rows

inductive NotificationDeliveryStatus where
  | draft | queued | sent | partialFailed | failed | cancelled
  deriving DecidableEq, Repr

inductive BackgroundJobStatus where
  | queued | scheduled | running | completed | failed | cancelled | retrying
  deriving DecidableEq, Repr

structure NotificationEntity where
  deliveryStatus : NotificationDeliveryStatus
  sentAt : Option Nat
  failureReason : Option String
  messageId : Option String

structure BackgroundJobEntity where
  status : BackgroundJobStatus
  retryCount : Nat
  startedAt : Option Nat
  completedAt : Option Nat
  errorMessage : Option String
  bullJobId : Option String

def createNotification : NotificationEntity where
  deliveryStatus := .draft
  sentAt := none
  failureReason := none
  messageId := none

def createQueuedJob : BackgroundJobEntity where
  status := .queued
  retryCount := 0
  startedAt := none
  completedAt := none
  errorMessage := none
  bullJobId := none

structure SendEmailJobAttachment where
  storageKey : String
  fileName : String
  mimeType : String

structure SendEmailJobData where
  toEmails : List String
  subject : Option String
  content : String
  emailHtml : Option String
  attachment : Option SendEmailJobAttachment

inductive MailBody where
  | given (html : String)
  | wrapPlainTextAsHtml (content : String)

structure Mail where
  recipients : List String
  subject : String
  html : MailBody
  attached : Option String

def orElseText (text : Option String) (fallback : String) : String :=
  match text with
  | some text => if text = "" then fallback else text
  | none => fallback

def SendEmailJobData.mail (data : SendEmailJobData) : Mail where
  recipients := data.toEmails
  subject := orElseText data.subject "(No subject)"
  html :=
    match data.emailHtml with
    | some html => if html = "" then .wrapPlainTextAsHtml data.content else .given html
    | none => .wrapPlainTextAsHtml data.content
  attached := data.attachment.map SendEmailJobAttachment.fileName

structure Rows where
  notification : Option NotificationEntity
  job : BackgroundJobEntity
  mails : List Mail

def Rows.updateNotification (s : Rows) (f : NotificationEntity → NotificationEntity) : Rows :=
  { s with notification := s.notification.map f }

def Rows.updateJob (s : Rows) (f : BackgroundJobEntity → BackgroundJobEntity) : Rows :=
  { s with job := f s.job }

def markQueued (n : NotificationEntity) : NotificationEntity := { n with deliveryStatus := .queued }

def markFailed (reason : String) (n : NotificationEntity) : NotificationEntity :=
  { n with
    deliveryStatus := .failed
    failureReason := some reason }

def markSent (messageId : Option String) (now : Nat) (n : NotificationEntity) : NotificationEntity :=
  { n with
    deliveryStatus := .sent
    sentAt := some now
    messageId := messageId }

def markRunning (now : Nat) (j : BackgroundJobEntity) : BackgroundJobEntity :=
  { j with
    status := .running
    startedAt := some now }

def markCompleted (output : Option String) (now : Nat) (j : BackgroundJobEntity) :
    BackgroundJobEntity :=
  { j with
    status := .completed
    completedAt := some now
    errorMessage := none
    bullJobId := output.or j.bullJobId }

def markJobFailed (message : String) (now : Nat) (j : BackgroundJobEntity) : BackgroundJobEntity :=
  { j with
    status := .failed
    completedAt := some now
    errorMessage := some message }

end Rows

section Calls

/-- How an access of the database, the storage or the mail server ends. A lost one was carried out,
    but the caller gets an error. -/
inductive Answer where
  | ok (messageId : Option String)
  | error (message : String)
  | lost (message : String)

/-- Where `enqueueEmailNotification` stands once its two rows exist. -/
inductive Enqueuer where
  | addJob
  | markQueued
  | markFailed (message : String)
  | markJobFailed (message : String)

/-- Where `process` stands; the queue has not noted a call that has returned. -/
inductive Attempt where
  | findOne (attemptsMade : Nat)
  | skip
  | markRunning
  | downloadFile
  | sendMail
  | markSent (messageId : Option String)
  | returned

/-- Where `onJobCompleted` or `onJobFailed` stands. -/
inductive Handler where
  | markCompleted
  | markFailed (message : String)
  | markJobFailed (message : String)
  | incrementRetryCount (message : String)
  | markRetrying (message : String)
  | noteError (message : String)

def isSettled : NotificationDeliveryStatus → Bool
  | .sent | .failed | .cancelled => true
  | .draft | .queued | .partialFailed => false

def afterRunning (data : SendEmailJobData) : Attempt :=
  if data.attachment.isSome then .downloadFile else .sendMail

/-- What an access of `process` does when nothing goes wrong. -/
def Attempt.act (data : SendEmailJobData) (now : Nat) (messageId : Option String) (s : Rows) :
    Attempt → Rows × Attempt
  | .findOne attemptsMade =>
    match s.notification with
    | none => (s, .skip)
    | some n =>
      if isSettled n.deliveryStatus then (s, .skip)
      else if attemptsMade = 0 then (s, .markRunning)
      else (s, afterRunning data)
  | .skip => (s.updateJob (EmailDelivery.markCompleted none now), .returned)
  | .markRunning => (s.updateJob (EmailDelivery.markRunning now), afterRunning data)
  | .downloadFile => (s, .sendMail)
  | .sendMail => ({ s with mails := s.mails ++ [data.mail] }, .markSent messageId)
  | .markSent id => (s.updateNotification (EmailDelivery.markSent id now), .returned)
  | .returned => (s, .returned)

def Attempt.access (data : SendEmailJobData) (now : Nat) (answer : Answer) (s : Rows)
    (a : Attempt) : Rows × Except String Attempt :=
  match answer with
  | .ok messageId => ((a.act data now messageId s).1, .ok (a.act data now messageId s).2)
  | .error message => (s, .error message)
  | .lost message => ((a.act data now none s).1, .error message)

def Handler.act (bullJobId : String) (now : Nat) (s : Rows) : Handler → Rows × Option Handler
  | .markCompleted => (s.updateJob (EmailDelivery.markCompleted (some bullJobId) now), none)
  | .markFailed message =>
    (s.updateNotification (EmailDelivery.markFailed message), some (.markJobFailed message))
  | .markJobFailed message => (s.updateJob (EmailDelivery.markJobFailed message now), none)
  | .incrementRetryCount message =>
    (s.updateJob fun j => { j with retryCount := j.retryCount + 1 }, some (.markRetrying message))
  | .markRetrying message =>
    (s.updateJob fun j => { j with status := .retrying }, some (.noteError message))
  | .noteError message => (s.updateJob fun j => { j with errorMessage := some message }, none)

def Handler.access (bullJobId : String) (now : Nat) (answer : Answer) (s : Rows) (h : Handler) :
    Rows × Option Handler :=
  match answer with
  | .ok _ => h.act bullJobId now s
  | .error _ => (s, none)
  | .lost _ => ((h.act bullJobId now s).1, none)

/-- `job.opts.attempts || 3` in `onJobFailed`. -/
def maxAttempts (attempts : Nat) : Nat := if attempts = 0 then 3 else attempts

def onJobFailed (attempts attemptsMade : Nat) (message : String) : Handler :=
  if maxAttempts attempts ≤ attemptsMade then .markFailed message else .incrementRetryCount message

end Calls

section Worlds

inductive QueueJob where
  | absent
  | waiting
  | active (attempt : Attempt)
  | completed
  | failed

structure World where
  rows : Rows
  enqueuer : Option Enqueuer
  queue : QueueJob
  attemptsMade : Nat
  handlers : List Handler

def World.start : World where
  rows := ⟨some createNotification, createQueuedJob, []⟩
  enqueuer := some .addJob
  queue := .absent
  attemptsMade := 0
  handlers := []

/-- What is fixed for the job: its data, its number in the queue and `opts.attempts`. -/
structure Setup where
  data : SendEmailJobData
  bullJobId : String
  attempts : Nat

def failedToEnqueue (message : String) : String := "Failed to enqueue: " ++ message

def World.addJob (w : World) : Answer → World
  | .ok _ =>
    { w with
      queue := .waiting
      enqueuer := some .markQueued }
  | .error message => { w with enqueuer := some (.markFailed (failedToEnqueue message)) }
  | .lost message =>
    { w with
      queue := .waiting
      enqueuer := some (.markFailed (failedToEnqueue message)) }

/-- The three updates of `enqueueEmailNotification`. -/
def Enqueuer.act (now : Nat) (s : Rows) : Enqueuer → Rows × Option Enqueuer
  | .addJob => (s, none)
  | .markQueued => (s.updateNotification EmailDelivery.markQueued, none)
  | .markFailed message =>
    (s.updateNotification (EmailDelivery.markFailed message), some (.markJobFailed message))
  | .markJobFailed message => (s.updateJob (EmailDelivery.markJobFailed message now), none)

def World.enqueuerUpdates (w : World) (now : Nat) (e : Enqueuer) : Answer → World
  | .ok _ =>
    { w with
      rows := (e.act now w.rows).1
      enqueuer := (e.act now w.rows).2 }
  | .error _ => { w with enqueuer := none }
  | .lost _ =>
    { w with
      rows := (e.act now w.rows).1
      enqueuer := none }

def World.attemptFails (p : Setup) (w : World) (message : String) : World :=
  { w with
    attemptsMade := w.attemptsMade + 1
    queue := if w.attemptsMade + 1 < p.attempts then .waiting else .failed
    handlers := w.handlers ++ [onJobFailed p.attempts (w.attemptsMade + 1) message] }

def World.attempts (p : Setup) (w : World) (now : Nat) (answer : Answer) (a : Attempt) : World :=
  match a.access p.data now answer w.rows with
  | (rows, .ok next) =>
    { w with
      rows := rows
      queue := .active next }
  | (rows, .error message) => { w with rows := rows }.attemptFails p message

def World.handles (p : Setup) (w : World) (i now : Nat) (answer : Answer) (h : Handler) : World :=
  let next := h.access p.bullJobId now answer w.rows
  { w with
    rows := next.1
    handlers :=
      match next.2 with
      | some h' => w.handlers.set i h'
      | none => w.handlers.eraseIdx i }

inductive Event where
  | add (answer : Answer)
  | update (now : Nat) (answer : Answer)
  | start
  | work (now : Nat) (answer : Answer)
  | settle
  | crash
  | handle (i now : Nat) (answer : Answer)

/-- A worker that is gone leaves its job to the next one, with the attempt not counted. -/
inductive Step (p : Setup) : World → Event → World → Prop where
  | add {w : World} {answer : Answer} (here : w.enqueuer = some .addJob) :
      Step p w (.add answer) (w.addJob answer)
  | update {w : World} {e : Enqueuer} {now : Nat} {answer : Answer} (here : w.enqueuer = some e)
      (later : e ≠ .addJob) : Step p w (.update now answer) (w.enqueuerUpdates now e answer)
  | start {w : World} (waiting : w.queue = .waiting) :
      Step p w .start { w with queue := .active (.findOne w.attemptsMade) }
  | work {w : World} {a : Attempt} {now : Nat} {answer : Answer} (active : w.queue = .active a)
      (going : a ≠ .returned) : Step p w (.work now answer) (w.attempts p now answer a)
  | settle {w : World} (done : w.queue = .active .returned) :
      Step p w .settle { w with
        queue := .completed
        handlers := w.handlers ++ [.markCompleted] }
  | crash {w : World} {a : Attempt} (active : w.queue = .active a) :
      Step p w .crash { w with queue := .waiting }
  | handle {w : World} {h : Handler} {i now : Nat} {answer : Answer}
      (there : w.handlers[i]? = some h) :
      Step p w (.handle i now answer) (w.handles p i now answer h)

def World.next (p : Setup) (e : Event) (w : World) : Option World :=
  match e with
  | .add answer =>
    match w.enqueuer with
    | some .addJob => some (w.addJob answer)
    | _ => none
  | .update now answer =>
    match w.enqueuer with
    | none | some .addJob => none
    | some e => some (w.enqueuerUpdates now e answer)
  | .start =>
    match w.queue with
    | .waiting => some { w with queue := .active (.findOne w.attemptsMade) }
    | _ => none
  | .work now answer =>
    match w.queue with
    | .active .returned => none
    | .active a => some (w.attempts p now answer a)
    | _ => none
  | .settle =>
    match w.queue with
    | .active .returned =>
      some { w with
        queue := .completed
        handlers := w.handlers ++ [.markCompleted] }
    | _ => none
  | .crash =>
    match w.queue with
    | .active _ => some { w with queue := .waiting }
    | _ => none
  | .handle i now answer => (w.handlers[i]?).map (w.handles p i now answer)

theorem step_of_next {p : Setup} {w : World} {e : Event} {w' : World}
    (done : w.next p e = some w') : Step p w e w' := by
  cases e with
  | add answer =>
    simp only [World.next] at done
    split at done
    · rename_i here
      cases done
      exact .add here
    · cases done
  | update now answer =>
    simp only [World.next] at done
    split at done
    · cases done
    · cases done
    · rename_i e later here
      cases done
      exact .update here later
  | start =>
    simp only [World.next] at done
    split at done
    · rename_i waiting
      cases done
      exact .start waiting
    · cases done
  | work now answer =>
    simp only [World.next] at done
    split at done
    · cases done
    · rename_i a going active
      cases done
      exact .work active going
    · cases done
  | settle =>
    simp only [World.next] at done
    split at done
    · rename_i returned
      cases done
      exact .settle returned
    · cases done
  | crash =>
    simp only [World.next] at done
    split at done
    · rename_i a active
      cases done
      exact .crash active
    · cases done
  | handle i now answer =>
    simp only [World.next, Option.map_eq_some_iff] at done
    obtain ⟨h, there, rfl⟩ := done
    exact .handle there

end Worlds

end EmailDelivery
