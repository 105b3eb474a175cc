import MeetingPlatform.Lib.CallPool
import MeetingPlatform.Lib.ExpiringStore
import Mathlib.Data.List.Nodup

/- Reminders of those who have not checked in to a meeting. A run takes a lock that expires, goes
   through the participants, and keeps a key for each one that it has written to. -/
namespace CheckInAlerts
open LabelledRuns CallPools ExpiringStore

section Rows

inductive NotificationType where
  | lateCheckinAlert | lateCheckinHostSummary
  deriving DecidableEq, Repr

structure Mail where
  notificationType : NotificationType
  meetingId : Nat
  recipientUserId : Nat
  toEmail : String
  graceMinutes : Nat
  participantsAlerted : List String := []
  deriving DecidableEq, Repr

inductive RedisKey where
  | lock (meetingId : Nat)
  | alert (meetingId userId graceMinutes : Nat)
  | hostAlert (meetingId hostId graceMinutes : Nat)
  deriving DecidableEq, Repr

/-- `clock` is the instant of the last access. The last two are history that no call reads: whose key
    has been set after the queue took his mail, and whose mail the queue took from a call that was
    told of a failure. -/
structure AlertStore where
  redis : Cache RedisKey String
  mails : List Mail
  clock : Nat
  keyed : List (Nat × Nat) := []
  keyless : List (Nat × Nat) := []

structure CheckinAlertConfig where
  graceMinutes : Nat
  notifyHostEnabled : Bool
  deriving DecidableEq, Repr

/-- How `enqueueEmailNotification` ends. It returns where the queue refuses the job, and throws where
    only the later update of the notification fails. -/
structure Enqueuing where
  queued : Bool := true
  throws : Bool := false
  deriving DecidableEq, Repr

/-- A row of the query, with what the later look for a check-in and the mail queue answer; `hasCheckIn`
    is `none` where that look throws. -/
structure RequiredParticipant where
  userId : Nat
  email : Option String
  isActive : Bool
  fullName : String
  hasCheckIn : Option Bool := some false
  enqueuing : Enqueuing := {}
  deriving DecidableEq, Repr

/-- A call of `processMeeting` with the answers of the database; `participants` is `none` where the
    query throws, and `hostEmail` where the host has no address or is not active. -/
structure AlertRequest where
  meetingId : Nat
  instanceId : String
  inProgress : Bool := true
  participants : Option (List RequiredParticipant)
  hostId : Option Nat := none
  hostEmail : Option String := none
  hostEnqueuing : Enqueuing := {}
  deriving DecidableEq, Repr

structure PartialFailureItem where
  userId : Nat
  reason : String
  deriving DecidableEq, Repr

structure ProcessingResult where
  alertsSent : Nat := 0
  partialFailures : List PartialFailureItem := []
  deriving DecidableEq, Repr

inductive AlertStage where
  | starting
  | locking
  | loading
  | checking (p : RequiredParticipant) (rest : List RequiredParticipant) (result : ProcessingResult)
  | rechecking (p : RequiredParticipant) (rest : List RequiredParticipant) (result : ProcessingResult)
  | sending (p : RequiredParticipant) (email : String) (rest : List RequiredParticipant)
    (result : ProcessingResult)
  | marking (p : RequiredParticipant) (rest : List RequiredParticipant) (result : ProcessingResult)
  | summarizing (hostId : Nat) (result : ProcessingResult)
  | sendingSummary (hostId : Nat) (result : ProcessingResult)
  | markingHost (hostId : Nat)
  | releasing
  deriving DecidableEq, Repr

structure AlertCall where
  request : AlertRequest
  stage : AlertStage
  deriving DecidableEq, Repr

end Rows

section Run
variable (cfg : CheckinAlertConfig) (r : AlertRequest)

def alertKeyTtl : Nat := 86400

def AlertStore.set (s : AlertStore) (now : Nat) (key : RedisKey) (value : String) (ttl : Nat) :
    AlertStore :=
  { s with redis := s.redis.setWithTtl now key value ttl }

def AlertStore.enqueue (s : AlertStore) (enqueuing : Enqueuing) (mail : Mail) : AlertStore :=
  if enqueuing.queued then { s with mails := s.mails ++ [mail] } else s

def ProcessingResult.fail (result : ProcessingResult) (userId : Nat) (reason : String) :
    ProcessingResult :=
  { result with partialFailures := result.partialFailures ++ [⟨userId, reason⟩] }

def AlertRequest.keyOf (userId : Nat) : RedisKey := .alert r.meetingId userId cfg.graceMinutes

/-- Redis takes no expiry of zero, and a run that gets an error for the lock goes on without it. -/
def acquireLock (s : AlertStore) (now : Nat) : Option AlertStore :=
  let ttl := cfg.graceMinutes * 120
  if ttl = 0 then some s
  else if (s.redis.get now (.lock r.meetingId)).isSome then none
  else some (s.set now (.lock r.meetingId) r.instanceId ttl)

def goOn (rest : List RequiredParticipant) (result : ProcessingResult) : AlertStage :=
  match rest with
  | p :: rest => .checking p rest result
  | [] =>
    match r.hostId.filter fun _ => 0 < result.alertsSent ∧ cfg.notifyHostEnabled = true with
    | some hostId => .summarizing hostId result
    | none => .releasing

def alertMail (p : RequiredParticipant) (email : String) : Mail :=
  ⟨.lateCheckinAlert, r.meetingId, p.userId, email, cfg.graceMinutes, []⟩

/-- The participants for whom nothing has failed, whether they have been written to or not. -/
def alertedNames (result : ProcessingResult) : List String :=
  ((r.participants.getD []).filter fun p =>
    ¬ result.partialFailures.any fun f => f.userId = p.userId).map RequiredParticipant.fullName

def AlertStage.access (s : AlertStore) (now : Nat) : AlertStage → AlertStore × Option AlertStage
  | .starting => (s, if r.inProgress then some .locking else none)
  | .locking =>
    match acquireLock cfg r s now with
    | none => (s, none)
    | some locked => (locked, some .loading)
  | .loading =>
    match r.participants with
    | some (p :: rest) => (s, some (.checking p rest {}))
    | some [] | none => (s, some .releasing)
  | .checking p rest result =>
    if (s.redis.get now (r.keyOf cfg p.userId)).isSome then (s, some (goOn cfg r rest result))
    else (s, some (.rechecking p rest result))
  | .rechecking p rest result =>
    match p.hasCheckIn with
    | none => (s, some .releasing)
    | some true => (s, some (goOn cfg r rest result))
    | some false =>
      match p.email.filter (· ≠ "") with
      | none => (s, some (goOn cfg r rest (result.fail p.userId "missing_email")))
      | some email =>
        if p.isActive then (s, some (.sending p email rest result))
        else (s, some (goOn cfg r rest (result.fail p.userId "account_inactive")))
  | .sending p email rest result =>
    (s.enqueue p.enqueuing (alertMail cfg r p email),
      some <| if p.enqueuing.throws then goOn cfg r rest (result.fail p.userId "send_failed")
        else .marking p rest { result with alertsSent := result.alertsSent + 1 })
  | .marking p rest result =>
    (s.set now (r.keyOf cfg p.userId) "1" alertKeyTtl, some (goOn cfg r rest result))
  | .summarizing hostId result =>
    if (s.redis.get now (.hostAlert r.meetingId hostId cfg.graceMinutes)).isSome then
      (s, some .releasing)
    else (s, some (.sendingSummary hostId result))
  | .sendingSummary hostId result =>
    match r.hostEmail with
    | none => (s, some (.markingHost hostId))
    | some email =>
      (s.enqueue r.hostEnqueuing ⟨.lateCheckinHostSummary, r.meetingId, hostId, email, cfg.graceMinutes,
        alertedNames r result⟩, some (.markingHost hostId))
  | .markingHost hostId =>
    (s.set now (.hostAlert r.meetingId hostId cfg.graceMinutes) "1" alertKeyTtl, some .releasing)
  | .releasing => ({ s with redis := s.redis.del (.lock r.meetingId) }, none)

def AlertCall.adds (c : AlertCall) : Option (Nat × Nat) :=
  match c.stage with
  | .sending p _ _ _ => if p.enqueuing.queued then some (c.request.meetingId, p.userId) else none
  | _ => none

/-- Who is sent a mail by the next access and gets no key, since the call is told of a failure. -/
def AlertCall.forsakes (c : AlertCall) : Option (Nat × Nat) :=
  match c.stage with
  | .sending p _ _ _ =>
    if p.enqueuing.queued ∧ p.enqueuing.throws then some (c.request.meetingId, p.userId) else none
  | _ => none

def AlertCall.sets (c : AlertCall) : Option (Nat × Nat) :=
  match c.stage with
  | .marking p _ _ => some (c.request.meetingId, p.userId)
  | _ => none

def AlertCall.marks (c : AlertCall) : Option (Nat × Nat) :=
  match c.stage with
  | .marking p _ _ => if p.enqueuing.queued then some (c.request.meetingId, p.userId) else none
  | _ => none

def alerting : Service AlertStore AlertCall AlertRequest where
  clock s := s.clock
  admits _ _ := True
  enter _ r := ⟨r, .starting⟩
  act now c s :=
    ({ (c.stage.access cfg c.request s now).1 with
        clock := now
        keyed := s.keyed ++ c.marks.toList
        keyless := s.keyless ++ c.forsakes.toList },
      (c.stage.access cfg c.request s now).2.map (⟨c.request, ·⟩))

instance (s : AlertStore) (r : AlertRequest) : Decidable ((alerting cfg).admits s r) :=
  inferInstanceAs (Decidable True)

end Run

section Reminders
variable {cfg : CheckinAlertConfig} {s : AlertStore} {c : AlertCall} {now later : Nat}

def AlertStore.reminded (s : AlertStore) : List (Nat × Nat) :=
  (s.mails.filter fun mail => mail.notificationType = .lateCheckinAlert).map fun mail =>
    (mail.meetingId, mail.recipientUserId)

def keyFor (cfg : CheckinAlertConfig) (who : Nat × Nat) : RedisKey :=
  .alert who.1 who.2 cfg.graceMinutes

def AlertCall.unmarked (c : AlertCall) : Option (Nat × Nat) :=
  match c.stage with
  | .rechecking p _ _ | .sending p _ _ _ => some (c.request.meetingId, p.userId)
  | _ => none

theorem unmarked_of_adds {who : Nat × Nat} (sends : c.adds = some who) : c.unmarked = some who := by
  obtain ⟨r, stage⟩ := c
  cases stage with
  | sending p email rest result => exact (Option.ite_some_none_eq_some.mp sends).2 ▸ rfl
  | _ => cases sends

theorem adds_of_forsakes {who : Nat × Nat} (forsakes : c.forsakes = some who) : c.adds = some who := by
  obtain ⟨r, stage⟩ := c
  cases stage with
  | sending p email rest result =>
    obtain ⟨⟨queued, -⟩, same⟩ := Option.ite_some_none_eq_some.mp forsakes
    exact (if_pos queued).trans (congrArg some same)
  | _ => cases forsakes

theorem sets_of_marks {who : Nat × Nat} (marks : c.marks = some who) : c.sets = some who := by
  obtain ⟨r, stage⟩ := c
  cases stage with
  | marking p rest result => exact congrArg some (Option.ite_some_none_eq_some.mp marks).2
  | _ => cases marks

theorem not_marks_of_adds {who : Nat × Nat} (sends : c.adds = some who) : c.marks = none := by
  obtain ⟨r, stage⟩ := c
  cases stage with
  | sending p email rest result => rfl
  | _ => cases sends

def SetsKey (cfg : CheckinAlertConfig) (s : AlertStore) (now : Nat) (sets : Option (Nat × Nat))
    (after : AlertStore) : Prop :=
  ∀ who, after.redis.entries (keyFor cfg who) =
    if sets = some who then some ⟨"1", some (now + alertKeyTtl * 1000)⟩
    else s.redis.entries (keyFor cfg who)

structure Accesses (cfg : CheckinAlertConfig) (now : Nat) (c : AlertCall) (s after : AlertStore) :
    Prop where
  reminded : after.reminded = s.reminded ++ c.adds.toList
  keys : SetsKey cfg s now c.sets after

theorem accesses_quiet {after : AlertStore} (sends : c.adds = none) (sets : c.sets = none)
    (mails : after.mails = s.mails)
    (keys : ∀ who, after.redis.entries (keyFor cfg who) = s.redis.entries (keyFor cfg who)) :
    Accesses cfg now c s after := by
  constructor
  · rw [sends, AlertStore.reminded, mails]
    exact (List.append_nil _).symm
  · intro who
    rw [sets, if_neg (by simp)]
    exact keys who

theorem keys_put {key : RedisKey} (other : ∀ who, keyFor cfg who ≠ key) (e : Option (Entry String))
    (who : Nat × Nat) : (s.redis.put key e).entries (keyFor cfg who) = s.redis.entries (keyFor cfg who) :=
  entries_put_of_ne e (other who)

theorem enqueue_redis (enqueuing : Enqueuing) (mail : Mail) :
    (s.enqueue enqueuing mail).redis = s.redis := by
  simp only [AlertStore.enqueue]
  split <;> rfl

theorem reminded_enqueue (enqueuing : Enqueuing) (mail : Mail) :
    (s.enqueue enqueuing mail).reminded = s.reminded ++
      if enqueuing.queued ∧ mail.notificationType = .lateCheckinAlert then
        [(mail.meetingId, mail.recipientUserId)] else [] := by
  simp only [AlertStore.enqueue]
  split
  · rename_i queued
    simp only [AlertStore.reminded, List.filter_append, List.map_append, queued, true_and]
    congr 1
    split
    · rename_i late
      rw [List.filter_cons_of_pos (by simpa using late)]
      rfl
    · rename_i other
      rw [List.filter_cons_of_neg (by simpa using other)]
      rfl
  · rename_i refused
    rw [if_neg (by simp [refused]), List.append_nil]

theorem access_accesses (cfg : CheckinAlertConfig) (now : Nat) (c : AlertCall) (s : AlertStore) :
    Accesses cfg now c s ((alerting cfg).act now c s).1 := by
  obtain ⟨r, stage⟩ := c
  cases stage with
  | starting => exact accesses_quiet rfl rfl rfl fun _ => rfl
  | locking =>
    simp only [alerting, AlertStage.access, acquireLock]
    split
    · exact accesses_quiet rfl rfl rfl fun _ => rfl
    · rename_i locked acquired
      split at acquired
      · cases acquired
        exact accesses_quiet rfl rfl rfl fun _ => rfl
      · split at acquired
        · cases acquired
        · cases acquired
          exact accesses_quiet rfl rfl rfl (keys_put (by rintro _ ⟨⟩) _)
  | loading =>
    simp only [alerting, AlertStage.access]
    split <;> exact accesses_quiet rfl rfl rfl fun _ => rfl
  | checking p rest result =>
    simp only [alerting, AlertStage.access]
    split <;> exact accesses_quiet rfl rfl rfl fun _ => rfl
  | rechecking p rest result =>
    simp only [alerting, AlertStage.access]
    repeat' split
    all_goals exact accesses_quiet rfl rfl rfl fun _ => rfl
  | sending p email rest result =>
    constructor
    · refine (reminded_enqueue p.enqueuing (alertMail cfg r p email)).trans ?_
      simp only [AlertCall.adds, alertMail, and_true]
      split <;> rfl
    · intro who
      exact congrArg (·.entries (keyFor cfg who)) (enqueue_redis p.enqueuing (alertMail cfg r p email))
  | marking p rest result =>
    constructor
    · exact (List.append_nil _).symm
    · intro who
      change (s.redis.put (r.keyOf cfg p.userId) _).entries (keyFor cfg who) =
        if some (r.meetingId, p.userId) = some who then _ else _
      split
      · rename_i same
        cases same
        exact entries_put_self _
      · rename_i apart
        refine entries_put_of_ne _ ?_
        obtain ⟨meetingId, userId⟩ := who
        intro same
        cases same
        exact apart rfl
  | summarizing hostId result =>
    simp only [alerting, AlertStage.access]
    split <;> exact accesses_quiet rfl rfl rfl fun _ => rfl
  | sendingSummary hostId result =>
    simp only [alerting, AlertStage.access]
    split
    · exact accesses_quiet rfl rfl rfl fun _ => rfl
    · constructor
      · refine (reminded_enqueue _ _).trans ?_
        rw [if_neg (by rintro ⟨-, ⟨⟩⟩)]
        rfl
      · intro who
        exact congrArg (·.entries (keyFor cfg who)) (enqueue_redis _ _)
  | markingHost hostId => exact accesses_quiet rfl rfl rfl (keys_put (by rintro _ ⟨⟩) _)
  | releasing => exact accesses_quiet rfl rfl rfl (keys_put (by rintro _ ⟨⟩) _)

theorem goOn_quiet (cfg : CheckinAlertConfig) (r : AlertRequest) (rest : List RequiredParticipant)
    (result : ProcessingResult) :
    (AlertCall.mk r (goOn cfg r rest result)).unmarked = none ∧
      (AlertCall.mk r (goOn cfg r rest result)).marks = none := by
  cases rest with
  | cons p rest => exact ⟨rfl, rfl⟩
  | nil =>
    simp only [goOn]
    generalize r.hostId.filter _ = host
    cases host with
    | none => exact ⟨rfl, rfl⟩
    | some hostId => exact ⟨rfl, rfl⟩

theorem next_call {c' : AlertCall} (next : ((alerting cfg).act now c s).2 = some c') (who : Nat × Nat) :
    (c'.unmarked = some who → c.sets = none ∧
        (s.redis.get now (keyFor cfg who) = none ∨ c.unmarked = some who)) ∧
      (c'.marks = some who → c.adds = some who) := by
  obtain ⟨r, stage⟩ := c
  obtain ⟨stage', goes, rfl⟩ := Option.map_eq_some_iff.mp next
  have quiet (rest : List RequiredParticipant) (result : ProcessingResult)
      (ends : some (goOn cfg r rest result) = some stage') :
      ((AlertCall.mk r stage').unmarked = some who → (AlertCall.mk r stage).sets = none ∧
        (s.redis.get now (keyFor cfg who) = none ∨ (AlertCall.mk r stage).unmarked = some who)) ∧
      ((AlertCall.mk r stage').marks = some who → (AlertCall.mk r stage).adds = some who) := by
    cases ends
    rw [(goOn_quiet cfg r rest result).1, (goOn_quiet cfg r rest result).2]
    exact ⟨by rintro ⟨⟩, by rintro ⟨⟩⟩
  cases stage with
  | starting =>
    simp only [AlertStage.access] at goes
    split at goes <;> cases goes
    exact ⟨by rintro ⟨⟩, by rintro ⟨⟩⟩
  | locking =>
    simp only [AlertStage.access] at goes
    split at goes <;> cases goes
    exact ⟨by rintro ⟨⟩, by rintro ⟨⟩⟩
  | loading =>
    simp only [AlertStage.access] at goes
    split at goes <;> cases goes <;> exact ⟨by rintro ⟨⟩, by rintro ⟨⟩⟩
  | checking p rest result =>
    simp only [AlertStage.access] at goes
    split at goes
    · exact quiet rest result goes
    · rename_i absent
      cases goes
      refine ⟨?_, by rintro ⟨⟩⟩
      rintro ⟨⟩
      exact ⟨rfl, Or.inl (Option.not_isSome_iff_eq_none.mp absent)⟩
  | rechecking p rest result =>
    simp only [AlertStage.access] at goes
    split at goes
    · cases goes
      exact ⟨by rintro ⟨⟩, by rintro ⟨⟩⟩
    · exact quiet _ _ goes
    · split at goes
      · exact quiet _ _ goes
      · split at goes
        · cases goes
          exact ⟨fun before => ⟨rfl, Or.inr before⟩, by rintro ⟨⟩⟩
        · exact quiet _ _ goes
  | sending p email rest result =>
    simp only [AlertStage.access] at goes
    split at goes
    · exact quiet _ _ goes
    · cases goes
      exact ⟨by rintro ⟨⟩, fun marks => marks⟩
  | marking p rest result => exact quiet _ _ goes
  | summarizing hostId result =>
    simp only [AlertStage.access] at goes
    split at goes <;> cases goes <;> exact ⟨by rintro ⟨⟩, by rintro ⟨⟩⟩
  | sendingSummary hostId result =>
    simp only [AlertStage.access] at goes
    split at goes <;> cases goes <;> exact ⟨by rintro ⟨⟩, by rintro ⟨⟩⟩
  | markingHost hostId =>
    cases goes
    exact ⟨by rintro ⟨⟩, by rintro ⟨⟩⟩
  | releasing => cases goes

theorem sent_is_marked_next (cfg : CheckinAlertConfig) (s : AlertStore) (now : Nat)
    {who : Nat × Nat} (sends : c.adds = some who) :
    c.forsakes = some who ∨ ∃ c', ((alerting cfg).act now c s).2 = some c' ∧ c'.marks = some who := by
  obtain ⟨r, stage⟩ := c
  cases stage with
  | sending p email rest result =>
    have queued := (Option.ite_some_none_eq_some.mp sends).1
    cases throws : p.enqueuing.throws with
    | true => exact Or.inl ((if_pos ⟨queued, throws⟩).trans ((if_pos queued).symm.trans sends))
    | false =>
      refine Or.inr ⟨⟨r, .marking p rest { result with alertsSent := result.alertsSent + 1 }⟩, ?_, sends⟩
      simp only [alerting, AlertStage.access, throws, Bool.false_eq_true, if_false, Option.map_some]
  | _ => cases sends

/-- The history speaks of those who have been sent a mail. -/
structure Logged (start : Nat) (s : AlertStore) : Prop where
  late : start ≤ s.clock
  keyed : ∀ who ∈ s.keyed, who ∈ s.reminded
  keyless : ∀ who ∈ s.keyless, who ∈ s.reminded

def Tracks (s : AlertStore) (c : AlertCall) : Prop := ∀ who, c.marks = some who → who ∈ s.reminded

theorem reminded_grows (cfg : CheckinAlertConfig) (now : Nat) (c : AlertCall) {who : Nat × Nat}
    (there : who ∈ s.reminded) : who ∈ ((alerting cfg).act now c s).1.reminded := by
  rw [(access_accesses cfg now c s).reminded]
  exact List.mem_append.mpr (Or.inl there)

theorem adds_reminded (cfg : CheckinAlertConfig) (s : AlertStore) (now : Nat) {who : Nat × Nat}
    (sends : c.adds = some who) : who ∈ ((alerting cfg).act now c s).1.reminded := by
  rw [(access_accesses cfg now c s).reminded, sends]
  exact List.mem_append.mpr (Or.inr (List.mem_singleton.mpr rfl))

theorem logged_access {start : Nat} (logged : Logged start s) (tracks : Tracks s c)
    (order : s.clock ≤ now) : Logged start ((alerting cfg).act now c s).1 := by
  constructor
  · exact Nat.le_trans logged.late order
  · intro who there
    refine reminded_grows cfg now c ?_
    rcases List.mem_append.mp there with old | new
    · exact logged.keyed who old
    · exact tracks who (Option.mem_toList.mp new)
  · intro who there
    rcases List.mem_append.mp there with old | new
    · exact reminded_grows cfg now c (logged.keyless who old)
    · exact adds_reminded cfg s now (adds_of_forsakes (Option.mem_toList.mp new))

theorem alerting_keeps (cfg : CheckinAlertConfig) (start : Nat) :
    Keeps (alerting cfg) (Logged start) Tracks (fun _ _ => True) (fun _ _ _ => True) where
  symm _ _ _ := trivial
  enters _ _ _ _ := by rintro _ ⟨⟩
  alone _ _ _ _ _ _ := trivial
  inv _ _ _ logged tracks order _ := logged_access logged tracks order
  next s now c c' _ _ _ _ next := by
    intro who marks
    exact adds_reminded cfg s now ((next_call next who).2 marks)
  others s now c d _ _ other _ _ _ := by
    intro who marks
    exact reminded_grows cfg now c (other who marks)
  still_apart _ _ _ _ _ _ _ _ _ _ _ _ := trivial

section Day
variable {start : Nat} {p q : Pool AlertStore AlertCall} {turn : Turn AlertRequest}

def dayLength : Nat := alertKeyTtl * 1000

def KeyLasts (cfg : CheckinAlertConfig) (dayEnd : Nat) (s : AlertStore) (who : Nat × Nat) : Prop :=
  ∃ e, s.redis.entries (keyFor cfg who) = some e ∧ ∀ d ∈ e.deadline, dayEnd ≤ d

/-- Everyone who has been sent a mail has a key set after it, or a call is under way that sets one
    next, or the call that sent it was told of a failure. -/
def Answered (cfg : CheckinAlertConfig) (dayEnd : Nat) (p : Pool AlertStore AlertCall) : Prop :=
  ∀ who ∈ p.shared.reminded, (who ∈ p.shared.keyed ∧ KeyLasts cfg dayEnd p.shared who) ∨
    (∃ j d, p.calls j = some d ∧ d.marks = some who) ∨ who ∈ p.shared.keyless

theorem keyLasts_access {start : Nat} {who : Nat × Nat} (late : start ≤ now)
    (lasts : c.sets = some who ∨ KeyLasts cfg (start + dayLength) s who) :
    KeyLasts cfg (start + dayLength) ((alerting cfg).act now c s).1 who := by
  have set := (access_accesses cfg now c s).keys who
  by_cases sets : c.sets = some who
  · rw [if_pos sets] at set
    refine ⟨_, set, ?_⟩
    intro d deadline
    cases deadline
    exact Nat.add_le_add_right late _
  · rw [if_neg sets] at set
    obtain ⟨e, entry, until_end⟩ := lasts.resolve_left sets
    exact ⟨e, set.trans entry, until_end⟩

theorem answered_step (sound : Sound (Logged start) Tracks (fun _ _ => True) p)
    (answered : Answered cfg (start + dayLength) p) (step : Step (alerting cfg) p turn q) :
    Answered cfg (start + dayLength) q := by
  cases step with
  | @enter i r free admitted =>
    intro who there
    refine (answered who there).imp_right (Or.imp_left ?_)
    rintro ⟨j, d, found, marks⟩
    have other : j ≠ i := by
      rintro rfl
      rw [free] at found
      cases found
    exact ⟨j, d, (Function.update_of_ne other _ _).trans found, marks⟩
  | @act i now c waiting order =>
    have late : start ≤ now := Nat.le_trans sound.shared.late order
    intro who there
    change who ∈ ((alerting cfg).act now c p.shared).1.reminded at there
    rw [(access_accesses cfg now c p.shared).reminded] at there
    by_cases marked : c.marks = some who
    · refine Or.inl ⟨?_, keyLasts_access late (Or.inl (sets_of_marks marked))⟩
      exact List.mem_append.mpr (Or.inr (Option.mem_toList.mpr marked))
    · rcases List.mem_append.mp there with old | new
      · rcases answered who old with ⟨keyed, lasts⟩ | ⟨j, d, found, marks⟩ | keyless
        · exact Or.inl ⟨List.mem_append.mpr (Or.inl keyed), keyLasts_access late (Or.inr lasts)⟩
        · have other : j ≠ i := by
            rintro rfl
            rw [waiting] at found
            cases found
            exact marked marks
          exact Or.inr (Or.inl ⟨j, d, (Function.update_of_ne other _ _).trans found, marks⟩)
        · exact Or.inr (Or.inr (List.mem_append.mpr (Or.inl keyless)))
      · rcases sent_is_marked_next cfg p.shared now (Option.mem_toList.mp new) with
          forsaken | ⟨c', next, marks⟩
        · exact Or.inr (Or.inr (List.mem_append.mpr (Or.inr (Option.mem_toList.mpr forsaken))))
        · exact Or.inr (Or.inl ⟨i, c', (Function.update_self _ _ _).trans next, marks⟩)

/-- Nobody has been written to twice. -/
def RemindedOnce (s : AlertStore) : Prop := s.reminded.Nodup

instance (s : AlertStore) : Decidable (RemindedOnce s) := inferInstanceAs (Decidable s.reminded.Nodup)

/-- Nothing of an earlier mail shows: no key that was set after one, no other call that is still to
    set it, and no call that was told of a failure. -/
def NoTrace (cfg : CheckinAlertConfig) (p : Pool AlertStore AlertCall) (i now : Nat) (who : Nat × Nat) :
    Prop :=
  ((p.shared.redis.get now (keyFor cfg who)).isSome → who ∉ p.shared.keyed) ∧
    (∀ j d, j ≠ i → p.calls j = some d → d.marks ≠ some who) ∧ who ∉ p.shared.keyless

/-- When a call sends a mail, nothing of an earlier one to the participant shows. -/
def Clear (cfg : CheckinAlertConfig) (p : Pool AlertStore AlertCall) : Turn AlertRequest → Prop
  | .enter _ _ => True
  | .act i now => ∀ c, p.calls i = some c → ∀ who, c.adds = some who → NoTrace cfg p i now who

theorem reminded_iff {dayEnd i now : Nat} {c : AlertCall} {who : Nat × Nat}
    (sound : Sound (Logged start) Tracks (fun _ _ => True) p)
    (answered : Answered cfg dayEnd p) (waiting : p.calls i = some c) (within : now < dayEnd)
    (sends : c.adds = some who) : who ∉ p.shared.reminded ↔ NoTrace cfg p i now who := by
  constructor
  · intro unwritten
    refine ⟨?_, ?_, ?_⟩
    · intro _ keyed
      exact unwritten (sound.shared.keyed who keyed)
    · intro j d _ found marks
      exact unwritten (sound.fits j d found who marks)
    · intro keyless
      exact unwritten (sound.shared.keyless who keyless)
  · rintro ⟨unset, nobody, heard⟩ there
    rcases answered who there with ⟨keyed, e, entry, lasts⟩ | ⟨j, d, found, marks⟩ | keyless
    · have live : e.Live now := fun d deadline => Nat.lt_of_lt_of_le within (lasts d deadline)
      have present := get_eq_some.mpr ⟨e, entry, live, rfl⟩
      exact unset (Option.isSome_iff_exists.mpr ⟨_, present⟩) keyed
    · by_cases same : j = i
      · rw [same, waiting] at found
        cases found
        rw [not_marks_of_adds sends] at marks
        cases marks
      · exact nobody j d same found marks
    · exact heard keyless

theorem remindedOnce_step (sound : Sound (Logged start) Tracks (fun _ _ => True) p)
    (answered : Answered cfg (start + dayLength) p) (once : RemindedOnce p.shared)
    (step : Step (alerting cfg) p turn q) (within : q.shared.clock < start + dayLength) :
    RemindedOnce q.shared ↔ Clear cfg p turn := by
  cases step with
  | @enter i r free admitted => exact iff_of_true once trivial
  | @act i now c waiting order =>
    have clear : Clear cfg p (.act i now) ↔ ∀ who, c.adds = some who → NoTrace cfg p i now who := by
      constructor
      · intro all
        exact all c waiting
      · intro here c' found
        rw [waiting] at found
        cases found
        exact here
    rw [clear]
    change ((alerting cfg).act now c p.shared).1.reminded.Nodup ↔ _
    rw [(access_accesses cfg now c p.shared).reminded]
    cases sends : c.adds with
    | none =>
      rw [Option.toList_none, List.append_nil]
      exact iff_of_true once (by rintro _ ⟨⟩)
    | some who =>
      simp only [Option.some.injEq, forall_eq']
      rw [Option.toList_some, ← List.concat_eq_append, List.nodup_concat]
      exact (and_iff_left once).trans (reminded_iff sound answered waiting within sends)

def AlertStore.Unsent (s : AlertStore) : Prop := s.reminded = [] ∧ s.keyed = [] ∧ s.keyless = []

variable {moves : List (Move (Pool AlertStore AlertCall) (Turn AlertRequest))}

/-- Within a day nobody is reminded of a meeting twice exactly as long as every mail is sent where
    nothing of an earlier one shows. -/
theorem reminded_once_iff (unsent : s.Unsent) (run : Run (Step (alerting cfg)) (Pool.idle s) moves p)
    (within : ∀ a ∈ visited (Pool.idle s) moves, a.shared.clock < s.clock + dayLength) :
    (∀ a ∈ visited (Pool.idle s) moves, RemindedOnce a.shared) ↔ Heeds (Clear cfg) moves := by
  have day := run.restrict (P := fun a => a.shared.clock < s.clock + dayLength)
    (forall_visited.mp within).2
  obtain ⟨unsent, unkeyed, heard⟩ := unsent
  refine states_safe_iff
    (fun a => Sound (Logged s.clock) Tracks (fun _ _ => True) a ∧
      Answered cfg (s.clock + dayLength) a) (fun a => RemindedOnce a.shared) day ?_ ?_ ?_ ?_
  · constructor
    · refine sound_idle ⟨Nat.le_refl _, ?_, ?_⟩
      · rw [unkeyed]
        exact List.forall_mem_nil _
      · rw [heard]
        exact List.forall_mem_nil _
    · intro who there
      rw [Pool.idle, unsent] at there
      cases there
  · rw [RemindedOnce, Pool.idle, unsent]
    exact List.nodup_nil
  · intro a turn b inv step
    exact ⟨sound_kept (alerting_keeps cfg s.clock) inv.1 step.1, answered_step inv.1 inv.2 step.1⟩
  · intro a turn b inv once step
    exact remindedOnce_step inv.1 inv.2 once step.1 step.2

end Day

section Lock
variable {p q : Pool AlertStore AlertCall} {turn : Turn AlertRequest}

def AlertCall.inside (c : AlertCall) : Bool := c.stage ≠ .starting ∧ c.stage ≠ .locking

/-- A call gets the lock only while no other call is inside for the same meeting, and the queue takes
    no mail of a call that is told of a failure. -/
def Alone (cfg : CheckinAlertConfig) (p : Pool AlertStore AlertCall) : Turn AlertRequest → Prop
  | .enter _ _ => True
  | .act i now => ∀ c, p.calls i = some c → c.forsakes = none ∧ (c.stage = .locking →
      (acquireLock cfg c.request p.shared now).isSome → ∀ j d, j ≠ i → p.calls j = some d →
        d.inside = true → d.request.meetingId ≠ c.request.meetingId)

structure OneInside (cfg : CheckinAlertConfig) (p : Pool AlertStore AlertCall) : Prop where
  apart : ∀ i j c d, i ≠ j → p.calls i = some c → p.calls j = some d → c.inside = true →
    d.inside = true → c.request.meetingId ≠ d.request.meetingId
  unset : ∀ i c who, p.calls i = some c → c.unmarked = some who → ∀ later, p.shared.clock ≤ later →
    p.shared.redis.get later (keyFor cfg who) = none
  heard : p.shared.keyless = []

theorem get_later {key : RedisKey} (le : now ≤ later) (there : (s.redis.get later key).isSome) :
    (s.redis.get now key).isSome := by
  obtain ⟨v, found⟩ := Option.isSome_iff_exists.mp there
  obtain ⟨e, entry, live, value⟩ := get_eq_some.mp found
  refine Option.isSome_iff_exists.mpr ⟨v, get_eq_some.mpr ⟨e, entry, ?_, value⟩⟩
  intro d deadline
  exact Nat.lt_of_le_of_lt le (live d deadline)

theorem get_of_entries {after : AlertStore} {key : RedisKey}
    (same : after.redis.entries key = s.redis.entries key) :
    after.redis.get now key = s.redis.get now key := by
  simp only [Cache.get, Cache.entry?, same]

theorem inside_of_unmarked {who : Nat × Nat} (unmarked : c.unmarked = some who) :
    c.inside = true ∧ c.request.meetingId = who.1 := by
  obtain ⟨r, stage⟩ := c
  cases stage with
  | rechecking p rest result =>
    cases unmarked
    exact ⟨rfl, rfl⟩
  | sending p email rest result =>
    cases unmarked
    exact ⟨rfl, rfl⟩
  | _ => cases unmarked

theorem inside_of_sets {who : Nat × Nat} (sets : c.sets = some who) :
    c.inside = true ∧ c.request.meetingId = who.1 := by
  obtain ⟨r, stage⟩ := c
  cases stage with
  | marking p rest result =>
    cases sets
    exact ⟨rfl, rfl⟩
  | _ => cases sets

theorem next_inside {c' : AlertCall} (next : ((alerting cfg).act now c s).2 = some c') :
    c'.request = c.request ∧ (c'.inside = true →
      c.inside = true ∨ c.stage = .locking ∧ (acquireLock cfg c.request s now).isSome) := by
  obtain ⟨r, stage⟩ := c
  obtain ⟨stage', goes, rfl⟩ := Option.map_eq_some_iff.mp next
  refine ⟨rfl, fun inside => ?_⟩
  cases stage with
  | starting =>
    simp only [AlertStage.access] at goes
    split at goes <;> cases goes
    cases inside
  | locking =>
    simp only [AlertStage.access] at goes
    split at goes
    · cases goes
    · rename_i locked acquired
      exact Or.inr ⟨rfl, Option.isSome_iff_exists.mpr ⟨locked, acquired⟩⟩
  | _ => exact Or.inl rfl

theorem moved_apart {i j : Nat} {a c' d : AlertCall} (one : OneInside cfg p) (waiting : p.calls i = some a)
    (alone : Alone cfg p (.act i now)) (next : ((alerting cfg).act now a p.shared).2 = some c')
    (inside : c'.inside = true) (other : j ≠ i) (found : p.calls j = some d) (inside' : d.inside = true) :
    d.request.meetingId ≠ c'.request.meetingId := by
  obtain ⟨request, before⟩ := next_inside next
  rw [request]
  rcases before inside with already | ⟨locking, acquired⟩
  · exact one.apart j i d a other found waiting inside' already
  · exact (alone a waiting).2 locking acquired j d other found inside'

theorem unset_moved {i j : Nat} {a c : AlertCall} {who : Nat × Nat} (one : OneInside cfg p)
    (waiting : p.calls i = some a) (order : p.shared.clock ≤ now) (other : j ≠ i) (found : p.calls j = some c)
    (unmarked : c.unmarked = some who) (le : now ≤ later) :
    ((alerting cfg).act now a p.shared).1.redis.get later (keyFor cfg who) = none := by
  have apart : a.sets ≠ some who := by
    intro sets
    obtain ⟨inside, ofMeeting⟩ := inside_of_sets sets
    obtain ⟨inside', ofMeeting'⟩ := inside_of_unmarked unmarked
    exact one.apart i j a c other.symm waiting found inside inside' (ofMeeting.trans ofMeeting'.symm)
  have set := (access_accesses cfg now a p.shared).keys who
  rw [if_neg apart] at set
  exact (get_of_entries set).trans (one.unset j c who found unmarked later (Nat.le_trans order le))

theorem oneInside_step (one : OneInside cfg p) (step : Step (alerting cfg) p turn q)
    (alone : Alone cfg p turn) : OneInside cfg q := by
  cases step with
  | @enter i r free admitted =>
    constructor
    · intro j k c d other hc hd inside inside'
      rcases found_in_update hc with ⟨-, new⟩ | ⟨-, old⟩
      · cases new
        cases inside
      · rcases found_in_update hd with ⟨-, new⟩ | ⟨-, old'⟩
        · cases new
          cases inside'
        · exact one.apart j k c d other old old' inside inside'
    · intro j c who found unmarked
      rcases found_in_update found with ⟨-, new⟩ | ⟨-, old⟩
      · cases new
        cases unmarked
      · exact one.unset j c who old unmarked
    · exact one.heard
  | @act i now a waiting order =>
    constructor
    · intro j k c d other hc hd inside inside'
      rcases found_in_update hc with ⟨rfl, next⟩ | ⟨away, old⟩
      · rcases found_in_update hd with ⟨same, -⟩ | ⟨away, old⟩
        · exact absurd same.symm other
        · exact (moved_apart one waiting alone next inside away old inside').symm
      · rcases found_in_update hd with ⟨rfl, next⟩ | ⟨-, old'⟩
        · exact moved_apart one waiting alone next inside' away old inside
        · exact one.apart j k c d other old old' inside inside'
    · intro j c who found unmarked later le
      rcases found_in_update found with ⟨-, next⟩ | ⟨away, old⟩
      · have set := (access_accesses cfg now a p.shared).keys who
        obtain ⟨unmarks, absent⟩ := (next_call next who).1 unmarked
        rw [unmarks, if_neg (by simp)] at set
        refine (get_of_entries set).trans ?_
        rcases absent with none_now | before
        · refine Option.not_isSome_iff_eq_none.mp fun present => ?_
          have earlier : (p.shared.redis.get now (keyFor cfg who)).isSome := get_later le present
          rw [none_now] at earlier
          cases earlier
        · exact one.unset i a who waiting before later (Nat.le_trans order le)
      · exact unset_moved one waiting order away old unmarked le
    · change p.shared.keyless ++ a.forsakes.toList = []
      rw [one.heard, (alone a waiting).1]
      rfl

variable {moves : List (Move (Pool AlertStore AlertCall) (Turn AlertRequest))}

theorem clear_of_alone (unsent : s.Unsent) (run : Run (Step (alerting cfg)) (Pool.idle s) moves p)
    (alone : Heeds (Alone cfg) moves) : Heeds (Clear cfg) moves := by
  have idle : OneInside cfg (Pool.idle s) :=
    ⟨by rintro _ _ _ _ _ ⟨⟩, by rintro _ _ _ ⟨⟩, unsent.2.2⟩
  have kept := moves_invariant (OneInside cfg) run idle alone
    fun one step here => oneInside_step one step here
  intro m there
  obtain ⟨one, step⟩ := kept m there
  generalize m.after = q at step
  cases label : m.label with
  | enter i r => trivial
  | act i now =>
    rw [label] at step
    intro c waiting who sends
    obtain ⟨inside, ofMeeting⟩ := inside_of_unmarked (unmarked_of_adds sends)
    cases step with
    | act waiting' order =>
      refine ⟨?_, ?_, ?_⟩
      · intro present
        rw [one.unset i c who waiting (unmarked_of_adds sends) now order] at present
        cases present
      · intro j d other found marks
        obtain ⟨inside', ofMeeting'⟩ := inside_of_sets (sets_of_marks marks)
        exact one.apart j i d c other found waiting inside' inside (ofMeeting'.trans ofMeeting.symm)
      · rw [one.heard]
        exact List.not_mem_nil

end Lock

def lateComer : AlertRequest where
  meetingId := 0
  instanceId := "node-1"
  participants := some [⟨2, some "user2@example.com", true, "User 2", some false, {}⟩]

def quietStore : AlertStore := ⟨.empty, [], 0, [], []⟩

def noGrace : CheckinAlertConfig := ⟨0, true⟩

def fiveMinutes : CheckinAlertConfig := ⟨5, true⟩

def sideBySide (t : Nat) : List (Turn AlertRequest) :=
  [.enter 0 lateComer, .enter 1 lateComer] ++ List.replicate 5 (.act 0 1000) ++
    List.replicate 5 (.act 1 t) ++ [.act 0 t, .act 1 t]

theorem reminded_twice (cfg : CheckinAlertConfig) (t : Nat)
    (follows : Follows (alerting cfg) (fun s now c => ((alerting cfg).act now c s).1.clock < dayLength)
      (Pool.idle quietStore) (sideBySide t))
    (twice : ¬ RemindedOnce ((sideBySide t).foldl (Pool.after (alerting cfg)) (Pool.idle quietStore)).shared) :
    ¬ ∀ s moves p, s.Unsent → Run (Step (alerting cfg)) (Pool.idle s) moves p →
      (∀ a ∈ visited (Pool.idle s) moves, a.shared.clock < s.clock + dayLength) →
      ∀ a ∈ visited (Pool.idle s) moves, RemindedOnce a.shared := by
  intro claimed
  obtain ⟨moves, run, heeds⟩ := follows_run follows
  have within := shared_of_accesses (P := fun s => s.clock < dayLength) run (by decide) heeds
  refine twice (claimed quietStore moves _ ⟨rfl, rfl, rfl⟩ run ?_ _ (end_visited run))
  intro a there
  exact Nat.lt_of_lt_of_eq (within a there) (Nat.zero_add _).symm

theorem reminded_twice_on_any_grace :
    (¬ ∀ cfg s moves p, s.Unsent → Run (Step (alerting cfg)) (Pool.idle s) moves p →
      (∀ a ∈ visited (Pool.idle s) moves, a.shared.clock < s.clock + dayLength) →
      ∀ a ∈ visited (Pool.idle s) moves, RemindedOnce a.shared) ∧
    ¬ ∀ cfg s moves p, 0 < cfg.graceMinutes → s.Unsent →
      Run (Step (alerting cfg)) (Pool.idle s) moves p →
      (∀ a ∈ visited (Pool.idle s) moves, a.shared.clock < s.clock + dayLength) →
      ∀ a ∈ visited (Pool.idle s) moves, RemindedOnce a.shared := by
  constructor
  · intro claimed
    exact reminded_twice noGrace 1000 (by decide +kernel) (by decide +kernel) (claimed noGrace)
  · intro claimed
    refine reminded_twice fiveMinutes 601000 (by decide +kernel) (by decide +kernel) fun s moves p => ?_
    exact claimed fiveMinutes s moves p (by decide)

def oneByOne : List (Turn AlertRequest) :=
  [.enter 0 lateComer, .enter 1 lateComer] ++ List.replicate 5 (.act 0 1000) ++
    List.replicate 2 (.act 1 1500) ++ List.replicate 3 (.act 0 2000) ++ .enter 2 lateComer ::
      List.replicate 5 (.act 2 3000)

theorem reminded_once_one_by_one :
    ∃ moves p, Run (Step (alerting fiveMinutes)) (Pool.idle quietStore) moves p ∧
      p.shared.reminded = [(0, 2)] ∧ (∀ i < 3, p.calls i = none) ∧ Heeds (Clear fiveMinutes) moves ∧
      ∀ a ∈ visited (Pool.idle quietStore) moves, RemindedOnce a.shared := by
  have follows : Follows (alerting fiveMinutes)
      (fun s now c => ((alerting fiveMinutes).act now c s).1.clock < dayLength ∧
        ((alerting fiveMinutes).act now c s).1.reminded.Nodup) (Pool.idle quietStore) oneByOne := by
    decide +kernel
  obtain ⟨moves, run, heeds⟩ := follows_run follows
  have each := shared_of_accesses (P := fun s => s.clock < dayLength ∧ s.reminded.Nodup) run
    ⟨by decide, List.nodup_nil⟩ heeds
  have once : ∀ a ∈ visited (Pool.idle quietStore) moves, RemindedOnce a.shared :=
    fun a there => (each a there).2
  have iff := reminded_once_iff ⟨rfl, rfl, rfl⟩ run fun a there =>
    Nat.lt_of_lt_of_eq (each a there).1 (Nat.zero_add _).symm
  exact ⟨moves, _, run, by decide +kernel, by decide +kernel, iff.mp once, once⟩

end Reminders
end CheckInAlerts
