import MeetingPlatform.Booking.Store
import MeetingPlatform.Lib.CheckedInsert

/- The job that warns of the end of a meeting. The queue runs a job again when it fails, and several
   workers may run jobs of one meeting at the same time. -/
namespace MeetingBooking
open LabelledRuns CallPools CheckedInserts

section Records

inductive WarningLevel where
  | standard | overdue | strict | urgent
  deriving DecidableEq, Repr

inductive WarningNotificationType where
  | meetingTimeWarning | meetingTimeConflictWarning
  deriving DecidableEq, Repr

inductive NotificationPriority where
  | low | normal | high | urgent
  deriving DecidableEq, Repr

/-- A notification of the meeting. `endTime` is the scheduled end that it warns of. -/
structure WarningNotification where
  notificationType : WarningNotificationType
  priority : NotificationPriority
  subject : String
  recipientUserIdsJson : List Nat
  warningLevel : WarningLevel
  remainingMinutes : Int
  extensionAllowed : Bool
  nextBooking : Option (Nat × Int)
  sentAt : Int
  endTime : Int
  deriving DecidableEq, Repr

inductive JobStatus where
  | scheduled | completed | failed
  deriving DecidableEq, Repr

/-- What other services write and the job only reads. -/
structure Surroundings where
  meeting : Option Meeting
  hostParticipant : Option Nat
  bookings : List (Nat × RoomBooking)
  conflictBufferConfig : Option Int
  deriving DecidableEq, Repr

structure WarningStore where
  surroundings : Surroundings
  warningEvents : Nat
  notifications : List WarningNotification
  backgroundJob : Option JobStatus
  deriving DecidableEq, Repr

end Records

section Pieces
variable (meetingId : Nat)

def readConflictBufferConfig (w : Surroundings) : Int :=
  match w.conflictBufferConfig with
  | none => 0
  | some parsed => if parsed < 0 then 0 else parsed

def resolveHost (meeting : Meeting) (w : Surroundings) : Option Nat :=
  match meeting.hostId with
  | some hostId => some hostId
  | none => w.hostParticipant

def nextBookings (w : Surroundings) (roomId : Nat) (endTime : Int) : List (Nat × RoomBooking) :=
  (w.bookings.filter fun r => r.2.roomId = roomId ∧ r.2.meetingId ≠ meetingId ∧
    endTime ≤ r.2.reservedStartTime ∧ r.2.status.isLive = true).insertionSort
      fun a b => a.2.reservedStartTime ≤ b.2.reservedStartTime

def detectConflict (w : Surroundings) (roomId : Nat) (endTime bufferMinutes : Int) :
    Option (Nat × RoomBooking) :=
  (nextBookings meetingId w roomId endTime).head?.filter fun next =>
    next.2.reservedStartTime ≤ endTime + bufferMinutes * 60000

def remainingMinutes (endTime now : Int) : Int := max 0 ((endTime - now) / 60000)

def warningLevel (conflict : Bool) (remaining : Int) : WarningLevel :=
  match conflict with
  | true => if 0 < remaining then .strict else .urgent
  | false => if 0 < remaining then .standard else .overdue

def buildSubject (conflict : Bool) (remaining : Int) : String :=
  match conflict with
  | false =>
    if 0 < remaining then "Cuộc họp sắp kết thúc — còn " ++ toString remaining ++ " phút"
    else "Cuộc họp đã quá giờ kết thúc"
  | true =>
    if 0 < remaining then "Cảnh báo: Phòng họp sắp bị xung đột — còn " ++ toString remaining ++ " phút"
    else "Cuộc họp đã quá giờ và có xung đột"

def buildNotificationPayload (meeting : Meeting) (remaining : Int) (hostId : Nat)
    (nextBooking : Option (Nat × RoomBooking)) (now : Int) : WarningNotification where
  notificationType := if nextBooking.isSome then .meetingTimeConflictWarning else .meetingTimeWarning
  priority := if nextBooking.isSome then .high else .normal
  subject := buildSubject nextBooking.isSome remaining
  recipientUserIdsJson := [hostId]
  warningLevel := warningLevel nextBooking.isSome remaining
  remainingMinutes := remaining
  extensionAllowed := nextBooking.isNone
  nextBooking := nextBooking.map fun r => (r.1, r.2.reservedStartTime)
  sentAt := now
  endTime := meeting.endTime

end Pieces

section Job

/-- The queries of a job. `answer` is that of the insert, which may get lost after the commit. -/
inductive JobQuery where
  | meeting | event | notification | config | host | conflict | save | answer | job | log
  deriving DecidableEq, Repr

inductive Check where
  | event | notification
  deriving DecidableEq, Repr

def Check.query : Check → JobQuery
  | .event => .event
  | .notification => .notification

/-- `seen` is the number of notifications when the job has looked for one. -/
structure Checked where
  meeting : Meeting
  remaining : Int
  seen : Nat
  deriving DecidableEq, Repr

inductive JobStage where
  | starting
  | checking (meeting : Meeting) (left : List Check) (existing : Bool) (seen : Nat)
  | configuring (job : Checked)
  | hosting (job : Checked) (conflictBufferMinutes : Int)
  | detecting (job : Checked) (conflictBufferMinutes : Int) (hostId : Nat)
  | saving (job : Checked) (payload : WarningNotification)
  | reporting (status : JobStatus)
  | logging
  deriving DecidableEq, Repr

/-- The two checks are sent together and come in any order; `failing` are the queries that fail. -/
structure JobRun where
  order : List Check
  failing : List JobQuery
  deriving DecidableEq, Repr

inductive WarningCall where
  | job (run : JobRun) (stage : JobStage)
  | changing (w : Surroundings)
  deriving DecidableEq, Repr

inductive WarningRequest where
  | job (notificationFirst : Bool) (failing : List JobQuery)
  | change (w : Surroundings)
  deriving DecidableEq, Repr

variable (meetingId : Nat) (s : WarningStore) (run : JobRun) (now : Int)

def Check.exists (s : WarningStore) : Check → Bool
  | .event => s.warningEvents ≠ 0
  | .notification => s.notifications ≠ []

def loadMeeting : Option JobStage :=
  (s.surroundings.meeting.filter fun m => m.deletedAt = none ∧ m.status = .inProgress).map fun m =>
    .checking m run.order false 0

/-- Each check is one query; what the two have found is looked at when both are back. -/
def runCheck (meeting : Meeting) (left : List Check) (existing : Bool) (seen : Nat) : Option JobStage :=
  match left with
  | [] =>
    if existing then none
    else some (.configuring ⟨meeting, remainingMinutes meeting.endTime now, seen⟩)
  | check :: left =>
    if check.query ∈ run.failing then none
    else some (.checking meeting left (existing || check.exists s)
      (if check = .notification then s.notifications.length else seen))

/-- Only the step from the config on needs an answer; a failing read of it is as good as none. -/
def configure (job : Checked) : JobStage :=
  .hosting job (if .config ∈ run.failing then 0 else readConflictBufferConfig s.surroundings)

def findHost (job : Checked) (conflictBufferMinutes : Int) : Option JobStage :=
  let hostId := if job.meeting.hostId = none ∧ JobQuery.host ∈ run.failing then none
    else resolveHost job.meeting s.surroundings
  hostId.map fun hostId => .detecting job conflictBufferMinutes hostId

/-- A query for conflicts that fails leaves the warning without one. -/
def detect (job : Checked) (conflictBufferMinutes : Int) (hostId : Nat) : JobStage :=
  let nextBooking := if .conflict ∈ run.failing then none
    else job.meeting.roomId.bind fun roomId =>
      detectConflict meetingId s.surroundings roomId job.meeting.endTime conflictBufferMinutes
  .saving job (buildNotificationPayload job.meeting job.remaining hostId nextBooking now)

/-- Where the insert fails, or seems to, the job fails, and the queue runs it again. -/
def saveNotification (payload : WarningNotification) : WarningStore × JobStage :=
  if .save ∈ run.failing then (s, .reporting .failed)
  else
    ({ s with notifications := s.notifications ++ [payload] },
      .reporting (if .answer ∈ run.failing then .failed else .completed))

def updateBackgroundJobStatus (status : JobStatus) : WarningStore :=
  if .job ∈ run.failing then s else { s with backgroundJob := s.backgroundJob.map fun _ => status }

def logWarning : WarningStore :=
  if .log ∈ run.failing then s else { s with warningEvents := s.warningEvents + 1 }

def JobRun.access : JobStage → WarningStore × Option JobStage
  | .starting => (s, if .meeting ∈ run.failing then none else loadMeeting s run)
  | .checking meeting left existing seen => (s, runCheck s run now meeting left existing seen)
  | .configuring job => (s, some (configure s run job))
  | .hosting job conflictBufferMinutes => (s, findHost s run job conflictBufferMinutes)
  | .detecting job conflictBufferMinutes hostId =>
    (s, some (detect meetingId s run now job conflictBufferMinutes hostId))
  | .saving _ payload => ((saveNotification s run payload).1, some (saveNotification s run payload).2)
  | .reporting status =>
    (updateBackgroundJobStatus s run status, if status = .completed then some .logging else none)
  | .logging => (logWarning s run, none)

def WarningCall.access : WarningCall → WarningStore × Option WarningCall
  | .job run stage =>
    ((run.access meetingId s now stage).1, (run.access meetingId s now stage).2.map (.job run))
  | .changing w => ({ s with surroundings := w }, none)

def warnings : Service WarningStore WarningCall WarningRequest where
  clock _ := 0
  admits _ _ := True
  enter _
    | .job notificationFirst failing =>
      .job ⟨if notificationFirst then [.notification, .event] else [.event, .notification], failing⟩
        .starting
    | .change w => .changing w
  act now c s := c.access meetingId s now

instance (s : WarningStore) (r : WarningRequest) : Decidable ((warnings meetingId).admits s r) :=
  inferInstanceAs (Decidable True)

end Job

section OneWarning
variable {meetingId : Nat} {s : WarningStore} {c : WarningCall}

def WarningCall.adds : WarningCall → Option WarningNotification
  | .job run (.saving _ payload) => if .save ∈ run.failing then none else some payload
  | _ => none

def WarningCall.seen : WarningCall → Nat
  | .job _ (.saving checked _) => checked.seen
  | _ => 0

theorem warning_appends (s : WarningStore) (now : Nat) (c : WarningCall) :
    (((warnings meetingId).act now c s).1).notifications = s.notifications ++ c.adds.toList := by
  have nothing : s.notifications = s.notifications ++ (none : Option WarningNotification).toList :=
    (List.append_nil _).symm
  cases c with
  | changing w => exact nothing
  | job run stage =>
    cases stage with
    | saving job payload =>
      change (saveNotification s run payload).1.notifications = s.notifications ++
        (if JobQuery.save ∈ run.failing then none else some payload).toList
      unfold saveNotification
      split
      · exact nothing
      · rfl
    | reporting status =>
      change (updateBackgroundJobStatus s run status).notifications = _
      unfold updateBackgroundJobStatus
      split
      · exact nothing
      · exact nothing
    | logging =>
      change (logWarning s run).notifications = _
      unfold logWarning
      split
      · exact nothing
      · exact nothing
    | starting => exact nothing
    | checking => exact nothing
    | configuring => exact nothing
    | hosting => exact nothing
    | detecting => exact nothing

def inserting (meetingId : Nat) : Inserting (warnings meetingId) WarningNotification where
  rows s := s.notifications
  clash r later := r.endTime = later.endTime
  adds _ _ c := c.adds
  since c := c.seen
  appends := warning_appends

instance (s : WarningStore) (now : Nat) (c : WarningCall) :
    Decidable (Undisturbed (inserting meetingId) s now c) :=
  inferInstanceAs (Decidable (∀ row ∈ c.adds, ∀ r ∈ s.notifications.drop c.seen, ¬ r.endTime = row.endTime))

def StageUnwarned : JobStage → Prop
  | .checking _ left existing seen => .notification ∈ left ∨ existing = true ∨ seen = 0
  | .configuring job | .hosting job _ | .detecting job _ _ | .saving job _ => job.seen = 0
  | .starting | .reporting _ | .logging => True

def Unwarned : WarningCall → Prop
  | .job run stage => .notification ∈ run.order ∧ StageUnwarned stage
  | .changing _ => True

theorem runCheck_unwarned {run : JobRun} {now : Int} {meeting : Meeting} {left : List Check}
    {existing : Bool} {seen : Nat} {stage : JobStage}
    (unwarned : StageUnwarned (.checking meeting left existing seen))
    (next : runCheck s run now meeting left existing seen = some stage) : StageUnwarned stage := by
  unfold runCheck at next
  split at next
  · split at next
    · cases next
    · rename_i absent
      cases next
      rcases unwarned with contrary | contrary | none_seen
      · cases contrary
      · exact absurd contrary absent
      · exact none_seen
  · rename_i check left
    split at next
    · cases next
    · cases next
      cases check with
      | event =>
        rcases unwarned with later | found | none_seen
        · rcases List.mem_cons.mp later with contrary | later
          · cases contrary
          · exact Or.inl later
        · exact Or.inr (Or.inl (by rw [found, Bool.true_or]))
        · exact Or.inr (Or.inr none_seen)
      | notification =>
        refine Or.inr ?_
        cases stored : s.notifications with
        | nil => exact Or.inr rfl
        | cons first rest =>
          left
          have found : Check.notification.exists s = true := by
            rw [Check.exists, stored]
            rfl
          rw [found, Bool.or_true]

theorem access_unwarned {now : Nat} {c' : WarningCall} (unwarned : Unwarned c)
    (next : (c.access meetingId s now).2 = some c') : Unwarned c' := by
  cases c with
  | changing w => cases next
  | job run stage =>
    obtain ⟨looks, stage_unwarned⟩ := unwarned
    obtain ⟨stage', goes, rfl⟩ := Option.map_eq_some_iff.mp next
    refine ⟨looks, ?_⟩
    cases stage with
    | starting =>
      change (if .meeting ∈ run.failing then none else loadMeeting s run) = some stage' at goes
      split at goes
      · cases goes
      · obtain ⟨m, -, rfl⟩ := Option.map_eq_some_iff.mp goes
        exact Or.inl looks
    | checking meeting left existing seen => exact runCheck_unwarned stage_unwarned goes
    | configuring job =>
      cases goes
      exact stage_unwarned
    | hosting job conflictBufferMinutes =>
      obtain ⟨hostId, -, rfl⟩ := Option.map_eq_some_iff.mp goes
      exact stage_unwarned
    | detecting job conflictBufferMinutes hostId =>
      cases goes
      exact stage_unwarned
    | saving job payload =>
      change some (saveNotification s run payload).2 = some stage' at goes
      unfold saveNotification at goes
      split at goes
      · cases goes
        trivial
      · cases goes
        trivial
    | reporting status =>
      change (if status = .completed then some JobStage.logging else none) = some stage' at goes
      split at goes
      · cases goes
        trivial
      · cases goes
    | logging => cases goes

theorem warnings_keep (meetingId : Nat) : Keeps (warnings meetingId) (fun _ => True) (fun _ => Unwarned)
    (fun _ _ => True) (fun _ _ _ => True) where
  symm _ _ _ := trivial
  enters s r _ _ := by
    cases r with
    | change w => trivial
    | job notificationFirst failing =>
      refine ⟨?_, trivial⟩
      cases notificationFirst with
      | true => exact List.mem_cons_self
      | false => exact List.mem_cons_of_mem _ List.mem_cons_self
  alone _ _ _ _ _ _ := trivial
  inv _ _ _ _ _ _ _ := trivial
  next _ _ _ _ _ unwarned _ _ next := access_unwarned unwarned next
  others _ _ _ _ _ _ fits _ _ _ := fits
  still_apart _ _ _ _ _ _ _ _ _ _ _ _ := trivial

theorem looked_of_unwarned (s : WarningStore) (c : WarningCall) (unwarned : Unwarned c) :
    Looked (inserting meetingId) s c := by
  intro now row added r there
  have seen : c.seen = 0 := by
    cases c with
    | changing w => rfl
    | job run stage =>
      cases stage with
      | saving job payload => exact unwarned.2
      | starting => rfl
      | checking => rfl
      | configuring => rfl
      | hosting => rfl
      | detecting => rfl
      | reporting => rfl
      | logging => rfl
  change r ∈ s.notifications.take c.seen at there
  rw [seen, List.take_zero] at there
  cases there

def warningsOf (s : WarningStore) (endTime : Int) : List WarningNotification :=
  s.notifications.filter fun n => n.endTime = endTime

theorem distinct_iff_one (s : WarningStore) :
    Distinct (inserting meetingId) s ↔ ∀ endTime, (warningsOf s endTime).length ≤ 1 :=
  distinct_keys_iff WarningNotification.endTime s.notifications

theorem one_warning_per_end_iff {t : Pool WarningStore WarningCall}
    {moves : List (Move (Pool WarningStore WarningCall) (CallPools.Turn WarningRequest))}
    (start : ∀ endTime, (warningsOf s endTime).length ≤ 1)
    (run : Run (CallPools.Step (warnings meetingId)) (Pool.idle s) moves t) :
    (∀ p ∈ visited (Pool.idle s) moves, ∀ endTime, (warningsOf p.shared endTime).length ≤ 1) ↔
      Heeds (Allows (Undisturbed (inserting meetingId))) moves := by
  have iff := distinct_iff (warnings_keep meetingId) looked_of_unwarned trivial
    ((distinct_iff_one s).mpr start) run
  simpa only [distinct_iff_one] using iff

def underWay : WarningStore where
  surroundings := ⟨some ⟨1, some 2, none, 0, 3600000, .inProgress, some 0, none, none, none, none, none⟩,
    none, [], none⟩
  warningEvents := 0
  notifications := []
  backgroundJob := some .scheduled

def jobTurns (i n : Nat) : List (CallPools.Turn WarningRequest) := List.replicate n (.act i 3000000)

def twoWorkers : List (CallPools.Turn WarningRequest) :=
  [.enter 0 (.job false []), .enter 1 (.job true [])] ++ jobTurns 0 7 ++ jobTurns 1 7 ++ jobTurns 0 1 ++
    jobTurns 1 1

theorem two_workers_warn_twice :
    ∃ moves t, Run (CallPools.Step (warnings 7)) (Pool.idle underWay) moves t ∧
      t ∈ visited (Pool.idle underWay) moves ∧ ¬ (warningsOf t.shared 3600000).length ≤ 1 := by
  have follows : Follows (warnings 7) (fun _ _ _ => True) (Pool.idle underWay) twoWorkers := by
    decide +kernel
  obtain ⟨moves, run, -⟩ := follows_run follows
  exact ⟨moves, _, run, end_visited run, by decide +kernel⟩

def retried : List (CallPools.Turn WarningRequest) :=
  .enter 0 (.job false [.answer]) :: jobTurns 0 9 ++ .enter 0 (.job false []) :: jobTurns 0 4

theorem one_warning_per_end_iff_retried :
    ∃ moves t, Run (CallPools.Step (warnings 7)) (Pool.idle underWay) moves t ∧
      (warningsOf t.shared 3600000).length = 1 ∧
      ∀ p ∈ visited (Pool.idle underWay) moves, ∀ endTime, (warningsOf p.shared endTime).length ≤ 1 := by
  have follows : Follows (warnings 7) (Undisturbed (inserting 7)) (Pool.idle underWay) retried := by
    decide +kernel
  obtain ⟨moves, run, heeds⟩ := follows_run follows
  have start : ∀ endTime, (warningsOf underWay endTime).length ≤ 1 := fun _ => Nat.zero_le 1
  exact ⟨moves, _, run, by decide +kernel, (one_warning_per_end_iff start run).mpr heeds⟩

end OneWarning
end MeetingBooking
