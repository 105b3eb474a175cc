import MeetingPlatform.Booking.Errors
import MeetingPlatform.Booking.Config

/- No-show cases: their rows, the settings, and every statement that the no-show
   services run, each one a function on the stored tables. -/
namespace NoShow
open KeyedTable Guards
open MeetingBooking (ApiError RoomBooking RoomBookingStatus minuteMs)

inductive NoShowDetectionStatus where
  | risk | confirmed | warningSent | snoozed | released | dismissed | resolved
  deriving DecidableEq, Repr

inductive NoShowResolutionStatus where
  | released | kept | falsePositive | manualOverride
  deriving DecidableEq, Repr

inductive RoomUsageStatus where
  | notStarted | inUse | completed | noShow | earlyEmpty | released
  deriving DecidableEq, Repr

structure NoShowCase where
  bookingId : Nat
  meetingId : Nat
  roomId : Nat
  detectionStatus : NoShowDetectionStatus
  detectedAt : Int
  warningSentAt : Option Int := none
  warningDeadlineAt : Option Int := none
  autoReleaseEligibleAt : Option Int := none
  snoozeUntil : Option Int := none
  releasedAt : Option Int := none
  resolvedBy : Option Nat := none
  resolutionStatus : Option NoShowResolutionStatus := none
  note : Option String := none
  deriving DecidableEq, Repr

structure RoomBookingUsage where
  firstPresenceAt : Option Int
  lastPresenceAt : Option Int
  usageStatus : RoomUsageStatus
  autoReleased : Bool := false
  releasedBy : Option Nat := none
  releasedAt : Option Int := none
  releaseReason : Option String := none
  deriving DecidableEq, Repr

structure Store where
  cases : Table NoShowCase
  bookings : Table RoomBooking
  usages : Nat → Option RoomBookingUsage

def Store.firstPresence (s : Store) (bookingId : Nat) : Option Int :=
  (s.usages bookingId).bind RoomBookingUsage.firstPresenceAt

section Settings

structure ConfigKeyDef where
  key : String
  env : String
  default : Int
  min : Int
  default_ok : min ≤ default

/-- `stored` and `env` are what `parseInt` and `Number` make of the two settings. -/
def ConfigKeyDef.effective (d : ConfigKeyDef) (stored env : String → Option Int) : Int :=
  match (stored d.key).filter (d.min ≤ ·), (env d.env).filter (d.min ≤ ·) with
  | some n, _ => n
  | none, some n => n
  | none, none => d.default

theorem min_le_effective (d : ConfigKeyDef) (stored env : String → Option Int) :
    d.min ≤ d.effective stored env := by
  unfold ConfigKeyDef.effective
  split
  · rename_i stored_ok
    simpa using (Option.filter_eq_some_iff.mp stored_ok).2
  · rename_i env_ok
    simpa using (Option.filter_eq_some_iff.mp env_ok).2
  · exact d.default_ok

def warningGraceKey : ConfigKeyDef :=
  ⟨"no_show.warning_grace_minutes", "NO_SHOW_WARNING_GRACE_MINUTES", 0, 0, by decide⟩

def autoReleaseGraceKey : ConfigKeyDef :=
  ⟨"no_show.auto_release_grace_minutes", "NO_SHOW_AUTO_RELEASE_GRACE_MINUTES", 5, 1, by decide⟩

def confirmExtensionKey : ConfigKeyDef :=
  ⟨"no_show.confirm_extension_minutes", "NO_SHOW_CONFIRM_EXTENSION_MINUTES", 10, 1, by decide⟩

structure NoShowConfig where
  warningGraceMinutes : Int
  autoReleaseGraceMinutes : Int
  confirmExtensionMinutes : Int
  autoReleaseEnabled : Bool
  warningGrace_nonneg : 0 ≤ warningGraceMinutes
  autoReleaseGrace_pos : 1 ≤ autoReleaseGraceMinutes
  confirmExtension_pos : 1 ≤ confirmExtensionMinutes

/-- The flag rows hold `true` or `false`; anything else reads as missing. -/
def getValues (stored env : String → Option Int) (storedFlag envFlag : Option Bool) :
    NoShowConfig where
  warningGraceMinutes := warningGraceKey.effective stored env
  autoReleaseGraceMinutes := autoReleaseGraceKey.effective stored env
  confirmExtensionMinutes := confirmExtensionKey.effective stored env
  autoReleaseEnabled := (storedFlag.or envFlag).getD true
  warningGrace_nonneg := min_le_effective warningGraceKey stored env
  autoReleaseGrace_pos := min_le_effective autoReleaseGraceKey stored env
  confirmExtension_pos := min_le_effective confirmExtensionKey stored env

def NoShowConfig.graceMs (cfg : NoShowConfig) : Int := cfg.autoReleaseGraceMinutes * minuteMs

end Settings

section Exceptions

def caseNotFound : ApiError :=
  ⟨.notFound, "NO_SHOW_CASE_NOT_FOUND", "No-show case not found.", []⟩

def alreadyFinalized : ApiError :=
  ⟨.badRequest, "INVALID_NO_SHOW_TRANSITION", "No-show case is already finalized.", []⟩

def notEligibleForSnooze : ApiError :=
  ⟨.badRequest, "INVALID_NO_SHOW_TRANSITION", "No-show case is not eligible for snooze.", []⟩

def systemOwnedStatus : ApiError :=
  ⟨.badRequest, "INVALID_NO_SHOW_TRANSITION", "warning_sent/released are set by the system.", []⟩

def invalidDetectionStatus : ApiError :=
  ⟨.badRequest, "INVALID_DETECTION_STATUS",
    "detectionStatus must be confirmed, dismissed, or resolved.", []⟩

def cannotRelease : ApiError :=
  ⟨.badRequest, "INVALID_NO_SHOW_TRANSITION", "Cannot release a dismissed/resolved case.", []⟩

def bookingNotReleasable : ApiError :=
  ⟨.conflict, "BOOKING_NOT_RELEASABLE", "Booking is no longer releasable (status changed).", []⟩

def forbidden : ApiError :=
  ⟨.forbidden, "FORBIDDEN", "Bạn không có quyền thực hiện hành động này.", []⟩

end Exceptions

def NoShowDetectionStatus.terminal : NoShowDetectionStatus → Bool
  | .resolved | .dismissed | .released => true
  | _ => false

def snoozeSources : List NoShowDetectionStatus := [.risk, .warningSent]

def unsettled : List NoShowDetectionStatus := [.risk, .warningSent, .snoozed]

structure CreateNoShowInput where
  bookingId : Nat
  meetingId : Nat
  roomId : Nat
  confirmed : Bool := false

def CreateNoShowInput.row (input : CreateNoShowInput) (now : Int) : NoShowCase where
  bookingId := input.bookingId
  meetingId := input.meetingId
  roomId := input.roomId
  detectionStatus := if input.confirmed then .confirmed else .risk
  detectedAt := now

/-- `INSERT … WHERE NOT EXISTS`: a booking has at most one case. -/
def create (input : CreateNoShowInput) (now : Int) (s : Store) : Store :=
  match s.cases.findOne fun r => r.2.bookingId = input.bookingId with
  | some _ => s
  | none => { s with cases := s.cases.insert (input.row now) }

def NoShowCase.reconciled (c : NoShowCase) : NoShowCase :=
  { c with
    detectionStatus := .resolved
    resolutionStatus := some .kept
    note := c.note.or (some "presence detected; not a no-show") }

def reconcilePresence (s : Store) : Store :=
  { s with
    cases := s.cases.updateWhere (fun r =>
      (s.firstPresence r.2.bookingId).isSome ∧ r.2.detectionStatus ∈ unsettled)
      NoShowCase.reconciled }

/-- The booking that the second `UPDATE` of a release matches, and that both batch
    queries join. -/
def Store.liveBooking (s : Store) (c : NoShowCase) : Option RoomBooking :=
  (s.bookings.get? c.bookingId).filter fun b => b.status.holdsRoom

def Store.unattended (s : Store) (c : NoShowCase) : Bool :=
  (s.liveBooking c).isSome ∧ s.firstPresence c.bookingId = none

def warnCandidates (cfg : NoShowConfig) (now : Int) (s : Store) : List Nat :=
  (s.cases.select fun r => r.2.detectionStatus = .risk ∧ s.unattended r.2 ∧
    r.2.detectedAt + cfg.warningGraceMinutes * minuteMs ≤ now).map Prod.fst

def NoShowCase.warned (cfg : NoShowConfig) (now : Int) (c : NoShowCase) : NoShowCase :=
  { c with
    detectionStatus := .warningSent
    warningSentAt := some now
    warningDeadlineAt := some (now + cfg.graceMs)
    autoReleaseEligibleAt := some (now + cfg.graceMs) }

def warnCase (cfg : NoShowConfig) (now : Int) (id : Nat) (s : Store) : Store :=
  { s with
    cases := s.cases.updateWhere (fun r => r.1 = id ∧ r.2.detectionStatus = .risk)
      (NoShowCase.warned cfg now) }

inductive ReleaseMode where
  | auto
  | manual
  deriving DecidableEq, Repr

def ReleaseMode.validSources : ReleaseMode → List NoShowDetectionStatus
  | .auto => [.warningSent, .snoozed]
  | .manual => [.risk, .warningSent, .snoozed]

def ReleaseMode.resolutionStatus : ReleaseMode → NoShowResolutionStatus
  | .auto => .released
  | .manual => .manualOverride

structure ReleaseParams where
  caseId : Nat
  actor : Option Nat
  reason : String
  mode : ReleaseMode

inductive ReleaseResult where
  | released
  | alreadyReleased
  | bookingChanged
  deriving DecidableEq, Repr

def NoShowCase.letGo (p : ReleaseParams) (now : Int) (c : NoShowCase) : NoShowCase :=
  { c with
    detectionStatus := .released
    resolutionStatus := some p.mode.resolutionStatus
    releasedAt := some now
    resolvedBy := p.actor
    note := some p.reason }

def RoomBookingUsage.letGo (p : ReleaseParams) (now : Int) (u : RoomBookingUsage) :
    RoomBookingUsage :=
  { u with
    usageStatus := .released
    autoReleased := p.mode = .auto
    releasedBy := p.actor
    releasedAt := some now
    releaseReason := some p.reason }

/-- The case that the first `UPDATE` of a release matches. -/
def Store.releasable (s : Store) (p : ReleaseParams) : Option NoShowCase :=
  (s.cases.get? p.caseId).filter fun c => c.detectionStatus ∈ p.mode.validSources

def Store.letGo (s : Store) (p : ReleaseParams) (now : Int) (bookingId : Nat) : Store where
  cases := s.cases.update p.caseId (NoShowCase.letGo p now)
  bookings := s.bookings.update bookingId fun b => { b with status := .released }
  usages := Function.update s.usages bookingId
    ((s.usages bookingId).map (RoomBookingUsage.letGo p now))

/-- One transaction: an `UPDATE` that matches no row rolls it back. -/
def release (p : ReleaseParams) (now : Int) (s : Store) : ReleaseResult × Store :=
  match s.releasable p with
  | none => (.alreadyReleased, s)
  | some c =>
    match s.liveBooking c with
    | none => (.bookingChanged, s)
    | some _ => (.released, s.letGo p now c.bookingId)

def autoReleaseCandidates (cfg : NoShowConfig) (now : Int) (s : Store) : List Nat :=
  if cfg.autoReleaseEnabled then
    (s.cases.select fun r => s.unattended r.2 ∧
      ((r.2.detectionStatus = .warningSent ∧ r.2.autoReleaseEligibleAt.any (· ≤ now)) ∨
        (r.2.detectionStatus = .snoozed ∧ r.2.snoozeUntil.any (· ≤ now)))).map Prod.fst
  else []

def autoReleaseParams (id : Nat) : ReleaseParams := ⟨id, none, "auto_release_no_show", .auto⟩

/-- The one statement that sets `first_presence_at`. A conflicting row that has the
    column already is left alone. -/
def upsertPresenceConfirmation (bookingId : Nat) (first last : Int) (s : Store) : Store :=
  { s with
    usages := Function.update s.usages bookingId <| some <|
      match s.usages bookingId with
      | none => { firstPresenceAt := some first, lastPresenceAt := some last, usageStatus := .inUse }
      | some u =>
        if u.firstPresenceAt.isSome then u else
          { u with
            firstPresenceAt := some first
            lastPresenceAt := some last
            usageStatus := if u.usageStatus = .notStarted then .inUse else u.usageStatus } }

structure Authz where
  permissions : Nat → List String
  party : Nat → Option (Option Nat × Option Nat)

def assertAuthorized (authz : Authz) (c : NoShowCase) (detectionStatus : Option String)
    (userId : Option Nat) : Except ApiError Unit := do
  let user ← expect userId forbidden
  require ("room.noshow.update" ∈ authz.permissions user ∨
    (detectionStatus = some "dismissed" ∨ detectionStatus = some "snoozed") ∧
      (authz.party c.meetingId).any fun m => m.1 = some user ∨ m.2 = some user) forbidden

inductive UpdateTarget where
  | confirmed
  | dismissed
  | resolved
  deriving DecidableEq, Repr

def UpdateTarget.status : UpdateTarget → NoShowDetectionStatus
  | .confirmed => .confirmed
  | .dismissed => .dismissed
  | .resolved => .resolved

structure UpdateNoShowDto where
  detectionStatus : Option String := none
  resolutionStatus : Option NoShowResolutionStatus := none
  note : Option String := none

def systemOwnedStatuses : List String := ["warning_sent", "released"]

def allowedUpdateTargets : List (String × UpdateTarget) :=
  [("confirmed", .confirmed), ("dismissed", .dismissed), ("resolved", .resolved)]

def readTarget (detectionStatus : Option String) : Except ApiError (Option UpdateTarget) :=
  match detectionStatus with
  | none => .ok none
  | some name => do
    require (name ∉ systemOwnedStatuses) systemOwnedStatus
    let target ← expect (allowedUpdateTargets.lookup name) invalidDetectionStatus
    pure (some target)

def checkUpdate (authz : Authz) (id : Nat) (dto : UpdateNoShowDto) (userId : Option Nat)
    (s : Store) : Except ApiError (Option UpdateTarget) := do
  let current ← expect (s.cases.get? id) caseNotFound
  require (¬ current.detectionStatus.terminal) alreadyFinalized
  assertAuthorized authz current dto.detectionStatus userId
  readTarget dto.detectionStatus

def NoShowCase.updated (target : Option UpdateTarget) (dto : UpdateNoShowDto)
    (userId : Option Nat) (c : NoShowCase) : NoShowCase :=
  let resolving := dto.resolutionStatus.isSome ∨ target = some .dismissed ∨ target = some .resolved
  { c with
    detectionStatus := (target.map UpdateTarget.status).getD c.detectionStatus
    resolutionStatus := dto.resolutionStatus.or c.resolutionStatus
    note := dto.note.or c.note
    resolvedBy := if resolving then userId.or c.resolvedBy else c.resolvedBy }

/-- The `UPDATE` of `update` names the case by its id alone. -/
def updateCase (id : Nat) (target : Option UpdateTarget) (dto : UpdateNoShowDto)
    (userId : Option Nat) (s : Store) : Store :=
  { s with cases := s.cases.update id (NoShowCase.updated target dto userId) }

/-- The reads of `snooze`: the case to answer with at once, or `none` to go on. -/
def checkSnooze (authz : Authz) (id : Nat) (userId : Option Nat) (s : Store) :
    Except ApiError (Option NoShowCase) := do
  let current ← expect (s.cases.get? id) caseNotFound
  require (¬ current.detectionStatus.terminal) alreadyFinalized
  assertAuthorized authz current (some "snoozed") userId
  if current.detectionStatus = .snoozed then
    pure (some current)
  else do
    require (current.detectionStatus ∈ snoozeSources) notEligibleForSnooze
    pure none

def NoShowCase.putOff (cfg : NoShowConfig) (now : Int) (userId : Option Nat)
    (note : Option String) (c : NoShowCase) : NoShowCase :=
  { c with
    detectionStatus := .snoozed
    snoozeUntil := some (now + cfg.confirmExtensionMinutes * minuteMs)
    note := note.or c.note
    resolvedBy := userId.or c.resolvedBy }

/-- The case that the `UPDATE` of `snooze` matches. -/
def Store.snoozable (s : Store) (id : Nat) : Option NoShowCase :=
  (s.cases.get? id).filter fun c => c.detectionStatus ∈ snoozeSources

def snoozeCase (cfg : NoShowConfig) (now : Int) (id : Nat) (userId : Option Nat)
    (note : Option String) (s : Store) : Store :=
  { s with
    cases := s.cases.updateWhere (fun r => r.1 = id ∧ r.2.detectionStatus ∈ snoozeSources)
      (NoShowCase.putOff cfg now userId note) }

structure ManualReleaseResponse where
  noShowCaseId : Nat
  detectionStatus : NoShowDetectionStatus
  released : Bool
  deriving DecidableEq, Repr

/-- The read of `manualRelease`: the response to answer with at once, or `none` to go on. -/
def checkManualRelease (id : Nat) (s : Store) :
    Except ApiError (Option ManualReleaseResponse) := do
  let current ← expect (s.cases.get? id) caseNotFound
  if current.detectionStatus = .released then
    pure (some ⟨id, .released, false⟩)
  else do
    require (current.detectionStatus ≠ .dismissed ∧ current.detectionStatus ≠ .resolved)
      cannotRelease
    pure none

def manualReleaseResponse (id : Nat) : ReleaseResult → Except ApiError ManualReleaseResponse
  | .alreadyReleased => .ok ⟨id, .released, false⟩
  | .bookingChanged => .error bookingNotReleasable
  | .released => .ok ⟨id, .released, true⟩

end NoShow
