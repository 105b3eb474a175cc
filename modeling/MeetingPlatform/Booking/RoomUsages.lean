import MeetingPlatform.Booking.Operations
import MeetingPlatform.NoShow.Cases

/- The usage rows of bookings, written when a meeting starts, is extended, leaves its room
   early and ends. -/
namespace RoomUsages
open MeetingBooking Guards KeyedTable LabelledRuns
open NoShow (RoomUsageStatus ConfigKeyDef)

section Rows

inductive OccupancySource where
  | camera | manual | sensor | websocket | mixed
  deriving DecidableEq, Repr

inductive MeetingEventSourceType where
  | manual | device | system
  deriving DecidableEq, Repr

def MeetingEventSourceType.occupancySource : MeetingEventSourceType → OccupancySource
  | .device => .camera
  | .manual | .system => .manual

/-- The entry `early_vacancy` of the metadata. -/
structure EarlyVacancy where
  detectedAt : Int
  emptyMinutes : Int
  deriving DecidableEq, Repr

structure RoomBookingUsage where
  bookingId : Nat
  meetingId : Nat
  roomId : Nat
  reservedEndTime : Int
  actualStartTime : Option Int := none
  actualEndTime : Option Int := none
  firstPresenceAt : Option Int := none
  usageStatus : RoomUsageStatus
  occupancySource : Option OccupancySource := none
  earlyVacancy : Option EarlyVacancy := none
  deriving DecidableEq, Repr

def usageOf (meetingId : Nat) (status : RoomUsageStatus) : Nat × RoomBookingUsage → Bool :=
  fun r => r.2.meetingId = meetingId ∧ r.2.usageStatus = status

def begun (now : Int) (source : OccupancySource) (u : RoomBookingUsage) : RoomBookingUsage :=
  { u with usageStatus := .inUse, actualStartTime := some now, occupancySource := some source }

def reservedUntil (newEndTime : Int) (u : RoomBookingUsage) : RoomBookingUsage :=
  { u with reservedEndTime := newEndTime }

/-- An end before the scheduled one counts as a release of the room. -/
def finished (now originalEndTime : Int) (u : RoomBookingUsage) : RoomBookingUsage :=
  { u with
    usageStatus := if now < originalEndTime then .released else .completed
    actualEndTime := some now }

def flagged (detectedAt emptyMinutes : Int) (u : RoomBookingUsage) : RoomBookingUsage :=
  { u with usageStatus := .earlyEmpty, earlyVacancy := some ⟨detectedAt, emptyMinutes⟩ }

end Rows

structure Premises where
  store : Store
  usages : Table RoomBookingUsage

section LiveMeeting

def executeStartMeetingInTransaction (now : Int) (meetingId : Nat)
    (sourceType : MeetingEventSourceType) (p : Premises) : Except ApiError Premises := do
  let store ← MeetingBooking.executeStartMeetingInTransaction now meetingId p.store
  pure ⟨store, p.usages.updateWhere (usageOf meetingId .notStarted)
    (begun now sourceType.occupancySource)⟩

def startMeeting (now : Int) (meetingId userId : Nat) (p : Premises) : Except ApiError Premises := do
  let proceed ← checkStart now meetingId userId p.store
  if proceed then executeStartMeetingInTransaction now meetingId .manual p else pure p

def autoStartDueMeetings (now : Int) (p : Premises) : Premises :=
  { p with store := MeetingBooking.autoStartDueMeetings now p.store }

def handleAutoApplyPath (basis : ExtensionBasis) (meetingId activeBookingId userId : Nat)
    (dto : ExtensionRequestDto) (p : Premises) : Except ApiError Premises := do
  let store ← MeetingBooking.handleAutoApplyPath basis meetingId activeBookingId userId dto p.store
  let extend := reservedUntil (basis.requestedNewEndTime dto)
  pure ⟨store, (p.usages.updateWhere (usageOf meetingId .inUse) extend).updateWhere
    (usageOf meetingId .notStarted) extend⟩

def requestExtension (cfg : Config) (meetingId : Nat) (dto : ExtensionRequestDto) (userId : Nat)
    (p : Premises) : Except ApiError Premises := do
  let basis ← readExtensionMeeting meetingId userId p.store
  checkExtensionLimits cfg.policy meetingId dto p.store
  let activeBookingId ← readActiveBooking meetingId p.store
  if fitsBeforeNext cfg.policy basis dto activeBookingId p.store then
    handleAutoApplyPath basis meetingId activeBookingId userId dto p
  else
    pure { p with store := handleRejectedPath basis meetingId userId dto p.store }

def executeEndMeetingInTransaction (now : Int) (meetingId : Nat) (originalEndTime : Int)
    (p : Premises) : Except ApiError Premises := do
  let store ← MeetingBooking.executeEndMeetingInTransaction now meetingId p.store
  pure ⟨store, p.usages.updateWhere (usageOf meetingId .inUse) (finished now originalEndTime)⟩

def endMeeting (now : Int) (meetingId userId : Nat) (p : Premises) : Except ApiError Premises := do
  checkEnd meetingId userId p.store
  let meeting ← expect (p.store.findMeeting meetingId) endNotFound
  executeEndMeetingInTransaction now meetingId meeting.endTime p

end LiveMeeting

section EarlyVacancyDetection

theorem one_le_ten : (1 : Int) ≤ 10 := by decide

def emptyMinutesKey : ConfigKeyDef :=
  ⟨"early_vacancy.empty_minutes", "EARLY_VACANCY_EMPTY_MINUTES", 10, 1, one_le_ten⟩

def minRemainingMinutesKey : ConfigKeyDef :=
  ⟨"early_vacancy.min_remaining_minutes", "EARLY_VACANCY_MIN_REMAINING_MINUTES", 15, 0,
    Int.natCast_nonneg 15⟩

def minElapsedMinutesKey : ConfigKeyDef :=
  ⟨"early_vacancy.min_elapsed_minutes", "EARLY_VACANCY_MIN_ELAPSED_MINUTES", 10, 0,
    Int.natCast_nonneg 10⟩

structure EarlyVacancyConfig where
  emptyMinutes : Int
  minRemainingMinutes : Int
  minElapsedMinutes : Int

def getValues (stored env : String → Option Int) : EarlyVacancyConfig where
  emptyMinutes := emptyMinutesKey.effective stored env
  minRemainingMinutes := minRemainingMinutesKey.effective stored env
  minElapsedMinutes := minElapsedMinutesKey.effective stored env

structure PresenceSnapshot where
  meetingId : Nat
  occupancyCount : Option Int
  snapshotTime : Int

/-- The newest count is recent and zero, and no count above zero is recent. -/
def standsEmpty (emptyMs now : Int) (snapshots : List PresenceSnapshot) : Bool :=
  let newestFirst := snapshots.insertionSort fun a b => b.snapshotTime ≤ a.snapshotTime
  (newestFirst.head?.any fun latest =>
    now - emptyMs ≤ latest.snapshotTime ∧ latest.occupancyCount = some 0) &&
  snapshots.all fun ps => ps.occupancyCount.all (· ≤ 0) ∨ ps.snapshotTime ≤ now - emptyMs

structure CandidateRow where
  bookingId : Nat
  meetingId : Nat
  roomId : Nat
  deriving DecidableEq, Repr

def isCandidate (cfg : EarlyVacancyConfig) (now : Int) (snapshots : List PresenceSnapshot)
    (p : Premises) (r : Nat × RoomBookingUsage) : Bool :=
  let u := r.2
  decide (u.usageStatus = .inUse) &&
  (u.firstPresenceAt.any fun first => cfg.minElapsedMinutes * minuteMs ≤ now - first) &&
  ((p.store.bookings.get? u.bookingId).any fun b => b.status.holdsRoom) &&
  decide (cfg.minRemainingMinutes * minuteMs ≤ u.reservedEndTime - now) &&
  standsEmpty (cfg.emptyMinutes * minuteMs) now (snapshots.filter fun ps => ps.meetingId = u.meetingId)

def candidates (cfg : EarlyVacancyConfig) (now : Int) (snapshots : List PresenceSnapshot)
    (p : Premises) : List CandidateRow :=
  (p.usages.select (isCandidate cfg now snapshots p)).map fun r =>
    ⟨r.2.bookingId, r.2.meetingId, r.2.roomId⟩

def inUseOf (bookingId : Nat) : Nat × RoomBookingUsage → Bool :=
  fun r => r.2.bookingId = bookingId ∧ r.2.usageStatus = .inUse

/-- `false` where the row is no longer in use, and nothing is written. -/
def flagBooking (cand : CandidateRow) (detectedAt emptyMinutes : Int) (p : Premises) :
    Premises × Bool :=
  if (p.usages.select (inUseOf cand.bookingId)).isEmpty then (p, false)
  else
    ({ p with
      usages := p.usages.updateWhere (inUseOf cand.bookingId) (flagged detectedAt emptyMinutes) },
      true)

/-- One candidate of a run. `attempt` is the instant at which it is flagged, `none` where its
    transaction fails, which is only logged. -/
def flagNext (emptyMinutes : Int) (attempt : CandidateRow → Option Int) (acc : Premises × Nat)
    (cand : CandidateRow) : Premises × Nat :=
  match attempt cand with
  | none => acc
  | some detectedAt =>
    let (p, done) := flagBooking cand detectedAt emptyMinutes acc.1
    (p, if done then acc.2 + 1 else acc.2)

structure Detected where
  scanned : Nat
  flagged : Nat
  deriving DecidableEq, Repr

def detect (cfg : EarlyVacancyConfig) (now : Int) (snapshots : List PresenceSnapshot)
    (attempt : CandidateRow → Option Int) (p : Premises) : Premises × Detected :=
  let found := candidates cfg now snapshots p
  let (p, flagged) := found.foldl (flagNext cfg.emptyMinutes attempt) (p, 0)
  (p, ⟨found.length, flagged⟩)

end EarlyVacancyDetection

section Runs

/-- A booking may also be flagged on its own, for a run of the detection that has read before. -/
inductive Event where
  | startMeeting (now : Int) (meetingId userId : Nat)
  | autoStartDueMeetings (now : Int)
  | detect (cfg : EarlyVacancyConfig) (now : Int) (snapshots : List PresenceSnapshot)
      (attempt : CandidateRow → Option Int)
  | flagBooking (cand : CandidateRow) (detectedAt emptyMinutes : Int)
  | requestExtension (meetingId : Nat) (dto : ExtensionRequestDto) (userId : Nat)
  | endMeeting (now : Int) (meetingId userId : Nat)

/-- `none` where the call throws; its transaction is rolled back. -/
def Event.exec (cfg : Config) : Event → Premises → Option Premises
  | .startMeeting now meetingId userId, p => (RoomUsages.startMeeting now meetingId userId p).toOption
  | .autoStartDueMeetings now, p => some (RoomUsages.autoStartDueMeetings now p)
  | .detect evd now snapshots attempt, p => some (RoomUsages.detect evd now snapshots attempt p).1
  | .flagBooking cand detectedAt emptyMinutes, p =>
    some (RoomUsages.flagBooking cand detectedAt emptyMinutes p).1
  | .requestExtension meetingId dto userId, p =>
    (RoomUsages.requestExtension cfg meetingId dto userId p).toOption
  | .endMeeting now meetingId userId, p => (RoomUsages.endMeeting now meetingId userId p).toOption

def Happens (cfg : Config) (p : Premises) (e : Event) (p' : Premises) : Prop :=
  e.exec cfg p = some p'

def Event.op : Event → Option Op
  | .startMeeting now meetingId userId => some (.startMeeting now meetingId userId)
  | .autoStartDueMeetings now => some (.autoStartDueMeetings now)
  | .requestExtension meetingId dto userId => some (.requestExtension meetingId dto userId)
  | .endMeeting now meetingId userId => some (.endMeeting now meetingId userId)
  | .detect .. | .flagBooking .. => none

end Runs

section Refinement
variable {cfg : Config} {now : Int} {i userId : Nat} {dto : ExtensionRequestDto} {p p' : Premises}

theorem startMeeting_ok (ok : startMeeting now i userId p = .ok p') :
    MeetingBooking.startMeeting now i userId p.store = .ok p'.store ∧
      (p'.usages = p.usages ∨ p'.usages = p.usages.updateWhere (usageOf i .notStarted)
        (begun now MeetingEventSourceType.manual.occupancySource)) := by
  simp only [startMeeting, bind_eq_ok] at ok
  obtain ⟨proceed, checked, written⟩ := ok
  simp only [MeetingBooking.startMeeting, bind_eq_ok]
  cases proceed with
  | true =>
    rw [if_pos rfl, executeStartMeetingInTransaction, bind_eq_ok] at written
    obtain ⟨store, executed, same⟩ := written
    rw [pure_eq_ok] at same
    subst same
    exact ⟨⟨true, checked, executed⟩, Or.inr rfl⟩
  | false =>
    rw [if_neg Bool.false_ne_true, pure_eq_ok] at written
    subst written
    exact ⟨⟨false, checked, rfl⟩, Or.inl rfl⟩

theorem requestExtension_ok (ok : requestExtension cfg i dto userId p = .ok p') :
    MeetingBooking.requestExtension cfg i dto userId p.store = .ok p'.store ∧
      (p'.usages = p.usages ∨ ∃ newEndTime, p'.usages =
        (p.usages.updateWhere (usageOf i .inUse) (reservedUntil newEndTime)).updateWhere
          (usageOf i .notStarted) (reservedUntil newEndTime)) := by
  simp only [requestExtension, bind_eq_ok] at ok
  obtain ⟨basis, read, limits, within, k, active, written⟩ := ok
  simp only [MeetingBooking.requestExtension, bind_eq_ok]
  split at written
  · rename_i fits
    simp only [handleAutoApplyPath, bind_eq_ok, pure_eq_ok] at written
    obtain ⟨store, applied, rfl⟩ := written
    refine ⟨⟨basis, read, limits, within, k, active, ?_⟩, Or.inr ⟨_, rfl⟩⟩
    rw [if_pos fits]
    exact applied
  · rename_i clash
    rw [pure_eq_ok] at written
    subst written
    refine ⟨⟨basis, read, limits, within, k, active, ?_⟩, Or.inl rfl⟩
    rw [if_neg clash]
    rfl

theorem endMeeting_ok (ok : endMeeting now i userId p = .ok p') :
    MeetingBooking.endMeeting now i userId p.store = .ok p'.store ∧
      ∃ originalEndTime, p'.usages =
        p.usages.updateWhere (usageOf i .inUse) (finished now originalEndTime) := by
  simp only [endMeeting, executeEndMeetingInTransaction, bind_eq_ok, pure_eq_ok] at ok
  obtain ⟨checked, valid, meeting, -, store, executed, rfl⟩ := ok
  simp only [MeetingBooking.endMeeting, bind_eq_ok]
  exact ⟨⟨checked, valid, executed⟩, meeting.endTime, rfl⟩

theorem flagBooking_store (cand : CandidateRow) (detectedAt emptyMinutes : Int) :
    (flagBooking cand detectedAt emptyMinutes p).1.store = p.store := by
  unfold flagBooking
  split <;> rfl

theorem detect_keeps {R : Premises → Premises → Prop} (refl : ∀ q, R q q)
    (trans : ∀ {a b c}, R a b → R b c → R a c) (emptyMinutes : Int)
    (flag : ∀ q cand detectedAt, R q (flagBooking cand detectedAt emptyMinutes q).1)
    (attempt : CandidateRow → Option Int) (found : List CandidateRow) (acc : Premises × Nat) :
    R acc.1 (found.foldl (flagNext emptyMinutes attempt) acc).1 := by
  induction found generalizing acc with
  | nil => exact refl _
  | cons cand found ih =>
    refine trans ?_ (ih _)
    unfold flagNext
    split
    · exact refl _
    · exact flag _ _ _

theorem detect_store (evd : EarlyVacancyConfig) (snapshots : List PresenceSnapshot)
    (attempt : CandidateRow → Option Int) :
    (detect evd now snapshots attempt p).1.store = p.store :=
  detect_keeps (R := fun q q' => q'.store = q.store) (fun _ => rfl)
    (fun first second => second.trans first) evd.emptyMinutes
    (fun _ cand detectedAt => flagBooking_store cand detectedAt evd.emptyMinutes) attempt _ (p, 0)

theorem happens_store {e : Event} (happens : Happens cfg p e p') :
    match e.op with
    | some op => Step cfg p.store op p'.store
    | none => p'.store = p.store := by
  cases e with
  | startMeeting now i userId =>
    exact toOption_eq_some.mpr (startMeeting_ok (toOption_eq_some.mp happens)).1
  | autoStartDueMeetings now =>
    cases happens
    rfl
  | detect evd now snapshots attempt =>
    cases happens
    exact detect_store evd snapshots attempt
  | flagBooking cand detectedAt emptyMinutes =>
    cases happens
    exact flagBooking_store cand detectedAt emptyMinutes
  | requestExtension i dto userId =>
    exact toOption_eq_some.mpr (requestExtension_ok (toOption_eq_some.mp happens)).1
  | endMeeting now i userId =>
    exact toOption_eq_some.mpr (endMeeting_ok (toOption_eq_some.mp happens)).1

end Refinement
end RoomUsages
