import MeetingPlatform.FaceAccess.RemovedParticipants

/- The runs of the minute should bring the rows in line with the schedule: one for each participant who
   has a portrait, on the face device of the meeting's room, for the time of the meeting. -/
namespace FaceAccess
open KeyedTable LabelledRuns
open MeetingBooking (MeetingStatus)

section Sync

def upcomingMeetings (s : FaceStore) (now lead : Int) : List MeetingRow :=
  (s.meetings.select fun r => r.2.roomId.isSome ∧ r.2.status ∈ [MeetingStatus.scheduled, .inProgress] ∧
    r.2.startTime ≤ now + lead ∧ now < r.2.endTime).map fun r =>
      ⟨r.1, r.2.roomId, r.2.startTime, r.2.endTime⟩

/-- All runs of a minute. The meetings and their participants are taken in the order in which the queries
    return them; every query has an instant of its own. -/
structure FaceSync where
  now : Int
  lead : Int
  endedAt : Int
  statusAt : Int
  reconciledAt : Int
  grace : Int
  upcoming : List (MeetingRow × List Nat)
  ended : Removals
  byStatus : Removals
  stale : Removals
  synced : List ((Nat × DeviceUserMapping) × DedupCalls)

def FaceSync.provisionUpcomingMeetings (sync : FaceSync) (portraits : List Nat) : List FaceRun :=
  sync.upcoming.map fun u => ⟨sync.now, sync.grace,
    .provisionMeeting u.1 (u.2.map fun userId => (userId, answersFor portraits userId))⟩

def FaceSync.runs (sync : FaceSync) (portraits : List Nat) : List FaceRun :=
  sync.provisionUpcomingMeetings portraits ++
    [⟨sync.endedAt, sync.grace, .deprovisionEndedMeetings sync.ended⟩,
      ⟨sync.statusAt, sync.grace, .deprovisionByMeetingStatus sync.byStatus⟩,
      ⟨sync.reconciledAt, sync.grace, .reconcile sync.stale sync.synced⟩]

structure Synced (s : FaceStore) (sync : FaceSync) (portraits : List Nat)
    (moves : List (Move FaceStore FaceRun)) (t : FaceStore) : Prop where
  run : Run FaceStep s moves t
  labels : moves.map Move.label = sync.runs portraits
  upcoming : (sync.upcoming.map Prod.fst).Perm (upcomingMeetings s sync.now sync.lead)

def faceDevice (s : FaceStore) (meeting : MeetingRow) : Option Nat :=
  meeting.roomId.bind fun roomId => findFaceDevice s roomId

/-- The row lets a face in where and when the meeting is. -/
def OnSchedule (s : FaceStore) (meeting : MeetingRow) (mp : DeviceUserMapping) : Prop :=
  faceDevice s meeting = some mp.deviceId ∧ mp.validFrom = meeting.startTime ∧
    mp.validTo = meeting.endTime

def syncedRows (s : FaceStore) (meetingId userId : Nat) : List (Nat × DeviceUserMapping) :=
  s.mappings.select fun r => r.2.userId = userId ∧ r.2.bookingId = meetingId ∧ r.2.syncStatus = .synced

/-- What the schedule asks for. -/
def Converged (s : FaceStore) (meeting : MeetingRow) (userId : Nat) : Prop :=
  ∃ r, syncedRows s meeting.id userId = [r] ∧ OnSchedule s meeting r.2

/-- Nothing is synced that is not on schedule any more. -/
def SyncedOnSchedule (s : FaceStore) (meeting : MeetingRow) (userId : Nat) : Prop :=
  ∀ r ∈ syncedRows s meeting.id userId, OnSchedule s meeting r.2

instance (s : FaceStore) (meeting : MeetingRow) (mp : DeviceUserMapping) :
    Decidable (OnSchedule s meeting mp) :=
  inferInstanceAs (Decidable (_ ∧ _ ∧ _))

instance (s : FaceStore) (meeting : MeetingRow) (userId : Nat) :
    Decidable (SyncedOnSchedule s meeting userId) :=
  inferInstanceAs (Decidable (∀ r ∈ syncedRows s meeting.id userId, OnSchedule s meeting r.2))

/-- No other meeting holds the user's place on the device when the meeting is provisioned. -/
def NotHeld (meeting : MeetingRow) (userId : Nat) (s : FaceStore) (r : FaceRun) : Prop :=
  match r.event with
  | .provisionMeeting row _ =>
    row = meeting → ∀ deviceId ∈ faceDevice s meeting, SlotFree s meeting deviceId userId
  | _ => True

end Sync

section Rows
variable {s t : FaceStore} {meeting row : MeetingRow} {userId deviceId other : Nat}
  {calls : ProvisionCalls} {r : Nat × DeviceUserMapping}

theorem mem_syncedRows {meetingId : Nat} : r ∈ syncedRows s meetingId userId ↔
    r ∈ s.mappings.rows ∧ r.2.userId = userId ∧ r.2.bookingId = meetingId ∧ r.2.syncStatus = .synced := by
  rw [syncedRows, mem_select, decide_eq_true_eq]

theorem synced_live (well : WellMapped s) (there : r ∈ s.mappings.rows)
    (synced : r.2.syncStatus = .synced) : r.2.live = true :=
  (well.deleted r there).mpr (by rw [synced]; rintro ⟨⟩)

theorem hasSynced_iff (well : WellMapped s) {meetingId : Nat} :
    HasSynced s meetingId userId ↔ ∃ r, r ∈ syncedRows s meetingId userId := by
  constructor
  · rintro ⟨r, there, user, booking, -, synced⟩
    exact ⟨r, mem_syncedRows.mpr ⟨there, user, booking, synced⟩⟩
  · rintro ⟨r, chosen⟩
    obtain ⟨there, user, booking, synced⟩ := mem_syncedRows.mp chosen
    exact ⟨r, there, user, booking, synced_live well there synced, synced⟩

theorem converged_iff (well : WellMapped s) :
    Converged s meeting userId ↔ HasSynced s meeting.id userId ∧ SyncedOnSchedule s meeting userId := by
  rw [hasSynced_iff well]
  constructor
  · rintro ⟨r, only, scheduled⟩
    rw [SyncedOnSchedule, only]
    refine ⟨⟨r, List.mem_singleton.mpr rfl⟩, ?_⟩
    intro q there
    rw [List.mem_singleton.mp there]
    exact scheduled
  · rintro ⟨⟨r, chosen⟩, all⟩
    have same : ∀ q ∈ syncedRows s meeting.id userId, q = r := by
      intro q there
      obtain ⟨row, user, booking, -⟩ := mem_syncedRows.mp chosen
      obtain ⟨row', user', booking', -⟩ := mem_syncedRows.mp there
      have device := (all q there).1.symm.trans (all r chosen).1
      exact well.one q row' r row (Option.some.inj device) (user'.trans user.symm)
        (booking'.trans booking.symm)
    have keys := select_keys s.mappings fun r =>
      r.2.userId = userId ∧ r.2.bookingId = meeting.id ∧ r.2.syncStatus = .synced
    change ((syncedRows s meeting.id userId).map Prod.fst).Nodup at keys
    refine ⟨r, ?_, all r chosen⟩
    cases rows : syncedRows s meeting.id userId with
    | nil =>
      rw [rows] at chosen
      cases chosen
    | cons q rest =>
      rw [rows] at same keys
      cases rest with
      | nil => rw [same q List.mem_cons_self]
      | cons x rest =>
        have equal : q = x := (same q List.mem_cons_self).trans
          (same x (List.mem_cons_of_mem _ List.mem_cons_self)).symm
        rw [equal] at keys
        exact absurd List.mem_cons_self (List.nodup_cons.mp keys).1

theorem faceDevice_world (world : SameWorld s t) : faceDevice t meeting = faceDevice s meeting := by
  simp only [faceDevice, findFaceDevice, world.devices]

theorem onSchedule_world (world : SameWorld s t) {mp : DeviceUserMapping} :
    OnSchedule t meeting mp ↔ OnSchedule s meeting mp := by
  rw [OnSchedule, OnSchedule, faceDevice_world world]

theorem upsert_onSchedule (well : WellMapped s) (free : SlotOpen s row deviceId other)
    {uid : Option Nat} {status : SyncStatus} {error : Option String}
    (scheduled : other = userId → row.id = meeting.id → status = .synced →
      OnSchedule s meeting (slotParams row deviceId other uid status error).row) :
    SyncedOnSchedule (upsertMapping s (slotParams row deviceId other uid status error)) meeting userId ↔
      SyncedOnSchedule s meeting userId := by
  have world : SameWorld s (upsertMapping s (slotParams row deviceId other uid status error)) :=
    upsert_world
  constructor
  · intro all r chosen
    obtain ⟨there, user, booking, synced⟩ := mem_syncedRows.mp chosen
    refine (onSchedule_world world).mp (all r (mem_syncedRows.mpr ⟨?_, user, booking, synced⟩))
    refine (mem_upsert well).mpr (Or.inl ⟨there, Bool.eq_false_of_not_eq_true ?_⟩)
    intro same
    obtain ⟨own, device, -⟩ := sameSlot_iff.mp same
    exact (free r there (synced_live well there synced) device own).2 synced
  · intro all r chosen
    obtain ⟨there, user, booking, synced⟩ := mem_syncedRows.mp chosen
    refine (onSchedule_world world).mpr ?_
    rcases (mem_upsert well).mp there with ⟨old, -⟩ | rfl
    · exact all r (mem_syncedRows.mpr ⟨old, user, booking, synced⟩)
    · exact scheduled user booking synced

theorem turn_onSchedule (well : WellMapped s) (effect : TurnEffect s row deviceId other calls t)
    (own : row.id = meeting.id → row = meeting) (device : faceDevice s row = some deviceId) :
    SyncedOnSchedule t meeting userId ↔ SyncedOnSchedule s meeting userId := by
  cases effect with
  | idle quiet => exact Iff.rfl
  | noted quiet free unsynced kept =>
    exact upsert_onSchedule well free fun _ _ synced => absurd synced unsynced
  | added adds answered free =>
    refine upsert_onSchedule (addPerson_wellMapped well) free ?_
    intro _ booking _
    rw [own booking] at device
    exact ⟨device, congrArg MeetingRow.startTime (own booking), congrArg MeetingRow.endTime (own booking)⟩
  | lost adds unanswered free =>
    refine upsert_onSchedule (addPerson_wellMapped well) free ?_
    rintro _ _ ⟨⟩

theorem turn_brings (well : WellMapped s) (free : SlotFree s row deviceId userId) {portraits : List Nat}
    (portrait : userId ∈ portraits)
    (effect : TurnEffect s row deviceId userId (answersFor portraits userId) t) :
    HasSynced t row.id userId := by
  refine (turn_hasSynced well effect).mpr ?_
  by_cases has : HasSynced s row.id userId
  · exact Or.inl has
  · have accepted : (answersFor portraits userId).add ≠ .refused := by
      rintro ⟨⟩
    refine Or.inr ⟨rfl, rfl, ⟨?_, decide_eq_true portrait, rfl, rfl, accepted⟩, rfl, rfl⟩
    intro mp found
    obtain ⟨q, there, rfl⟩ := Option.map_eq_some_iff.mp found
    obtain ⟨here, slot⟩ := findOne_mem there
    obtain ⟨device, user, live⟩ := of_decide_eq_true slot
    have booking := free q here live device user
    refine ⟨booking, ?_⟩
    intro synced
    exact has ⟨q, here, user, booking, live, synced⟩

theorem turn_slotFree (well : WellMapped s) (effect : TurnEffect s row deviceId other calls t)
    (free : SlotFree s row deviceId userId) : SlotFree t row deviceId userId := by
  have written : ∀ {a : FaceStore} {uid : Option Nat} {status : SyncStatus} {error : Option String},
      WellMapped a → SlotFree a row deviceId userId →
      SlotFree (upsertMapping a (slotParams row deviceId other uid status error)) row deviceId userId := by
    intro a uid status error well free q there live device user
    rcases (mem_upsert well).mp there with ⟨old, -⟩ | rfl
    · exact free q old live device user
    · rfl
  cases effect with
  | idle quiet => exact free
  | noted quiet _ unsynced kept => exact written well free
  | added adds answered _ => exact written (addPerson_wellMapped well) free
  | lost adds unanswered _ => exact written (addPerson_wellMapped well) free

theorem turns_bring {portraits participants : List Nat} (well : WellMapped s)
    (known : (findDeviceById s deviceId).isSome = true) (free : SlotFree s row deviceId userId)
    (portrait : userId ∈ portraits) (takes_part : userId ∈ participants) :
    HasSynced (provisionTurns row deviceId s
      (participants.map fun other => (other, answersFor portraits other))).1 row.id userId := by
  induction participants generalizing s with
  | nil => cases takes_part
  | cons other rest ih =>
    have effect : TurnEffect s row deviceId other (answersFor portraits other)
      (provisionTurn s row deviceId other (answersFor portraits other)).1 := turn_effect well
    have well' := turn_wellMapped well known effect
    have known' := turn_known known effect
    rcases List.mem_cons.mp takes_part with rfl | later
    · have brought := turn_brings well free portrait effect
      have kept : HasSynced (provisionTurns row deviceId
          (provisionTurn s row deviceId userId (answersFor portraits userId)).1
          (rest.map fun other => (other, answersFor portraits other))).1 row.id userId := by
        refine turns_invariant (P := fun a => HasSynced a row.id userId) well' known' brought ?_
        intro p _ a b well _ has effect
        exact (turn_hasSynced well effect).mpr (Or.inl has)
      exact kept
    · exact ih well' known' (turn_slotFree well effect free) later

end Rows

section Removals
variable {s : FaceStore} {meeting : MeetingRow} {userId : Nat}

theorem removals_onSchedule {now : Int} {maps : Removals} {selected : Nat × DeviceUserMapping → Bool}
    (well : WellMapped s) (read : (maps.map Prod.fst).Subperm (s.mappings.select selected))
    (spared : ∀ q, q.2.bookingId = meeting.id → selected q ≠ true) :
    SyncedOnSchedule (removeAll s now maps).1 meeting userId ↔ SyncedOnSchedule s meeting userId := by
  have current := current_of_subperm read
  have world := removeAll_world now well current
  have well' := (removeAll_keeps now well current).1
  constructor
  · intro all q chosen
    obtain ⟨there, user, booking, synced⟩ := mem_syncedRows.mp chosen
    refine (onSchedule_world world).mp (all q (mem_syncedRows.mpr ⟨?_, user, booking, synced⟩))
    refine removeAll_others well current there ?_
    intro listed
    exact spared q booking (mem_select.mp (read.subset listed)).2
  · intro all q chosen
    obtain ⟨there, user, booking, synced⟩ := mem_syncedRows.mp chosen
    have before := removeAll_live well current there (synced_live well' there synced)
    exact (onSchedule_world world).mpr (all q (mem_syncedRows.mpr ⟨before, user, booking, synced⟩))

end Removals

section Dedup
variable {s t : FaceStore} {meeting : MeetingRow} {userId : Nat}

/-- The rows, but for the persons on the devices. -/
def unlinked (s : FaceStore) : List DeviceUserMapping :=
  s.mappings.rows.map fun r => { r.2 with devicePersonId := none }

theorem dedup_unlinked {mp : DeviceUserMapping} (effect : DedupEffect s mp t) :
    unlinked t = unlinked s ∧ SameWorld s t := by
  cases effect with
  | kept => exact ⟨rfl, rfl, rfl, rfl⟩
  | halfway => exact ⟨rfl, rfl, rfl, rfl⟩
  | relinked person differs found =>
    refine ⟨?_, rfl, rfl, rfl⟩
    change (List.map (touch _ _) s.mappings.rows).map _ = _
    rw [List.map_map]
    refine List.map_congr_left ?_
    intro r _
    simp only [Function.comp_apply, touch]
    split
    · rfl
    · rfl

theorem dedupAll_unlinked (maps : List ((Nat × DeviceUserMapping) × DedupCalls)) :
    unlinked (dedupAll s maps).1 = unlinked s ∧ SameWorld s (dedupAll s maps).1 := by
  refine loop_invariant (P := fun a => unlinked a = unlinked s ∧ SameWorld s a) ⟨rfl, rfl, rfl, rfl⟩ ?_
  rintro a w - ⟨same, world⟩
  have effect : DedupEffect a w.1.2 (dedupTurn a w.1.2 w.2).1 := dedup_effect
  obtain ⟨here, world'⟩ := dedup_unlinked effect
  exact ⟨here.trans same, world.trans world'⟩

theorem hasSynced_unlinked {meetingId : Nat} : HasSynced s meetingId userId ↔ ∃ mp ∈ unlinked s,
    mp.userId = userId ∧ mp.bookingId = meetingId ∧ mp.live = true ∧ mp.syncStatus = .synced := by
  simp only [unlinked, List.mem_map, exists_exists_and_eq_and]
  exact Iff.rfl

theorem onSchedule_unlinked : SyncedOnSchedule s meeting userId ↔ ∀ mp ∈ unlinked s,
    mp.userId = userId ∧ mp.bookingId = meeting.id ∧ mp.syncStatus = .synced → OnSchedule s meeting mp := by
  rw [unlinked, List.forall_mem_map]
  constructor
  · intro all r there row
    exact all r (mem_syncedRows.mpr ⟨there, row⟩)
  · intro all r chosen
    obtain ⟨there, row⟩ := mem_syncedRows.mp chosen
    exact all r there row

end Dedup

section Pass
variable {s t a b : FaceStore} {sync : FaceSync} {portraits : List Nat} {r : FaceRun}
  {meeting row : MeetingRow} {userId : Nat} {moves : List (Move FaceStore FaceRun)}

theorem mem_upcoming {now lead : Int} (there : meeting ∈ upcomingMeetings s now lead) :
    ∃ me ∈ s.meetings.get? meeting.id, me.status ∈ [MeetingStatus.scheduled, .inProgress] ∧
      me.endTime = meeting.endTime ∧ meeting = ⟨meeting.id, me.roomId, me.startTime, me.endTime⟩ := by
  obtain ⟨q, chosen, rfl⟩ := List.mem_map.mp there
  obtain ⟨here, selected⟩ := mem_select.mp chosen
  obtain ⟨-, status, -⟩ := of_decide_eq_true selected
  exact ⟨q.2, get?_eq_some.mpr here, status, rfl, rfl⟩

theorem upcoming_unique {now lead : Int} (one : row ∈ upcomingMeetings s now lead)
    (other : meeting ∈ upcomingMeetings s now lead) (same : row.id = meeting.id) : row = meeting := by
  obtain ⟨me, found, -, -, is_row⟩ := mem_upcoming one
  obtain ⟨me', found', -, -, is_meeting⟩ := mem_upcoming other
  rw [same] at found
  cases Option.some.inj (found.symm.trans found')
  rw [is_row, is_meeting, same]

theorem mem_runs : r ∈ sync.runs portraits ↔
    (∃ u ∈ sync.upcoming, r = ⟨sync.now, sync.grace,
      .provisionMeeting u.1 (u.2.map fun userId => (userId, answersFor portraits userId))⟩) ∨
    r = ⟨sync.endedAt, sync.grace, .deprovisionEndedMeetings sync.ended⟩ ∨
    r = ⟨sync.statusAt, sync.grace, .deprovisionByMeetingStatus sync.byStatus⟩ ∨
    r = ⟨sync.reconciledAt, sync.grace, .reconcile sync.stale sync.synced⟩ := by
  rw [FaceSync.runs, List.mem_append, FaceSync.provisionUpcomingMeetings, List.mem_map]
  simp only [List.mem_cons, List.not_mem_nil, or_false, eq_comm]

/-- The meeting goes on until all runs are over. -/
def GoesOnDuring (sync : FaceSync) (meeting : MeetingRow) : Prop :=
  sync.endedAt < meeting.endTime ∧ sync.reconciledAt < meeting.endTime

/-- What a run of the pass leaves as it is. -/
structure KeptFor (meeting : MeetingRow) (userId : Nat) (a b : FaceStore) : Prop where
  world : SameWorld a b
  synced : HasSynced a meeting.id userId → HasSynced b meeting.id userId
  scheduled : SyncedOnSchedule b meeting userId ↔ SyncedOnSchedule a meeting userId

theorem KeptFor.refl : KeptFor meeting userId a a :=
  ⟨⟨rfl, rfl, rfl⟩, fun has => has, Iff.rfl⟩

theorem KeptFor.trans (first : KeptFor meeting userId s a) (second : KeptFor meeting userId a b) :
    KeptFor meeting userId s b where
  world := first.world.trans second.world
  synced has := second.synced (first.synced has)
  scheduled := second.scheduled.trans first.scheduled

theorem removals_kept {now : Int} {maps : Removals} {selected : Nat × DeviceUserMapping → Bool}
    (well : WellMapped a) (read : (maps.map Prod.fst).Subperm (a.mappings.select selected))
    (spared : ∀ q, q.2.bookingId = meeting.id → selected q ≠ true) :
    KeptFor meeting userId a (removeAll a now maps).1 where
  world := removeAll_world now well (current_of_subperm read)
  synced := (removals_hasSynced well read spared).mpr
  scheduled := removals_onSchedule well read spared

theorem provision_kept {now lead : Int} {participants : List (Nat × ProvisionCalls)}
    (well : WellMapped a) (one : row ∈ upcomingMeetings s now lead)
    (wanted : meeting ∈ upcomingMeetings s now lead) :
    KeptFor meeting userId a (provisionMeeting a row participants).1 := by
  unfold provisionMeeting
  cases found : row.roomId.bind fun roomId => findFaceDevice a roomId with
  | none => exact .refl
  | some deviceId =>
    obtain ⟨roomId, -, device⟩ := Option.bind_eq_some_iff.mp found
    have known := face_device_known device
    refine turns_invariant (P := KeptFor meeting userId a) well known .refl ?_
    intro p _ b t well _ kept effect
    have on_device : faceDevice b row = some deviceId := (faceDevice_world kept.world).trans found
    refine kept.trans ⟨turn_world effect, ?_, ?_⟩
    · intro has
      exact (turn_hasSynced well effect).mpr (Or.inl has)
    · exact turn_onSchedule well effect (upcoming_unique one wanted) on_device

theorem dedupAll_kept (maps : List ((Nat × DeviceUserMapping) × DedupCalls)) :
    KeptFor meeting userId a (dedupAll a maps).1 := by
  obtain ⟨same, world⟩ := dedupAll_unlinked (s := a) maps
  refine ⟨world, ?_, ?_⟩
  · rw [hasSynced_unlinked, hasSynced_unlinked, same]
    exact fun has => has
  · rw [onSchedule_unlinked, onSchedule_unlinked, same]
    exact forall₂_congr fun mp _ => imp_congr_right fun _ => onSchedule_world world

theorem pass_step (well : WellMapped a) (world : SameWorld s a)
    (upcoming : (sync.upcoming.map Prod.fst).Perm (upcomingMeetings s sync.now sync.lead))
    (wanted : meeting ∈ upcomingMeetings s sync.now sync.lead) (goes_on : GoesOnDuring sync meeting)
    (grace_set : 0 ≤ sync.grace) (step : FaceStep a r b) (listed : r ∈ sync.runs portraits) :
    KeptFor meeting userId a b := by
  obtain ⟨reads, rfl⟩ := step
  obtain ⟨me, found, status, ends, -⟩ := mem_upcoming wanted
  have of_meeting : ∀ q : Nat × DeviceUserMapping, q.2.bookingId = meeting.id → meetingOf a q.2 = some me := by
    intro q booking
    rw [meetingOf, booking, world.meetings]
    exact found
  have not_ended : ∀ {now : Int} {q : Nat × DeviceUserMapping}, now < meeting.endTime →
      q.2.bookingId = meeting.id → endedBefore a now sync.grace q.2 ≠ true := by
    intro now q before booking ended
    rw [endedBefore, of_meeting q booking, Option.any_some, decide_eq_true_eq, ends] at ended
    omega
  rcases mem_runs.mp listed with ⟨u, there, rfl⟩ | rfl | rfl | rfl
  · exact provision_kept well (upcoming.mem_iff.mp (List.mem_map_of_mem there)) wanted
  · refine removals_kept well reads.1 ?_
    intro q booking selected
    obtain ⟨-, -, -, ended⟩ := of_decide_eq_true selected
    exact not_ended goes_on.1 booking ended
  · refine removals_kept well reads.1 ?_
    intro q booking selected
    obtain ⟨-, -, -, ended⟩ := of_decide_eq_true selected
    rw [of_meeting q booking, Option.any_some, decide_eq_true_eq] at ended
    rcases ended with ended | ended
    · rw [ended] at status
      simp at status
    · rw [ended] at status
      simp at status
  · refine (removals_kept well reads.1.1 ?_).trans (dedupAll_kept sync.synced)
    intro q booking selected
    obtain ⟨-, -, ended⟩ := of_decide_eq_true selected
    exact not_ended goes_on.2 booking ended

theorem pass_brings {participants : List Nat} (well : WellMapped a) (world : SameWorld s a)
    (on_device : (faceDevice s meeting).isSome = true) (portrait : userId ∈ portraits)
    (takes_part : userId ∈ participantsOf s meeting.id)
    (step : FaceStep a ⟨sync.now, sync.grace, .provisionMeeting meeting
      (participants.map fun userId => (userId, answersFor portraits userId))⟩ b)
    (free : ∀ deviceId ∈ faceDevice a meeting, SlotFree a meeting deviceId userId) :
    HasSynced b meeting.id userId := by
  obtain ⟨reads, rfl⟩ := step
  obtain ⟨deviceId, there⟩ := Option.isSome_iff_exists.mp on_device
  have found : faceDevice a meeting = some deviceId := (faceDevice_world world).trans there
  obtain ⟨roomId, room, device⟩ := Option.bind_eq_some_iff.mp found
  have listed : userId ∈ participants := by
    have read : (participants.map fun userId => (userId, answersFor portraits userId)).map Prod.fst =
        participants := by
      rw [List.map_map]
      exact List.map_id _
    have all : participants.Perm (participantsOf a meeting.id) := read ▸ reads
    rw [all.mem_iff, participantsOf, world.participants]
    exact takes_part
  have runs : provisionMeeting a meeting
      (participants.map fun userId => (userId, answersFor portraits userId)) =
      provisionTurns meeting deviceId a
        (participants.map fun userId => (userId, answersFor portraits userId)) := by
    unfold provisionMeeting
    rw [room, Option.bind_some, device]
    rfl
  have brought := turns_bring well (face_device_known device) (free deviceId found) portrait listed
  rw [← runs] at brought
  exact brought

/-- A pass without failures adds what is missing. A synced row of an earlier time or room stays, and
    keeps the schedule from being met. -/
theorem sync_converges_iff {meetings : Table Meeting} {participants : List (Nat × Nat)}
    {iotDevices : Table IotDevice} {earlier : List (Move FaceStore FaceRun)}
    (before : Run FaceStep (FaceStore.start meetings participants iotDevices) earlier s)
    (pass : Synced s sync portraits moves t) (grace_set : 0 ≤ sync.grace)
    (wanted : meeting ∈ upcomingMeetings s sync.now sync.lead) (goes_on : GoesOnDuring sync meeting)
    (takes_part : userId ∈ participantsOf s meeting.id) (portrait : userId ∈ portraits)
    (not_held : Heeds (NotHeld meeting userId) moves) :
    Converged t meeting userId ↔
      (faceDevice s meeting).isSome = true ∧ SyncedOnSchedule s meeting userId := by
  have well : WellMapped s := by
    refine run_invariant before start_wellMapped ?_
    intro a r b well step
    exact (face_step well step).1
  have listed : Heeds (fun a r => r ∈ sync.runs portraits ∧ NotHeld meeting userId a r) moves := by
    intro m there
    exact ⟨pass.labels ▸ List.mem_map_of_mem there, not_held m there⟩
  have step_kept : ∀ {a r b}, WellMapped a ∧ KeptFor meeting userId s a → FaceStep a r b →
      r ∈ sync.runs portraits ∧ NotHeld meeting userId a r → KeptFor meeting userId a b := by
    intro a r b inv step here
    exact pass_step inv.1 inv.2.world pass.upcoming wanted goes_on grace_set step here.1
  have keeps : ∀ {a r b}, WellMapped a ∧ KeptFor meeting userId s a → FaceStep a r b →
      r ∈ sync.runs portraits ∧ NotHeld meeting userId a r → WellMapped b ∧ KeptFor meeting userId s b := by
    intro a r b inv step here
    exact ⟨(face_step inv.1 step).1, inv.2.trans (step_kept inv step here)⟩
  have start : WellMapped s ∧ KeptFor meeting userId s s := ⟨well, .refl⟩
  obtain ⟨well', kept⟩ := guarded_invariant (fun a => WellMapped a ∧ KeptFor meeting userId s a) pass.run
    start listed keeps
  rw [converged_iff well', kept.scheduled]
  constructor
  · rintro ⟨has, scheduled⟩
    refine ⟨?_, scheduled⟩
    obtain ⟨q, chosen⟩ := (hasSynced_iff well').mp has
    rw [← faceDevice_world kept.world, (kept.scheduled.mpr scheduled q chosen).1]
    rfl
  · rintro ⟨on_device, scheduled⟩
    refine ⟨?_, scheduled⟩
    obtain ⟨u, there, rfl⟩ := List.mem_map.mp (pass.upcoming.mem_iff.mpr wanted)
    let turn : FaceRun := ⟨sync.now, sync.grace, .provisionMeeting u.1
      (u.2.map fun userId => (userId, answersFor portraits userId))⟩
    refine @run_brings _ _ _ _ _ _ (fun a => WellMapped a ∧ KeptFor u.1 userId s a)
      (fun a => HasSynced a u.1.id userId) _ (fun _ r => r = turn) pass.run start listed keeps ?_ ?_ ?_
    · rintro a r b inv step ⟨-, free⟩ rfl
      exact pass_brings inv.1 inv.2.world on_device portrait takes_part step (free rfl)
    · intro a r b inv step here has
      exact (step_kept inv step here).synced has
    · have own : turn ∈ sync.runs portraits := mem_runs.mpr (Or.inl ⟨u, there, rfl⟩)
      rw [← pass.labels] at own
      obtain ⟨m, moved, same⟩ := List.mem_map.mp own
      exact ⟨m, moved, same⟩

instance (s : FaceStore) (meeting : MeetingRow) (deviceId userId : Nat) :
    Decidable (SlotFree s meeting deviceId userId) :=
  inferInstanceAs (Decidable (∀ q ∈ s.mappings.rows, _))

instance decidableNotHeld (meeting : MeetingRow) (userId : Nat) (s : FaceStore) (r : FaceRun) :
    Decidable (NotHeld meeting userId s r) :=
  match r with
  | ⟨_, _, .provisionMeeting row _⟩ =>
    inferInstanceAs (Decidable (row = meeting → ∀ deviceId ∈ faceDevice s meeting, _))
  | ⟨_, _, .deprovisionMeeting _ _⟩ | ⟨_, _, .deprovisionParticipant _ _ _⟩
  | ⟨_, _, .deprovisionEndedMeetings _⟩ | ⟨_, _, .deprovisionByMeetingStatus _⟩
  | ⟨_, _, .reconcile _ _⟩ | ⟨_, _, .elsewhere _ _⟩ => inferInstanceAs (Decidable True)

instance (sync : FaceSync) (meeting : MeetingRow) : Decidable (GoesOnDuring sync meeting) :=
  inferInstanceAs (Decidable (_ ∧ _))

def extendedRow : MeetingRow := ⟨0, some 7, 0, 5400⟩

def extension : FaceRun :=
  ⟨30, 300, .elsewhere (Table.empty.insert ⟨some 7, .scheduled, 0, 5400⟩) [(0, 5)]⟩

def minutePass (row : DeviceUserMapping) : FaceSync where
  now := 60
  lead := 300
  endedAt := 61
  statusAt := 62
  reconciledAt := 63
  grace := 300
  upcoming := [(extendedRow, [5])]
  ended := []
  byStatus := []
  stale := []
  synced := [((0, row), ⟨true, .newest, .done⟩)]

def doorAfter (runs : List FaceRun) : FaceStore := runs.foldl (fun a r => r.next a) doorStore

def passMoves (s : FaceStore) (row : DeviceUserMapping) : List (Move FaceStore FaceRun) :=
  trail (fun a r => r.next a) s ((minutePass row).runs [5])

theorem synced_after_extension : Converged (((minutePass { syncedRow with validTo := 5400 }).runs [5]).foldl
    (fun a r => r.next a) (doorAfter [extension])) extendedRow 5 := by
  have ready : Heeds (fun a r => r.Reads a) (trail (fun a r => r.next a) doorStore [extension]) := by
    decide +kernel
  have reads : Heeds (fun a r => r.Reads a)
      (passMoves (doorAfter [extension]) { syncedRow with validTo := 5400 }) := by
    decide +kernel
  have pass : Synced (doorAfter [extension]) (minutePass { syncedRow with validTo := 5400 }) [5]
      (passMoves (doorAfter [extension]) { syncedRow with validTo := 5400 }) _ :=
    ⟨run_trail reads, trail_labels _ _, by decide +kernel⟩
  exact (sync_converges_iff (run_trail ready) pass (by decide) (by decide +kernel) (by decide +kernel)
    (by decide +kernel) (by decide) (by decide +kernel)).mpr (by decide +kernel)

theorem extension_not_synced : ∃ earlier s moves t, Run FaceStep doorStore earlier s ∧
    Synced s (minutePass syncedRow) [5] moves t ∧
    extendedRow ∈ upcomingMeetings s (minutePass syncedRow).now (minutePass syncedRow).lead ∧
    GoesOnDuring (minutePass syncedRow) extendedRow ∧ 5 ∈ participantsOf s 0 ∧
    Heeds (NotHeld extendedRow 5) moves ∧ (faceDevice s extendedRow).isSome = true ∧
    t.mappings.rows = [(0, syncedRow)] ∧ ¬ Converged t extendedRow 5 := by
  have ready : Heeds (fun a r => r.Reads a)
      (trail (fun a r => r.next a) doorStore [provisionRun allAnswer, extension]) := by
    decide +kernel
  have reads : Heeds (fun a r => r.Reads a)
      (passMoves (doorAfter [provisionRun allAnswer, extension]) syncedRow) := by
    decide +kernel
  have pass : Synced (doorAfter [provisionRun allAnswer, extension]) (minutePass syncedRow) [5]
      (passMoves (doorAfter [provisionRun allAnswer, extension]) syncedRow) _ :=
    ⟨run_trail reads, trail_labels _ _, by decide +kernel⟩
  have rows : syncedRows (((minutePass syncedRow).runs [5]).foldl (fun a r => r.next a)
      (doorAfter [provisionRun allAnswer, extension])) 0 5 = [(0, syncedRow)] := by
    decide +kernel
  refine ⟨_, _, _, _, run_trail ready, pass, by decide +kernel, by decide +kernel, by decide +kernel,
    by decide +kernel, by decide +kernel, by decide +kernel, ?_⟩
  rintro ⟨r, only, -, -, ends⟩
  cases (List.cons.inj (rows.symm.trans only)).1
  exact absurd ends (by decide)

end Pass
end FaceAccess
