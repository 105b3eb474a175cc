import MeetingPlatform.FaceAccess.Mappings
import MeetingPlatform.Lib.Runs

/- Every person on a face device should be in a row that is not deleted, so that the end of the meeting
   removes it. An enrolment that does not learn the uid of the person it has added leaves one behind. -/
namespace FaceAccess
open KeyedTable LabelledRuns

section Events

inductive FaceEvent where
  | provisionMeeting (meeting : MeetingRow) (participants : List (Nat × ProvisionCalls))
  | deprovisionMeeting (meetingId : Nat) (maps : Removals)
  | deprovisionParticipant (meetingId userId : Nat) (maps : Removals)
  | deprovisionEndedMeetings (maps : Removals)
  | deprovisionByMeetingStatus (maps : Removals)
  | reconcile (stale : Removals) (synced : List ((Nat × DeviceUserMapping) × DedupCalls))
  | elsewhere (meetings : Table Meeting) (participants : List (Nat × Nat))

structure FaceRun where
  now : Int
  grace : Int
  event : FaceEvent

def Limited {α : Type} (selected returned : List α) : Prop :=
  returned.Subperm selected ∧ returned.length = min 500 selected.length

instance {α : Type} [DecidableEq α] (selected returned : List α) : Decidable (Limited selected returned) :=
  inferInstanceAs (Decidable (_ ∧ _))

variable (s : FaceStore)

/-- What the queries of a run have returned. The second query of a reconciliation comes after the
    removals of the first. -/
def FaceRun.Reads (r : FaceRun) : Prop :=
  match r.event with
  | .provisionMeeting meeting participants =>
    (participants.map Prod.fst).Perm (participantsOf s meeting.id)
  | .deprovisionMeeting meetingId maps => (maps.map Prod.fst).Perm (meetingMaps s meetingId)
  | .deprovisionParticipant meetingId userId maps =>
    (maps.map Prod.fst).Perm (participantMaps s meetingId userId)
  | .deprovisionEndedMeetings maps => Limited (endedMaps s r.now r.grace) (maps.map Prod.fst)
  | .deprovisionByMeetingStatus maps => Limited (statusMaps s) (maps.map Prod.fst)
  | .reconcile stale synced =>
    Limited (staleMaps s r.now r.grace) (stale.map Prod.fst) ∧
      Limited (dedupMaps (removeAll s r.now stale).1) (synced.map Prod.fst)
  | .elsewhere _ _ => True

def FaceRun.next (r : FaceRun) : FaceStore :=
  match r.event with
  | .provisionMeeting meeting participants => (provisionMeeting s meeting participants).1
  | .deprovisionMeeting _ maps => (removeAll s r.now maps).1
  | .deprovisionParticipant _ _ maps => (removeAll s r.now maps).1
  | .deprovisionEndedMeetings maps => (removeAll s r.now maps).1
  | .deprovisionByMeetingStatus maps => (removeAll s r.now maps).1
  | .reconcile stale synced => (dedupAll (removeAll s r.now stale).1 synced).1
  | .elsewhere meetings participants => { s with
      meetings := meetings
      participants := participants }

def FaceStep (s : FaceStore) (r : FaceRun) (t : FaceStore) : Prop := r.Reads s ∧ t = r.next s

end Events

section Runs
variable {s t : FaceStore} {r : FaceRun}

def answering : RemoveCalls := ⟨true, .done⟩

/-- The end of a meeting, without a failure, leaves none of its persons on a device. -/
def Emptied (s : FaceStore) (meetingId : Nat) : Prop :=
  ∀ (now : Int) (maps : List (Nat × DeviceUserMapping)), maps.Perm (meetingMaps s meetingId) →
    ∀ deviceId, ∀ p ∈ ((removeAll s now (maps.map fun r => (r, answering))).1.faces deviceId).rows,
      p.2.meetingId ≠ meetingId

theorem emptied_of_tracked (well : WellMapped s) (tracked : FacesTracked s) (meetingId : Nat) :
    Emptied s meetingId := by
  intro now maps read deviceId p there own
  have firsts : (maps.map fun r => (r, answering)).map Prod.fst = maps := by
    rw [List.map_map]
    exact List.map_id _
  have current : Current s ((maps.map fun r => (r, answering)).map Prod.fst) := by
    rw [firsts]
    exact current_of_subperm read.subperm
  have answered : ∀ w ∈ maps.map fun r => (r, answering), w.2.connects = true ∧ w.2.delete = .done := by
    intro w chosen
    obtain ⟨r, -, rfl⟩ := List.mem_map.mp chosen
    exact ⟨rfl, rfl⟩
  have before := (removeAll_keeps now well current).2.2 deviceId p there
  obtain ⟨r, row, tracks⟩ := tracked deviceId p before
  have booking : r.2.bookingId = meetingId := by
    have name := tracks.name
    rw [well.code r row] at name
    exact (congrArg PersonName.meetingId name).trans own
  have synced : r.2.syncStatus = .synced := by
    refine (well.synced r row tracks.live).mpr ?_
    rw [tracks.uid]
    rfl
  have chosen : r ∈ maps := by
    refine read.mem_iff.mpr (mem_select.mpr ⟨row, ?_⟩)
    rw [decide_eq_true_eq]
    refine ⟨booking, ?_, tracks.live⟩
    rw [synced]
    exact List.mem_cons_self
  have gone := removeAll_gone now well current answered (List.mem_map.mpr ⟨r, chosen, rfl⟩) tracks.uid
  rw [tracks.device] at gone
  exact gone p there rfl

/-- In a run that provisions, the device answers whenever a person is added. -/
def AddsAnswered (s : FaceStore) (r : FaceRun) : Prop :=
  match r.event with
  | .provisionMeeting meeting participants =>
    ∀ deviceId ∈ meeting.roomId.bind fun roomId => findFaceDevice s roomId,
      AllAnswered meeting deviceId s participants
  | _ => True

theorem face_device_known {roomId deviceId : Nat} (found : findFaceDevice s roomId = some deviceId) :
    (findDeviceById s deviceId).isSome = true := by
  obtain ⟨d, there, rfl⟩ := Option.map_eq_some_iff.mp found
  exact Option.isSome_iff_exists.mpr ⟨d.2, get?_eq_some.mpr (findOne_mem there).1⟩

theorem removals_step (now : Int) {maps : Removals} {selected : Nat × DeviceUserMapping → Bool}
    (well : WellMapped s) (read : (maps.map Prod.fst).Subperm (s.mappings.select selected)) :
    WellMapped (removeAll s now maps).1 ∧ (FacesTracked s → FacesTracked (removeAll s now maps).1) := by
  obtain ⟨well', tracked', -⟩ := removeAll_keeps now well (current_of_subperm read)
  exact ⟨well', tracked'⟩

theorem face_step (well : WellMapped s) (step : FaceStep s r t) :
    WellMapped t ∧ (FacesTracked s → (FacesTracked t ↔ AddsAnswered s r)) := by
  obtain ⟨reads, rfl⟩ := step
  obtain ⟨now, grace, event⟩ := r
  have always : ∀ {t : FaceStore}, WellMapped t ∧ (FacesTracked s → FacesTracked t) →
      WellMapped t ∧ (FacesTracked s → (FacesTracked t ↔ True)) :=
    fun kept => ⟨kept.1, fun tracked => iff_true_intro (kept.2 tracked)⟩
  cases event with
  | provisionMeeting meeting participants =>
    simp only [FaceRun.next, provisionMeeting, AddsAnswered]
    cases found : meeting.roomId.bind fun roomId => findFaceDevice s roomId with
    | none => exact ⟨well, fun tracked => iff_of_true tracked nofun⟩
    | some deviceId =>
      obtain ⟨roomId, -, device⟩ := Option.bind_eq_some_iff.mp found
      have known := face_device_known device
      refine ⟨turns_wellMapped well known, ?_⟩
      intro tracked
      simp only [Option.mem_def, Option.some.injEq, forall_eq']
      exact turns_tracked_iff well known tracked
  | deprovisionMeeting meetingId maps => exact always (removals_step now well (List.Perm.subperm reads))
  | deprovisionParticipant meetingId userId maps =>
    exact always (removals_step now well (List.Perm.subperm reads))
  | deprovisionEndedMeetings maps => exact always (removals_step now well reads.1)
  | deprovisionByMeetingStatus maps => exact always (removals_step now well reads.1)
  | elsewhere meetings participants =>
    refine always ⟨?_, fun tracked => tracked⟩
    exact ⟨well.one, well.slot, well.code, well.deleted, well.synced, well.device, well.issued⟩
  | reconcile stale synced =>
    obtain ⟨well', tracked'⟩ := removals_step now well reads.1.1
    have of_status : ∀ w ∈ synced, w.1.2.syncStatus = .synced := by
      intro w chosen
      have listed := reads.2.1.subset (List.mem_map_of_mem chosen)
      exact (of_decide_eq_true (mem_select.mp listed).2).1
    obtain ⟨well'', tracked''⟩ := dedupAll_keeps well' (current_of_subperm reads.2.1) of_status
    exact always ⟨well'', fun tracked => tracked'' (tracked' tracked)⟩

theorem start_wellMapped {meetings : Table Meeting} {participants : List (Nat × Nat)}
    {iotDevices : Table IotDevice} : WellMapped (FaceStore.start meetings participants iotDevices) where
  one _ there := absurd there List.not_mem_nil
  slot _ there := absurd there List.not_mem_nil
  code _ there := absurd there List.not_mem_nil
  deleted _ there := absurd there List.not_mem_nil
  synced _ there := absurd there List.not_mem_nil
  device _ there := absurd there List.not_mem_nil
  issued _ there := absurd there List.not_mem_nil

/-- From the time before any face is known, over all runs and with any failures. -/
theorem faces_tracked_iff {meetings : Table Meeting} {participants : List (Nat × Nat)}
    {iotDevices : Table IotDevice} {moves : List (Move FaceStore FaceRun)}
    (run : Run FaceStep (FaceStore.start meetings participants iotDevices) moves t) :
    (∀ a ∈ visited (FaceStore.start meetings participants iotDevices) moves,
      FacesTracked a ∧ ∀ meetingId, Emptied a meetingId) ↔ Heeds AddsAnswered moves := by
  have start : FacesTracked (FaceStore.start meetings participants iotDevices) := by
    intro deviceId p there
    cases there
  refine states_safe_iff WellMapped (fun a => FacesTracked a ∧ ∀ meetingId, Emptied a meetingId) run
    start_wellMapped ⟨start, emptied_of_tracked start_wellMapped start⟩ ?_ ?_
  · intro a r b well step
    exact (face_step well step).1
  · intro a r b well safe step
    obtain ⟨well', exact_at⟩ := face_step well step
    rw [← exact_at safe.1]
    exact and_iff_left_of_imp fun tracked => emptied_of_tracked well' tracked

instance decidableReads (s : FaceStore) (r : FaceRun) : Decidable (r.Reads s) :=
  match r with
  | ⟨_, _, .provisionMeeting _ _⟩ => inferInstanceAs (Decidable (List.Perm _ _))
  | ⟨_, _, .deprovisionMeeting _ _⟩ => inferInstanceAs (Decidable (List.Perm _ _))
  | ⟨_, _, .deprovisionParticipant _ _ _⟩ => inferInstanceAs (Decidable (List.Perm _ _))
  | ⟨_, _, .deprovisionEndedMeetings _⟩ => inferInstanceAs (Decidable (Limited _ _))
  | ⟨_, _, .deprovisionByMeetingStatus _⟩ => inferInstanceAs (Decidable (Limited _ _))
  | ⟨_, _, .reconcile _ _⟩ => inferInstanceAs (Decidable (Limited _ _ ∧ Limited _ _))
  | ⟨_, _, .elsewhere _ _⟩ => inferInstanceAs (Decidable True)

instance decidableAddsAnswered (s : FaceStore) (r : FaceRun) : Decidable (AddsAnswered s r) :=
  match r with
  | ⟨_, _, .provisionMeeting meeting participants⟩ => inferInstanceAs (Decidable
      (∀ deviceId ∈ meeting.roomId.bind fun roomId => findFaceDevice s roomId,
        AllAnswered meeting deviceId s participants))
  | ⟨_, _, .deprovisionMeeting _ _⟩ | ⟨_, _, .deprovisionParticipant _ _ _⟩
  | ⟨_, _, .deprovisionEndedMeetings _⟩ | ⟨_, _, .deprovisionByMeetingStatus _⟩
  | ⟨_, _, .reconcile _ _⟩ | ⟨_, _, .elsewhere _ _⟩ => inferInstanceAs (Decidable True)

def doorStore : FaceStore :=
  FaceStore.start (Table.empty.insert ⟨some 7, .scheduled, 0, 3600⟩) [(0, 5)]
    (Table.empty.insert ⟨some 7, "face_server"⟩)

def allAnswer : ProvisionCalls := ⟨true, true, true, .done, .newest, ""⟩

def provisionRun (calls : ProvisionCalls) : FaceRun := ⟨0, 300, .provisionMeeting ⟨0, some 7, 0, 3600⟩ [(5, calls)]⟩

def syncedRow : DeviceUserMapping where
  deviceId := 0
  userId := 5
  devicePersonId := some 0
  devicePersonCode := ⟨5, 0⟩
  faceRegistered := true
  syncStatus := .synced
  lastSyncError := none
  bookingId := 0
  validFrom := 0
  validTo := 3600
  source := none
  deletedAt := none

def enrolledAndRemoved : List FaceRun :=
  [provisionRun allAnswer, ⟨10, 300, .deprovisionMeeting 0 [((0, syncedRow), ⟨true, .lost⟩)]⟩,
    ⟨20, 300, .deprovisionMeeting 0 [((0, syncedRow), answering)]⟩]

theorem faces_tracked_when_answered :
    (∀ a ∈ visited doorStore (trail (fun a r => r.next a) doorStore enrolledAndRemoved),
      FacesTracked a ∧ ∀ meetingId, Emptied a meetingId) ∧
      ((enrolledAndRemoved.foldl (fun a r => r.next a) doorStore).faces 0).rows = [] := by
  have ready : Heeds (fun a r => r.Reads a) (trail (fun a r => r.next a) doorStore enrolledAndRemoved) := by
    decide +kernel
  have heeds : Heeds AddsAnswered (trail (fun a r => r.next a) doorStore enrolledAndRemoved) := by
    decide +kernel
  exact ⟨(faces_tracked_iff (run_trail ready)).mpr heeds, by decide +kernel⟩

def enrolledTwice : List FaceRun := [provisionRun { allAnswer with find := .nothing }, provisionRun allAnswer]

theorem person_left_behind : ∃ moves t, Run FaceStep doorStore moves t ∧
    (t.faces 0).rows = [(0, ⟨5, 0⟩), (1, ⟨5, 0⟩)] ∧
    t.mappings.rows = [(0, { syncedRow with devicePersonId := some 1 })] ∧
    ¬ ∀ a ∈ visited doorStore moves, FacesTracked a ∧ ∀ meetingId, Emptied a meetingId := by
  have ready : Heeds (fun a r => r.Reads a) (trail (fun a r => r.next a) doorStore enrolledTwice) := by
    decide +kernel
  have run := run_trail ready
  refine ⟨_, _, run, by decide +kernel, by decide +kernel, ?_⟩
  intro all
  have leaked : Leaked (enrolledTwice.foldl (fun a r => r.next a) doorStore) 0 0 := by
    unfold Leaked
    decide +kernel
  exact leaked_untracked leaked (all _ (end_visited run)).1

end Runs
end FaceAccess
