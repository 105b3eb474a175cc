import MeetingPlatform.FaceAccess.TrackedFaces
import MeetingPlatform.Lib.CallPool

/- A participant who is removed from a meeting should lose the access at its door at once. The removal
   deletes the rows that are there then, while a provisioning run acts on participants it has read
   before. -/
namespace FaceAccess
open KeyedTable LabelledRuns CallPools
open MeetingBooking (MeetingStatus)

section Synced
variable {s t : FaceStore} {meeting : MeetingRow} {deviceId userId : Nat} {calls : ProvisionCalls}
  {now : Int} {maps : Removals} {meetingId participantUserId : Nat}

/-- The user's face opens a door for the meeting. -/
def HasSynced (s : FaceStore) (meetingId userId : Nat) : Prop :=
  ∃ r ∈ s.mappings.rows, r.2.userId = userId ∧ r.2.bookingId = meetingId ∧ r.2.live = true ∧
    r.2.syncStatus = .synced

instance (s : FaceStore) (meetingId userId : Nat) : Decidable (HasSynced s meetingId userId) :=
  inferInstanceAs (Decidable (∃ r ∈ s.mappings.rows, _))

theorem upsert_hasSynced (well : WellMapped s) (free : SlotOpen s meeting deviceId userId)
    {uid : Option Nat} {status : SyncStatus} {error : Option String} :
    HasSynced (upsertMapping s (slotParams meeting deviceId userId uid status error)) meetingId
      participantUserId ↔ HasSynced s meetingId participantUserId ∨
        userId = participantUserId ∧ meeting.id = meetingId ∧ status = .synced := by
  constructor
  · rintro ⟨r, row, user, booking, live, synced⟩
    rcases (mem_upsert well).mp row with ⟨old, -⟩ | rfl
    · exact Or.inl ⟨r, old, user, booking, live, synced⟩
    · exact Or.inr ⟨user, booking, synced⟩
  · rintro (⟨r, row, user, booking, live, synced⟩ | ⟨user, booking, synced⟩)
    · refine ⟨r, (mem_upsert well).mpr (Or.inl ⟨row, Bool.eq_false_of_not_eq_true ?_⟩), user, booking,
        live, synced⟩
      intro same
      obtain ⟨own, device, -⟩ := sameSlot_iff.mp same
      exact (free r row live device own).2 synced
    · exact ⟨_, (mem_upsert well).mpr (Or.inr rfl), user, booking, rfl, synced⟩

theorem turn_hasSynced (well : WellMapped s) (effect : TurnEffect s meeting deviceId userId calls t) :
    HasSynced t meetingId participantUserId ↔ HasSynced s meetingId participantUserId ∨
      userId = participantUserId ∧ meeting.id = meetingId ∧
        AddsPerson s meeting deviceId userId calls ∧ Answered calls := by
  cases effect with
  | idle quiet => exact (or_iff_left fun taken => quiet taken.2.2.1).symm
  | noted quiet free unsynced kept =>
    rw [upsert_hasSynced well free, or_iff_left fun taken => unsynced taken.2.2]
    exact (or_iff_left fun taken => quiet taken.2.2.1).symm
  | added adds answered free =>
    have same : HasSynced (addPerson s deviceId ⟨userId, meeting.id⟩) meetingId participantUserId =
        HasSynced s meetingId participantUserId := rfl
    rw [upsert_hasSynced (addPerson_wellMapped well) free, same]
    exact or_congr_right (and_congr_right fun _ => and_congr_right fun _ =>
      iff_of_true rfl ⟨adds, answered⟩)
  | lost adds unanswered free =>
    have same : HasSynced (addPerson s deviceId ⟨userId, meeting.id⟩) meetingId participantUserId =
        HasSynced s meetingId participantUserId := rfl
    rw [upsert_hasSynced (addPerson_wellMapped well) free, same, or_iff_left (nofun : ¬ _),
      or_iff_left fun taken => unanswered taken.2.2.2]

theorem remove_live {id : Nat} {mp : DeviceUserMapping} {calls : RemoveCalls}
    (effect : RemoveEffect s now id mp calls t) {r : Nat × DeviceUserMapping} (there : r ∈ t.mappings.rows)
    (live : r.2.live = true) : r ∈ s.mappings.rows := by
  have passed : r ∈ (softDelete s id now).mappings.rows → r ∈ s.mappings.rows := by
    intro after
    obtain ⟨q, row, rfl⟩ := mem_updateWhere.mp after
    unfold touch at live ⊢
    split
    · rw [if_pos ‹_›] at live
      cases live
    · exact row
  cases effect with
  | kept failed => exact there
  | unlinked person => exact passed there
  | removed person => exact passed there
  | halfway failed => exact there

theorem removeAll_live (well : WellMapped s) (current : Current s (maps.map Prod.fst))
    {r : Nat × DeviceUserMapping} (there : r ∈ (removeAll s now maps).1.mappings.rows)
    (live : r.2.live = true) : r ∈ s.mappings.rows := by
  refine removeAll_invariant (P := fun a => r ∈ a.mappings.rows → r ∈ s.mappings.rows) well current
    (fun row => row) ?_ there
  intro w _ a t _ _ before effect after
  exact before (remove_live effect after live)

theorem removeAll_others (well : WellMapped s) (current : Current s (maps.map Prod.fst))
    {r : Nat × DeviceUserMapping} (row : r ∈ s.mappings.rows) (other : r ∉ maps.map Prod.fst) :
    r ∈ (removeAll s now maps).1.mappings.rows := by
  refine removeAll_invariant (P := fun a => r ∈ a.mappings.rows) well current row ?_
  intro w listed a t _ chosen row effect
  refine remove_others effect row ?_
  intro same
  have is_chosen : r = w.1 := Prod.ext same
    (key_unique a.mappings (same ▸ row : (w.1.1, r.2) ∈ a.mappings.rows) chosen)
  exact other (is_chosen ▸ List.mem_map_of_mem listed)

theorem remove_deleted {id : Nat} {mp : DeviceUserMapping} {calls : RemoveCalls}
    (effect : RemoveEffect s now id mp calls t) (answered : calls.connects = true ∧ calls.delete = .done)
    {r : Nat × DeviceUserMapping} (there : r ∈ t.mappings.rows) (same : r.1 = id) : r.2.live ≠ true := by
  have gone : r ∈ (softDelete s id now).mappings.rows → r.2.live ≠ true := by
    intro after live
    obtain ⟨q, -, rfl⟩ := mem_updateWhere.mp after
    rw [touch_key] at same
    rw [touch_of_true _ (decide_eq_true same)] at live
    cases live
  cases effect with
  | kept failed => exact absurd failed (not_failed answered)
  | halfway failed => exact absurd failed (not_failed answered)
  | unlinked person => exact gone there
  | removed person => exact gone there

theorem removeAll_deleted (well : WellMapped s) (current : Current s (maps.map Prod.fst))
    (answered : ∀ w ∈ maps, w.2.connects = true ∧ w.2.delete = .done) {r : Nat × DeviceUserMapping}
    (there : r ∈ (removeAll s now maps).1.mappings.rows) (live : r.2.live = true) : r ∉ maps.map Prod.fst := by
  intro listed
  obtain ⟨w, chosen, rfl⟩ := List.mem_map.mp listed
  refine removeAll_brings (P := fun a => w.1 ∉ a.mappings.rows) well current chosen ?_ ?_ there
  · intro a t effect after
    exact remove_deleted effect (answered w chosen) after rfl live
  · intro v _ a t gone effect after
    exact gone (remove_live effect after live)

end Synced

section Calls

/-- The removals that have gone as far as the rows of the user are recorded. -/
structure DoorState extends FaceStore where
  cleaned : List (Nat × Nat)

inductive ProvisionStage where
  | reading
  | turns (deviceId : Nat) (participants : List Nat)
  deriving DecidableEq, Repr

inductive RemoveStage where
  | starting | removing | deprovisioning
  deriving DecidableEq, Repr

/-- `portraits` has the users whose portrait can be loaded; `permitted` is what the checks of a removal
    on the caller, the target and its agenda items come to. -/
inductive DoorCall where
  | provision (meeting : MeetingRow) (portraits : List Nat) (stage : ProvisionStage)
  | remove (meetingId participantUserId : Nat) (permitted : Bool) (stage : RemoveStage)
  deriving DecidableEq, Repr

inductive DoorRequest where
  | provisionMeeting (meeting : MeetingRow) (portraits : List Nat)
  | removeParticipant (meetingId participantUserId : Nat) (permitted : Bool)

def DoorRequest.enter : DoorRequest → DoorCall
  | .provisionMeeting meeting portraits => .provision meeting portraits .reading
  | .removeParticipant meetingId participantUserId permitted =>
    .remove meetingId participantUserId permitted .starting

def answersFor (portraits : List Nat) (userId : Nat) : ProvisionCalls where
  portrait := userId ∈ portraits
  connects := true
  upload := true
  add := .done
  find := .newest
  message := ""

def deprovisionParticipant (s : FaceStore) (now : Int) (meetingId userId : Nat) : FaceStore :=
  (removeAll s now ((participantMaps s meetingId userId).map fun r => (r, answering))).1

def DoorState.setFaceStore (s : DoorState) (t : FaceStore) : DoorState := { s with toFaceStore := t }

def removeParticipant (s : DoorState) (now meetingId participantUserId : Nat) (permitted : Bool) :
    RemoveStage → DoorState × Option RemoveStage
  | .starting =>
    let scheduled := (s.meetings.get? meetingId).any fun m => m.status = .scheduled
    (s, if permitted ∧ scheduled ∧ participantUserId ∈ participantsOf s.toFaceStore meetingId then
      some .removing else none)
  | .removing =>
    if participantUserId ∈ participantsOf s.toFaceStore meetingId then
      (s.setFaceStore { s.toFaceStore with
        participants := s.participants.filter fun p => p ≠ (meetingId, participantUserId) },
        some .deprovisioning)
    else (s, none)
  | .deprovisioning =>
    ({ toFaceStore := deprovisionParticipant s.toFaceStore now meetingId participantUserId
       cleaned := s.cleaned ++ [(meetingId, participantUserId)] }, none)

/-- The participants are read once, and have their turns one by one. -/
def provisionCall (s : DoorState) (meeting : MeetingRow) (portraits : List Nat) :
    ProvisionStage → DoorState × Option ProvisionStage
  | .reading =>
    (s, (meeting.roomId.bind fun roomId => findFaceDevice s.toFaceStore roomId).map fun deviceId =>
      .turns deviceId (participantsOf s.toFaceStore meeting.id))
  | .turns _ [] => (s, none)
  | .turns deviceId (userId :: rest) =>
    (s.setFaceStore (provisionTurn s.toFaceStore meeting deviceId userId (answersFor portraits userId)).1,
      some (.turns deviceId rest))

def DoorCall.access (now : Nat) (s : DoorState) : DoorCall → DoorState × Option DoorCall
  | .provision meeting portraits stage =>
    let next := provisionCall s meeting portraits stage
    (next.1, next.2.map (.provision meeting portraits))
  | .remove meetingId participantUserId permitted stage =>
    let next := removeParticipant s now meetingId participantUserId permitted stage
    (next.1, next.2.map (.remove meetingId participantUserId permitted))

def doorCalls : Service DoorState DoorCall DoorRequest where
  clock _ := 0
  admits _ _ := True
  enter _ r := r.enter
  act now c s := c.access now s

instance (s : DoorState) (r : DoorRequest) : Decidable (doorCalls.admits s r) :=
  inferInstanceAs (Decidable True)

end Calls
section Order
variable {s s' : DoorState} {c d : DoorCall} {now : Nat}

/-- Users whose rows have been removed do not take part any more. -/
structure DoorValid (s : DoorState) : Prop where
  well : WellMapped s.toFaceStore
  out : ∀ k ∈ s.cleaned, k.2 ∉ participantsOf s.toFaceStore k.1

def DoorCall.cleans : DoorCall → Option (Nat × Nat)
  | .remove meetingId participantUserId _ .deprovisioning => some (meetingId, participantUserId)
  | _ => none

def DoorFits (s : DoorState) : DoorCall → Prop
  | .provision _ _ (.turns deviceId _) => (findDeviceById s.toFaceStore deviceId).isSome = true
  | .remove meetingId participantUserId _ .deprovisioning =>
    participantUserId ∉ participantsOf s.toFaceStore meetingId ∧ (meetingId, participantUserId) ∉ s.cleaned
  | _ => True

theorem cleans_fits {k : Nat × Nat} (fits : DoorFits s c) (cleans : c.cleans = some k) :
    k.2 ∉ participantsOf s.toFaceStore k.1 ∧ k ∉ s.cleaned := by
  cases c with
  | provision meeting portraits stage => cases cleans
  | remove meetingId participantUserId permitted stage =>
    cases stage with
    | starting => cases cleans
    | removing => cases cleans
    | deprovisioning =>
      cases cleans
      exact fits

def DoorApart (c d : DoorCall) : Prop := ∀ k, c.cleans = some k → d.cleans ≠ some k

theorem mem_participantsOf {t : FaceStore} {meetingId userId : Nat} :
    userId ∈ participantsOf t meetingId ↔ (meetingId, userId) ∈ t.participants := by
  rw [participantsOf, List.mem_filterMap]
  constructor
  · rintro ⟨p, there, is_user⟩
    split at is_user
    · rename_i same
      cases is_user
      cases same
      exact there
    · cases is_user
  · intro there
    exact ⟨_, there, if_pos rfl⟩

theorem cleaned_maps (s : FaceStore) (meetingId userId : Nat) :
    ((participantMaps s meetingId userId).map fun r => (r, answering)).map Prod.fst =
      participantMaps s meetingId userId := by
  rw [List.map_map]
  exact List.map_id _

theorem cleaned_current (s : FaceStore) (meetingId userId : Nat) :
    Current s (((participantMaps s meetingId userId).map fun r => (r, answering)).map Prod.fst) := by
  rw [cleaned_maps]
  exact current_of_subperm (List.Perm.refl _).subperm

/-- What the accesses leave alone, and what they add. -/
structure DoorFrame (c : DoorCall) (s s' : DoorState) : Prop where
  meetings : s'.meetings = s.meetings
  devices : s'.iotDevices = s.iotDevices
  participants : ∀ p ∈ s'.participants, p ∈ s.participants
  cleaned : ∀ k, k ∈ s'.cleaned ↔ k ∈ s.cleaned ∨ c.cleans = some k

theorem frame_same (quiet : c.cleans = none) : DoorFrame c s s where
  meetings := rfl
  devices := rfl
  participants _ there := there
  cleaned k := (or_iff_left (by rw [quiet]; exact nofun)).symm

theorem frame_world {t : FaceStore} (quiet : c.cleans = none) (world : SameWorld s.toFaceStore t) :
    DoorFrame c s (s.setFaceStore t) where
  meetings := world.meetings
  devices := world.devices
  participants p there := world.participants ▸ there
  cleaned k := (or_iff_left (by rw [quiet]; exact nofun)).symm

theorem access_frame (valid : DoorValid s) (fits : DoorFits s c) : DoorFrame c s (c.access now s).1 := by
  cases c with
  | provision meeting portraits stage =>
    cases stage with
    | reading => exact frame_same rfl
    | turns deviceId participants =>
      cases participants with
      | nil => exact frame_same rfl
      | cons userId rest =>
        have effect : TurnEffect s.toFaceStore meeting deviceId userId (answersFor portraits userId) _ :=
          turn_effect valid.well
        exact frame_world rfl (turn_world effect)
  | remove meetingId participantUserId permitted stage =>
    cases stage with
    | starting => exact frame_same rfl
    | removing =>
      simp only [DoorCall.access, removeParticipant]
      split
      · constructor
        · rfl
        · rfl
        · intro p there
          exact (List.mem_filter.mp there).1
        · exact fun k => (or_iff_left nofun).symm
      · exact frame_same rfl
    | deprovisioning =>
      have world := removeAll_world now valid.well (cleaned_current s.toFaceStore meetingId participantUserId)
      constructor
      · exact world.meetings
      · exact world.devices
      · intro p there
        exact world.participants ▸ there
      · intro k
        change k ∈ s.cleaned ++ [(meetingId, participantUserId)] ↔ _
        rw [List.mem_append, List.mem_singleton, DoorCall.cleans, Option.some.injEq, eq_comm]

theorem access_well (valid : DoorValid s) (fits : DoorFits s c) :
    WellMapped (c.access now s).1.toFaceStore := by
  cases c with
  | provision meeting portraits stage =>
    cases stage with
    | reading => exact valid.well
    | turns deviceId participants =>
      cases participants with
      | nil => exact valid.well
      | cons userId rest => exact turn_wellMapped valid.well fits (turn_effect valid.well)
  | remove meetingId participantUserId permitted stage =>
    cases stage with
    | starting => exact valid.well
    | removing =>
      simp only [DoorCall.access, removeParticipant]
      split
      · obtain ⟨one, slot, code, deleted, synced, device, issued⟩ := valid.well
        exact ⟨one, slot, code, deleted, synced, device, issued⟩
      · exact valid.well
    | deprovisioning =>
      exact (removeAll_keeps now valid.well (cleaned_current s.toFaceStore meetingId participantUserId)).1

theorem DoorFrame.out (frame : DoorFrame c s s') {meetingId userId : Nat}
    (out : userId ∉ participantsOf s.toFaceStore meetingId) : userId ∉ participantsOf s'.toFaceStore meetingId := by
  rw [mem_participantsOf] at out ⊢
  exact fun there => out (frame.participants _ there)

theorem access_valid (valid : DoorValid s) (fits : DoorFits s c) : DoorValid (c.access now s).1 where
  well := access_well valid fits
  out := by
    have frame : DoorFrame c s (c.access now s).1 := access_frame valid fits
    intro k there
    rcases (frame.cleaned k).mp there with old | cleans
    · exact frame.out (valid.out k old)
    · exact frame.out (cleans_fits fits cleans).1

theorem DoorFrame.fits (frame : DoorFrame c s s') (fits : DoorFits s d) (apart : DoorApart c d) :
    DoorFits s' d := by
  cases d with
  | provision meeting portraits stage =>
    cases stage with
    | reading => trivial
    | turns deviceId participants =>
      change (s'.iotDevices.get? deviceId).isSome = true
      rw [frame.devices]
      exact fits
  | remove meetingId participantUserId permitted stage =>
    cases stage with
    | starting => trivial
    | removing => trivial
    | deprovisioning =>
      refine ⟨frame.out fits.1, ?_⟩
      intro there
      rcases (frame.cleaned _).mp there with old | cleans
      · exact fits.2 old
      · exact apart _ cleans rfl

theorem next_door {c' : DoorCall} (valid : DoorValid s) (fits : DoorFits s c)
    (goes_on : (c.access now s).2 = some c') : DoorFits (c.access now s).1 c' ∧
      ∀ k, c'.cleans = some k → k.2 ∈ participantsOf s.toFaceStore k.1 := by
  cases c with
  | provision meeting portraits stage =>
    obtain ⟨stage', next, rfl⟩ := Option.map_eq_some_iff.mp goes_on
    refine ⟨?_, nofun⟩
    cases stage with
    | reading =>
      obtain ⟨deviceId, found, rfl⟩ := Option.map_eq_some_iff.mp next
      obtain ⟨roomId, -, device⟩ := Option.bind_eq_some_iff.mp found
      exact face_device_known device
    | turns deviceId participants =>
      cases participants with
      | nil => cases next
      | cons userId rest =>
        cases next
        have effect : TurnEffect s.toFaceStore meeting deviceId userId (answersFor portraits userId) _ :=
          turn_effect valid.well
        exact turn_known fits effect
  | remove meetingId participantUserId permitted stage =>
    obtain ⟨stage', next, rfl⟩ := Option.map_eq_some_iff.mp goes_on
    cases stage with
    | starting =>
      simp only [removeParticipant] at next
      split at next
      · cases next
        exact ⟨trivial, nofun⟩
      · cases next
    | removing =>
      simp only [DoorCall.access, removeParticipant] at next ⊢
      split at next
      · rename_i takes_part
        cases next
        rw [if_pos takes_part]
        refine ⟨⟨?_, fun there => valid.out _ there takes_part⟩, ?_⟩
        · intro there
          have kept := List.mem_filter.mp (mem_participantsOf.mp there)
          exact of_decide_eq_true kept.2 rfl
        · rintro k ⟨⟩
          exact takes_part
      · cases next
    | deprovisioning => cases next

theorem door_keep {ok : DoorState → Nat → DoorCall → Prop} :
    Keeps doorCalls DoorValid DoorFits DoorApart ok where
  symm c d apart k holds held := apart k held holds
  enters s r _ _ := by
    cases r with
    | provisionMeeting meeting portraits => trivial
    | removeParticipant meetingId participantUserId permitted => trivial
  alone s r d _ _ _ := by
    cases r with
    | provisionMeeting meeting portraits => exact nofun
    | removeParticipant meetingId participantUserId permitted => exact nofun
  inv _ _ _ valid fits _ _ := access_valid valid fits
  next _ _ _ _ valid fits _ _ goes_on := (next_door valid fits goes_on).1
  others _ _ _ _ valid fits other apart _ _ := (access_frame valid fits).fits other apart
  still_apart s now c c' d valid fits other _ _ _ goes_on := by
    intro k cleans held
    exact (cleans_fits other held).1 ((next_door valid fits goes_on).2 k cleans)

end Order

section StaysOut
variable {s : DoorState} {c : DoorCall} {now meetingId userId : Nat}

/-- The next access is a turn of the user that adds a person. -/
def Enrols (meetingId userId : Nat) (s : DoorState) : DoorCall → Prop
  | .provision meeting portraits (.turns deviceId (turn :: _)) => turn = userId ∧ meeting.id = meetingId ∧
    AddsPerson s.toFaceStore meeting deviceId turn (answersFor portraits turn)
  | _ => False

/-- Once the rows have been removed, no turn of the user adds a person. -/
def StaysOut (meetingId userId : Nat) (s : DoorState) (_ : Nat) (c : DoorCall) : Prop :=
  (meetingId, userId) ∈ s.cleaned → ¬ Enrols meetingId userId s c

def LocksOut (meetingId userId : Nat) (s : DoorState) : Prop :=
  (meetingId, userId) ∈ s.cleaned → ¬ HasSynced s.toFaceStore meetingId userId

theorem deprovision_hasSynced (well : WellMapped s.toFaceStore) (other : Nat × Nat) :
    HasSynced (deprovisionParticipant s.toFaceStore now other.1 other.2) meetingId userId ↔
      HasSynced s.toFaceStore meetingId userId ∧ other ≠ (meetingId, userId) := by
  have current := cleaned_current s.toFaceStore other.1 other.2
  have listed : ∀ r, r ∈ ((participantMaps s.toFaceStore other.1 other.2).map fun r => (r, answering)).map
      Prod.fst ↔ r ∈ participantMaps s.toFaceStore other.1 other.2 := by
    intro r
    rw [cleaned_maps]
  constructor
  · rintro ⟨r, there, user, booking, live, synced⟩
    have row := removeAll_live well current there live
    refine ⟨⟨r, row, user, booking, live, synced⟩, ?_⟩
    rintro rfl
    refine removeAll_deleted well current ?_ there live ((listed r).mpr (mem_select.mpr ⟨row, ?_⟩))
    · intro w chosen
      obtain ⟨q, -, rfl⟩ := List.mem_map.mp chosen
      exact ⟨rfl, rfl⟩
    · rw [decide_eq_true_eq, synced]
      exact ⟨booking, user, List.mem_cons_self, live⟩
  · rintro ⟨⟨r, row, user, booking, live, synced⟩, apart⟩
    refine ⟨r, removeAll_others well current row ?_, user, booking, live, synced⟩
    intro chosen
    have of_other := of_decide_eq_true (mem_select.mp ((listed r).mp chosen)).2
    exact apart (Prod.ext (of_other.1.symm.trans booking) (of_other.2.1.symm.trans user))

theorem access_hasSynced (valid : DoorValid s) : HasSynced (c.access now s).1.toFaceStore meetingId userId ↔
    HasSynced s.toFaceStore meetingId userId ∧ c.cleans ≠ some (meetingId, userId) ∨
      Enrols meetingId userId s c := by
  have same : ∀ {p : Prop}, (p ↔ p ∧ (none : Option (Nat × Nat)) ≠ some (meetingId, userId) ∨ False) := by
    simp
  cases c with
  | provision meeting portraits stage =>
    cases stage with
    | reading => exact same
    | turns deviceId participants =>
      cases participants with
      | nil => exact same
      | cons turn rest =>
        have effect : TurnEffect s.toFaceStore meeting deviceId turn (answersFor portraits turn) _ :=
          turn_effect valid.well
        refine (turn_hasSynced valid.well effect).trans (or_congr ?_ ?_)
        · exact (and_iff_left nofun).symm
        · exact and_congr_right fun _ => and_congr_right fun _ => and_iff_left ⟨rfl, rfl⟩
  | remove removed participantUserId permitted stage =>
    cases stage with
    | starting => exact same
    | removing =>
      simp only [DoorCall.access, removeParticipant]
      split
      · exact same
      · exact same
    | deprovisioning =>
      refine (deprovision_hasSynced valid.well (removed, participantUserId)).trans ?_
      rw [DoorCall.cleans, ne_eq, ne_eq, Option.some.injEq]
      exact (or_iff_left fun never : False => never).symm

theorem access_locks_out_iff (valid : DoorValid s) (fits : DoorFits s c)
    (safe : LocksOut meetingId userId s) :
    LocksOut meetingId userId (c.access now s).1 ↔ StaysOut meetingId userId s now c := by
  have frame : DoorFrame c s (c.access now s).1 := access_frame valid fits
  rw [LocksOut, StaysOut, frame.cleaned, access_hasSynced valid]
  constructor
  · intro out cleaned enrols
    exact out (Or.inl cleaned) (Or.inr enrols)
  · rintro stays_out (cleaned | cleans) (⟨before, others⟩ | enrols)
    · exact safe cleaned before
    · exact stays_out cleaned enrols
    · exact others cleans
    · cases c with
      | provision meeting portraits stage => cases cleans
      | remove removed participantUserId permitted stage => exact enrols

theorem access_keeps_access (valid : DoorValid s) (fits : DoorFits s c)
    (has : ¬ LocksOut meetingId userId s) : ¬ LocksOut meetingId userId (c.access now s).1 := by
  have frame : DoorFrame c s (c.access now s).1 := access_frame valid fits
  rw [LocksOut, frame.cleaned, access_hasSynced valid]
  rw [LocksOut, Classical.not_imp, Classical.not_not] at has
  intro out
  refine out (Or.inl has.1) (Or.inl ⟨has.2, ?_⟩)
  intro cleans
  exact (cleans_fits fits cleans).2 has.1

theorem locked_out_iff (meetingId userId : Nat) {calls : List (Move (Pool DoorState DoorCall) (Turn DoorRequest))}
    {p : Pool DoorState DoorCall} (well : WellMapped s.toFaceStore) (none_yet : s.cleaned = [])
    (run : Run (Step doorCalls) (Pool.idle s) calls p) :
    LocksOut meetingId userId p.shared ↔ Heeds (Allows (StaysOut meetingId userId)) calls := by
  refine shared_end_safe_iff (LocksOut meetingId userId) door_keep ?_ ?_ ⟨well, ?_⟩ ?_ run
  · intro s now c valid fits _ safe
    exact access_locks_out_iff valid fits safe
  · intro s now c valid fits _ has
    exact access_keeps_access valid fits has
  · rw [none_yet]
    exact nofun
  · rw [LocksOut, none_yet]
    exact nofun

end StaysOut

section Later
variable {s t : FaceStore} {r : FaceRun} {meetingId userId : Nat}

def FaceEvent.syncs : FaceEvent → Bool
  | .provisionMeeting _ _ | .deprovisionEndedMeetings _ | .deprovisionByMeetingStatus _ => true
  | _ => false

/-- A run of the minute, while the meeting goes on. -/
def SyncsDuring (meetingId : Nat) (s : FaceStore) (r : FaceRun) : Prop :=
  r.event.syncs = true ∧ 0 ≤ r.grace ∧ ∃ me ∈ s.meetings.get? meetingId,
    me.status ≠ .completed ∧ me.status ≠ .cancelled ∧ r.now < me.endTime

instance (meetingId : Nat) (s : FaceStore) (r : FaceRun) : Decidable (SyncsDuring meetingId s r) :=
  inferInstanceAs (Decidable (_ ∧ _ ∧ ∃ me ∈ s.meetings.get? meetingId, _))

theorem removals_hasSynced {now : Int} {maps : Removals} {selected : Nat × DeviceUserMapping → Bool}
    (well : WellMapped s) (read : (maps.map Prod.fst).Subperm (s.mappings.select selected))
    (spared : ∀ q, q.2.bookingId = meetingId → selected q ≠ true) :
    HasSynced (removeAll s now maps).1 meetingId userId ↔ HasSynced s meetingId userId := by
  have current := current_of_subperm read
  constructor
  · rintro ⟨q, there, user, booking, live, synced⟩
    exact ⟨q, removeAll_live well current there live, user, booking, live, synced⟩
  · rintro ⟨q, row, user, booking, live, synced⟩
    refine ⟨q, removeAll_others well current row ?_, user, booking, live, synced⟩
    intro chosen
    exact spared q booking (mem_select.mp (read.subset chosen)).2

theorem turns_hasSynced {meeting : MeetingRow} {deviceId : Nat} {participants : List (Nat × ProvisionCalls)}
    (well : WellMapped s) (known : (findDeviceById s deviceId).isSome = true)
    (others : meeting.id = meetingId → userId ∉ participants.map Prod.fst) :
    HasSynced (provisionTurns meeting deviceId s participants).1 meetingId userId ↔
      HasSynced s meetingId userId := by
  refine turns_invariant (P := fun a => HasSynced a meetingId userId ↔ HasSynced s meetingId userId) well
    known Iff.rfl ?_
  intro p there a t well _ same effect
  rw [turn_hasSynced well effect, ← same]
  refine or_iff_left ?_
  rintro ⟨user, booking, -⟩
  exact others booking (List.mem_map.mpr ⟨p, there, user⟩)

theorem sync_hasSynced (well : WellMapped s) (out : userId ∉ participantsOf s meetingId)
    (step : FaceStep s r t) (syncs : SyncsDuring meetingId s r) :
    (HasSynced t meetingId userId ↔ HasSynced s meetingId userId) ∧ SameWorld s t := by
  obtain ⟨reads, rfl⟩ := step
  obtain ⟨now, grace, event⟩ := r
  obtain ⟨kind, grace_set, me, found, open_status, not_cancelled, running⟩ := syncs
  have of_meeting : ∀ q : Nat × DeviceUserMapping, q.2.bookingId = meetingId → meetingOf s q.2 = some me := by
    intro q booking
    rw [meetingOf, booking]
    exact found
  cases event with
  | provisionMeeting meeting participants =>
    simp only [FaceRun.next, provisionMeeting]
    cases device : meeting.roomId.bind fun roomId => findFaceDevice s roomId with
    | none => exact ⟨Iff.rfl, rfl, rfl, rfl⟩
    | some deviceId =>
      obtain ⟨roomId, -, there⟩ := Option.bind_eq_some_iff.mp device
      have known := face_device_known there
      refine ⟨turns_hasSynced well known ?_, turns_world well known⟩
      rintro rfl listed
      exact out (reads.mem_iff.mp listed)
  | deprovisionEndedMeetings maps =>
    refine ⟨removals_hasSynced well reads.1 ?_, removeAll_world now well (current_of_subperm reads.1)⟩
    intro q booking selected
    rw [decide_eq_true_eq] at selected
    obtain ⟨-, -, -, ended⟩ := selected
    rw [endedBefore, of_meeting q booking, Option.any_some, decide_eq_true_eq] at ended
    change 0 ≤ grace at grace_set
    change now < me.endTime at running
    change me.endTime ≤ now - grace at ended
    omega
  | deprovisionByMeetingStatus maps =>
    refine ⟨removals_hasSynced well reads.1 ?_, removeAll_world now well (current_of_subperm reads.1)⟩
    intro q booking selected
    rw [decide_eq_true_eq] at selected
    obtain ⟨-, -, -, ended⟩ := selected
    rw [of_meeting q booking, Option.any_some, decide_eq_true_eq] at ended
    exact ended.elim open_status not_cancelled
  | deprovisionMeeting meetingId maps => cases kind
  | deprovisionParticipant meetingId userId maps => cases kind
  | reconcile stale synced => cases kind
  | elsewhere meetings participants => cases kind

theorem syncs_hasSynced {more : List (Move FaceStore FaceRun)} (well : WellMapped s)
    (out : userId ∉ participantsOf s meetingId) (later : Run FaceStep s more t)
    (syncs : Heeds (SyncsDuring meetingId) more) :
    HasSynced t meetingId userId ↔ HasSynced s meetingId userId := by
  have kept := guarded_invariant (fun a => (HasSynced a meetingId userId ↔ HasSynced s meetingId userId) ∧
    WellMapped a ∧ userId ∉ participantsOf a meetingId) later ⟨Iff.rfl, well, out⟩ syncs (by
      rintro a r b ⟨same, well, out⟩ step syncs
      obtain ⟨here, world⟩ := sync_hasSynced well out step syncs
      refine ⟨here.trans same, (face_step well step).1, ?_⟩
      rw [participantsOf, world.participants]
      exact out)
  exact kept.1

end Later

section Runs
variable {meetings : Table Meeting} {participants : List (Nat × Nat)} {iotDevices : Table IotDevice}
  {earlier more : List (Move FaceStore FaceRun)} {s t : FaceStore} {p : Pool DoorState DoorCall}
  {calls : List (Move (Pool DoorState DoorCall) (Turn DoorRequest))} {meetingId userId : Nat}

/-- Over all interleavings of provisioning runs and removals, from any state that was reached before. The
    runs of the minute that follow change nothing about it. -/
theorem removed_locked_out_iff
    (before : Run FaceStep (FaceStore.start meetings participants iotDevices) earlier s)
    (run : Run (Step doorCalls) (Pool.idle ⟨s, []⟩) calls p)
    (removed : (meetingId, userId) ∈ p.shared.cleaned) (later : Run FaceStep p.shared.toFaceStore more t)
    (syncs : Heeds (SyncsDuring meetingId) more) :
    ¬ HasSynced t meetingId userId ↔ Heeds (Allows (StaysOut meetingId userId)) calls := by
  have well : WellMapped s := by
    refine run_invariant before start_wellMapped ?_
    intro a r b well step
    exact (face_step well step).1
  have free : Heeds (fun _ _ => True) calls := fun _ _ => trivial
  have sound : Sound DoorValid DoorFits DoorApart p :=
    guarded_invariant _ run (sound_idle ⟨well, nofun⟩) free
      fun sound step _ => sound_kept door_keep sound step
  have valid := sound.shared
  have unchanged := syncs_hasSynced valid.well (valid.out _ removed) later syncs
  have at_end := locked_out_iff meetingId userId well rfl run
  rw [unchanged, ← at_end]
  constructor
  · intro out _
    exact out
  · intro locked
    exact locked removed

def doorState : DoorState := ⟨doorStore, []⟩

def readAndRemoved : List (Turn DoorRequest) :=
  [.enter 0 (.provisionMeeting ⟨0, some 7, 0, 3600⟩ [5]), .enter 1 (.removeParticipant 0 5 true), .act 0 0, .act 1 1,
    .act 1 2]

/-- The turn of the user comes before the rows are removed. -/
def enrolledThenCleaned : List (Turn DoorRequest) := readAndRemoved ++ [.act 0 3, .act 1 4, .act 0 5]

def cleanedThenEnrolled : List (Turn DoorRequest) := readAndRemoved ++ [.act 1 3, .act 0 4, .act 0 5]

def nextMinute : List FaceRun :=
  [⟨60, 300, .provisionMeeting ⟨0, some 7, 0, 3600⟩ []⟩, ⟨61, 300, .deprovisionEndedMeetings []⟩,
    ⟨62, 300, .deprovisionByMeetingStatus []⟩]

instance (meetingId userId : Nat) (s : DoorState) (c : DoorCall) : Decidable (Enrols meetingId userId s c) :=
  match c with
  | .provision _ _ (.turns _ (_ :: _)) => inferInstanceAs (Decidable (_ ∧ _ ∧ AddsPerson _ _ _ _ _))
  | .provision _ _ .reading | .provision _ _ (.turns _ []) | .remove _ _ _ _ =>
    inferInstanceAs (Decidable False)

instance (meetingId userId : Nat) (s : DoorState) (now : Nat) (c : DoorCall) :
    Decidable (StaysOut meetingId userId s now c) :=
  inferInstanceAs (Decidable (_ → ¬ Enrols meetingId userId s c))

def doorsAfter (turns : List (Turn DoorRequest)) : Pool DoorState DoorCall :=
  turns.foldl (Pool.after doorCalls) (Pool.idle doorState)

def nextMinuteAfter (turns : List (Turn DoorRequest)) : List (Move FaceStore FaceRun) :=
  trail (fun a r => r.next a) (doorsAfter turns).shared.toFaceStore nextMinute

theorem locked_out_when_enrolled_before :
    ¬ HasSynced (nextMinute.foldl (fun a r => r.next a) (doorsAfter enrolledThenCleaned).shared.toFaceStore) 0 5 := by
  have follows : Follows doorCalls (StaysOut 0 5) (Pool.idle doorState) enrolledThenCleaned := by
    decide +kernel
  obtain ⟨calls, run, heeds⟩ := follows_run follows
  have ready : Heeds (fun a r => r.Reads a) (nextMinuteAfter enrolledThenCleaned) := by decide +kernel
  have syncs : Heeds (SyncsDuring 0) (nextMinuteAfter enrolledThenCleaned) := by decide +kernel
  have removed : (0, 5) ∈ (doorsAfter enrolledThenCleaned).shared.cleaned := by decide +kernel
  exact (removed_locked_out_iff .nil run removed (run_trail ready) syncs).mpr heeds

theorem removed_but_enrolled : ∃ calls p more t, Run (Step doorCalls) (Pool.idle doorState) calls p ∧
    (∀ i, p.calls i = none) ∧ (0, 5) ∈ p.shared.cleaned ∧ 5 ∉ participantsOf p.shared.toFaceStore 0 ∧
    Run FaceStep p.shared.toFaceStore more t ∧ Heeds (SyncsDuring 0) more ∧
    more.map (fun m => m.label) = nextMinute ∧ HasSynced t 0 5 := by
  have follows : Follows doorCalls (fun _ _ _ => True) (Pool.idle doorState) cleanedThenEnrolled := by
    decide +kernel
  obtain ⟨calls, run, -⟩ := follows_run follows
  have ended : ∀ i, (doorsAfter cleanedThenEnrolled).calls i = none := by
    intro i
    by_cases in_use : i = 0 ∨ i = 1
    · rcases in_use with rfl | rfl
      · decide +kernel
      · decide +kernel
    · refine calls_apart ?_
      have slots : ∀ turn ∈ cleanedThenEnrolled, turn.slot = 0 ∨ turn.slot = 1 := by decide
      rintro turn there rfl
      exact in_use (slots turn there)
  have ready : Heeds (fun a r => r.Reads a) (nextMinuteAfter cleanedThenEnrolled) := by decide +kernel
  exact ⟨calls, _, _, _, run, ended, by decide +kernel, by decide +kernel, run_trail ready,
    by decide +kernel, rfl, by decide +kernel⟩

end Runs
end FaceAccess
