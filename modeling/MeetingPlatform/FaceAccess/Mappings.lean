import MeetingPlatform.FaceAccess.Provisioning
import Mathlib.Data.List.Perm.Subperm

/- How the runs of the service keep its rows, and which persons on the devices stand in a row. -/
namespace FaceAccess
open KeyedTable

section Invariants

/-- The rows as the service keeps them: one for each user, device and meeting, and at most one that is
    live for each user and device. -/
structure WellMapped (s : FaceStore) : Prop where
  one : ∀ r ∈ s.mappings.rows, ∀ q ∈ s.mappings.rows, r.2.deviceId = q.2.deviceId →
    r.2.userId = q.2.userId → r.2.bookingId = q.2.bookingId → r = q
  slot : ∀ r ∈ s.mappings.rows, ∀ q ∈ s.mappings.rows, r.2.live = true → q.2.live = true →
    r.2.deviceId = q.2.deviceId → r.2.userId = q.2.userId → r = q
  code : ∀ r ∈ s.mappings.rows, r.2.devicePersonCode = ⟨r.2.userId, r.2.bookingId⟩
  deleted : ∀ r ∈ s.mappings.rows, r.2.live = true ↔ r.2.syncStatus ≠ .deleted
  synced : ∀ r ∈ s.mappings.rows, r.2.live = true →
    (r.2.syncStatus = .synced ↔ r.2.devicePersonId.isSome = true)
  device : ∀ r ∈ s.mappings.rows, (findDeviceById s r.2.deviceId).isSome = true
  issued : ∀ r ∈ s.mappings.rows, ∀ uid ∈ r.2.devicePersonId, uid < (s.faces r.2.deviceId).next

/-- The row that a person on a device stands in. -/
structure TracksPerson (deviceId : Nat) (p : Nat × PersonName) (mp : DeviceUserMapping) : Prop where
  device : mp.deviceId = deviceId
  name : mp.devicePersonCode = p.2
  live : mp.live = true
  uid : mp.devicePersonId = some p.1

def FacesTracked (s : FaceStore) : Prop :=
  ∀ deviceId, ∀ p ∈ (s.faces deviceId).rows, ∃ r ∈ s.mappings.rows, TracksPerson deviceId p r.2

/-- A person on a device whose uid is in no row at all. -/
def Leaked (s : FaceStore) (deviceId uid : Nat) : Prop :=
  uid ∈ (s.faces deviceId).rows.map Prod.fst ∧
    ∀ r ∈ s.mappings.rows, r.2.deviceId = deviceId → r.2.devicePersonId ≠ some uid

theorem leaked_untracked {s : FaceStore} {deviceId uid : Nat} (leaked : Leaked s deviceId uid) :
    ¬ FacesTracked s := by
  intro tracked
  obtain ⟨p, there, rfl⟩ := List.mem_map.mp leaked.1
  obtain ⟨r, row, tracks⟩ := tracked deviceId p there
  exact leaked.2 r row tracks.device tracks.uid

end Invariants

section Upserts
variable {s : FaceStore} {params : UpsertParams} {meeting : MeetingRow} {deviceId userId : Nat}

def upsertKey (s : FaceStore) (params : UpsertParams) : Nat :=
  ((s.mappings.findOne fun r => sameSlot params r.2).map Prod.fst).getD s.mappings.next

theorem upsert_faces : (upsertMapping s params).faces = s.faces := by
  unfold upsertMapping
  split
  · rfl
  · rfl

structure SameWorld (s t : FaceStore) : Prop where
  meetings : t.meetings = s.meetings
  participants : t.participants = s.participants
  devices : t.iotDevices = s.iotDevices

theorem SameWorld.trans {t u : FaceStore} (first : SameWorld s t) (second : SameWorld t u) : SameWorld s u :=
  ⟨second.meetings.trans first.meetings, second.participants.trans first.participants,
    second.devices.trans first.devices⟩

theorem upsert_world : SameWorld s (upsertMapping s params) := by
  unfold upsertMapping
  split
  · exact ⟨rfl, rfl, rfl⟩
  · exact ⟨rfl, rfl, rfl⟩

theorem mem_upsert (well : WellMapped s) {r : Nat × DeviceUserMapping} :
    r ∈ (upsertMapping s params).mappings.rows ↔
      (r ∈ s.mappings.rows ∧ sameSlot params r.2 = false) ∨ r = (upsertKey s params, params.row) := by
  unfold upsertMapping upsertKey
  cases found : s.mappings.findOne fun r => sameSlot params r.2 with
  | none =>
    rw [mem_insert]
    exact or_congr_left ⟨fun there => ⟨there, findOne_none found r there⟩, And.left⟩
  | some existing =>
    obtain ⟨row, slot⟩ := findOne_mem found
    have only : ∀ q ∈ s.mappings.rows, sameSlot params q.2 = true → q = existing := by
      intro q there same
      simp only [sameSlot, decide_eq_true_eq] at slot same
      exact well.one q there existing row (same.2.1.trans slot.2.1.symm) (same.1.trans slot.1.symm)
        (same.2.2.trans slot.2.2.symm)
    exact mem_save_found found only

/-- No other meeting has the user on the device. -/
def SlotFree (s : FaceStore) (meeting : MeetingRow) (deviceId userId : Nat) : Prop :=
  ∀ q ∈ s.mappings.rows, q.2.live = true → q.2.deviceId = deviceId → q.2.userId = userId →
    q.2.bookingId = meeting.id

theorem sameSlot_iff {uid : Option Nat} {status : SyncStatus} {error : Option String}
    {mp : DeviceUserMapping} : sameSlot (slotParams meeting deviceId userId uid status error) mp = true ↔
      mp.userId = userId ∧ mp.deviceId = deviceId ∧ mp.bookingId = meeting.id := by
  rw [sameSlot, decide_eq_true_eq]
  rfl

theorem upsert_wellMapped (well : WellMapped s) (free : SlotFree s meeting deviceId userId)
    (known : (findDeviceById s deviceId).isSome = true) {uid : Option Nat} {status : SyncStatus}
    {error : Option String} (kept : status ≠ .deleted) (agrees : status = .synced ↔ uid.isSome = true)
    (issued : ∀ u ∈ uid, u < (s.faces deviceId).next) :
    WellMapped (upsertMapping s (slotParams meeting deviceId userId uid status error)) := by
  obtain ⟨params, is_params⟩ : ∃ params, slotParams meeting deviceId userId uid status error = params :=
    ⟨_, rfl⟩
  have row : params.row.deviceId = deviceId ∧ params.row.userId = userId ∧
      params.row.bookingId = meeting.id ∧ params.row.devicePersonCode = ⟨userId, meeting.id⟩ ∧
      params.row.syncStatus = status ∧ params.row.devicePersonId = uid ∧ params.row.live = true := by
    subst is_params
    exact ⟨rfl, rfl, rfl, rfl, rfl, rfl, rfl⟩
  obtain ⟨device, user, booking, code, becomes, person, live⟩ := row
  have old_differs : ∀ q : Nat × DeviceUserMapping, sameSlot params q.2 = false →
      q.2.deviceId = deviceId → q.2.userId = userId → q.2.bookingId ≠ meeting.id := by
    intro q other same_device same_user same_booking
    subst is_params
    rw [sameSlot_iff.mpr ⟨same_user, same_device, same_booking⟩] at other
    cases other
  rw [is_params]
  constructor
  · intro r hr q hq same_device same_user same_booking
    rcases (mem_upsert well).mp hr with ⟨old, apart⟩ | rfl
    · rcases (mem_upsert well).mp hq with ⟨old', -⟩ | rfl
      · exact well.one r old q old' same_device same_user same_booking
      · exact absurd (same_booking.trans booking)
          (old_differs r apart (same_device.trans device) (same_user.trans user))
    · rcases (mem_upsert well).mp hq with ⟨old', apart⟩ | rfl
      · exact absurd (same_booking.symm.trans booking)
          (old_differs q apart (same_device.symm.trans device) (same_user.symm.trans user))
      · rfl
  · intro r hr q hq live_r live_q same_device same_user
    rcases (mem_upsert well).mp hr with ⟨old, apart⟩ | rfl
    · rcases (mem_upsert well).mp hq with ⟨old', -⟩ | rfl
      · exact well.slot r old q old' live_r live_q same_device same_user
      · have here := same_device.trans device
        have own := same_user.trans user
        exact absurd (free r old live_r here own) (old_differs r apart here own)
    · rcases (mem_upsert well).mp hq with ⟨old', apart⟩ | rfl
      · have here := same_device.symm.trans device
        have own := same_user.symm.trans user
        exact absurd (free q old' live_q here own) (old_differs q apart here own)
      · rfl
  · intro r hr
    rcases (mem_upsert well).mp hr with ⟨old, -⟩ | rfl
    · exact well.code r old
    · rw [code, user, booking]
  · intro r hr
    rcases (mem_upsert well).mp hr with ⟨old, -⟩ | rfl
    · exact well.deleted r old
    · rw [becomes]
      exact iff_of_true live kept
  · intro r hr live_r
    rcases (mem_upsert well).mp hr with ⟨old, -⟩ | rfl
    · exact well.synced r old live_r
    · rw [becomes, person]
      exact agrees
  · intro r hr
    rw [findDeviceById, upsert_world.devices]
    rcases (mem_upsert well).mp hr with ⟨old, -⟩ | rfl
    · exact well.device r old
    · rw [device]
      exact known
  · intro r hr u has
    rw [upsert_faces]
    rcases (mem_upsert well).mp hr with ⟨old, -⟩ | rfl
    · exact well.issued r old u has
    · rw [device]
      rw [person] at has
      exact issued u has

end Upserts

section Turns
variable {s : FaceStore} {meeting : MeetingRow} {deviceId userId uid : Nat} {calls : ProvisionCalls}

def AddsPerson (s : FaceStore) (meeting : MeetingRow) (deviceId userId : Nat) (calls : ProvisionCalls) : Prop :=
  (∀ mp ∈ liveSlot s deviceId userId, mp.bookingId = meeting.id ∧ mp.syncStatus ≠ .synced) ∧
    calls.portrait = true ∧ calls.connects = true ∧ calls.upload = true ∧ calls.add ≠ .refused

instance (s : FaceStore) (meeting : MeetingRow) (deviceId userId : Nat) (calls : ProvisionCalls) :
    Decidable (AddsPerson s meeting deviceId userId calls) :=
  inferInstanceAs (Decidable (_ ∧ _))

/-- The device says that the person has been added, and which uid it has. -/
def Answered (calls : ProvisionCalls) : Prop := calls.add = .done ∧ calls.find = .newest

instance (calls : ProvisionCalls) : Decidable (Answered calls) := inferInstanceAs (Decidable (_ ∧ _))

/-- The user is not synced for the meeting yet, and for no other one on the device. -/
def SlotOpen (s : FaceStore) (meeting : MeetingRow) (deviceId userId : Nat) : Prop :=
  ∀ q ∈ s.mappings.rows, q.2.live = true → q.2.deviceId = deviceId → q.2.userId = userId →
    q.2.bookingId = meeting.id ∧ q.2.syncStatus ≠ .synced

inductive TurnEffect (s : FaceStore) (meeting : MeetingRow) (deviceId userId : Nat)
    (calls : ProvisionCalls) : FaceStore → Prop where
  | idle (quiet : ¬ AddsPerson s meeting deviceId userId calls) :
      TurnEffect s meeting deviceId userId calls s
  | noted {status : SyncStatus} {error : Option String}
      (quiet : ¬ AddsPerson s meeting deviceId userId calls) (free : SlotOpen s meeting deviceId userId)
      (unsynced : status ≠ .synced) (kept : status ≠ .deleted) :
      TurnEffect s meeting deviceId userId calls
        (upsertMapping s (slotParams meeting deviceId userId none status error))
  | added (adds : AddsPerson s meeting deviceId userId calls) (answered : Answered calls)
      (free : SlotOpen s meeting deviceId userId) :
      TurnEffect s meeting deviceId userId calls
        (upsertMapping (addPerson s deviceId ⟨userId, meeting.id⟩)
          (slotParams meeting deviceId userId (some (s.faces deviceId).next) .synced none))
  | lost {error : Option String} (adds : AddsPerson s meeting deviceId userId calls)
      (unanswered : ¬ Answered calls) (free : SlotOpen s meeting deviceId userId) :
      TurnEffect s meeting deviceId userId calls
        (upsertMapping (addPerson s deviceId ⟨userId, meeting.id⟩)
          (slotParams meeting deviceId userId none .failed error))

theorem findUid_added (uname : PersonName) :
    findUidByName (addPerson s deviceId uname) deviceId uname = some (s.faces deviceId).next := by
  have faces : (addPerson s deviceId uname).faces deviceId = (s.faces deviceId).insert uname :=
    Function.update_self _ _ _
  rw [findUidByName, faces, Table.findNewest, select_insert, if_pos (decide_eq_true rfl),
    List.getLast?_append_of_ne_nil _ (List.cons_ne_nil _ _)]
  rfl

theorem slotOpen_iff (well : WellMapped s) : SlotOpen s meeting deviceId userId ↔
    ∀ mp ∈ liveSlot s deviceId userId, mp.bookingId = meeting.id ∧ mp.syncStatus ≠ .synced := by
  constructor
  · intro all mp found
    obtain ⟨r, there, rfl⟩ := Option.map_eq_some_iff.mp found
    obtain ⟨row, slot⟩ := findOne_mem there
    simp only [decide_eq_true_eq] at slot
    exact all r row slot.2.2 slot.1 slot.2.1
  · intro checked q row live device user
    have selected : q ∈ s.mappings.select fun r =>
        r.2.deviceId = deviceId ∧ r.2.userId = userId ∧ r.2.live := by
      rw [mem_select, decide_eq_true_eq]
      exact ⟨row, device, user, live⟩
    cases found : s.mappings.findOne fun r => r.2.deviceId = deviceId ∧ r.2.userId = userId ∧ r.2.live with
    | none =>
      rw [List.head?_eq_none_iff.mp found] at selected
      cases selected
    | some r =>
      obtain ⟨row', slot⟩ := findOne_mem found
      rw [decide_eq_true_eq] at slot
      have same := well.slot q row r row' live slot.2.2 (device.trans slot.1.symm)
        (user.trans slot.2.1.symm)
      rw [same]
      exact checked r.2 (Option.map_eq_some_iff.mpr ⟨r, found, rfl⟩)

theorem enrol_effect {live : Option DeviceUserMapping} (free : SlotOpen s meeting deviceId userId)
    (adds : calls.add ≠ .refused → AddsPerson s meeting deviceId userId calls) :
    TurnEffect s meeting deviceId userId calls
      (noteResult meeting deviceId userId (enrol s meeting deviceId userId calls live)).1 := by
  unfold enrol
  cases add : calls.add with
  | refused =>
    have quiet : ¬ AddsPerson s meeting deviceId userId calls := fun adds => adds.2.2.2.2 add
    exact .noted quiet free nofun nofun
  | lost =>
    have unanswered : ¬ Answered calls := by
      rintro ⟨done, -⟩
      rw [add] at done
      cases done
    exact .lost (adds (by rw [add]; exact nofun)) unanswered free
  | done =>
    have taken : AddsPerson s meeting deviceId userId calls := adds (by rw [add]; exact nofun)
    have unanswered : calls.find ≠ .newest → ¬ Answered calls := fun other answered => other answered.2
    cases find : calls.find with
    | failed => exact .lost taken (unanswered (by rw [find]; exact nofun)) free
    | nothing => exact .lost taken (unanswered (by rw [find]; exact nofun)) free
    | newest =>
      simp only [findUid_added]
      exact .added taken ⟨add, find⟩ free

theorem turn_effect (well : WellMapped s) : TurnEffect s meeting deviceId userId calls
    (provisionTurn s meeting deviceId userId calls).1 := by
  unfold provisionTurn provisionParticipant
  by_cases busy : (liveSlot s deviceId userId).any (fun mp => mp.bookingId ≠ meeting.id) = true
  · rw [if_pos busy]
    refine .idle ?_
    rintro ⟨all, -⟩
    obtain ⟨mp, found, other⟩ := (Option.any_eq_true _ _).mp busy
    exact of_decide_eq_true other (all mp found).1
  rw [if_neg busy]
  by_cases done : (liveSlot s deviceId userId).any (fun mp => mp.syncStatus = .synced) = true
  · rw [if_pos done]
    refine .idle ?_
    rintro ⟨all, -⟩
    obtain ⟨mp, found, synced⟩ := (Option.any_eq_true _ _).mp done
    exact (all mp found).2 (of_decide_eq_true synced)
  rw [if_neg done]
  have checked : ∀ mp ∈ liveSlot s deviceId userId, mp.bookingId = meeting.id ∧ mp.syncStatus ≠ .synced := by
    intro mp found
    constructor
    · by_contra other
      exact busy ((Option.any_eq_true _ _).mpr ⟨mp, found, decide_eq_true other⟩)
    · intro synced
      exact done ((Option.any_eq_true _ _).mpr ⟨mp, found, decide_eq_true synced⟩)
  have free : SlotOpen s meeting deviceId userId := (slotOpen_iff well).mpr checked
  by_cases blind : calls.portrait = false
  · rw [if_pos blind]
    refine .noted ?_ free nofun nofun
    rintro ⟨-, portrait, -⟩
    rw [blind] at portrait
    cases portrait
  rw [if_neg blind]
  by_cases cut : calls.connects = false ∨ calls.upload = false
  · rw [if_pos cut]
    refine .noted ?_ free nofun nofun
    rintro ⟨-, -, connects, upload, -⟩
    rcases cut with never | never
    · rw [never] at connects
      cases connects
    · rw [never] at upload
      cases upload
  rw [if_neg cut]
  refine enrol_effect free ?_
  intro taken
  have through := not_or.mp cut
  exact ⟨checked, Bool.eq_true_of_not_eq_false blind, Bool.eq_true_of_not_eq_false through.1,
    Bool.eq_true_of_not_eq_false through.2, taken⟩

theorem setFaces_wellMapped {persons : Table PersonName} (well : WellMapped s)
    (grows : (s.faces deviceId).next ≤ persons.next) : WellMapped (s.setFaces deviceId persons) where
  one := well.one
  slot := well.slot
  code := well.code
  deleted := well.deleted
  synced := well.synced
  device := well.device
  issued := by
    intro r row u has
    have below := well.issued r row u has
    by_cases here : r.2.deviceId = deviceId
    · rw [here] at below ⊢
      have faces : (s.setFaces deviceId persons).faces deviceId = persons := Function.update_self _ _ _
      rw [faces]
      omega
    · have faces : (s.setFaces deviceId persons).faces r.2.deviceId = s.faces r.2.deviceId :=
        Function.update_of_ne here _ _
      rw [faces]
      exact below

theorem addPerson_wellMapped {uname : PersonName} (well : WellMapped s) :
    WellMapped (addPerson s deviceId uname) := setFaces_wellMapped well (Nat.le_succ _)

theorem turn_wellMapped {t : FaceStore} (well : WellMapped s)
    (known : (findDeviceById s deviceId).isSome = true)
    (effect : TurnEffect s meeting deviceId userId calls t) : WellMapped t := by
  cases effect with
  | idle quiet => exact well
  | noted quiet free unsynced kept =>
    refine upsert_wellMapped well ?_ known kept (iff_of_false unsynced nofun) nofun
    intro q row live device user
    exact (free q row live device user).1
  | added adds answered free =>
    refine upsert_wellMapped (addPerson_wellMapped well) ?_ known nofun (iff_of_true rfl rfl) ?_
    · intro q row live device user
      exact (free q row live device user).1
    · rintro u ⟨⟩
      have faces : (addPerson s deviceId ⟨userId, meeting.id⟩).faces deviceId =
          (s.faces deviceId).insert ⟨userId, meeting.id⟩ := Function.update_self _ _ _
      rw [faces]
      exact Nat.lt_succ_self _
  | lost adds unanswered free =>
    refine upsert_wellMapped (addPerson_wellMapped well) ?_ known nofun (iff_of_false nofun nofun) nofun
    intro q row live device user
    exact (free q row live device user).1

theorem faces_added {uname : PersonName} {d : Nat} {p : Nat × PersonName} :
    p ∈ ((addPerson s deviceId uname).faces d).rows ↔
      p ∈ (s.faces d).rows ∨ d = deviceId ∧ p = ((s.faces deviceId).next, uname) := by
  by_cases here : d = deviceId
  · subst here
    have faces : (addPerson s d uname).faces d = (s.faces d).insert uname := Function.update_self _ _ _
    rw [faces, mem_insert, and_iff_right rfl]
  · have faces : (addPerson s deviceId uname).faces d = s.faces d := Function.update_of_ne here _ _
    rw [faces]
    exact (or_iff_left fun never => here never.1).symm

theorem tracking_kept (well : WellMapped s) (free : SlotOpen s meeting deviceId userId) {uid : Option Nat}
    {status : SyncStatus} {error : Option String} {d : Nat} {p : Nat × PersonName}
    {r : Nat × DeviceUserMapping} (row : r ∈ s.mappings.rows) (tracks : TracksPerson d p r.2) :
    r ∈ (upsertMapping s (slotParams meeting deviceId userId uid status error)).mappings.rows := by
  refine (mem_upsert well).mpr (Or.inl ⟨row, Bool.eq_false_of_not_eq_true ?_⟩)
  intro same
  obtain ⟨user, device, -⟩ := sameSlot_iff.mp same
  have unsynced := (free r row tracks.live device user).2
  refine unsynced ((well.synced r row tracks.live).mpr ?_)
  rw [tracks.uid]
  rfl

theorem turn_tracked {t : FaceStore} (well : WellMapped s) (tracked : FacesTracked s)
    (effect : TurnEffect s meeting deviceId userId calls t)
    (answered : AddsPerson s meeting deviceId userId calls → Answered calls) : FacesTracked t := by
  cases effect with
  | idle quiet => exact tracked
  | noted quiet free unsynced kept =>
    intro d p there
    rw [upsert_faces] at there
    obtain ⟨r, row, tracks⟩ := tracked d p there
    exact ⟨r, tracking_kept well free row tracks, tracks⟩
  | added adds answered free =>
    have well' : WellMapped (addPerson s deviceId ⟨userId, meeting.id⟩) := addPerson_wellMapped well
    intro d p there
    rw [upsert_faces] at there
    rcases faces_added.mp there with old | ⟨rfl, rfl⟩
    · obtain ⟨r, row, tracks⟩ := tracked d p old
      exact ⟨r, tracking_kept well' free row tracks, tracks⟩
    · exact ⟨_, (mem_upsert well').mpr (Or.inr rfl), rfl, rfl, rfl, rfl⟩
  | lost adds unanswered free => exact absurd (answered adds) unanswered

theorem turn_leaks {t : FaceStore} (well : WellMapped s)
    (effect : TurnEffect s meeting deviceId userId calls t)
    (adds : AddsPerson s meeting deviceId userId calls) (unanswered : ¬ Answered calls) :
    Leaked t deviceId (s.faces deviceId).next := by
  cases effect with
  | idle quiet => exact absurd adds quiet
  | noted quiet free unsynced kept => exact absurd adds quiet
  | added adds answered free => exact absurd answered unanswered
  | lost adds unanswered free =>
    constructor
    · rw [upsert_faces]
      exact List.mem_map.mpr ⟨_, faces_added.mpr (Or.inr ⟨rfl, rfl⟩), rfl⟩
    · intro r there device person
      rcases (mem_upsert (addPerson_wellMapped well)).mp there with ⟨old, -⟩ | rfl
      · have below := well.issued r old _ person
        rw [device] at below
        exact Nat.lt_irrefl _ below
      · cases person

theorem leak_stays {t : FaceStore} {d : Nat} (well : WellMapped s) (leaked : Leaked s d uid)
    (effect : TurnEffect s meeting deviceId userId calls t) : Leaked t d uid := by
  obtain ⟨there, unknown⟩ := leaked
  obtain ⟨p, stays, is_uid⟩ := List.mem_map.mp there
  have on_device : uid ∈ ((addPerson s deviceId ⟨userId, meeting.id⟩).faces d).rows.map Prod.fst :=
    List.mem_map.mpr ⟨p, faces_added.mpr (Or.inl stays), is_uid⟩
  cases effect with
  | idle quiet => exact ⟨there, unknown⟩
  | noted quiet free unsynced kept =>
    refine ⟨by rw [upsert_faces]; exact there, ?_⟩
    intro r row device person
    rcases (mem_upsert well).mp row with ⟨old, -⟩ | rfl
    · exact unknown r old device person
    · cases person
  | added adds answered free =>
    refine ⟨by rw [upsert_faces]; exact on_device, ?_⟩
    intro r row device person
    rcases (mem_upsert (addPerson_wellMapped well)).mp row with ⟨old, -⟩ | rfl
    · exact unknown r old device person
    · have newest : (s.faces deviceId).next = uid := Option.some.inj person
      have same : deviceId = d := device
      have below := (s.faces d).below uid there
      rw [same] at newest
      omega
  | lost adds unanswered free =>
    refine ⟨by rw [upsert_faces]; exact on_device, ?_⟩
    intro r row device person
    rcases (mem_upsert (addPerson_wellMapped well)).mp row with ⟨old, -⟩ | rfl
    · exact unknown r old device person
    · cases person

end Turns
section Provisioning
variable {s : FaceStore} {meeting : MeetingRow} {deviceId : Nat} {participants : List (Nat × ProvisionCalls)}

/-- In every turn that adds a person the device answers. -/
def AllAnswered (meeting : MeetingRow) (deviceId : Nat) : FaceStore → List (Nat × ProvisionCalls) → Prop
  | _, [] => True
  | s, p :: rest =>
    (AddsPerson s meeting deviceId p.1 p.2 → Answered p.2) ∧
      AllAnswered meeting deviceId (provisionTurn s meeting deviceId p.1 p.2).1 rest

instance decidableAllAnswered (meeting : MeetingRow) (deviceId : Nat) :
    (s : FaceStore) → (participants : List (Nat × ProvisionCalls)) →
      Decidable (AllAnswered meeting deviceId s participants)
  | _, [] => inferInstanceAs (Decidable True)
  | s, p :: rest =>
    have := decidableAllAnswered meeting deviceId (provisionTurn s meeting deviceId p.1 p.2).1 rest
    inferInstanceAs (Decidable (_ ∧ _))

def provisionTurns (meeting : MeetingRow) (deviceId : Nat) (s : FaceStore)
    (participants : List (Nat × ProvisionCalls)) : FaceStore × Nat :=
  loop (fun s p => provisionTurn s meeting deviceId p.1 p.2) s participants

theorem turn_world (effect : TurnEffect s meeting deviceId userId calls t) : SameWorld s t := by
  have after_add : ∀ params, SameWorld s (upsertMapping (addPerson s deviceId ⟨userId, meeting.id⟩) params) :=
    fun _ => ⟨upsert_world.meetings, upsert_world.participants, upsert_world.devices⟩
  cases effect with
  | idle quiet => exact ⟨rfl, rfl, rfl⟩
  | noted quiet free unsynced kept => exact upsert_world
  | added adds answered free => exact after_add _
  | lost adds unanswered free => exact after_add _

theorem turn_known {d : Nat} (known : (findDeviceById s d).isSome = true)
    (effect : TurnEffect s meeting deviceId userId calls t) : (findDeviceById t d).isSome = true := by
  rw [findDeviceById, (turn_world effect).devices]
  exact known

theorem turns_invariant {P : FaceStore → Prop} (well : WellMapped s)
    (known : (findDeviceById s deviceId).isSome = true) (start : P s)
    (keeps : ∀ p ∈ participants, ∀ {a t : FaceStore}, WellMapped a →
      (findDeviceById a deviceId).isSome = true → P a → TurnEffect a meeting deviceId p.1 p.2 t → P t) :
    P (provisionTurns meeting deviceId s participants).1 := by
  have kept : P (provisionTurns meeting deviceId s participants).1 ∧ _ ∧ _ :=
    loop_invariant (P := fun a => P a ∧ WellMapped a ∧ (findDeviceById a deviceId).isSome = true)
      ⟨start, well, known⟩ (by
        rintro a p there ⟨holds, well, known⟩
        have effect : TurnEffect a meeting deviceId p.1 p.2 _ := turn_effect well
        exact ⟨keeps p there well known holds effect, turn_wellMapped well known effect,
          turn_known known effect⟩)
  exact kept.1

theorem turns_wellMapped (well : WellMapped s) (known : (findDeviceById s deviceId).isSome = true) :
    WellMapped (provisionTurns meeting deviceId s participants).1 := by
  refine turns_invariant well known well ?_
  intro p _ a t _ known well effect
  exact turn_wellMapped well known effect

theorem turns_world (well : WellMapped s) (known : (findDeviceById s deviceId).isSome = true) :
    SameWorld s (provisionTurns meeting deviceId s participants).1 := by
  refine turns_invariant well known ⟨rfl, rfl, rfl⟩ ?_
  intro p _ a t _ _ world effect
  exact world.trans (turn_world effect)

theorem leak_stays_turns {uid d : Nat} (well : WellMapped s)
    (known : (findDeviceById s deviceId).isSome = true) (leaked : Leaked s d uid) :
    Leaked (provisionTurns meeting deviceId s participants).1 d uid := by
  refine turns_invariant (P := fun a => Leaked a d uid) well known leaked ?_
  intro p _ a t well _ leaked effect
  exact leak_stays well leaked effect

theorem turns_tracked_iff (well : WellMapped s) (known : (findDeviceById s deviceId).isSome = true)
    (tracked : FacesTracked s) : FacesTracked (provisionTurns meeting deviceId s participants).1 ↔
      AllAnswered meeting deviceId s participants := by
  induction participants generalizing s with
  | nil => exact iff_of_true tracked trivial
  | cons p rest ih =>
    have effect : TurnEffect s meeting deviceId p.1 p.2 (provisionTurn s meeting deviceId p.1 p.2).1 :=
      turn_effect well
    have well' := turn_wellMapped well known effect
    have known' := turn_known known effect
    have unfolds : (provisionTurns meeting deviceId s (p :: rest)).1 =
        (provisionTurns meeting deviceId (provisionTurn s meeting deviceId p.1 p.2).1 rest).1 := rfl
    rw [unfolds, AllAnswered]
    by_cases answered : AddsPerson s meeting deviceId p.1 p.2 → Answered p.2
    · rw [ih well' known' (turn_tracked well tracked effect answered), and_iff_right answered]
    · refine iff_of_false ?_ fun all => answered all.1
      obtain ⟨adds, unanswered⟩ := Classical.not_imp.mp answered
      exact leaked_untracked (leak_stays_turns well' known' (turn_leaks well effect adds unanswered))

end Provisioning

section Removals
variable {s : FaceStore} {now : Int} {id : Nat} {mp : DeviceUserMapping} {calls : RemoveCalls}

theorem update_wellMapped {sel : Nat × DeviceUserMapping → Bool} {f : DeviceUserMapping → DeviceUserMapping}
    (well : WellMapped s)
    (same_key : ∀ mp, (f mp).deviceId = mp.deviceId ∧ (f mp).userId = mp.userId ∧
      (f mp).bookingId = mp.bookingId ∧ (f mp).devicePersonCode = mp.devicePersonCode)
    (lives : ∀ mp, (f mp).live = true → mp.live = true)
    (sound : ∀ r ∈ s.mappings.rows, sel r = true →
      ((f r.2).live = true ↔ (f r.2).syncStatus ≠ .deleted) ∧
      ((f r.2).live = true → ((f r.2).syncStatus = .synced ↔ (f r.2).devicePersonId.isSome = true)) ∧
      ∀ uid ∈ (f r.2).devicePersonId, uid < (s.faces r.2.deviceId).next) :
    WellMapped { s with mappings := s.mappings.updateWhere sel f } := by
  have key : ∀ q : Nat × DeviceUserMapping, (touch sel f q).2.deviceId = q.2.deviceId ∧
      (touch sel f q).2.userId = q.2.userId ∧ (touch sel f q).2.bookingId = q.2.bookingId ∧
      (touch sel f q).2.devicePersonCode = q.2.devicePersonCode ∧
      ((touch sel f q).2.live = true → q.2.live = true) := by
    intro q
    unfold touch
    split
    · obtain ⟨device, user, booking, code⟩ := same_key q.2
      exact ⟨device, user, booking, code, lives q.2⟩
    · exact ⟨rfl, rfl, rfl, rfl, fun live => live⟩
  constructor
  · intro r hr q hq device user booking
    obtain ⟨r', there, rfl⟩ := mem_updateWhere.mp hr
    obtain ⟨q', there', rfl⟩ := mem_updateWhere.mp hq
    rw [(key r').1, (key q').1] at device
    rw [(key r').2.1, (key q').2.1] at user
    rw [(key r').2.2.1, (key q').2.2.1] at booking
    rw [well.one r' there q' there' device user booking]
  · intro r hr q hq live_r live_q device user
    obtain ⟨r', there, rfl⟩ := mem_updateWhere.mp hr
    obtain ⟨q', there', rfl⟩ := mem_updateWhere.mp hq
    rw [(key r').1, (key q').1] at device
    rw [(key r').2.1, (key q').2.1] at user
    rw [well.slot r' there q' there' ((key r').2.2.2.2 live_r) ((key q').2.2.2.2 live_q) device user]
  · intro r hr
    obtain ⟨r', there, rfl⟩ := mem_updateWhere.mp hr
    obtain ⟨-, user, booking, code, -⟩ := key r'
    rw [code, user, booking]
    exact well.code r' there
  · intro r hr
    obtain ⟨r', there, rfl⟩ := mem_updateWhere.mp hr
    unfold touch
    split
    · exact (sound r' there ‹_›).1
    · exact well.deleted r' there
  · intro r hr
    obtain ⟨r', there, rfl⟩ := mem_updateWhere.mp hr
    unfold touch
    split
    · exact (sound r' there ‹_›).2.1
    · exact well.synced r' there
  · intro r hr
    obtain ⟨r', there, rfl⟩ := mem_updateWhere.mp hr
    rw [(key r').1]
    exact well.device r' there
  · intro r hr uid has
    obtain ⟨r', there, rfl⟩ := mem_updateWhere.mp hr
    rw [(key r').1]
    unfold touch at has
    split at has
    · exact (sound r' there ‹_›).2.2 uid has
    · exact well.issued r' there uid has

theorem softDelete_wellMapped (well : WellMapped s) : WellMapped (softDelete s id now) := by
  have gone : ∀ mp : DeviceUserMapping, ¬ (mp.softDeleted now).live = true := by
    intro mp live
    cases live
  refine update_wellMapped well (fun _ => ⟨rfl, rfl, rfl, rfl⟩) (fun mp live => absurd live (gone mp)) ?_
  intro r row _
  exact ⟨iff_of_false (gone r.2) (fun kept => kept rfl), fun live => absurd live (gone r.2),
    well.issued r row⟩

theorem softDelete_tracked (tracked : FacesTracked s)
    (unused : ∀ deviceId, ∀ p ∈ (s.faces deviceId).rows, ∀ r ∈ s.mappings.rows, r.1 = id →
      ¬ TracksPerson deviceId p r.2) : FacesTracked (softDelete s id now) := by
  intro deviceId p there
  obtain ⟨r, row, tracks⟩ := tracked deviceId p there
  have other : r.1 ≠ id := fun same => unused deviceId p there r row same tracks
  exact ⟨r, mem_updateWhere.mpr ⟨r, row, touch_of_false _ (decide_eq_false other)⟩, tracks⟩

variable {deviceId uid : Nat}

theorem faces_deleted {d : Nat} {p : Nat × PersonName} :
    p ∈ ((deletePerson s deviceId uid).faces d).rows ↔
      p ∈ (s.faces d).rows ∧ ¬ (d = deviceId ∧ p.1 = uid) := by
  by_cases here : d = deviceId
  · subst here
    have faces : (deletePerson s d uid).faces d = (s.faces d).deleteWhere fun p => p.1 = uid :=
      Function.update_self _ _ _
    rw [faces, Table.deleteWhere, List.mem_filter, and_iff_right rfl, Bool.not_eq_true',
      decide_eq_false_iff_not]
  · have faces : (deletePerson s deviceId uid).faces d = s.faces d := Function.update_of_ne here _ _
    rw [faces]
    exact (and_iff_left fun never => here never.1).symm

theorem deletePerson_wellMapped (well : WellMapped s) : WellMapped (deletePerson s deviceId uid) :=
  setFaces_wellMapped well (Nat.le_refl _)

theorem deletePerson_tracked (tracked : FacesTracked s) : FacesTracked (deletePerson s deviceId uid) := by
  intro d p there
  exact tracked d p (faces_deleted.mp there).1

/-- What the removal of a row comes to. -/
inductive RemoveEffect (s : FaceStore) (now : Int) (id : Nat) (mp : DeviceUserMapping) (calls : RemoveCalls) :
    FaceStore → Prop where
  | kept (failed : calls.connects = false ∨ calls.delete ≠ .done) : RemoveEffect s now id mp calls s
  | unlinked (person : mp.devicePersonId = none) : RemoveEffect s now id mp calls (softDelete s id now)
  | removed {uid : Nat} (person : mp.devicePersonId = some uid) :
      RemoveEffect s now id mp calls (softDelete (deletePerson s mp.deviceId uid) id now)
  | halfway {uid : Nat} (failed : calls.connects = false ∨ calls.delete ≠ .done) :
      RemoveEffect s now id mp calls (deletePerson s mp.deviceId uid)

theorem remove_effect (known : (findDeviceById s mp.deviceId).isSome = true) :
    RemoveEffect s now id mp calls (removeMapping s now id mp calls).1 := by
  obtain ⟨device, found⟩ := Option.isSome_iff_exists.mp known
  unfold removeMapping
  rw [found]
  cases person : mp.devicePersonId with
  | none => exact .unlinked person
  | some uid =>
    by_cases cut : calls.connects = false
    · simp only [if_pos cut]
      exact .kept (Or.inl cut)
    · simp only [if_neg cut]
      cases delete : calls.delete with
      | done => exact .removed person
      | refused => exact .kept (Or.inr (by rw [delete]; exact nofun))
      | lost => exact .halfway (Or.inr (by rw [delete]; exact nofun))

theorem remove_wellMapped {t : FaceStore} (well : WellMapped s) (effect : RemoveEffect s now id mp calls t) :
    WellMapped t := by
  cases effect with
  | kept failed => exact well
  | unlinked person => exact softDelete_wellMapped well
  | removed person => exact softDelete_wellMapped (deletePerson_wellMapped well)
  | halfway failed => exact deletePerson_wellMapped well

theorem remove_tracked {t : FaceStore} (row : (id, mp) ∈ s.mappings.rows) (tracked : FacesTracked s)
    (effect : RemoveEffect s now id mp calls t) : FacesTracked t := by
  have only : ∀ r ∈ s.mappings.rows, r.1 = id → r.2 = mp := by
    rintro ⟨k, q⟩ there rfl
    exact key_unique s.mappings there row
  cases effect with
  | kept failed => exact tracked
  | unlinked person =>
    refine softDelete_tracked tracked ?_
    intro d p _ r there same tracks
    have uid := tracks.uid
    rw [only r there same, person] at uid
    cases uid
  | @removed uid person =>
    refine softDelete_tracked (deletePerson_tracked tracked) ?_
    intro d p there r stored same tracks
    have is_uid := tracks.uid
    have device := tracks.device
    rw [only r stored same] at is_uid device
    rw [person] at is_uid
    exact (faces_deleted.mp there).2 ⟨device.symm, (Option.some.inj is_uid).symm⟩
  | halfway failed => exact deletePerson_tracked tracked

theorem remove_others {t : FaceStore} (effect : RemoveEffect s now id mp calls t)
    {r : Nat × DeviceUserMapping} (there : r ∈ s.mappings.rows) (other : r.1 ≠ id) : r ∈ t.mappings.rows := by
  have passed : r ∈ (softDelete s id now).mappings.rows :=
    mem_updateWhere.mpr ⟨r, there, touch_of_false _ (decide_eq_false other)⟩
  cases effect with
  | kept failed => exact there
  | unlinked person => exact passed
  | removed person => exact passed
  | halfway failed => exact there

theorem remove_world {t : FaceStore} (effect : RemoveEffect s now id mp calls t) : SameWorld s t := by
  cases effect with
  | kept failed => exact ⟨rfl, rfl, rfl⟩
  | unlinked person => exact ⟨rfl, rfl, rfl⟩
  | removed person => exact ⟨rfl, rfl, rfl⟩
  | halfway failed => exact ⟨rfl, rfl, rfl⟩

theorem remove_faces {t : FaceStore} (effect : RemoveEffect s now id mp calls t) {d : Nat}
    {p : Nat × PersonName} (there : p ∈ (t.faces d).rows) : p ∈ (s.faces d).rows := by
  cases effect with
  | kept failed => exact there
  | unlinked person => exact there
  | removed person => exact (faces_deleted.mp there).1
  | halfway failed => exact (faces_deleted.mp there).1

theorem not_failed (answered : calls.connects = true ∧ calls.delete = .done) :
    ¬ (calls.connects = false ∨ calls.delete ≠ .done) := by
  rintro (never | never)
  · rw [answered.1] at never
    cases never
  · exact never answered.2

theorem remove_gone {t : FaceStore} (effect : RemoveEffect s now id mp calls t)
    (answered : calls.connects = true ∧ calls.delete = .done) (person : mp.devicePersonId = some uid) :
    ∀ p ∈ (t.faces mp.deviceId).rows, p.1 ≠ uid := by
  intro p there
  cases effect with
  | kept failed => exact absurd failed (not_failed answered)
  | halfway failed => exact absurd failed (not_failed answered)
  | unlinked nobody =>
    rw [person] at nobody
    cases nobody
  | removed same =>
    rw [person] at same
    cases same
    intro is_uid
    exact (faces_deleted.mp there).2 ⟨rfl, is_uid⟩

/-- The rows of a query, before the first of them is removed. -/
structure Current (s : FaceStore) (maps : List (Nat × DeviceUserMapping)) : Prop where
  there : ∀ r ∈ maps, r ∈ s.mappings.rows
  distinct : (maps.map Prod.fst).Nodup

theorem current_of_subperm {selected : Nat × DeviceUserMapping → Bool}
    {maps : List (Nat × DeviceUserMapping)} (read : maps.Subperm (s.mappings.select selected)) :
    Current s maps := by
  constructor
  · intro r chosen
    exact (mem_select.mp (read.subset chosen)).1
  · obtain ⟨some_order, perm, sublist⟩ := read
    exact (perm.map Prod.fst).nodup_iff.mp ((select_keys s.mappings selected).sublist (sublist.map Prod.fst))

theorem current_tail {r : Nat × DeviceUserMapping} {maps : List (Nat × DeviceUserMapping)} {t : FaceStore}
    (current : Current s (r :: maps))
    (others : ∀ q ∈ s.mappings.rows, q.1 ≠ r.1 → q ∈ t.mappings.rows) : Current t maps := by
  have distinct := List.nodup_cons.mp current.distinct
  constructor
  · intro q chosen
    refine others q (current.there q (List.mem_cons_of_mem _ chosen)) ?_
    intro same
    exact distinct.1 (same ▸ List.mem_map_of_mem chosen)
  · exact distinct.2

variable {maps : Removals}

theorem removeAll_invariant {P : FaceStore → Prop} (well : WellMapped s)
    (current : Current s (maps.map Prod.fst)) (start : P s)
    (keeps : ∀ w ∈ maps, ∀ {a t : FaceStore}, WellMapped a → w.1 ∈ a.mappings.rows → P a →
      RemoveEffect a now w.1.1 w.1.2 w.2 t → P t) : P (removeAll s now maps).1 := by
  induction maps generalizing s with
  | nil => exact start
  | cons w rest ih =>
    have row := current.there w.1 List.mem_cons_self
    have effect : RemoveEffect s now w.1.1 w.1.2 w.2 (removeMapping s now w.1.1 w.1.2 w.2).1 :=
      remove_effect (well.device w.1 row)
    refine ih (remove_wellMapped well effect) ?_ (keeps w List.mem_cons_self well row start effect) ?_
    · exact current_tail current fun q there other => remove_others effect there other
    · exact fun v later => keeps v (List.mem_cons_of_mem w later)

theorem removeAll_brings {P : FaceStore → Prop} {w : (Nat × DeviceUserMapping) × RemoveCalls}
    (well : WellMapped s) (current : Current s (maps.map Prod.fst)) (chosen : w ∈ maps)
    (brings : ∀ {a t : FaceStore}, RemoveEffect a now w.1.1 w.1.2 w.2 t → P t)
    (keeps : ∀ v ∈ maps, ∀ {a t : FaceStore}, P a → RemoveEffect a now v.1.1 v.1.2 v.2 t → P t) :
    P (removeAll s now maps).1 := by
  induction maps generalizing s with
  | nil => cases chosen
  | cons v rest ih =>
    have effect : RemoveEffect s now v.1.1 v.1.2 v.2 (removeMapping s now v.1.1 v.1.2 v.2).1 :=
      remove_effect (well.device v.1 (current.there v.1 List.mem_cons_self))
    have well' := remove_wellMapped well effect
    have current' : Current (removeMapping s now v.1.1 v.1.2 v.2).1 (rest.map Prod.fst) :=
      current_tail current fun q there other => remove_others effect there other
    rcases List.mem_cons.mp chosen with rfl | later
    · have kept : P (removeAll (removeMapping s now w.1.1 w.1.2 w.2).1 now rest).1 := by
        refine removeAll_invariant well' current' (brings effect) ?_
        intro x listed a t _ _ holds
        exact keeps x (List.mem_cons_of_mem _ listed) holds
      exact kept
    · exact ih well' current' later fun x listed => keeps x (List.mem_cons_of_mem _ listed)

theorem removeAll_keeps (now : Int) (well : WellMapped s) (current : Current s (maps.map Prod.fst)) :
    WellMapped (removeAll s now maps).1 ∧ (FacesTracked s → FacesTracked (removeAll s now maps).1) ∧
      ∀ d, ∀ p ∈ ((removeAll s now maps).1.faces d).rows, p ∈ (s.faces d).rows := by
  refine removeAll_invariant (P := fun a => WellMapped a ∧ (FacesTracked s → FacesTracked a) ∧
    ∀ d, ∀ p ∈ (a.faces d).rows, p ∈ (s.faces d).rows) well current
    ⟨well, fun tracked => tracked, fun _ _ there => there⟩ ?_
  rintro w - a t well row ⟨-, tracked, faces⟩ effect
  refine ⟨remove_wellMapped well effect, fun start => remove_tracked row (tracked start) effect, ?_⟩
  intro d p there
  exact faces d p (remove_faces effect there)

theorem removeAll_world (now : Int) (well : WellMapped s) (current : Current s (maps.map Prod.fst)) :
    SameWorld s (removeAll s now maps).1 := by
  refine removeAll_invariant well current ⟨rfl, rfl, rfl⟩ ?_
  intro w _ a t _ _ world effect
  exact world.trans (remove_world effect)

theorem removeAll_gone (now : Int) (well : WellMapped s) (current : Current s (maps.map Prod.fst))
    (answered : ∀ w ∈ maps, w.2.connects = true ∧ w.2.delete = .done) {w : (Nat × DeviceUserMapping) × RemoveCalls}
    (chosen : w ∈ maps) (person : w.1.2.devicePersonId = some uid) :
    ∀ p ∈ ((removeAll s now maps).1.faces w.1.2.deviceId).rows, p.1 ≠ uid := by
  refine removeAll_brings (P := fun a => ∀ p ∈ (a.faces w.1.2.deviceId).rows, p.1 ≠ uid) well current
    chosen ?_ ?_
  · intro a t effect
    exact remove_gone effect (answered w chosen) person
  · intro v _ a t gone effect p there
    exact gone p (remove_faces effect there)

end Removals
section Dedup
variable {s t : FaceStore} {r : Nat × DeviceUserMapping} {calls : DedupCalls}

/-- What a turn of the deduplication comes to. -/
inductive DedupEffect (s : FaceStore) (mp : DeviceUserMapping) : FaceStore → Prop where
  | kept : DedupEffect s mp s
  | halfway {uid : Nat} : DedupEffect s mp (deletePerson s mp.deviceId uid)
  | relinked {uid latest : Nat} (person : mp.devicePersonId = some uid) (differs : latest ≠ uid)
      (found : findUidByName s mp.deviceId mp.devicePersonCode = some latest) :
      DedupEffect s mp
        (relinkPersons (deletePerson s mp.deviceId uid) mp.deviceId mp.devicePersonCode latest)

theorem dedup_effect : DedupEffect s r.2 (dedupTurn s r.2 calls).1 := by
  unfold dedupTurn
  split
  · rename_i uid device person known
    split
    · exact .kept
    · split
      · exact .kept
      · rename_i latest found
        by_cases same : latest = uid
        · simp only [if_pos same]
          exact .kept
        · simp only [if_neg same]
          cases calls.delete with
          | done => exact .relinked person same found
          | refused => exact .kept
          | lost => exact .halfway
  · exact .kept

theorem find_on_device {deviceId latest : Nat} {uname : PersonName}
    (found : findUidByName s deviceId uname = some latest) : (latest, uname) ∈ (s.faces deviceId).rows := by
  obtain ⟨p, there, rfl⟩ := Option.map_eq_some_iff.mp found
  obtain ⟨row, name⟩ := findNewest_mem there
  rw [← of_decide_eq_true name]
  exact row

theorem row_of_name (well : WellMapped s) (row : r ∈ s.mappings.rows) {q : Nat × DeviceUserMapping}
    (there : q ∈ s.mappings.rows) (device : q.2.deviceId = r.2.deviceId)
    (name : q.2.devicePersonCode = r.2.devicePersonCode) : q = r := by
  rw [well.code q there, well.code r row] at name
  obtain ⟨user, booking⟩ := PersonName.mk.inj name
  exact well.one q there r row device user booking

theorem dedup_wellMapped (well : WellMapped s) (row : r ∈ s.mappings.rows) (synced : r.2.syncStatus = .synced)
    (effect : DedupEffect s r.2 t) : WellMapped t := by
  cases effect with
  | kept => exact well
  | halfway => exact deletePerson_wellMapped well
  | @relinked uid latest person differs found =>
    have live : r.2.live = true := (well.deleted r row).mpr (by rw [synced]; exact nofun)
    refine update_wellMapped (deletePerson_wellMapped well) (fun _ => ⟨rfl, rfl, rfl, rfl⟩)
      (fun _ live => live) ?_
    intro q there selected
    obtain ⟨device, name⟩ := of_decide_eq_true selected
    cases row_of_name well row there device name
    refine ⟨well.deleted r there, fun _ => iff_of_true synced rfl, ?_⟩
    rintro u ⟨⟩
    have faces : (deletePerson s r.2.deviceId uid).faces r.2.deviceId =
        (s.faces r.2.deviceId).deleteWhere fun p => p.1 = uid := Function.update_self _ _ _
    rw [faces]
    exact row_below (s.faces r.2.deviceId) (find_on_device found)

theorem dedup_tracked (well : WellMapped s) (row : r ∈ s.mappings.rows) (tracked : FacesTracked s)
    (effect : DedupEffect s r.2 t) : FacesTracked t := by
  cases effect with
  | kept => exact tracked
  | halfway => exact deletePerson_tracked tracked
  | @relinked uid latest person differs found =>
    -- The newest person of the name is in the row itself.
    obtain ⟨q, there, tracks⟩ := tracked _ _ (find_on_device found)
    have is_row := row_of_name well row there tracks.device tracks.name
    have is_uid := tracks.uid
    rw [is_row, person] at is_uid
    exact absurd (Option.some.inj is_uid).symm differs

theorem dedup_others (well : WellMapped s) (row : r ∈ s.mappings.rows) (effect : DedupEffect s r.2 t)
    {q : Nat × DeviceUserMapping} (there : q ∈ s.mappings.rows) (other : q.1 ≠ r.1) : q ∈ t.mappings.rows := by
  cases effect with
  | kept => exact there
  | halfway => exact there
  | relinked person differs found =>
    refine mem_updateWhere.mpr ⟨q, there, touch_of_false _ (decide_eq_false ?_)⟩
    rintro ⟨device, name⟩
    exact other (congrArg Prod.fst (row_of_name well row there device name))

theorem dedupAll_keeps {maps : List ((Nat × DeviceUserMapping) × DedupCalls)} (well : WellMapped s)
    (current : Current s (maps.map Prod.fst)) (synced : ∀ w ∈ maps, w.1.2.syncStatus = .synced) :
    WellMapped (dedupAll s maps).1 ∧ (FacesTracked s → FacesTracked (dedupAll s maps).1) := by
  induction maps generalizing s with
  | nil => exact ⟨well, fun tracked => tracked⟩
  | cons w rest ih =>
    have row := current.there w.1 List.mem_cons_self
    have effect : DedupEffect s w.1.2 (dedupTurn s w.1.2 w.2).1 := dedup_effect
    have well' := dedup_wellMapped well row (synced w List.mem_cons_self) effect
    have current' := current_tail current fun q there other => dedup_others well row effect there other
    obtain ⟨kept, tracked'⟩ := ih well' current' fun x there => synced x (List.mem_cons_of_mem _ there)
    exact ⟨kept, fun tracked => tracked' (dedup_tracked well row tracked effect)⟩

end Dedup

end FaceAccess
