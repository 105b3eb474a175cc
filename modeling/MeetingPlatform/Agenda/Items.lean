import MeetingPlatform.Lib.Numbering
import MeetingPlatform.Lib.TableWrites
import MeetingPlatform.Participants.RoomCapacity
import MeetingPlatform.Vehicles.PlateReads
import Mathlib.Algebra.GroupWithZero.Nat
import Mathlib.Algebra.Ring.Int.Defs

/- The agenda of one meeting, and the transactions that change or delete one item of it. -/
namespace Agenda
open KeyedTable Guards Numbering
open MeetingBooking (Meeting HttpException)
open Participants (Participant)

section Rows

inductive AgendaStatus where
  | planned | inProgress | done | skipped
  deriving DecidableEq, Repr

structure AgendaItem where
  agendaOrder : Int
  title : String
  description : Option String
  ownerId : Option Nat
  plannedDurationMinutes : Option Int
  status : AgendaStatus
  createdBy : Option Nat
  updatedBy : Option Nat
  deriving DecidableEq, Repr

def AgendaItem.minutes (item : AgendaItem) : Int := item.plannedDurationMinutes.getD 0

structure AgendaStore where
  meeting : Meeting
  permissions : Nat → List String
  participants : List Participant
  agendas : Table AgendaItem

def AgendaStore.getParticipantUserIds (s : AgendaStore) : List Nat := s.participants.map (·.userId)

def byOrder (rows : List (Nat × AgendaItem)) : List (Nat × AgendaItem) :=
  rows.insertionSort fun a b => a.2.agendaOrder ≤ b.2.agendaOrder

/-- The number of code units, which is what a text's `length` counts. -/
def utf16Length (text : String) : Nat :=
  (text.toList.map fun c => if c.toNat < 65536 then 1 else 2).sum

def trimmed (text : String) : String := String.ofList (Anpr.trim text.toList)

end Rows

section Failures

inductive AgendaError where
  | thrown (exception : HttpException) (message : String)
  | typeError
  deriving DecidableEq, Repr

def meetingNotFound : AgendaError := .thrown .notFound "MEETING_NOT_FOUND"

def agendaItemNotFound : AgendaError := .thrown .notFound "AGENDA_ITEM_NOT_FOUND"

def agendaWriteForbidden : AgendaError := .thrown .forbidden "AGENDA_WRITE_FORBIDDEN"

def meetingTimeInvalid : AgendaError := .thrown .conflict "MEETING_TIME_INVALID_FOR_AGENDA"

def meetingStatusBlocked : AgendaError := .thrown .conflict "AGENDA_MEETING_STATUS_BLOCKED"

def updatePayloadEmpty : AgendaError := .thrown .badRequest "AGENDA_UPDATE_PAYLOAD_EMPTY"

def refused (message : String) : AgendaError := .thrown .unprocessableEntity message

end Failures

section Checks
variable (meeting : Meeting)

def checkAgendaWritePermission (userId : Nat) : Except AgendaError Unit :=
  require (meeting.organizerId = userId ∨ meeting.hostId = some userId) agendaWriteForbidden

def validateMeetingTimeForAgenda : Except AgendaError Unit :=
  require (meeting.startTime < meeting.endTime) meetingTimeInvalid

def validateMeetingStatusForAgendaWrite : Except AgendaError Unit :=
  require (meeting.status = .pendingApproval ∨ meeting.status = .scheduled) meetingStatusBlocked

def getMeetingDurationMinutes : Int := (meeting.endTime - meeting.startTime) / 60000

end Checks

section Update

/-- A field is left out, or null, or has a value. -/
structure UpdateAgendaItemDto where
  title : Option (Option String) := none
  description : Option (Option String) := none
  ownerId : Option (Option Nat) := none
  plannedDurationMinutes : Option (Option Int) := none
  agendaOrder : Option (Option Int) := none
  deriving DecidableEq, Repr

def isAgendaUpdatePayloadEmpty (dto : UpdateAgendaItemDto) : Bool :=
  dto.title = none ∧ dto.description = none ∧ dto.ownerId = none ∧
    dto.plannedDurationMinutes = none ∧ dto.agendaOrder = none

/-- The trimmed title, if there is one. A title that is null cannot be trimmed. -/
def normalizeTitle : Option (Option String) → Except AgendaError (Option String)
  | none => pure none
  | some none => .error .typeError
  | some (some title) => do
    let normalizedTitle := trimmed title
    require (utf16Length normalizedTitle ≠ 0) (refused "AGENDA_TITLE_REQUIRED")
    require (utf16Length normalizedTitle ≤ 255) (refused "AGENDA_TITLE_TOO_LONG")
    pure (some normalizedTitle)

def checkDescription (description : Option String) : Except AgendaError Unit :=
  require (∀ text ∈ description, utf16Length text ≤ 2000) (refused "AGENDA_DESCRIPTION_TOO_LONG")

def checkDuration : Option (Option Int) → Except AgendaError (Option Int)
  | none => pure none
  | some duration => do
    let minutes ← expect duration (refused "AGENDA_INVALID_DURATION")
    require (0 < minutes) (refused "AGENDA_INVALID_DURATION")
    pure (some minutes)

/-- The new numbers of all items that change theirs, the moved item among them. -/
def computeAgendaOrderShift (items : List (Nat × AgendaItem)) (itemId : Nat) (newOrder : Int) :
    Except AgendaError (List (Nat × Int)) := do
  require (1 ≤ newOrder ∧ newOrder ≤ items.length) (refused "AGENDA_INVALID_ORDER")
  let sorted := byOrder items
  let currentIndex ← expect (sorted.findIdx? fun r => r.1 = itemId) agendaItemNotFound
  let reordered := moveTo sorted currentIndex (newOrder - 1).toNat
  pure ((reordered.zipIdx.filter fun w => w.1.2.agendaOrder ≠ (w.2 : Int) + 1).map fun w =>
    (w.1.1, (w.2 : Int) + 1))

/-- Only a number other than the one the item has moves it. -/
def shiftPlan (items : List (Nat × AgendaItem)) (itemId : Nat) (item : AgendaItem) :
    Option (Option Int) → Except AgendaError (Option (List (Nat × Int)))
  | none => pure none
  | some agendaOrder =>
    if agendaOrder = some item.agendaOrder then pure none
    else do
      let newOrder ← expect agendaOrder (refused "AGENDA_INVALID_ORDER")
      let orderShiftMap ← computeAgendaOrderShift items itemId newOrder
      pure (some orderShiftMap)

def checkOwner (s : AgendaStore) (ownerId : Option (Option Nat)) : Except AgendaError Unit :=
  require (∀ userId ∈ ownerId.join, userId ∈ s.getParticipantUserIds)
    (refused "AGENDA_OWNER_NOT_PARTICIPANT")

/-- What is put into the row; a field that stays as it is is left out. -/
structure UpdateFields where
  title : Option String
  description : Option (Option String)
  ownerId : Option (Option Nat)
  plannedDurationMinutes : Option Int
  agendaOrder : Option Int
  deriving DecidableEq, Repr

def UpdateFields.apply (fields : UpdateFields) (userId : Nat) (row : AgendaItem) : AgendaItem :=
  { row with
    title := fields.title.getD row.title
    description := fields.description.getD row.description
    ownerId := fields.ownerId.getD row.ownerId
    plannedDurationMinutes := fields.plannedDurationMinutes.or row.plannedDurationMinutes
    agendaOrder := fields.agendaOrder.getD row.agendaOrder
    updatedBy := some userId }

/-- The fields that have been checked, against what the row has. -/
def changedFields (itemId : Nat) (item : AgendaItem) (normalizedTitle : Option String)
    (dto : UpdateAgendaItemDto) (duration : Option Int) (shift : Option (List (Nat × Int))) :
    UpdateFields where
  title := normalizedTitle.filter fun title => title ≠ item.title
  description := dto.description.filter fun description => description ≠ item.description
  ownerId := dto.ownerId.filter fun ownerId => ownerId ≠ item.ownerId
  plannedDurationMinutes := duration.filter fun minutes => some minutes ≠ item.plannedDurationMinutes
  agendaOrder := shift.map fun orderShiftMap => (OrderedMap.get orderShiftMap itemId).getD item.agendaOrder

def UpdateFields.isNoOp (fields : UpdateFields) : Bool :=
  fields.title = none ∧ fields.description = none ∧ fields.ownerId = none ∧
    fields.plannedDurationMinutes = none ∧ fields.agendaOrder = none

def checkTotal (s : AgendaStore) (agendaId : Nat) (item : AgendaItem) (duration : Option Int) :
    Except AgendaError Unit :=
  let newPlannedDuration := duration.getD item.minutes
  let totalOthers := ((s.agendas.rows.filter fun r => r.1 ≠ agendaId).map fun r => r.2.minutes).sum
  require (totalOthers + newPlannedDuration ≤ getMeetingDurationMinutes s.meeting)
    (refused "AGENDA_DURATION_OVERFLOW")

/-- The updates of the other items that are moved, and the one of the item itself. -/
def writeUpdate (t : Table AgendaItem) (agendaId userId : Nat) (shift : Option (List (Nat × Int)))
    (fields : UpdateFields) : Table AgendaItem :=
  let others := (shift.getD []).filter fun w => w.1 ≠ agendaId
  (t.updateEach others fun newOrder row => { row with agendaOrder := newOrder }).update agendaId
    (fields.apply userId)

def updateAgendaItem (s : AgendaStore) (agendaId : Nat) (dto : UpdateAgendaItemDto) (userId : Nat) :
    Except AgendaError AgendaStore := do
  require (isAgendaUpdatePayloadEmpty dto = false) updatePayloadEmpty
  require (s.meeting.deletedAt = none) meetingNotFound
  let item ← expect (s.agendas.get? agendaId) agendaItemNotFound
  checkAgendaWritePermission s.meeting userId
  validateMeetingTimeForAgenda s.meeting
  validateMeetingStatusForAgendaWrite s.meeting
  let normalizedTitle ← normalizeTitle dto.title
  checkDescription dto.description.join
  let duration ← checkDuration dto.plannedDurationMinutes
  let shift ← shiftPlan (byOrder s.agendas.rows) agendaId item dto.agendaOrder
  checkOwner s dto.ownerId
  let fields := changedFields agendaId item normalizedTitle dto duration shift
  if fields.isNoOp then pure s
  else do
    checkTotal s agendaId item duration
    pure { s with agendas := writeUpdate s.agendas agendaId userId shift fields }

end Update

section Delete

def renormalizeAfterDelete (t : Table AgendaItem) (deletedOrder : Int) : Table AgendaItem :=
  t.updateWhere (fun r => deletedOrder < r.2.agendaOrder) fun row =>
    { row with agendaOrder := row.agendaOrder - 1 }

def deleteAgendaItem (s : AgendaStore) (agendaId userId : Nat) : Except AgendaError AgendaStore := do
  require (s.meeting.deletedAt = none) meetingNotFound
  let item ← expect (s.agendas.get? agendaId) agendaItemNotFound
  checkAgendaWritePermission s.meeting userId
  validateMeetingStatusForAgendaWrite s.meeting
  let remaining := s.agendas.deleteWhere fun r => r.1 = agendaId
  pure { s with agendas := renormalizeAfterDelete remaining item.agendaOrder }

end Delete

section Specifications
variable {s s' : AgendaStore} {agendaId userId : Nat} {dto : UpdateAgendaItemDto}

theorem updateAgendaItem_cases (ok : updateAgendaItem s agendaId dto userId = .ok s') :
    s' = s ∨ ∃ item title duration shift,
      (agendaId, item) ∈ s.agendas.rows ∧ checkDuration dto.plannedDurationMinutes = .ok duration ∧
      shiftPlan (byOrder s.agendas.rows) agendaId item dto.agendaOrder = .ok shift ∧
      checkOwner s dto.ownerId = .ok () ∧ checkTotal s agendaId item duration = .ok () ∧
      s' = { s with
        agendas := writeUpdate s.agendas agendaId userId shift
          (changedFields agendaId item title dto duration shift) } := by
  simp only [updateAgendaItem, bind_eq_ok, expect_eq_ok, get?_eq_some] at ok
  obtain ⟨-, -, -, -, item, there, -, -, -, -, -, -, title, -, -, -, duration, checked, shift, planned,
    owner, owned, ok⟩ := ok
  split at ok
  · exact Or.inl (pure_eq_ok.mp ok).symm
  · obtain ⟨total, fits, ok⟩ := bind_eq_ok.mp ok
    exact Or.inr ⟨item, title, duration, shift, there, checked, planned, owned, fits, (pure_eq_ok.mp ok).symm⟩

theorem deleteAgendaItem_cases (ok : deleteAgendaItem s agendaId userId = .ok s') :
    ∃ item, (agendaId, item) ∈ s.agendas.rows ∧
      s' = { s with
        agendas := renormalizeAfterDelete (s.agendas.deleteWhere fun r => r.1 = agendaId)
          item.agendaOrder } := by
  simp only [deleteAgendaItem, bind_eq_ok, expect_eq_ok, get?_eq_some, pure_eq_ok] at ok
  obtain ⟨-, -, item, there, -, -, -, -, rfl⟩ := ok
  exact ⟨item, there, rfl⟩

theorem checkDuration_positive {planned : Option (Option Int)} {duration : Option Int}
    (checked : checkDuration planned = .ok duration) : ∀ minutes ∈ duration, 0 < minutes := by
  rcases planned with _ | planned
  · cases checked
    nofun
  · simp only [checkDuration, bind_eq_ok, require_eq_ok, pure_eq_ok] at checked
    obtain ⟨minutes, -, -, positive, rfl⟩ := checked
    rintro _ ⟨⟩
    exact positive

theorem computeAgendaOrderShift_corrections {items : List (Nat × AgendaItem)} {itemId : Nat}
    {newOrder : Int} {shift : List (Nat × Int)}
    (computed : computeAgendaOrderShift items itemId newOrder = .ok shift) :
    ∃ reordered, reordered.Perm items ∧ shift = corrections Prod.fst (·.2.agendaOrder) reordered := by
  simp only [computeAgendaOrderShift, bind_eq_ok, require_eq_ok, pure_eq_ok] at computed
  obtain ⟨-, inside, currentIndex, -, rfl⟩ := computed
  refine ⟨_, ?_, rfl⟩
  have sorted : (byOrder items).Perm items := List.perm_insertionSort _ items
  refine (moveTo_perm _ _ ?_).trans sorted
  rw [sorted.length_eq]
  omega

theorem shiftPlan_cases {t : Table AgendaItem} {item : AgendaItem} {order : Option (Option Int)}
    {shift : Option (List (Nat × Int))} (planned : shiftPlan (byOrder t.rows) agendaId item order = .ok shift) :
    shift = none ∨ ∃ reordered, t.rows.Perm reordered ∧
      shift = some (corrections Prod.fst (fun r : Nat × AgendaItem => r.2.agendaOrder) reordered) := by
  unfold shiftPlan at planned
  split at planned
  · exact Or.inl (pure_eq_ok.mp planned).symm
  · split at planned
    · exact Or.inl (pure_eq_ok.mp planned).symm
    · simp only [bind_eq_ok, pure_eq_ok] at planned
      obtain ⟨newOrder, -, orderShiftMap, computed, rfl⟩ := planned
      obtain ⟨reordered, same, rfl⟩ := computeAgendaOrderShift_corrections computed
      exact Or.inr ⟨reordered, (same.trans (List.perm_insertionSort _ t.rows)).symm, rfl⟩

theorem shiftPlan_once {t : Table AgendaItem} {item : AgendaItem} {order : Option (Option Int)}
    {shift : Option (List (Nat × Int))} (planned : shiftPlan (byOrder t.rows) agendaId item order = .ok shift) :
    ((shift.getD []).map Prod.fst).Nodup := by
  rcases shiftPlan_cases planned with rfl | ⟨reordered, rows, rfl⟩
  · exact List.nodup_nil
  · change ((corrections Prod.fst (fun r : Nat × AgendaItem => r.2.agendaOrder) reordered).map
      Prod.fst).Nodup
    exact corrections_once ((rows.map Prod.fst).nodup_iff.mp (keys_nodup t))

end Specifications

section Writes
variable {t : Table AgendaItem} {agendaId userId : Nat} {item : AgendaItem}
  {shift : Option (List (Nat × Int))} {title : Option String} {duration : Option Int}
  {dto : UpdateAgendaItemDto}

def updated (agendaId userId : Nat) (shift : Option (List (Nat × Int))) (fields : UpdateFields)
    (r : Nat × AgendaItem) : Nat × AgendaItem :=
  if r.1 = agendaId then (r.1, fields.apply userId r.2)
  else (r.1, { r.2 with
    agendaOrder := (OrderedMap.get (shift.getD []) r.1).getD r.2.agendaOrder })

theorem writeUpdate_rows {fields : UpdateFields} (once : ((shift.getD []).map Prod.fst).Nodup) :
    (writeUpdate t agendaId userId shift fields).rows =
      t.rows.map (updated agendaId userId shift fields) := by
  have others_once : (((shift.getD []).filter fun w => w.1 ≠ agendaId).map Prod.fst).Nodup :=
    once.sublist (List.filter_sublist.map Prod.fst)
  change ((t.updateEach _ _).rows.map (touch (fun r => r.1 = agendaId) (fields.apply userId))) = _
  rw [updateEach_rows others_once, List.map_map]
  refine List.map_congr_left ?_
  intro r _
  rw [Function.comp_apply, updated]
  by_cases here : r.1 = agendaId
  · have absent : r.1 ∉ ((shift.getD []).filter fun w => w.1 ≠ agendaId).map Prod.fst := by
      intro there
      obtain ⟨w, member, same⟩ := List.mem_map.mp there
      exact of_decide_eq_true (List.mem_filter.mp member).2 (same.trans here)
    rw [written_of_none (get_eq_none absent), touch_of_true _ (decide_eq_true here), if_pos here]
  · rw [if_neg here, touch_of_false _ (by rw [written_key]; exact decide_eq_false here), written,
      get_filter here]
    cases OrderedMap.get (shift.getD []) r.1 with
    | none => rfl
    | some newOrder => rfl

theorem updated_cases {fields : UpdateFields} (there : (agendaId, item) ∈ t.rows)
    {r : Nat × AgendaItem} (stored : r ∈ t.rows) :
    r = (agendaId, item) ∧ updated agendaId userId shift fields r = (agendaId, fields.apply userId item) ∨
      r.1 ≠ agendaId ∧ updated agendaId userId shift fields r =
        (r.1, { r.2 with agendaOrder := (OrderedMap.get (shift.getD []) r.1).getD r.2.agendaOrder }) := by
  obtain ⟨k, row⟩ := r
  by_cases here : k = agendaId
  · subst here
    obtain rfl : row = item := key_unique t stored there
    exact Or.inl ⟨rfl, if_pos rfl⟩
  · exact Or.inr ⟨here, if_neg here⟩

theorem updated_order (there : (agendaId, item) ∈ t.rows) {r : Nat × AgendaItem} (stored : r ∈ t.rows) :
    (updated agendaId userId shift (changedFields agendaId item title dto duration shift) r).2.agendaOrder =
      (OrderedMap.get (shift.getD []) r.1).getD r.2.agendaOrder := by
  rcases updated_cases there stored with ⟨rfl, changed⟩ | ⟨-, shifted⟩
  · rw [changed]
    cases shift with
    | none => rfl
    | some orderShiftMap => rfl
  · rw [shifted]

theorem updated_minutes (there : (agendaId, item) ∈ t.rows) {r : Nat × AgendaItem} (stored : r ∈ t.rows) :
    (updated agendaId userId shift (changedFields agendaId item title dto duration shift) r).2.minutes =
      if r.1 = agendaId then duration.getD item.minutes else r.2.minutes := by
  rcases updated_cases there stored with ⟨rfl, changed⟩ | ⟨other, shifted⟩
  · rw [changed, if_pos rfl]
    change ((duration.filter fun minutes => some minutes ≠ item.plannedDurationMinutes).or
      item.plannedDurationMinutes).getD 0 = _
    cases duration with
    | none => rfl
    | some minutes =>
      by_cases same : some minutes = item.plannedDurationMinutes
      · rw [← same]
        simp [Option.filter]
      · simp [Option.filter, same]
  · rw [shifted, if_neg other]
    rfl

theorem updated_owner (there : (agendaId, item) ∈ t.rows) {r : Nat × AgendaItem} (stored : r ∈ t.rows) :
    (updated agendaId userId shift (changedFields agendaId item title dto duration shift) r).2.ownerId =
      if r.1 = agendaId then dto.ownerId.getD item.ownerId else r.2.ownerId := by
  rcases updated_cases there stored with ⟨rfl, changed⟩ | ⟨other, shifted⟩
  · rw [changed, if_pos rfl]
    change (dto.ownerId.filter fun ownerId => ownerId ≠ item.ownerId).getD item.ownerId = _
    cases dto.ownerId with
    | none => rfl
    | some ownerId =>
      by_cases same : ownerId = item.ownerId
      · simp [Option.filter, same]
      · simp [Option.filter, same]
  · rw [shifted, if_neg other]

end Writes
end Agenda
