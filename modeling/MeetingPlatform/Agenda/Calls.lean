import MeetingPlatform.Agenda.Items
import MeetingPlatform.Lib.CallPool

/- The calls on the agenda and the participants of one meeting, cut into what each reads before it
   takes the lock of the meeting, and the transaction under the lock. -/
namespace Agenda
open KeyedTable Guards CallPools
open Participants (ParticipantError)

section Replace

structure AgendaItemDto where
  id : Option Nat := none
  title : String
  description : Option String := none
  ownerId : Option Nat := none
  plannedDurationMinutes : Option Int
  deriving DecidableEq, Repr

def AgendaItemDto.minutes (item : AgendaItemDto) : Int := item.plannedDurationMinutes.getD 0

def requestIds (items : List AgendaItemDto) : List Nat := items.filterMap (·.id)

variable (s : AgendaStore) (items : List AgendaItemDto) (userId : Nat)

def validateIds : Except AgendaError Unit := do
  require (s.meeting.deletedAt = none) meetingNotFound
  checkAgendaWritePermission s.meeting userId
  validateMeetingTimeForAgenda s.meeting
  validateMeetingStatusForAgendaWrite s.meeting
  require (items.length ≤ 50) (refused "AGENDA_ITEM_LIMIT_EXCEEDED")
  require ((requestIds items).Nodup) (refused "AGENDA_DUPLICATE_ITEM_ID")
  require (∀ id ∈ requestIds items, id ∈ s.agendas.rows.map Prod.fst) (refused "AGENDA_ITEM_NOT_IN_MEETING")

def validateItem (item : AgendaItemDto) : Except AgendaError Unit := do
  require (utf16Length (trimmed item.title) ≠ 0) (refused "AGENDA_TITLE_REQUIRED")
  require (utf16Length (trimmed item.title) ≤ 255) (refused "AGENDA_TITLE_TOO_LONG")
  checkDescription item.description
  require (∃ minutes ∈ item.plannedDurationMinutes, 0 < minutes) (refused "AGENDA_INVALID_DURATION")

def validateFields : Except AgendaError Unit := do
  items.forM validateItem
  require (∀ item ∈ items, ∀ ownerId ∈ item.ownerId, ownerId ∈ s.getParticipantUserIds)
    (refused "AGENDA_OWNER_NOT_PARTICIPANT")
  require ((items.map (·.minutes)).sum ≤ getMeetingDurationMinutes s.meeting)
    (refused "AGENDA_DURATION_OVERFLOW")

def sameItem (e : Nat × AgendaItem) (item : AgendaItemDto) (index : Nat) : Bool :=
  item.id = some e.1 ∧ e.2.agendaOrder = (index : Int) + 1 ∧ trimmed e.2.title = trimmed item.title ∧
    e.2.description = item.description ∧ e.2.ownerId = item.ownerId ∧
    e.2.plannedDurationMinutes = item.plannedDurationMinutes ∧ e.2.status = .planned

def isAgendaPayloadSame (existingItems : List (Nat × AgendaItem)) : Bool :=
  existingItems.length = items.length ∧
    ((byOrder existingItems).zip items.zipIdx).all fun w => sameItem w.1 w.2.1 w.2.2

/-- A row that is there already keeps its status and its creator. -/
def AgendaItemDto.overwrite (item : AgendaItemDto) (index : Nat) (row : AgendaItem) : AgendaItem :=
  { row with
    agendaOrder := (index : Int) + 1
    title := trimmed item.title
    description := item.description
    ownerId := item.ownerId
    plannedDurationMinutes := item.plannedDurationMinutes
    updatedBy := some userId }

def AgendaItemDto.create (item : AgendaItemDto) (index : Nat) : AgendaItem where
  agendaOrder := (index : Int) + 1
  title := trimmed item.title
  description := item.description
  ownerId := item.ownerId
  plannedDurationMinutes := item.plannedDurationMinutes
  status := .planned
  createdBy := some userId
  updatedBy := some userId

section Transaction
variable (existingItems : List (Nat × AgendaItem))

def keepIds : List Nat := (requestIds items).filter fun id => id ∈ existingItems.map Prod.fst

def idsToDelete : List Nat :=
  (existingItems.map Prod.fst).filter fun id => id ∉ keepIds items existingItems

/-- The items that update a row, with their places in the request. An id that was not read is passed
    over. -/
def updates : List (Nat × AgendaItemDto × Nat) :=
  items.zipIdx.filterMap fun w =>
    (w.1.id.filter fun id => id ∈ existingItems.map Prod.fst).map fun id => (id, w)

def newItems : List (AgendaItemDto × Nat) := items.zipIdx.filter fun w => w.1.id = none

/-- The writes of the transaction. They go by the items that were read before the lock was taken. -/
def replaceItems (t : Table AgendaItem) : Table AgendaItem :=
  ((t.deleteWhere fun r => r.1 ∈ idsToDelete items existingItems).updateEach
    (updates items existingItems) fun w => w.1.overwrite userId w.2).insertEach
      ((newItems items).map fun w => w.1.create userId w.2)

end Transaction

inductive ReplaceStage where
  | starting | idsChecked | validated
  | replacing (existingItems : List (Nat × AgendaItem))
  deriving DecidableEq, Repr

def loadExisting : Option ReplaceStage :=
  let existingItems := byOrder s.agendas.rows
  if isAgendaPayloadSame items existingItems then none else some (.replacing existingItems)

def replaceAgendas : ReplaceStage → AgendaStore × Option ReplaceStage
  | .starting => (s, ((validateIds s items userId).toOption.map fun _ => .idsChecked))
  | .idsChecked => (s, ((validateFields s items).toOption.map fun _ => .validated))
  | .validated => (s, loadExisting s items)
  | .replacing existingItems =>
    ({ s with agendas := replaceItems items userId existingItems s.agendas }, none)

end Replace

section Remove

def participantNotInMeeting : ParticipantError :=
  ⟨.notFound, "PARTICIPANT_NOT_IN_MEETING", "Thành viên không có trong cuộc họp này", []⟩

def meetingNotRemovable (status : MeetingBooking.MeetingStatus) : ParticipantError :=
  ⟨.conflict, "MEETING_NOT_REMOVABLE",
    "Không thể gỡ thành viên: cuộc họp không ở trạng thái scheduled",
    [("currentStatus", .text status.wire)]⟩

def removalForbidden : ParticipantError :=
  ⟨.forbidden, "FORBIDDEN", "Bạn không có quyền gỡ thành viên khỏi cuộc họp này", []⟩

def cannotRemoveHostOrOrganizer (isTargetHost : Bool) : ParticipantError :=
  ⟨.conflict, "CANNOT_REMOVE_HOST_OR_ORGANIZER", "Không thể gỡ Host hoặc Organizer khỏi cuộc họp",
    [("targetRole", .text (if isTargetHost then "host" else "organizer"))]⟩

def participantOwnsAgendaItems (agendaItemIds : List Nat) : ParticipantError :=
  ⟨.conflict, "PARTICIPANT_OWNS_AGENDA_ITEMS",
    "Thành viên đang là chủ sở hữu của một hoặc nhiều agenda items và không thể bị gỡ trước khi chuyển quyền sở hữu.",
    [("agendaItemIds", .ids agendaItemIds)]⟩

def recurringScopeNotSupported : ParticipantError :=
  ⟨.unprocessableEntity, "RECURRING_SERIES_SCOPE_NOT_SUPPORTED",
    "Không thể gỡ thành viên khỏi toàn bộ recurring series. Chỉ hỗ trợ gỡ trên một instance cụ thể.", []⟩

inductive RemoveScope where
  | instanceOnly | series
  deriving DecidableEq, Repr

inductive RemoveStage where
  | starting | found | removing
  deriving DecidableEq, Repr

variable (s : AgendaStore) (meetingId participantUserId authUserId : Nat)

def checkRemovable : Except ParticipantError Unit := do
  require (s.meeting.deletedAt = none) (Participants.meetingNotFound meetingId)
  require (s.meeting.status = .scheduled) (meetingNotRemovable s.meeting.status)
  let isOwner := s.meeting.organizerId = authUserId ∨ s.meeting.hostId = some authUserId
  require (isOwner ∨ "meeting.participant.remove" ∈ s.permissions authUserId) removalForbidden
  require (participantUserId ∈ s.getParticipantUserIds) participantNotInMeeting
  let isTargetHost := s.meeting.hostId = some participantUserId
  require (¬ (isTargetHost ∨ s.meeting.organizerId = participantUserId))
    (cannotRemoveHostOrOrganizer (decide isTargetHost))

def ownedAgendas : List Nat :=
  (s.agendas.rows.filter fun r => r.2.ownerId = some participantUserId).map Prod.fst

def checkOwnedAgendas (scope : RemoveScope) : Except ParticipantError Unit := do
  require (ownedAgendas s participantUserId = [])
    (participantOwnsAgendaItems (ownedAgendas s participantUserId))
  require (scope = .instanceOnly) recurringScopeNotSupported

def deleteParticipant : Except ParticipantError AgendaStore := do
  require (participantUserId ∈ s.getParticipantUserIds) participantNotInMeeting
  pure { s with participants := s.participants.filter fun p => p.userId ≠ participantUserId }

def removeParticipant (scope : RemoveScope) : RemoveStage → AgendaStore × Option RemoveStage
  | .starting =>
    (s, (checkRemovable s meetingId participantUserId authUserId).toOption.map fun _ => .found)
  | .found => (s, (checkOwnedAgendas s participantUserId scope).toOption.map fun _ => .removing)
  | .removing => ((deleteParticipant s participantUserId).toOption.getD s, none)

theorem deleteParticipant_store : (deleteParticipant s participantUserId).toOption.getD s =
    { s with participants := s.participants.filter fun p => p.userId ≠ participantUserId } := by
  unfold deleteParticipant require
  split
  · rfl
  · rename_i absent
    have all : (s.participants.filter fun p => p.userId ≠ participantUserId) = s.participants := by
      refine List.filter_eq_self.mpr ?_
      intro p there
      exact decide_eq_true fun same => absent (List.mem_map.mpr ⟨p, there, same⟩)
    rw [all]
    rfl

end Remove

section Calls

inductive AgendaRequest where
  | replace (items : List AgendaItemDto) (userId : Nat)
  | update (agendaId : Nat) (dto : UpdateAgendaItemDto) (userId : Nat)
  | delete (agendaId userId : Nat)
  | remove (meetingId participantUserId authUserId : Nat) (scope : RemoveScope)

inductive AgendaCall where
  | replace (items : List AgendaItemDto) (userId : Nat) (stage : ReplaceStage)
  | update (agendaId : Nat) (dto : UpdateAgendaItemDto) (userId : Nat)
  | delete (agendaId userId : Nat)
  | remove (meetingId participantUserId authUserId : Nat) (scope : RemoveScope) (stage : RemoveStage)

def AgendaRequest.enter : AgendaRequest → AgendaCall
  | .replace items userId => .replace items userId .starting
  | .update agendaId dto userId => .update agendaId dto userId
  | .delete agendaId userId => .delete agendaId userId
  | .remove meetingId participantUserId authUserId scope =>
    .remove meetingId participantUserId authUserId scope .starting

/-- A call that throws ends there, and changes nothing. -/
def AgendaCall.access (s : AgendaStore) : AgendaCall → AgendaStore × Option AgendaCall
  | .replace items userId stage =>
    let next := replaceAgendas s items userId stage
    (next.1, next.2.map (.replace items userId))
  | .update agendaId dto userId => ((updateAgendaItem s agendaId dto userId).toOption.getD s, none)
  | .delete agendaId userId => ((deleteAgendaItem s agendaId userId).toOption.getD s, none)
  | .remove meetingId participantUserId authUserId scope stage =>
    let next := removeParticipant s meetingId participantUserId authUserId scope stage
    (next.1, next.2.map (.remove meetingId participantUserId authUserId scope))

def agendaCalls : Service AgendaStore AgendaCall AgendaRequest where
  clock _ := 0
  admits _ _ := True
  enter _ r := r.enter
  act _ c s := c.access s

instance (s : AgendaStore) (r : AgendaRequest) : Decidable (agendaCalls.admits s r) :=
  inferInstanceAs (Decidable True)

end Calls
end Agenda
