import MeetingPlatform.Scheduling.TimeSuggestion

/- The check of one time slot: who of the named users is busy then, and since when. -/
namespace Scheduling
open KeyedTable MeetingBooking Guards

structure CheckParticipantConflictDto where
  startTime : Option Int
  endTime : Option Int
  participantUserIds : List Nat
  excludeMeetingId : Option Nat := none
  externalParticipantEmails : Option (List String) := none

inductive Availability where
  | free | busy | unknown
  deriving DecidableEq, Repr

structure BusySlot where
  busyFrom : Int
  busyTo : Int
  deriving DecidableEq, Repr

structure ParticipantConflictItem where
  userId : Nat
  status : Availability
  busySlots : List BusySlot
  displayWarning : Bool
  warningMessage : Option String
  deriving DecidableEq, Repr

structure ExternalParticipant where
  email : String
  status : Availability
  warningMessage : String
  deriving DecidableEq, Repr

structure ParticipantConflictResponse where
  hasConflict : Bool
  checkedAt : Int
  participants : List ParticipantConflictItem
  externalParticipants : List ExternalParticipant
  deriving DecidableEq, Repr

section Errors

def slotUnreadable : ApiError := invalidRequest "startTime hoac endTime khong dung dinh dang"

def slotEndsEarly : ApiError := invalidRequest "endTime phai sau startTime"

def participantsRepeated : ApiError :=
  invalidRequest "participantUserIds chua gia tri trung lap"

def checkedUsersUnknown : ApiError :=
  invalidRequest "Mot hoac nhieu participantUserId khong ton tai hoac da bi xoa"

def checkedMeetingNotFound : ApiError :=
  ⟨.notFound, "RESOURCE_NOT_FOUND", "Khong tim thay cuoc hop voi excludeMeetingId", []⟩

def checkedMeetingDenied : ApiError :=
  ⟨.forbidden, "PERMISSION_DENIED", "Ban khong co quyen truy cap cuoc hop nay", []⟩

end Errors

section Checks

def validateSlot (start stop : Option Int) : Except ApiError (Int × Int) := do
  let start ← expect start slotUnreadable
  let stop ← expect stop slotUnreadable
  require (¬ stop ≤ start) slotEndsEarly
  return (start, stop)

def validateParticipants (db : Database) (userIds : List Nat) : Except ApiError Unit := do
  require (userIds.eraseDups.length = userIds.length) participantsRepeated
  require (usersFound db userIds.eraseDups = true) checkedUsersUnknown

def validateExcludedMeeting (db : Database) (excludeMeetingId requestingUserId : Option Nat) :
    Except ApiError Unit :=
  match excludeMeetingId with
  | none => .ok ()
  | some meetingId => do
    let m ← expect (db.store.findMeeting meetingId) checkedMeetingNotFound
    require (∀ userId ∈ requestingUserId, mayAccess db meetingId m userId = true) checkedMeetingDenied

end Checks

def countsAsConflict : MeetingStatus → Bool
  | .cancelled | .completed => false
  | _ => true

def findConflictingUserIds (db : Database) (userIds : List Nat) (start stop : Int)
    (excludeMeetingId : Option Nat) : List Nat :=
  userIds.filter fun userId => db.busyRows countsAsConflict userId start stop excludeMeetingId ≠ []

def findBusySlots (db : Database) (userId : Nat) (start stop : Int)
    (excludeMeetingId : Option Nat) : List Interval :=
  orderByStart (db.busyRows countsAsConflict userId start stop excludeMeetingId)

section Report
variable (formatTime : Int → String)

/-- `formatTime` shows an instant in the locale of the server. -/
def formatWarningMessage : List Interval → Option String
  | [] => none
  | [s] => some ("Bận từ " ++ formatTime s.start ++ " - " ++ formatTime s.stop)
  | slots => some (", ".intercalate (slots.map fun s => formatTime s.start ++ " - " ++ formatTime s.stop))

def conflictItem (db : Database) (start stop : Int) (excludeMeetingId : Option Nat)
    (busyUserIds : List Nat) (userId : Nat) : ParticipantConflictItem :=
  if userId ∈ busyUserIds then
    -- `mergeBusySlots` is the loop of `mergeIntervals` on rows
    let mergedSlots := mergeIntervals (findBusySlots db userId start stop excludeMeetingId)
    ⟨userId, .busy, mergedSlots.map fun s => ⟨s.start, s.stop⟩, true,
      formatWarningMessage formatTime mergedSlots⟩
  else ⟨userId, .free, [], false, none⟩

def checkConflicts (db : Database) (now : Int) (dto : CheckParticipantConflictDto)
    (requestingUserId : Option Nat) : Except ApiError ParticipantConflictResponse := do
  let (startTime, endTime) ← validateSlot dto.startTime dto.endTime
  validateParticipants db dto.participantUserIds
  let uniqueUserIds := dto.participantUserIds.eraseDups
  validateExcludedMeeting db dto.excludeMeetingId requestingUserId
  let busyUserIds := findConflictingUserIds db uniqueUserIds startTime endTime dto.excludeMeetingId
  let participants := uniqueUserIds.map
    (conflictItem formatTime db startTime endTime dto.excludeMeetingId busyUserIds)
  return {
    hasConflict := participants.any fun p => p.status = .busy
    checkedAt := now
    participants := participants
    externalParticipants := (dto.externalParticipantEmails.getD []).map fun email =>
      ⟨email, .unknown, "Không rõ lịch trình"⟩ }

end Report

section Results
variable {db : Database} {formatTime : Int → String} {start stop : Int} {exclude : Option Nat}
  {userIds : List Nat} {userId : Nat}

theorem conflicting_iff : userId ∈ findConflictingUserIds db userIds start stop exclude ↔
    userId ∈ userIds ∧ ∃ r ∈ db.meetingsOf userId, countsAsConflict r.2.status = true ∧
      Meets start stop exclude r := by
  rw [findConflictingUserIds, List.mem_filter, decide_eq_true_eq]
  apply and_congr_right
  intro _
  constructor
  · intro some_row
    obtain ⟨iv, row⟩ := List.exists_mem_of_ne_nil _ some_row
    obtain ⟨r, there, counted, meets, -⟩ := mem_busyRows.mp row
    exact ⟨r, there, counted, meets⟩
  · intro h
    obtain ⟨r, there, counted, meets⟩ := h
    exact List.ne_nil_of_mem (mem_busyRows.mpr ⟨r, there, counted, meets, rfl⟩)

@[simp] theorem conflictItem_userId {busyUserIds : List Nat} :
    (conflictItem formatTime db start stop exclude busyUserIds userId).userId = userId := by
  unfold conflictItem
  split <;> rfl

theorem conflictItem_free_iff {busyUserIds : List Nat} :
    (conflictItem formatTime db start stop exclude busyUserIds userId).status = .free ↔
      userId ∉ busyUserIds := by
  unfold conflictItem
  split <;> simp [*]

theorem reported_free_iff {now : Int} {dto : CheckParticipantConflictDto}
    {requestingUserId : Option Nat} {report : ParticipantConflictResponse}
    (done : checkConflicts formatTime db now dto requestingUserId = .ok report)
    (slot : dto.startTime = some start ∧ dto.endTime = some stop)
    (named : userId ∈ dto.participantUserIds) :
    (∃ p ∈ report.participants, p.userId = userId ∧ p.status = .free) ↔
      ¬ ∃ r ∈ db.meetingsOf userId, countsAsConflict r.2.status = true ∧
        Meets start stop dto.excludeMeetingId r := by
  simp only [checkConflicts, validateSlot, slot.1, slot.2, bind_eq_ok, expect_eq_ok, pure_eq_ok,
    Option.some.injEq, require_eq_ok, Prod.exists] at done
  obtain ⟨_, _, ⟨_, rfl, _, rfl, _, _, same⟩, _, _, _, _, rfl⟩ := done
  obtain ⟨rfl, rfl⟩ := Prod.mk.inj same
  have unique : userId ∈ dto.participantUserIds.eraseDups := List.mem_eraseDups.mpr named
  have listed : userId ∈ findConflictingUserIds db dto.participantUserIds.eraseDups start stop
      dto.excludeMeetingId ↔ ∃ r ∈ db.meetingsOf userId, countsAsConflict r.2.status = true ∧
        Meets start stop dto.excludeMeetingId r := by
    rw [conflicting_iff, and_iff_right unique]
  rw [← listed, ← conflictItem_free_iff]
  constructor
  · intro h
    obtain ⟨p, hp, mine, free⟩ := h
    obtain ⟨other, -, rfl⟩ := List.mem_map.mp hp
    rw [conflictItem_userId] at mine
    rw [← mine]
    exact free
  · intro free
    exact ⟨_, List.mem_map_of_mem unique, conflictItem_userId, free⟩

end Results
end Scheduling
