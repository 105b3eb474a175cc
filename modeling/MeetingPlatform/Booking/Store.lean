import MeetingPlatform.Lib.Table
import MeetingPlatform.Lib.Guards
import MeetingPlatform.Lib.HalfOpen

/- The rows of meetings, meeting requests and room bookings, and the queries the
   services run on them. Instants are epoch milliseconds; uuids are table keys. -/
namespace MeetingBooking
open KeyedTable HalfOpen

inductive MeetingStatus where
  | draft | pendingApproval | scheduled | inProgress | completed | cancelled
  deriving DecidableEq, Repr

inductive RoomBookingStatus where
  | pending | approved | active | completed | cancelled | released
  deriving DecidableEq, Repr

inductive MeetingRequestType where
  | createMeeting | updateTime | updateRoom | cancelMeeting | extendMeeting | bookRoom
  deriving DecidableEq, Repr

inductive ApprovalStatus where
  | pending | approved | rejected | applied | cancelled | expired
  deriving DecidableEq, Repr

inductive RoomStatus where
  | available | occupied | reserved | maintenance | inactive
  deriving DecidableEq, Repr

structure Meeting where
  organizerId : Nat
  hostId : Option Nat
  roomId : Option Nat
  startTime : Int
  endTime : Int
  status : MeetingStatus
  actualStartTime : Option Int := none
  actualEndTime : Option Int := none
  expectedAttendeeCount : Option Nat := none
  recurrenceRuleId : Option Nat := none
  parentMeetingId : Option Nat := none
  deletedAt : Option Int := none
  deriving DecidableEq, Repr

/-- `extensionMinutes` is the one field of `requestPayloadJson` that is read back. -/
structure MeetingRequest where
  meetingId : Option Nat
  requestType : MeetingRequestType
  requestedBy : Nat
  targetRoomId : Option Nat := none
  requestedStartTime : Option Int := none
  requestedEndTime : Option Int := none
  approvalStatus : ApprovalStatus
  extensionMinutes : Option Nat := none
  deriving DecidableEq, Repr

structure RoomBooking where
  meetingId : Nat
  roomId : Nat
  reservedStartTime : Int
  reservedEndTime : Int
  status : RoomBookingStatus
  deriving DecidableEq, Repr

structure MeetingParticipant where
  meetingId : Nat
  userId : Nat
  deriving DecidableEq, Repr

structure Room where
  isActive : Bool
  currentStatus : RoomStatus
  administrativeStatus : RoomStatus
  capacity : Option Nat
  deriving DecidableEq, Repr

/-- Reference data that the operations read and never write. -/
structure Directory where
  room : Nat → Option Room
  activeUser : Nat → Bool
  ineligibleForMeetings : Nat → Bool
  faultyEquipments : Nat → List Nat
  hasPermission : Nat → String → Bool
  approverIds : List Nat

structure Store where
  meetings : Table Meeting
  requests : Table MeetingRequest
  bookings : Table RoomBooking
  participants : Table MeetingParticipant
  externalParticipants : Table Nat

def Store.empty : Store := ⟨.empty, .empty, .empty, .empty, .empty⟩

def RoomBookingStatus.holdsRoom : RoomBookingStatus → Bool
  | .approved | .active => true
  | _ => false

def RoomBookingStatus.isLive : RoomBookingStatus → Bool
  | .pending | .approved | .active => true
  | _ => false

def MeetingRequestType.isUpdate : MeetingRequestType → Bool
  | .updateTime | .updateRoom => true
  | _ => false

def supportedRequestTypes : List MeetingRequestType := [.createMeeting, .updateTime, .updateRoom]

theorem live_of_holds {st : RoomBookingStatus} (h : st.holdsRoom = true) : st.isLive = true := by
  cases st <;> simp_all [RoomBookingStatus.holdsRoom, RoomBookingStatus.isLive]

/-- A `findOne` leaves soft-deleted meetings out. -/
def Store.findMeeting (s : Store) (meetingId : Nat) : Option Meeting :=
  (s.meetings.get? meetingId).filter fun m => m.deletedAt = none

theorem findMeeting_eq_some {s : Store} {i : Nat} {m : Meeting} :
    s.findMeeting i = some m ↔ (i, m) ∈ s.meetings.rows ∧ m.deletedAt = none := by
  simp [Store.findMeeting, Option.filter_eq_some_iff]

def ofMeeting (meetingId : Nat) (among : RoomBookingStatus → Bool) : Nat × RoomBooking → Bool :=
  fun r => r.2.meetingId = meetingId ∧ among r.2.status

def pendingOf (meetingId : Nat) : Nat × MeetingRequest → Bool :=
  fun r => r.2.meetingId = some meetingId ∧ r.2.approvalStatus = .pending

/-- The bookings of a room that a target span would run into, `buffer` included. -/
def Store.roomConflicts (s : Store) (buffer : Int) (roomId : Nat) (exclude : Option Nat)
    (startTime endTime : Int) : List (Nat × RoomBooking) :=
  s.bookings.select fun r => r.2.roomId = roomId ∧ r.2.status.holdsRoom ∧ exclude ≠ some r.1 ∧
    Clashes buffer startTime endTime r.2.reservedStartTime r.2.reservedEndTime

theorem mem_roomConflicts {s : Store} {buffer : Int} {roomId : Nat} {exclude : Option Nat}
    {startTime endTime : Int} {r : Nat × RoomBooking} :
    r ∈ s.roomConflicts buffer roomId exclude startTime endTime ↔
      r ∈ s.bookings.rows ∧ r.2.roomId = roomId ∧ r.2.status.holdsRoom = true ∧
        exclude ≠ some r.1 ∧
        Clashes buffer startTime endTime r.2.reservedStartTime r.2.reservedEndTime := by
  simp [Store.roomConflicts, mem_select]

theorem apart_of_no_conflict {s : Store} {buffer : Int} {roomId : Nat} {exclude : Option Nat}
    {startTime endTime : Int} (free : 0 ≤ buffer)
    (none_found : s.roomConflicts buffer roomId exclude startTime endTime = [])
    {r : Nat × RoomBooking} (row : r ∈ s.bookings.rows) (room : r.2.roomId = roomId)
    (holds : r.2.status.holdsRoom = true) (other : exclude ≠ some r.1) :
    Apart startTime endTime r.2.reservedStartTime r.2.reservedEndTime := by
  apply apart_of_not_clashes free
  intro clash
  have : r ∈ s.roomConflicts buffer roomId exclude startTime endTime :=
    mem_roomConflicts.mpr ⟨row, room, holds, other, clash⟩
  simp [none_found] at this

end MeetingBooking
