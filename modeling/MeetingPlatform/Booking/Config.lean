import Mathlib.Data.Rat.Floor

/- The two settings that decide how close bookings may come to each other. -/
namespace MeetingBooking

def minuteMs : Int := 60000

/-- `parsed` is what `parseInt` makes of the newest config row: `none` stands for
    `NaN`, a missing row and a failed read. -/
def getRoomBookingBufferMs (parsed : Option Int) : Int :=
  match parsed with
  | none => 15 * minuteMs
  | some minutes => if minutes < 0 then 15 * minuteMs else minutes * minuteMs

theorem roomBookingBuffer_nonneg (parsed : Option Int) : 0 ≤ getRoomBookingBufferMs parsed := by
  unfold getRoomBookingBufferMs minuteMs
  split
  · omega
  · split <;> omega

/-- The fields of `meeting.extension.policy` that a request reads, with the bounds
    its loader enforces. JSON numbers need not be whole. -/
structure ExtensionPolicy where
  maxExtensionCountPerMeeting : Rat
  maxTotalExtensionMinutesPerMeeting : Rat
  bufferMinutesBeforeNextMeeting : Rat
  count_pos : 0 < maxExtensionCountPerMeeting
  total_pos : 0 < maxTotalExtensionMinutesPerMeeting
  buffer_nonneg : 0 ≤ bufferMinutesBeforeNextMeeting

structure ExtensionPolicyJson where
  maxExtensionCountPerMeeting : Option Rat := none
  maxTotalExtensionMinutesPerMeeting : Option Rat := none
  bufferMinutesBeforeNextMeeting : Option Rat := none

def positiveOr (fallback : Rat) (field : Option Rat) : Rat :=
  match field with
  | some value => if 0 < value then value else fallback
  | none => fallback

def nonnegOr (fallback : Rat) (field : Option Rat) : Rat :=
  match field with
  | some value => if 0 ≤ value then value else fallback
  | none => fallback

theorem positiveOr_pos {fallback : Rat} (h : 0 < fallback) (field : Option Rat) :
    0 < positiveOr fallback field := by
  unfold positiveOr
  split
  · split <;> assumption
  · exact h

theorem nonnegOr_nonneg {fallback : Rat} (h : 0 ≤ fallback) (field : Option Rat) :
    0 ≤ nonnegOr fallback field := by
  unfold nonnegOr
  split
  · split <;> assumption
  · exact h

def loadExtensionPolicy (config : Option ExtensionPolicyJson) : ExtensionPolicy :=
  let json := config.getD ⟨none, none, none⟩
  ⟨positiveOr 2 json.maxExtensionCountPerMeeting,
    positiveOr 60 json.maxTotalExtensionMinutesPerMeeting,
    nonnegOr 15 json.bufferMinutesBeforeNextMeeting,
    positiveOr_pos (by decide) _, positiveOr_pos (by decide) _, nonnegOr_nonneg (by decide) _⟩

/-- `new Date` drops the fraction of a millisecond, so a fractional buffer rounds up. -/
def ExtensionPolicy.bufferMs (policy : ExtensionPolicy) : Int :=
  ⌈policy.bufferMinutesBeforeNextMeeting * 60000⌉

theorem ExtensionPolicy.bufferMs_nonneg (policy : ExtensionPolicy) : 0 ≤ policy.bufferMs := by
  apply Int.ceil_nonneg
  exact mul_nonneg policy.buffer_nonneg (by decide)

structure Config where
  bufferMs : Int
  policy : ExtensionPolicy
  bufferMs_nonneg : 0 ≤ bufferMs

def Config.load (bufferMinutes : Option Int) (policy : Option ExtensionPolicyJson) : Config :=
  ⟨getRoomBookingBufferMs bufferMinutes, loadExtensionPolicy policy,
    roomBookingBuffer_nonneg bufferMinutes⟩

example : (Config.load none none).policy.bufferMs = 900000 := by decide +kernel

end MeetingBooking
