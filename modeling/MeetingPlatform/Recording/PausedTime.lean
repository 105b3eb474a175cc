import MeetingPlatform.Recording.Sessions
import Mathlib.Algebra.GroupWithZero.Nat

/- How long a session is said to have been recorded. Each resume adds the whole seconds of its pause to
   those that a stop takes off; a pause that is open at the stop is not among them. -/
namespace Recording

section Accounts

inductive PauseCall where
  | pauseVideo | resumeVideo
  deriving DecidableEq, Repr

def RecordingSession.called (session : RecordingSession) : PauseCall × Nat → RecordingSession
  | (.pauseVideo, now) => if session.status = .recording then session.pause session now else session
  | (.resumeVideo, now) =>
    if session.status = .paused then session.resume session session.segNew now else session

inductive Activity where
  | recording (since : Nat)
  | paused (since : Nat)
  deriving DecidableEq, Repr

def Activity.since : Activity → Nat
  | .recording since | .paused since => since

def Activity.Of (session : RecordingSession) : Activity → Prop
  | .recording _ => session.status = .recording
  | .paused since => session.status = .paused ∧ session.metadata.pausedAt = some since

/-- A pause has been resumed, or is open at the stop. -/
inductive Stretch where
  | recorded (ms : Nat)
  | paused (ms : Nat) (resumed : Bool)
  deriving DecidableEq, Repr

def stretches (stop : Nat) : Activity → List (PauseCall × Nat) → List Stretch
  | .recording since, [] => [.recorded (stop - since)]
  | .paused since, [] => [.paused (stop - since) false]
  | .recording since, (.pauseVideo, now) :: rest =>
    .recorded (now - since) :: stretches stop (.paused now) rest
  | .recording since, (.resumeVideo, _) :: rest => stretches stop (.recording since) rest
  | .paused since, (.resumeVideo, now) :: rest =>
    .paused (now - since) true :: stretches stop (.recording now) rest
  | .paused since, (.pauseVideo, _) :: rest => stretches stop (.paused since) rest

def Stretch.recordedMs : Stretch → Nat
  | .recorded ms => ms
  | .paused _ _ => 0

def Stretch.droppedMs : Stretch → Nat
  | .paused ms true => ms % 1000
  | _ => 0

def Stretch.openPauseMs : Stretch → Nat
  | .paused ms false => ms
  | _ => 0

def Stretch.pauses : Stretch → Nat
  | .paused _ _ => 1
  | .recorded _ => 0

def total (amount : Stretch → Nat) (course : List Stretch) : Nat := (course.map amount).sum

@[simp] theorem total_nil (amount : Stretch → Nat) : total amount [] = 0 := rfl

@[simp] theorem total_cons (amount : Stretch → Nat) (st : Stretch) (course : List Stretch) :
    total amount (st :: course) = amount st + total amount course := rfl

end Accounts

section Balance
variable {session : RecordingSession} {activity : Activity} {calls : List (PauseCall × Nat)}
  {start stop : Nat}

/-- The instants of the calls follow each other, from the given one until the stop. -/
def InOrder (start stop : Nat) (calls : List (PauseCall × Nat)) : Prop :=
  (start :: calls.map Prod.snd ++ [stop]).Pairwise (· ≤ ·)

instance (start stop : Nat) (calls : List (PauseCall × Nat)) : Decidable (InOrder start stop calls) :=
  inferInstanceAs (Decidable (List.Pairwise _ _))

theorem inOrder_cons {call : PauseCall × Nat} (ordered : InOrder start stop (call :: calls)) :
    start ≤ call.2 ∧ InOrder call.2 stop calls ∧ InOrder start stop calls := by
  rw [InOrder, List.map_cons, List.cons_append, List.cons_append, List.pairwise_cons] at ordered
  refine ⟨ordered.1 _ List.mem_cons_self, ordered.2, ?_⟩
  rw [InOrder, List.cons_append, List.pairwise_cons]
  exact ⟨fun t there => ordered.1 t (List.mem_cons_of_mem _ there), (List.pairwise_cons.mp ordered.2).2⟩

theorem InOrder.le (ordered : InOrder start stop calls) : start ≤ stop := by
  rw [InOrder, List.cons_append, List.pairwise_cons] at ordered
  exact ordered.1 stop (List.mem_append_right _ List.mem_cons_self)

theorem time_balance (of : activity.Of session) (ordered : InOrder activity.since stop calls) :
    total Stretch.recordedMs (stretches stop activity calls) +
        (calls.foldl RecordingSession.called session).pausedDurationSeconds * 1000 +
        total Stretch.droppedMs (stretches stop activity calls) +
        total Stretch.openPauseMs (stretches stop activity calls) =
      session.pausedDurationSeconds * 1000 + (stop - activity.since) := by
  induction calls generalizing session activity with
  | nil =>
    cases activity with
    | recording since | paused since =>
      simp only [stretches, total_cons, total_nil, Stretch.recordedMs, Stretch.droppedMs,
        Stretch.openPauseMs, List.foldl_nil, Activity.since]
      omega
  | cons call rest ih =>
    obtain ⟨later, onward, kept⟩ := inOrder_cons ordered
    have until_stop := onward.le
    obtain ⟨call, now⟩ := call
    rw [List.foldl_cons]
    cases activity with
    | recording since =>
      have status : session.status = .recording := of
      cases call with
      | pauseVideo =>
        have paused : (Activity.paused now).Of (session.pause session now) := ⟨rfl, rfl⟩
        have balance := ih paused onward
        have same : (session.pause session now).pausedDurationSeconds =
            session.pausedDurationSeconds := rfl
        rw [RecordingSession.called, if_pos status, stretches]
        simp only [total_cons, Stretch.recordedMs, Stretch.droppedMs, Stretch.openPauseMs]
        simp only [Activity.since, same] at later balance ⊢
        omega
      | resumeVideo =>
        have other : session.status ≠ .paused := by
          rw [status]
          decide
        rw [RecordingSession.called, if_neg other]
        exact ih of kept
    | paused since =>
      obtain ⟨status, pausedAt⟩ := of
      cases call with
      | pauseVideo =>
        have other : session.status ≠ .recording := by
          rw [status]
          decide
        rw [RecordingSession.called, if_neg other]
        exact ih ⟨status, pausedAt⟩ kept
      | resumeVideo =>
        have recording : (Activity.recording now).Of (session.resume session session.segNew now) := rfl
        have balance := ih recording onward
        have added : (session.resume session session.segNew now).pausedDurationSeconds =
            session.pausedDurationSeconds + (now - since) / 1000 := by
          rw [RecordingSession.resume, pausedAt]
        have whole := Nat.div_add_mod (now - since) 1000
        rw [RecordingSession.called, if_pos status, stretches]
        simp only [total_cons, Stretch.recordedMs, Stretch.droppedMs, Stretch.openPauseMs]
        simp only [Activity.since, added] at later balance ⊢
        omega

theorem dropped_le (course : List Stretch) :
    total Stretch.droppedMs course ≤ total Stretch.pauses course * 999 := by
  induction course with
  | nil => exact Nat.le_refl _
  | cons st rest ih =>
    rw [total_cons, total_cons]
    cases st with
    | recorded ms =>
      simp only [Stretch.droppedMs, Stretch.pauses]
      omega
    | paused ms resumed =>
      cases resumed with
      | true =>
        simp only [Stretch.droppedMs, Stretch.pauses]
        omega
      | false =>
        simp only [Stretch.droppedMs, Stretch.pauses]
        omega

end Balance

section WallClock
variable {calls : List (PauseCall × Nat)} {start stop : Nat}

def sessionAfter (start : Nat) (calls : List (PauseCall × Nat)) : RecordingSession :=
  calls.foldl RecordingSession.called (.create start)

theorem startedAt_called (session : RecordingSession) (call : PauseCall × Nat) :
    (session.called call).startedAt = session.startedAt := by
  obtain ⟨call, now⟩ := call
  cases call with
  | pauseVideo =>
    rw [RecordingSession.called]
    split
    · rfl
    · rfl
  | resumeVideo =>
    rw [RecordingSession.called]
    split
    · rfl
    · rfl

theorem startedAt_calls (session : RecordingSession) (calls : List (PauseCall × Nat)) :
    (calls.foldl RecordingSession.called session).startedAt = session.startedAt := by
  induction calls generalizing session with
  | nil => rfl
  | cons call rest ih => rw [List.foldl_cons, ih, startedAt_called]

def courseOf (start stop : Nat) (calls : List (PauseCall × Nat)) : List Stretch :=
  stretches stop (.recording start) calls

theorem wallClock_balance (ordered : InOrder start stop calls) :
    (sessionAfter start calls).wallClock stop * 1000 + (stop - start) % 1000 =
      total Stretch.recordedMs (courseOf start stop calls) +
        total Stretch.droppedMs (courseOf start stop calls) +
        total Stretch.openPauseMs (courseOf start stop calls) := by
  have of : (Activity.recording start).Of (.create start) := rfl
  have balance := time_balance of ordered
  have started : (sessionAfter start calls).startedAt = start := startedAt_calls _ calls
  have none_yet : (RecordingSession.create start).pausedDurationSeconds = 0 := rfl
  have whole := Nat.div_add_mod (stop - start) 1000
  simp only [none_yet, Activity.since] at balance
  rw [RecordingSession.wallClock, started, sessionAfter, courseOf]
  omega

/-- Within a second of what was recorded, and a second more for each pause. -/
structure DurationFits (duration : Nat) (course : List Stretch) : Prop where
  least : total Stretch.recordedMs course ≤ (duration + 1) * 1000
  most : duration * 1000 ≤ total Stretch.recordedMs course + (total Stretch.pauses course + 1) * 1000

theorem wallClock_fits (ordered : InOrder start stop calls) :
    DurationFits ((sessionAfter start calls).wallClock stop) (courseOf start stop calls) ↔
      total Stretch.openPauseMs (courseOf start stop calls) +
          total Stretch.droppedMs (courseOf start stop calls) ≤
        (total Stretch.pauses (courseOf start stop calls) + 1) * 1000 + (stop - start) % 1000 := by
  have balance := wallClock_balance ordered
  have small := Nat.mod_lt (stop - start) (show 0 < 1000 by decide)
  constructor
  · intro fits
    have most := fits.most
    omega
  · intro short
    constructor
    · omega
    · omega

theorem fits_of_short_pause (ordered : InOrder start stop calls)
    (short : total Stretch.openPauseMs (courseOf start stop calls) ≤ 1000) :
    DurationFits ((sessionAfter start calls).wallClock stop) (courseOf start stop calls) := by
  have dropped := dropped_le (courseOf start stop calls)
  rw [wallClock_fits ordered]
  omega

/-- What a stop writes where ffprobe finds no duration, or no data at all, is right exactly as long as
    the open pause and what the resumes have dropped do not outweigh what is allowed for. -/
theorem stopped_duration_iff (ordered : InOrder start stop calls) (w : Stopping) {input : StopInput}
    (no_probe : input.probedDuration = none) :
    ∃ duration, ((sessionAfter start calls).stopEmpty (sessionAfter start calls) w stop).durationSeconds =
        some duration ∧
      ((sessionAfter start calls).finalize (sessionAfter start calls) input w stop).durationSeconds =
        some duration ∧
      (DurationFits duration (courseOf start stop calls) ↔
        total Stretch.openPauseMs (courseOf start stop calls) +
            total Stretch.droppedMs (courseOf start stop calls) ≤
          (total Stretch.pauses (courseOf start stop calls) + 1) * 1000 + (stop - start) % 1000) := by
  refine ⟨(sessionAfter start calls).wallClock stop, rfl, ?_, wallClock_fits ordered⟩
  rw [RecordingSession.finalize, StopInput.duration, no_probe]

/-- Ten seconds, a pause of ten and a half, and nine and a half seconds more. -/
def resumedOnce : List (PauseCall × Nat) := [(.pauseVideo, 10000), (.resumeVideo, 20500)]

theorem resumedOnce_fits : ∃ duration,
    ((sessionAfter 0 resumedOnce).finalize (sessionAfter 0 resumedOnce) ⟨true, none⟩ .orphan
        30000).durationSeconds = some duration ∧
      DurationFits duration (courseOf 0 30000 resumedOnce) := by
  have ordered : InOrder 0 30000 resumedOnce := by decide
  obtain ⟨duration, -, written, fits⟩ := @stopped_duration_iff _ _ _ ordered .orphan ⟨true, none⟩ rfl
  exact ⟨duration, written, fits.mpr (by decide)⟩

theorem open_pause_counted :
    ((sessionAfter 0 [(.pauseVideo, 10000)]).finalize (sessionAfter 0 [(.pauseVideo, 10000)]) ⟨true, none⟩
        .finished 70000).durationSeconds = some 70 ∧
      total Stretch.recordedMs (courseOf 0 70000 [(.pauseVideo, 10000)]) = 10000 ∧
      ¬ DurationFits 70 (courseOf 0 70000 [(.pauseVideo, 10000)]) := by
  refine ⟨rfl, rfl, ?_⟩
  intro fits
  exact absurd fits.most (by decide)

end WallClock
end Recording
