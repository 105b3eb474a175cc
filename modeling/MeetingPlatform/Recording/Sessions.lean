import MeetingPlatform.Lib.Runs
import MeetingPlatform.Recording.Processes

/- One recording session with everything that reads and writes it. The calls that take the advisory
   lock of the session go one at a time; `startVideo`, the exit handlers and the processes themselves
   come in between as they like. -/
namespace Recording
open LabelledRuns

section Rows

inductive RecordingStatus where
  | starting | recording | paused | stopped | failed | processing
  deriving DecidableEq, Repr

structure RecordingMetadata where
  segments : List StoragePath
  pausedAt : Option Nat
  pauseCount : Nat
  orphanStop : Bool
  deriving DecidableEq, Repr

/-- A row of `recording_sessions`. Instants are milliseconds. -/
structure RecordingSession where
  status : RecordingStatus
  storagePath : Option StoragePath
  startedAt : Nat
  stoppedAt : Option Nat
  pausedDurationSeconds : Nat
  durationSeconds : Option Nat
  errorMessage : Option String
  metadata : RecordingMetadata
  deriving DecidableEq, Repr

/-- A `video` row of `media_files` that names the session. -/
structure MediaFile where
  storageKey : StoragePath
  durationSeconds : Nat
  deriving DecidableEq, Repr

/-- What the world has in store for a `stopVideo`: the exit of the concat, the duration that ffprobe
    finds. -/
structure StopInput where
  concatSucceeds : Bool
  probedDuration : Option Nat
  deriving DecidableEq, Repr

/-- `configured` says whether the camera has its RTSP settings. -/
inductive LockedRequest where
  | pauseVideo
  | resumeVideo (configured : Bool)
  | stopVideo (input : StopInput)
  | stopListed (input : StopInput)
  deriving DecidableEq, Repr

inductive LockedCall where
  | pauseRead (session : RecordingSession)
  | pauseStopping (session : RecordingSession) (w : Stopping)
  | resumeRead (session : RecordingSession)
  | resumeProbing (session : RecordingSession) (outPath : StoragePath) (deadline : Nat)
  | resumeCapturing (session : RecordingSession) (outPath : StoragePath)
  | resumeStopping (session : RecordingSession) (w : Stopping)
  | stopRead (session : RecordingSession) (input : StopInput)
  | stopStopping (session : RecordingSession) (input : StopInput) (w : Stopping)
  | stopReturning
  deriving DecidableEq, Repr

inductive StartStage where
  | absent
  | created
  | probing (deadline : Nat)
  | stopping (w : Stopping)
  | returned
  deriving DecidableEq, Repr

/-- `listed` counts the calls that `stopAllActiveForMeeting` has still to make, and `failedResume`
    remembers the row that the last `RECORDING_NO_VIDEO` had read, until another call takes over. -/
structure RecordingState where
  row : Option RecordingSession
  media : List MediaFile
  files : List StoragePath
  manager : ProcessManager
  starter : StartStage
  holder : Option LockedCall
  listed : Nat
  failedResume : Option RecordingSession
  deriving DecidableEq, Repr

inductive RecordingAction where
  | startVideo
  | starter
  | begin (request : LockedRequest)
  | holder
  | stopAllActiveForMeeting
  | exits (pid : Nat) (code : Bool) (errorMessage : String)
  | kills (pid : Nat)
  | data (pid : Nat)
  | markFailed (pid : Nat)
  | forgets (pid : Nat)
  deriving DecidableEq, Repr

structure RecordingTurn where
  now : Nat
  action : RecordingAction
  deriving DecidableEq, Repr

def RecordingState.initial : RecordingState := ⟨none, [], [], .empty, .absent, none, 0, none⟩

end Rows

section Columns

def startProbeMs : Nat := 5000

def RecordingStatus.IsActive (status : RecordingStatus) : Prop :=
  status = .starting ∨ status = .recording ∨ status = .paused

instance (status : RecordingStatus) : Decidable status.IsActive :=
  inferInstanceAs (Decidable (_ ∨ _ ∨ _))

def RecordingSession.create (now : Nat) : RecordingSession where
  status := .recording
  storagePath := some .main
  startedAt := now
  stoppedAt := none
  pausedDurationSeconds := 0
  durationSeconds := none
  errorMessage := none
  metadata := ⟨[], none, 0, false⟩

variable (session : RecordingSession)

def RecordingSession.fail (now : Nat) (errorMessage : String) : RecordingSession :=
  { session with
    status := .failed
    errorMessage := some errorMessage
    stoppedAt := some now }

def RecordingSession.pausedSegments : List StoragePath :=
  match session.storagePath with
  | none => session.metadata.segments
  | some path =>
    if path ∈ session.metadata.segments then session.metadata.segments
    else session.metadata.segments ++ [path]

/-- `read` is the row as `pauseVideo` has read it. -/
def RecordingSession.pause (read : RecordingSession) (now : Nat) : RecordingSession :=
  { session with
    status := .paused
    metadata := { read.metadata with
      segments := read.pausedSegments
      pausedAt := some now
      pauseCount := read.metadata.pauseCount + 1 } }

def RecordingSession.segNew : StoragePath := .segment session.metadata.segments.length

def RecordingSession.resume (read : RecordingSession) (segNew : StoragePath) (now : Nat) :
    RecordingSession :=
  { session with
    status := .recording
    pausedDurationSeconds := read.pausedDurationSeconds +
      (match read.metadata.pausedAt with
        | none => 0
        | some pausedAt => (now - pausedAt) / 1000)
    storagePath := some segNew
    metadata := { read.metadata with
      segments := read.metadata.segments ++ [segNew]
      pausedAt := none } }

def RecordingSession.wallClock (now : Nat) : Nat :=
  (now - session.startedAt) / 1000 - session.pausedDurationSeconds

/-- `none` where the concat fails. -/
def RecordingSession.resolveStopFile (files : List StoragePath) (concatSucceeds : Bool) :
    Option (Option StoragePath) :=
  match session.metadata.segments.filter fun path => path ∈ files with
  | [] => some session.storagePath
  | [only] => some (some only)
  | _ :: _ :: _ => if concatSucceeds then some (some .final) else none

def StoragePath.HasData (files : List StoragePath) (path : StoragePath) : Prop :=
  path = .final ∨ path ∈ files

instance (files : List StoragePath) (path : StoragePath) : Decidable (path.HasData files) :=
  inferInstanceAs (Decidable (path = .final ∨ path ∈ files))

def RecordingSession.stopMetadata (w : Stopping) : RecordingMetadata :=
  if w = .orphan then { session.metadata with orphanStop := true } else session.metadata

def RecordingSession.stopEmpty (read : RecordingSession) (w : Stopping) (now : Nat) :
    RecordingSession :=
  { session with
    status := .stopped
    stoppedAt := some now
    durationSeconds := some (read.wallClock now)
    errorMessage := some "empty file"
    metadata := read.stopMetadata w }

def StopInput.duration (input : StopInput) (wallClock : Nat) : Nat :=
  match input.probedDuration with
  | some probed => if 0 < probed then probed else wallClock
  | none => wallClock

def RecordingSession.finalize (read : RecordingSession) (input : StopInput) (w : Stopping)
    (now : Nat) : RecordingSession :=
  { session with
    status := .stopped
    stoppedAt := some now
    durationSeconds := some (input.duration (read.wallClock now))
    metadata := read.stopMetadata w }

end Columns

section Accesses
variable (s : RecordingState) (now : Nat)

/-- An `UPDATE` of the row, whatever it is by then. -/
def RecordingState.update (f : RecordingSession → RecordingSession) : RecordingState :=
  { s with row := s.row.map f }

def RecordingState.release : RecordingState := { s with holder := none }

def RecordingState.hold (call : LockedCall) : RecordingState := { s with holder := some call }

def RecordingState.startVideo : RecordingState :=
  { s with row := some (.create now), starter := .created }

/-- What is left of `startVideo` once the row is there. -/
def RecordingState.starterGoes : RecordingState :=
  match s.starter with
  | .absent | .returned => s
  | .created => { s with manager := s.manager.start .main, starter := .probing (now + startProbeMs) }
  | .probing deadline =>
    match s.manager.probeStart s.files .main deadline now with
    | none => s
    | some .exited | some .capturing => { s with starter := .returned }
    | some .noData => { s with manager := s.manager.stop.1, starter := .stopping s.manager.stop.2 }
  | .stopping _ =>
    { s.update fun session => session.fail now "no video data received from camera" with
      starter := .returned }

def RecordingState.begin (session : RecordingSession) : LockedRequest → RecordingState
  | .pauseVideo =>
    if session.status = .recording then { s.hold (.pauseRead session) with failedResume := none }
    else s
  | .resumeVideo configured =>
    if session.status = .paused ∧ configured = true then
      { s.hold (.resumeRead session) with failedResume := none }
    else s
  | .stopVideo input =>
    if session.status.IsActive then
      { s.hold (.stopRead session input) with failedResume := none }
    else s
  | .stopListed input =>
    if session.status.IsActive then
      { s.hold (.stopRead session input) with failedResume := none, listed := s.listed - 1 }
    else { s with listed := s.listed - 1 }

/-- Where `resumeVideo` throws `RECORDING_NO_VIDEO`. -/
def RecordingState.noVideo (session : RecordingSession) : RecordingState :=
  { s.release with failedResume := some session }

def RecordingState.finishStop (session : RecordingSession) (input : StopInput) (w : Stopping) :
    RecordingState :=
  match session.resolveStopFile s.files input.concatSucceeds with
  | none => s.release
  | some path =>
    match path.filter fun path => path.HasData s.files with
    | none => (s.update fun row => row.stopEmpty session w now).release
    | some key =>
      { (s.update fun row => row.finalize session input w now).hold .stopReturning with
        media := s.media ++ [⟨key, input.duration (session.wallClock now)⟩] }

def RecordingState.holderGoes : LockedCall → RecordingState
  | .pauseRead session =>
    { s.hold (.pauseStopping session s.manager.stop.2) with manager := s.manager.stop.1 }
  | .pauseStopping session _ => (s.update fun row => row.pause session now).release
  | .resumeRead session =>
    { s.hold (.resumeProbing session session.segNew (now + startProbeMs)) with
      manager := s.manager.start session.segNew }
  | .resumeProbing session outPath deadline =>
    match s.manager.probeStart s.files outPath deadline now with
    | none => s
    | some .capturing => s.hold (.resumeCapturing session outPath)
    | some .exited | some .noData =>
      { s.hold (.resumeStopping session s.manager.stop.2) with manager := s.manager.stop.1 }
  | .resumeCapturing session outPath => (s.update fun row => row.resume session outPath now).release
  | .resumeStopping session _ => s.noVideo session
  | .stopRead session input =>
    if session.status = .paused then s.hold (.stopStopping session input .finished)
    else
      { s.hold (.stopStopping session input s.manager.stop.2) with manager := s.manager.stop.1 }
  | .stopStopping session input w => s.finishStop now session input w
  | .stopReturning => s.release

def LockedCall.waits : LockedCall → Stopping
  | .pauseStopping _ w | .resumeStopping _ w | .stopStopping _ _ w => w
  | .pauseRead _ | .resumeRead _ | .resumeProbing _ _ _ | .resumeCapturing _ _ | .stopRead _ _
  | .stopReturning => .finished

def StartStage.waits : StartStage → Stopping
  | .stopping w => w
  | .absent | .created | .probing _ | .returned => .finished

def MarkFailed.message : MarkFailed → String
  | .toUpdate errorMessage => String.ofList (errorMessage.toList.take 2000)
  | .idle | .toDelete | .done => ""

def RecordingState.after (s : RecordingState) (t : RecordingTurn) : RecordingState :=
  match t.action with
  | .startVideo => s.startVideo t.now
  | .starter => s.starterGoes t.now
  | .begin request =>
    match s.row with
    | none => s
    | some session => s.begin session request
  | .holder =>
    match s.holder with
    | none => s
    | some call => s.holderGoes t.now call
  | .stopAllActiveForMeeting =>
    match s.row with
    | none => s
    | some session => if session.status.IsActive then { s with listed := s.listed + 1 } else s
  | .exits pid code errorMessage => { s with manager := s.manager.exits pid code errorMessage }
  | .kills pid => { s with manager := s.manager.kill pid }
  | .data pid =>
    match s.manager.procs[pid]? with
    | none => s
    | some p => { s with files := p.outPath :: s.files }
  | .markFailed pid =>
    match s.manager.procs[pid]? with
    | none => s
    | some p =>
      { s.update fun session => session.fail t.now p.markFailed.message with
        manager := s.manager.updated pid }
  | .forgets pid => { s with manager := s.manager.forget pid }

def MarkFailed.ToUpdate (h : MarkFailed) : Prop := h ≠ .idle ∧ h ≠ .toDelete ∧ h ≠ .done

instance (h : MarkFailed) : Decidable h.ToUpdate := inferInstanceAs (Decidable (_ ∧ _ ∧ _))

def RecordingState.Ready (s : RecordingState) (t : RecordingTurn) : Prop :=
  match t.action with
  | .startVideo => s.starter = .absent
  | .starter => s.starter ≠ .absent ∧ s.starter ≠ .returned ∧ s.manager.isOver s.starter.waits = true
  | .begin (.stopListed _) => s.holder = none ∧ 0 < s.listed
  | .begin _ => s.holder = none
  | .holder => ∃ call ∈ s.holder, s.manager.isOver call.waits = true
  | .stopAllActiveForMeeting => True
  | .exits pid _ _ | .data pid => ∃ p ∈ s.manager.procs[pid]?, p.state = .running
  | .kills pid => ∃ p ∈ s.manager.procs[pid]?, p.state = .running ∧ p.awaited = true
  | .markFailed pid => ∃ p ∈ s.manager.procs[pid]?, p.markFailed.ToUpdate
  | .forgets pid => ∃ p ∈ s.manager.procs[pid]?, p.markFailed = .toDelete

instance (s : RecordingState) : (t : RecordingTurn) → Decidable (s.Ready t)
  | ⟨_, .startVideo⟩ => inferInstanceAs (Decidable (s.starter = .absent))
  | ⟨_, .starter⟩ => inferInstanceAs (Decidable
      (s.starter ≠ .absent ∧ s.starter ≠ .returned ∧ s.manager.isOver s.starter.waits = true))
  | ⟨_, .begin (.stopListed _)⟩ => inferInstanceAs (Decidable (s.holder = none ∧ 0 < s.listed))
  | ⟨_, .begin .pauseVideo⟩ | ⟨_, .begin (.resumeVideo _)⟩ | ⟨_, .begin (.stopVideo _)⟩ =>
    inferInstanceAs (Decidable (s.holder = none))
  | ⟨_, .holder⟩ =>
    inferInstanceAs (Decidable (∃ call ∈ s.holder, s.manager.isOver call.waits = true))
  | ⟨_, .stopAllActiveForMeeting⟩ => inferInstanceAs (Decidable True)
  | ⟨_, .exits pid _ _⟩ | ⟨_, .data pid⟩ =>
    inferInstanceAs (Decidable (∃ p ∈ s.manager.procs[pid]?, p.state = .running))
  | ⟨_, .kills pid⟩ => inferInstanceAs
      (Decidable (∃ p ∈ s.manager.procs[pid]?, p.state = .running ∧ p.awaited = true))
  | ⟨_, .markFailed pid⟩ =>
    inferInstanceAs (Decidable (∃ p ∈ s.manager.procs[pid]?, p.markFailed.ToUpdate))
  | ⟨_, .forgets pid⟩ =>
    inferInstanceAs (Decidable (∃ p ∈ s.manager.procs[pid]?, p.markFailed = .toDelete))

def RecordingStep (s : RecordingState) (t : RecordingTurn) (u : RecordingState) : Prop :=
  s.Ready t ∧ u = s.after t

end Accesses
end Recording
