import MeetingPlatform.Lib.NumberedParts
import MeetingPlatform.Recording.Sessions

/- What has been filmed in a session, from its first file to the one that is kept. Every call is one
   step here. A stop puts all the files together; a restart after a crash keeps the last one only. -/
namespace Recording
open LabelledRuns NumberedParts

section Calls

/-- What becomes of a new ffmpeg: how its probe ends, and what its file holds once it is over. Where
    the probe fails there may be a file too, or what was there before. -/
inductive Filming (Frame : Type) where
  | capturing (data : List Frame)
  | noData (left : Option (List Frame))
  | exited (left : Option (List Frame)) (errorMessage : String)

inductive FootageCall (Frame : Type) where
  | startVideo (filming : Filming Frame)
  | pauseVideo
  | resumeVideo (configured : Bool) (filming : Filming Frame)
  | stopVideo (probedDuration : Option Nat)
  | crashAndRestart (probedDuration : Option Nat)

structure FootageTurn (Frame : Type) where
  now : Nat
  call : FootageCall Frame

/-- The row of the session, the files, and the `media_files` of the session. -/
structure Footage (Frame : Type) where
  session : Option RecordingSession
  disk : Disk StoragePath Frame
  media : List MediaFile

variable {Frame : Type}

def Footage.initial : Footage Frame := ⟨none, fun _ => none, []⟩

def Filming.file : Filming Frame → Option (List Frame)
  | .capturing data => some data
  | .noData left | .exited left _ => left

section Steps
variable (f : Footage Frame) (now : Nat)

def Footage.film (path : StoragePath) (filming : Filming Frame) : Footage Frame :=
  { f with disk := Function.update f.disk path filming.file }

def Footage.update (session : RecordingSession) : Footage Frame := { f with session := some session }

/-- A later `startVideo` makes a session of its own. -/
def Footage.startVideo (filming : Filming Frame) : Footage Frame :=
  match f.session with
  | some _ => f
  | none =>
    let session := RecordingSession.create now
    match filming with
    | .capturing _ => (f.film .main filming).update session
    | .noData _ =>
      (f.film .main filming).update (session.fail now "no video data received from camera")
    | .exited _ errorMessage =>
      (f.film .main filming).update (session.fail now (MarkFailed.toUpdate errorMessage).message)

def Footage.pauseVideo (session : RecordingSession) : Footage Frame :=
  if session.status = .recording then f.update (session.pause session now) else f

def Footage.resumeVideo (session : RecordingSession) (configured : Bool) (filming : Filming Frame) :
    Footage Frame :=
  if session.status = .paused ∧ configured = true then
    let after := f.film session.segNew filming
    match filming with
    | .capturing _ => after.update (session.resume session session.segNew now)
    | .noData _ => after
    | .exited _ errorMessage =>
      after.update (session.fail now (MarkFailed.toUpdate errorMessage).message)
  else f

def RecordingSession.paths (session : RecordingSession) : List StoragePath :=
  session.metadata.segments ++ session.storagePath.toList

def Footage.withData (session : RecordingSession) : List StoragePath :=
  session.paths.filter (hasData f.disk)

/-- The `media_files` row names `key`, and the session is stopped. -/
def Footage.finalizeFileToStopped (session : RecordingSession) (key : StoragePath)
    (probedDuration : Option Nat) : Footage Frame :=
  let input : StopInput := ⟨true, probedDuration⟩
  { f.update (session.finalize session input .finished now) with
    media := f.media ++ [⟨key, input.duration (session.wallClock now)⟩] }

/-- The concat writes a file, and what it was made of is removed once it is in the table. -/
def Footage.concat (session : RecordingSession) : Footage Frame :=
  let validSegs := session.metadata.segments.filter (hasData f.disk)
  if 1 < validSegs.length then
    { f with
      disk := Function.update (fun path => if path ∈ validSegs then none else f.disk path) .final
        (some (join f.disk validSegs)) }
  else f

def Footage.keepFile (session : RecordingSession) (path : Option StoragePath)
    (probedDuration : Option Nat) : Footage Frame :=
  match path.filter fun path => path.HasData (f.withData session) with
  | none => f.update (session.stopEmpty session .finished now)
  | some key => (f.concat session).finalizeFileToStopped now session key probedDuration

def Footage.stopVideo (session : RecordingSession) (probedDuration : Option Nat) : Footage Frame :=
  if session.status.IsActive then
    match session.resolveStopFile (f.withData session) true with
    | none => f
    | some path => f.keepFile now session path probedDuration
  else f

/-- The process map is empty after a restart, so that nothing is skipped. -/
def Footage.onApplicationBootstrap (session : RecordingSession) (probedDuration : Option Nat) :
    Footage Frame :=
  if session.status.IsActive ∧ session.stoppedAt = none then
    match session.storagePath.filter (hasData f.disk) with
    | some key => f.finalizeFileToStopped now session key probedDuration
    | none => f.update (session.fail now "interrupted by restart")
  else f

end Steps

def Footage.apply (f : Footage Frame) (turn : FootageTurn Frame) : Footage Frame :=
  match turn.call, f.session with
  | .startVideo filming, _ => f.startVideo turn.now filming
  | .pauseVideo, some session => f.pauseVideo turn.now session
  | .resumeVideo configured filming, some session =>
    f.resumeVideo turn.now session configured filming
  | .stopVideo probedDuration, some session => f.stopVideo turn.now session probedDuration
  | .crashAndRestart probedDuration, some session =>
    f.onApplicationBootstrap turn.now session probedDuration
  | .pauseVideo, none | .resumeVideo _ _, none | .stopVideo _, none | .crashAndRestart _, none => f

def Footage.phase (f : Footage Frame) (turn : FootageTurn Frame) : Option (List Frame) :=
  match turn.call, f.session with
  | .startVideo (.capturing data), none => some data
  | .resumeVideo configured (.capturing data), some session =>
    if session.status = .paused ∧ configured = true then some data else none
  | _, _ => none

def phases (moves : List (Move (Footage Frame) (FootageTurn Frame))) : List (List Frame) :=
  moves.filterMap fun m => m.before.phase m.label

abbrev FootageRun (f : Footage Frame) (moves : List (Move (Footage Frame) (FootageTurn Frame)))
    (g : Footage Frame) : Prop :=
  Run (fun a turn b => b = a.apply turn) f moves g

def Footage.Stopped (f : Footage Frame) : Prop := ∃ session ∈ f.session, session.status = .stopped

instance (f : Footage Frame) : Decidable f.Stopped :=
  inferInstanceAs (Decidable (∃ session ∈ f.session, _))

def Footage.finalised (f : Footage Frame) : Option (List Frame) :=
  f.media.getLast?.bind fun file => f.disk file.storageKey

def ofData : List Frame → Option (List Frame)
  | [] => none
  | data => some data

/-- The parts with data one after the other, unless there are none. -/
def filmed (parts : List (List Frame)) : Option (List Frame) :=
  ofData (parts.filter fun data => !data.isEmpty).flatten

end Calls

section Files
variable {Frame : Type} {f : Footage Frame} {session : RecordingSession} {parts : List (List Frame)}
  {now : Nat} {probedDuration : Option Nat}

def phasePath : Nat → StoragePath
  | 0 => .main
  | n + 1 => .segment (n + 1)

theorem phasePath_injective : Function.Injective phasePath := by
  intro m n same
  cases m with
  | zero =>
    cases n with
    | zero => rfl
    | succ n => cases same
  | succ m =>
    cases n with
    | zero => cases same
    | succ n =>
      cases same
      rfl

theorem phasePath_of_pos {n : Nat} (some_phase : 0 < n) : phasePath n = .segment n := by
  cases n with
  | zero => cases some_phase
  | succ n => rfl

/-- The files of a session that is going on hold what its phases have filmed. It lists them from the
    first pause on. -/
structure Filmed (f : Footage Frame) (session : RecordingSession) (parts : List (List Frame)) :
    Prop where
  some_part : 0 < parts.length
  kept : Kept f.disk phasePath parts
  storage : session.storagePath = some (phasePath (parts.length - 1))
  listed : session.metadata.segments = names phasePath parts.length ∨
    session.metadata.segments = [] ∧ parts.length = 1 ∧ session.status = .recording
  unfinished : f.media = []

structure FootageKept (f : Footage Frame) (parts : List (List Frame)) : Prop where
  absent : f.session = none → parts = [] ∧ f.media = []
  active : ∀ session, f.session = some session → session.status.IsActive → Filmed f session parts

theorem Filmed.listed_paused (kept : Filmed f session parts) (paused : session.status = .paused) :
    session.metadata.segments = names phasePath parts.length := by
  rcases kept.listed with listed | ⟨-, -, recording⟩
  · exact listed
  · rw [paused] at recording
    cases recording

theorem Filmed.segNew (kept : Filmed f session parts) (paused : session.status = .paused) :
    session.segNew = phasePath parts.length := by
  have length : (names phasePath parts.length).length = parts.length := by simp [names]
  rw [RecordingSession.segNew, kept.listed_paused paused, length, phasePath_of_pos kept.some_part]

theorem Filmed.pausedSegments (kept : Filmed f session parts) :
    session.pausedSegments = names phasePath parts.length := by
  simp only [RecordingSession.pausedSegments, kept.storage]
  rcases kept.listed with listed | ⟨none_yet, one, -⟩
  · rw [if_pos ?_, listed]
    rw [listed]
    exact mem_names (Nat.sub_lt kept.some_part Nat.one_pos)
  · rw [none_yet, one, if_neg List.not_mem_nil]
    rfl

theorem filmed_eq : filmed parts = ofData parts.flatten := by
  rw [filmed, List.flatten_filter_not_isEmpty]

theorem ofData_some {data : List Frame} (some_data : data ≠ []) : ofData data = some data := by
  cases data with
  | nil => exact absurd rfl some_data
  | cons frame frames => rfl

theorem disk_of_hasData {disk : Disk StoragePath Frame} {path : StoragePath}
    (data : hasData disk path = true) : disk path = ofData (content disk path) := by
  cases there : disk path with
  | none => simp [hasData, content, there] at data
  | some frames =>
    cases frames with
    | nil => simp [hasData, content, there] at data
    | cons frame frames => simp [content, there, ofData]

theorem mem_withData {path : StoragePath} (looked : path ∈ session.paths) :
    path ∈ f.withData session ↔ hasData f.disk path = true := by
  rw [Footage.withData, List.mem_filter]
  exact and_iff_right looked

theorem validSegs : (session.metadata.segments.filter fun path => path ∈ f.withData session) =
    session.metadata.segments.filter (hasData f.disk) := by
  refine List.filter_congr ?_
  intro path listed
  rw [Bool.eq_iff_iff, decide_eq_true_eq]
  exact mem_withData (List.mem_append.mpr (Or.inl listed))

@[simp] theorem finalise_finalised (key : StoragePath) :
    (f.finalizeFileToStopped now session key probedDuration).finalised = f.disk key := by
  simp [Footage.finalised, Footage.finalizeFileToStopped, Footage.update]

theorem keepFile_single {key : StoragePath} (now : Nat) (probedDuration : Option Nat)
    (looked : key ∈ session.paths) (named : key ≠ .final)
    (single : (session.metadata.segments.filter (hasData f.disk)).length ≤ 1)
    (unfinished : f.media = []) :
    (f.keepFile now session (some key) probedDuration).finalised = ofData (content f.disk key) := by
  have same : f.concat session = f := by rw [Footage.concat, if_neg (Nat.not_lt.mpr single)]
  have has : key.HasData (f.withData session) ↔ hasData f.disk key = true := by
    rw [StoragePath.HasData, mem_withData looked]
    exact or_iff_right named
  rw [Footage.keepFile]
  by_cases data : hasData f.disk key = true
  · rw [Option.filter_some, if_pos (decide_eq_true (has.mpr data))]
    simp only [same, finalise_finalised]
    exact disk_of_hasData data
  · rw [Option.filter_some, if_neg (fun there => data (has.mp (of_decide_eq_true there))),
      hasData_eq_false.mp (Bool.eq_false_iff.mpr data)]
    simp [Footage.finalised, Footage.update, unfinished, ofData]

theorem keepFile_concat
    (several : 1 < (session.metadata.segments.filter (hasData f.disk)).length) :
    (f.keepFile now session (some .final) probedDuration).finalised =
      ofData (join f.disk (session.metadata.segments.filter (hasData f.disk))) := by
  have some_data : join f.disk (session.metadata.segments.filter (hasData f.disk)) ≠ [] := by
    obtain ⟨path, there⟩ := List.exists_mem_of_length_pos (Nat.lt_of_succ_lt several)
    intro nothing
    have empty := List.flatMap_eq_nil_iff.mp nothing path there
    have data := (List.mem_filter.mp there).2
    rw [hasData_eq_false.mpr empty] at data
    cases data
  have has : StoragePath.final.HasData (f.withData session) := Or.inl rfl
  rw [Footage.keepFile, Option.filter_some, if_pos (decide_eq_true has)]
  simp only [finalise_finalised, Footage.concat]
  rw [if_pos several, ofData_some some_data]
  simp

theorem Filmed.stored (kept : Filmed f session parts) :
    phasePath (parts.length - 1) ∈ session.paths := by
  rw [RecordingSession.paths, kept.storage]
  exact List.mem_append.mpr (Or.inr (List.mem_singleton.mpr rfl))

theorem phasePath_ne_final (n : Nat) : phasePath n ≠ .final := by
  cases n with
  | zero => exact StoragePath.noConfusion
  | succ n => exact StoragePath.noConfusion

theorem stop_finalised (kept : Filmed f session parts) (active : session.status.IsActive) :
    (f.stopVideo now session probedDuration).finalised = filmed parts := by
  rw [Footage.stopVideo, if_pos active, RecordingSession.resolveStopFile, validSegs, filmed_eq,
    kept.storage]
  rcases kept.listed with listed | ⟨none_yet, one, -⟩
  · rw [← join_valid kept.kept, ← listed]
    cases valid : session.metadata.segments.filter (hasData f.disk) with
    | nil =>
      have nothing : content f.disk (phasePath (parts.length - 1)) = [] := by
        rw [← hasData_eq_false, ← Bool.not_eq_true]
        intro data
        have there := List.mem_filter.mpr ⟨listed ▸ mem_names (Nat.sub_lt kept.some_part Nat.one_pos),
          data⟩
        rw [valid] at there
        cases there
      have single := keepFile_single now probedDuration kept.stored (phasePath_ne_final _)
        (by simp [valid]) kept.unfinished
      rw [nothing] at single
      exact single
    | cons only rest =>
      cases rest with
      | nil =>
        have there : only ∈ session.metadata.segments.filter (hasData f.disk) := by simp [valid]
        have segment := (List.mem_filter.mp there).1
        obtain ⟨n, -, rfl⟩ := List.mem_map.mp (listed ▸ segment)
        have single := keepFile_single now probedDuration
          (List.mem_append.mpr (Or.inl segment)) (phasePath_ne_final n) (by simp [valid])
          kept.unfinished
        simpa [join] using single
      | cons second more =>
        have several : 1 < (session.metadata.segments.filter (hasData f.disk)).length := by
          simp [valid]
        have whole : (f.keepFile now session (some .final) probedDuration).finalised = _ :=
          keepFile_concat several
        rw [valid] at whole
        exact whole
  · have whole : content f.disk (phasePath (parts.length - 1)) = parts.flatten := by
      have joined := join_names kept.kept
      rw [one] at joined ⊢
      simpa [join, names] using joined
    rw [none_yet, List.filter_nil, ← whole]
    exact keepFile_single now probedDuration kept.stored (phasePath_ne_final _)
      (by simp [none_yet]) kept.unfinished

theorem restart_finalised (kept : Filmed f session parts)
    (unended : ¬ f.Stopped)
    (stopped : (f.onApplicationBootstrap now session probedDuration).Stopped) :
    ∃ data, parts.getLast? = some data ∧ data ≠ [] ∧
      (f.onApplicationBootstrap now session probedDuration).finalised = some data := by
  have last : parts.getLast? = some (content f.disk (phasePath (parts.length - 1))) := by
    rw [content_kept kept.kept (Nat.sub_lt kept.some_part Nat.one_pos), List.getLast?_eq_getElem?,
      List.getElem?_eq_getElem]
  rw [Footage.onApplicationBootstrap] at stopped ⊢
  by_cases going : session.status.IsActive ∧ session.stoppedAt = none
  · rw [if_pos going, kept.storage] at stopped ⊢
    by_cases data : hasData f.disk (phasePath (parts.length - 1)) = true
    · have some_data : content f.disk (phasePath (parts.length - 1)) ≠ [] := by
        rw [Ne, ← hasData_eq_false, data]
        exact Bool.noConfusion
      refine ⟨_, last, some_data, ?_⟩
      rw [Option.filter_some, if_pos data, finalise_finalised, disk_of_hasData data,
        ofData_some some_data]
    · rw [Option.filter_some, if_neg data] at stopped
      obtain ⟨row, here, status⟩ := stopped
      cases here
      cases status
  · rw [if_neg going] at stopped
    exact absurd stopped unended

end Files

section Runs
variable {Frame : Type} {f g : Footage Frame} {turn : FootageTurn Frame} {parts : List (List Frame)}
  {moves : List (Move (Footage Frame) (FootageTurn Frame))}

def Footage.Failed (f : Footage Frame) : Prop := ∃ session ∈ f.session, session.status = .failed

/-- What a call does to the session and its files. -/
inductive FootageCase (f : Footage Frame) (turn : FootageTurn Frame) :
    Footage Frame → Option (List Frame) → Prop where
  | refused : FootageCase f turn f none
  | failed {g : Footage Frame} (failed : g.Failed) : FootageCase f turn g none
  | started {data : List Frame} (absent : f.session = none) :
      FootageCase f turn
        ⟨some (.create turn.now), Function.update f.disk .main (some data), f.media⟩ (some data)
  | paused {session : RecordingSession} (here : f.session = some session)
      (recording : session.status = .recording) :
      FootageCase f turn (f.update (session.pause session turn.now)) none
  | resumed {session : RecordingSession} {data : List Frame} (here : f.session = some session)
      (paused : session.status = .paused) :
      FootageCase f turn
        ⟨some (session.resume session session.segNew turn.now),
          Function.update f.disk session.segNew (some data), f.media⟩ (some data)
  | retried {session : RecordingSession} {left : Option (List Frame)}
      (here : f.session = some session) (paused : session.status = .paused) :
      FootageCase f turn ⟨some session, Function.update f.disk session.segNew left, f.media⟩ none
  | stopped {session : RecordingSession} {probedDuration : Option Nat}
      (here : f.session = some session) (active : session.status.IsActive)
      (call : turn.call = .stopVideo probedDuration)
      (stopped : (f.stopVideo turn.now session probedDuration).Stopped) :
      FootageCase f turn (f.stopVideo turn.now session probedDuration) none
  | recovered {session : RecordingSession} {probedDuration : Option Nat}
      (here : f.session = some session) (active : session.status.IsActive)
      (call : turn.call = .crashAndRestart probedDuration)
      (stopped : (f.onApplicationBootstrap turn.now session probedDuration).Stopped) :
      FootageCase f turn (f.onApplicationBootstrap turn.now session probedDuration) none

theorem stopVideo_stopped {session : RecordingSession} (active : session.status.IsActive)
    (now : Nat) (probedDuration : Option Nat) :
    (f.stopVideo now session probedDuration).Stopped := by
  have keeps : ∀ path, (f.keepFile now session path probedDuration).Stopped := by
    intro path
    rw [Footage.keepFile]
    split
    · exact ⟨_, rfl, rfl⟩
    · exact ⟨_, rfl, rfl⟩
  rw [Footage.stopVideo, if_pos active, RecordingSession.resolveStopFile]
  split
  · next failed => split at failed <;> cases failed
  · exact keeps _

theorem restart_ends {session : RecordingSession}
    (going : session.status.IsActive ∧ session.stoppedAt = none) (now : Nat)
    (probedDuration : Option Nat) :
    (f.onApplicationBootstrap now session probedDuration).Stopped ∨
      (f.onApplicationBootstrap now session probedDuration).Failed := by
  rw [Footage.onApplicationBootstrap, if_pos going]
  split
  · exact Or.inl ⟨_, rfl, rfl⟩
  · exact Or.inr ⟨_, rfl, rfl⟩

theorem kept_ended {session : RecordingSession} (here : g.session = some session)
    (ended : ¬ session.status.IsActive) : FootageKept g parts where
  absent := by
    intro absent
    rw [here] at absent
    cases absent
  active := by
    intro row there active
    cases here.symm.trans there
    exact absurd active ended

theorem kept_stopped (stopped : g.Stopped) : FootageKept g parts := by
  obtain ⟨session, here, status⟩ := stopped
  refine kept_ended here ?_
  rw [status]
  decide

theorem kept_failed (failed : g.Failed) : FootageKept g parts := by
  obtain ⟨session, here, status⟩ := failed
  refine kept_ended here ?_
  rw [status]
  decide

theorem kept_some {session : RecordingSession} (here : g.session = some session)
    (filmed : Filmed g session parts) : FootageKept g parts where
  absent := by
    intro absent
    rw [here] at absent
    cases absent
  active := by
    intro row there _
    cases here.symm.trans there
    exact filmed

theorem apply_cases (f : Footage Frame) (turn : FootageTurn Frame) :
    FootageCase f turn (f.apply turn) (f.phase turn) := by
  obtain ⟨now, call⟩ := turn
  cases call with
  | startVideo filming =>
    simp only [Footage.apply, Footage.phase, Footage.startVideo]
    cases here : f.session with
    | none =>
      cases filming with
      | capturing data => exact .started here
      | noData left => exact .failed ⟨_, rfl, rfl⟩
      | exited left errorMessage => exact .failed ⟨_, rfl, rfl⟩
    | some session =>
      cases filming <;> exact .refused
  | pauseVideo =>
    simp only [Footage.apply, Footage.phase]
    cases here : f.session with
    | none => exact .refused
    | some session =>
      simp only [Footage.pauseVideo]
      split
      case isTrue recording => exact .paused here recording
      case isFalse other => exact .refused
  | resumeVideo configured filming =>
    simp only [Footage.apply, Footage.phase]
    cases here : f.session with
    | none => cases filming <;> exact .refused
    | some session =>
      simp only [Footage.resumeVideo]
      by_cases allowed : session.status = .paused ∧ configured = true
      · rw [if_pos allowed]
        cases filming with
        | capturing data =>
          simp only
          rw [if_pos allowed]
          exact .resumed here allowed.1
        | noData left =>
          simp only [Footage.film, here]
          exact .retried here allowed.1
        | exited left errorMessage => exact .failed ⟨_, rfl, rfl⟩
      · rw [if_neg allowed]
        cases filming with
        | capturing data =>
          simp only
          rw [if_neg allowed]
          exact .refused
        | noData left => exact .refused
        | exited left errorMessage => exact .refused
  | stopVideo probedDuration =>
    simp only [Footage.apply, Footage.phase]
    cases here : f.session with
    | none => exact .refused
    | some session =>
      by_cases active : session.status.IsActive
      · exact .stopped here active rfl (stopVideo_stopped active now probedDuration)
      · simp only [Footage.stopVideo]
        rw [if_neg active]
        exact .refused
  | crashAndRestart probedDuration =>
    simp only [Footage.apply, Footage.phase]
    cases here : f.session with
    | none => exact .refused
    | some session =>
      by_cases going : session.status.IsActive ∧ session.stoppedAt = none
      · rcases restart_ends (f := f) going now probedDuration with stopped | failed
        · exact .recovered here going.1 rfl stopped
        · exact .failed failed
      · simp only [Footage.onApplicationBootstrap]
        rw [if_neg going]
        exact .refused

theorem kept_apply (kept : FootageKept f parts) :
    FootageKept (f.apply turn) (parts ++ (f.phase turn).toList) := by
  have step := apply_cases f turn
  generalize f.apply turn = g at step
  generalize f.phase turn = data at step
  cases step with
  | refused =>
    rw [Option.toList_none, List.append_nil]
    exact kept
  | failed failed => exact kept_failed failed
  | stopped here active call stopped => exact kept_stopped stopped
  | recovered here active call stopped => exact kept_stopped stopped
  | @started data absent =>
    obtain ⟨rfl, unfinished⟩ := kept.absent absent
    refine kept_some rfl ⟨Nat.one_pos, ?_, rfl, Or.inr ⟨rfl, rfl, rfl⟩, unfinished⟩
    have none_yet : Kept f.disk phasePath [] := nofun
    exact kept_next phasePath_injective none_yet data
  | @paused session here recording =>
    have filmed := kept.active session here (Or.inr (Or.inl recording))
    rw [Option.toList_none, List.append_nil]
    exact kept_some rfl ⟨filmed.some_part, filmed.kept, filmed.storage, Or.inl filmed.pausedSegments,
      filmed.unfinished⟩
  | @resumed session data here paused =>
    have filmed := kept.active session here (Or.inr (Or.inr paused))
    have path := filmed.segNew paused
    have length : (parts ++ [data]).length = parts.length + 1 := by
      rw [List.length_append, List.length_singleton]
    refine kept_some rfl ⟨?_, ?_, ?_, Or.inl ?_, filmed.unfinished⟩
    · rw [Option.toList_some, length]
      exact Nat.succ_pos _
    · rw [path]
      exact kept_next phasePath_injective filmed.kept data
    · rw [Option.toList_some, length, Nat.add_sub_cancel, ← path]
      rfl
    · rw [Option.toList_some, length, names_succ, ← path, ← filmed.listed_paused paused]
      rfl
  | @retried session left here paused =>
    have filmed := kept.active session here (Or.inr (Or.inr paused))
    have path := filmed.segNew paused
    rw [Option.toList_none, List.append_nil]
    refine kept_some rfl ⟨filmed.some_part, ?_, filmed.storage, filmed.listed, filmed.unfinished⟩
    rw [path]
    exact kept_later phasePath_injective filmed.kept (Nat.le_refl _) left

theorem phases_snoc (m : Move (Footage Frame) (FootageTurn Frame)) :
    phases (moves ++ [m]) = phases moves ++ (m.before.phase m.label).toList := by
  rw [phases, List.filterMap_append, ← phases, List.filterMap_cons]
  cases m.before.phase m.label <;> rfl

theorem kept_run (run : FootageRun .initial moves f) : FootageKept f (phases moves) := by
  induction run with
  | nil =>
    refine ⟨fun _ => ⟨rfl, rfl⟩, ?_⟩
    intro session here
    cases here
  | snoc init last ih =>
    rw [phases_snoc, last]
    exact kept_apply ih

/-- The file of a session that has just been stopped. -/
theorem footage_finalised (run : FootageRun .initial moves f) (turn : FootageTurn Frame)
    (going : ¬ f.Stopped) (stopped : (f.apply turn).Stopped) :
    (∃ probedDuration, turn.call = .stopVideo probedDuration) ∧
        (f.apply turn).finalised = filmed (phases moves) ∨
      (∃ probedDuration, turn.call = .crashAndRestart probedDuration) ∧
        ∃ data, (phases moves).getLast? = some data ∧ data ≠ [] ∧
          (f.apply turn).finalised = some data := by
  have kept := kept_run run
  have step := apply_cases f turn
  generalize f.apply turn = g at step stopped ⊢
  generalize f.phase turn = data at step
  cases step with
  | refused => exact absurd stopped going
  | failed failed =>
    obtain ⟨row, here, status⟩ := stopped
    obtain ⟨row', here', status'⟩ := failed
    cases Option.some.inj (here.symm.trans here')
    cases status.symm.trans status'
  | started absent =>
    obtain ⟨row, ⟨⟩, status⟩ := stopped
    cases status
  | paused here recording =>
    obtain ⟨row, ⟨⟩, status⟩ := stopped
    cases status
  | resumed here paused =>
    obtain ⟨row, ⟨⟩, status⟩ := stopped
    cases status
  | retried here paused =>
    obtain ⟨row, ⟨⟩, status⟩ := stopped
    cases paused.symm.trans status
  | @stopped session probedDuration here active call stopped =>
    exact Or.inl ⟨⟨_, call⟩, stop_finalised (kept.active session here active) active⟩
  | @recovered session probedDuration here active call stopped =>
    exact Or.inr ⟨⟨_, call⟩,
      restart_finalised (kept.active session here active) going stopped⟩

def twoPhases : List (FootageTurn Nat) :=
  [⟨0, .startVideo (.capturing [1, 2])⟩, ⟨10000, .pauseVideo⟩,
    ⟨20000, .resumeVideo true (.capturing [3])⟩]

theorem footage_put_together :
    ((twoPhases.foldl Footage.apply .initial).apply ⟨30000, .stopVideo none⟩).finalised =
      some [1, 2, 3] := by
  have run := run_of_trail Footage.apply twoPhases (s := .initial)
  rcases footage_finalised run ⟨30000, .stopVideo none⟩ (by decide +kernel) (by decide +kernel) with
    ⟨-, whole⟩ | ⟨⟨_, call⟩, -⟩
  · rw [whole]
    decide +kernel
  · cases call

theorem footage_lost_in_crash : ¬ ∀ (moves : List (Move (Footage Nat) (FootageTurn Nat))) f turn,
    FootageRun .initial moves f → ¬ f.Stopped → (f.apply turn).Stopped →
    (f.apply turn).finalised = filmed (phases moves) := by
  intro claimed
  have run := run_of_trail Footage.apply twoPhases (s := .initial)
  have whole := claimed _ _ ⟨30000, .crashAndRestart none⟩ run (by decide +kernel) (by decide +kernel)
  exact absurd whole (by decide +kernel)

end Runs
end Recording
