import MeetingPlatform.Booking.Store
import MeetingPlatform.Lib.CheckedInsert

/- Participants upload their own audio tracks after a meeting. A call looks for an earlier track
   first, and stores its own one after the file has been saved. -/
namespace AudioTracks
open LabelledRuns CallPools CheckedInserts Guards
open MeetingBooking (MeetingStatus)

section Rows

inductive MediaFileType where
  | audio | video | image | document | transcript | minutesAttachment | export | evidence
  deriving DecidableEq, Repr

structure MediaFile where
  fileName : String
  fileType : MediaFileType
  mimeType : String
  storageProvider : String
  storageBucket : String
  storageKey : String
  recordingSessionId : Option Nat
  meetingId : Option Nat
  uploadedBy : Option Nat
  channelUserId : Option Nat
  fileSizeBytes : Nat
  checksum : String
  durationSeconds : Option Nat
  isActive : Bool := true
  deletedAt : Option Nat := none
  deriving DecidableEq, Repr

def MediaFile.isActiveTrack (f : MediaFile) : Bool :=
  f.fileType = .audio ∧ f.isActive ∧ f.deletedAt = none ∧ f.recordingSessionId.isSome ∧
    f.channelUserId.isSome

def MediaFile.owner (f : MediaFile) : Option Nat × Option Nat := (f.recordingSessionId, f.channelUserId)

structure TrackStore where
  meetingStatus : Nat → Option MeetingStatus
  isParticipant : Nat → Nat → Bool
  sessionMeeting : Nat → Option Nat
  mediaFiles : List MediaFile

def TrackStore.activeTracks (s : TrackStore) : List MediaFile :=
  s.mediaFiles.filter MediaFile.isActiveTrack

def TrackStore.tracksOf (s : TrackStore) (sessionId userId : Nat) : List MediaFile :=
  s.activeTracks.filter fun f => f.owner = (some sessionId, some userId)

end Rows

section Files

structure UploadedFile where
  buffer : List UInt8
  originalname : String
  mimetype : String
  deriving DecidableEq, Repr

/-- `path.extname`: the last part of the path from its last dot on, unless the name starts there. -/
def extname (path : List Char) : List Char :=
  let base := (path.reverse.takeWhile (· ≠ '/')).reverse
  let stem := (base.reverse.dropWhile (· ≠ '.')).tail.reverse
  if '.' ∉ base ∨ stem = [] ∨ base = ['.', '.'] then [] else base.drop stem.length

def supportedAudioExtensions : List String :=
  [".wav", ".mp3", ".m4a", ".mp4", ".aac", ".flac", ".ogg", ".webm"]

/-- What ffmpeg, the hash and the storage make of a file. -/
structure Tools where
  remux : List UInt8 → Option (List UInt8)
  sha256 : List UInt8 → String
  probeAudioDuration : List UInt8 → String → Option Nat
  driver : String
  bucketName : String

/-- A remux that fails or gives nothing leaves the file as it was. -/
def remuxWebmBufferIfNeeded (tools : Tools) (buffer : List UInt8) (ext : String) : List UInt8 :=
  if ext ≠ ".webm" then buffer
  else ((tools.remux buffer).filter (· ≠ [])).getD buffer

end Files

section Failures

structure UploadError where
  status : Nat
  code : String
  message : String
  deriving DecidableEq, Repr

def meetingNotFound : UploadError := ⟨404, "MEETING_NOT_FOUND", "Meeting not found."⟩

def meetingNotEnded : UploadError :=
  ⟨400, "MEETING_NOT_ENDED", "Chi duoc upload audio track sau khi cuoc hop da ket thuc."⟩

def notAParticipant : UploadError :=
  ⟨403, "NOT_A_PARTICIPANT", "Ban khong phai la thanh vien cua cuoc hop nay."⟩

def recordingSessionNotFound : UploadError :=
  ⟨404, "RECORDING_SESSION_NOT_FOUND",
    "Recording session not found or does not belong to this meeting."⟩

def audioTrackAlreadyExists : UploadError :=
  ⟨409, "AUDIO_TRACK_ALREADY_EXISTS", "Ban da upload audio track cho session nay roi."⟩

def emptyAudioFile : UploadError := ⟨400, "EMPTY_AUDIO_FILE", "File audio rong hoac khong hop le."⟩

def unsupportedMediaFormat (ext : String) : UploadError :=
  ⟨400, "UNSUPPORTED_MEDIA_FORMAT", "Dinh dang \"" ++ ext ++ "\" khong duoc ho tro. Chap nhan: " ++
    ", ".intercalate supportedAudioExtensions⟩

def storageFailed : UploadError := ⟨500, "INTERNAL_SERVER_ERROR", "Internal server error"⟩

def audioTrackUploadFailed : UploadError :=
  ⟨500, "AUDIO_TRACK_UPLOAD_FAILED", "Failed to save uploaded audio track."⟩

end Failures

section Upload

/-- `savedKey` is the answer of the storage, `none` where it throws. -/
structure UploadRequest where
  meetingId : Nat
  sessionId : Nat
  userId : Nat
  file : UploadedFile
  savedKey : Option String
  insertFails : Bool

/-- `seen` is the number of active tracks when the call has looked for one. -/
inductive UploadStage where
  | starting
  | meetingRead
  | participantRead
  | sessionRead
  | saving (seen : Nat) (ext : String)
  | inserting (seen : Nat) (ext storageKey : String)
  deriving DecidableEq, Repr

structure UploadCall where
  request : UploadRequest
  stage : UploadStage

variable (tools : Tools) (s : TrackStore) (r : UploadRequest)

def readMeeting : Except UploadError UploadStage := do
  let status ← expect (s.meetingStatus r.meetingId) meetingNotFound
  require (status = .completed) meetingNotEnded
  pure .meetingRead

def readParticipant : Except UploadError UploadStage := do
  require (s.isParticipant r.meetingId r.userId) notAParticipant
  pure .participantRead

def readSession : Except UploadError UploadStage := do
  let meetingId ← expect (s.sessionMeeting r.sessionId) recordingSessionNotFound
  require (meetingId = r.meetingId) recordingSessionNotFound
  pure .sessionRead

def checkExisting : Except UploadError UploadStage := do
  require (s.tracksOf r.sessionId r.userId = []) audioTrackAlreadyExists
  require (r.file.buffer ≠ []) emptyAudioFile
  let ext := (String.ofList (extname r.file.originalname.toList)).toLower
  require (ext ∈ supportedAudioExtensions) (unsupportedMediaFormat ext)
  pure (.saving s.activeTracks.length ext)

def saveFile (seen : Nat) (ext : String) : Except UploadError UploadStage := do
  let storageKey ← expect r.savedKey storageFailed
  pure (.inserting seen ext storageKey)

def UploadRequest.track (ext storageKey : String) : MediaFile :=
  let audioBuffer := remuxWebmBufferIfNeeded tools r.file.buffer ext
  { fileName := r.file.originalname
    fileType := .audio
    mimeType := if r.file.mimetype = "" then "application/octet-stream" else r.file.mimetype
    storageProvider := tools.driver
    storageBucket := tools.bucketName
    storageKey := storageKey
    recordingSessionId := some r.sessionId
    meetingId := some r.meetingId
    uploadedBy := some r.userId
    channelUserId := some r.userId
    fileSizeBytes := audioBuffer.length
    checksum := tools.sha256 audioBuffer
    durationSeconds := tools.probeAudioDuration audioBuffer ext }

/-- The transaction of the insert; it looks at nothing again. -/
def insertTrack (ext storageKey : String) : Except UploadError TrackStore := do
  require (r.insertFails = false) audioTrackUploadFailed
  pure { s with mediaFiles := s.mediaFiles ++ [r.track tools ext storageKey] }

def UploadRequest.access : UploadStage → TrackStore × Option UploadStage
  | .starting => (s, (readMeeting s r).toOption)
  | .meetingRead => (s, (readParticipant s r).toOption)
  | .participantRead => (s, (readSession s r).toOption)
  | .sessionRead => (s, (checkExisting s r).toOption)
  | .saving seen ext => (s, (saveFile r seen ext).toOption)
  | .inserting _ ext storageKey => ((insertTrack tools s r ext storageKey).toOption.getD s, none)

def uploads : Service TrackStore UploadCall UploadRequest where
  clock _ := 0
  admits _ _ := True
  enter _ r := ⟨r, .starting⟩
  act _ c s :=
    ((c.request.access tools s c.stage).1, (c.request.access tools s c.stage).2.map (⟨c.request, ·⟩))

instance (s : TrackStore) (r : UploadRequest) : Decidable ((uploads tools).admits s r) :=
  inferInstanceAs (Decidable True)

end Upload
section OneTrack
variable {tools : Tools} {s : TrackStore} {c : UploadCall} {now : Nat}

def UploadCall.adds (tools : Tools) (c : UploadCall) : Option MediaFile :=
  match c.stage with
  | .inserting _ ext storageKey =>
    if c.request.insertFails then none else some (c.request.track tools ext storageKey)
  | _ => none

def UploadCall.seen (c : UploadCall) : Nat :=
  match c.stage with
  | .saving seen _ | .inserting seen _ _ => seen
  | _ => 0

theorem track_active (r : UploadRequest) (ext storageKey : String) :
    (r.track tools ext storageKey).isActiveTrack = true := rfl

theorem access_appends (s : TrackStore) (now : Nat) (c : UploadCall) :
    ((uploads tools).act now c s).1.activeTracks = s.activeTracks ++ (c.adds tools).toList := by
  have nothing : s.activeTracks = s.activeTracks ++ (none : Option MediaFile).toList :=
    (List.append_nil _).symm
  obtain ⟨r, stage⟩ := c
  cases stage with
  | inserting seen ext storageKey =>
    change ((insertTrack tools s r ext storageKey).toOption.getD s).activeTracks = s.activeTracks ++
      (if r.insertFails then none else some (r.track tools ext storageKey)).toList
    unfold insertTrack
    cases r.insertFails with
    | true => exact nothing
    | false =>
      change (s.mediaFiles ++ [r.track tools ext storageKey]).filter MediaFile.isActiveTrack = _
      rw [List.filter_append, List.filter_cons_of_pos (track_active r ext storageKey)]
      rfl
  | starting => exact nothing
  | meetingRead => exact nothing
  | participantRead => exact nothing
  | sessionRead => exact nothing
  | saving => exact nothing

def inserting (tools : Tools) : Inserting (uploads tools) MediaFile where
  rows s := s.activeTracks
  clash f later := f.owner = later.owner
  adds _ _ c := c.adds tools
  since c := c.seen
  appends := access_appends

instance (s : TrackStore) (now : Nat) (c : UploadCall) :
    Decidable (Undisturbed (inserting tools) s now c) :=
  inferInstanceAs (Decidable (∀ row ∈ c.adds tools, ∀ f ∈ s.activeTracks.drop c.seen,
    ¬ f.owner = row.owner))

/-- A call that has looked did not find a track of its user among those there were. -/
structure HasLooked (s : TrackStore) (c : UploadCall) : Prop where
  within : c.seen ≤ s.activeTracks.length
  unmatched : ∀ f ∈ s.activeTracks.take c.seen,
    f.owner ≠ (some c.request.sessionId, some c.request.userId)

theorem hasLooked_of_unseen (unseen : c.seen = 0) : HasLooked s c := by
  constructor
  · rw [unseen]
    exact Nat.zero_le _
  · rw [unseen, List.take_zero]
    exact List.forall_mem_nil _

theorem unmatched_of_tracksOf {sessionId userId : Nat} (none_found : s.tracksOf sessionId userId = []) :
    ∀ f ∈ s.activeTracks, f.owner ≠ (some sessionId, some userId) := by
  intro f there same
  have found : f ∈ s.tracksOf sessionId userId := List.mem_filter.mpr ⟨there, decide_eq_true same⟩
  rw [none_found] at found
  cases found

theorem next_hasLooked {c' : UploadCall} (looked : HasLooked s c)
    (next : ((uploads tools).act now c s).2 = some c') :
    HasLooked ((uploads tools).act now c s).1 c' := by
  obtain ⟨r, stage⟩ := c
  obtain ⟨stage', goes, rfl⟩ := Option.map_eq_some_iff.mp next
  cases stage with
  | starting =>
    have goes : (readMeeting s r).toOption = some stage' := goes
    simp only [toOption_eq_some, readMeeting, bind_eq_ok, pure_eq_ok] at goes
    obtain ⟨status, -, -, -, rfl⟩ := goes
    exact hasLooked_of_unseen rfl
  | meetingRead =>
    have goes : (readParticipant s r).toOption = some stage' := goes
    simp only [toOption_eq_some, readParticipant, bind_eq_ok, pure_eq_ok] at goes
    obtain ⟨-, -, rfl⟩ := goes
    exact hasLooked_of_unseen rfl
  | participantRead =>
    have goes : (readSession s r).toOption = some stage' := goes
    simp only [toOption_eq_some, readSession, bind_eq_ok, pure_eq_ok] at goes
    obtain ⟨meetingId, -, -, -, rfl⟩ := goes
    exact hasLooked_of_unseen rfl
  | sessionRead =>
    have goes : (checkExisting s r).toOption = some stage' := goes
    simp only [toOption_eq_some, checkExisting, bind_eq_ok, require_eq_ok, pure_eq_ok] at goes
    obtain ⟨-, none_found, -, -, -, -, rfl⟩ := goes
    refine ⟨Nat.le_refl _, ?_⟩
    change ∀ f ∈ s.activeTracks.take s.activeTracks.length, _
    rw [List.take_length]
    exact unmatched_of_tracksOf none_found
  | saving seen ext =>
    have goes : (saveFile r seen ext).toOption = some stage' := goes
    simp only [toOption_eq_some, saveFile, bind_eq_ok, pure_eq_ok] at goes
    obtain ⟨storageKey, -, rfl⟩ := goes
    exact ⟨looked.within, looked.unmatched⟩
  | inserting seen ext storageKey => cases goes

theorem other_hasLooked {d : UploadCall} (looked : HasLooked s d) :
    HasLooked ((uploads tools).act now c s).1 d := by
  have after : ((uploads tools).act now c s).1.activeTracks = s.activeTracks ++ (c.adds tools).toList :=
    access_appends s now c
  constructor
  · rw [after, List.length_append]
    exact Nat.le_trans looked.within (Nat.le_add_right _ _)
  · rw [after, List.take_append_of_le_length looked.within]
    exact looked.unmatched

theorem uploads_keep (tools : Tools) :
    Keeps (uploads tools) (fun _ => True) HasLooked (fun _ _ => True) (fun _ _ _ => True) where
  symm _ _ _ := trivial
  enters _ _ _ _ := hasLooked_of_unseen rfl
  alone _ _ _ _ _ _ := trivial
  inv _ _ _ _ _ _ _ := trivial
  next _ _ _ _ _ looked _ _ next := next_hasLooked looked next
  others _ _ _ _ _ _ looked _ _ _ := other_hasLooked looked
  still_apart _ _ _ _ _ _ _ _ _ _ _ _ := trivial

theorem looked_of_hasLooked (s : TrackStore) (c : UploadCall) (looked : HasLooked s c) :
    Looked (inserting tools) s c := by
  obtain ⟨r, stage⟩ := c
  intro now row added f there
  cases stage with
  | inserting seen ext storageKey =>
    have added : row ∈ if r.insertFails then none else some (r.track tools ext storageKey) := added
    split at added
    · cases added
    · cases added
      exact looked.unmatched f there
  | starting => cases added
  | meetingRead => cases added
  | participantRead => cases added
  | sessionRead => cases added
  | saving => cases added

/-- At most one active track of each user in each session. -/
def OneTrackEach (s : TrackStore) : Prop :=
  ∀ sessionId userId, (s.tracksOf sessionId userId).length ≤ 1

theorem distinct_iff_one (s : TrackStore) : Distinct (inserting tools) s ↔ OneTrackEach s := by
  refine (distinct_keys_iff MediaFile.owner s.activeTracks).trans ?_
  constructor
  · intro each sessionId userId
    exact each (some sessionId, some userId)
  · intro one owner
    cases first : s.activeTracks.filter fun f => f.owner = owner with
    | nil => exact Nat.zero_le 1
    | cons f rest =>
      have there : f ∈ s.activeTracks.filter fun f => f.owner = owner := by
        rw [first]
        exact List.mem_cons_self
      obtain ⟨active, owned⟩ := List.mem_filter.mp there
      have whole := (List.mem_filter.mp active).2
      simp only [MediaFile.isActiveTrack, decide_eq_true_eq] at whole owned
      obtain ⟨-, -, -, session, user⟩ := whole
      obtain ⟨sessionId, session⟩ := Option.isSome_iff_exists.mp session
      obtain ⟨userId, user⟩ := Option.isSome_iff_exists.mp user
      rw [MediaFile.owner, session, user] at owned
      rw [← first, ← owned]
      exact one sessionId userId

theorem one_track_each_iff {t : Pool TrackStore UploadCall}
    {moves : List (Move (Pool TrackStore UploadCall) (Turn UploadRequest))}
    (start : OneTrackEach s) (run : Run (Step (uploads tools)) (Pool.idle s) moves t) :
    (∀ p ∈ visited (Pool.idle s) moves, OneTrackEach p.shared) ↔
      Heeds (Allows (Undisturbed (inserting tools))) moves := by
  have iff := distinct_iff (uploads_keep tools) looked_of_hasLooked trivial
    ((distinct_iff_one s).mpr start) run
  simpa only [distinct_iff_one] using iff

def afterMeeting : TrackStore where
  meetingStatus i := if i = 0 then some .completed else none
  isParticipant i userId := i = 0 ∧ (userId = 1 ∨ userId = 2)
  sessionMeeting i := if i = 5 then some 0 else none
  mediaFiles := []

def plainTools : Tools where
  remux _ := none
  sha256 buffer := toString buffer.length
  probeAudioDuration _ _ := none
  driver := "local"
  bucketName := "media"

def wavOf (userId : Nat) : UploadRequest where
  meetingId := 0
  sessionId := 5
  userId := userId
  file := ⟨[82, 73, 70, 70], "my track.WAV", "audio/wav"⟩
  savedKey := some "meetings/0/sessions/5/track.wav"
  insertFails := false

def accesses (i n : Nat) : List (Turn UploadRequest) := List.replicate n (.act i 0)

/-- A user sends the same file twice, and both calls look before either stores its track. -/
def sentTwice : List (Turn UploadRequest) :=
  [.enter 0 (wavOf 1), .enter 1 (wavOf 1)] ++ accesses 0 5 ++ accesses 1 5 ++ accesses 0 1 ++ accesses 1 1

theorem track_stored_twice :
    ∃ moves t, Run (Step (uploads plainTools)) (Pool.idle afterMeeting) moves t ∧
      t ∈ visited (Pool.idle afterMeeting) moves ∧ ¬ (t.shared.tracksOf 5 1).length ≤ 1 := by
  have follows : Follows (uploads plainTools) (fun _ _ _ => True) (Pool.idle afterMeeting) sentTwice := by
    decide +kernel
  obtain ⟨moves, run, -⟩ := follows_run follows
  exact ⟨moves, _, run, end_visited run, by decide +kernel⟩

/-- Two users upload at the same time, and one of them sends a second file later. -/
def bothUsers : List (Turn UploadRequest) :=
  [.enter 0 (wavOf 1), .enter 1 (wavOf 2)] ++ accesses 0 5 ++ accesses 1 5 ++ accesses 0 1 ++
    accesses 1 1 ++ .enter 2 (wavOf 1) :: accesses 2 4

theorem one_track_each_iff_both_users :
    ∃ moves t, Run (Step (uploads plainTools)) (Pool.idle afterMeeting) moves t ∧
      t.shared.mediaFiles.length = 2 ∧
      ∀ p ∈ visited (Pool.idle afterMeeting) moves, OneTrackEach p.shared := by
  have follows : Follows (uploads plainTools) (Undisturbed (inserting plainTools))
      (Pool.idle afterMeeting) bothUsers := by
    decide +kernel
  obtain ⟨moves, run, heeds⟩ := follows_run follows
  have start : OneTrackEach afterMeeting := fun _ _ => Nat.zero_le 1
  exact ⟨moves, _, run, by decide +kernel, (one_track_each_iff start run).mpr heeds⟩

end OneTrack
end AudioTracks
