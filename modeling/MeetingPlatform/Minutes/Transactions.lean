import MeetingPlatform.Minutes.Access
import MeetingPlatform.Lib.CallPool
import MeetingPlatform.Lib.EntitySaves

/- The transactions that write minutes. Those of the people who edit a draft lock its row and read it
   under the lock; the one of the AI job locks the meeting, reads the row without a lock and saves the
   whole entity back. -/
namespace Minutes
open KeyedTable Guards CallPools EntitySaves
open MeetingBooking (MeetingStatus)

section Store

structure MinutesText where
  title : String
  minutesContent : String
  decisionsJson : Option (List String)
  actionItemsJson : Option (List ActionItem)
  aiSummaryJson : Option AiSummary
  deriving DecidableEq, Repr

def MeetingMinutes.text (minutes : MeetingMinutes) : MinutesText where
  title := minutes.title
  minutesContent := minutes.minutesContent
  decisionsJson := minutes.decisionsJson
  actionItemsJson := minutes.actionItemsJson
  aiSummaryJson := minutes.aiSummaryJson

/-- A committed text, with the version and the text that its writer had read; a new record and what
    is there at the start have no such. -/
structure Commit where
  minutesId : Nat
  seen : Option (Nat × MinutesText)
  versionNo : Nat
  text : MinutesText
  deriving DecidableEq, Repr

/-- The locks are held up to the end of a transaction. The history is only recorded. -/
structure MinutesDb extends MinutesStore where
  mediaFiles : Table MediaFile
  transcriptMeetings : Nat → Option Nat
  lockedMeetings : Nat → Bool
  lockedMinutes : Nat → Bool
  history : List Commit

def MinutesStore.start (s : MinutesStore) (mediaFiles : Table MediaFile)
    (transcriptMeetings : Nat → Option Nat) : MinutesDb where
  toMinutesStore := s
  mediaFiles := mediaFiles
  transcriptMeetings := transcriptMeetings
  lockedMeetings _ := false
  lockedMinutes _ := false
  history := s.minutes.rows.map fun r => ⟨r.1, none, r.2.versionNo, r.2.text⟩

end Store

section Drafts

structure ActionItemDto where
  id : Option String := none
  task : String
  deriving DecidableEq, Repr

structure AiSummaryEditDto where
  keyPoints : Option (List String) := none
  risks : Option (List String) := none
  openQuestions : Option (List String) := none
  uncertainParts : Option (List String) := none
  deriving DecidableEq, Repr

structure UpdateDraftMinutesDto where
  versionNo : Nat
  title : Option String := none
  minutesContent : Option String := none
  decisionsJson : Option (List String) := none
  actionItemsJson : Option (List ActionItemDto) := none
  aiSummary : Option AiSummaryEditDto := none
  deriving DecidableEq, Repr

structure LinkMinutesResourcesDto where
  recordingFileId : Option (Option Nat) := none
  transcriptId : Option (Option Nat) := none
  deriving DecidableEq, Repr

variable (s : MinutesDb) (id authUserId : Nat)

def lockDraft (code : String) : Except MinutesError MeetingMinutes :=
  expect ((s.minutes.get? id).filter fun minutes => minutes.deletedAt.isNone)
    (.thrown .notFound code "Bien ban hop khong ton tai hoac da bi xoa" [("minutesId", .id id)])

def isOwner (minutes : MeetingMinutes) : Bool :=
  minutes.preparedBy = some authUserId ∨
    (joinedMeeting s.toMinutesStore minutes.meetingId).any fun meeting => meeting.hostId = some authUserId

def notMinutesOwner (message : String) : MinutesError :=
  .thrown .forbidden "NOT_MINUTES_OWNER" message [("minutesId", .id id)]

def minutesNotDraft (message : String) (minutes : MeetingMinutes) : MinutesError :=
  .thrown .conflict "MINUTES_NOT_DRAFT" message
    [("minutesId", .id id), ("currentStatus", .status minutes.status)]

def meetingStatusOf (minutes : MeetingMinutes) : Option MeetingStatus :=
  (joinedMeeting s.toMinutesStore minutes.meetingId).map Meeting.status

def UpdateDraftMinutesDto.isEmpty (dto : UpdateDraftMinutesDto) : Bool :=
  dto.title.isNone ∧ dto.minutesContent.isNone ∧ dto.decisionsJson.isNone ∧
    dto.actionItemsJson.isNone ∧ dto.aiSummary.isNone

def AiSummaryEditDto.merge (dto : AiSummaryEditDto) (existingAi : AiSummary) : AiSummary where
  keyPoints := dto.keyPoints <|> existingAi.keyPoints
  risks := dto.risks <|> existingAi.risks
  openQuestions := dto.openQuestions <|> existingAi.openQuestions
  uncertainParts := dto.uncertainParts <|> existingAi.uncertainParts
  provenance := existingAi.provenance

/-- `randomUUID` gives the ids that the items lack. -/
def withIds (randomUUID : Nat → String) (items : List ActionItemDto) : List ActionItem :=
  items.zipIdx.map fun w => ⟨some (w.1.id.getD (randomUUID w.2)), w.1.task⟩

def attendeesOf (meetingId : Nat) : List AttendeeSnapshot :=
  (s.participants.filter fun p => p.meetingId = meetingId).map fun p =>
    ⟨p.userId, p.participantRole, p.attendanceStatus, p.joinedAt, p.leftAt⟩

def UpdateDraftMinutesDto.edit (dto : UpdateDraftMinutesDto) (randomUUID : Nat → String)
    (minutes : MeetingMinutes) : MeetingMinutes :=
  { minutes with
    title := dto.title.getD minutes.title
    minutesContent := dto.minutesContent.getD minutes.minutesContent
    decisionsJson := dto.decisionsJson <|> minutes.decisionsJson
    actionItemsJson := dto.actionItemsJson.map (withIds randomUUID) <|> minutes.actionItemsJson
    aiSummaryJson := dto.aiSummary.map (fun edit => edit.merge (minutes.aiSummaryJson.getD {})) <|>
      minutes.aiSummaryJson
    attendeesSnapshotJson :=
      if meetingStatusOf s minutes = some .completed then some (attendeesOf s minutes.meetingId)
      else minutes.attendeesSnapshotJson
    versionNo := minutes.versionNo + 1 }

def updateDraft (dto : UpdateDraftMinutesDto) (randomUUID : Nat → String) :
    Except MinutesError MeetingMinutes := do
  require (dto.isEmpty = false)
    (.thrown .badRequest "NO_UPDATE_FIELD" "Khong co truong nao duoc cap nhat" [])
  let minutes ← lockDraft s id "MINUTES_NOT_FOUND"
  require (isOwner s authUserId minutes = true)
    (notMinutesOwner id "Ban khong phai la nguoi soan thao hoac host")
  require (minutes.status = .draft)
    (minutesNotDraft id "Chi co the cap nhat bien ban o trang thai nhap" minutes)
  require (dto.versionNo = minutes.versionNo)
    (.thrown .conflict "MINUTES_VERSION_CONFLICT" "Phien ban khong khop, vui long tai lai du lieu"
      [("currentVersionNo", .version minutes.versionNo), ("currentData", .current minutes)])
  pure (dto.edit s randomUUID minutes)

def toggleLiveShare (enabled : Bool) : Except MinutesError MeetingMinutes := do
  let minutes ← lockDraft s id "MEETING_MINUTES_NOT_FOUND"
  require (minutes.preparedBy = some authUserId)
    (notMinutesOwner id "Ban khong phai la nguoi soan thao bien ban nay")
  require (minutes.status = .draft) (minutesNotDraft id
    "Chi co the bat/tat chia se truc tiep khi bien ban o trang thai nhap" minutes)
  require (enabled = true → meetingStatusOf s minutes = some .inProgress)
    (.thrown .conflict "MEETING_NOT_IN_PROGRESS"
      "Cuoc hop khong o trang thai dang dien ra, khong the bat chia se truc tiep"
      [("meetingId", .id minutes.meetingId), ("meetingStatus", .meetingStatus (meetingStatusOf s minutes))])
  pure { minutes with isLiveShared := enabled }

def checkRecordingFile (minutes : MeetingMinutes) (recordingFileId : Nat) : Except MinutesError Unit := do
  let file ← expect ((s.mediaFiles.get? recordingFileId).filter fun file => file.deletedAt.isNone)
    (.thrown .notFound "RECORDING_FILE_NOT_FOUND" "File recording khong ton tai hoac da bi xoa"
      [("recordingFileId", .id recordingFileId)])
  require (file.fileType = .audio ∨ file.fileType = .video)
    (.thrown .badRequest "INVALID_RECORDING_FILE_TYPE"
      "File duoc chon khong phai file recording (audio/video)"
      [("recordingFileId", .id recordingFileId), ("fileType", .fileType file.fileType)])
  require (file.meetingId = some minutes.meetingId)
    (.thrown .conflict "RESOURCE_NOT_SAME_MEETING"
      "File recording khong thuoc cuoc hop cua bien ban nay" [("recordingFileId", .id recordingFileId)])

def checkTranscript (minutes : MeetingMinutes) (transcriptId : Nat) : Except MinutesError Unit := do
  let meetingId ← expect (s.transcriptMeetings transcriptId)
    (.thrown .notFound "TRANSCRIPT_NOT_FOUND" "Transcript khong ton tai"
      [("transcriptId", .id transcriptId)])
  require (meetingId = minutes.meetingId)
    (.thrown .conflict "RESOURCE_NOT_SAME_MEETING" "Transcript khong thuoc cuoc hop cua bien ban nay"
      [("transcriptId", .id transcriptId)])

def linkResources (dto : LinkMinutesResourcesDto) : Except MinutesError MeetingMinutes := do
  require (dto.recordingFileId ≠ none ∨ dto.transcriptId ≠ none)
    (.thrown .badRequest "NO_LINK_FIELD" "Khong co truong nao duoc lien ket" [])
  let minutes ← lockDraft s id "MINUTES_NOT_FOUND"
  require (isOwner s authUserId minutes = true)
    (notMinutesOwner id "Ban khong phai la nguoi soan thao hoac host")
  require (minutes.status = .draft)
    (minutesNotDraft id "Chi co the lien ket tai nguyen khi bien ban o trang thai nhap" minutes)
  require (meetingStatusOf s minutes = some .completed)
    (.thrown .conflict "MEETING_NOT_COMPLETED" "Cuoc hop chua ket thuc, chua the lien ket tai nguyen"
      [("meetingId", .id minutes.meetingId), ("currentStatus", .meetingStatus (meetingStatusOf s minutes))])
  onSome dto.recordingFileId.join (checkRecordingFile s minutes)
  onSome dto.transcriptId.join (checkTranscript s minutes)
  pure { minutes with
    linkedRecordingFileId := dto.recordingFileId.getD minutes.linkedRecordingFileId
    linkedTranscriptId := dto.transcriptId.getD minutes.linkedTranscriptId }

def deleteDraft (now : Nat) : Except MinutesError MeetingMinutes := do
  let minutes ← lockDraft s id "MINUTES_NOT_FOUND"
  require (isAdmin s.toMinutesStore authUserId = true ∨ isOwner s authUserId minutes = true)
    (notMinutesOwner id "Ban khong co quyen xoa bien ban nay")
  require (minutes.status = .draft)
    (minutesNotDraft id "Chi co the xoa bien ban o trang thai nhap" minutes)
  pure { minutes with
    status := .deleted
    deletedAt := some now }

def issueMinutes (now : Nat) : Except MinutesError MeetingMinutes := do
  let minutes ← lockDraft s id "MINUTES_NOT_FOUND"
  require (isAdmin s.toMinutesStore authUserId = true ∨ isOwner s authUserId minutes = true)
    (notMinutesOwner id "Ban khong co quyen ban hanh bien ban nay")
  require (minutes.status = .draft)
    (minutesNotDraft id "Chi co the ban hanh bien ban o trang thai nhap" minutes)
  require (meetingStatusOf s minutes = some .completed)
    (.thrown .conflict "MEETING_NOT_COMPLETED" "Cuoc hop chua ket thuc, khong the ban hanh bien ban"
      [("meetingId", .id minutes.meetingId), ("meetingStatus", .meetingStatus (meetingStatusOf s minutes))])
  pure { minutes with
    status := .published
    issuedBy := some authUserId
    issuedAt := some now
    isLiveShared := false }

end Drafts

section Generated

structure AiMinutesOutput where
  summary : String
  keyPoints : List String
  decisions : List String
  actionItems : List ActionItem
  risks : List String
  openQuestions : List String
  uncertainParts : List String
  deriving DecidableEq, Repr

/-- `provenance` is what the job notes about the model. -/
structure AiDraftJobPayload where
  meetingId : Nat
  transcriptId : Nat
  forceRerun : Bool
  userId : Nat
  provenance : String
  deriving DecidableEq, Repr

structure NonRetryableAiJobError where
  code : String
  message : String
  deriving DecidableEq, Repr

variable (s : MinutesDb) (payload : AiDraftJobPayload) (output : AiMinutesOutput)

def lockMeeting : Except NonRetryableAiJobError Meeting :=
  expect (joinedMeeting s.toMinutesStore payload.meetingId)
    ⟨"MEETING_NOT_FOUND", "Meeting da bi xoa sau khi job duoc queue"⟩

def findExisting : Option (Nat × MeetingMinutes) :=
  s.minutes.findOne fun r => r.2.meetingId = payload.meetingId ∧ r.2.source = .ai ∧ r.2.deletedAt.isNone

def checkOverwritable (existing : MeetingMinutes) : Except NonRetryableAiJobError Unit :=
  require (payload.forceRerun = true ∧ existing.source = .ai ∧ existing.status = .draft)
    ⟨"MINUTES_ALREADY_EXISTS", "Minutes da ton tai (tao tay/publish trong luc job chay) — khong ghi de"⟩

def aiSummaryJson : AiSummary where
  keyPoints := some output.keyPoints
  risks := some output.risks
  openQuestions := some output.openQuestions
  uncertainParts := some output.uncertainParts
  provenance := some payload.provenance

def overwrite (existing : MeetingMinutes) : MeetingMinutes :=
  { existing with
    minutesContent := output.summary
    decisionsJson := some output.decisions
    actionItemsJson := some output.actionItems
    aiSummaryJson := some (aiSummaryJson payload output)
    linkedTranscriptId := some payload.transcriptId
    preparedBy := some payload.userId
    versionNo := existing.versionNo + 1 }

def createDraft (meeting : Meeting) (now : Nat) : MeetingMinutes where
  meetingId := payload.meetingId
  title := "Biên bản họp: " ++ meeting.title
  versionNo := 1
  status := .draft
  isLiveShared := false
  source := .ai
  minutesContent := output.summary
  attendeesSnapshotJson := none
  decisionsJson := some output.decisions
  actionItemsJson := some output.actionItems
  aiSummaryJson := some (aiSummaryJson payload output)
  linkedTranscriptId := some payload.transcriptId
  linkedRecordingFileId := none
  issuedBy := none
  issuedAt := none
  preparedBy := some payload.userId
  createdAt := now
  deletedAt := none

/-- What the columns written by a save make of the row as it is then. -/
def saveEntity (entity stored row : MeetingMinutes) : MeetingMinutes where
  meetingId := savedColumn entity.meetingId stored.meetingId row.meetingId
  title := savedColumn entity.title stored.title row.title
  versionNo := savedColumn entity.versionNo stored.versionNo row.versionNo
  status := savedColumn entity.status stored.status row.status
  isLiveShared := savedColumn entity.isLiveShared stored.isLiveShared row.isLiveShared
  source := savedColumn entity.source stored.source row.source
  minutesContent := savedColumn entity.minutesContent stored.minutesContent row.minutesContent
  attendeesSnapshotJson :=
    savedColumn entity.attendeesSnapshotJson stored.attendeesSnapshotJson row.attendeesSnapshotJson
  decisionsJson := savedColumn entity.decisionsJson stored.decisionsJson row.decisionsJson
  actionItemsJson := savedColumn entity.actionItemsJson stored.actionItemsJson row.actionItemsJson
  aiSummaryJson := savedColumn entity.aiSummaryJson stored.aiSummaryJson row.aiSummaryJson
  linkedTranscriptId := savedColumn entity.linkedTranscriptId stored.linkedTranscriptId row.linkedTranscriptId
  linkedRecordingFileId :=
    savedColumn entity.linkedRecordingFileId stored.linkedRecordingFileId row.linkedRecordingFileId
  issuedBy := savedColumn entity.issuedBy stored.issuedBy row.issuedBy
  issuedAt := savedColumn entity.issuedAt stored.issuedAt row.issuedAt
  preparedBy := savedColumn entity.preparedBy stored.preparedBy row.preparedBy
  createdAt := savedColumn entity.createdAt stored.createdAt row.createdAt
  deletedAt := savedColumn entity.deletedAt stored.deletedAt row.deletedAt

end Generated

section Calls

inductive DraftAction where
  | update (dto : UpdateDraftMinutesDto) (randomUUID : Nat → String)
  | toggle (enabled : Bool)
  | link (dto : LinkMinutesResourcesDto)
  | delete
  | issue

def DraftAction.prepare (s : MinutesDb) (id authUserId now : Nat) : DraftAction →
    Except MinutesError MeetingMinutes
  | .update dto randomUUID => updateDraft s id authUserId dto randomUUID
  | .toggle enabled => toggleLiveShare s id authUserId enabled
  | .link dto => linkResources s id authUserId dto
  | .delete => deleteDraft s id authUserId now
  | .issue => issueMinutes s id authUserId now

def deleteAttachments (id : Nat) (row : MeetingMinutes) (mediaFiles : Table MediaFile) : Table MediaFile :=
  mediaFiles.updateWhere
    (fun r => r.2.relatedEntityType = some "meeting_minutes" ∧ r.2.relatedEntityId = some id ∧
      r.2.deletedAt.isNone)
    fun file => { file with deletedAt := row.deletedAt }

def DraftAction.commit (s : MinutesDb) (id : Nat) (read row : MeetingMinutes) (action : DraftAction) :
    MinutesDb :=
  { s with
    minutes := s.minutes.save id row
    lockedMinutes := Function.update s.lockedMinutes id false
    mediaFiles := match action with
      | .delete => deleteAttachments id row s.mediaFiles
      | _ => s.mediaFiles
    history := match action with
      | .update dto _ => s.history ++ [⟨id, some (dto.versionNo, read.text), row.versionNo, row.text⟩]
      | _ => s.history }

/-- The places of the job between its queries. From the second one on it holds the meeting, at the
    last one also the row of the minutes. -/
inductive PersistStage where
  | locking
  | reading (meeting : Meeting)
  | inserting (meeting : Meeting)
  | saving (id : Nat) (existing : MeetingMinutes)
  | updating (id : Nat) (existing stored : MeetingMinutes)
  | committing (id : Nat) (existing stored : MeetingMinutes)

inductive MinutesCall where
  | locking (action : DraftAction) (id authUserId : Nat)
  | writing (action : DraftAction) (id : Nat) (read row : MeetingMinutes)
  | persist (payload : AiDraftJobPayload) (output : AiMinutesOutput) (stage : PersistStage)
  | meeting (id : Nat) (change : Meeting → Meeting)

/-- The meetings are also written by others, who lock them too. -/
inductive MinutesRequest where
  | draft (action : DraftAction) (id authUserId : Nat)
  | persistDraft (payload : AiDraftJobPayload) (output : AiMinutesOutput)
  | meeting (id : Nat) (change : Meeting → Meeting)

def MinutesRequest.enter : MinutesRequest → MinutesCall
  | .draft action id authUserId => .locking action id authUserId
  | .persistDraft payload output => .persist payload output .locking
  | .meeting id change => .meeting id change

def MinutesDb.lockRow (s : MinutesDb) (id : Nat) : MinutesDb :=
  { s with lockedMinutes := Function.update s.lockedMinutes id true }

def MinutesDb.releaseMeeting (s : MinutesDb) (meetingId : Nat) : MinutesDb :=
  { s with lockedMeetings := Function.update s.lockedMeetings meetingId false }

section Persist
variable (s : MinutesDb) (payload : AiDraftJobPayload) (output : AiMinutesOutput) (now : Nat)

/-- The insert fails at the unique index where the meeting has generated minutes by then. -/
def MinutesDb.insertDraft (meeting : Meeting) : MinutesDb :=
  if (findExisting s payload).isSome then s
  else
    let row := createDraft payload output meeting now
    { s with
      minutes := s.minutes.insert row
      history := s.history ++ [⟨s.minutes.next, none, row.versionNo, row.text⟩] }

def MinutesDb.commitRerun (id : Nat) (existing stored : MeetingMinutes) : MinutesDb :=
  match s.minutes.get? id with
  | none => s
  | some row =>
    let saved := saveEntity (overwrite payload output existing) stored row
    { s with
      minutes := s.minutes.save id saved
      lockedMinutes := Function.update s.lockedMinutes id false
      history := s.history ++ [⟨id, some (existing.versionNo, existing.text), saved.versionNo, saved.text⟩] }

def persistDraft : PersistStage → MinutesDb × Option PersistStage
  | .locking =>
    if s.lockedMeetings payload.meetingId then (s, some .locking)
    else match lockMeeting s payload with
      | .error _ => (s, none)
      | .ok meeting =>
        ({ s with lockedMeetings := Function.update s.lockedMeetings payload.meetingId true },
          some (.reading meeting))
  | .reading meeting =>
    match findExisting s payload with
    | none => (s, some (.inserting meeting))
    | some r =>
      match checkOverwritable payload r.2 with
      | .error _ => (s.releaseMeeting payload.meetingId, none)
      | .ok _ => (s, some (.saving r.1 r.2))
  | .inserting meeting =>
    ((s.insertDraft payload output now meeting).releaseMeeting payload.meetingId, none)
  | .saving id existing =>
    match s.minutes.get? id with
    | none => (s.releaseMeeting payload.meetingId, none)
    | some stored => (s, some (.updating id existing stored))
  | .updating id existing stored =>
    if s.lockedMinutes id then (s, some (.updating id existing stored))
    else (s.lockRow id, some (.committing id existing stored))
  | .committing id existing stored =>
    ((s.commitRerun payload output id existing stored).releaseMeeting payload.meetingId, none)

end Persist

/-- A call that throws ends there, and changes nothing. -/
def MinutesCall.access (now : Nat) (s : MinutesDb) : MinutesCall → MinutesDb × Option MinutesCall
  | .locking action id authUserId =>
    if s.lockedMinutes id then (s, some (.locking action id authUserId))
    else match s.minutes.get? id, action.prepare s id authUserId now with
      | some read, .ok row => (s.lockRow id, some (.writing action id read row))
      | _, _ => (s, none)
  | .writing action id read row => (action.commit s id read row, none)
  | .persist payload output stage =>
    let next := persistDraft s payload output now stage
    (next.1, next.2.map (.persist payload output))
  | .meeting id change =>
    if s.lockedMeetings id then (s, some (.meeting id change))
    else ({ s with meetings := s.meetings.update id change }, none)

def minutesCalls : Service MinutesDb MinutesCall MinutesRequest where
  clock _ := 0
  admits _ _ := True
  enter _ r := r.enter
  act now c s := c.access now s

instance (s : MinutesDb) (r : MinutesRequest) : Decidable (minutesCalls.admits s r) :=
  inferInstanceAs (Decidable True)

end Calls

end Minutes
