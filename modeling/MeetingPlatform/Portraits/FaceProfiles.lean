import MeetingPlatform.Auth.Tokens
import MeetingPlatform.FaceAccess.Provisioning
import MeetingPlatform.Lib.TableWrites

/- Portraits of the users: how they are handed in, reviewed and withdrawn. The one approved picture of a
   user is what the recorder in the corridors is to know the user by. -/
namespace PortraitStore
open KeyedTable
open Auth (AccountStatus)
open FaceAccess (SyncStatus)

section Rows

inductive FaceProfileStatus where
  | active | pendingReview | rejected | disabled | revoked
  deriving DecidableEq, Repr

inductive StorageProvider where
  | localDisk | s3 | minio | cloudProvider
  deriving DecidableEq, Repr

structure UserEntity where
  accountStatus : AccountStatus
  roleCodes : List String
  deleted : Bool
  deriving DecidableEq, Repr

structure MediaFileEntity where
  storageProvider : StorageProvider
  fileUrl : Option String
  deleted : Bool
  deriving DecidableEq, Repr

structure FaceProfileEntity where
  userId : Nat
  status : FaceProfileStatus
  primaryImageFileId : Option Nat
  deleted : Bool
  deriving DecidableEq, Repr

/-- A row of `device_user_mappings` for the corridor recorder, with `portrait` as its source. -/
structure PortraitMapping where
  userId : Nat
  devicePersonId : Option Nat
  syncStatus : SyncStatus
  lastSyncedAt : Int
  deleted : Bool
  deriving DecidableEq, Repr

def PortraitMapping.live (mp : PortraitMapping) : Bool := !mp.deleted

def PortraitMapping.synced (mp : PortraitMapping) : Bool :=
  mp.live && decide (mp.syncStatus = .synced)

structure Store where
  users : Table UserEntity
  mediaFiles : Table MediaFileEntity
  faceProfiles : Table FaceProfileEntity
  mappings : Table PortraitMapping

structure BiometricError where
  status : Nat
  code : String
  message : String
  deriving DecidableEq, Repr

def FaceProfileEntity.holds (status : FaceProfileStatus) (userId : Nat) (fp : FaceProfileEntity) : Bool :=
  decide (fp.userId = userId) && decide (fp.status = status) && !fp.deleted

def isActiveUser (u : UserEntity) : Bool := decide (u.accountStatus = .active) && !u.deleted

/-- Whether `ux_face_profiles_user_pending` has an entry for the user. -/
def hasPending (s : Store) (userId : Nat) : Bool :=
  s.faceProfiles.rows.any fun r => r.2.holds .pendingReview userId

end Rows

section Submissions

def biometricExemptRoleCodes : List String := ["BUSINESS_ADMIN", "SYSTEM_ADMIN"]

def isBiometricExemptRole (roleCodes : List String) : Bool :=
  roleCodes.any fun code => biometricExemptRoleCodes.contains code

/-- `detectedMime` is what the first bytes say. -/
structure UploadedBiometricFile where
  bufferLength : Nat
  size : Nat
  detectedMime : Option String
  deriving DecidableEq, Repr

structure BiometricConfig where
  facePortraitMaxBytes : Nat
  mediaStorageProvider : StorageProvider

/-- `upload` is the address of the stored picture, where the upload works. -/
structure Submission where
  userId : Nat
  file : Option UploadedBiometricFile
  consentAccepted : Bool
  upload : Option String
  deriving DecidableEq, Repr

variable (config : BiometricConfig)

def checkSubmission (s : Store) (q : Submission) : Except BiometricError String :=
  match s.users.get? q.userId with
  | none => .error ⟨404, "USER_NOT_FOUND", "Không tìm thấy tài khoản."⟩
  | some user =>
    if user.deleted then .error ⟨404, "USER_NOT_FOUND", "Không tìm thấy tài khoản."⟩
    else if user.accountStatus ≠ .active then
      .error ⟨403, "ACCOUNT_NOT_ACTIVE", "Tài khoản không ở trạng thái active."⟩
    else if isBiometricExemptRole user.roleCodes then
      .error ⟨403, "BIOMETRIC_NOT_APPLICABLE_FOR_ROLE",
        "Tài khoản Business Admin/System Admin không cần đăng ký sinh trắc học vì không trực tiếp tham dự họp qua FaceGate."⟩
    else match q.file with
      | none => .error ⟨400, "BIOMETRIC_FILE_REQUIRED", "Vui lòng đính kèm ảnh sinh trắc học."⟩
      | some file =>
        if file.bufferLength = 0 then
          .error ⟨400, "BIOMETRIC_FILE_REQUIRED", "Vui lòng đính kèm ảnh sinh trắc học."⟩
        else if config.facePortraitMaxBytes < file.size then
          .error ⟨400, "BIOMETRIC_FILE_TOO_LARGE",
            "Ảnh vượt quá giới hạn " ++ toString config.facePortraitMaxBytes ++ " bytes."⟩
        else if file.detectedMime = none then
          .error ⟨400, "BIOMETRIC_FILE_TYPE_INVALID", "Ảnh phải có định dạng JPEG, PNG hoặc WEBP."⟩
        else if !q.consentAccepted then
          .error ⟨400, "BIOMETRIC_CONSENT_REQUIRED",
            "Bạn phải đồng ý sử dụng ảnh cho mục đích nhận diện khuôn mặt."⟩
        else if hasPending s q.userId then
          .error ⟨409, "BIOMETRIC_ALREADY_PENDING_REVIEW",
            "Ảnh sinh trắc học của bạn đang chờ duyệt, vui lòng đợi kết quả trước khi nộp ảnh khác."⟩
        else match q.upload with
          | none => .error ⟨502, "BIOMETRIC_STORAGE_FAILED",
              "Không thể lưu ảnh lên kho lưu trữ. Vui lòng thử lại."⟩
          | some url => .ok url

/-- The pending index answers a submission that was overtaken as the check answers a late one, so the
    check and the rows are one step here. -/
def submit (s : Store) (q : Submission) : Except BiometricError Store := do
  let url ← checkSubmission config s q
  .ok { s with
    mediaFiles := s.mediaFiles.insert
      { storageProvider := config.mediaStorageProvider
        fileUrl := some url
        deleted := false }
    faceProfiles := s.faceProfiles.insert
      { userId := q.userId
        status := .pendingReview
        primaryImageFileId := some s.mediaFiles.next
        deleted := false } }

structure UploadedPortrait where
  mimetype : String
  size : Nat
  deriving DecidableEq, Repr

def allowedMime : List String := ["image/jpeg", "image/png"]

def checkPortrait (file : Option UploadedPortrait) : Except BiometricError Unit :=
  match file with
  | none => .error ⟨400, "VALIDATION_ERROR", "Portrait file is required."⟩
  | some file =>
    if !allowedMime.contains file.mimetype then
      .error ⟨400, "INVALID_FILE_TYPE", "Portrait must be image/jpeg or image/png."⟩
    else if config.facePortraitMaxBytes < file.size then
      .error ⟨400, "FILE_TOO_LARGE",
        "Portrait exceeds " ++ toString config.facePortraitMaxBytes ++ " bytes."⟩
    else .ok ()

/-- What `enrollPortrait` of the staff writes: over the first profile of the user, whatever its status,
    or as a new one. The driver is `s3` or the disk. -/
def writePortrait (s : Store) (userId : Nat) (onS3 : Bool) : Store × Bool :=
  let mediaFileId := s.mediaFiles.next
  let stored := { s with
    mediaFiles := s.mediaFiles.insert
      { storageProvider := if onS3 then .s3 else .localDisk
        fileUrl := none
        deleted := false } }
  match s.faceProfiles.findOne fun r => decide (r.2.userId = userId) && !r.2.deleted with
  | some existing =>
    if existing.2.status ≠ .pendingReview ∧ hasPending s userId then (stored, false)
    else
      ({ stored with
        faceProfiles := s.faceProfiles.update existing.1 fun fp => { fp with
          primaryImageFileId := some mediaFileId
          status := .pendingReview } }, true)
  | none =>
    ({ stored with
      faceProfiles := s.faceProfiles.insert
        { userId
          status := .pendingReview
          primaryImageFileId := some mediaFileId
          deleted := false } }, true)

/-- The staff's upload. A second pending profile is refused by the index, and the medium stays. -/
def enrollByStaff (s : Store) (userId : Nat) (file : Option UploadedPortrait) (onS3 : Bool) :
    Except BiometricError (Store × Bool) := do
  checkPortrait config file
  .ok (writePortrait s userId onS3)

end Submissions

section Reviews

def loadPending (s : Store) (faceProfileId : Nat) : Except BiometricError FaceProfileEntity :=
  match s.faceProfiles.get? faceProfileId with
  | none => .error ⟨404, "BIOMETRIC_SUBMISSION_NOT_FOUND", "Biometric submission not found."⟩
  | some fp =>
    if fp.deleted then .error ⟨404, "BIOMETRIC_SUBMISSION_NOT_FOUND", "Biometric submission not found."⟩
    else if fp.status ≠ .pendingReview then
      .error ⟨409, "BIOMETRIC_SUBMISSION_NOT_PENDING",
        "Biometric submission is not in pending_review status."⟩
    else match s.users.get? fp.userId with
      | none => .error ⟨404, "USER_NOT_FOUND", "User not found, inactive, or deleted."⟩
      | some user =>
        if isActiveUser user then .ok fp
        else .error ⟨404, "USER_NOT_FOUND", "User not found, inactive, or deleted."⟩

def mediaPresent (s : Store) (mediaFileId : Nat) : Bool :=
  match s.mediaFiles.get? mediaFileId with
  | none => false
  | some media => !media.deleted

def resetPortraitMapping (userId : Nat) (r : Nat × PortraitMapping) : Bool :=
  decide (r.2.userId = userId) && r.2.live && decide (r.2.syncStatus ≠ .pending)

def approveBiometricSubmission (s : Store) (faceProfileId : Nat) : Except BiometricError Store := do
  let fp ← loadPending s faceProfileId
  match fp.primaryImageFileId with
  | none => .error ⟨500, "BIOMETRIC_APPROVE_FAILED", "Failed to approve biometric submission."⟩
  | some mediaFileId =>
    if mediaPresent s mediaFileId then
      let oldActive := s.faceProfiles.findOne fun r =>
        r.2.holds .active fp.userId && decide (r.1 ≠ faceProfileId)
      let revoked := match oldActive with
        | none => s.faceProfiles
        | some old => s.faceProfiles.update old.1 fun p => { p with status := .revoked }
      .ok { s with
        faceProfiles := revoked.update faceProfileId fun p => { p with status := .active }
        mappings := s.mappings.updateWhere (resetPortraitMapping fp.userId) fun mp =>
          { mp with syncStatus := .pending } }
    else .error ⟨500, "BIOMETRIC_APPROVE_FAILED", "Failed to approve biometric submission."⟩

def checkReason (normalizedReason : String) : Except BiometricError Unit :=
  if normalizedReason.length = 0 then
    .error ⟨422, "BIOMETRIC_REJECTION_REASON_REQUIRED", "Rejection reason is required."⟩
  else if 500 < normalizedReason.length then
    .error ⟨422, "BIOMETRIC_REJECTION_REASON_TOO_LONG",
      "Rejection reason must not exceed 500 characters."⟩
  else .ok ()

/-- The reason is written into the text of a JSON value as it is, and the database may not read that
    text. -/
def rejectBiometricSubmission (s : Store) (faceProfileId : Nat) (normalizedReason : String)
    (reads : Bool) : Except BiometricError Store := do
  checkReason normalizedReason
  let _ ← loadPending s faceProfileId
  if reads then
    .ok { s with
      faceProfiles := s.faceProfiles.update faceProfileId fun p => { p with status := .rejected } }
  else .error ⟨500, "BIOMETRIC_REJECT_FAILED", "Failed to reject biometric submission."⟩

def deleteBiometricSubmission (s : Store) (faceProfileId : Nat) : Except BiometricError Store :=
  match s.faceProfiles.get? faceProfileId with
  | none => .error ⟨404, "BIOMETRIC_SUBMISSION_NOT_FOUND", "Biometric submission not found."⟩
  | some fp =>
    if fp.deleted then .error ⟨404, "BIOMETRIC_SUBMISSION_NOT_FOUND", "Biometric submission not found."⟩
    else .ok { s with
      faceProfiles := s.faceProfiles.update faceProfileId fun p => { p with deleted := true } }

end Reviews

section Accounts

def setAccountStatus (s : Store) (userId : Nat) (status : AccountStatus) : Store :=
  { s with users := s.users.update userId fun u => { u with accountStatus := status } }

/-- The part of a role change that is about pictures: who leaves the exempt roles loses the approved
    one. -/
def replaceRoles (s : Store) (userId : Nat) (roleCodes : List String) : Store :=
  match s.users.get? userId with
  | none => s
  | some user =>
    let isBiometricDemotion := isBiometricExemptRole user.roleCodes && !isBiometricExemptRole roleCodes
    { s with
      users := s.users.update userId fun u => { u with roleCodes }
      faceProfiles :=
        if isBiometricDemotion then
          s.faceProfiles.updateWhere (fun r => r.2.holds .active userId) fun p =>
            { p with status := .revoked }
        else s.faceProfiles }

def deleteUser (s : Store) (userId : Nat) : Store where
  users := s.users.update userId fun u => { u with deleted := true }
  mediaFiles := s.mediaFiles
  faceProfiles := s.faceProfiles.updateWhere (fun r => decide (r.2.userId = userId)) fun p =>
    { p with deleted := true }
  mappings := s.mappings.updateWhere (fun r => decide (r.2.userId = userId)) fun mp =>
    { mp with deleted := true }

end Accounts

end PortraitStore
