import MeetingPlatform.Lib.Paths
import MeetingPlatform.Portraits.FaceProfiles

/- Media files: the rows, where their bytes lie, and how a row is resolved to something that can be
   read. A row names its bytes by a key; the driver and the row's provider say what the key means. -/
namespace MediaFiles
open Paths
open PortraitStore (StorageProvider)

section Rows

abbrev Text := List Char

abbrev Bytes := List UInt8

structure MediaFileEntity where
  id : Text
  meetingId : Option Text
  fileName : String
  mimeType : String
  storageProvider : StorageProvider
  storageKey : Text
  fileUrl : Option String
  isActive : Bool
  deleted : Bool
  deriving DecidableEq, Repr

/-- A `findOne` by the key, which passes over what is soft-deleted. -/
def loadActive (files : List MediaFileEntity) (fileId : Text) : Option MediaFileEntity :=
  files.find? fun m => m.id = fileId ∧ m.deleted = false

end Rows

section Storage

inductive StorageDriver where
  | localDisk | s3
  deriving DecidableEq, Repr

/-- The two directories are resolved paths. `recordings` is missing until the first video is
    written. The client of the bucket is not part of the code; of a range it is known that it
    reads the bytes that were asked for, when there are any. -/
structure Storage where
  driver : StorageDriver
  localPath : List Name
  recordings : Option (List Name)
  disk : List Name → Option Bytes
  bucket : Text → Option Bytes
  getPartialObject : Text → Int → Int → Option Bytes
  localPath_clean : Clean localPath
  recordings_clean : ∀ base ∈ recordings, Clean base
  getPartialObject_reads : ∀ storageKey data, bucket storageKey = some data →
    ∀ offset length : Nat, 0 < length →
      getPartialObject storageKey offset length = some ((data.drop offset).take length)

def Storage.locate (st : Storage) (storageKey : Text) : Option (List Name) :=
  let resolved := resolve st.localPath storageKey
  if isWithin st.localPath resolved then some resolved else none

def Storage.getObjectSize (st : Storage) (storageKey : Text) : Option Nat :=
  match st.driver with
  | .localDisk => ((st.locate storageKey).bind st.disk).map List.length
  | .s3 => (st.bucket storageKey).map List.length

/-- Both ends of the range are read; a range that no file can have is thrown back. -/
def createReadStream (data : Bytes) (range : Option (Int × Int)) : Option Bytes :=
  match range with
  | none => some data
  | some (first, last) =>
    if 0 ≤ first ∧ first ≤ last then
      some ((data.drop first.toNat).take (last - first + 1).toNat)
    else none

def Storage.getObjectStream (st : Storage) (storageKey : Text) (range : Option (Int × Int)) :
    Option Bytes :=
  match st.driver with
  | .localDisk => ((st.locate storageKey).bind st.disk).bind (createReadStream · range)
  | .s3 =>
    match range with
    | none => st.bucket storageKey
    | some (first, last) => st.getPartialObject storageKey first (last - first + 1)

end Storage

section Resolving

inductive ResolvedMedia where
  | onDisk (path : List Name) (size : Nat) (mimeType fileName : String)
  | remote (storageKey : Text) (size : Nat) (mimeType fileName : String)
  deriving DecidableEq

def ResolvedMedia.size : ResolvedMedia → Nat
  | .onDisk _ size _ _ => size
  | .remote _ size _ _ => size

def resolveStored (st : Storage) (m : MediaFileEntity) : Option ResolvedMedia :=
  (st.getObjectSize m.storageKey).map fun size => .remote m.storageKey size m.mimeType m.fileName

def resolveRecorded (st : Storage) (m : MediaFileEntity) : Option ResolvedMedia :=
  st.recordings.bind fun base =>
    let resolved := resolve [] m.storageKey
    if (written base ++ ['/']).isPrefixOf (written resolved) then
      (st.disk resolved).map fun data => .onDisk resolved data.length m.mimeType m.fileName
    else none

def includes (part : Text) : Text → Bool
  | [] => part.isPrefixOf []
  | c :: rest => part.isPrefixOf (c :: rest) || includes part rest

def resolvePlayback (st : Storage) (files : List MediaFileEntity) (fileId : Text) :
    Option ResolvedMedia :=
  (loadActive files fileId).bind fun m =>
    if m.storageKey = [] then none
    else
      match m.storageProvider with
      | .s3 | .minio =>
        if isAbsolute m.storageKey || includes ['.', '.'] m.storageKey then none
        else resolveStored st m
      | .localDisk => if isAbsolute m.storageKey then resolveRecorded st m else resolveStored st m
      | .cloudProvider => none

inductive SecureMedia where
  | redirect (url : String)
  | media (m : ResolvedMedia)
  deriving DecidableEq

def resolveSecureDownload (st : Storage) (files : List MediaFileEntity) (fileId : Text) :
    Option SecureMedia :=
  (loadActive files fileId).bind fun m =>
    match m.storageProvider with
    | .cloudProvider =>
      match m.fileUrl with
      | some url => if url = "" then none else some (.redirect url)
      | none => none
    | _ => (resolvePlayback st files fileId).map .media

def openMediaStream (st : Storage) (m : ResolvedMedia) (range : Option (Int × Int)) : Option Bytes :=
  match m with
  | .onDisk path _ _ _ => (st.disk path).bind (createReadStream · range)
  | .remote storageKey _ _ _ => st.getObjectStream storageKey range

end Resolving

section Confinement

/-- A path below one of the two directories that may be read from, or one of them itself. -/
def Inside (st : Storage) (path : List Name) : Prop :=
  st.localPath <+: path ∨ ∃ base ∈ st.recordings, base <+: path

/-- The same configuration and bucket, and the same files in the two directories. -/
structure SameInside (st other : Storage) : Prop where
  driver : st.driver = other.driver
  localPath : st.localPath = other.localPath
  recordings : st.recordings = other.recordings
  bucket : st.bucket = other.bucket
  ranges : st.getPartialObject = other.getPartialObject
  disk : ∀ path, Inside st path → st.disk path = other.disk path

variable {st other : Storage} {files : List MediaFileEntity} {fileId key : Text}

theorem locate_inside {path : List Name}
    (located : st.locate key = some path) : Inside st path := by
  rw [Storage.locate] at located
  split at located
  · rename_i within
    rw [← Option.some.inj located]
    exact Or.inl (isWithin_begins st.localPath_clean (resolve_clean st.localPath_clean) within)
  · cases located

theorem recorded_inside {base : List Name} (there : base ∈ st.recordings)
    (below : (written base ++ ['/']).isPrefixOf (written (resolve [] key)) = true) :
    Inside st (resolve [] key) := by
  have within : isWithin base (resolve [] key) = true := by
    rw [isWithin, below, Bool.or_true]
  have clean : Clean (resolve [] key) := resolve_clean fun _ none => absurd none List.not_mem_nil
  exact Or.inr ⟨base, there, isWithin_begins (st.recordings_clean base there) clean within⟩

theorem located_disk_same (same : SameInside st other) :
    (st.locate key).bind st.disk = (other.locate key).bind other.disk := by
  have located : other.locate key = st.locate key := by
    rw [Storage.locate, Storage.locate, same.localPath]
  rw [located]
  cases found : st.locate key with
  | none => rfl
  | some path => exact same.disk path (locate_inside found)

theorem getObjectSize_same (same : SameInside st other) :
    st.getObjectSize key = other.getObjectSize key := by
  rw [Storage.getObjectSize, Storage.getObjectSize, located_disk_same same, same.driver,
    same.bucket]

theorem getObjectStream_same {range : Option (Int × Int)}
    (same : SameInside st other) :
    st.getObjectStream key range = other.getObjectStream key range := by
  unfold Storage.getObjectStream
  rw [located_disk_same same, same.driver, same.bucket, same.ranges]

theorem resolveRecorded_same {m : MediaFileEntity}
    (same : SameInside st other) : resolveRecorded st m = resolveRecorded other m := by
  rw [resolveRecorded, resolveRecorded, ← same.recordings]
  cases base : st.recordings with
  | none => rfl
  | some base =>
    simp only [Option.bind_some]
    split
    · rename_i below
      rw [same.disk _ (recorded_inside base below)]
    · rfl

theorem resolvePlayback_same (same : SameInside st other) :
    resolvePlayback st files fileId = resolvePlayback other files fileId := by
  have stored : ∀ m, resolveStored st m = resolveStored other m := by
    intro m
    rw [resolveStored, resolveStored, getObjectSize_same same]
  have recorded : ∀ m, resolveRecorded st m = resolveRecorded other m :=
    fun m => resolveRecorded_same same
  simp only [resolvePlayback, stored, recorded]

theorem resolveSecureDownload_same (same : SameInside st other) :
    resolveSecureDownload st files fileId = resolveSecureDownload other files fileId := by
  simp only [resolveSecureDownload, resolvePlayback_same same]

theorem resolved_on_disk {path : List Name} {size : Nat} {mimeType fileName : String}
    (found : resolvePlayback st files fileId = some (.onDisk path size mimeType fileName)) :
    Inside st path := by
  rw [resolvePlayback, Option.bind_eq_some_iff] at found
  obtain ⟨m, -, found⟩ := found
  have not_stored : resolveStored st m ≠ some (.onDisk path size mimeType fileName) := by
    simp [resolveStored]
  split at found
  · cases found
  · split at found
    · split at found
      · cases found
      · exact absurd found not_stored
    · split at found
      · cases found
      · exact absurd found not_stored
    · split at found
      · rw [resolveRecorded, Option.bind_eq_some_iff] at found
        obtain ⟨base, there, found⟩ := found
        simp only at found
        split at found
        · rename_i below
          obtain ⟨data, -, made⟩ := Option.map_eq_some_iff.mp found
          rw [ResolvedMedia.onDisk.injEq] at made
          rw [← made.1]
          exact recorded_inside there below
        · cases found
      · exact absurd found not_stored
    · cases found

end Confinement
end MediaFiles
