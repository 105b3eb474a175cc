import MeetingPlatform.Portraits.FaceProfiles
import MeetingPlatform.Lib.Runs

/- The standing store of faces on the corridor recorder. A turn of the synchronisation takes the approved
   picture of a user to the recorder, or takes a person off it; turns run in steps, between which the
   accounts and the reviews go on. -/
namespace PortraitStore
open KeyedTable
open Auth (AccountStatus)

section Recorder

/-- A person on the recorder. The recorder issues the uids, which are the keys of its table. -/
structure Face where
  userId : Nat
  picture : Nat
  deriving DecidableEq, Repr

inductive DeleteAnswer where
  | done | refused | lost
  deriving DecidableEq, Repr

/-- `unnamed` is a success whose answer has no uid in it. -/
inductive EnrollAnswer where
  | named | unnamed | refused | lost
  deriving DecidableEq, Repr

def DeleteAnswer.acts (answer : DeleteAnswer) : Bool := decide (answer ≠ .refused)

def EnrollAnswer.acts (answer : EnrollAnswer) : Bool := decide (answer ≠ .refused)

/-- The person is named by an issued uid, or by the hash of the user's id, which no person has. -/
def deleteFace (faces : Table Face) (personUid : Option Nat) (answer : DeleteAnswer) : Table Face :=
  match personUid with
  | none => faces
  | some uid => if answer.acts then faces.deleteWhere fun p => p.1 = uid else faces

def enrollFace (faces : Table Face) (face : Face) (answer : EnrollAnswer) : Table Face :=
  if answer.acts then faces.insert face else faces

end Recorder

section Turns

/-- What `enrollFace` gave: the uid to be written down, or a failure. -/
inductive EnrollResult where
  | ok (szUid : Option Nat)
  | failed
  deriving DecidableEq, Repr

def resultOf (faces : Table Face) : EnrollAnswer → EnrollResult
  | .named => .ok (some faces.next)
  | .unnamed => .ok none
  | .refused => .failed
  | .lost => .failed

def EnrollResult.uid : EnrollResult → Option Nat
  | .ok szUid => szUid
  | .failed => none

inductive Turn where
  | looked (userId : Nat)
  | read (userId picture : Nat)
  | cleaning (userId picture : Nat) (stale : List Nat)
  | enrolled (userId picture : Nat) (result : EnrollResult)
  | removing (userId mapping : Nat) (person : Option Nat)
  | removed (userId mapping : Nat)
  deriving DecidableEq, Repr

def Turn.userId : Turn → Nat
  | .looked userId => userId
  | .read userId _ => userId
  | .cleaning userId _ _ => userId
  | .enrolled userId _ _ => userId
  | .removing userId _ _ => userId
  | .removed userId _ => userId

structure World where
  store : Store
  faces : Table Face
  turns : List Turn

def World.start (w : World) (t : Turn) : World := { w with turns := t :: w.turns }

def World.move (w : World) (t u : Turn) : World := { w with turns := u :: w.turns.erase t }

def World.finish (w : World) (t : Turn) : World := { w with turns := w.turns.erase t }

end Turns

section Queries
variable (s : Store)

/-- The first query of `enrollPortrait`: a clean mapping ends the turn. -/
def isSynced (userId : Nat) : Bool :=
  s.mappings.rows.any fun r => decide (r.2.userId = userId) && r.2.synced

def activeProfile (userId : Nat) : Option FaceProfileEntity :=
  (s.faceProfiles.findOne fun r => r.2.holds .active userId).map Prod.snd

/-- The bytes are known by the medium they are in. `readable` is whether the disk or the address gives
    them. -/
def getPortraitBytes (userId : Nat) (readable : Bool) : Option Nat := do
  let face ← activeProfile s userId
  let mediaFileId ← face.primaryImageFileId
  let media ← s.mediaFiles.get? mediaFileId
  match media.storageProvider with
  | .localDisk => if readable then some mediaFileId else none
  | .cloudProvider => if media.fileUrl.isSome && readable then some mediaFileId else none
  | .s3 => none
  | .minio => none

def isStale (userId : Nat) (r : Nat × PortraitMapping) : Bool :=
  decide (r.2.userId = userId) && r.2.devicePersonId.isSome && r.2.live

def stalePersons (userId : Nat) : List Nat :=
  (s.mappings.select (isStale userId)).filterMap fun r => r.2.devicePersonId

def accountEligible (userId : Nat) : Bool :=
  match s.users.get? userId with
  | none => false
  | some u => isActiveUser u

def hasActive (userId : Nat) : Bool :=
  s.faceProfiles.rows.any fun r => r.2.holds .active userId

def eligible (userId : Nat) : Bool := accountEligible s userId && hasActive s userId

/-- The two scans of `reconcilePortraits`, without their limit. -/
def toEnroll : List Nat :=
  ((s.faceProfiles.select fun r => r.2.holds .active r.2.userId).map fun r => r.2.userId).dedup.filter
    fun userId => accountEligible s userId && !isSynced s userId

def isOutdated (r : Nat × PortraitMapping) : Bool := r.2.live && !eligible s r.2.userId

def toRemove : List (Nat × PortraitMapping) := s.mappings.select (isOutdated s)

end Queries

section Writes
variable (s : Store)

def upsertMapping (userId : Nat) (result : EnrollResult) (now : Int) : Store :=
  let row : PortraitMapping :=
    { userId
      devicePersonId := result.uid
      syncStatus := match result with
        | .ok _ => .synced
        | .failed => .failed
      lastSyncedAt := now
      deleted := false }
  match s.mappings.findOne fun r => decide (r.2.userId = userId) with
  | some existing => { s with mappings := s.mappings.save existing.1 row }
  | none => { s with mappings := s.mappings.insert row }

def markRemoved (mapping : Nat) : Store :=
  { s with mappings := s.mappings.update mapping fun mp =>
    { mp with
      syncStatus := .deleted
      deleted := true } }

def resyncMapping (userId : Nat) : Store :=
  { s with
    mappings := s.mappings.updateWhere (fun r => decide (r.2.userId = userId) && r.2.live) fun mp =>
      { mp with syncStatus := .pending } }

def expireMappings (ttlDays : Nat) (now : Int) : Store :=
  { s with
    mappings := s.mappings.updateWhere
      (fun r => r.2.synced && decide (r.2.lastSyncedAt < now - ttlDays * 86400000)) fun mp =>
        { mp with syncStatus := .pending } }

end Writes

section Steps

inductive Event where
  | look (userId : Nat)
  | read (userId : Nat) (readable : Bool)
  | listStale (userId picture : Nat)
  | clean (userId picture uid : Nat) (rest : List Nat) (answer : DeleteAnswer)
  | enroll (userId picture : Nat) (answer : EnrollAnswer)
  | upsert (userId picture : Nat) (result : EnrollResult) (now : Int)
  | pick (mapping : Nat) (mp : PortraitMapping)
  | remove (userId mapping : Nat) (person : Option Nat) (answer : DeleteAnswer)
  | mark (userId mapping : Nat)
  | abandon (t : Turn)
  | resync (userId : Nat)
  | expire (now : Int)
  | submit (q : Submission)
  | enrollByStaff (userId : Nat) (file : Option UploadedPortrait) (onS3 : Bool)
  | approve (faceProfileId : Nat)
  | reject (faceProfileId : Nat) (reason : String) (reads : Bool)
  | deleteProfile (faceProfileId : Nat)
  | setAccountStatus (userId : Nat) (status : AccountStatus)
  | replaceRoles (userId : Nat) (roleCodes : List String)
  | deleteUser (userId : Nat)

structure Setup where
  biometric : BiometricConfig
  ttlDays : Nat

variable (setup : Setup)

/-- A turn's step is taken by a turn that is that far; a turn begins where its query selects. -/
def ready (w : World) : Event → Prop
  | .look userId => isSynced w.store userId = false
  | .read userId _ => .looked userId ∈ w.turns
  | .listStale userId picture => .read userId picture ∈ w.turns
  | .clean userId picture uid rest _ => .cleaning userId picture (uid :: rest) ∈ w.turns
  | .enroll userId picture _ => .cleaning userId picture [] ∈ w.turns
  | .upsert userId picture result _ => .enrolled userId picture result ∈ w.turns
  | .pick mapping mp => (mapping, mp) ∈ toRemove w.store
  | .remove userId mapping person _ => .removing userId mapping person ∈ w.turns
  | .mark userId mapping => .removed userId mapping ∈ w.turns
  | .abandon t => t ∈ w.turns
  | _ => True

instance (w : World) : (e : Event) → Decidable (ready w e)
  | .look userId => inferInstanceAs (Decidable (isSynced w.store userId = false))
  | .read userId _ => inferInstanceAs (Decidable (.looked userId ∈ w.turns))
  | .listStale userId picture => inferInstanceAs (Decidable (.read userId picture ∈ w.turns))
  | .clean userId picture uid rest _ =>
    inferInstanceAs (Decidable (.cleaning userId picture (uid :: rest) ∈ w.turns))
  | .enroll userId picture _ => inferInstanceAs (Decidable (.cleaning userId picture [] ∈ w.turns))
  | .upsert userId picture result _ =>
    inferInstanceAs (Decidable (.enrolled userId picture result ∈ w.turns))
  | .pick mapping mp => inferInstanceAs (Decidable ((mapping, mp) ∈ toRemove w.store))
  | .remove userId mapping person _ =>
    inferInstanceAs (Decidable (.removing userId mapping person ∈ w.turns))
  | .mark userId mapping => inferInstanceAs (Decidable (.removed userId mapping ∈ w.turns))
  | .abandon t => inferInstanceAs (Decidable (t ∈ w.turns))
  | .resync _ => inferInstanceAs (Decidable True)
  | .expire _ => inferInstanceAs (Decidable True)
  | .submit _ => inferInstanceAs (Decidable True)
  | .enrollByStaff _ _ _ => inferInstanceAs (Decidable True)
  | .approve _ => inferInstanceAs (Decidable True)
  | .reject _ _ _ => inferInstanceAs (Decidable True)
  | .deleteProfile _ => inferInstanceAs (Decidable True)
  | .setAccountStatus _ _ => inferInstanceAs (Decidable True)
  | .replaceRoles _ _ => inferInstanceAs (Decidable True)
  | .deleteUser _ => inferInstanceAs (Decidable True)

def answered (s : Store) : Except BiometricError Store → Store
  | .ok t => t
  | .error _ => s

def World.onStore (w : World) (s : Store) : World := { w with store := s }

def next (w : World) : Event → World
  | .look userId => w.start (.looked userId)
  | .read userId readable =>
    match getPortraitBytes w.store userId readable with
    | none => w.finish (.looked userId)
    | some picture => w.move (.looked userId) (.read userId picture)
  | .listStale userId picture =>
    w.move (.read userId picture) (.cleaning userId picture (stalePersons w.store userId))
  | .clean userId picture uid rest answer =>
    { w.move (.cleaning userId picture (uid :: rest)) (.cleaning userId picture rest) with
      faces := deleteFace w.faces (some uid) answer }
  | .enroll userId picture answer =>
    { w.move (.cleaning userId picture []) (.enrolled userId picture (resultOf w.faces answer)) with
      faces := enrollFace w.faces ⟨userId, picture⟩ answer }
  | .upsert userId picture result now =>
    { w.finish (.enrolled userId picture result) with
      store := upsertMapping w.store userId result now }
  | .pick mapping mp => w.start (.removing mp.userId mapping mp.devicePersonId)
  | .remove userId mapping person answer =>
    { (if answer = .done then w.move (.removing userId mapping person) (.removed userId mapping)
        else w.finish (.removing userId mapping person)) with
      faces := deleteFace w.faces person answer }
  | .mark userId mapping =>
    { w.finish (.removed userId mapping) with store := markRemoved w.store mapping }
  | .abandon t => w.finish t
  | .resync userId => w.onStore (resyncMapping w.store userId)
  | .expire now => w.onStore (expireMappings w.store setup.ttlDays now)
  | .submit q => w.onStore (answered w.store (submit setup.biometric w.store q))
  | .enrollByStaff userId file onS3 =>
    w.onStore (answered w.store ((enrollByStaff setup.biometric w.store userId file onS3).map Prod.fst))
  | .approve faceProfileId => w.onStore (answered w.store (approveBiometricSubmission w.store faceProfileId))
  | .reject faceProfileId reason reads =>
    w.onStore (answered w.store (rejectBiometricSubmission w.store faceProfileId reason reads))
  | .deleteProfile faceProfileId =>
    w.onStore (answered w.store (deleteBiometricSubmission w.store faceProfileId))
  | .setAccountStatus userId status => w.onStore (setAccountStatus w.store userId status)
  | .replaceRoles userId roleCodes => w.onStore (replaceRoles w.store userId roleCodes)
  | .deleteUser userId => w.onStore (deleteUser w.store userId)

def Step (w : World) (e : Event) (v : World) : Prop := ready w e ∧ v = next setup w e

end Steps

end PortraitStore
