import MeetingPlatform.Portraits.PortraitSync

/- Whose persons the mappings and the turns name, and what becomes of a person on the recorder that none of
   them names. -/
namespace PortraitStore
open KeyedTable LabelledRuns
open Auth (AccountStatus)

section Profiles

def NoNewActive (t t' : Table FaceProfileEntity) : Prop :=
  ∀ r ∈ t'.rows, ∀ userId, r.2.holds .active userId = true → r ∈ t.rows

def OneActive (s : Store) : Prop :=
  ∀ r ∈ s.faceProfiles.rows, ∀ q ∈ s.faceProfiles.rows, ∀ userId,
    r.2.holds .active userId = true → q.2.holds .active userId = true → r = q

variable {t t' : Table FaceProfileEntity} {s s' : Store}

theorem noNewActive_refl (t : Table FaceProfileEntity) : NoNewActive t t := fun _ there _ _ => there

theorem noNewActive_update {p : Nat × FaceProfileEntity → Bool}
    {f : FaceProfileEntity → FaceProfileEntity}
    (never : ∀ fp userId, (f fp).holds .active userId = false) : NoNewActive t (t.updateWhere p f) := by
  intro r there userId holds
  obtain ⟨q, old, rfl⟩ := mem_updateWhere.mp there
  cases selected : p q with
  | false =>
    rw [touch_of_false f selected]
    exact old
  | true =>
    rw [touch_of_true f selected, never] at holds
    cases holds

theorem noNewActive_insert {fp : FaceProfileEntity} (pending : fp.status = .pendingReview) :
    NoNewActive t (t.insert fp) := by
  intro r there userId holds
  rcases mem_insert.mp there with old | rfl
  · exact old
  · simp [FaceProfileEntity.holds, pending] at holds

theorem oneActive_of_noNew (one : OneActive s) (noNew : NoNewActive s.faceProfiles s'.faceProfiles) :
    OneActive s' := by
  intro r hr q hq userId active_r active_q
  exact one r (noNew r hr userId active_r) q (noNew q hq userId active_q) userId active_r active_q

theorem holds_iff {status : FaceProfileStatus} {userId : Nat} {fp : FaceProfileEntity} :
    fp.holds status userId = true ↔ fp.userId = userId ∧ fp.status = status ∧ fp.deleted = false := by
  simp [FaceProfileEntity.holds, and_assoc]

theorem submit_rows {config : BiometricConfig} {q : Submission} (done : submit config s q = .ok s') :
    NoNewActive s.faceProfiles s'.faceProfiles ∧ s'.mappings = s.mappings := by
  unfold submit at done
  cases checked : checkSubmission config s q with
  | error e =>
    rw [checked] at done
    cases done
  | ok url =>
    rw [checked] at done
    cases done
    exact ⟨noNewActive_insert rfl, rfl⟩

theorem writePortrait_rows (userId : Nat) (onS3 : Bool) :
    NoNewActive s.faceProfiles (writePortrait s userId onS3).1.faceProfiles ∧
      (writePortrait s userId onS3).1.mappings = s.mappings := by
  unfold writePortrait
  dsimp only
  split
  · rename_i existing found
    split
    · exact ⟨noNewActive_refl _, rfl⟩
    · refine ⟨noNewActive_update ?_, rfl⟩
      intro fp other
      simp [FaceProfileEntity.holds]
  · exact ⟨noNewActive_insert rfl, rfl⟩

theorem loadPending_ok {id : Nat} {fp : FaceProfileEntity} (loaded : loadPending s id = .ok fp) :
    (id, fp) ∈ s.faceProfiles.rows ∧ fp.status = .pendingReview ∧ fp.deleted = false := by
  unfold loadPending at loaded
  split at loaded
  · cases loaded
  · rename_i found stored
    split at loaded
    · cases loaded
    · rename_i kept
      split at loaded
      · cases loaded
      · rename_i pending
        split at loaded
        · cases loaded
        · split at loaded
          · cases loaded
            exact ⟨get?_eq_some.mp stored, not_not.mp pending, Bool.eq_false_of_not_eq_true kept⟩
          · cases loaded

theorem reject_rows {id : Nat} {reason : String} {reads : Bool}
    (done : rejectBiometricSubmission s id reason reads = .ok s') :
    NoNewActive s.faceProfiles s'.faceProfiles ∧ s'.mappings = s.mappings := by
  unfold rejectBiometricSubmission at done
  cases checked : checkReason reason with
  | error e =>
    rw [checked] at done
    cases done
  | ok _ =>
    rw [checked] at done
    cases loaded : loadPending s id with
    | error e =>
      rw [loaded] at done
      cases done
    | ok fp =>
      rw [loaded] at done
      cases reads with
      | false => cases done
      | true =>
        cases done
        refine ⟨noNewActive_update ?_, rfl⟩
        intro fp other
        simp [FaceProfileEntity.holds]

theorem deleteProfile_rows {id : Nat} (done : deleteBiometricSubmission s id = .ok s') :
    NoNewActive s.faceProfiles s'.faceProfiles ∧ s'.mappings = s.mappings := by
  unfold deleteBiometricSubmission at done
  split at done
  · cases done
  · split at done
    · cases done
    · cases done
      refine ⟨noNewActive_update ?_, rfl⟩
      intro fp other
      simp [FaceProfileEntity.holds]

theorem replaceRoles_rows (userId : Nat) (roleCodes : List String) :
    NoNewActive s.faceProfiles (replaceRoles s userId roleCodes).faceProfiles ∧
      (replaceRoles s userId roleCodes).mappings = s.mappings := by
  unfold replaceRoles
  split
  · exact ⟨noNewActive_refl _, rfl⟩
  · refine ⟨?_, rfl⟩
    dsimp only
    split
    · refine noNewActive_update ?_
      intro fp other
      simp [FaceProfileEntity.holds]
    · exact noNewActive_refl _

theorem deleteUser_profiles (userId : Nat) : NoNewActive s.faceProfiles (deleteUser s userId).faceProfiles := by
  refine noNewActive_update ?_
  intro fp other
  simp [FaceProfileEntity.holds]

/-- The profiles after the old active one of the user is revoked. -/
def revokeOther (s : Store) (userId id : Nat) : Table FaceProfileEntity :=
  match s.faceProfiles.findOne fun r => r.2.holds .active userId && decide (r.1 ≠ id) with
  | none => s.faceProfiles
  | some old => s.faceProfiles.update old.1 fun p => { p with status := .revoked }

theorem mem_revokeOther (one : OneActive s) {userId id : Nat} {q : Nat × FaceProfileEntity}
    (there : q ∈ (revokeOther s userId id).rows) :
    (∃ r ∈ s.faceProfiles.rows, q.1 = r.1 ∧ q.2.userId = r.2.userId) ∧
      ∀ u, q.2.holds .active u = true → q ∈ s.faceProfiles.rows ∧ (u = userId → q.1 = id) := by
  unfold revokeOther at there
  split at there
  · rename_i nothing
    refine ⟨⟨q, there, rfl, rfl⟩, ?_⟩
    intro u active
    refine ⟨there, ?_⟩
    rintro rfl
    have none_such := findOne_none nothing q there
    rw [active, Bool.true_and, decide_eq_false_iff_not] at none_such
    exact not_not.mp none_such
  · rename_i old found
    obtain ⟨old_row, selected⟩ := findOne_mem found
    rw [Bool.and_eq_true, decide_eq_true_eq] at selected
    obtain ⟨r, row, rfl⟩ := mem_updateWhere.mp there
    by_cases here : r.1 = old.1
    · rw [touch_of_true _ (decide_eq_true here)]
      refine ⟨⟨r, row, rfl, rfl⟩, ?_⟩
      intro u active
      simp [FaceProfileEntity.holds] at active
    · rw [touch_of_false _ (decide_eq_false here)]
      refine ⟨⟨r, row, rfl, rfl⟩, ?_⟩
      intro u active
      refine ⟨row, ?_⟩
      rintro rfl
      exact absurd (congrArg Prod.fst (one r row old old_row u active selected.1)) here

theorem approve_rows (one : OneActive s) {id : Nat} (done : approveBiometricSubmission s id = .ok s') :
    ∃ fp, (id, fp) ∈ s.faceProfiles.rows ∧
      s'.mappings = s.mappings.updateWhere (resetPortraitMapping fp.userId)
        (fun mp => { mp with syncStatus := .pending }) ∧
      ∀ r ∈ s'.faceProfiles.rows, ∀ userId, r.2.holds .active userId = true →
        (userId = fp.userId ∧ r.1 = id) ∨ (userId ≠ fp.userId ∧ r ∈ s.faceProfiles.rows) := by
  unfold approveBiometricSubmission at done
  cases loaded : loadPending s id with
  | error e =>
    rw [loaded] at done
    cases done
  | ok fp =>
    obtain ⟨stored, pending, -⟩ := loadPending_ok loaded
    rw [loaded] at done
    dsimp only [bind, Except.bind] at done
    split at done
    · cases done
    · split at done
      · cases done
        refine ⟨fp, stored, rfl, ?_⟩
        intro r there userId active
        change r ∈ ((revokeOther s fp.userId id).update id fun p => { p with status := .active }).rows at there
        obtain ⟨q, left, rfl⟩ := mem_updateWhere.mp there
        obtain ⟨⟨old, row, key, user⟩, actives⟩ := mem_revokeOther one left
        by_cases here : q.1 = id
        · rw [touch_of_true _ (decide_eq_true here)] at active ⊢
          have same : old.2 = fp := key_unique s.faceProfiles
            (by rw [← here, key]; exact row) stored
          rw [same] at user
          exact Or.inl ⟨(holds_iff.mp active).1.symm.trans user, here⟩
        · rw [touch_of_false _ (decide_eq_false here)] at active ⊢
          obtain ⟨unchanged, only⟩ := actives userId active
          exact Or.inr ⟨fun same => here (only same), unchanged⟩
      · cases done

end Profiles

section Mappings
variable {t t' : Table PortraitMapping} {s : Store} {userId : Nat}

/-- Rows keep their keys, their users and their persons, and none comes back to life. -/
structure SameNames (t t' : Table PortraitMapping) : Prop where
  back : ∀ r ∈ t'.rows, ∃ q ∈ t.rows, q.1 = r.1 ∧ q.2.userId = r.2.userId ∧
    q.2.devicePersonId = r.2.devicePersonId ∧ (r.2.live = true → q.2.live = true)
  forth : ∀ q ∈ t.rows, ∃ r ∈ t'.rows, r.1 = q.1 ∧ r.2.userId = q.2.userId

/-- What a step outside the turns does to the mappings: none becomes clean, and none that is live goes. -/
structure SentAgain (t t' : Table PortraitMapping) : Prop where
  clean : ∀ r ∈ t'.rows, r.2.synced = true → r ∈ t.rows
  live : ∀ q ∈ t.rows, q.2.live = true → ∃ r ∈ t'.rows, r.2.userId = q.2.userId ∧
    r.2.devicePersonId = q.2.devicePersonId ∧ r.2.live = true

def Single (t : Table PortraitMapping) : Prop :=
  ∀ r ∈ t.rows, ∀ q ∈ t.rows, r.2.userId = q.2.userId → r = q

theorem sameNames_update {p : Nat × PortraitMapping → Bool} {f : PortraitMapping → PortraitMapping}
    (user : ∀ mp, (f mp).userId = mp.userId) (person : ∀ mp, (f mp).devicePersonId = mp.devicePersonId)
    (live : ∀ mp, (f mp).live = true → mp.live = true) : SameNames t (t.updateWhere p f) := by
  have same : ∀ q : Nat × PortraitMapping, (touch p f q).2.userId = q.2.userId ∧
      (touch p f q).2.devicePersonId = q.2.devicePersonId ∧
        ((touch p f q).2.live = true → q.2.live = true) := by
    intro q
    unfold touch
    split
    · exact ⟨user q.2, person q.2, live q.2⟩
    · exact ⟨rfl, rfl, id⟩
  constructor
  · intro r there
    obtain ⟨q, old, rfl⟩ := mem_updateWhere.mp there
    exact ⟨q, old, (touch_key p f q).symm, (same q).1.symm, (same q).2.1.symm, (same q).2.2⟩
  · intro q there
    exact ⟨touch p f q, mem_updateWhere.mpr ⟨q, there, rfl⟩, touch_key p f q, (same q).1⟩

theorem sameNames_pending {p : Nat × PortraitMapping → Bool} :
    SameNames t (t.updateWhere p fun mp => { mp with syncStatus := .pending }) :=
  sameNames_update (fun _ => rfl) (fun _ => rfl) fun _ live => live

theorem sameNames_refl (t : Table PortraitMapping) : SameNames t t where
  back r there := ⟨r, there, rfl, rfl, rfl, id⟩
  forth q there := ⟨q, there, rfl, rfl⟩

theorem SameNames.single (names : SameNames t t') (single : Single t) : Single t' := by
  intro r hr q hq same
  obtain ⟨r', hr', key_r, user_r, -, -⟩ := names.back r hr
  obtain ⟨q', hq', key_q, user_q, -, -⟩ := names.back q hq
  have equal := single r' hr' q' hq' (user_r.trans (same.trans user_q.symm))
  have key : r.1 = q.1 := key_r.symm.trans (equal ▸ key_q)
  exact Prod.ext key (key_unique t' (key ▸ hr : (q.1, r.2) ∈ t'.rows) hq)

theorem sentAgain_refl (t : Table PortraitMapping) : SentAgain t t where
  clean _ there _ := there
  live q there live := ⟨q, there, rfl, rfl, live⟩

theorem sentAgain_pending (p : Nat × PortraitMapping → Bool) :
    SentAgain t (t.updateWhere p fun mp => { mp with syncStatus := .pending }) := by
  constructor
  · intro r there synced
    obtain ⟨q, old, rfl⟩ := mem_updateWhere.mp there
    cases selected : p q with
    | false =>
      rw [touch_of_false _ selected]
      exact old
    | true =>
      rw [touch_of_true _ selected] at synced
      simp [PortraitMapping.synced] at synced
  · intro q there live
    refine ⟨touch p _ q, mem_updateWhere.mpr ⟨q, there, rfl⟩, ?_⟩
    unfold touch
    split
    · exact ⟨rfl, rfl, live⟩
    · exact ⟨rfl, rfl, live⟩

theorem sentAgain_deleted (none_live : ∀ r ∈ t.rows, r.2.userId = userId → r.2.live = false) :
    SentAgain t (t.updateWhere (fun r => decide (r.2.userId = userId)) fun mp =>
      { mp with deleted := true }) := by
  constructor
  · intro r there synced
    obtain ⟨q, old, rfl⟩ := mem_updateWhere.mp there
    by_cases mine : q.2.userId = userId
    · rw [touch_of_true _ (decide_eq_true mine)] at synced
      simp [PortraitMapping.synced, PortraitMapping.live] at synced
    · rw [touch_of_false _ (decide_eq_false mine)]
      exact old
  · intro q there live
    have other : q.2.userId ≠ userId := by
      intro mine
      rw [none_live q there mine] at live
      cases live
    exact ⟨q, mem_updateWhere.mpr ⟨q, there, touch_of_false _ (decide_eq_false other)⟩, rfl, rfl, live⟩

def upsertedRow (userId : Nat) (result : EnrollResult) (now : Int) : PortraitMapping where
  userId := userId
  devicePersonId := result.uid
  syncStatus :=
    match result with
    | .ok _ => .synced
    | .failed => .failed
  lastSyncedAt := now
  deleted := false

def upsertKey (s : Store) (userId : Nat) : Nat :=
  ((s.mappings.findOne fun r => decide (r.2.userId = userId)).map Prod.fst).getD s.mappings.next

theorem mem_upsert (single : Single s.mappings) {result : EnrollResult} {now : Int}
    {r : Nat × PortraitMapping} :
    r ∈ (upsertMapping s userId result now).mappings.rows ↔
      (r ∈ s.mappings.rows ∧ r.2.userId ≠ userId) ∨
        r = (upsertKey s userId, upsertedRow userId result now) := by
  unfold upsertMapping upsertKey
  dsimp only
  cases found : s.mappings.findOne fun r => decide (r.2.userId = userId) with
  | none =>
    have others : ∀ q ∈ s.mappings.rows, q.2.userId ≠ userId := fun q there =>
      of_decide_eq_false (findOne_none found q there)
    rw [mem_insert]
    exact or_congr_left ⟨fun there => ⟨there, others r there⟩, And.left⟩
  | some existing =>
    obtain ⟨row, mine⟩ := findOne_mem found
    have only : ∀ q ∈ s.mappings.rows, decide (q.2.userId = userId) = true → q = existing := by
      intro q there same
      exact single q there existing row ((of_decide_eq_true same).trans (of_decide_eq_true mine).symm)
    refine (mem_save_found found only).trans ?_
    rw [decide_eq_false_iff_not]
    rfl

theorem upsert_profiles (result : EnrollResult) (now : Int) :
    (upsertMapping s userId result now).faceProfiles = s.faceProfiles := by
  unfold upsertMapping
  dsimp only
  split
  · rfl
  · rfl

theorem upsert_single (single : Single s.mappings) (result : EnrollResult) (now : Int) :
    Single (upsertMapping s userId result now).mappings := by
  intro r hr q hq same
  rcases (mem_upsert single).mp hr with ⟨old_r, other_r⟩ | rfl
  · rcases (mem_upsert single).mp hq with ⟨old_q, -⟩ | rfl
    · exact single r old_r q old_q same
    · exact absurd same other_r
  · rcases (mem_upsert single).mp hq with ⟨-, other_q⟩ | rfl
    · exact absurd same.symm other_q
    · rfl

theorem upsert_forth (single : Single s.mappings) (userId : Nat) (result : EnrollResult) (now : Int) :
    ∀ q ∈ s.mappings.rows, ∃ r ∈ (upsertMapping s userId result now).mappings.rows,
      r.1 = q.1 ∧ r.2.userId = q.2.userId := by
  intro q there
  by_cases mine : q.2.userId = userId
  · refine ⟨_, (mem_upsert single).mpr (Or.inr rfl), ?_, mine.symm⟩
    unfold upsertKey
    cases found : s.mappings.findOne fun r => decide (r.2.userId = userId) with
    | none =>
      have other := findOne_none found q there
      rw [decide_eq_true mine] at other
      cases other
    | some existing =>
      obtain ⟨row, selected⟩ := findOne_mem found
      have equal := single existing row q there ((of_decide_eq_true selected).trans mine.symm)
      rw [equal]
      rfl
  · exact ⟨q, (mem_upsert single).mpr (Or.inl ⟨there, mine⟩), rfl, rfl⟩

end Mappings

section Uids

/-- A uid that was issued for a person of the user. -/
def Own (faces : Table Face) (userId uid : Nat) : Prop :=
  uid < faces.next ∧ ∀ p ∈ faces.rows, p.1 = uid → p.2.userId = userId

/-- The recorder forgets persons, and adds them under new uids. -/
def FacesGo (faces faces' : Table Face) : Prop :=
  faces.next ≤ faces'.next ∧ ∀ p ∈ faces'.rows, p ∈ faces.rows ∨ faces.next ≤ p.1

def Turn.uids : Turn → List Nat
  | .cleaning _ _ stale => stale
  | .enrolled _ _ result => result.uid.toList
  | .removing _ _ person => person.toList
  | _ => []

def Turn.mapping? : Turn → Option Nat
  | .removing _ mapping _ => some mapping
  | .removed _ mapping => some mapping
  | _ => none

variable {faces faces' : Table Face} {userId uid : Nat}

theorem Own.go (own : Own faces userId uid) (go : FacesGo faces faces') : Own faces' userId uid := by
  refine ⟨Nat.lt_of_lt_of_le own.1 go.1, ?_⟩
  intro p there same
  rcases go.2 p there with old | new
  · exact own.2 p old same
  · exact absurd new (Nat.not_le_of_lt (same ▸ own.1))

theorem facesGo_refl (faces : Table Face) : FacesGo faces faces :=
  ⟨Nat.le_refl _, fun _ there => Or.inl there⟩

theorem mem_deleteWhere {p : Nat × Face} :
    p ∈ (faces.deleteWhere fun r => r.1 = uid).rows ↔ p ∈ faces.rows ∧ p.1 ≠ uid := by
  simp [Table.deleteWhere]

theorem deleteFace_go (person : Option Nat) (answer : DeleteAnswer) :
    FacesGo faces (deleteFace faces person answer) := by
  unfold deleteFace
  split
  · exact facesGo_refl faces
  · split
    · exact ⟨Nat.le_refl _, fun p there => Or.inl (mem_deleteWhere.mp there).1⟩
    · exact facesGo_refl faces

theorem enrollFace_go (face : Face) (answer : EnrollAnswer) : FacesGo faces (enrollFace faces face answer) := by
  unfold enrollFace
  split
  · refine ⟨Nat.le_succ _, ?_⟩
    intro p there
    rcases mem_insert.mp there with old | rfl
    · exact Or.inl old
    · exact Or.inr (Nat.le_refl _)
  · exact facesGo_refl faces

theorem resultOf_own (picture : Nat) (answer : EnrollAnswer) :
    ∀ uid ∈ (resultOf faces answer).uid, Own (enrollFace faces ⟨userId, picture⟩ answer) userId uid := by
  intro uid there
  cases answer with
  | named =>
    cases there
    refine ⟨Nat.lt_succ_self _, ?_⟩
    intro p stored same
    rcases mem_insert.mp stored with old | rfl
    · exact absurd (row_below faces old) (same ▸ Nat.lt_irrefl _)
    · rfl
  | unnamed => cases there
  | refused => cases there
  | lost => cases there

end Uids

section Soundness

/-- What holds in every run: a mapping and a turn name persons of their own user alone. -/
structure Sound (w : World) : Prop where
  one : OneActive w.store
  single : Single w.store.mappings
  own : ∀ r ∈ w.store.mappings.rows, ∀ uid ∈ r.2.devicePersonId, Own w.faces r.2.userId uid
  turns : ∀ t ∈ w.turns, ∀ uid ∈ t.uids, Own w.faces t.userId uid
  mapped : ∀ t ∈ w.turns, ∀ k ∈ t.mapping?, ∃ r ∈ w.store.mappings.rows, r.1 = k ∧
    r.2.userId = t.userId

variable {setup : Setup} {w w' : World} {e : Event}

/-- Nobody is on the recorder and no turn has begun. -/
structure AtFirst (w : World) : Prop where
  one : OneActive w.store
  mappings : w.store.mappings.rows = []
  faces : w.faces.rows = []
  turns : w.turns = []

theorem AtFirst.sound (first : AtFirst w) : Sound w := by
  refine ⟨first.one, ?_, ?_, ?_, ?_⟩
  · intro r there
    rw [first.mappings] at there
    cases there
  · intro r there
    rw [first.mappings] at there
    cases there
  · intro t there
    rw [first.turns] at there
    cases there
  · intro t there
    rw [first.turns] at there
    cases there

theorem Sound.go (sound : Sound w) (one : OneActive w'.store)
    (names : SameNames w.store.mappings w'.store.mappings) (faces : FacesGo w.faces w'.faces)
    (turns : ∀ t ∈ w'.turns, t ∈ w.turns ∨ (∀ uid ∈ t.uids, Own w'.faces t.userId uid) ∧
      ∀ k ∈ t.mapping?, ∃ r ∈ w.store.mappings.rows, r.1 = k ∧ r.2.userId = t.userId) : Sound w' := by
  refine ⟨one, names.single sound.single, ?_, ?_, ?_⟩
  · intro r there uid person
    obtain ⟨q, old, -, user, same, -⟩ := names.back r there
    rw [← user]
    exact (sound.own q old uid (same ▸ person)).go faces
  · intro t there uid named
    rcases turns t there with old | ⟨new, -⟩
    · exact (sound.turns t old uid named).go faces
    · exact new uid named
  · intro t there k named
    have before : ∃ r ∈ w.store.mappings.rows, r.1 = k ∧ r.2.userId = t.userId := by
      rcases turns t there with old | ⟨-, new⟩
      · exact sound.mapped t old k named
      · exact new k named
    obtain ⟨q, row, key, user⟩ := before
    obtain ⟨r, kept, key', user'⟩ := names.forth q row
    exact ⟨r, kept, key'.trans key, user'.trans user⟩

theorem Sound.store (sound : Sound w) {s : Store} (one : OneActive s)
    (names : SameNames w.store.mappings s.mappings) : Sound (w.onStore s) :=
  sound.go one names (facesGo_refl _) fun _ there => Or.inl there

theorem Sound.request (sound : Sound w) {s : Store}
    (rows : NoNewActive w.store.faceProfiles s.faceProfiles ∧ s.mappings = w.store.mappings) :
    Sound (w.onStore s) :=
  sound.store (oneActive_of_noNew sound.one rows.1) (rows.2 ▸ sameNames_refl _)

theorem answered_rows {s : Store} {outcome : Except BiometricError Store}
    (rows : ∀ s', outcome = .ok s' →
      NoNewActive s.faceProfiles s'.faceProfiles ∧ s'.mappings = s.mappings) :
    NoNewActive s.faceProfiles (answered s outcome).faceProfiles ∧
      (answered s outcome).mappings = s.mappings := by
  cases outcome with
  | error e => exact ⟨noNewActive_refl _, rfl⟩
  | ok s' => exact rows s' rfl

theorem enrollByStaff_rows {config : BiometricConfig} {s s' : Store} {userId : Nat}
    {file : Option UploadedPortrait} {onS3 : Bool}
    (done : (enrollByStaff config s userId file onS3).map Prod.fst = .ok s') :
    NoNewActive s.faceProfiles s'.faceProfiles ∧ s'.mappings = s.mappings := by
  unfold enrollByStaff at done
  cases checked : checkPortrait config file with
  | error e =>
    rw [checked] at done
    cases done
  | ok _ =>
    rw [checked] at done
    cases done
    exact writePortrait_rows userId onS3

theorem mem_move {t u v : Turn} (there : v ∈ (w.move t u).turns) : v ∈ w.turns ∨ v = u := by
  rcases List.mem_cons.mp there with rfl | old
  · exact Or.inr rfl
  · exact Or.inl (List.mem_of_mem_erase old)

theorem mem_finish {t v : Turn} (there : v ∈ (w.finish t).turns) : v ∈ w.turns :=
  List.mem_of_mem_erase there

theorem stale_own (sound : Sound w) (userId : Nat) :
    ∀ uid ∈ stalePersons w.store userId, Own w.faces userId uid := by
  intro uid there
  obtain ⟨r, selected, person⟩ := List.mem_filterMap.mp there
  obtain ⟨row, stale⟩ := mem_select.mp selected
  have mine : r.2.userId = userId := by
    simp only [isStale, Bool.and_eq_true, decide_eq_true_eq] at stale
    exact stale.1.1
  exact mine ▸ sound.own r row uid person

theorem approve_sound (sound : Sound w) (id : Nat) :
    OneActive (answered w.store (approveBiometricSubmission w.store id)) ∧
      SameNames w.store.mappings (answered w.store (approveBiometricSubmission w.store id)).mappings := by
  cases done : approveBiometricSubmission w.store id with
  | error e => exact ⟨sound.one, sameNames_refl _⟩
  | ok s' =>
    obtain ⟨fp, stored, mappings, actives⟩ := approve_rows sound.one done
    constructor
    · intro r hr q hq userId active_r active_q
      rcases actives r hr userId active_r with ⟨same, key⟩ | ⟨other, old⟩
      · rcases actives q hq userId active_q with ⟨-, key'⟩ | ⟨other, -⟩
        · have keys : r.1 = q.1 := key.trans key'.symm
          exact Prod.ext keys
            (key_unique s'.faceProfiles (keys ▸ hr : (q.1, r.2) ∈ s'.faceProfiles.rows) hq)
        · exact absurd same other
      · rcases actives q hq userId active_q with ⟨same, -⟩ | ⟨-, old'⟩
        · exact absurd same other
        · exact sound.one r old q old' userId active_r active_q
    · change SameNames w.store.mappings s'.mappings
      rw [mappings]
      exact sameNames_pending

theorem sound_step (sound : Sound w) (step : Step setup w e w') : Sound w' := by
  obtain ⟨ready, rfl⟩ := step
  have quiet : ∀ {t : Turn}, t.uids = [] → t.mapping? = none →
      (∀ uid ∈ t.uids, Own w.faces t.userId uid) ∧
        ∀ k ∈ t.mapping?, ∃ r ∈ w.store.mappings.rows, r.1 = k ∧ r.2.userId = t.userId := by
    intro t no_uid no_row
    rw [no_uid, no_row]
    exact ⟨fun _ there => absurd there List.not_mem_nil, fun _ there => by cases there⟩
  have turn : ∀ {w' : World}, w'.store = w.store → FacesGo w.faces w'.faces →
      (∀ t ∈ w'.turns, t ∈ w.turns ∨ (∀ uid ∈ t.uids, Own w'.faces t.userId uid) ∧
        ∀ k ∈ t.mapping?, ∃ r ∈ w.store.mappings.rows, r.1 = k ∧ r.2.userId = t.userId) → Sound w' := by
    intro w' same go turns
    exact sound.go (same ▸ sound.one) (same ▸ sameNames_refl _) go turns
  cases e with
  | look userId =>
    refine turn rfl (facesGo_refl _) ?_
    intro t there
    rcases List.mem_cons.mp there with rfl | old
    · exact Or.inr (quiet rfl rfl)
    · exact Or.inl old
  | read userId readable =>
    rw [next]
    split
    · exact turn rfl (facesGo_refl _) fun t there => Or.inl (mem_finish there)
    · refine turn rfl (facesGo_refl _) ?_
      intro t there
      rcases mem_move there with old | rfl
      · exact Or.inl old
      · exact Or.inr (quiet rfl rfl)
  | listStale userId picture =>
    refine turn rfl (facesGo_refl _) ?_
    intro t there
    rcases mem_move there with old | rfl
    · exact Or.inl old
    · exact Or.inr ⟨stale_own sound userId, fun _ none_such => by cases none_such⟩
  | clean userId picture uid rest answer =>
    refine turn rfl (deleteFace_go _ _) ?_
    intro t there
    rcases mem_move there with old | rfl
    · exact Or.inl old
    · refine Or.inr ⟨?_, fun _ none_such => by cases none_such⟩
      intro u named
      exact (sound.turns _ ready u (List.mem_cons_of_mem _ named)).go (deleteFace_go _ _)
  | enroll userId picture answer =>
    refine turn rfl (enrollFace_go _ _) ?_
    intro t there
    rcases mem_move there with old | rfl
    · exact Or.inl old
    · refine Or.inr ⟨?_, fun _ none_such => by cases none_such⟩
      intro u named
      exact resultOf_own picture answer u (Option.mem_toList.mp named)
  | upsert userId picture result now =>
    have own := sound.turns _ ready
    refine ⟨?_, upsert_single sound.single result now, ?_, ?_, ?_⟩
    · change OneActive (upsertMapping w.store userId result now)
      rw [OneActive, upsert_profiles]
      exact sound.one
    · intro r there uid person
      rcases (mem_upsert sound.single).mp there with ⟨old, -⟩ | rfl
      · exact sound.own r old uid person
      · exact own uid (Option.mem_toList.mpr person)
    · intro t there
      exact sound.turns t (mem_finish there)
    · intro t there k named
      obtain ⟨q, row, key, user⟩ := sound.mapped t (mem_finish there) k named
      obtain ⟨r, kept, key', user'⟩ := upsert_forth sound.single userId result now q row
      exact ⟨r, kept, key'.trans key, user'.trans user⟩
  | pick mapping mp =>
    have row : (mapping, mp) ∈ w.store.mappings.rows := (mem_select.mp ready).1
    refine turn rfl (facesGo_refl _) ?_
    intro t there
    rcases List.mem_cons.mp there with rfl | old
    · refine Or.inr ⟨?_, ?_⟩
      · intro u named
        exact sound.own _ row u (Option.mem_toList.mp named)
      · intro k named
        cases named
        exact ⟨_, row, rfl, rfl⟩
    · exact Or.inl old
  | remove userId mapping person answer =>
    have row := sound.mapped _ ready mapping rfl
    rw [next]
    split
    · refine turn rfl (deleteFace_go _ _) ?_
      intro t there
      rcases mem_move there with old | rfl
      · exact Or.inl old
      · refine Or.inr ⟨fun _ there => absurd there List.not_mem_nil, ?_⟩
        intro k named
        cases named
        exact row
    · exact turn rfl (deleteFace_go _ _) fun t there => Or.inl (mem_finish there)
  | mark userId mapping =>
    exact sound.go sound.one
      (sameNames_update (fun _ => rfl) (fun _ => rfl) fun _ live => by cases live) (facesGo_refl _)
      fun t there => Or.inl (mem_finish there)
  | abandon t => exact turn rfl (facesGo_refl _) fun t there => Or.inl (mem_finish there)
  | resync userId => exact sound.store sound.one sameNames_pending
  | expire now => exact sound.store sound.one sameNames_pending
  | submit q => exact sound.request (answered_rows fun _ done => submit_rows done)
  | enrollByStaff userId file onS3 => exact sound.request (answered_rows fun _ done => enrollByStaff_rows done)
  | approve id =>
    obtain ⟨one, names⟩ := approve_sound sound id
    exact sound.store one names
  | reject id reason reads => exact sound.request (answered_rows fun _ done => reject_rows done)
  | deleteProfile id => exact sound.request (answered_rows fun _ done => deleteProfile_rows done)
  | setAccountStatus userId status => exact sound.request ⟨noNewActive_refl _, rfl⟩
  | replaceRoles userId roleCodes => exact sound.request (replaceRoles_rows userId roleCodes)
  | deleteUser userId =>
    exact sound.store (oneActive_of_noNew sound.one (deleteUser_profiles userId))
      (sameNames_update (fun _ => rfl) (fun _ => rfl) fun _ live => by cases live)

end Soundness

section Forgotten
variable {setup : Setup} {w w' : World} {e : Event} {p : Nat × Face}

/-- A person on the recorder that no live mapping and no turn has the uid of. -/
structure Forgotten (w : World) (p : Nat × Face) : Prop where
  there : p ∈ w.faces.rows
  unmapped : ∀ r ∈ w.store.mappings.rows, r.2.live = true → r.2.devicePersonId ≠ some p.1
  untaken : ∀ t ∈ w.turns, p.1 ∉ t.uids

theorem Forgotten.go (forgotten : Forgotten w p) (names : SameNames w.store.mappings w'.store.mappings)
    (stays : p ∈ w'.faces.rows) (turns : ∀ t ∈ w'.turns, t ∈ w.turns ∨ p.1 ∉ t.uids) :
    Forgotten w' p := by
  refine ⟨stays, ?_, ?_⟩
  · intro r there live
    obtain ⟨q, old, -, -, person, was_live⟩ := names.back r there
    exact person ▸ forgotten.unmapped q old (was_live live)
  · intro t there
    rcases turns t there with old | new
    · exact forgotten.untaken t old
    · exact new

theorem deleteFace_stays {faces : Table Face} {person : Option Nat} {answer : DeleteAnswer}
    (there : p ∈ faces.rows) (other : p.1 ∉ person.toList) : p ∈ (deleteFace faces person answer).rows := by
  unfold deleteFace
  split
  · exact there
  · rename_i uid
    split
    · exact mem_deleteWhere.mpr ⟨there, fun same => other (Option.mem_toList.mpr (same ▸ rfl))⟩
    · exact there

theorem enrollFace_stays {faces : Table Face} {face : Face} {answer : EnrollAnswer}
    (there : p ∈ faces.rows) : p ∈ (enrollFace faces face answer).rows := by
  unfold enrollFace
  split
  · exact mem_insert.mpr (Or.inl there)
  · exact there

theorem resultOf_fresh {faces : Table Face} (there : p ∈ faces.rows) (answer : EnrollAnswer) :
    p.1 ∉ (resultOf faces answer).uid.toList := by
  intro named
  have uid := Option.mem_toList.mp named
  cases answer with
  | named =>
    have same : faces.next = p.1 := Option.some.inj uid
    exact Nat.lt_irrefl _ (same ▸ row_below faces there)
  | unnamed => cases uid
  | refused => cases uid
  | lost => cases uid

theorem moved_untaken {t u : Turn} (new : p.1 ∉ u.uids) :
    ∀ v ∈ (w.move t u).turns, v ∈ w.turns ∨ p.1 ∉ v.uids := by
  intro v there
  rcases mem_move there with old | rfl
  · exact Or.inl old
  · exact Or.inr new

theorem begun_untaken {u : Turn} (new : p.1 ∉ u.uids) :
    ∀ v ∈ (w.start u).turns, v ∈ w.turns ∨ p.1 ∉ v.uids := by
  intro v there
  rcases List.mem_cons.mp there with rfl | old
  · exact Or.inr new
  · exact Or.inl old

theorem Forgotten.store (forgotten : Forgotten w p) {s : Store}
    (names : SameNames w.store.mappings s.mappings) : Forgotten (w.onStore s) p :=
  forgotten.go names forgotten.there fun _ there => Or.inl there

theorem Forgotten.request (forgotten : Forgotten w p) {outcome : Except BiometricError Store}
    (rows : ∀ s', outcome = .ok s' → NoNewActive w.store.faceProfiles s'.faceProfiles ∧
      s'.mappings = w.store.mappings) : Forgotten (w.onStore (answered w.store outcome)) p := by
  refine forgotten.store ?_
  rw [(answered_rows rows).2]
  exact sameNames_refl _

theorem forgotten_unlisted (forgotten : Forgotten w p) (userId : Nat) :
    p.1 ∉ stalePersons w.store userId := by
  intro listed
  obtain ⟨r, selected, person⟩ := List.mem_filterMap.mp listed
  obtain ⟨row, stale⟩ := mem_select.mp selected
  simp only [isStale, Bool.and_eq_true] at stale
  exact forgotten.unmapped r row stale.2 person

theorem forgotten_step (sound : Sound w) (forgotten : Forgotten w p) (step : Step setup w e w') :
    Forgotten w' p := by
  obtain ⟨ready, rfl⟩ := step
  have names := sameNames_refl w.store.mappings
  have none_such : p.1 ∉ ([] : List Nat) := List.not_mem_nil
  cases e with
  | look userId => exact forgotten.go names forgotten.there (begun_untaken none_such)
  | read userId readable =>
    rw [next]
    split
    · exact forgotten.go names forgotten.there fun t there => Or.inl (mem_finish there)
    · exact forgotten.go names forgotten.there (moved_untaken none_such)
  | listStale userId picture =>
    exact forgotten.go names forgotten.there (moved_untaken (forgotten_unlisted forgotten userId))
  | clean userId picture uid rest answer =>
    have untaken := forgotten.untaken _ ready
    have other : p.1 ∉ (some uid).toList := fun named =>
      untaken (List.mem_cons.mpr (Or.inl (List.mem_singleton.mp named)))
    exact forgotten.go names (deleteFace_stays forgotten.there other)
      (moved_untaken fun named => untaken (List.mem_cons_of_mem _ named))
  | enroll userId picture answer =>
    exact forgotten.go names (enrollFace_stays forgotten.there)
      (moved_untaken (resultOf_fresh forgotten.there answer))
  | upsert userId picture result now =>
    refine ⟨forgotten.there, ?_, fun t there => forgotten.untaken t (mem_finish there)⟩
    intro r there live person
    rcases (mem_upsert sound.single).mp there with ⟨old, -⟩ | rfl
    · exact forgotten.unmapped r old live person
    · exact forgotten.untaken _ ready (Option.mem_toList.mpr person)
  | pick mapping mp =>
    obtain ⟨row, outdated⟩ := mem_select.mp ready
    simp only [isOutdated, Bool.and_eq_true] at outdated
    exact forgotten.go names forgotten.there
      (begun_untaken fun named => forgotten.unmapped _ row outdated.1 (Option.mem_toList.mp named))
  | remove userId mapping person answer =>
    have stays : p ∈ (deleteFace w.faces person answer).rows :=
      deleteFace_stays forgotten.there (forgotten.untaken _ ready)
    rw [next]
    split
    · exact forgotten.go names stays (moved_untaken none_such)
    · exact forgotten.go names stays fun t there => Or.inl (mem_finish there)
  | mark userId mapping =>
    exact forgotten.go (sameNames_update (fun _ => rfl) (fun _ => rfl) fun _ live => by cases live)
      forgotten.there fun t there => Or.inl (mem_finish there)
  | abandon t => exact forgotten.go names forgotten.there fun t there => Or.inl (mem_finish there)
  | resync userId => exact forgotten.store sameNames_pending
  | expire now => exact forgotten.store sameNames_pending
  | submit q => exact forgotten.request fun _ done => submit_rows done
  | enrollByStaff userId file onS3 => exact forgotten.request fun _ done => enrollByStaff_rows done
  | approve id => exact forgotten.store (approve_sound sound id).2
  | reject id reason reads => exact forgotten.request fun _ done => reject_rows done
  | deleteProfile id => exact forgotten.request fun _ done => deleteProfile_rows done
  | setAccountStatus userId status => exact forgotten.store names
  | replaceRoles userId roleCodes =>
    exact forgotten.store ((replaceRoles_rows userId roleCodes).2 ▸ names)
  | deleteUser userId =>
    exact forgotten.store (sameNames_update (fun _ => rfl) (fun _ => rfl) fun _ live => by cases live)

theorem forgotten_stays {moves : List (Move World Event)} (sound : Sound w)
    (forgotten : Forgotten w p) (run : Run (Step setup) w moves w') : Forgotten w' p := by
  refine (@run_invariant _ _ (Step setup) w w' moves (fun v => Sound v ∧ Forgotten v p) run
    ⟨sound, forgotten⟩ ?_).2
  intro a e b inv step
  exact ⟨sound_step inv.1 step, forgotten_step inv.1 inv.2 step⟩

end Forgotten

section Leaving
variable (setup : Setup) {w v : World} {p : Nat × Face} {uid : Nat}

/-- Some way of going on takes the person off the recorder. -/
def MayLeave (w : World) (p : Nat × Face) : Prop :=
  ∃ moves v, Run (Step setup) w moves v ∧ p ∉ v.faces.rows

variable {setup}

theorem MayLeave.after {e : Event} (ready : ready w e) (later : MayLeave setup (next setup w e) p) :
    MayLeave setup w p := by
  obtain ⟨moves, v, run, gone⟩ := later
  exact ⟨_, v, (Run.nil.snoc ⟨ready, rfl⟩).append run, gone⟩

theorem deleteFace_gone {faces : Table Face} : p ∉ (deleteFace faces (some p.1) .done).rows :=
  fun there => (mem_deleteWhere.mp there).2 rfl

theorem leaves_removed (userId mapping : Nat) (ready : .removing userId mapping (some p.1) ∈ w.turns) :
    MayLeave setup w p := by
  refine MayLeave.after (e := .remove userId mapping (some p.1) .done) ready ?_
  exact ⟨[], _, .nil, deleteFace_gone⟩

theorem leaves_mapped {r : Nat × PortraitMapping} (row : r ∈ w.store.mappings.rows)
    (live : r.2.live = true) (person : r.2.devicePersonId = some p.1) : MayLeave setup w p := by
  refine MayLeave.after (e := .setAccountStatus r.2.userId .locked) trivial ?_
  have locked : accountEligible (setAccountStatus w.store r.2.userId .locked) r.2.userId = false := by
    rw [accountEligible]
    simp only [setAccountStatus, get?_update, if_true]
    cases w.store.users.get? r.2.userId with
    | none => rfl
    | some u => rfl
  have outdated : r ∈ toRemove (setAccountStatus w.store r.2.userId .locked) := by
    refine mem_select.mpr ⟨row, ?_⟩
    rw [isOutdated, live, eligible, locked]
    rfl
  refine MayLeave.after (e := .pick r.1 r.2) outdated ?_
  refine leaves_removed r.2.userId r.1 ?_
  rw [← person]
  exact List.mem_cons_self

theorem leaves_cleaned {userId picture : Nat} {stale : List Nat}
    (ready : .cleaning userId picture stale ∈ w.turns) (listed : p.1 ∈ stale) : MayLeave setup w p := by
  induction stale generalizing w with
  | nil => cases listed
  | cons uid rest ih =>
    rcases List.mem_cons.mp listed with here | later
    · refine MayLeave.after (e := .clean userId picture uid rest .done) ready ?_
      exact ⟨[], _, .nil, here ▸ deleteFace_gone⟩
    · refine MayLeave.after (e := .clean userId picture uid rest .refused) ready ?_
      exact ih List.mem_cons_self later

theorem leaves_enrolled (sound : Sound w) {userId picture : Nat} {result : EnrollResult}
    (ready : .enrolled userId picture result ∈ w.turns) (named : p.1 ∈ result.uid.toList) :
    MayLeave setup w p := by
  refine MayLeave.after (e := .upsert userId picture result 0) ready ?_
  exact leaves_mapped ((mem_upsert sound.single).mpr (Or.inr rfl)) rfl (Option.mem_toList.mp named)

/-- A person that a live mapping or a turn has the uid of can still be taken off; any other stays, however
    the accounts, the reviews and the synchronisation go on. -/
theorem may_leave_iff {moves : List (Move World Event)} (first : AtFirst w)
    (run : Run (Step setup) w moves v) (there : p ∈ v.faces.rows) :
    MayLeave setup v p ↔
      (∃ r ∈ v.store.mappings.rows, r.2.live = true ∧ r.2.devicePersonId = some p.1) ∨
        ∃ t ∈ v.turns, p.1 ∈ t.uids := by
  have sound : Sound v := run_invariant run first.sound fun inv step => sound_step inv step
  constructor
  · rintro ⟨more, u, on, gone⟩
    by_contra nowhere
    rw [not_or] at nowhere
    have forgotten : Forgotten v p :=
      ⟨there, fun r row live person => nowhere.1 ⟨r, row, live, person⟩,
        fun t member named => nowhere.2 ⟨t, member, named⟩⟩
    exact gone (forgotten_stays sound forgotten on).there
  · rintro (⟨r, row, live, person⟩ | ⟨t, member, named⟩)
    · exact leaves_mapped row live person
    · cases t with
      | looked _ => cases named
      | read _ _ => cases named
      | cleaning userId picture stale => exact leaves_cleaned member named
      | enrolled userId picture result => exact leaves_enrolled sound member named
      | removing userId mapping person =>
        have same : person = some p.1 := Option.mem_toList.mp named
        exact leaves_removed userId mapping (same ▸ member)
      | removed _ _ => cases named

def onDisk (deleted : Bool) : MediaFileEntity where
  storageProvider := .localDisk
  fileUrl := none
  deleted := deleted

def twoPictures : World where
  store :=
    { users := Table.empty.insert
        { accountStatus := .active
          roleCodes := []
          deleted := false }
      mediaFiles := (Table.empty.insert (onDisk false)).insert (onDisk false)
      faceProfiles := (Table.empty.insert
        { userId := 0
          status := .active
          primaryImageFileId := some 0
          deleted := false }).insert
        { userId := 0
          status := .pendingReview
          primaryImageFileId := some 1
          deleted := false }
      mappings := Table.empty }
  faces := Table.empty
  turns := []

def plainSetup : Setup where
  biometric :=
    { facePortraitMaxBytes := 5242880
      mediaStorageProvider := .cloudProvider }
  ttlDays := 21

theorem twoPictures_atFirst : AtFirst twoPictures where
  one := by
    intro r hr q hq userId active_r active_q
    have first : ∀ p ∈ twoPictures.store.faceProfiles.rows, p.2.status = .active → p.1 = 0 := by decide
    have keys := (first r hr (holds_iff.mp active_r).2.1).trans (first q hq (holds_iff.mp active_q).2.1).symm
    exact Prod.ext keys
      (key_unique twoPictures.store.faceProfiles (keys ▸ hr : (q.1, r.2) ∈ _) hq)
  mappings := rfl
  faces := rfl
  turns := rfl

def departure : List Event :=
  [.look 0, .read 0 true, .listStale 0 0, .enroll 0 0 .named, .upsert 0 0 (.ok (some 0)) 0, .deleteUser 0]

theorem may_leave_deleted : ¬ MayLeave plainSetup (departure.foldl (next plainSetup) twoPictures) (0, ⟨0, 0⟩) := by
  have run : Run (Step plainSetup) twoPictures (trail (next plainSetup) twoPictures departure)
      (departure.foldl (next plainSetup) twoPictures) := run_trail (by decide)
  rw [may_leave_iff twoPictures_atFirst run (by decide)]
  decide

end Leaving

end PortraitStore
