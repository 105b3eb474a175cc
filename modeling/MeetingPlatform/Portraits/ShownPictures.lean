import MeetingPlatform.Portraits.OwnPersons

/- Which persons the recorder has for a user at each point of a turn, and that a mapping which counts as
   clean stands for the picture that is approved. -/
namespace PortraitStore
open KeyedTable LabelledRuns

section Phases

def turnsOf (w : World) (userId : Nat) : List Turn := w.turns.filter fun t => t.userId = userId

variable (s : Store) (faces : Table Face) (userId : Nat)

def FacesIn (uids : List Nat) : Prop := ∀ p ∈ faces.rows, p.2.userId = userId → p.1 ∈ uids

/-- Every person of the user is the one of the user's live mapping. -/
def Held : Prop :=
  ∀ p ∈ faces.rows, p.2.userId = userId → ∃ r ∈ s.mappings.rows, r.2.userId = userId ∧
    r.2.devicePersonId = some p.1 ∧ r.2.live = true

def Unsynced : Prop := ∀ r ∈ s.mappings.rows, r.2.userId = userId → r.2.synced = false

/-- The picture is the approved one, unless none is approved any more. -/
def Carries (picture : Nat) : Prop :=
  ∀ r ∈ s.faceProfiles.rows, r.2.holds .active userId = true → r.2.primaryImageFileId = some picture

def Shown : Prop :=
  ∀ r ∈ s.mappings.rows, r.2.userId = userId → r.2.synced = true → ∃ uid picture,
    r.2.devicePersonId = some uid ∧ (uid, ⟨userId, picture⟩) ∈ faces.rows ∧ Carries s userId picture

def Written (picture : Nat) : EnrollResult → Prop
  | .ok (some uid) => (uid, ⟨userId, picture⟩) ∈ faces.rows ∧ FacesIn faces userId [uid]
  | .ok none => False
  | .failed => FacesIn faces userId []

/-- What each point of the user's turn leaves on the recorder. -/
def Phase : List Turn → Prop
  | [] => Held s faces userId ∧ Shown s faces userId
  | [.looked _] => Held s faces userId ∧ Unsynced s userId
  | [.read _ picture] => Held s faces userId ∧ Unsynced s userId ∧ Carries s userId picture
  | [.cleaning _ picture stale] =>
    Held s faces userId ∧ Unsynced s userId ∧ Carries s userId picture ∧ FacesIn faces userId stale
  | [.enrolled _ picture result] =>
    Unsynced s userId ∧ Carries s userId picture ∧ Written faces userId picture result
  | [.removing _ _ person] =>
    Held s faces userId ∧ Shown s faces userId ∧ FacesIn faces userId person.toList
  | [.removed _ _] => FacesIn faces userId []
  | _ :: _ :: _ => False

def PhaseOf (w : World) (userId : Nat) : Prop := Phase w.store w.faces userId (turnsOf w userId)

end Phases

section Orderly

def Turn.carriesPicture : Turn → Bool
  | .read _ _ => true
  | .cleaning _ _ _ => true
  | .enrolled _ _ _ => true
  | _ => false

def Turn.mayStop : Turn → Bool
  | .enrolled _ _ _ => false
  | .removed _ _ => false
  | _ => true

/-- The runs that are not disturbed: the turns of a user come one after the other, the recorder does what
    it answers, no picture is approved while an older one is on its way, and an account is deleted after
    its person. -/
def orderly (w : World) : Event → Prop
  | .look userId => turnsOf w userId = []
  | .clean _ _ _ _ answer => answer = .done
  | .enroll _ _ answer => answer = .named ∨ answer = .refused
  | .pick _ mp => turnsOf w mp.userId = []
  | .remove _ _ _ answer => answer ≠ .lost
  | .abandon t => t.mayStop = true
  | .approve id => ∀ r ∈ w.store.faceProfiles.rows, r.1 = id →
      ∀ t ∈ turnsOf w r.2.userId, t.carriesPicture = false
  | .deleteUser userId => ∀ r ∈ w.store.mappings.rows, r.2.userId = userId → r.2.live = false
  | _ => True

instance (w : World) : (e : Event) → Decidable (orderly w e)
  | .look userId => inferInstanceAs (Decidable (turnsOf w userId = []))
  | .clean _ _ _ _ answer => inferInstanceAs (Decidable (answer = .done))
  | .enroll _ _ answer => inferInstanceAs (Decidable (answer = .named ∨ answer = .refused))
  | .pick _ mp => inferInstanceAs (Decidable (turnsOf w mp.userId = []))
  | .remove _ _ _ answer => inferInstanceAs (Decidable (answer ≠ .lost))
  | .abandon t => inferInstanceAs (Decidable (t.mayStop = true))
  | .approve id => inferInstanceAs (Decidable (∀ r ∈ w.store.faceProfiles.rows, r.1 = id →
      ∀ t ∈ turnsOf w r.2.userId, t.carriesPicture = false))
  | .deleteUser userId => inferInstanceAs (Decidable
      (∀ r ∈ w.store.mappings.rows, r.2.userId = userId → r.2.live = false))
  | .read _ _ => isTrue trivial
  | .listStale _ _ => isTrue trivial
  | .upsert _ _ _ _ => isTrue trivial
  | .mark _ _ => isTrue trivial
  | .resync _ => isTrue trivial
  | .expire _ => isTrue trivial
  | .submit _ => isTrue trivial
  | .enrollByStaff _ _ _ => isTrue trivial
  | .reject _ _ _ => isTrue trivial
  | .deleteProfile _ => isTrue trivial
  | .setAccountStatus _ _ => isTrue trivial
  | .replaceRoles _ _ => isTrue trivial

end Orderly

section Turns
variable {w w' : World} {t u : Turn} {userId : Nat}

theorem turnsOf_start (mine : t.userId = userId) : turnsOf (w.start t) userId = t :: turnsOf w userId :=
  List.filter_cons_of_pos (decide_eq_true mine)

theorem turnsOf_start_other (other : t.userId ≠ userId) : turnsOf (w.start t) userId = turnsOf w userId :=
  List.filter_cons_of_neg (by simpa using other)

theorem turnsOf_finish : turnsOf (w.finish t) userId = (turnsOf w userId).erase t :=
  List.erase_filter.symm

theorem turnsOf_finish_other (other : t.userId ≠ userId) : turnsOf (w.finish t) userId = turnsOf w userId := by
  rw [turnsOf_finish]
  refine List.erase_of_not_mem ?_
  intro there
  exact other (of_decide_eq_true (List.mem_filter.mp there).2)

theorem turnsOf_move (mine : u.userId = userId) :
    turnsOf (w.move t u) userId = u :: (turnsOf w userId).erase t := by
  rw [← turnsOf_finish]
  exact List.filter_cons_of_pos (by simpa using mine)

theorem turnsOf_move_other (other : t.userId ≠ userId) (other' : u.userId ≠ userId) :
    turnsOf (w.move t u) userId = turnsOf w userId :=
  (List.filter_cons_of_neg (by simpa using other')).trans (turnsOf_finish_other other)

theorem phase_alone {s : Store} {faces : Table Face} {turns : List Turn} (phase : Phase s faces userId turns)
    (there : t ∈ turns) : turns = [t] := by
  match turns, phase with
  | [only], _ => rw [List.mem_singleton.mp there]
  | _ :: _ :: _, broken =>
    rw [Phase] at broken
    exact broken.elim

theorem mem_turnsOf (there : t ∈ w.turns) : t ∈ turnsOf w t.userId :=
  List.mem_filter.mpr ⟨there, decide_eq_true rfl⟩

theorem only_turn (phase : PhaseOf w t.userId) (there : t ∈ w.turns) : turnsOf w t.userId = [t] :=
  phase_alone phase (mem_turnsOf there)

end Turns

section Frames
variable {w w' : World} {userId : Nat}

/-- A step that leaves a user's rows, persons and turns. -/
structure Untouched (userId : Nat) (w w' : World) : Prop where
  faces : ∀ p : Nat × Face, p.2.userId = userId → (p ∈ w'.faces.rows ↔ p ∈ w.faces.rows)
  mappings : ∀ r : Nat × PortraitMapping, r.2.userId = userId →
    (r ∈ w'.store.mappings.rows ↔ r ∈ w.store.mappings.rows)
  active : NoNewActive w.store.faceProfiles w'.store.faceProfiles
  turns : turnsOf w' userId = turnsOf w userId

theorem facesIn_of {faces faces' : Table Face} {uids : List Nat} (within : FacesIn faces userId uids)
    (fewer : ∀ p ∈ faces'.rows, p.2.userId = userId → p ∈ faces.rows) : FacesIn faces' userId uids :=
  fun p there mine => within p (fewer p there mine) mine

theorem carries_of {s s' : Store} {picture : Nat} (carries : Carries s userId picture)
    (active : NoNewActive s.faceProfiles s'.faceProfiles) : Carries s' userId picture :=
  fun r there holds => carries r (active r there userId holds) holds

theorem Untouched.held (same : Untouched userId w w') (held : Held w.store w.faces userId) :
    Held w'.store w'.faces userId := by
  intro p there mine
  obtain ⟨r, row, user, rest⟩ := held p ((same.faces p mine).mp there) mine
  exact ⟨r, (same.mappings r user).mpr row, user, rest⟩

theorem Untouched.unsynced (same : Untouched userId w w') (unsynced : Unsynced w.store userId) :
    Unsynced w'.store userId :=
  fun r there mine => unsynced r ((same.mappings r mine).mp there) mine

theorem Untouched.shown (same : Untouched userId w w') (shown : Shown w.store w.faces userId) :
    Shown w'.store w'.faces userId := by
  intro r there mine synced
  obtain ⟨uid, picture, person, face, carries⟩ := shown r ((same.mappings r mine).mp there) mine synced
  exact ⟨uid, picture, person, (same.faces _ rfl).mpr face, carries_of carries same.active⟩

theorem Untouched.facesIn (same : Untouched userId w w') {uids : List Nat}
    (within : FacesIn w.faces userId uids) : FacesIn w'.faces userId uids :=
  facesIn_of within fun p there mine => (same.faces p mine).mp there

theorem Untouched.written (same : Untouched userId w w') {picture : Nat} {result : EnrollResult}
    (written : Written w.faces userId picture result) : Written w'.faces userId picture result := by
  match result, written with
  | .ok (some uid), ⟨face, within⟩ => exact ⟨(same.faces _ rfl).mpr face, same.facesIn within⟩
  | .failed, within => exact same.facesIn within

theorem Untouched.phase (same : Untouched userId w w') (phase : PhaseOf w userId) : PhaseOf w' userId := by
  rw [PhaseOf, same.turns]
  rw [PhaseOf] at phase
  match turnsOf w userId, phase with
  | [], ⟨held, shown⟩ => exact ⟨same.held held, same.shown shown⟩
  | [.looked _], ⟨held, unsynced⟩ => exact ⟨same.held held, same.unsynced unsynced⟩
  | [.read _ _], ⟨held, unsynced, carries⟩ =>
    exact ⟨same.held held, same.unsynced unsynced, carries_of carries same.active⟩
  | [.cleaning _ _ _], ⟨held, unsynced, carries, within⟩ =>
    exact ⟨same.held held, same.unsynced unsynced, carries_of carries same.active, same.facesIn within⟩
  | [.enrolled _ _ _], ⟨unsynced, carries, written⟩ =>
    exact ⟨same.unsynced unsynced, carries_of carries same.active, same.written written⟩
  | [.removing _ _ _], ⟨held, shown, within⟩ =>
    exact ⟨same.held held, same.shown shown, same.facesIn within⟩
  | [.removed _ _], within => exact same.facesIn within

variable {s : Store}

theorem held_again (again : SentAgain w.store.mappings s.mappings) (held : Held w.store w.faces userId) :
    Held s w.faces userId := by
  intro p there mine
  obtain ⟨q, row, user, person, live⟩ := held p there mine
  obtain ⟨r, kept, user', person', live'⟩ := again.live q row live
  exact ⟨r, kept, user'.trans user, person'.trans person, live'⟩

theorem unsynced_again (again : SentAgain w.store.mappings s.mappings) (unsynced : Unsynced w.store userId) :
    Unsynced s userId := by
  intro r there mine
  refine Bool.eq_false_of_not_eq_true ?_
  intro synced
  rw [unsynced r (again.clean r there synced) mine] at synced
  cases synced

theorem shown_again (again : SentAgain w.store.mappings s.mappings)
    (active : ∀ r ∈ s.faceProfiles.rows, r.2.holds .active userId = true → r ∈ w.store.faceProfiles.rows)
    (shown : Shown w.store w.faces userId) : Shown s w.faces userId := by
  intro r there mine synced
  obtain ⟨uid, picture, person, face, carries⟩ := shown r (again.clean r there synced) mine synced
  exact ⟨uid, picture, person, face, fun q row holds => carries q (active q row holds) holds⟩

theorem phase_again (again : SentAgain w.store.mappings s.mappings)
    (active : ∀ r ∈ s.faceProfiles.rows, r.2.holds .active userId = true → r ∈ w.store.faceProfiles.rows)
    (phase : PhaseOf w userId) : PhaseOf (w.onStore s) userId := by
  have kept : ∀ picture, Carries w.store userId picture → Carries s userId picture :=
    fun picture carries r row holds => carries r (active r row holds) holds
  change Phase s w.faces userId (turnsOf w userId)
  rw [PhaseOf] at phase
  match turnsOf w userId, phase with
  | [], ⟨held, shown⟩ => exact ⟨held_again again held, shown_again again active shown⟩
  | [.looked _], ⟨held, unsynced⟩ => exact ⟨held_again again held, unsynced_again again unsynced⟩
  | [.read _ _], ⟨held, unsynced, carries⟩ =>
    exact ⟨held_again again held, unsynced_again again unsynced, kept _ carries⟩
  | [.cleaning _ _ _], ⟨held, unsynced, carries, within⟩ =>
    exact ⟨held_again again held, unsynced_again again unsynced, kept _ carries, within⟩
  | [.enrolled _ _ _], ⟨unsynced, carries, written⟩ =>
    exact ⟨unsynced_again again unsynced, kept _ carries, written⟩
  | [.removing _ _ _], ⟨held, shown, within⟩ =>
    exact ⟨held_again again held, shown_again again active shown, within⟩
  | [.removed _ _], within => exact within

theorem phase_approved (again : SentAgain w.store.mappings s.mappings) (unsynced : Unsynced s userId)
    (free : ∀ t ∈ turnsOf w userId, t.carriesPicture = false) (phase : PhaseOf w userId) :
    PhaseOf (w.onStore s) userId := by
  have shown : Shown s w.faces userId := by
    intro r there mine synced
    rw [unsynced r there mine] at synced
    cases synced
  change Phase s w.faces userId (turnsOf w userId)
  rw [PhaseOf] at phase
  match turnsOf w userId, phase, free with
  | [], ⟨held, _⟩, _ => exact ⟨held_again again held, shown⟩
  | [.looked _], ⟨held, _⟩, _ => exact ⟨held_again again held, unsynced⟩
  | [.read _ _], _, free => cases free _ (List.mem_singleton.mpr rfl)
  | [.cleaning _ _ _], _, free => cases free _ (List.mem_singleton.mpr rfl)
  | [.enrolled _ _ _], _, free => cases free _ (List.mem_singleton.mpr rfl)
  | [.removing _ _ _], ⟨held, _, within⟩, _ => exact ⟨held_again again held, shown, within⟩
  | [.removed _ _], within, _ => exact within

end Frames

section TurnSteps
variable {w w' : World} {userId other picture mapping : Nat} {person : Option Nat}

theorem untouched_of (store : w'.store = w.store) (faces : w'.faces = w.faces)
    (turns : turnsOf w' userId = turnsOf w userId) : Untouched userId w w' where
  faces p _ := by rw [faces]
  mappings r _ := by rw [store]
  active := store ▸ noNewActive_refl _
  turns := turns

theorem deleteFace_fewer {faces : Table Face} {answer : DeleteAnswer} {p : Nat × Face}
    (there : p ∈ (deleteFace faces person answer).rows) : p ∈ faces.rows := by
  unfold deleteFace at there
  split at there
  · exact there
  · split at there
    · exact (mem_deleteWhere.mp there).1
    · exact there

theorem deleteFace_other {faces : Table Face} {answer : DeleteAnswer}
    (own : ∀ uid ∈ person, Own faces userId uid) (apart : userId ≠ other) (p : Nat × Face)
    (theirs : p.2.userId = other) : p ∈ (deleteFace faces person answer).rows ↔ p ∈ faces.rows := by
  constructor
  · exact deleteFace_fewer
  · intro there
    refine deleteFace_stays there ?_
    intro named
    exact apart (((own _ (Option.mem_toList.mp named)).2 p there rfl).symm.trans theirs)

theorem enrollFace_other {faces : Table Face} {answer : EnrollAnswer} (apart : userId ≠ other)
    (p : Nat × Face) (theirs : p.2.userId = other) :
    p ∈ (enrollFace faces ⟨userId, picture⟩ answer).rows ↔ p ∈ faces.rows := by
  unfold enrollFace
  split
  · rw [mem_insert]
    refine or_iff_left ?_
    rintro rfl
    exact apart theirs
  · exact Iff.rfl

theorem held_fewer {s : Store} {faces faces' : Table Face} (held : Held s faces userId)
    (fewer : ∀ p ∈ faces'.rows, p ∈ faces.rows) : Held s faces' userId :=
  fun p there mine => held p (fewer p there) mine

theorem shown_of_unsynced {s : Store} {faces : Table Face} (unsynced : Unsynced s userId) :
    Shown s faces userId := by
  intro r there mine synced
  rw [unsynced r there mine] at synced
  cases synced

theorem held_of_none {s : Store} {faces : Table Face} (nobody : FacesIn faces userId []) :
    Held s faces userId :=
  fun p there mine => absurd (nobody p there mine) List.not_mem_nil

theorem unsynced_iff {s : Store} : isSynced s userId = false ↔ Unsynced s userId := by
  simp only [isSynced, List.any_eq_false, Bool.and_eq_true, decide_eq_true_eq, not_and]
  exact forall₂_congr fun r _ => imp_congr_right fun _ => Bool.not_eq_true _ |>.to_iff

theorem read_carries {s : Store} (one : OneActive s) {readable : Bool}
    (bytes : getPortraitBytes s userId readable = some picture) : Carries s userId picture := by
  unfold getPortraitBytes at bytes
  obtain ⟨face, active, rest⟩ := Option.bind_eq_some_iff.mp bytes
  obtain ⟨mediaFileId, image, rest⟩ := Option.bind_eq_some_iff.mp rest
  obtain ⟨media, -, given⟩ := Option.bind_eq_some_iff.mp rest
  have same : mediaFileId = picture := by
    split at given
    · split at given
      · exact Option.some.inj given
      · cases given
    · split at given
      · exact Option.some.inj given
      · cases given
    · cases given
    · cases given
  obtain ⟨q, found, rfl⟩ := Option.map_eq_some_iff.mp active
  obtain ⟨row, holds⟩ := findOne_mem found
  intro r there active
  rw [one r there q row userId active holds, image, same]

theorem started (t : Turn) (phases : ∀ v, PhaseOf w v) (free : turnsOf w t.userId = [])
    (new : Phase w.store w.faces t.userId [t]) (v : Nat) : PhaseOf (w.start t) v := by
  by_cases mine : t.userId = v
  · subst mine
    rw [PhaseOf, turnsOf_start rfl, free]
    exact new
  · have untouched : Untouched v w (w.start t) := untouched_of rfl rfl (turnsOf_start_other mine)
    exact untouched.phase (phases v)

def FacesFrame (userId : Nat) (faces faces' : Table Face) : Prop :=
  ∀ v, userId ≠ v → ∀ p : Nat × Face, p.2.userId = v → (p ∈ faces'.rows ↔ p ∈ faces.rows)

def MappingsFrame (userId : Nat) (s s' : Store) : Prop :=
  ∀ v, userId ≠ v → ∀ r : Nat × PortraitMapping, r.2.userId = v →
    (r ∈ s'.mappings.rows ↔ r ∈ s.mappings.rows)

theorem upsert_frame {s : Store} (single : Single s.mappings) (userId : Nat) (result : EnrollResult)
    (now : Int) : MappingsFrame userId s (upsertMapping s userId result now) := by
  intro v apart r theirs
  rw [mem_upsert single]
  constructor
  · rintro (⟨old, -⟩ | rfl)
    · exact old
    · exact absurd theirs apart
  · exact fun old => Or.inl ⟨old, fun mine => apart (mine.symm.trans theirs)⟩

theorem removed_frame {s : Store} {q : Nat × PortraitMapping}
    (only : ∀ r ∈ s.mappings.rows, r.1 = mapping → r = q) (user : q.2.userId = userId) :
    MappingsFrame userId s (markRemoved s mapping) := by
  intro v apart r theirs
  rw [markRemoved, Table.update, mem_updateWhere]
  constructor
  · rintro ⟨old, there, rfl⟩
    by_cases here : old.1 = mapping
    · rw [touch_of_true _ (decide_eq_true here), only old there here] at theirs
      exact absurd (user.symm.trans theirs) apart
    · rw [touch_of_false _ (decide_eq_false here)]
      exact there
  · intro there
    refine ⟨r, there, touch_of_false _ (decide_eq_false ?_)⟩
    intro here
    rw [only r there here] at theirs
    exact apart (user.symm.trans theirs)

theorem facesFrame_refl {userId : Nat} {faces : Table Face} : FacesFrame userId faces faces :=
  fun _ _ _ _ => Iff.rfl

theorem moved (t u : Turn) (same : u.userId = t.userId) (there : t ∈ w.turns) (phases : ∀ v, PhaseOf w v)
    {faces : Table Face} (frame : FacesFrame t.userId w.faces faces)
    (new : Phase w.store faces t.userId [u]) (v : Nat) : PhaseOf { w.move t u with faces := faces } v := by
  by_cases mine : t.userId = v
  · subst mine
    have turns : turnsOf { w.move t u with faces := faces } t.userId = [u] := by
      change turnsOf (w.move t u) t.userId = [u]
      rw [turnsOf_move same, only_turn (phases _) there, List.erase_cons_head]
    rw [PhaseOf, turns]
    exact new
  · have untouched : Untouched v w { w.move t u with faces := faces } :=
      ⟨frame v mine, fun _ _ => Iff.rfl, noNewActive_refl _,
        turnsOf_move_other mine (same ▸ mine)⟩
    exact untouched.phase (phases v)

theorem finished (t : Turn) (there : t ∈ w.turns) (phases : ∀ v, PhaseOf w v) {s : Store}
    {faces : Table Face} (frame : FacesFrame t.userId w.faces faces)
    (rows : MappingsFrame t.userId w.store s) (active : NoNewActive w.store.faceProfiles s.faceProfiles)
    (new : Phase s faces t.userId []) (v : Nat) :
    PhaseOf { w.finish t with
      store := s
      faces := faces } v := by
  by_cases mine : t.userId = v
  · subst mine
    have turns : turnsOf (w.finish t) t.userId = [] := by
      rw [turnsOf_finish, only_turn (phases _) there, List.erase_cons_head]
    change Phase s faces t.userId (turnsOf (w.finish t) t.userId)
    rw [turns]
    exact new
  · have untouched : Untouched v w { w.finish t with
        store := s
        faces := faces } :=
      ⟨frame v mine, rows v mine, active, turnsOf_finish_other mine⟩
    exact untouched.phase (phases v)

theorem phase_here {t : Turn} (phases : ∀ v, PhaseOf w v) (there : t ∈ w.turns) :
    Phase w.store w.faces t.userId [t] := by
  have phase := phases t.userId
  rwa [PhaseOf, only_turn phase there] at phase

variable (phases : ∀ v, PhaseOf w v) (sound : Sound w)
include phases

theorem look_phase (free : turnsOf w userId = []) (ready : isSynced w.store userId = false) (v : Nat) :
    PhaseOf (w.start (.looked userId)) v := by
  have before := phases userId
  rw [PhaseOf, free] at before
  exact started (.looked userId) phases free ⟨before.1, unsynced_iff.mp ready⟩ v

theorem listStale_phase (ready : .read userId picture ∈ w.turns) (v : Nat) :
    PhaseOf (w.move (.read userId picture) (.cleaning userId picture (stalePersons w.store userId))) v := by
  obtain ⟨held, unsynced, carries⟩ := phase_here phases ready
  have within : FacesIn w.faces userId (stalePersons w.store userId) := by
    intro p there mine
    obtain ⟨r, row, user, person, live⟩ := held p there mine
    have stale : isStale userId r = true := by
      rw [isStale, person, live]
      exact (Bool.and_true _).trans ((Bool.and_true _).trans (decide_eq_true user))
    exact List.mem_filterMap.mpr ⟨r, mem_select.mpr ⟨row, stale⟩, person⟩
  exact moved (.read userId picture) (.cleaning userId picture (stalePersons w.store userId)) rfl ready
    phases facesFrame_refl ⟨held, unsynced, carries, within⟩ v

theorem enroll_phase {answer : EnrollAnswer} (ready : .cleaning userId picture [] ∈ w.turns)
    (clear : answer = .named ∨ answer = .refused) (v : Nat) :
    PhaseOf { w.move (.cleaning userId picture []) (.enrolled userId picture (resultOf w.faces answer)) with
      faces := enrollFace w.faces ⟨userId, picture⟩ answer } v := by
  obtain ⟨-, unsynced, carries, nobody⟩ := phase_here phases ready
  have written : Written (enrollFace w.faces ⟨userId, picture⟩ answer) userId picture
      (resultOf w.faces answer) := by
    rcases clear with rfl | rfl
    · refine ⟨mem_insert.mpr (Or.inr rfl), ?_⟩
      intro p there mine
      rcases mem_insert.mp there with old | rfl
      · exact absurd (nobody p old mine) List.not_mem_nil
      · exact List.mem_singleton.mpr rfl
    · exact nobody
  exact moved (.cleaning userId picture []) (.enrolled userId picture (resultOf w.faces answer)) rfl ready
    phases (fun _ apart p theirs => enrollFace_other apart p theirs) ⟨unsynced, carries, written⟩ v

include sound

theorem read_phase {setup : Setup} {readable : Bool} (ready : .looked userId ∈ w.turns) (v : Nat) :
    PhaseOf (next setup w (.read userId readable)) v := by
  obtain ⟨held, unsynced⟩ := phase_here phases ready
  rw [next]
  split
  · exact finished (.looked userId) ready phases facesFrame_refl (fun _ _ _ _ => Iff.rfl)
      (noNewActive_refl _) ⟨held, shown_of_unsynced unsynced⟩ v
  · rename_i picture bytes
    exact moved (.looked userId) (.read userId picture) rfl ready phases facesFrame_refl
      ⟨held, unsynced, read_carries sound.one bytes⟩ v

theorem clean_phase {uid : Nat} {rest : List Nat}
    (ready : .cleaning userId picture (uid :: rest) ∈ w.turns) (v : Nat) :
    PhaseOf { w.move (.cleaning userId picture (uid :: rest)) (.cleaning userId picture rest) with
      faces := deleteFace w.faces (some uid) .done } v := by
  obtain ⟨held, unsynced, carries, within⟩ := phase_here phases ready
  have own : ∀ u ∈ some uid, Own w.faces userId u := by
    intro u same
    exact sound.turns _ ready u (List.mem_cons.mpr (Or.inl (Option.mem_some.mp same).symm))
  have left : FacesIn (deleteFace w.faces (some uid) .done) userId rest := by
    intro p there mine
    obtain ⟨old, kept⟩ := mem_deleteWhere.mp there
    exact (List.mem_cons.mp (within p old mine)).resolve_left kept
  exact moved (.cleaning userId picture (uid :: rest)) (.cleaning userId picture rest) rfl ready phases
    (fun _ apart p theirs => deleteFace_other own apart p theirs)
    ⟨held_fewer held fun _ there => deleteFace_fewer there, unsynced, carries, left⟩ v

theorem upsert_phase {result : EnrollResult} {now : Int}
    (ready : .enrolled userId picture result ∈ w.turns) (v : Nat) :
    PhaseOf { w.finish (.enrolled userId picture result) with
      store := upsertMapping w.store userId result now } v := by
  obtain ⟨-, carries, written⟩ := phase_here phases ready
  have rows := upsert_frame (s := w.store) sound.single userId result now
  have active : NoNewActive w.store.faceProfiles (upsertMapping w.store userId result now).faceProfiles :=
    (upsert_profiles result now).symm ▸ noNewActive_refl _
  have own_row : ∀ r ∈ (upsertMapping w.store userId result now).mappings.rows, r.2.userId = userId →
      r.2 = upsertedRow userId result now := by
    intro r there mine
    rcases (mem_upsert sound.single).mp there with ⟨-, other⟩ | rfl
    · exact absurd mine other
    · rfl
  have new : Phase (upsertMapping w.store userId result now) w.faces userId [] := by
    match result, written with
    | .ok (some uid), ⟨face, within⟩ =>
      refine ⟨?_, ?_⟩
      · intro p there mine
        refine ⟨_, (mem_upsert sound.single).mpr (Or.inr rfl), rfl, ?_, rfl⟩
        exact congrArg some (List.mem_singleton.mp (within p there mine)).symm
      · intro r there mine _
        rw [own_row r there mine]
        exact ⟨uid, picture, rfl, face, carries_of carries active⟩
    | .failed, nobody =>
      refine ⟨held_of_none nobody, shown_of_unsynced ?_⟩
      intro r there mine
      rw [own_row r there mine]
      rfl
  exact finished (.enrolled userId picture result) ready phases facesFrame_refl rows active new v

theorem pick_phase {mp : PortraitMapping} (free : turnsOf w mp.userId = [])
    (ready : (mapping, mp) ∈ toRemove w.store) (v : Nat) :
    PhaseOf (w.start (.removing mp.userId mapping mp.devicePersonId)) v := by
  have before := phases mp.userId
  rw [PhaseOf, free] at before
  have within : FacesIn w.faces mp.userId mp.devicePersonId.toList := by
    intro p there mine
    obtain ⟨r, row, user, person, -⟩ := before.1 p there mine
    have same : r = (mapping, mp) := sound.single r row _ (mem_select.mp ready).1 user
    rw [same] at person
    exact Option.mem_toList.mpr person
  exact started (.removing mp.userId mapping mp.devicePersonId) phases free ⟨before.1, before.2, within⟩ v

theorem remove_phase {setup : Setup} {answer : DeleteAnswer}
    (ready : .removing userId mapping person ∈ w.turns) (clear : answer ≠ .lost) (v : Nat) :
    PhaseOf (next setup w (.remove userId mapping person answer)) v := by
  obtain ⟨held, shown, within⟩ := phase_here phases ready
  have own : ∀ u ∈ person, Own w.faces userId u := fun u named =>
    sound.turns _ ready u (Option.mem_toList.mpr named)
  rw [next]
  cases answer with
  | done =>
    have nobody : FacesIn (deleteFace w.faces person .done) userId [] := by
      intro p there mine
      have old := within p (deleteFace_fewer there) mine
      cases person with
      | none => exact old
      | some uid =>
        obtain ⟨-, kept⟩ := mem_deleteWhere.mp there
        exact absurd (List.mem_singleton.mp old) kept
    exact moved (.removing userId mapping person) (.removed userId mapping) rfl ready phases
      (fun _ apart p theirs => deleteFace_other own apart p theirs) nobody v
  | refused =>
    have same : deleteFace w.faces person .refused = w.faces := by
      cases person with
      | none => rfl
      | some uid => rfl
    rw [same]
    exact finished (.removing userId mapping person) ready phases facesFrame_refl (fun _ _ _ _ => Iff.rfl)
      (noNewActive_refl _) ⟨held, shown⟩ v
  | lost => exact absurd rfl clear

theorem mark_phase (ready : .removed userId mapping ∈ w.turns) (v : Nat) :
    PhaseOf { w.finish (.removed userId mapping) with store := markRemoved w.store mapping } v := by
  have nobody : FacesIn w.faces userId [] := phase_here phases ready
  obtain ⟨q, row, key, user⟩ := sound.mapped _ ready mapping rfl
  have only : ∀ r ∈ w.store.mappings.rows, r.1 = mapping → r = q := by
    intro r there same
    have keys : r.1 = q.1 := same.trans key.symm
    exact Prod.ext keys
      (key_unique w.store.mappings (keys ▸ there : (q.1, r.2) ∈ w.store.mappings.rows) row)
  have rows : MappingsFrame userId w.store (markRemoved w.store mapping) := removed_frame only user
  have unsynced : Unsynced (markRemoved w.store mapping) userId := by
    intro r there mine
    obtain ⟨old, stored, rfl⟩ := mem_updateWhere.mp there
    by_cases here : old.1 = mapping
    · rw [touch_of_true _ (decide_eq_true here)]
      rfl
    · rw [touch_of_false _ (decide_eq_false here)] at mine
      have same := sound.single old stored q row (mine.trans user.symm)
      exact absurd (same ▸ key) here
  exact finished (.removed userId mapping) ready phases facesFrame_refl rows (noNewActive_refl _)
    ⟨held_of_none nobody, shown_of_unsynced unsynced⟩ v

end TurnSteps

section Runs
variable {setup : Setup} {w w' : World} {e : Event}

theorem again_of_eq {s s' : Store} (same : s'.mappings = s.mappings) : SentAgain s.mappings s'.mappings :=
  same ▸ sentAgain_refl _

theorem request_phase (phases : ∀ v, PhaseOf w v) {s : Store}
    (rows : NoNewActive w.store.faceProfiles s.faceProfiles ∧ s.mappings = w.store.mappings) (v : Nat) :
    PhaseOf (w.onStore s) v :=
  phase_again (again_of_eq rows.2) (fun r there holds => rows.1 r there v holds) (phases v)

theorem approve_phase (phases : ∀ v, PhaseOf w v) (sound : Sound w) {id : Nat}
    (clear : ∀ r ∈ w.store.faceProfiles.rows, r.1 = id →
      ∀ t ∈ turnsOf w r.2.userId, t.carriesPicture = false) (v : Nat) :
    PhaseOf (w.onStore (answered w.store (approveBiometricSubmission w.store id))) v := by
  cases done : approveBiometricSubmission w.store id with
  | error e => exact phases v
  | ok s =>
    obtain ⟨fp, stored, mappings, actives⟩ := approve_rows sound.one done
    have again : SentAgain w.store.mappings s.mappings := by
      rw [mappings]
      exact sentAgain_pending _
    by_cases mine : v = fp.userId
    · subst mine
      refine phase_approved again ?_ (clear _ stored rfl) (phases fp.userId)
      intro r there own
      change r ∈ s.mappings.rows at there
      rw [mappings] at there
      obtain ⟨q, old, rfl⟩ := mem_updateWhere.mp there
      refine Bool.eq_false_of_not_eq_true ?_
      intro synced
      cases reset : resetPortraitMapping fp.userId q with
      | true =>
        rw [touch_of_true _ reset] at synced
        simp [PortraitMapping.synced] at synced
      | false =>
        rw [touch_of_false _ reset] at synced own
        rw [PortraitMapping.synced, Bool.and_eq_true, decide_eq_true_eq] at synced
        rw [resetPortraitMapping, decide_eq_true own, synced.1, synced.2] at reset
        cases reset
    · refine phase_again again ?_ (phases v)
      intro r there holds
      rcases actives r there v holds with ⟨same, -⟩ | ⟨-, old⟩
      · exact absurd same mine
      · exact old

theorem phase_step (phases : ∀ v, PhaseOf w v) (sound : Sound w) (step : Step setup w e w')
    (clear : orderly w e) (v : Nat) : PhaseOf w' v := by
  obtain ⟨ready, rfl⟩ := step
  have again : ∀ {s : Store}, s.faceProfiles = w.store.faceProfiles →
      SentAgain w.store.mappings s.mappings → PhaseOf (w.onStore s) v := by
    intro s same again
    exact phase_again again (fun r there _ => same ▸ there) (phases v)
  cases e with
  | look userId => exact look_phase phases clear ready v
  | read userId readable => exact read_phase phases sound ready v
  | listStale userId picture => exact listStale_phase phases ready v
  | clean userId picture uid rest answer =>
    cases (clear : answer = .done)
    exact clean_phase phases sound ready v
  | enroll userId picture answer => exact enroll_phase phases ready clear v
  | upsert userId picture result now => exact upsert_phase phases sound ready v
  | pick mapping mp => exact pick_phase phases sound clear ready v
  | remove userId mapping person answer => exact remove_phase phases sound ready clear v
  | mark userId mapping => exact mark_phase phases sound ready v
  | abandon t =>
    have here := phase_here phases ready
    refine finished t ready phases facesFrame_refl (fun _ _ _ _ => Iff.rfl) (noNewActive_refl _) ?_ v
    cases t with
    | looked _ => exact ⟨here.1, shown_of_unsynced here.2⟩
    | read _ _ => exact ⟨here.1, shown_of_unsynced here.2.1⟩
    | cleaning _ _ _ => exact ⟨here.1, shown_of_unsynced here.2.1⟩
    | enrolled _ _ _ => cases clear
    | removing _ _ _ => exact ⟨here.1, here.2.1⟩
    | removed _ _ => cases clear
  | resync userId => exact again rfl (sentAgain_pending _)
  | expire now => exact again rfl (sentAgain_pending _)
  | submit q => exact request_phase phases (answered_rows fun _ done => submit_rows done) v
  | enrollByStaff userId file onS3 =>
    exact request_phase phases (answered_rows fun _ done => enrollByStaff_rows done) v
  | approve id => exact approve_phase phases sound clear v
  | reject id reason reads => exact request_phase phases (answered_rows fun _ done => reject_rows done) v
  | deleteProfile id => exact request_phase phases (answered_rows fun _ done => deleteProfile_rows done) v
  | setAccountStatus userId status => exact again rfl (sentAgain_refl _)
  | replaceRoles userId roleCodes => exact request_phase phases (replaceRoles_rows userId roleCodes) v
  | deleteUser userId =>
    exact phase_again (sentAgain_deleted clear)
      (fun r there holds => deleteUser_profiles userId r there v holds) (phases v)

structure Followed (w : World) : Prop where
  sound : Sound w
  phases : ∀ userId, PhaseOf w userId

theorem AtFirst.followed (first : AtFirst w) : Followed w := by
  constructor
  · exact first.sound
  · intro userId
    rw [PhaseOf, turnsOf, first.turns]
    constructor
    · intro p there
      rw [first.faces] at there
      cases there
    · intro r there
      rw [first.mappings] at there
      cases there

theorem followed_step (followed : Followed w) (step : Step setup w e w') (clear : orderly w e) : Followed w' :=
  ⟨sound_step followed.sound step, phase_step followed.phases followed.sound step clear⟩

theorem Followed.known (followed : Followed w) {p : Nat × Face} (there : p ∈ w.faces.rows) :
    (∃ r ∈ w.store.mappings.rows, r.2.userId = p.2.userId ∧ r.2.devicePersonId = some p.1 ∧
      r.2.live = true) ∨
      Turn.enrolled p.2.userId p.2.picture (.ok (some p.1)) ∈ w.turns := by
  have phase := followed.phases p.2.userId
  have taken : ∀ t ∈ turnsOf w p.2.userId, t ∈ w.turns ∧ t.userId = p.2.userId := by
    intro t member
    exact ⟨(List.mem_filter.mp member).1, of_decide_eq_true (List.mem_filter.mp member).2⟩
  rw [PhaseOf] at phase
  match turnsOf w p.2.userId, phase, taken with
  | [], ⟨held, _⟩, _ => exact Or.inl (held p there rfl)
  | [.looked _], ⟨held, _⟩, _ => exact Or.inl (held p there rfl)
  | [.read _ _], ⟨held, _⟩, _ => exact Or.inl (held p there rfl)
  | [.cleaning _ _ _], ⟨held, _⟩, _ => exact Or.inl (held p there rfl)
  | [.removing _ _ _], ⟨held, _⟩, _ => exact Or.inl (held p there rfl)
  | [.removed _ _], nobody, _ => exact absurd (nobody p there rfl) List.not_mem_nil
  | [.enrolled user picture (.ok (some uid))], ⟨_, _, face, within⟩, taken =>
    right
    obtain ⟨member, mine⟩ := taken _ (List.mem_singleton.mpr rfl)
    have key : p.1 = uid := List.mem_singleton.mp (within p there rfl)
    have same : p.2 = ⟨p.2.userId, picture⟩ :=
      key_unique w.faces (key ▸ there : (uid, p.2) ∈ w.faces.rows) face
    have shown : p.2.picture = picture := congrArg Face.picture same
    rw [key, shown]
    exact (mine : user = p.2.userId) ▸ member
  | [.enrolled _ _ (.ok none)], ⟨_, _, broken⟩, _ => exact broken.elim
  | [.enrolled _ _ .failed], ⟨_, _, nobody⟩, _ => exact absurd (nobody p there rfl) List.not_mem_nil

theorem held_alone {s : Store} {faces : Table Face} {userId : Nat} (single : Single s.mappings)
    (held : Held s faces userId) {p q : Nat × Face} (hp : p ∈ faces.rows) (hq : q ∈ faces.rows)
    (mine : p.2.userId = userId) (mine' : q.2.userId = userId) : p.1 = q.1 := by
  obtain ⟨r, row, user, person, -⟩ := held p hp mine
  obtain ⟨r', row', user', person', -⟩ := held q hq mine'
  have same := single r row r' row' (user.trans user'.symm)
  rw [same] at person
  exact Option.some.inj (person.symm.trans person')

theorem phase_alone_on {s : Store} {faces : Table Face} {userId : Nat} {turns : List Turn}
    (single : Single s.mappings) (phase : Phase s faces userId turns) {p q : Nat × Face}
    (hp : p ∈ faces.rows) (hq : q ∈ faces.rows) (mine : p.2.userId = userId)
    (mine' : q.2.userId = userId) : p.1 = q.1 := by
  match turns, phase with
  | [], ⟨held, _⟩ => exact held_alone single held hp hq mine mine'
  | [.looked _], ⟨held, _⟩ => exact held_alone single held hp hq mine mine'
  | [.read _ _], ⟨held, _⟩ => exact held_alone single held hp hq mine mine'
  | [.cleaning _ _ _], ⟨held, _⟩ => exact held_alone single held hp hq mine mine'
  | [.removing _ _ _], ⟨held, _⟩ => exact held_alone single held hp hq mine mine'
  | [.removed _ _], nobody => exact absurd (nobody p hp mine) List.not_mem_nil
  | [.enrolled _ _ (.ok (some uid))], ⟨_, _, _, within⟩ =>
    exact (List.mem_singleton.mp (within p hp mine)).trans (List.mem_singleton.mp (within q hq mine')).symm
  | [.enrolled _ _ (.ok none)], ⟨_, _, broken⟩ => exact broken.elim
  | [.enrolled _ _ .failed], ⟨_, _, nobody⟩ => exact absurd (nobody p hp mine) List.not_mem_nil
  | _ :: _ :: _, broken =>
    rw [Phase] at broken
    exact broken.elim

theorem Followed.alone (followed : Followed w) {p q : Nat × Face} (hp : p ∈ w.faces.rows)
    (hq : q ∈ w.faces.rows) (same : p.2.userId = q.2.userId) : p = q := by
  have key := phase_alone_on followed.sound.single (followed.phases p.2.userId) hp hq rfl same.symm
  exact Prod.ext key (key_unique w.faces (key ▸ hp : (q.1, p.2) ∈ w.faces.rows) hq)

theorem Followed.shown (followed : Followed w) {userId : Nat}
    (staying : ∀ k, Turn.removed userId k ∉ w.turns) : Shown w.store w.faces userId := by
  have phase := followed.phases userId
  have taken : ∀ t ∈ turnsOf w userId, t ∈ w.turns ∧ t.userId = userId := by
    intro t member
    exact ⟨(List.mem_filter.mp member).1, of_decide_eq_true (List.mem_filter.mp member).2⟩
  rw [PhaseOf] at phase
  match turnsOf w userId, phase, taken with
  | [], ⟨_, shown⟩, _ => exact shown
  | [.looked _], ⟨_, unsynced⟩, _ => exact shown_of_unsynced unsynced
  | [.read _ _], ⟨_, unsynced, _⟩, _ => exact shown_of_unsynced unsynced
  | [.cleaning _ _ _], ⟨_, unsynced, _⟩, _ => exact shown_of_unsynced unsynced
  | [.enrolled _ _ _], ⟨unsynced, _⟩, _ => exact shown_of_unsynced unsynced
  | [.removing _ _ _], ⟨_, shown, _⟩, _ => exact shown
  | [.removed user k], _, taken =>
    obtain ⟨member, mine⟩ := taken _ (List.mem_singleton.mpr rfl)
    exact absurd ((mine : user = userId) ▸ member) (staying k)

/-- A mapping that counts as clean stands for the one person of its user, who has the approved picture;
    every person is known, but for one that an upload is about to write down. -/
theorem recorder_shows_approved {moves : List (Move World Event)} (first : AtFirst w)
    (run : Run (Step setup) w moves w') (clear : Heeds orderly moves) :
    ∀ a ∈ visited w moves,
      (∀ p ∈ a.faces.rows,
        (∃ r ∈ a.store.mappings.rows, r.2.userId = p.2.userId ∧ r.2.devicePersonId = some p.1 ∧
          r.2.live = true) ∨
          Turn.enrolled p.2.userId p.2.picture (.ok (some p.1)) ∈ a.turns) ∧
      (∀ p ∈ a.faces.rows, ∀ q ∈ a.faces.rows, p.2.userId = q.2.userId → p = q) ∧
      ∀ r ∈ a.store.mappings.rows, r.2.synced = true →
        (∀ k, Turn.removed r.2.userId k ∉ a.turns) →
        ∃ uid picture, r.2.devicePersonId = some uid ∧
          (uid, ⟨r.2.userId, picture⟩) ∈ a.faces.rows ∧
          ∀ fp ∈ a.store.faceProfiles.rows, fp.2.holds .active r.2.userId = true →
            fp.2.primaryImageFileId = some picture := by
  intro a there
  have followed : Followed a :=
    visited_invariant Followed run first.followed clear
      (fun inv step here => followed_step inv step here) a there
  refine ⟨fun p hp => followed.known hp, fun p hp q hq same => followed.alone hp hq same, ?_⟩
  intro r row synced staying
  exact followed.shown staying r row rfl synced

def renewal : List Event :=
  [.look 0, .read 0 true, .listStale 0 0, .enroll 0 0 .named, .upsert 0 0 (.ok (some 0)) 0, .approve 1,
    .look 0, .read 0 true, .listStale 0 1, .clean 0 1 0 [] .done, .enroll 0 1 .named,
    .upsert 0 1 (.ok (some 1)) 30000]

theorem recorder_shows_approved_renewed :
    ∃ uid, (uid, (⟨0, 1⟩ : Face)) ∈ (renewal.foldl (next plainSetup) twoPictures).faces.rows := by
  have run : Run (Step plainSetup) twoPictures (trail (next plainSetup) twoPictures renewal)
      (renewal.foldl (next plainSetup) twoPictures) := run_trail (by decide)
  obtain ⟨-, -, shown⟩ := recorder_shows_approved twoPictures_atFirst run (by decide) _ (end_visited run)
  have nobody_leaves : (renewal.foldl (next plainSetup) twoPictures).turns = [] := by decide
  obtain ⟨uid, picture, -, face, approved⟩ := shown (0, upsertedRow 0 (.ok (some 1)) 30000) (by decide)
    (by decide) fun k there => absurd (nobody_leaves ▸ there) List.not_mem_nil
  have image : some 1 = some picture := approved
    (1, ⟨0, .active, some 1, false⟩) (by decide) (by decide)
  exact ⟨uid, Option.some.inj image ▸ face⟩

end Runs

end PortraitStore
