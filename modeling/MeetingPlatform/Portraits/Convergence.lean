import MeetingPlatform.Portraits.ShownPictures
import Mathlib.Data.List.Dedup

/- A whole turn of the synchronisation, and how the recorder comes to agree with the approved pictures. -/
namespace PortraitStore
open KeyedTable LabelledRuns

section Ticks

def batchLimit : Nat := 500

/-- A query with a limit and no order gives some of its rows. -/
structure IsBatch {A : Type} (chosen rows : List A) : Prop where
  once : chosen.Nodup
  among : ∀ a ∈ chosen, a ∈ rows
  length : chosen.length = min batchLimit rows.length

structure Database where
  limitUsers : List Nat → List Nat
  limitRows : List (Nat × PortraitMapping) → List (Nat × PortraitMapping)
  users : ∀ rows, rows.Nodup → IsBatch (limitUsers rows) rows
  rows : ∀ rows, rows.Nodup → IsBatch (limitRows rows) rows

structure Answers where
  readable : Nat → Bool
  clean : Nat → DeleteAnswer
  enroll : Nat → EnrollAnswer
  remove : Nat → DeleteAnswer

inductive PortraitEnrollResult where
  | enrolled | noop | skipped | failed
  deriving DecidableEq, Repr

inductive PortraitRemoveResult where
  | removed | failed
  deriving DecidableEq, Repr

variable (answers : Answers) (now : Int)

def cleanStale (faces : Table Face) (stale : List Nat) : Table Face :=
  stale.foldl (fun faces uid => deleteFace faces (some uid) (answers.clean uid)) faces

def enrollPortrait (w : World) (userId : Nat) : World × PortraitEnrollResult :=
  if isSynced w.store userId then (w, .noop)
  else match getPortraitBytes w.store userId (answers.readable userId) with
    | none => (w, .skipped)
    | some picture =>
      let cleaned := cleanStale answers w.faces (stalePersons w.store userId)
      let result := resultOf cleaned (answers.enroll userId)
      ({ w with
          store := upsertMapping w.store userId result now
          faces := enrollFace cleaned ⟨userId, picture⟩ (answers.enroll userId) },
        match result with
        | .ok _ => .enrolled
        | .failed => .failed)

def removeMapping (w : World) (mp : Nat × PortraitMapping) : World × PortraitRemoveResult :=
  let faces := deleteFace w.faces mp.2.devicePersonId (answers.remove mp.1)
  match answers.remove mp.1 with
  | .done =>
    ({ w with
        store := markRemoved w.store mp.1
        faces }, .removed)
  | _ => ({ w with faces }, .failed)

structure Counts where
  scanned : Nat
  enrolled : Nat
  removed : Nat
  failed : Nat
  deriving DecidableEq, Repr

def enrollEach (w : World) (users : List Nat) : World × List PortraitEnrollResult :=
  users.foldl (fun found userId =>
    let (w, result) := enrollPortrait answers now found.1 userId
    (w, found.2 ++ [result])) (w, [])

def removeEach (w : World) (rows : List (Nat × PortraitMapping)) : World × List PortraitRemoveResult :=
  rows.foldl (fun found mp =>
    let (w, result) := removeMapping answers found.1 mp
    (w, found.2 ++ [result])) (w, [])

def reconcilePortraits (setup : Setup) (db : Database) (w : World) : World × Counts :=
  let expired := w.onStore (expireMappings w.store setup.ttlDays now)
  let users := db.limitUsers (toEnroll expired.store)
  let (enrolled, enrollResults) := enrollEach answers now expired users
  let rows := db.limitRows (toRemove enrolled.store)
  let (removed, removeResults) := removeEach answers enrolled rows
  (removed,
    { scanned := users.length + rows.length
      enrolled := enrollResults.count .enrolled
      removed := removeResults.count .removed
      failed := enrollResults.count .failed + removeResults.count .failed })

def willing : Answers where
  readable _ := true
  clean _ := .done
  enroll _ := .named
  remove _ := .done

end Ticks

section Runs
variable {setup : Setup} {answers : Answers} {now : Int} {w : World}

/-- A stretch of an orderly run between two states without turns. -/
def Reaches (setup : Setup) (w v : World) : Prop :=
  ∃ moves, Run (Step setup) w moves v ∧ Heeds orderly moves

theorem reaches_refl (w : World) : Reaches setup w w := ⟨[], .nil, fun _ there => by cases there⟩

theorem Reaches.trans {u v : World} (first : Reaches setup w u) (second : Reaches setup u v) :
    Reaches setup w v := by
  obtain ⟨moves, run, clear⟩ := first
  obtain ⟨more, then_run, then_clear⟩ := second
  refine ⟨moves ++ more, run.append then_run, ?_⟩
  intro m there
  rcases List.mem_append.mp there with front | back
  · exact clear m front
  · exact then_clear m back

theorem reaches_step {v : World} (e : Event) (ready : ready w e) (clear : orderly w e)
    (is : v = next setup w e) : Reaches setup w v := by
  refine ⟨[⟨w, e, v⟩], Run.nil.snoc ⟨ready, is⟩, ?_⟩
  intro m there
  rw [List.mem_singleton.mp there]
  exact clear

theorem reaches_clean {userId picture : Nat} {stale : List Nat}
    (here : w.turns = [.cleaning userId picture stale]) :
    Reaches setup w
      { w with
        faces := cleanStale willing w.faces stale
        turns := [.cleaning userId picture []] } := by
  induction stale generalizing w with
  | nil =>
    have same : w = { w with turns := [.cleaning userId picture []] } := by rw [← here]
    exact same ▸ reaches_refl w
  | cons uid rest ih =>
    have first : Reaches setup w
        { w with
          faces := deleteFace w.faces (some uid) .done
          turns := [.cleaning userId picture rest] } := by
      refine reaches_step (.clean userId picture uid rest .done) ?_ rfl ?_
      · change Turn.cleaning userId picture (uid :: rest) ∈ w.turns
        rw [here]
        exact List.mem_singleton.mpr rfl
      · simp only [next, World.move, here, List.erase_cons_head]
    exact first.trans (ih rfl)

theorem reaches_enroll (idle : w.turns = []) (userId : Nat) :
    Reaches setup w (enrollPortrait willing now w userId).1 := by
  unfold enrollPortrait
  split
  · exact reaches_refl w
  · rename_i unsynced
    split
    · exact reaches_refl w
    · rename_i picture bytes
      have look : Reaches setup w { w with turns := [.looked userId] } := by
        refine reaches_step (.look userId) (Bool.eq_false_of_not_eq_true unsynced) ?_ ?_
        · rw [orderly, turnsOf, idle]
          rfl
        · simp only [next, World.start, idle]
      have read : Reaches setup { w with turns := [.looked userId] }
          { w with turns := [.read userId picture] } := by
        refine reaches_step (.read userId true) (List.mem_singleton.mpr rfl) trivial ?_
        have bytes : getPortraitBytes w.store userId true = some picture := bytes
        simp only [next, bytes, World.move, List.erase_cons_head]
      have list : Reaches setup { w with turns := [.read userId picture] }
          { w with turns := [.cleaning userId picture (stalePersons w.store userId)] } := by
        refine reaches_step (.listStale userId picture) (List.mem_singleton.mpr rfl) trivial ?_
        simp only [next, World.move, List.erase_cons_head]
      refine look.trans (read.trans (list.trans ((reaches_clean rfl).trans ?_)))
      dsimp only
      have written : Reaches setup
          { w with
            faces := cleanStale willing w.faces (stalePersons w.store userId)
            turns := [.cleaning userId picture []] }
          { w with
            faces := enrollFace (cleanStale willing w.faces (stalePersons w.store userId))
              ⟨userId, picture⟩ .named
            turns := [.enrolled userId picture
              (resultOf (cleanStale willing w.faces (stalePersons w.store userId)) .named)] } := by
        refine reaches_step (.enroll userId picture .named) (List.mem_singleton.mpr rfl) (Or.inl rfl) ?_
        simp only [next, World.move, List.erase_cons_head]
      refine written.trans ?_
      refine reaches_step (.upsert userId picture _ now) (List.mem_singleton.mpr rfl) trivial ?_
      simp only [next, World.finish, List.erase_cons_head, idle]
      rfl

theorem enrollPortrait_turns (userId : Nat) : (enrollPortrait answers now w userId).1.turns = w.turns := by
  unfold enrollPortrait
  split
  · rfl
  · split
    · rfl
    · rfl

theorem removeMapping_turns (r : Nat × PortraitMapping) : (removeMapping answers w r).1.turns = w.turns := by
  unfold removeMapping
  split
  · rfl
  · rfl

theorem reaches_remove (idle : w.turns = []) {r : Nat × PortraitMapping} (outdated : r ∈ toRemove w.store) :
    Reaches setup w (removeMapping willing w r).1 := by
  have pick : Reaches setup w { w with turns := [.removing r.2.userId r.1 r.2.devicePersonId] } := by
    refine reaches_step (.pick r.1 r.2) outdated ?_ ?_
    · rw [orderly, turnsOf, idle]
      rfl
    · simp only [next, World.start, idle]
  have remove : Reaches setup { w with turns := [.removing r.2.userId r.1 r.2.devicePersonId] }
      { w with
        faces := deleteFace w.faces r.2.devicePersonId .done
        turns := [.removed r.2.userId r.1] } := by
    refine reaches_step (.remove r.2.userId r.1 r.2.devicePersonId .done) (List.mem_singleton.mpr rfl)
      (by decide : DeleteAnswer.done ≠ .lost) ?_
    simp only [next, World.move, List.erase_cons_head, if_true]
  refine pick.trans (remove.trans ?_)
  refine reaches_step (.mark r.2.userId r.1) (List.mem_singleton.mpr rfl) trivial ?_
  simp only [next, World.finish, List.erase_cons_head]
  unfold removeMapping
  rw [← idle]
  rfl

end Runs

section Backlog
variable {s s' : Store} {userId : Nat}

/-- What the scans depend on, beside the mappings. -/
structure SameAccounts (s s' : Store) : Prop where
  users : s'.users = s.users
  mediaFiles : s'.mediaFiles = s.mediaFiles
  faceProfiles : s'.faceProfiles = s.faceProfiles

theorem SameAccounts.trans {s'' : Store} (first : SameAccounts s s') (second : SameAccounts s' s'') :
    SameAccounts s s'' :=
  ⟨second.users.trans first.users, second.mediaFiles.trans first.mediaFiles,
    second.faceProfiles.trans first.faceProfiles⟩

theorem SameAccounts.accountEligible (same : SameAccounts s s') :
    accountEligible s' userId = accountEligible s userId := by
  rw [PortraitStore.accountEligible, same.users, PortraitStore.accountEligible]

theorem SameAccounts.eligible (same : SameAccounts s s') : eligible s' userId = eligible s userId := by
  rw [PortraitStore.eligible, same.accountEligible, hasActive, same.faceProfiles, PortraitStore.eligible,
    hasActive]

theorem SameAccounts.bytes (same : SameAccounts s s') (readable : Bool) :
    getPortraitBytes s' userId readable = getPortraitBytes s userId readable := by
  rw [getPortraitBytes, activeProfile, same.faceProfiles, same.mediaFiles, getPortraitBytes, activeProfile]

theorem upsert_accounts (result : EnrollResult) (now : Int) :
    SameAccounts s (upsertMapping s userId result now) := by
  unfold upsertMapping
  dsimp only
  split
  · exact ⟨rfl, rfl, rfl⟩
  · exact ⟨rfl, rfl, rfl⟩

theorem mem_toEnroll : userId ∈ toEnroll s ↔ eligible s userId = true ∧ isSynced s userId = false := by
  rw [toEnroll, List.mem_filter, List.mem_dedup, List.mem_map, Bool.and_eq_true, Bool.not_eq_true',
    eligible, Bool.and_eq_true, hasActive, List.any_eq_true]
  constructor
  · rintro ⟨⟨r, selected, rfl⟩, account, unsynced⟩
    exact ⟨⟨account, r, mem_select.mp selected⟩, unsynced⟩
  · rintro ⟨⟨account, r, row, active⟩, unsynced⟩
    have mine : r.2.userId = userId := (holds_iff.mp active).1
    exact ⟨⟨r, mem_select.mpr ⟨row, mine ▸ active⟩, mine⟩, account, unsynced⟩

theorem toEnroll_nodup (s : Store) : (toEnroll s).Nodup := (List.nodup_dedup _).filter _

theorem toRemove_nodup (s : Store) : (toRemove s).Nodup := (select_keys s.mappings _).of_map

theorem toEnroll_filter (same : SameAccounts s s') {p : Nat → Bool}
    (synced : ∀ v, eligible s v = true → isSynced s' v = (isSynced s v || !p v)) :
    toEnroll s' = (toEnroll s).filter p := by
  rw [toEnroll, same.faceProfiles, toEnroll, List.filter_filter]
  refine List.filter_congr ?_
  intro v there
  have active : hasActive s v = true := by
    obtain ⟨r, selected, rfl⟩ := List.mem_map.mp (List.mem_dedup.mp there)
    exact List.any_eq_true.mpr ⟨r, (mem_select.mp selected)⟩
  rw [same.accountEligible]
  cases account : accountEligible s v with
  | false => rw [Bool.false_and, Bool.false_and, Bool.and_false]
  | true =>
    have whole : eligible s v = true := by rw [eligible, account, active]; rfl
    rw [synced v whole]
    cases isSynced s v <;> cases p v <;> rfl

theorem isSynced_iff : isSynced s userId = true ↔
    ∃ r ∈ s.mappings.rows, r.2.userId = userId ∧ r.2.synced = true := by
  simp only [isSynced, List.any_eq_true, Bool.and_eq_true, decide_eq_true_eq]

theorem isSynced_frame {v : Nat} (frame : MappingsFrame userId s s') (apart : userId ≠ v) :
    isSynced s' v = isSynced s v := by
  rw [Bool.eq_iff_iff, isSynced_iff, isSynced_iff]
  constructor
  · rintro ⟨r, row, mine, synced⟩
    exact ⟨r, (frame v apart r mine).mp row, mine, synced⟩
  · rintro ⟨r, row, mine, synced⟩
    exact ⟨r, (frame v apart r mine).mpr row, mine, synced⟩

theorem upsert_toEnroll (single : Single s.mappings) (uid : Option Nat) (now : Int) :
    toEnroll (upsertMapping s userId (.ok uid) now) = (toEnroll s).erase userId := by
  rw [(toEnroll_nodup s).erase_eq_filter userId]
  refine toEnroll_filter (upsert_accounts _ now) ?_
  intro v _
  by_cases mine : userId = v
  · subst mine
    have row : isSynced (upsertMapping s userId (.ok uid) now) userId = true :=
      isSynced_iff.mpr ⟨_, (mem_upsert single).mpr (Or.inr rfl), rfl, rfl⟩
    rw [row]
    simp
  · rw [isSynced_frame (upsert_frame single userId (.ok uid) now) mine]
    simp [Ne.symm mine]

theorem SameAccounts.isOutdated (same : SameAccounts s s') : isOutdated s' = isOutdated s := by
  funext r
  rw [PortraitStore.isOutdated, same.eligible, PortraitStore.isOutdated]

theorem upsert_toRemove (known : eligible s userId = true) (result : EnrollResult) (now : Int) :
    toRemove (upsertMapping s userId result now) = toRemove s := by
  have stays : ∀ r : Nat × PortraitMapping, r.2.userId = userId → isOutdated s r = false := by
    intro r mine
    rw [isOutdated, mine, known, Bool.not_true, Bool.and_false]
  rw [toRemove, (upsert_accounts result now).isOutdated, toRemove]
  unfold upsertMapping
  dsimp only
  split
  · rename_i existing found
    obtain ⟨row, mine⟩ := findOne_mem found
    refine select_update_frame ?_
    intro mp there
    have same : mp = existing.2 := key_unique s.mappings there row
    exact ⟨stays _ (same ▸ of_decide_eq_true mine), stays _ rfl⟩
  · rw [select_insert, stays _ rfl]
    exact List.append_nil _

theorem removed_accounts (mapping : Nat) : SameAccounts s (markRemoved s mapping) := ⟨rfl, rfl, rfl⟩

theorem filter_touched {Row : Type} {p sel : Nat × Row → Bool} {f : Row → Row} {rows : List (Nat × Row)}
    (selected : ∀ r ∈ rows, sel r = true) (leaves : ∀ r, p r = true → sel (touch p f r) = false) :
    (rows.map (touch p f)).filter sel = rows.filter fun r => !p r := by
  rw [List.filter_map]
  have same : rows.filter (sel ∘ touch p f) = rows.filter fun r => !p r := by
    refine List.filter_congr ?_
    intro r there
    rw [Function.comp_apply]
    cases touched : p r with
    | true => exact leaves r touched
    | false =>
      rw [touch_of_false f touched]
      exact selected r there
  rw [same]
  refine (List.map_congr_left ?_).trans (List.map_id _)
  intro r there
  exact touch_of_false f (by simpa using (List.mem_filter.mp there).2)

theorem removed_toRemove (r : Nat × PortraitMapping) :
    toRemove (markRemoved s r.1) = (toRemove s).filter fun q => !decide (q.1 = r.1) := by
  have gone : ∀ q : Nat × PortraitMapping, decide (q.1 = r.1) = true →
      isOutdated s (touch (fun q => decide (q.1 = r.1)) (fun mp => { mp with
        syncStatus := .deleted
        deleted := true }) q) = false := by
    intro q here
    rw [touch_of_true _ here]
    rfl
  rw [toRemove, (removed_accounts r.1).isOutdated, markRemoved, Table.update, select_updateWhere]
  · exact filter_touched (fun q there => (mem_select.mp there).2) gone
  · intro q _ still
    cases here : decide (q.1 = r.1) with
    | true =>
      rw [gone q here] at still
      cases still
    | false =>
      rw [touch_of_false _ here] at still
      exact still

theorem removed_toEnroll {r : Nat × PortraitMapping} (outdated : r ∈ toRemove s) :
    toEnroll (markRemoved s r.1) = toEnroll s := by
  obtain ⟨row, selected⟩ := mem_select.mp outdated
  rw [isOutdated, Bool.and_eq_true, Bool.not_eq_true'] at selected
  have frame : MappingsFrame r.2.userId s (markRemoved s r.1) :=
    removed_frame (fun q there same => Prod.ext same
      (key_unique s.mappings (same ▸ there : (r.1, q.2) ∈ s.mappings.rows) row)) rfl
  refine (toEnroll_filter (p := fun _ => true) (removed_accounts r.1) ?_).trans (List.filter_true _)
  intro v known
  rw [Bool.not_true, Bool.or_false]
  refine isSynced_frame frame ?_
  intro mine
  rw [mine, known] at selected
  cases selected.2

end Backlog

section Progress
variable {setup : Setup} {w v : World} {horizon now : Int}

theorem Reaches.followed (reaches : Reaches setup w v) (followed : Followed w) : Followed v := by
  obtain ⟨moves, run, clear⟩ := reaches
  exact guarded_invariant Followed run followed clear fun inv step here => followed_step inv step here

/-- No clean mapping is older than the horizon. -/
def Recent (horizon : Int) (s : Store) : Prop :=
  ∀ r ∈ s.mappings.rows, r.2.synced = true → horizon ≤ r.2.lastSyncedAt

/-- What the turns lead to, with the accounts and the profiles left alone. -/
structure Ticked (setup : Setup) (horizon : Int) (w v : World) : Prop where
  reaches : Reaches setup w v
  idle : v.turns = []
  accounts : SameAccounts w.store v.store
  recent : Recent horizon v.store

theorem Ticked.trans {u : World} (first : Ticked setup horizon w v) (second : Ticked setup horizon v u) :
    Ticked setup horizon w u :=
  ⟨first.reaches.trans second.reaches, second.idle, first.accounts.trans second.accounts, second.recent⟩

theorem enroll_store (now : Int) {userId : Nat} (listed : userId ∈ toEnroll w.store)
    (bytes : (getPortraitBytes w.store userId true).isSome = true) :
    ∃ uid, (enrollPortrait willing now w userId).1.store =
      upsertMapping w.store userId (.ok (some uid)) now := by
  unfold enrollPortrait
  rw [(mem_toEnroll.mp listed).2]
  obtain ⟨picture, read⟩ := Option.isSome_iff_exists.mp bytes
  have read : getPortraitBytes w.store userId (willing.readable userId) = some picture := read
  rw [read]
  exact ⟨_, rfl⟩

theorem enroll_ticked (setup : Setup) (followed : Followed w) (idle : w.turns = []) (recent : Recent horizon w.store)
    (late : horizon ≤ now) {userId : Nat} (listed : userId ∈ toEnroll w.store)
    (bytes : (getPortraitBytes w.store userId true).isSome = true) :
    Ticked setup horizon w (enrollPortrait willing now w userId).1 ∧
      toEnroll (enrollPortrait willing now w userId).1.store = (toEnroll w.store).erase userId ∧
      toRemove (enrollPortrait willing now w userId).1.store = toRemove w.store := by
  obtain ⟨uid, store⟩ := enroll_store now listed bytes
  have single := followed.sound.single
  refine ⟨⟨reaches_enroll idle userId, (enrollPortrait_turns userId).trans idle, ?_, ?_⟩, ?_, ?_⟩
  · rw [store]
    exact upsert_accounts _ now
  · rw [store]
    intro r there synced
    rcases (mem_upsert single).mp there with ⟨old, -⟩ | rfl
    · exact recent r old synced
    · exact late
  · rw [store]
    exact upsert_toEnroll single (some uid) now
  · rw [store]
    exact upsert_toRemove (mem_toEnroll.mp listed).1 _ now

theorem enrollEach_world (answers : Answers) (now : Int) (w : World) (users : List Nat) :
    (enrollEach answers now w users).1 = users.foldl (fun w u => (enrollPortrait answers now w u).1) w := by
  exact (List.foldl_hom Prod.fst (by intros; rfl)).symm

theorem removeEach_world (answers : Answers) (w : World) (rows : List (Nat × PortraitMapping)) :
    (removeEach answers w rows).1 = rows.foldl (fun w r => (removeMapping answers w r).1) w := by
  exact (List.foldl_hom Prod.fst (by intros; rfl)).symm

theorem enrollEach_ticked (setup : Setup) (followed : Followed w) (idle : w.turns = []) (recent : Recent horizon w.store)
    (late : horizon ≤ now) {users : List Nat} (once : users.Nodup)
    (listed : ∀ u ∈ users, u ∈ toEnroll w.store)
    (bytes : ∀ u ∈ users, (getPortraitBytes w.store u true).isSome = true) :
    Ticked setup horizon w (enrollEach willing now w users).1 ∧
      (toEnroll (enrollEach willing now w users).1.store).length + users.length =
        (toEnroll w.store).length ∧
      (∀ u ∈ toEnroll (enrollEach willing now w users).1.store, u ∈ toEnroll w.store) ∧
      toRemove (enrollEach willing now w users).1.store = toRemove w.store := by
  rw [enrollEach_world]
  induction users generalizing w with
  | nil => exact ⟨⟨reaches_refl w, idle, ⟨rfl, rfl, rfl⟩, recent⟩, rfl, fun _ there => there, rfl⟩
  | cons u rest ih =>
    obtain ⟨fresh, once⟩ := List.nodup_cons.mp once
    have here := listed u List.mem_cons_self
    obtain ⟨first, shorter, same⟩ :=
      enroll_ticked setup followed idle recent late here (bytes u List.mem_cons_self)
    have left : ∀ v ∈ rest, v ∈ toEnroll (enrollPortrait willing now w u).1.store := by
      intro v there
      rw [shorter]
      refine (List.mem_erase_of_ne ?_).mpr (listed v (List.mem_cons_of_mem u there))
      rintro rfl
      exact fresh there
    obtain ⟨second, count, fewer, still⟩ := ih (first.reaches.followed followed) first.idle first.recent once left
      fun v there => by
        rw [first.accounts.bytes]
        exact bytes v (List.mem_cons_of_mem u there)
    refine ⟨first.trans second, ?_, ?_, still.trans same⟩
    · have positive := List.length_pos_of_mem here
      rw [List.foldl_cons, List.length_cons]
      rw [shorter, List.length_erase_of_mem here] at count
      omega
    · intro v there
      have before := fewer v there
      rw [shorter] at before
      exact List.mem_of_mem_erase before

theorem remove_ticked (setup : Setup) (idle : w.turns = []) (recent : Recent horizon w.store)
    {r : Nat × PortraitMapping} (listed : r ∈ toRemove w.store) :
    Ticked setup horizon w (removeMapping willing w r).1 ∧
      toEnroll (removeMapping willing w r).1.store = toEnroll w.store ∧
      toRemove (removeMapping willing w r).1.store = (toRemove w.store).erase r := by
  have names : (toRemove w.store).erase r = (toRemove w.store).filter fun q => !decide (q.1 = r.1) := by
    rw [(toRemove_nodup w.store).erase_eq_filter r]
    refine List.filter_congr ?_
    intro q there
    by_cases same : q.1 = r.1
    · have equal : q = r := Prod.ext same
        (key_unique w.store.mappings (same ▸ (mem_select.mp there).1 : (r.1, q.2) ∈ _) (mem_select.mp listed).1)
      simp [equal]
    · have other : q ≠ r := fun equal => same (congrArg Prod.fst equal)
      simp [same, other]
  refine ⟨⟨reaches_remove idle listed, (removeMapping_turns r).trans idle, removed_accounts r.1, ?_⟩,
    removed_toEnroll listed, ?_⟩
  · intro q there synced
    obtain ⟨old, row, rfl⟩ := mem_updateWhere.mp there
    by_cases here : old.1 = r.1
    · rw [touch_of_true _ (decide_eq_true here)] at synced
      cases synced
    · rw [touch_of_false _ (decide_eq_false here)] at synced ⊢
      exact recent old row synced
  · rw [names]
    exact removed_toRemove r

theorem removeEach_ticked (setup : Setup) (idle : w.turns = []) (recent : Recent horizon w.store)
    {rows : List (Nat × PortraitMapping)} (once : rows.Nodup) (listed : ∀ r ∈ rows, r ∈ toRemove w.store) :
    Ticked setup horizon w (removeEach willing w rows).1 ∧
      toEnroll (removeEach willing w rows).1.store = toEnroll w.store ∧
      (toRemove (removeEach willing w rows).1.store).length + rows.length =
        (toRemove w.store).length := by
  rw [removeEach_world]
  induction rows generalizing w with
  | nil => exact ⟨⟨reaches_refl w, idle, ⟨rfl, rfl, rfl⟩, recent⟩, rfl, rfl⟩
  | cons r rest ih =>
    obtain ⟨fresh, once⟩ := List.nodup_cons.mp once
    have here := listed r List.mem_cons_self
    obtain ⟨first, same, shorter⟩ := remove_ticked setup idle recent here
    have left : ∀ q ∈ rest, q ∈ toRemove (removeMapping willing w r).1.store := by
      intro q there
      rw [shorter]
      refine (List.mem_erase_of_ne ?_).mpr (listed q (List.mem_cons_of_mem r there))
      rintro rfl
      exact fresh there
    obtain ⟨second, still, count⟩ := ih first.idle first.recent once left
    refine ⟨first.trans second, still.trans same, ?_⟩
    have positive := List.length_pos_of_mem here
    rw [List.foldl_cons, List.length_cons]
    rw [shorter, List.length_erase_of_mem here] at count
    omega

theorem expire_recent {s : Store} {ttlDays : Nat} (recent : Recent horizon s)
    (timely : now - ttlDays * 86400000 ≤ horizon) : expireMappings s ttlDays now = s := by
  have untouched : ∀ r ∈ s.mappings.rows,
      (r.2.synced && decide (r.2.lastSyncedAt < now - ttlDays * 86400000)) = false := by
    intro r there
    cases synced : r.2.synced with
    | false => rfl
    | true =>
      have young := recent r there synced
      rw [Bool.true_and, decide_eq_false_iff_not]
      omega
  have rows : s.mappings.updateWhere
      (fun r => r.2.synced && decide (r.2.lastSyncedAt < now - ttlDays * 86400000))
      (fun mp => { mp with syncStatus := .pending }) = s.mappings := by
    have same : ∀ t : Table PortraitMapping, t.rows = s.mappings.rows → t.next = s.mappings.next →
        t = s.mappings := by
      rintro ⟨_, _, _, _⟩ rfl rfl
      rfl
    refine same _ ?_ rfl
    refine (List.map_congr_left ?_).trans (List.map_id _)
    intro r there
    exact touch_of_false _ (untouched r there)
  rw [expireMappings, rows]

theorem reconcile_ticked (db : Database) (followed : Followed w) (idle : w.turns = [])
    (recent : Recent horizon w.store) (late : horizon ≤ now)
    (timely : now - setup.ttlDays * 86400000 ≤ horizon)
    (bytes : ∀ u ∈ toEnroll w.store, (getPortraitBytes w.store u true).isSome = true) :
    Ticked setup horizon w (reconcilePortraits willing now setup db w).1 ∧
      (∀ u ∈ toEnroll (reconcilePortraits willing now setup db w).1.store, u ∈ toEnroll w.store) ∧
      (toEnroll (reconcilePortraits willing now setup db w).1.store).length =
        (toEnroll w.store).length - batchLimit ∧
      (toRemove (reconcilePortraits willing now setup db w).1.store).length =
        (toRemove w.store).length - batchLimit := by
  have expired : w.onStore (expireMappings w.store setup.ttlDays now) = w := by
    rw [expire_recent recent timely]
    rfl
  unfold reconcilePortraits
  dsimp only
  rw [expired]
  have users := db.users _ (toEnroll_nodup w.store)
  obtain ⟨first, sent, fewer, same⟩ := enrollEach_ticked setup followed idle recent late
    users.once users.among fun u there => bytes u (users.among u there)
  have rows := db.rows _ (toRemove_nodup (enrollEach willing now w
    (db.limitUsers (toEnroll w.store))).1.store)
  obtain ⟨second, still, taken⟩ := removeEach_ticked setup first.idle first.recent rows.once
    rows.among
  have sent_length := users.length
  have taken_length := rows.length
  refine ⟨first.trans second, ?_, ?_, ?_⟩
  · rw [still]
    exact fewer
  · rw [still]
    omega
  · have backlog := congrArg List.length same
    omega

theorem reconcile_all (db : Database) (followed : Followed w) (idle : w.turns = [])
    (recent : Recent horizon w.store) {times : List Int}
    (timely : ∀ now ∈ times, now - setup.ttlDays * 86400000 ≤ horizon ∧ horizon ≤ now)
    (bytes : ∀ u ∈ toEnroll w.store, (getPortraitBytes w.store u true).isSome = true)
    (sends : (toEnroll w.store).length ≤ batchLimit * times.length)
    (takes : (toRemove w.store).length ≤ batchLimit * times.length) :
    ∃ v, v = times.foldl (fun v now => (reconcilePortraits willing now setup db v).1) w ∧
      Ticked setup horizon w v ∧ toEnroll v.store = [] ∧ toRemove v.store = [] := by
  induction times generalizing w with
  | nil =>
    refine ⟨w, rfl, ⟨reaches_refl w, idle, ⟨rfl, rfl, rfl⟩, recent⟩, ?_, ?_⟩
    · exact List.eq_nil_of_length_eq_zero (Nat.le_zero.mp sends)
    · exact List.eq_nil_of_length_eq_zero (Nat.le_zero.mp takes)
  | cons now rest ih =>
    obtain ⟨early, late⟩ := timely now List.mem_cons_self
    obtain ⟨first, fewer, sent, taken⟩ := reconcile_ticked db followed idle recent late early bytes
    have room : batchLimit * (now :: rest).length = batchLimit * rest.length + batchLimit :=
      Nat.mul_succ _ _
    obtain ⟨v, is, later, none_left, none_over⟩ := ih (first.reaches.followed followed) first.idle
      first.recent (fun t there => timely t (List.mem_cons_of_mem now there))
      (fun u there => by
        rw [first.accounts.bytes]
        exact bytes u (fewer u there))
      (by omega) (by omega)
    exact ⟨v, is, first.trans later, none_left, none_over⟩

theorem settled (followed : Followed w) (idle : w.turns = []) (none_left : toEnroll w.store = [])
    (none_over : toRemove w.store = []) (userId picture : Nat) :
    (∃ uid, (uid, ⟨userId, picture⟩) ∈ w.faces.rows) ↔
      accountEligible w.store userId = true ∧ ∃ fp ∈ w.store.faceProfiles.rows,
        fp.2.holds .active userId = true ∧ fp.2.primaryImageFileId = some picture := by
  have phase := followed.phases userId
  rw [PhaseOf, turnsOf, idle] at phase
  obtain ⟨held, shown⟩ := phase
  have synced_of : eligible w.store userId = true → isSynced w.store userId = true := by
    intro known
    refine Bool.eq_true_of_not_eq_false ?_
    intro unsynced
    have listed := mem_toEnroll.mpr ⟨known, unsynced⟩
    rw [none_left] at listed
    cases listed
  have face_of : eligible w.store userId = true → ∃ uid image, (uid, (⟨userId, image⟩ : Face)) ∈ w.faces.rows ∧
      Carries w.store userId image := by
    intro known
    obtain ⟨r, row, mine, synced⟩ := isSynced_iff.mp (synced_of known)
    obtain ⟨uid, image, -, face, carries⟩ := shown r row mine synced
    exact ⟨uid, image, face, carries⟩
  constructor
  · rintro ⟨uid, there⟩
    obtain ⟨r, row, mine, person, live⟩ := held _ there rfl
    have known : eligible w.store userId = true := by
      refine Bool.eq_true_of_not_eq_false ?_
      intro unknown
      have listed : r ∈ toRemove w.store :=
        mem_select.mpr ⟨row, by rw [isOutdated, live, mine, unknown]; rfl⟩
      rw [none_over] at listed
      cases listed
    obtain ⟨uid', image, face, carries⟩ := face_of known
    have same : image = picture :=
      congrArg (fun p : Nat × Face => p.2.picture) (followed.alone face there rfl)
    rw [eligible, Bool.and_eq_true, hasActive, List.any_eq_true] at known
    obtain ⟨account, fp, stored, active⟩ := known
    exact ⟨account, fp, stored, active, same ▸ carries fp stored active⟩
  · rintro ⟨account, fp, stored, active, image⟩
    have known : eligible w.store userId = true := by
      rw [eligible, account, Bool.true_and]
      exact List.any_eq_true.mpr ⟨fp, stored, active⟩
    obtain ⟨uid, shown_image, face, carries⟩ := face_of known
    have same := (carries fp stored active).symm.trans image
    exact ⟨uid, Option.some.inj same ▸ face⟩

/-- After an undisturbed run, enough turns in a row bring the recorder to the approved pictures. -/
theorem portraits_converge {w₀ : World} {moves : List (Move World Event)} {times : List Int}
    (db : Database) (first : AtFirst w₀) (run : Run (Step setup) w₀ moves w) (clear : Heeds orderly moves)
    (idle : w.turns = []) (recent : Recent horizon w.store)
    (timely : ∀ now ∈ times, now - setup.ttlDays * 86400000 ≤ horizon ∧ horizon ≤ now)
    (bytes : ∀ u ∈ toEnroll w.store, (getPortraitBytes w.store u true).isSome = true)
    (sends : (toEnroll w.store).length ≤ batchLimit * times.length)
    (takes : (toRemove w.store).length ≤ batchLimit * times.length) (userId picture : Nat) :
    (∃ uid, (uid, ⟨userId, picture⟩) ∈
        (times.foldl (fun v now => (reconcilePortraits willing now setup db v).1) w).faces.rows) ↔
      accountEligible w.store userId = true ∧ ∃ fp ∈ w.store.faceProfiles.rows,
        fp.2.holds .active userId = true ∧ fp.2.primaryImageFileId = some picture := by
  have followed : Followed w :=
    guarded_invariant Followed run first.followed clear fun inv step here => followed_step inv step here
  obtain ⟨v, is, ticked, none_left, none_over⟩ :=
    reconcile_all db followed idle recent timely bytes sends takes
  rw [← is, settled (ticked.reaches.followed followed) ticked.idle none_left none_over,
    ticked.accounts.accountEligible, ticked.accounts.faceProfiles]

theorem batch_take {A : Type} {rows : List A} (once : rows.Nodup) : IsBatch (rows.take batchLimit) rows where
  once := once.sublist (List.take_sublist _ _)
  among _ there := List.mem_of_mem_take there
  length := List.length_take

def inOrder : Database where
  limitUsers := List.take batchLimit
  limitRows := List.take batchLimit
  users _ once := batch_take once
  rows _ once := batch_take once

theorem portraits_converge_first_picture :
    ∃ uid, (uid, (⟨0, 0⟩ : Face)) ∈
      ([0].foldl (fun v now => (reconcilePortraits willing now plainSetup inOrder v).1)
        twoPictures).faces.rows := by
  have clear : Heeds orderly ([] : List (Move World Event)) := fun _ there => by cases there
  have recent : Recent 0 twoPictures.store := fun _ there => by cases there
  refine (portraits_converge inOrder twoPictures_atFirst .nil clear rfl recent ?_ (by decide) (by decide)
    (by decide) 0 0).mpr ?_
  · intro now there
    rw [List.mem_singleton.mp there]
    decide
  · exact ⟨by decide, (0, ⟨0, .active, some 0, false⟩), by decide, by decide, rfl⟩

end Progress

end PortraitStore
