import MeetingPlatform.Minutes.Transactions

/- What a transaction on minutes changes, what it goes on with, and what the lock of a row keeps for
   the call that holds it. -/
namespace Minutes
open KeyedTable Guards CallPools

section Locks
variable {s : MinutesDb} {c d : MinutesCall} {action : DraftAction} {id authUserId now : Nat}
  {read row : MeetingMinutes}

/-- What an action has found out about the row that it locked, and keeps of it. -/
structure Prepared (action : DraftAction) (read row : MeetingMinutes) : Prop where
  draft : read.status = .draft
  known : ∀ dto randomUUID, action = .update dto randomUUID →
    dto.versionNo = read.versionNo ∧ row.versionNo = read.versionNo + 1
  same : (∀ dto randomUUID, action ≠ .update dto randomUUID) →
    row.versionNo = read.versionNo ∧ row.text = read.text

theorem lockDraft_eq_ok {code : String} : lockDraft s id code = .ok read ↔
    s.minutes.get? id = some read ∧ read.deletedAt = none := by
  rw [lockDraft, expect_eq_ok, Option.filter_eq_some_iff, Option.isNone_iff_eq_none]

theorem prepared_same (draft : read.status = .draft) (other : ∀ dto randomUUID, action ≠ .update dto randomUUID)
    (version : row.versionNo = read.versionNo) (text : row.text = read.text) : Prepared action read row where
  draft := draft
  known dto randomUUID updates := absurd updates (other dto randomUUID)
  same _ := ⟨version, text⟩

theorem prepare_spec (found : s.minutes.get? id = some read)
    (prepared : action.prepare s id authUserId now = .ok row) : Prepared action read row := by
  have locked : ∀ {code m}, lockDraft s id code = .ok m → m = read := by
    intro code m there
    exact Option.some.inj ((lockDraft_eq_ok.mp there).1.symm.trans found)
  cases action with
  | update dto randomUUID =>
    simp only [DraftAction.prepare, updateDraft, bind_eq_ok, require_eq_ok, pure_eq_ok] at prepared
    obtain ⟨_, -, m, there, _, -, _, draft, _, version, rfl⟩ := prepared
    cases locked there
    constructor
    · exact draft
    · rintro _ _ ⟨⟩
      exact ⟨version, rfl⟩
    · intro other
      exact absurd rfl (other dto randomUUID)
  | toggle enabled =>
    simp only [DraftAction.prepare, toggleLiveShare, bind_eq_ok, require_eq_ok, pure_eq_ok] at prepared
    obtain ⟨m, there, _, -, _, draft, _, -, rfl⟩ := prepared
    cases locked there
    exact prepared_same draft (fun _ _ updates => by cases updates) rfl rfl
  | link dto =>
    simp only [DraftAction.prepare, linkResources, bind_eq_ok, require_eq_ok, pure_eq_ok] at prepared
    obtain ⟨_, -, m, there, _, -, _, draft, _, -, _, -, _, -, rfl⟩ := prepared
    cases locked there
    exact prepared_same draft (fun _ _ updates => by cases updates) rfl rfl
  | delete =>
    simp only [DraftAction.prepare, deleteDraft, bind_eq_ok, require_eq_ok, pure_eq_ok] at prepared
    obtain ⟨m, there, _, -, _, draft, rfl⟩ := prepared
    cases locked there
    exact prepared_same draft (fun _ _ updates => by cases updates) rfl rfl
  | issue =>
    simp only [DraftAction.prepare, issueMinutes, bind_eq_ok, require_eq_ok, pure_eq_ok] at prepared
    obtain ⟨m, there, _, -, _, draft, _, -, rfl⟩ := prepared
    cases locked there
    exact prepared_same draft (fun _ _ updates => by cases updates) rfl rfl

/-- What an access makes of a row that is there. -/
def MinutesCall.after (k : Nat) (row : MeetingMinutes) : MinutesCall → MeetingMinutes
  | .writing _ id _ new => if k = id then new else row
  | .persist payload output (.committing id existing stored) =>
    if k = id then saveEntity (overwrite payload output existing) stored row else row
  | _ => row

def MinutesCall.commits (now : Nat) (s : MinutesDb) : MinutesCall → List Commit
  | .writing (.update dto _) id read row => [⟨id, some (dto.versionNo, read.text), row.versionNo, row.text⟩]
  | .persist payload output (.inserting m) =>
    if (findExisting s payload).isSome then []
    else [⟨s.minutes.next, none, 1, (createDraft payload output m now).text⟩]
  | .persist payload output (.committing id existing stored) =>
    match s.minutes.get? id with
    | none => []
    | some row =>
      let saved := saveEntity (overwrite payload output existing) stored row
      [⟨id, some (existing.versionNo, existing.text), saved.versionNo, saved.text⟩]
  | _ => []

theorem commits_other (other : ∀ dto randomUUID, action ≠ .update dto randomUUID) :
    (MinutesCall.writing action id read row).commits now s = [] := by
  cases action with
  | update dto randomUUID => exact absurd rfl (other dto randomUUID)
  | toggle enabled => rfl
  | link dto => rfl
  | delete => rfl
  | issue => rfl

/-- The ways in which an access changes the minutes. -/
inductive Effect (now : Nat) (s : MinutesDb) : MinutesCall → MinutesDb → Prop where
  | quiet {c : MinutesCall} {s' : MinutesDb} (plain : ∀ k row, c.after k row = row)
      (silent : c.commits now s = []) (rows : s'.minutes = s.minutes) (history : s'.history = s.history)
      (locks : ∀ id, s.lockedMinutes id = true → s'.lockedMinutes id = true) : Effect now s c s'
  | writing {action : DraftAction} {id : Nat} {read row : MeetingMinutes} :
      Effect now s (.writing action id read row) (action.commit s id read row)
  | inserting {payload : AiDraftJobPayload} {output : AiMinutesOutput} {m : Meeting} :
      Effect now s (.persist payload output (.inserting m))
        ((s.insertDraft payload output now m).releaseMeeting payload.meetingId)
  | committing {payload : AiDraftJobPayload} {output : AiMinutesOutput} {id : Nat}
      {existing stored : MeetingMinutes} :
      Effect now s (.persist payload output (.committing id existing stored))
        ((s.commitRerun payload output id existing stored).releaseMeeting payload.meetingId)

theorem lockRow_keeps (id k : Nat) (locked : s.lockedMinutes k = true) :
    (s.lockRow id).lockedMinutes k = true := by
  by_cases same : k = id
  · subst same
    exact Function.update_self _ _ _
  · exact (Function.update_of_ne same _ _).trans locked

theorem access_effect : Effect now s c (c.access now s).1 := by
  have unchanged : ∀ c : MinutesCall, (∀ k row, c.after k row = row) → c.commits now s = [] →
      Effect now s c s := fun c plain silent => .quiet plain silent rfl rfl fun _ locked => locked
  cases c with
  | locking action id authUserId =>
    simp only [MinutesCall.access]
    split
    · exact unchanged _ (fun _ _ => rfl) rfl
    · split
      · exact .quiet (fun _ _ => rfl) rfl rfl rfl (lockRow_keeps id)
      · exact unchanged _ (fun _ _ => rfl) rfl
  | writing action id read row => exact .writing
  | meeting id change =>
    simp only [MinutesCall.access]
    split
    · exact unchanged _ (fun _ _ => rfl) rfl
    · exact .quiet (fun _ _ => rfl) rfl rfl rfl fun _ locked => locked
  | persist payload output stage =>
    cases stage with
    | locking =>
      simp only [MinutesCall.access, persistDraft]
      split
      · exact unchanged _ (fun _ _ => rfl) rfl
      · split
        · exact unchanged _ (fun _ _ => rfl) rfl
        · exact .quiet (fun _ _ => rfl) rfl rfl rfl fun _ locked => locked
    | reading m =>
      simp only [MinutesCall.access, persistDraft]
      split
      · exact unchanged _ (fun _ _ => rfl) rfl
      · split
        · exact .quiet (fun _ _ => rfl) rfl rfl rfl fun _ locked => locked
        · exact unchanged _ (fun _ _ => rfl) rfl
    | inserting m => exact .inserting
    | saving id existing =>
      simp only [MinutesCall.access, persistDraft]
      split
      · exact .quiet (fun _ _ => rfl) rfl rfl rfl fun _ locked => locked
      · exact unchanged _ (fun _ _ => rfl) rfl
    | updating id existing stored =>
      simp only [MinutesCall.access, persistDraft]
      split
      · exact unchanged _ (fun _ _ => rfl) rfl
      · exact .quiet (fun _ _ => rfl) rfl rfl rfl (lockRow_keeps id)
    | committing id existing stored => exact .committing

theorem get?_save (t : Table MeetingMinutes) (k : Nat) (found : t.get? k = some row) (new : MeetingMinutes) :
    (t.save id new).get? k = some (if k = id then new else row) := by
  rw [Table.save, get?_update, found]
  split
  · rfl
  · rfl

variable {s' : MinutesDb}

theorem Effect.get? (effect : Effect now s c s') {k : Nat} (present : s.minutes.get? k = some row) :
    s'.minutes.get? k = some (c.after k row) := by
  cases effect with
  | quiet plain silent rows history locks =>
    rw [rows, plain]
    exact present
  | writing => exact get?_save s.minutes k present _
  | inserting =>
    simp only [MinutesDb.releaseMeeting, MinutesDb.insertDraft]
    split
    · exact present
    · have old : k ≠ s.minutes.next := Nat.ne_of_lt (row_below _ (get?_eq_some.mp present))
      rw [get?_insert, if_neg old]
      exact present
  | @committing payload output id existing stored =>
    simp only [MinutesDb.releaseMeeting, MinutesDb.commitRerun, MinutesCall.after]
    by_cases same : k = id
    · subst same
      simp only [present, if_true]
      rw [get?_save s.minutes k present, if_pos rfl]
    · rw [if_neg same]
      split
      · exact present
      · rw [get?_save s.minutes k present, if_neg same]

theorem Effect.new_row (effect : Effect now s c s') {k : Nat} (absent : s.minutes.get? k = none)
    (present : s'.minutes.get? k = some row) : ∃ payload output m,
      c = .persist payload output (.inserting m) ∧ findExisting s payload = none ∧ k = s.minutes.next ∧
        row = createDraft payload output m now := by
  cases effect with
  | quiet plain silent rows history locks =>
    rw [rows, absent] at present
    cases present
  | writing =>
    simp only [DraftAction.commit, Table.save, get?_update, absent, Option.map_none, ite_self] at present
    cases present
  | @inserting payload output m =>
    simp only [MinutesDb.releaseMeeting, MinutesDb.insertDraft] at present
    split at present
    · rw [absent] at present
      cases present
    · rename_i nothing
      rw [get?_insert] at present
      split at present
      · rename_i same
        cases present
        exact ⟨payload, output, m, rfl, Option.not_isSome_iff_eq_none.mp nothing, same, rfl⟩
      · rw [absent] at present
        cases present
  | committing =>
    simp only [MinutesDb.releaseMeeting, MinutesDb.commitRerun] at present
    split at present
    · rw [absent] at present
      cases present
    · simp only [Table.save, get?_update, absent, Option.map_none, ite_self] at present
      cases present

theorem Effect.history (effect : Effect now s c s') : s'.history = s.history ++ c.commits now s := by
  cases effect with
  | quiet plain silent rows history locks => rw [history, silent, List.append_nil]
  | @writing action id read row =>
    cases action with
    | update dto randomUUID => rfl
    | toggle enabled => exact (List.append_nil _).symm
    | link dto => exact (List.append_nil _).symm
    | delete => exact (List.append_nil _).symm
    | issue => exact (List.append_nil _).symm
  | inserting =>
    simp only [MinutesCall.commits, MinutesDb.releaseMeeting, MinutesDb.insertDraft]
    split
    · exact (List.append_nil _).symm
    · rfl
  | @committing payload output id existing stored =>
    simp only [MinutesCall.commits, MinutesDb.releaseMeeting, MinutesDb.commitRerun]
    cases s.minutes.get? id with
    | none => exact (List.append_nil _).symm
    | some row => rfl

def MinutesCall.holds : MinutesCall → Option Nat
  | .writing _ id _ _ => some id
  | .persist _ _ (.committing id _ _) => some id
  | _ => none

theorem holds_cases (holds : c.holds = some id) :
    (∃ action read row, c = .writing action id read row) ∨
      ∃ payload output existing stored, c = .persist payload output (.committing id existing stored) := by
  cases c with
  | locking action k authUserId => cases holds
  | meeting k change => cases holds
  | writing action k read row =>
    cases holds
    exact Or.inl ⟨action, read, row, rfl⟩
  | persist payload output stage =>
    cases stage with
    | committing k existing stored =>
      cases holds
      exact Or.inr ⟨payload, output, existing, stored, rfl⟩
    | locking => cases holds
    | reading m => cases holds
    | inserting m => cases holds
    | saving k existing => cases holds
    | updating k existing stored => cases holds

theorem commits_held {a : Commit} (there : a ∈ c.commits now s) :
    c.holds = some a.minutesId ∨ a.minutesId = s.minutes.next := by
  cases c with
  | locking action k authUserId => cases there
  | meeting k change => cases there
  | writing action k read row =>
    cases action with
    | update dto randomUUID =>
      rw [List.mem_singleton.mp there]
      exact Or.inl rfl
    | toggle enabled => cases there
    | link dto => cases there
    | delete => cases there
    | issue => cases there
  | persist payload output stage =>
    cases stage with
    | locking => cases there
    | reading m => cases there
    | saving k existing => cases there
    | updating k existing stored => cases there
    | inserting m =>
      rw [MinutesCall.commits] at there
      split at there
      · cases there
      · rw [List.mem_singleton.mp there]
        exact Or.inr rfl
    | committing k existing stored =>
      rw [MinutesCall.commits] at there
      split at there
      · cases there
      · rw [List.mem_singleton.mp there]
        exact Or.inl rfl

theorem Effect.locked (effect : Effect now s c s') (locked : s.lockedMinutes id = true)
    (other : c.holds ≠ some id) : s'.lockedMinutes id = true := by
  cases effect with
  | quiet plain silent rows history locks => exact locks id locked
  | writing =>
    have apart := fun same => other (congrArg some same)
    exact (Function.update_of_ne (fun same => apart same.symm) _ _).trans locked
  | inserting =>
    simp only [MinutesDb.releaseMeeting, MinutesDb.insertDraft]
    split
    · exact locked
    · exact locked
  | committing =>
    have apart := fun same => other (congrArg some same)
    simp only [MinutesDb.releaseMeeting, MinutesDb.commitRerun]
    split
    · exact locked
    · exact (Function.update_of_ne (fun same => apart same.symm) _ _).trans locked

theorem after_other (other : c.holds ≠ some id) : c.after id row = row := by
  cases c with
  | locking action k authUserId => rfl
  | meeting k change => rfl
  | writing action k read new => exact if_neg fun same => other (congrArg some same.symm)
  | persist payload output stage =>
    cases stage with
    | committing k existing stored => exact if_neg fun same => other (congrArg some same.symm)
    | locking => rfl
    | reading m => rfl
    | inserting m => rfl
    | saving k existing => rfl
    | updating k existing stored => rfl

/-- The ways in which a call goes on after an access. -/
inductive Next (now : Nat) (s : MinutesDb) : MinutesCall → MinutesDb → MinutesCall → Prop where
  | waiting {c : MinutesCall} : Next now s c s c
  | locked {action : DraftAction} {id authUserId : Nat} {read row : MeetingMinutes}
      (free : s.lockedMinutes id = false) (found : s.minutes.get? id = some read)
      (prepared : action.prepare s id authUserId now = .ok row) :
      Next now s (.locking action id authUserId) (s.lockRow id) (.writing action id read row)
  | reading {payload : AiDraftJobPayload} {output : AiMinutesOutput} {s' : MinutesDb} {m : Meeting}
      (rows : s'.minutes = s.minutes) :
      Next now s (.persist payload output .locking) s' (.persist payload output (.reading m))
  | inserting {payload : AiDraftJobPayload} {output : AiMinutesOutput} {m : Meeting} :
      Next now s (.persist payload output (.reading m)) s (.persist payload output (.inserting m))
  | saving {payload : AiDraftJobPayload} {output : AiMinutesOutput} {m : Meeting} {id : Nat}
      {existing : MeetingMinutes} (found : s.minutes.get? id = some existing)
      (draft : existing.status = .draft) :
      Next now s (.persist payload output (.reading m)) s (.persist payload output (.saving id existing))
  | updating {payload : AiDraftJobPayload} {output : AiMinutesOutput} {id : Nat}
      {existing stored : MeetingMinutes} (found : s.minutes.get? id = some stored) :
      Next now s (.persist payload output (.saving id existing)) s
        (.persist payload output (.updating id existing stored))
  | committing {payload : AiDraftJobPayload} {output : AiMinutesOutput} {id : Nat}
      {existing stored : MeetingMinutes} (free : s.lockedMinutes id = false) :
      Next now s (.persist payload output (.updating id existing stored)) (s.lockRow id)
        (.persist payload output (.committing id existing stored))

theorem access_next {c' : MinutesCall} (goes_on : (c.access now s).2 = some c') :
    Next now s c (c.access now s).1 c' := by
  cases c with
  | locking action id authUserId =>
    simp only [MinutesCall.access] at goes_on ⊢
    split at goes_on
    · cases goes_on
      rw [if_pos ‹_›]
      exact .waiting
    · rename_i free
      rw [if_neg free]
      split at goes_on
      · rename_i read row found prepared
        cases goes_on
        exact .locked (Bool.eq_false_of_not_eq_true free) found prepared
      · cases goes_on
  | writing action id read row => cases goes_on
  | meeting id change =>
    simp only [MinutesCall.access] at goes_on ⊢
    split at goes_on
    · cases goes_on
      rw [if_pos ‹_›]
      exact .waiting
    · cases goes_on
  | persist payload output stage =>
    obtain ⟨stage', next, rfl⟩ := Option.map_eq_some_iff.mp goes_on
    simp only [MinutesCall.access]
    cases stage with
    | locking =>
      simp only [persistDraft] at next ⊢
      split at next
      · cases next
        rw [if_pos ‹_›]
        exact .waiting
      · rename_i free
        rw [if_neg free]
        split at next
        · cases next
        · cases next
          exact .reading rfl
    | reading m =>
      simp only [persistDraft] at next ⊢
      split at next
      · rename_i nothing
        cases next
        exact .inserting
      · rename_i r found
        split at next
        · cases next
        · rename_i overwritable
          cases next
          exact .saving (get?_eq_some.mpr (findOne_mem found).1) (require_eq_ok.mp overwritable).2.2
    | inserting m => cases next
    | saving id existing =>
      simp only [persistDraft] at next ⊢
      split at next
      · cases next
      · rename_i stored found
        cases next
        exact .updating found
    | updating id existing stored =>
      simp only [persistDraft] at next ⊢
      split at next
      · cases next
        rw [if_pos ‹_›]
        exact .waiting
      · rename_i free
        cases next
        rw [if_neg free]
        exact .committing (Bool.eq_false_of_not_eq_true free)
    | committing id existing stored => cases next

def ReadDraft (s : MinutesDb) (id : Nat) (existing : MeetingMinutes) : Prop :=
  (s.minutes.get? id).isSome = true ∧ existing.status = .draft

def LockFits (s : MinutesDb) : MinutesCall → Prop
  | .writing action id read row =>
    s.lockedMinutes id = true ∧ s.minutes.get? id = some read ∧ Prepared action read row
  | .persist _ _ (.saving id existing) => ReadDraft s id existing
  | .persist _ _ (.updating id existing _) => ReadDraft s id existing
  | .persist _ _ (.committing id existing _) => s.lockedMinutes id = true ∧ ReadDraft s id existing
  | _ => True

def LockApart (c d : MinutesCall) : Prop := ∀ id, c.holds = some id → d.holds ≠ some id

theorem held_is_locked (fits : LockFits s c) (holds : c.holds = some id) : s.lockedMinutes id = true := by
  obtain ⟨action, read, row, rfl⟩ | ⟨payload, output, existing, stored, rfl⟩ := holds_cases holds
  · exact fits.1
  · exact fits.1

theorem Effect.present (effect : Effect now s c s') (present : (s.minutes.get? id).isSome = true) :
    (s'.minutes.get? id).isSome = true := by
  obtain ⟨row, found⟩ := Option.isSome_iff_exists.mp present
  rw [effect.get? found]
  rfl

theorem Effect.fits (effect : Effect now s c s') (fits : LockFits s d)
    (apart : ∀ id, d.holds = some id → c.holds ≠ some id) : LockFits s' d := by
  cases d with
  | locking action id authUserId => trivial
  | meeting id change => trivial
  | writing action id read row =>
    obtain ⟨locked, found, prepared⟩ := fits
    have other := apart id rfl
    refine ⟨effect.locked locked other, ?_, prepared⟩
    rw [effect.get? found, after_other other]
  | persist payload output stage =>
    cases stage with
    | locking => trivial
    | reading m => trivial
    | inserting m => trivial
    | saving id existing => exact ⟨effect.present fits.1, fits.2⟩
    | updating id existing stored => exact ⟨effect.present fits.1, fits.2⟩
    | committing id existing stored =>
      exact ⟨effect.locked fits.1 (apart id rfl), effect.present fits.2.1, fits.2.2⟩

theorem Next.fits {c' : MinutesCall} (next : Next now s c s' c') (fits : LockFits s c) : LockFits s' c' := by
  cases next with
  | waiting => exact fits
  | @locked action id authUserId read row free found prepared =>
    exact ⟨Function.update_self _ _ _, found, prepare_spec found prepared⟩
  | reading rows => trivial
  | inserting => trivial
  | saving found draft =>
    refine ⟨?_, draft⟩
    rw [found]
    rfl
  | updating found => exact fits
  | committing free => exact ⟨Function.update_self _ _ _, fits⟩

theorem Next.takes {c' : MinutesCall} (next : Next now s c s' c') (holds : c'.holds = some id) :
    c' = c ∨ s.lockedMinutes id = false := by
  cases next with
  | waiting => exact Or.inl rfl
  | locked free found prepared =>
    cases holds
    exact Or.inr free
  | reading rows => cases holds
  | inserting => cases holds
  | saving found draft => cases holds
  | updating found => cases holds
  | committing free =>
    cases holds
    exact Or.inr free

theorem locks_keep {ok : MinutesDb → Nat → MinutesCall → Prop} :
    Keeps minutesCalls (fun _ => True) LockFits LockApart ok where
  symm c d apart id holds held := apart id held holds
  enters s r _ _ := by
    cases r with
    | draft action id authUserId => trivial
    | persistDraft payload output => trivial
    | meeting id change => trivial
  alone s r d _ _ _ := by
    cases r with
    | draft action id authUserId => exact nofun
    | persistDraft payload output => exact nofun
    | meeting id change => exact nofun
  inv _ _ _ _ _ _ _ := trivial
  next _ _ _ _ _ fits _ _ goes_on := (access_next goes_on).fits fits
  others _ _ _ _ _ _ fits apart _ _ :=
    access_effect.fits fits fun id holds held => apart id held holds
  still_apart s now c c' d _ fits other apart _ _ goes_on := by
    intro id holds held
    rcases (access_next goes_on).takes holds with rfl | free
    · exact apart id holds held
    · rw [held_is_locked other held] at free
      cases free

end Locks

end Minutes
