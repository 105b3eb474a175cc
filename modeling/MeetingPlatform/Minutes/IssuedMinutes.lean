import MeetingPlatform.Minutes.RowLocks

/- Minutes that are published or deleted are meant to stay as they are. A rerun of the AI job that has
   read them as a draft writes what differs from its own copy, the status included. -/
namespace Minutes
open KeyedTable LabelledRuns CallPools EntitySaves

section Frozen
variable {s s' : MinutesDb} {c : MinutesCall} {now : Nat} {entity stored row : MeetingMinutes}

structure FrozenPart where
  status : MinutesStatus
  minutesContent : String
  decisionsJson : Option (List String)
  actionItemsJson : Option (List ActionItem)
  versionNo : Nat
  deriving DecidableEq, Repr

def MeetingMinutes.frozenPart (minutes : MeetingMinutes) : FrozenPart where
  status := minutes.status
  minutesContent := minutes.minutesContent
  decisionsJson := minutes.decisionsJson
  actionItemsJson := minutes.actionItemsJson
  versionNo := minutes.versionNo

def Frozen (minutes : MeetingMinutes) : Prop := minutes.status = .published ∨ minutes.status = .deleted

instance (minutes : MeetingMinutes) : Decidable (Frozen minutes) := inferInstanceAs (Decidable (_ ∨ _))

def FrozenKept (s s' : MinutesDb) : Prop :=
  ∀ id row, s.minutes.get? id = some row → Frozen row →
    ∃ row', s'.minutes.get? id = some row' ∧ row'.frozenPart = row.frozenPart

theorem frozenKept_refl (s : MinutesDb) : FrozenKept s s := fun _ row found _ => ⟨row, found, rfl⟩

theorem frozenKept_trans {s'' : MinutesDb} (first : FrozenKept s s') (second : FrozenKept s' s'') :
    FrozenKept s s'' := by
  intro id row found frozen
  obtain ⟨row', found', same⟩ := first id row found frozen
  have status : row'.status = row.status := congrArg FrozenPart.status same
  have frozen' : Frozen row' := by
    rw [Frozen, status]
    exact frozen
  obtain ⟨row'', found'', same'⟩ := second id row' found' frozen'
  exact ⟨row'', found'', same'.trans same⟩

/-- A rerun commits its save while the minutes are a draft. -/
def SavesDraft (s : MinutesDb) (_ : Nat) : MinutesCall → Prop
  | .persist _ _ (.committing id _ _) => ∀ row ∈ s.minutes.get? id, ¬ Frozen row
  | _ => True

instance decidableSavesDraft (s : MinutesDb) (now : Nat) (c : MinutesCall) :
    Decidable (SavesDraft s now c) :=
  match c with
  | .persist _ _ (.committing id _ _) =>
    inferInstanceAs (Decidable (∀ row ∈ s.minutes.get? id, ¬ Frozen row))
  | .persist _ _ .locking | .persist _ _ (.reading _) | .persist _ _ (.inserting _)
  | .persist _ _ (.saving _ _) | .persist _ _ (.updating _ _ _) | .locking _ _ _ | .writing _ _ _ _
  | .meeting _ _ => inferInstanceAs (Decidable True)

/-- Nobody has changed the number of the version since a rerun has read it. -/
def VersionUnchanged (s : MinutesDb) : MinutesCall → Prop
  | .persist _ _ (.committing id existing stored) => stored.versionNo = existing.versionNo ∧
      ∀ row ∈ s.minutes.get? id, row.versionNo = existing.versionNo
  | _ => True

theorem frozenKept_iff : FrozenKept s (c.access now s).1 ↔
    ∀ id row, s.minutes.get? id = some row → Frozen row → (c.after id row).frozenPart = row.frozenPart := by
  constructor
  · intro kept id row found frozen
    obtain ⟨row', found', same⟩ := kept id row found frozen
    rw [access_effect.get? found] at found'
    rw [Option.some.inj found']
    exact same
  · intro kept id row found frozen
    exact ⟨_, access_effect.get? found, kept id row found frozen⟩

theorem access_keeps_frozen (fits : LockFits s c) (draft : SavesDraft s now c) :
    FrozenKept s (c.access now s).1 := by
  rw [frozenKept_iff]
  intro k row found frozen
  cases c with
  | locking action id authUserId => rfl
  | meeting id change => rfl
  | writing action id read new =>
    rw [MinutesCall.after]
    split
    · -- The row is locked since it was read, and it was a draft then.
      rename_i same
      subst same
      obtain ⟨-, there, prepared⟩ := fits
      cases found.symm.trans there
      rw [Frozen, prepared.draft] at frozen
      rcases frozen with never | never
      · cases never
      · cases never
    · rfl
  | persist payload output stage =>
    cases stage with
    | locking => rfl
    | reading m => rfl
    | inserting m => rfl
    | saving id existing => rfl
    | updating id existing stored => rfl
    | committing id existing stored =>
      rw [MinutesCall.after]
      split
      · rename_i same
        subst same
        exact absurd frozen (draft row found)
      · rfl

theorem savesDraft_of_kept (kept : FrozenKept s (c.access now s).1) (unchanged : VersionUnchanged s c) :
    SavesDraft s now c := by
  rw [frozenKept_iff] at kept
  cases c with
  | locking action id authUserId => trivial
  | meeting id change => trivial
  | writing action id read new => trivial
  | persist payload output stage =>
    cases stage with
    | locking => trivial
    | reading m => trivial
    | inserting m => trivial
    | saving id existing => trivial
    | updating id existing stored => trivial
    | committing id existing stored =>
      intro row found frozen
      obtain ⟨loaded, version⟩ := unchanged
      have same := congrArg FrozenPart.versionNo (kept id row found frozen)
      simp only [MinutesCall.after, if_pos, MeetingMinutes.frozenPart, saveEntity, overwrite, loaded,
        version row found] at same
      rw [savedColumn_changed (Nat.succ_ne_self _)] at same
      exact Nat.succ_ne_self _ same

end Frozen

section Runs
variable {store : MinutesStore} {mediaFiles : Table MediaFile} {transcriptMeetings : Nat → Option Nat}

/-- The transactions may come in any order and number, on any minutes. -/
theorem frozen_minutes_kept {p : Pool MinutesDb MinutesCall}
    {moves : List (Move (Pool MinutesDb MinutesCall) (Turn MinutesRequest))}
    (run : Run (Step minutesCalls) (Pool.idle (store.start mediaFiles transcriptMeetings)) moves p) :
    (Heeds (Allows SavesDraft) moves →
      (visited (Pool.idle (store.start mediaFiles transcriptMeetings)) moves).Pairwise
        fun a b => FrozenKept a.shared b.shared) ∧
      ((visited (Pool.idle (store.start mediaFiles transcriptMeetings)) moves).Pairwise
          (fun a b => FrozenKept a.shared b.shared) →
        Heeds (Allows fun s now c => VersionUnchanged s c → SavesDraft s now c) moves) := by
  rw [shared_pairwise_iff frozenKept_refl frozenKept_trans run]
  constructor
  · refine heeds_under locks_keep trivial run ?_
    intro s now c _ fits draft
    exact access_keeps_frozen fits draft
  · refine heeds_under locks_keep trivial run ?_
    intro s now c _ _ kept unchanged
    exact savesDraft_of_kept kept unchanged

def generatedDraft : MeetingMinutes :=
  { weeklyMinutes with
    source := .ai
    status := .draft
    issuedBy := none
    issuedAt := none }

def draftStore : MinutesStore where
  meetings := Table.empty.insert weeklyMeeting
  participants := [⟨0, 2, .attendee, .present, none, none⟩]
  minutes := Table.empty.insert generatedDraft
  shares := []
  effectiveRoles _ := ["EMPLOYEE"]

def draftDb : MinutesDb := draftStore.start Table.empty fun _ => none

def secondOutput : AiMinutesOutput where
  summary := "Done again."
  keyPoints := []
  decisions := []
  actionItems := []
  risks := []
  openQuestions := []
  uncertainParts := []

def rerunRequest : MinutesRequest := .persistDraft ⟨0, 5, true, 1, "model"⟩ secondOutput

def turnsOf (i n : Nat) : List (Turn MinutesRequest) := List.replicate n (.act i 20)

def rerunThenIssue : List (Turn MinutesRequest) :=
  .enter 0 rerunRequest :: turnsOf 0 5 ++ .enter 1 (.draft .issue 0 1) :: turnsOf 1 2

theorem frozen_kept_after_rerun : ∃ moves p,
    Run (Step minutesCalls) (Pool.idle draftDb) moves p ∧
      (p.shared.minutes.get? 0).map (·.frozenPart) = some ⟨.published, "Done again.", some [], some [], 2⟩ ∧
      (visited (Pool.idle draftDb) moves).Pairwise fun a b => FrozenKept a.shared b.shared := by
  have follows : Follows minutesCalls SavesDraft (Pool.idle draftDb) rerunThenIssue := by decide +kernel
  obtain ⟨moves, run, heeds⟩ := follows_run follows
  exact ⟨moves, _, run, by decide +kernel, (frozen_minutes_kept run).1 heeds⟩

/-- The minutes are issued while the job is between its read and its save. -/
def issuedMeanwhile : List (Turn MinutesRequest) :=
  .enter 0 rerunRequest :: turnsOf 0 2 ++ .enter 1 (.draft .issue 0 1) :: turnsOf 1 2

def issuedPool : Pool MinutesDb MinutesCall := issuedMeanwhile.foldl (Pool.after minutesCalls) (Pool.idle draftDb)

theorem issued_minutes_overwritten : ∃ moves p,
    Run (Step minutesCalls) (Pool.idle draftDb) moves p ∧
      (p.shared.minutes.get? 0).map (·.frozenPart) = some ⟨.draft, "Done again.", some [], some [], 2⟩ ∧
      ¬ (visited (Pool.idle draftDb) moves).Pairwise fun a b => FrozenKept a.shared b.shared := by
  have first : Follows minutesCalls (fun _ _ _ => True) (Pool.idle draftDb) issuedMeanwhile := by
    decide +kernel
  have second : Follows minutesCalls (fun _ _ _ => True) issuedPool (turnsOf 0 3) := by decide +kernel
  obtain ⟨moves, to_issued, -⟩ := follows_run first
  obtain ⟨more, to_end, -⟩ := follows_run second
  refine ⟨moves ++ more, _, to_issued.append to_end, by decide +kernel, ?_⟩
  intro pairs
  have kept : ∀ m ∈ moves ++ more, FrozenKept m.before.shared m.after.shared :=
    (visited_pairwise_iff (R := fun a b => FrozenKept a.shared b.shared)
      (fun a => frozenKept_refl a.shared) frozenKept_trans (to_issued.append to_end)).mp pairs
  have over_save := visited_to_end (R := fun a b => FrozenKept a.shared b.shared)
    (fun a => frozenKept_refl a.shared) frozenKept_trans to_end
    (fun m there => kept m (List.mem_append.mpr (Or.inr there))) issuedPool List.mem_cons_self
  obtain ⟨row, found, same⟩ := over_save 0 { generatedDraft with
    status := .published
    issuedBy := some 1
    issuedAt := some 20 } (by decide +kernel) (Or.inl rfl)
  have draft : ((turnsOf 0 3).foldl (Pool.after minutesCalls) issuedPool).shared.minutes.get? 0 =
      some (saveEntity (overwrite ⟨0, 5, true, 1, "model"⟩ secondOutput generatedDraft)
        { generatedDraft with
          status := .published
          issuedBy := some 1
          issuedAt := some 20 }
        generatedDraft) := by decide +kernel
  cases found.symm.trans draft
  revert same
  decide +kernel

end Runs
end Minutes
