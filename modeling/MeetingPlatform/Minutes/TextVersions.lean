import MeetingPlatform.Minutes.IssuedMinutes

/- The version number of minutes is meant to say which text one has read. An edit checks it under the
   lock of the row, while a rerun of the AI job counts on from a number that it has read without. -/
namespace Minutes
open KeyedTable LabelledRuns CallPools EntitySaves

section Versions
variable {s s' : MinutesDb} {c d : MinutesCall} {id now : Nat} {row read existing stored : MeetingMinutes}

/-- No two commits on the same minutes have one number; what a writer had read is what was committed
    under the number it went by, and nothing was committed in between. -/
structure Identifies (history : List Commit) : Prop where
  distinct : history.Pairwise fun a b => a.minutesId = b.minutesId → a.versionNo ≠ b.versionNo
  applied : ∀ a ∈ history, ∀ seen ∈ a.seen,
    ∃ b ∈ history, b.minutesId = a.minutesId ∧ b.versionNo = seen.1 ∧ b.text = seen.2
  noticed : history.Pairwise fun a b => a.minutesId = b.minutesId → ∀ seen ∈ b.seen, a.versionNo ≤ seen.1
  next : ∀ a ∈ history, ∀ seen ∈ a.seen, a.versionNo = seen.1 + 1

/-- Where a rerun commits, the row has the version that it had read. -/
def SameVersion (s : MinutesDb) (_ : Nat) : MinutesCall → Prop
  | .persist _ _ (.committing id existing _) => ∀ row ∈ s.minutes.get? id, row.versionNo = existing.versionNo
  | _ => True

instance decidableSameVersion (s : MinutesDb) (now : Nat) (c : MinutesCall) :
    Decidable (SameVersion s now c) :=
  match c with
  | .persist _ _ (.committing id existing _) =>
    inferInstanceAs (Decidable (∀ row ∈ s.minutes.get? id, row.versionNo = existing.versionNo))
  | .persist _ _ .locking | .persist _ _ (.reading _) | .persist _ _ (.inserting _)
  | .persist _ _ (.saving _ _) | .persist _ _ (.updating _ _ _) | .locking _ _ _ | .writing _ _ _ _
  | .meeting _ _ => inferInstanceAs (Decidable True)

/-- Each row is the last text that was committed for it. -/
structure Recorded (s : MinutesDb) : Prop where
  identifies : Identifies s.history
  last : ∀ id row, s.minutes.get? id = some row →
    (∃ a ∈ s.history, a.minutesId = id ∧ a.versionNo = row.versionNo ∧ a.text = row.text) ∧
      ∀ a ∈ s.history, a.minutesId = id → a.versionNo ≤ row.versionNo
  known : ∀ a ∈ s.history, (s.minutes.get? a.minutesId).isSome = true

/-- A copy of the row that was read at some time: it is the row of now if they have one number, and
    every number since then has been committed. -/
def Seen (s : MinutesDb) (id : Nat) (copy : MeetingMinutes) : Prop :=
  ∃ row, s.minutes.get? id = some row ∧ copy.versionNo ≤ row.versionNo ∧
    (copy.versionNo = row.versionNo → copy.text = row.text) ∧
      ∀ v, copy.versionNo < v → v ≤ row.versionNo → ∃ a ∈ s.history, a.minutesId = id ∧ a.versionNo = v

def CopiesSeen (s : MinutesDb) : MinutesCall → Prop
  | .persist _ _ (.saving id existing) => Seen s id existing
  | .persist _ _ (.updating id existing stored) => Seen s id existing ∧ Seen s id stored
  | .persist _ _ (.committing id existing stored) => Seen s id existing ∧ Seen s id stored
  | _ => True

theorem seen_now (found : s.minutes.get? id = some row) : Seen s id row := by
  refine ⟨row, found, Nat.le_refl _, fun _ => rfl, ?_⟩
  intro v above below
  omega

theorem text_step (fits : LockFits s c) (copies : CopiesSeen s c) (same : SameVersion s now c)
    (found : s.minutes.get? id = some row) :
    ((c.after id row).versionNo = row.versionNo ∧ (c.after id row).text = row.text ∧
      ∀ a ∈ c.commits now s, a.minutesId ≠ id) ∨
    ((c.after id row).versionNo = row.versionNo + 1 ∧
      c.commits now s = [⟨id, some (row.versionNo, row.text), row.versionNo + 1, (c.after id row).text⟩]) := by
  by_cases held : c.holds = some id
  · obtain ⟨action, read, new, rfl⟩ | ⟨payload, output, existing, stored, rfl⟩ := holds_cases held
    · obtain ⟨-, there, prepared⟩ := fits
      cases found.symm.trans there
      have becomes : (MinutesCall.writing action id row new).after id row = new := if_pos rfl
      rw [becomes]
      by_cases updates : ∃ dto randomUUID, action = .update dto randomUUID
      · obtain ⟨dto, randomUUID, rfl⟩ := updates
        obtain ⟨version, next⟩ := prepared.known dto randomUUID rfl
        refine Or.inr ⟨next, ?_⟩
        rw [MinutesCall.commits, version, next]
      · have other : ∀ dto randomUUID, action ≠ .update dto randomUUID :=
          fun dto randomUUID is_update => updates ⟨dto, randomUUID, is_update⟩
        obtain ⟨version, text⟩ := prepared.same other
        refine Or.inl ⟨version, text, ?_⟩
        rw [commits_other other]
        exact List.forall_mem_nil _
    · have version : row.versionNo = existing.versionNo := same row found
      obtain ⟨⟨old, found', -, text, -⟩, ⟨old', found'', below, -, -⟩⟩ := copies
      cases found.symm.trans found'
      cases found.symm.trans found''
      have becomes : (MinutesCall.persist payload output (.committing id existing stored)).after id row =
          saveEntity (overwrite payload output existing) stored row := if_pos rfl
      have next : (saveEntity (overwrite payload output existing) stored row).versionNo =
          row.versionNo + 1 := by
        have differs : ¬ existing.versionNo + 1 = stored.versionNo := by omega
        exact (if_neg differs).trans (congrArg (· + 1) version.symm)
      rw [becomes]
      refine Or.inr ⟨next, ?_⟩
      simp only [MinutesCall.commits, found, next, version, text version.symm]
  · rw [after_other held]
    refine Or.inl ⟨rfl, rfl, ?_⟩
    intro a there own
    rcases commits_held there with holds | new
    · exact held (own ▸ holds)
    · have below : id < s.minutes.next := row_below s.minutes (get?_eq_some.mp found)
      omega

theorem identifies_append {history : List Commit} {newest : Commit} (identifies : Identifies history)
    (above : ∀ a ∈ history, a.minutesId = newest.minutesId → a.versionNo ≠ newest.versionNo ∧
      ∀ seen ∈ newest.seen, a.versionNo ≤ seen.1)
    (carries_on : ∀ seen ∈ newest.seen, newest.versionNo = seen.1 + 1 ∧
      ∃ b ∈ history, b.minutesId = newest.minutesId ∧ b.versionNo = seen.1 ∧ b.text = seen.2) :
    Identifies (history ++ [newest]) where
  distinct := by
    refine List.pairwise_append.mpr ⟨identifies.distinct, List.pairwise_singleton _ _, ?_⟩
    intro a there b last same
    rw [List.mem_singleton.mp last] at same ⊢
    exact (above a there same).1
  applied := by
    intro a there seen read
    rcases List.mem_append.mp there with old | last
    · obtain ⟨b, earlier, agrees⟩ := identifies.applied a old seen read
      exact ⟨b, List.mem_append_left _ earlier, agrees⟩
    · rw [List.mem_singleton.mp last] at read ⊢
      obtain ⟨-, b, earlier, agrees⟩ := carries_on seen read
      exact ⟨b, List.mem_append_left _ earlier, agrees⟩
  noticed := by
    refine List.pairwise_append.mpr ⟨identifies.noticed, List.pairwise_singleton _ _, ?_⟩
    intro a there b last same seen read
    rw [List.mem_singleton.mp last] at same read
    exact (above a there same).2 seen read
  next := by
    intro a there seen read
    rcases List.mem_append.mp there with old | last
    · exact identifies.next a old seen read
    · rw [List.mem_singleton.mp last] at read ⊢
      exact (carries_on seen read).1

theorem last_kept (recorded : Recorded s) (effect : Effect now s c s') (fits : LockFits s c)
    (copies : CopiesSeen s c) (same : SameVersion s now c) (found : s.minutes.get? id = some row) :
    (∃ a ∈ s'.history, a.minutesId = id ∧ a.versionNo = (c.after id row).versionNo ∧
      a.text = (c.after id row).text) ∧
      ∀ a ∈ s'.history, a.minutesId = id → a.versionNo ≤ (c.after id row).versionNo := by
  obtain ⟨⟨a, there, own, version, text⟩, highest⟩ := recorded.last id row found
  rw [effect.history]
  rcases text_step fits copies same found with ⟨version', text', others⟩ | ⟨next, commits⟩
  · rw [version', text']
    refine ⟨⟨a, List.mem_append_left _ there, own, version, text⟩, ?_⟩
    intro b there' own'
    rcases List.mem_append.mp there' with old | new
    · exact highest b old own'
    · exact absurd own' (others b new)
  · rw [commits, next]
    refine ⟨⟨_, List.mem_append_right _ (List.mem_singleton.mpr rfl), rfl, rfl, rfl⟩, ?_⟩
    intro b there' own'
    rcases List.mem_append.mp there' with old | new
    · exact Nat.le_succ_of_le (highest b old own')
    · rw [List.mem_singleton.mp new]

theorem commits_cases (fits : LockFits s c) : c.commits now s = [] ∨
    (∃ a row, c.commits now s = [a] ∧ s.minutes.get? a.minutesId = some row) ∨
    ∃ payload output m, c = .persist payload output (.inserting m) ∧ findExisting s payload = none := by
  cases c with
  | locking action k authUserId => exact Or.inl rfl
  | meeting k change => exact Or.inl rfl
  | writing action k read new =>
    cases action with
    | update dto randomUUID => exact Or.inr (Or.inl ⟨_, read, rfl, fits.2.1⟩)
    | toggle enabled => exact Or.inl rfl
    | link dto => exact Or.inl rfl
    | delete => exact Or.inl rfl
    | issue => exact Or.inl rfl
  | persist payload output stage =>
    cases stage with
    | locking => exact Or.inl rfl
    | reading m => exact Or.inl rfl
    | saving k existing => exact Or.inl rfl
    | updating k existing stored => exact Or.inl rfl
    | inserting m =>
      by_cases nothing : findExisting s payload = none
      · exact Or.inr (Or.inr ⟨payload, output, m, rfl, nothing⟩)
      · exact Or.inl (if_pos (Option.isSome_iff_ne_none.mpr nothing))
    | committing k existing stored =>
      obtain ⟨row, found⟩ := Option.isSome_iff_exists.mp fits.2.1
      have commits : (MinutesCall.persist payload output (.committing k existing stored)).commits now s =
          [⟨k, some (existing.versionNo, existing.text),
            (saveEntity (overwrite payload output existing) stored row).versionNo,
            (saveEntity (overwrite payload output existing) stored row).text⟩] := by
        simp only [MinutesCall.commits, found]
      exact Or.inr (Or.inl ⟨_, row, commits, found⟩)

section Inserted
variable {payload : AiDraftJobPayload} {output : AiMinutesOutput} {m : Meeting}

theorem commits_inserted (nothing : findExisting s payload = none) :
    (MinutesCall.persist payload output (.inserting m)).commits now s =
      [⟨s.minutes.next, none, 1, (createDraft payload output m now).text⟩] := by
  simp only [MinutesCall.commits, nothing, Option.isSome_none, Bool.false_eq_true, if_false]

theorem inserted_row (effect : Effect now s (.persist payload output (.inserting m)) s')
    (nothing : findExisting s payload = none) :
    s'.minutes.get? s.minutes.next = some (createDraft payload output m now) := by
  cases effect with
  | quiet plain silent rows history locks =>
    rw [commits_inserted nothing] at silent
    cases silent
  | inserting =>
    simp only [MinutesDb.releaseMeeting, MinutesDb.insertDraft, nothing, Option.isSome_none,
      Bool.false_eq_true, if_false]
    rw [get?_insert, if_pos rfl]

end Inserted

theorem next_unused (recorded : Recorded s) : ∀ a ∈ s.history, a.minutesId ≠ s.minutes.next := by
  intro a there own
  obtain ⟨row, found⟩ := Option.isSome_iff_exists.mp (recorded.known a there)
  have below := row_below _ (get?_eq_some.mp found)
  omega

theorem identifies_kept (recorded : Recorded s) (effect : Effect now s c s') (fits : LockFits s c)
    (copies : CopiesSeen s c) (same : SameVersion s now c) : Identifies s'.history := by
  rw [effect.history]
  rcases commits_cases fits with nothing | ⟨a, row, commits, found⟩ | ⟨payload, output, m, rfl, nothing⟩
  · rw [nothing, List.append_nil]
    exact recorded.identifies
  · have last := recorded.last a.minutesId row found
    rcases text_step fits copies same found with ⟨-, -, others⟩ | ⟨-, commits'⟩
    · refine absurd rfl (others a ?_)
      rw [commits]
      exact List.mem_singleton.mpr rfl
    · rw [commits']
      refine identifies_append recorded.identifies ?_ ?_
      · intro b there own
        have below := last.2 b there own
        refine ⟨Nat.ne_of_lt (Nat.lt_succ_of_le below), ?_⟩
        rintro _ ⟨⟩
        exact below
      · rintro _ ⟨⟩
        exact ⟨rfl, last.1⟩
  · rw [commits_inserted nothing]
    refine identifies_append recorded.identifies ?_ nofun
    intro b there own
    exact absurd own (next_unused recorded b there)

theorem recorded_kept (recorded : Recorded s) (effect : Effect now s c s') (fits : LockFits s c)
    (copies : CopiesSeen s c) (same : SameVersion s now c) : Recorded s' where
  identifies := identifies_kept recorded effect fits copies same
  last := by
    intro id row' found'
    cases found : s.minutes.get? id with
    | some row =>
      cases (effect.get? found).symm.trans found'
      exact last_kept recorded effect fits copies same found
    | none =>
      obtain ⟨payload, output, m, rfl, nothing, rfl, rfl⟩ := effect.new_row found found'
      rw [effect.history, commits_inserted nothing]
      refine ⟨⟨_, List.mem_append_right _ (List.mem_singleton.mpr rfl), rfl, rfl, rfl⟩, ?_⟩
      intro a there own
      rcases List.mem_append.mp there with old | new
      · exact absurd own (next_unused recorded a old)
      · rw [List.mem_singleton.mp new]
        exact Nat.le_refl 1
  known := by
    intro a there
    rw [effect.history] at there
    rcases List.mem_append.mp there with old | new
    · exact effect.present (recorded.known a old)
    · rcases commits_cases fits with nothing | ⟨b, row, commits, found⟩ | ⟨payload, output, m, rfl, nothing⟩
      · rw [nothing] at new
        cases new
      · rw [commits] at new
        rw [List.mem_singleton.mp new, effect.get? found]
        rfl
      · rw [commits_inserted nothing] at new
        rw [List.mem_singleton.mp new, inserted_row effect nothing]
        rfl

theorem seen_kept {copy : MeetingMinutes} (seen : Seen s id copy) (effect : Effect now s c s')
    (fits : LockFits s c) (copies : CopiesSeen s c) (same : SameVersion s now c) : Seen s' id copy := by
  obtain ⟨row, found, below, text, all⟩ := seen
  have grown : ∀ a ∈ s.history, a ∈ s'.history := by
    intro a there
    rw [effect.history]
    exact List.mem_append_left _ there
  refine ⟨c.after id row, effect.get? found, ?_⟩
  rcases text_step fits copies same found with ⟨version', text', -⟩ | ⟨next, commits⟩
  · rw [version', text']
    refine ⟨below, text, ?_⟩
    intro v above upto
    obtain ⟨a, there, committed⟩ := all v above upto
    exact ⟨a, grown a there, committed⟩
  · rw [next]
    refine ⟨Nat.le_succ_of_le below, fun never => absurd below (by omega), ?_⟩
    intro v above upto
    rcases Nat.lt_or_ge row.versionNo v with newest | old
    · have last : v = row.versionNo + 1 := Nat.le_antisymm upto newest
      subst last
      refine ⟨⟨id, some (row.versionNo, row.text), row.versionNo + 1, (c.after id row).text⟩, ?_, rfl, rfl⟩
      rw [effect.history, commits]
      exact List.mem_append_right _ (List.mem_singleton.mpr rfl)
    · obtain ⟨a, there, committed⟩ := all v above old
      exact ⟨a, grown a there, committed⟩

theorem copies_kept (copies' : CopiesSeen s d) (effect : Effect now s c s') (fits : LockFits s c)
    (copies : CopiesSeen s c) (same : SameVersion s now c) : CopiesSeen s' d := by
  cases d with
  | locking action k authUserId => trivial
  | meeting k change => trivial
  | writing action k read new => trivial
  | persist payload output stage =>
    cases stage with
    | locking => trivial
    | reading m => trivial
    | inserting m => trivial
    | saving k existing => exact seen_kept copies' effect fits copies same
    | updating k existing stored =>
      exact ⟨seen_kept copies'.1 effect fits copies same, seen_kept copies'.2 effect fits copies same⟩
    | committing k existing stored =>
      exact ⟨seen_kept copies'.1 effect fits copies same, seen_kept copies'.2 effect fits copies same⟩

theorem Next.copies {c' : MinutesCall} (next : Next now s c s' c') (copies : CopiesSeen s c) :
    CopiesSeen s' c' := by
  cases next with
  | waiting => exact copies
  | locked free found prepared => trivial
  | reading rows => trivial
  | inserting => trivial
  | saving found draft => exact seen_now found
  | updating found => exact ⟨copies, seen_now found⟩
  | committing free => exact copies

theorem versions_keep : Keeps minutesCalls Recorded (fun s c => LockFits s c ∧ CopiesSeen s c) LockApart
    SameVersion := by
  have locks : Keeps minutesCalls (fun _ => True) LockFits LockApart SameVersion := locks_keep
  constructor
  · exact locks.symm
  · intro s r _ admitted
    refine ⟨locks.enters s r trivial admitted, ?_⟩
    cases r with
    | draft action id authUserId => trivial
    | persistDraft payload output => trivial
    | meeting id change => trivial
  · intro s r d _ admitted fits
    exact locks.alone s r d trivial admitted fits.1
  · intro s now c recorded fits _ same
    exact recorded_kept recorded access_effect fits.1 fits.2 same
  · intro s now c c' _ fits order same goes_on
    exact ⟨locks.next s now c c' trivial fits.1 order same goes_on, (access_next goes_on).copies fits.2⟩
  · intro s now c d _ fits other apart order same
    exact ⟨locks.others s now c d trivial fits.1 other.1 apart order same,
      copies_kept other.2 access_effect fits.1 fits.2 same⟩
  · intro s now c c' d _ fits other apart order same goes_on
    exact locks.still_apart s now c c' d trivial fits.1 other.1 apart order same goes_on

theorem identifies_iff (recorded : Recorded s) (fits : LockFits s c) (copies : CopiesSeen s c) :
    Identifies (c.access now s).1.history ↔ SameVersion s now c := by
  constructor
  · intro identifies
    rw [access_effect.history] at identifies
    have fresh := (List.pairwise_append.mp identifies.distinct).2.2
    cases c with
    | locking action k authUserId => trivial
    | meeting k change => trivial
    | writing action k read new => trivial
    | persist payload output stage =>
      cases stage with
      | locking => trivial
      | reading m => trivial
      | inserting m => trivial
      | saving k existing => trivial
      | updating k existing stored => trivial
      | committing k existing stored =>
        intro row found
        simp only [MinutesCall.commits, Option.mem_def.mp found] at fresh
        obtain ⟨old, there, below, -, taken⟩ := copies.1
        cases there.symm.trans found
        by_contra moved
        have version : (saveEntity (overwrite payload output existing) stored row).versionNo =
            savedColumn (existing.versionNo + 1) stored.versionNo row.versionNo := rfl
        have within : existing.versionNo < (saveEntity (overwrite payload output existing) stored row).versionNo ∧
            (saveEntity (overwrite payload output existing) stored row).versionNo ≤ row.versionNo := by
          rw [version]
          rcases savedColumn_cases (existing.versionNo + 1) stored.versionNo row.versionNo with kept | written
          · omega
          · omega
        obtain ⟨a, committed, own, number⟩ := taken _ within.1 within.2
        exact fresh a committed _ (List.mem_singleton.mpr rfl) own number
  · intro same
    exact identifies_kept recorded access_effect fits copies same

end Versions

section Runs
variable {store : MinutesStore} {mediaFiles : Table MediaFile} {transcriptMeetings : Nat → Option Nat}

theorem recorded_start : Recorded (store.start mediaFiles transcriptMeetings) where
  identifies := by
    have unread : ∀ a ∈ (store.start mediaFiles transcriptMeetings).history, a.seen = none := by
      intro a there
      obtain ⟨r, -, rfl⟩ := List.mem_map.mp there
      rfl
    have apart : (store.start mediaFiles transcriptMeetings).history.Pairwise
        fun a b => a.minutesId ≠ b.minutesId := by
      have keys := List.pairwise_map.mp store.minutes.increasing
      exact List.pairwise_map.mpr (keys.imp Nat.ne_of_lt)
    constructor
    · exact apart.imp fun other same => absurd same other
    · intro a there seen read
      rw [unread a there] at read
      cases read
    · exact apart.imp fun other same => absurd same other
    · intro a there seen read
      rw [unread a there] at read
      cases read
  last := by
    intro id row found
    have there := get?_eq_some.mp found
    refine ⟨⟨_, List.mem_map.mpr ⟨(id, row), there, rfl⟩, rfl, rfl, rfl⟩, ?_⟩
    intro a committed own
    obtain ⟨r, stored, rfl⟩ := List.mem_map.mp committed
    subst own
    rw [key_unique _ there stored]
  known := by
    intro a there
    obtain ⟨r, stored, rfl⟩ := List.mem_map.mp there
    exact Option.isSome_iff_exists.mpr ⟨r.2, get?_eq_some.mpr stored⟩

/-- The calls may come in any order and number, on any minutes. -/
theorem versions_identify_iff {p : Pool MinutesDb MinutesCall}
    {moves : List (Move (Pool MinutesDb MinutesCall) (Turn MinutesRequest))}
    (run : Run (Step minutesCalls) (Pool.idle (store.start mediaFiles transcriptMeetings)) moves p) :
    (∀ a ∈ visited (Pool.idle (store.start mediaFiles transcriptMeetings)) moves,
      Identifies a.shared.history) ↔ Heeds (Allows SameVersion) moves := by
  refine guarded_safe_iff (fun s => Identifies s.history) versions_keep ?_ (fun _ recorded =>
    recorded.identifies) recorded_start run
  intro s now c recorded fits _
  exact identifies_iff recorded fits.1 fits.2

def editRequest (versionNo : Nat) : MinutesRequest :=
  .draft (.update { versionNo := versionNo, minutesContent := some "Edited." } fun _ => "") 0 1

def rerunThenEdit : List (Turn MinutesRequest) :=
  .enter 0 rerunRequest :: turnsOf 0 5 ++ .enter 1 (editRequest 2) :: turnsOf 1 2

theorem versions_identify_in_turn : ∃ moves p,
    Run (Step minutesCalls) (Pool.idle draftDb) moves p ∧
      (p.shared.history.map fun a => (a.versionNo, a.text.minutesContent)) =
        [(1, "Done."), (2, "Done again."), (3, "Edited.")] ∧
      ∀ a ∈ visited (Pool.idle draftDb) moves, Identifies a.shared.history := by
  have follows : Follows minutesCalls SameVersion (Pool.idle draftDb) rerunThenEdit := by decide +kernel
  obtain ⟨moves, run, heeds⟩ := follows_run follows
  exact ⟨moves, _, run, by decide +kernel, (versions_identify_iff run).mpr heeds⟩

def editedMeanwhile : List (Turn MinutesRequest) :=
  .enter 0 rerunRequest :: turnsOf 0 2 ++ .enter 1 (editRequest 1) :: turnsOf 1 2 ++ turnsOf 0 3

theorem version_committed_twice : ∃ moves p,
    Run (Step minutesCalls) (Pool.idle draftDb) moves p ∧
      (p.shared.history.map fun a => (a.versionNo, a.text.minutesContent)) =
        [(1, "Done."), (2, "Edited."), (2, "Done again.")] ∧
      ¬ ∀ a ∈ visited (Pool.idle draftDb) moves, Identifies a.shared.history := by
  have follows : Follows minutesCalls (fun _ _ _ => True) (Pool.idle draftDb) editedMeanwhile := by
    decide +kernel
  obtain ⟨moves, run, -⟩ := follows_run follows
  refine ⟨moves, _, run, by decide +kernel, ?_⟩
  intro all
  have distinct := (all _ (end_visited run)).distinct
  revert distinct
  decide +kernel

end Runs
end Minutes
