import MeetingPlatform.NoShow.Interleaving

/- Terminal cases that stay terminal, and answers that tell the truth about a release. -/
namespace NoShow
open KeyedTable Guards LabelledRuns
open MeetingBooking (ApiError)

def NoShowDetectionStatus.beyondRelease : NoShowDetectionStatus → Bool
  | .confirmed | .dismissed | .resolved => true
  | .risk | .warningSent | .snoozed | .released => false

def Settled (o o' : Office) : Prop :=
  ∀ id st, o.status id = some st → st.terminal = true → o'.status id = some st

/-- An answer that says `released` is given while the stored case is released. -/
def Truthful (o : Office) : Event → Prop
  | .work (.answering _ _ (.ok response)) =>
    response.detectionStatus = .released → o.status response.noShowCaseId = some .released
  | _ => True

/-- No late `update` gives a terminal case another status, and no answer comes from a
    release that found its case confirmed, dismissed or resolved. -/
def Careful (o : Office) : Event → Prop
  | .work (.updating id target _ _) => ∀ st, o.status id = some st → st.terminal = true →
      (target.map UpdateTarget.status).getD st = st
  | .work (.answering _ found (.ok _)) => ∀ st, found = some st → st.beyondRelease = false
  | _ => True

def Grounded (o : Office) (id : Nat) (found : Option NoShowDetectionStatus)
    (response : ManualReleaseResponse) : Prop :=
  response.noShowCaseId = id ∧ response.detectionStatus = .released ∧ ∃ st stored, found = some st ∧ o.status id = some stored ∧
    (st.beyondRelease = true → stored.beyondRelease = true) ∧
    (st.beyondRelease = false → stored = .released)

def Job.Sound (o : Office) : Job → Prop
  | .overriding id _ _ => ∃ st, o.status id = some st
  | .answering id found (.ok response) => Grounded o id found response
  | _ => True

def Attended (o : Office) : Prop := ∀ job ∈ o.jobs, job.Sound o

section Statuses
variable {cfg : NoShowConfig} {o o' : Office} {event : Event} {id : Nat}
  {st : NoShowDetectionStatus}

theorem target_beyond (target : Option UpdateTarget) (beyond : st.beyondRelease = true) :
    ((target.map UpdateTarget.status).getD st).beyondRelease = true := by
  cases target with
  | none => exact beyond
  | some t => cases t <;> rfl

theorem Change.status_cases {c c' : NoShowCase} (change : Change cfg o o' id c event c') :
    (c.detectionStatus.beyondRelease = true → c'.detectionStatus.beyondRelease = true) ∧
    (c.detectionStatus.terminal = true → c'.detectionStatus = c.detectionStatus ∨
      ∃ target dto userId, event = .work (.updating id target dto userId) ∧
        c'.detectionStatus = (target.map UpdateTarget.status).getD c.detectionStatus) := by
  cases change with
  | kept => exact ⟨fun beyond => beyond, fun _ => Or.inl rfl⟩
  | reconciled unsettled =>
    refine ⟨fun _ => rfl, fun final => ?_⟩
    cases here : c.detectionStatus <;>
      simp [here, NoShow.unsettled, NoShowDetectionStatus.terminal] at unsettled final
  | warned rest risk =>
    simp [risk, NoShowDetectionStatus.terminal, NoShowDetectionStatus.beyondRelease]
  | putOff userId note source logged =>
    cases here : c.detectionStatus <;>
      simp [here, snoozeSources, NoShowDetectionStatus.terminal,
        NoShowDetectionStatus.beyondRelease] at source ⊢
  | updated target dto userId =>
    exact ⟨target_beyond target, fun _ => Or.inr ⟨target, dto, userId, rfl, rfl⟩⟩
  | letGo _ p source =>
    rcases p with ⟨_, _, _, mode⟩
    cases mode <;> cases here : c.detectionStatus <;>
      simp [here, ReleaseMode.validSources, NoShowDetectionStatus.terminal,
        NoShowDetectionStatus.beyondRelease] at source ⊢

theorem status_of_step (step : Step cfg o event o') (here : o.status id = some st) :
    ∃ st', o'.status id = some st' ∧ (st.beyondRelease = true → st'.beyondRelease = true) ∧
      (st.terminal = true → st' = st ∨
        ∃ target dto userId, event = .work (.updating id target dto userId) ∧
          st' = (target.map UpdateTarget.status).getD st) := by
  obtain ⟨c, row, rfl⟩ := Option.map_eq_some_iff.mp here
  obtain ⟨c', row', change⟩ := change_of_step step row
  exact ⟨c'.detectionStatus, by rw [Office.status, row', Option.map_some], change.status_cases⟩

theorem settled_of_careful (step : Step cfg o event o') (careful : Careful o event) :
    Settled o o' := by
  intro id st here final
  obtain ⟨st', there, -, same⟩ := status_of_step step here
  rcases same final with rfl | ⟨target, dto, userId, rfl, rfl⟩
  · exact there
  · rw [there, careful st here final]

theorem updating_writes {target : Option UpdateTarget} {dto : UpdateNoShowDto}
    {userId : Option Nat} (step : Step cfg o (.work (.updating id target dto userId)) o')
    (here : o.status id = some st) :
    o'.status id = some ((target.map UpdateTarget.status).getD st) := by
  cases step
  obtain ⟨c, row, rfl⟩ := Option.map_eq_some_iff.mp here
  simp [Office.status, Office.absorb, Job.run, updateCase, get?_update, row, NoShowCase.updated]

theorem Grounded.kept {found : Option NoShowDetectionStatus} {response : ManualReleaseResponse}
    (grounded : Grounded o id found response) (step : Step cfg o event o')
    (careful : Careful o event) : Grounded o' id found response := by
  obtain ⟨named, told, st, stored, seen, here, beyond, released⟩ := grounded
  obtain ⟨stored', there, stays, -⟩ := status_of_step step here
  refine ⟨named, told, st, stored', seen, there, fun h => stays (beyond h), ?_⟩
  intro inside
  have final := settled_of_careful step careful id stored here (by rw [released inside]; rfl)
  rw [released inside, there] at final
  exact Option.some.inj final

theorem release_grounded {reason : String} {adminId : Option Nat}
    {response : ManualReleaseResponse} (here : o.status id = some st)
    (answered : manualReleaseResponse id (release ⟨id, adminId, reason, .manual⟩ o.now o.store).1 =
      .ok response) (after : o'.store = (release ⟨id, adminId, reason, .manual⟩ o.now o.store).2) :
    Grounded o' id (o.status id) response := by
  obtain ⟨c, row, rfl⟩ := Option.map_eq_some_iff.mp here
  rcases release_cases ⟨id, adminId, reason, .manual⟩ o.now o.store with
    ⟨unmatched, same⟩ | ⟨_, -, -, same⟩ | ⟨d, b, matched, -, done⟩
  · rw [same] at answered after
    cases answered
    have kept : o'.status id = some c.detectionStatus := by
      simpa [Office.status, after] using here
    have out : c.detectionStatus ∉ ReleaseMode.manual.validSources := by
      intro source
      have : o.store.releasable ⟨id, adminId, reason, .manual⟩ = some c :=
        releasable_eq_some.mpr ⟨row, source⟩
      rw [unmatched] at this
      cases this
    refine ⟨rfl, rfl, _, _, here, kept, fun h => h, ?_⟩
    cases st : c.detectionStatus <;>
      simp [st, ReleaseMode.validSources, NoShowDetectionStatus.beyondRelease] at out ⊢
  · rw [same] at answered
    cases answered
  · rw [done] at answered after
    cases answered
    obtain ⟨there, source⟩ := releasable_eq_some.mp matched
    obtain rfl := Option.some.inj (row.symm.trans there)
    have let_go : o'.status id = some .released := by
      simp [Office.status, after, Store.letGo, get?_update, row, NoShowCase.letGo]
    refine ⟨rfl, rfl, _, _, here, let_go, ?_, fun _ => rfl⟩
    intro beyond
    cases st : c.detectionStatus <;>
      simp [st, ReleaseMode.validSources, NoShowDetectionStatus.beyondRelease] at source beyond

theorem checkManualRelease_ok {s : Store} {answer : Option ManualReleaseResponse} :
    checkManualRelease id s = .ok answer ↔ ∃ c, s.cases.get? id = some c ∧
      if c.detectionStatus = .released then some ⟨id, .released, false⟩ = answer
      else (c.detectionStatus ≠ .dismissed ∧ c.detectionStatus ≠ .resolved) ∧ none = answer := by
  simp only [checkManualRelease, bind_eq_ok, expect_eq_ok]
  apply exists_congr
  intro c
  apply and_congr_right
  intro _
  split
  · exact pure_eq_ok
  · simp only [bind_eq_ok, require_eq_ok, pure_eq_ok, exists_const]

theorem Job.Sound.kept {job : Job} (sound : job.Sound o) (step : Step cfg o event o')
    (careful : Careful o event) : job.Sound o' := by
  unfold Job.Sound at sound ⊢
  split
  · obtain ⟨st, here⟩ := sound
    obtain ⟨st', there, -⟩ := status_of_step step here
    exact ⟨st', there⟩
  · exact Grounded.kept sound step careful
  · trivial

theorem opened_sound {call : Call} {job : Job} (opens : Opens cfg o call job) : job.Sound o := by
  cases opens with
  | warning | releasing | snoozing | updating => trivial
  | answering id reason adminId response checked =>
    obtain ⟨c, row, answered⟩ := checkManualRelease_ok.mp checked
    split at answered
    · rename_i released
      cases answered
      have here : o.status id = some .released := by
        rw [Office.status, row, Option.map_some, released]
      exact ⟨rfl, rfl, _, _, here, here, fun h => h, fun _ => rfl⟩
    · cases answered.2
  | overriding id reason adminId checked =>
    obtain ⟨c, row, -⟩ := checkManualRelease_ok.mp checked
    exact ⟨c.detectionStatus, by rw [Office.status, row, Option.map_some]⟩

theorem going_on_sound {before job : Job} (sound : before.Sound o)
    (after : o'.store = (before.run cfg o).store) (goes_on : GoesOn cfg o before job) :
    job.Sound o' := by
  cases goes_on with
  | warning | releasing | rereading => trivial
  | answering id reason adminId =>
    obtain ⟨st, here⟩ := sound
    cases answered : manualReleaseResponse id
        (release ⟨id, adminId, reason, .manual⟩ o.now o.store).1 with
    | error e => trivial
    | ok response => exact release_grounded here answered after

theorem step_attended (attended : Attended o) (step : Step cfg o event o')
    (careful : Careful o event) : Attended o' := by
  intro job waits
  rcases job_of_step step waits with old | ⟨call, rfl, opens⟩ | ⟨before, rfl, old, goes_on⟩
  · exact (attended job old).kept step careful
  · exact (opened_sound opens).kept step careful
  · cases step
    exact going_on_sound (attended before old) rfl goes_on

theorem step_careful_iff (attended : Attended o) (step : Step cfg o event o') :
    Settled o o' ∧ Truthful o event ↔ Careful o event := by
  constructor
  · intro good
    obtain ⟨settled, truthful⟩ := good
    unfold Careful
    split
    · intro st here final
      have there := updating_writes step here
      rw [settled _ st here final] at there
      exact (Option.some.inj there).symm
    · obtain ⟨named, told, st, stored, rfl, here, beyond, -⟩ := attended _ (working_waits step)
      have released := truthful told
      rw [named, here, Option.some.injEq] at released
      intro st' seen
      rw [← Option.some.inj seen, Bool.eq_false_iff]
      intro inside
      have stays := beyond inside
      rw [released] at stays
      cases stays
    · trivial
  · intro careful
    refine ⟨settled_of_careful step careful, ?_⟩
    unfold Truthful
    split
    · intro _
      obtain ⟨named, -, st, stored, seen, here, -, released⟩ := attended _ (working_waits step)
      rw [named, here, released (careful st seen)]
    · trivial

end Statuses

/-- Terminal cases stay as they are and answers are truthful in exactly those runs. -/
theorem no_show_cases_settle_iff (cfg : NoShowConfig) {start finish : Office}
    {moves : List (Move Office Event)} (run : Run (Step cfg) start moves finish)
    (idle : start.jobs = []) :
    (∀ m ∈ moves, Settled m.before m.after ∧ Truthful m.before m.label) ↔ Heeds Careful moves := by
  have attended : Attended start := by
    intro job waits
    rw [idle] at waits
    cases waits
  exact run_good_iff Attended (fun o event o' => Settled o o' ∧ Truthful o event) run attended
    step_attended step_careful_iff

def unconfigured : NoShowConfig := getValues (fun _ => none) (fun _ => none) none none

def oneBooking : Office :=
  ⟨⟨.empty, Table.empty.insert ⟨0, 0, 0, 3600000, .approved⟩, fun _ => none⟩, 0, [], [], []⟩

theorem released_case_settles : ∃ moves finish, Run (Step unconfigured) oneBooking moves finish ∧
    finish.status 0 = some .released ∧
    ((∀ m ∈ moves, Settled m.before m.after ∧ Truthful m.before m.label) ↔
      Heeds Careful moves) := by
  have idle : Run (Step unconfigured) oneBooking [] oneBooking := .nil
  have detected := idle.snoc (.create _ ⟨0, 0, 0, false⟩)
  have released := (detected.snoc (.call _ (.manualRelease 0 "empty" none))).snoc
    (.work _ _ [] [] rfl)
  have answered := released.snoc (.work _ _ [] [] rfl)
  exact ⟨_, _, answered, by rfl, no_show_cases_settle_iff _ answered rfl⟩

def administrator : Authz := ⟨fun _ => ["room.noshow.update"], fun _ => none⟩

/-- An `update` reads an open case, a release lets it go, and the late write reopens it.
    Without any race, a release that finds a confirmed case reports it as released. -/
theorem released_case_reopened :
    (∃ moves finish, Run (Step unconfigured) oneBooking moves finish ∧
      ¬ ∀ m ∈ moves, Settled m.before m.after) ∧
    ∃ moves finish, Run (Step unconfigured) oneBooking moves finish ∧
      ¬ ∀ m ∈ moves, Truthful m.before m.label := by
  have idle : Run (Step unconfigured) oneBooking [] oneBooking := .nil
  constructor
  · have detected := idle.snoc (.create _ ⟨0, 0, 0, false⟩)
    have read := (detected.snoc (.call _ (.update administrator 0 ⟨some "confirmed", none, none⟩
      (some 1)))).snoc (.call _ (.manualRelease 0 "empty" none))
    have released := read.snoc (.work _ _ [_] [] rfl)
    have reopened := released.snoc (.work _ _ [] [_] rfl)
    refine ⟨_, _, reopened, ?_⟩
    intro settled
    have still := settled _ (List.mem_append_right _ (List.mem_singleton_self _)) 0 .released
      rfl rfl
    revert still
    decide
  · have confirmed := idle.snoc (.create _ ⟨0, 0, 0, true⟩)
    have refused := (confirmed.snoc (.call _ (.manualRelease 0 "empty" none))).snoc
      (.work _ _ [] [] rfl)
    have answered := refused.snoc (.work _ _ [] [] rfl)
    refine ⟨_, _, answered, ?_⟩
    intro truthful
    have told := truthful _ (List.mem_append_right _ (List.mem_singleton_self _)) rfl
    revert told
    decide

end NoShow
