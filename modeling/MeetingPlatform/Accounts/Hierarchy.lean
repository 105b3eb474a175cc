import MeetingPlatform.Accounts.Departments

/- The departments stay a forest, and an active department has no inactive parent. Re-parenting and
   reactivation look up at the parent, deactivation looks down at the children. -/
namespace Accounts
open KeyedTable MeetingBooking Guards ParentLinks LabelledRuns

section Answering

/-- The request that is being served is answered, with whatever answer. -/
def Answers {α : Type} (x : Except Failure α) : Prop := x ≠ .error .endless

theorem answers_bind {α β : Type} {x : Except Failure α} {f : α → Except Failure β}
    (first : Answers x) (later : ∀ a, Answers (f a)) : Answers (x >>= f) := by
  intro stuck
  rcases bind_eq_error.mp stuck with here | ⟨a, -, there⟩
  · exact first here
  · exact later a there

theorem answers_require {c : Prop} [Decidable c] {e : Failure} (refusal : e ≠ .endless) :
    Answers (require c e) := by
  intro stuck
  exact refusal (require_eq_error.mp stuck).2

theorem answers_expect {α : Type} {o : Option α} {e : Failure} (refusal : e ≠ .endless) :
    Answers (expect o e) := by
  intro stuck
  exact refusal (expect_eq_error.mp stuck).2

theorem answers_onSome {α : Type} {o : Option α} {check : α → Except Failure Unit}
    (each : ∀ a ∈ o, Answers (check a)) : Answers (onSome o check) := by
  cases o with
  | none =>
    intro stuck
    cases stuck
  | some a => exact each a rfl

theorem answers_pure {α : Type} {a : α} : Answers (pure a) := by
  intro stuck
  cases stuck

end Answering

section Walks
variable {orm : Orm} {s : DepartmentStore} {id k p fuel depth v : Nat}

structure Suitable (s : DepartmentStore) (p : Nat) : Prop where
  active : ∃ d, findDepartment s p = some d ∧ d.isActive = true
  shallow : climb (parentOf s) (maxDepth - 1) p = none

theorem depthFrom_ended (done : depthFrom orm s fuel k depth = .ok v) :
    depth ≤ v ∧ climb (parentOf s) (v - depth + 1) k = none := by
  induction fuel generalizing k depth with
  | zero => cases done
  | succ fuel ih =>
    rw [depthFrom] at done
    split at done
    · cases done
    cases link : parentOf s k with
    | none =>
      rw [← parentOf, link, Except.ok.injEq] at done
      exact ⟨Nat.le_of_eq done, climb_root link⟩
    | some p =>
      rw [← parentOf, link] at done
      obtain ⟨le, ended⟩ := ih done
      have further : v - depth = v - (depth + 1) + 1 := by omega
      refine ⟨by omega, ?_⟩
      rw [climb_link link, further]
      exact ended

theorem depthFrom_returns (ended : climb (parentOf s) fuel k = none) :
    Answers (depthFrom orm s fuel k depth) := by
  induction fuel generalizing k depth with
  | zero => cases ended
  | succ fuel ih =>
    rw [depthFrom]
    split
    · intro stuck
      cases stuck
    cases link : parentOf s k with
    | none =>
      rw [← parentOf, link]
      exact answers_pure
    | some p =>
      rw [climb_link link] at ended
      rw [← parentOf, link]
      exact ih ended

theorem no_cycle {cursor : Option Nat} (done : wouldCreateCycle orm s id fuel cursor = .ok false) :
    ∀ a ∈ cursor, ∀ n, climb (parentOf s) n a ≠ some id := by
  induction fuel generalizing cursor with
  | zero => cases done
  | succ fuel ih =>
    intro a here
    cases here
    rw [wouldCreateCycle] at done
    split at done
    · cases done
    · rename_i other
      split at done
      · cases done
      intro n reached
      cases n with
      | zero =>
        rw [climb_zero, Option.some.injEq] at reached
        exact other reached
      | succ n =>
        cases row : findDepartment s a with
        | none =>
          rw [climb_root (by rw [parentOf, row, Option.bind_none])] at reached
          cases reached
        | some dept =>
          rw [row] at done
          have link : parentOf s a = dept.parentDepartmentId := by rw [parentOf, row, Option.bind_some]
          rw [climb_succ, link] at reached
          obtain ⟨p, up, later⟩ := Option.bind_eq_some_iff.mp reached
          exact ih done p up n later

theorem cycle_check_returns (ended : climb (parentOf s) fuel k = none) :
    Answers (wouldCreateCycle orm s id (fuel + 1) (some k)) := by
  induction fuel generalizing k with
  | zero => cases ended
  | succ fuel ih =>
    rw [wouldCreateCycle]
    split
    · exact answers_pure
    · split
      · intro stuck
        cases stuck
      cases row : findDepartment s k with
      | none => exact answers_pure
      | some dept =>
        have link : parentOf s k = dept.parentDepartmentId := by rw [parentOf, row, Option.bind_some]
        cases up : dept.parentDepartmentId with
        | none =>
          simp only [up]
          exact answers_pure
        | some p =>
          rw [climb_link (link.trans up)] at ended
          simp only [up]
          exact ih ended

theorem checkDepth_ok {message : String} {u : Unit} (passed : checkDepth orm s p message = .ok u) :
    climb (parentOf s) (maxDepth - 1) p = none := by
  simp only [checkDepth, bind_eq_ok, require_eq_ok] at passed
  obtain ⟨depth, found, shallow⟩ := passed
  obtain ⟨le, ended⟩ := depthFrom_ended found
  exact climb_mono ended (by omega)

theorem checkParentActive_ok {message : String} {u : Unit}
    (passed : checkParentActive s p message = .ok u) :
    ∃ d, findDepartment s p = some d ∧ d.isActive = true := by
  simpa only [checkParentActive, bind_eq_ok, expect_eq_ok, require_eq_ok] using passed

end Walks

section Effects
variable {orm : Orm} {s t : DepartmentStore} {e : DepartmentEvent}

inductive Written (s : DepartmentStore) : DepartmentRequest → Table Department → Prop where
  | repeated (users : List User) (dto : CreateDepartmentDto) (creatorId : Nat)
      (idempotencyKey : Option String) :
      Written s (.create users dto creatorId idempotencyKey) s.departments
  | created (users : List User) (dto : CreateDepartmentDto) (creatorId : Nat)
      (idempotencyKey : Option String) (d : Department) (active : d.isActive = true) :
      Written s (.create users dto creatorId idempotencyKey) (s.departments.insert d)
  | updated (users : List User) (id : Nat) (dto : UpdateDepartmentDto) (d d' : Department)
      (found : findDepartment s id = some d) (active : d'.isActive = d.isActive)
      (kept : d'.deletedAt = none) :
      Written s (.update users id dto) (s.departments.save id d')
  | deactivated (users : List User) (id : Nat) (d : Department) (found : findDepartment s id = some d)
      (memberless : countActiveMembers users id = 0) :
      Written s (.deactivate users id)
        (s.departments.update id fun d => { d with isActive := false })
  | reactivated (id : Nat) (d : Department) (found : findDepartment s id = some d) :
      Written s (.reactivate id) (s.departments.update id fun d => { d with isActive := true })

/-- What an event can do to the table, with what its checks have established. -/
inductive Effect (orm : Orm) (s : DepartmentStore) (e : DepartmentEvent) : Table Department → Prop where
  | nothing (stays : moved orm s e = none) : Effect orm s e s.departments
  | created (d : Department) (stays : moved orm s e = none) (active : d.isActive = true)
      (kept : d.deletedAt = none) (parent : ∀ p ∈ d.parentDepartmentId, Suitable s p) :
      Effect orm s e (s.departments.insert d)
  | edited (id : Nat) (d d' : Department) (found : findDepartment s id = some d)
      (stays : moved orm s e = none) (active : d'.isActive = d.isActive)
      (kept : d'.deletedAt = d.deletedAt)
      (parent : d'.parentDepartmentId = d.parentDepartmentId ∨ d'.parentDepartmentId = none) :
      Effect orm s e (s.departments.save id d')
  | moved (id p : Nat) (d d' : Department) (found : findDepartment s id = some d)
      (moves : moved orm s e = some (id, p)) (active : d'.isActive = d.isActive)
      (kept : d'.deletedAt = d.deletedAt) (parent : d'.parentDepartmentId = some p)
      (suitable : Suitable s p) (apart : ∀ n, climb (parentOf s) n p ≠ some id) :
      Effect orm s e (s.departments.save id d')
  | deactivated (id : Nat) (d : Department) (found : findDepartment s id = some d)
      (stays : moved orm s e = none) (childless : activeChildren s id = []) :
      Effect orm s e (s.departments.update id fun d => { d with isActive := false })
  | reactivated (id : Nat) (d : Department) (found : findDepartment s id = some d)
      (stays : moved orm s e = none)
      (parent : ∀ p ∈ d.parentDepartmentId, ∀ q ∈ findDepartment s p, q.isActive = true) :
      Effect orm s e (s.departments.update id fun d => { d with isActive := true })

theorem newDepartment_ok {users : List User} {dto : CreateDepartmentDto} {d : Department}
    (done : newDepartment orm s users dto = .ok d) :
    d.isActive = true ∧ d.deletedAt = none ∧ ∀ p ∈ d.parentDepartmentId, Suitable s p := by
  simp only [newDepartment, bind_eq_ok, require_eq_ok, onSome_eq_ok, pure_eq_ok] at done
  obtain ⟨-, -, -, -, -, parent, -, -, rfl⟩ := done
  refine ⟨rfl, rfl, ?_⟩
  intro p asked
  obtain ⟨_, active, shallow⟩ := parent p asked
  exact ⟨checkParentActive_ok active, checkDepth_ok shallow⟩

theorem createDepartment_effect {users : List User} {dto : CreateDepartmentDto} {creatorId : Nat}
    {idempotencyKey : Option String} {r : DepartmentResponse}
    (done : createDepartment orm s users dto creatorId idempotencyKey = .ok (r, t)) :
    Effect orm s (.request (.create users dto creatorId idempotencyKey)) t.departments := by
  unfold createDepartment at done
  split at done
  · split at done
    · cases done
      exact .nothing rfl
    · cases done
  · simp only [bind_eq_ok, pure_eq_ok] at done
    obtain ⟨d, checked, same⟩ := done
    cases same
    obtain ⟨active, kept, parent⟩ := newDepartment_ok checked
    exact .created d rfl active kept parent

theorem newParent_ok {id : Nat} {dept : Department} {dto : UpdateDepartmentDto} {q : Option Nat}
    (done : newParent orm s id dept dto = .ok q) :
    (∀ p, dto.parentDepartmentId ≠ some (some p)) ∧ (q = dept.parentDepartmentId ∨ q = none) ∨
      ∃ p, dto.parentDepartmentId = some (some p) ∧ q = some p ∧ Suitable s p ∧
        ∀ n, climb (parentOf s) n p ≠ some id := by
  unfold newParent at done
  split at done
  · rename_i absent
    cases done
    exact Or.inl ⟨fun p sent => by simp [absent] at sent, Or.inl rfl⟩
  · rename_i absent
    cases done
    exact Or.inl ⟨fun p sent => by simp [absent] at sent, Or.inr rfl⟩
  · rename_i p sent
    simp only [bind_eq_ok, require_eq_ok, pure_eq_ok] at done
    obtain ⟨-, -, _, active, cycle, checked, -, rfl, _, shallow, rfl⟩ := done
    have suitable : Suitable s p := ⟨checkParentActive_ok active, checkDepth_ok shallow⟩
    exact Or.inr ⟨p, sent, rfl, suitable, no_cycle checked p rfl⟩

theorem edited_ok {users : List User} {id : Nat} {dto : UpdateDepartmentDto} {d d' : Department}
    (done : edited orm s users id dto = .ok (d, d')) :
    findDepartment s id = some d ∧ d'.isActive = d.isActive ∧ d'.deletedAt = d.deletedAt ∧
      newParent orm s id d dto = .ok d'.parentDepartmentId := by
  simp only [edited, bind_eq_ok, require_eq_ok, expect_eq_ok, pure_eq_ok] at done
  obtain ⟨-, -, dept, found, -, -, name, -, parent, checked, manager, -, same⟩ := done
  cases same
  exact ⟨found, rfl, rfl, checked⟩

theorem updateDepartment_effect {users : List User} {id : Nat} {dto : UpdateDepartmentDto}
    {r : DepartmentResponse} (done : updateDepartment orm s users id dto = .ok (r, t)) :
    Effect orm s (.request (.update users id dto)) t.departments := by
  have written := done
  simp only [updateDepartment, bind_eq_ok, pure_eq_ok] at written
  obtain ⟨⟨d, d'⟩, checked, same⟩ := written
  cases same
  obtain ⟨found, active, kept, parent⟩ := edited_ok checked
  rcases newParent_ok parent with ⟨absent, unmoved⟩ | ⟨p, sent, set, suitable, apart⟩
  · refine .edited id d d' found ?_ active kept unmoved
    rw [moved, movedBy.eq_def]
    split
    · rename_i p _ sent _
      exact absurd sent (absent p)
    · rfl
  · refine .moved id p d d' found ?_ active kept set suitable apart
    simp only [moved, movedBy, sent, done]

theorem deactivateDepartment_effect {users : List User} {id : Nat} {r : DepartmentResponse}
    (done : deactivateDepartment s users id = .ok (r, t)) :
    Effect orm s (.request (.deactivate users id)) t.departments := by
  simp only [deactivateDepartment, bind_eq_ok, require_eq_ok, expect_eq_ok, pure_eq_ok] at done
  obtain ⟨d, found, -, -, -, -, -, childless, -, -, same⟩ := done
  cases same
  exact .deactivated id d found rfl childless

theorem reactivateDepartment_effect {id : Nat} {r : DepartmentResponse}
    (done : reactivateDepartment s id = .ok (r, t)) :
    Effect orm s (.request (.reactivate id)) t.departments := by
  simp only [reactivateDepartment, bind_eq_ok, require_eq_ok, expect_eq_ok, onSome_eq_ok,
    pure_eq_ok] at done
  obtain ⟨d, found, -, -, -, parent, same⟩ := done
  cases same
  exact .reactivated id d found rfl parent

theorem serve_written {r : DepartmentRequest} {response : DepartmentResponse}
    (served : s.serve orm r = .ok (response, t)) : Written s r t.departments := by
  cases r with
  | create users dto creatorId idempotencyKey =>
    rw [DepartmentStore.serve, createDepartment] at served
    split at served
    · split at served
      · cases served
        exact .repeated users dto creatorId idempotencyKey
      · cases served
    · simp only [bind_eq_ok, pure_eq_ok] at served
      obtain ⟨d, checked, same⟩ := served
      cases same
      exact .created users dto creatorId idempotencyKey d (newDepartment_ok checked).1
  | update users id dto =>
    simp only [DepartmentStore.serve, updateDepartment, bind_eq_ok, pure_eq_ok] at served
    obtain ⟨⟨d, d'⟩, checked, same⟩ := served
    cases same
    obtain ⟨found, active, kept, -⟩ := edited_ok checked
    have visible : d.deletedAt = none := by
      simpa using (Option.filter_eq_some_iff.mp found).2
    exact .updated users id dto d d' found active (kept.trans visible)
  | deactivate users id =>
    simp only [DepartmentStore.serve, deactivateDepartment, bind_eq_ok, require_eq_ok, expect_eq_ok,
      pure_eq_ok] at served
    obtain ⟨d, found, -, -, -, -, -, -, -, memberless, same⟩ := served
    cases same
    exact .deactivated users id d found memberless
  | reactivate id =>
    simp only [DepartmentStore.serve, reactivateDepartment, bind_eq_ok, require_eq_ok, expect_eq_ok,
      onSome_eq_ok, pure_eq_ok] at served
    obtain ⟨d, found, -, -, -, -, same⟩ := served
    cases same
    exact .reactivated id d found

theorem step_effect (step : Step orm s e t) : Effect orm s e t.departments := by
  rw [Step.eq_def] at step
  cases e with
  | forget key =>
    subst step
    exact .nothing rfl
  | request r =>
    cases served : s.serve orm r with
    | error failure =>
      have same : t = s := by rw [step, DepartmentStore.next, served]
      subst same
      refine .nothing ?_
      cases r with
      | update users id dto =>
        have refused : updateDepartment orm t users id dto = .error failure := served
        rw [moved, movedBy, refused]
        split
        · rename_i accepted
          cases accepted
        · rfl
      | create users dto creatorId idempotencyKey => rfl
      | deactivate users id => rfl
      | reactivate id => rfl
    | ok done =>
      have same : t = done.2 := by rw [step, DepartmentStore.next, served]
      subst same
      cases r with
      | create users dto creatorId idempotencyKey => exact createDepartment_effect served
      | update users id dto => exact updateDepartment_effect served
      | deactivate users id => exact deactivateDepartment_effect served
      | reactivate id => exact reactivateDepartment_effect served

end Effects

section Links
variable {s : DepartmentStore} {id : Nat} {d : Department}

theorem findDepartment_some : findDepartment s id = some d ↔
    (id, d) ∈ s.departments.rows ∧ d.deletedAt = none := by
  rw [findDepartment, Option.filter_eq_some_iff, get?_eq_some, Option.isNone_iff_eq_none]

theorem parentOf_update {t : DepartmentStore} {f : Department → Department}
    (found : findDepartment s id = some d) (kept : (f d).deletedAt = none)
    (written : t.departments = s.departments.update id f) :
    parentOf t = Function.update (parentOf s) id (f d).parentDepartmentId := by
  funext k
  obtain ⟨row, -⟩ := findDepartment_some.mp found
  by_cases same : k = id
  · subst same
    rw [Function.update_self, parentOf, findDepartment, written, get?_update, if_pos rfl,
      get?_eq_some.mpr row, Option.map_some, Option.filter_some, kept]
    rfl
  · rw [Function.update_of_ne same, parentOf, findDepartment, written, get?_update, if_neg same]
    rfl

theorem parentOf_insert {t : DepartmentStore} (kept : d.deletedAt = none)
    (written : t.departments = s.departments.insert d) :
    parentOf t = Function.update (parentOf s) s.departments.next d.parentDepartmentId := by
  funext k
  by_cases same : k = s.departments.next
  · subst same
    rw [Function.update_self, parentOf, findDepartment, written, get?_insert, if_pos rfl,
      Option.filter_some, kept]
    rfl
  · rw [Function.update_of_ne same, parentOf, findDepartment, written, get?_insert, if_neg same]
    rfl

theorem root_of_unknown (unknown : findDepartment s id = none) : parentOf s id = none := by
  rw [parentOf, unknown, Option.bind_none]

end Links

section Invariant
variable {orm : Orm} {s t : DepartmentStore} {e : DepartmentEvent}

structure Hierarchy (s : DepartmentStore) : Prop where
  kept : ∀ r ∈ s.departments.rows, r.2.deletedAt = none
  linked : ∀ r ∈ s.departments.rows, ∀ p ∈ r.2.parentDepartmentId, ∃ d, findDepartment s p = some d
  forest : Forest (parentOf s)
  active : ∀ r ∈ s.departments.rows, r.2.isActive = true →
    ∀ p ∈ r.2.parentDepartmentId, ∀ d ∈ findDepartment s p, d.isActive = true

theorem Hierarchy.row (inv : Hierarchy s) {r : Nat × Department} (there : r ∈ s.departments.rows) :
    findDepartment s r.1 = some r.2 := findDepartment_some.mpr ⟨there, inv.kept r there⟩

theorem Hierarchy.known (inv : Hierarchy s) {k p : Nat} (link : parentOf s k = some p) :
    ∃ d, findDepartment s p = some d := by
  obtain ⟨d, found, up⟩ := Option.bind_eq_some_iff.mp link
  exact inv.linked (k, d) (findDepartment_some.mp found).1 p up

theorem Hierarchy.known_climb (inv : Hierarchy s) {k a n : Nat} {d : Department}
    (start : findDepartment s k = some d) (there : climb (parentOf s) n k = some a) :
    ∃ d, findDepartment s a = some d := by
  induction n generalizing k d with
  | zero =>
    rw [climb_zero, Option.some.injEq] at there
    exact ⟨d, there ▸ start⟩
  | succ n ih =>
    cases link : parentOf s k with
    | none =>
      rw [climb_root link] at there
      cases there
    | some p =>
      obtain ⟨d', found⟩ := inv.known link
      rw [climb_link link] at there
      exact ih found there

theorem Hierarchy.fresh (inv : Hierarchy s) {k n : Nat} {d : Department}
    (start : findDepartment s k = some d) :
    climb (parentOf s) n k ≠ some s.departments.next := by
  intro there
  obtain ⟨d', found⟩ := inv.known_climb start there
  exact Nat.lt_irrefl _ (row_below _ (findDepartment_some.mp found).1)

theorem hierarchy_empty : Hierarchy .empty where
  kept _ there := (mem_empty.mp there).elim
  linked _ there := (mem_empty.mp there).elim
  forest _ := ⟨1, rfl⟩
  active _ there := (mem_empty.mp there).elim

theorem mem_update_rows {f : Department → Department} {id : Nat} {d : Department}
    {r : Nat × Department} (found : findDepartment s id = some d)
    (there : r ∈ (s.departments.update id f).rows) :
    r = (id, f d) ∨ r ∈ s.departments.rows ∧ r.1 ≠ id := by
  obtain ⟨q, old, rfl⟩ := mem_updateWhere.mp there
  by_cases same : q.1 = id
  · have row : q = (id, d) := by
      obtain ⟨k, v⟩ := q
      cases same
      rw [key_unique _ old (findDepartment_some.mp found).1]
    rw [row, touch_of_true]
    · exact Or.inl rfl
    · exact decide_eq_true rfl
  · rw [touch_of_false]
    · exact Or.inr ⟨old, same⟩
    · exact decide_eq_false same

theorem findDepartment_update {f : Department → Department} {id k : Nat} {d : Department}
    (found : findDepartment s id = some d) (kept : (f d).deletedAt = none)
    (written : t.departments = s.departments.update id f) :
    findDepartment t k = if k = id then some (f d) else findDepartment s k := by
  rw [findDepartment, written, get?_update]
  split
  · rename_i same
    rw [same, get?_eq_some.mpr (findDepartment_some.mp found).1, Option.map_some,
      Option.filter_some, kept]
    rfl
  · rfl

theorem Hierarchy.update (inv : Hierarchy s) {f : Department → Department} {id : Nat}
    {d : Department} (found : findDepartment s id = some d)
    (written : t.departments = s.departments.update id f) (kept : (f d).deletedAt = none)
    (linked : ∀ p ∈ (f d).parentDepartmentId, ∃ q, findDepartment s p = some q)
    (forest : Forest (Function.update (parentOf s) id (f d).parentDepartmentId))
    (above : (f d).isActive = true → ∀ p ∈ (f d).parentDepartmentId,
      ∀ q ∈ findDepartment t p, q.isActive = true)
    (below : (f d).isActive = true ∨ d.isActive = false ∨ ∀ r ∈ s.departments.rows,
      r.2.isActive = true → r.2.parentDepartmentId ≠ some id) : Hierarchy t := by
  have after := fun k => findDepartment_update (k := k) found kept written
  have known : ∀ p, (∃ q, findDepartment s p = some q) → ∃ q, findDepartment t p = some q := by
    rintro p ⟨q, here⟩
    rw [after]
    split
    · exact ⟨f d, rfl⟩
    · exact ⟨q, here⟩
  constructor
  · intro r there
    rw [written] at there
    rcases mem_update_rows found there with rfl | ⟨old, -⟩
    · exact kept
    · exact inv.kept r old
  · intro r there p link
    rw [written] at there
    rcases mem_update_rows found there with rfl | ⟨old, -⟩
    · exact known p (linked p link)
    · exact known p (inv.linked r old p link)
  · rw [parentOf_update found kept written]
    exact forest
  · intro r there isActive p link q here
    rw [written] at there
    rcases mem_update_rows found there with rfl | ⟨old, -⟩
    · exact above isActive p link q here
    · rw [after] at here
      split at here
      · rename_i same
        subst same
        cases here
        rcases below with active | inactive | childless
        · exact active
        · rw [inv.active r old isActive p link d found] at inactive
          cases inactive
        · exact absurd link (childless r old isActive)
      · exact inv.active r old isActive p link q here

theorem Hierarchy.insert (inv : Hierarchy s) {d : Department}
    (written : t.departments = s.departments.insert d) (kept : d.deletedAt = none)
    (suitable : ∀ p ∈ d.parentDepartmentId, Suitable s p) : Hierarchy t := by
  have after : ∀ k q, findDepartment s k = some q → findDepartment t k = some q := by
    intro k q here
    obtain ⟨row, deleted⟩ := findDepartment_some.mp here
    rw [findDepartment_some, written, mem_insert]
    exact ⟨Or.inl row, deleted⟩
  have unique : ∀ k q q', findDepartment s k = some q → q' ∈ findDepartment t k → q' = q := by
    intro k q q' old new
    rw [Option.mem_def, after k q old] at new
    cases new
    rfl
  constructor
  · intro r there
    rw [written] at there
    rcases mem_insert.mp there with old | rfl
    · exact inv.kept r old
    · exact kept
  · intro r there p link
    rw [written] at there
    rcases mem_insert.mp there with old | rfl
    · obtain ⟨q, here⟩ := inv.linked r old p link
      exact ⟨q, after p q here⟩
    · obtain ⟨q, here, -⟩ := (suitable p link).active
      exact ⟨q, after p q here⟩
  · rw [parentOf_insert kept written]
    intro k
    apply ends_update (inv.forest k)
    intro p link
    obtain ⟨q, here, -⟩ := (suitable p link).active
    exact ⟨inv.forest p, fun i => inv.fresh here⟩
  · intro r there isActive p link q here
    rw [written] at there
    rcases mem_insert.mp there with old | rfl
    · obtain ⟨q', found⟩ := inv.linked r old p link
      rw [unique p q' q found here]
      exact inv.active r old isActive p link q' found
    · obtain ⟨q', found, active⟩ := (suitable p link).active
      rw [unique p q' q found here]
      exact active

theorem childless_of_none (inv : Hierarchy s) {id : Nat} (none_active : activeChildren s id = []) :
    ∀ r ∈ s.departments.rows, r.2.isActive = true → r.2.parentDepartmentId ≠ some id := by
  intro r there active child
  have listed : r.1 ∈ activeChildren s id := by
    apply List.mem_map_of_mem
    rw [mem_select]
    refine ⟨there, ?_⟩
    simp [live, inv.kept r there, child, active]
  rw [none_active] at listed
  cases listed

theorem active_updated {id p : Nat} {d q : Department} {f : Department → Department}
    (found : findDepartment s id = some d) (kept : (f d).deletedAt = none)
    (written : t.departments = s.departments.update id f) (active : (f d).isActive = d.isActive)
    (here : q ∈ findDepartment t p) :
    ∃ q', findDepartment s p = some q' ∧ q.isActive = q'.isActive := by
  rw [Option.mem_def, findDepartment_update found kept written] at here
  split at here
  · rename_i same
    cases here
    exact ⟨d, same ▸ found, active⟩
  · exact ⟨q, here, rfl⟩

theorem Hierarchy.same_links (inv : Hierarchy s) {id : Nat} {d : Department}
    (found : findDepartment s id = some d) :
    Forest (Function.update (parentOf s) id d.parentDepartmentId) := by
  have own : parentOf s id = d.parentDepartmentId := by rw [parentOf, found, Option.bind_some]
  rw [← own, Function.update_eq_self]
  exact inv.forest

theorem Hierarchy.unwritten (inv : Hierarchy s) (written : t.departments = s.departments) :
    Hierarchy t := by
  have find : ∀ k, findDepartment t k = findDepartment s k := fun k => by
    rw [findDepartment, written, ← findDepartment]
  have links : parentOf t = parentOf s := by
    funext k
    rw [parentOf, find, ← parentOf]
  constructor
  · rw [written]
    exact inv.kept
  · intro r there p link
    rw [written] at there
    rw [find]
    exact inv.linked r there p link
  · rw [links]
    exact inv.forest
  · intro r there isActive p link
    rw [written] at there
    rw [find]
    exact inv.active r there isActive p link

theorem still_active {d d' : Department} {Childless : Prop} (active : d'.isActive = d.isActive) :
    d'.isActive = true ∨ d.isActive = false ∨ Childless := by
  cases was : d.isActive with
  | true => exact Or.inl (active.trans was)
  | false => exact Or.inr (Or.inl rfl)

theorem Hierarchy.edited (inv : Hierarchy s) {id : Nat} {d d' : Department}
    (found : findDepartment s id = some d) (written : t.departments = s.departments.save id d')
    (active : d'.isActive = d.isActive) (kept : d'.deletedAt = none)
    (parent : d'.parentDepartmentId = d.parentDepartmentId ∨ d'.parentDepartmentId = none) :
    Hierarchy t := by
  have row := (findDepartment_some.mp found).1
  have from_old : ∀ p ∈ d'.parentDepartmentId, d.parentDepartmentId = some p := by
    intro p link
    rcases parent with same | root
    · rw [← same]
      exact link
    · rw [root] at link
      cases link
  refine inv.update found written kept (fun p link => inv.linked _ row p (from_old p link)) ?_ ?_
    (still_active active)
  · rcases parent with same | root
    · rw [same]
      exact inv.same_links found
    · rw [root]
      intro k
      exact ends_update (inv.forest k) fun p none_given => by cases none_given
  · intro isActive p link q here
    obtain ⟨q', old, agree⟩ := active_updated found kept written active here
    rw [agree]
    exact inv.active _ row (active ▸ isActive) p (from_old p link) q' old

theorem Hierarchy.moved (inv : Hierarchy s) {id p : Nat} {d d' : Department}
    (found : findDepartment s id = some d) (written : t.departments = s.departments.save id d')
    (active : d'.isActive = d.isActive) (kept : d'.deletedAt = none)
    (parent : d'.parentDepartmentId = some p) (suitable : Suitable s p)
    (apart : ∀ n, climb (parentOf s) n p ≠ some id) : Hierarchy t := by
  obtain ⟨above, there, isActive⟩ := suitable.active
  refine inv.update found written kept ?_ ?_ ?_ (still_active active)
  · intro q link
    rw [parent] at link
    cases link
    exact ⟨above, there⟩
  · rw [parent]
    intro k
    apply ends_update (inv.forest k)
    intro q link
    cases link
    exact ⟨inv.forest p, apart⟩
  · intro _ q link x here
    rw [parent] at link
    cases link
    obtain ⟨x', old, agree⟩ := active_updated found kept written active here
    rw [there] at old
    cases old
    exact agree.trans isActive

theorem Hierarchy.effect (inv : Hierarchy s) {table : Table Department} (effect : Effect orm s e table)
    (written : t.departments = table) : Hierarchy t := by
  cases effect with
  | nothing stays => exact inv.unwritten written
  | created d stays active kept parent => exact inv.insert written kept parent
  | edited id d d' found stays active kept parent =>
    have row := (findDepartment_some.mp found).1
    exact inv.edited found written active (kept.trans (inv.kept _ row)) parent
  | moved id p d d' found moves active kept parent suitable apart =>
    have row := (findDepartment_some.mp found).1
    exact inv.moved found written active (kept.trans (inv.kept _ row)) parent suitable apart
  | deactivated id d found stays childless =>
    have row := (findDepartment_some.mp found).1
    refine inv.update found written (inv.kept _ row) (inv.linked _ row) ?_ ?_ ?_
    · exact inv.same_links (d := d) found
    · intro contrary
      cases contrary
    · exact Or.inr (Or.inr (childless_of_none inv childless))
  | reactivated id d found stays parent =>
    have row := (findDepartment_some.mp found).1
    refine inv.update found written (inv.kept _ row) (inv.linked _ row) ?_ ?_ (Or.inl rfl)
    · exact inv.same_links (d := d) found
    · intro _ p link q here
      rw [Option.mem_def, findDepartment_update found (inv.kept _ row) written] at here
      split at here
      · cases here
        rfl
      · exact parent p link q here

theorem hierarchy_step (inv : Hierarchy s) (step : Step orm s e t) : Hierarchy t :=
  inv.effect (step_effect step) rfl

theorem hierarchy_visited {moves : List (Move DepartmentStore DepartmentEvent)}
    (run : Run (Step orm) .empty moves t) : ∀ a ∈ visited .empty moves, Hierarchy a := by
  have heeds : Heeds (fun (_ : DepartmentStore) (_ : DepartmentEvent) => True) moves :=
    fun _ _ => trivial
  refine visited_invariant Hierarchy run hierarchy_empty heeds ?_
  intro a l b inv step _
  exact hierarchy_step inv step

end Invariant

section Endings
variable {orm : Orm} {s : DepartmentStore}

/-- The links from `id` lead to a department without a parent. -/
def ReachesRoot (s : DepartmentStore) (id : Nat) : Prop :=
  ∃ n root d, climb (parentOf s) n id = some root ∧ findDepartment s root = some d ∧
    d.parentDepartmentId = none

/-- Both walks come to an end from wherever they start. -/
structure WalksEnd (orm : Orm) (s : DepartmentStore) : Prop where
  cycle : ∀ currentId candidateParentId,
    Answers (wouldCreateCycle orm s currentId (walkFuel s) (some candidateParentId))
  depth : ∀ deptId, Answers (calcDepth orm s (walkFuel s) deptId)

theorem Hierarchy.reachesRoot (inv : Hierarchy s) {id : Nat} {d : Department}
    (start : findDepartment s id = some d) : ReachesRoot s id := by
  obtain ⟨n, ended⟩ := inv.forest id
  induction n generalizing id d with
  | zero => cases ended
  | succ n ih =>
    cases link : parentOf s id with
    | none =>
      refine ⟨0, id, d, climb_zero, start, ?_⟩
      rwa [parentOf, start, Option.bind_some] at link
    | some p =>
      obtain ⟨d', found⟩ := inv.known link
      rw [climb_link link] at ended
      obtain ⟨m, root, top, reached, there, no_parent⟩ := ih found ended
      exact ⟨m + 1, root, top, (climb_link link).trans reached, there, no_parent⟩

theorem ends_in_time (forest : Forest (parentOf s)) (k : Nat) :
    climb (parentOf s) (s.departments.rows.length + 1) k = none := by
  have within := ends_within (s.departments.rows.map Prod.fst) ?_ (forest k)
  · rwa [List.length_map] at within
  · intro a linked
    cases row : findDepartment s a with
    | none => exact absurd (root_of_unknown row) linked
    | some d => exact List.mem_map_of_mem (findDepartment_some.mp row).1

theorem walksEnd_of_forest (forest : Forest (parentOf s)) : WalksEnd orm s where
  cycle _ candidateParentId := cycle_check_returns (ends_in_time forest candidateParentId)
  depth deptId := depthFrom_returns (climb_mono (ends_in_time forest deptId) (Nat.le_succ _))

theorem Hierarchy.walksEnd (inv : Hierarchy s) : WalksEnd orm s := walksEnd_of_forest inv.forest

theorem checkDepth_answers (ends : WalksEnd orm s) (p : Nat) (message : String) :
    Answers (checkDepth orm s p message) := by
  refine answers_bind (ends.depth p) fun depth => answers_require ?_
  exact fun contrary => by cases contrary

theorem checkParentActive_answers (p : Nat) (message : String) :
    Answers (checkParentActive s p message) := by
  refine answers_bind (answers_expect ?_) fun parent => answers_require ?_
  · exact fun contrary => by cases contrary
  · exact fun contrary => by cases contrary

theorem checkManager_answers (users : List User) (managerId : Nat) (message : String) :
    Answers (checkManager users managerId message) := by
  refine answers_bind (answers_expect ?_) fun manager => answers_require ?_
  · exact fun contrary => by cases contrary
  · exact fun contrary => by cases contrary

theorem newDepartment_answers (ends : WalksEnd orm s) (users : List User) (dto : CreateDepartmentDto) :
    Answers (newDepartment orm s users dto) := by
  refine answers_bind (answers_require fun contrary => by cases contrary) fun _ => ?_
  refine answers_bind (answers_require fun contrary => by cases contrary) fun _ => ?_
  refine answers_bind (answers_onSome fun p _ => ?_) fun _ => ?_
  · exact answers_bind (checkParentActive_answers p _) fun _ => checkDepth_answers ends p _
  · refine answers_bind (answers_onSome fun managerId _ => ?_) fun _ => answers_pure
    exact checkManager_answers users managerId _

theorem newParent_answers (ends : WalksEnd orm s) (id : Nat) (dept : Department)
    (dto : UpdateDepartmentDto) : Answers (newParent orm s id dept dto) := by
  unfold newParent
  split
  · exact answers_pure
  · exact answers_pure
  · rename_i p _
    refine answers_bind (answers_require fun contrary => by cases contrary) fun _ => ?_
    refine answers_bind (checkParentActive_answers p _) fun _ => ?_
    refine answers_bind (ends.cycle id p) fun cycle => ?_
    refine answers_bind (answers_require fun contrary => by cases contrary) fun _ => ?_
    exact answers_bind (checkDepth_answers ends p _) fun _ => answers_pure

theorem edited_answers (ends : WalksEnd orm s) (users : List User) (id : Nat) (dto : UpdateDepartmentDto) :
    Answers (edited orm s users id dto) := by
  refine answers_bind (answers_require fun contrary => by cases contrary) fun _ => ?_
  refine answers_bind (answers_expect fun contrary => by cases contrary) fun dept => ?_
  refine answers_bind (answers_require fun contrary => by cases contrary) fun _ => ?_
  refine answers_bind ?_ fun _ => answers_bind ?_ fun _ => answers_bind ?_ fun _ => answers_pure
  · unfold newName
    split
    · exact answers_pure
    · refine answers_bind (answers_require fun contrary => by cases contrary) fun _ => ?_
      exact answers_pure
  · exact newParent_answers ends id dept dto
  · unfold newManager
    split
    · exact answers_pure
    · exact answers_pure
    · rename_i managerId _
      exact answers_bind (checkManager_answers users managerId _) fun _ => answers_pure

theorem serve_answers (ends : WalksEnd orm s) (r : DepartmentRequest) : Answers (s.serve orm r) := by
  cases r with
  | create users dto creatorId idempotencyKey =>
    rw [DepartmentStore.serve, createDepartment]
    split
    · split
      · intro stuck
        cases stuck
      · intro stuck
        cases stuck
    · exact answers_bind (newDepartment_answers ends users dto) fun dept => answers_pure
  | update users id dto =>
    exact answers_bind (edited_answers ends users id dto) fun _ => answers_pure
  | deactivate users id =>
    refine answers_bind (answers_expect fun contrary => by cases contrary) fun dept => ?_
    refine answers_bind (answers_require fun contrary => by cases contrary) fun _ => ?_
    refine answers_bind (answers_require fun contrary => by cases contrary) fun _ => ?_
    refine answers_bind (answers_require fun contrary => by cases contrary) fun _ => ?_
    refine answers_bind (answers_require fun contrary => by cases contrary) fun _ => ?_
    exact answers_pure
  | reactivate id =>
    refine answers_bind (answers_expect fun contrary => by cases contrary) fun dept => ?_
    refine answers_bind (answers_require fun contrary => by cases contrary) fun _ => ?_
    refine answers_bind (answers_onSome fun p _ => answers_require fun contrary => by cases contrary)
      fun _ => ?_
    exact answers_pure

end Endings

section Forest
variable {orm : Orm} {t : DepartmentStore} {moves : List (Move DepartmentStore DepartmentEvent)}

/-- An active department has no parent, or an active one. -/
def ParentsActive (s : DepartmentStore) : Prop :=
  ∀ id d, findDepartment s id = some d → d.isActive = true → ∀ p, d.parentDepartmentId = some p →
    ∃ parent, findDepartment s p = some parent ∧ parent.isActive = true

theorem Hierarchy.parentsActive {s : DepartmentStore} (inv : Hierarchy s) : ParentsActive s := by
  intro id d found active p link
  have row := (findDepartment_some.mp found).1
  obtain ⟨parent, there⟩ := inv.linked (id, d) row p link
  exact ⟨parent, there, inv.active (id, d) row active p link parent there⟩

theorem departments_stay_forest (run : Run (Step orm) .empty moves t) :
    ∀ s ∈ visited .empty moves,
      (∀ id d, findDepartment s id = some d → ReachesRoot s id) ∧ WalksEnd orm s ∧
        (∀ r, s.serve orm r ≠ .error .endless) ∧ ParentsActive s := by
  intro s there
  have inv := hierarchy_visited run s there
  refine ⟨?_, inv.walksEnd, serve_answers inv.walksEnd, inv.parentsActive⟩
  intro id d found
  exact inv.reachesRoot found

def teamOfIt : List DepartmentEvent := [creation "IT" none, creation "Team" (some 0)]

theorem departments_stay_forest_team :
    ReachesRoot (teamOfIt.foldl (DepartmentStore.next checkingOrm) .empty) 0 := by
  have run : Run (Step checkingOrm) .empty (trail (DepartmentStore.next checkingOrm) .empty teamOfIt)
      (teamOfIt.foldl (DepartmentStore.next checkingOrm) .empty) := run_of_trail _ teamOfIt
  have there : ∃ d,
      findDepartment (teamOfIt.foldl (DepartmentStore.next checkingOrm) .empty) 0 = some d :=
    Option.isSome_iff_exists.mp (by decide +kernel)
  obtain ⟨d, found⟩ := there
  exact (departments_stay_forest run _ (end_visited run)).1 0 d found

end Forest

end Accounts
