import MeetingPlatform.Accounts.HierarchyDepth

/- The departments that an administrator answers for. They are collected downwards over active
   departments, no more than five levels deep. -/
namespace Accounts
open KeyedTable ParentLinks LabelledRuns Guards

section Scope
variable (s : DepartmentStore)

def maxDepartmentScopeDepth : Nat := 5

/-- `left` counts down the levels that may still be entered. -/
def collectDepartmentScope : Nat → Nat → List Nat → List Nat
  | 0, _, scope => scope
  | left + 1, deptId, scope =>
    (activeChildren s deptId).foldl (fun scope child => collectDepartmentScope left child scope)
      (scope.insert deptId)

def resolveDepartmentScope (users : List User) (adminUserId : Nat) : List Nat :=
  let admin := users.find? fun u => u.id = adminUserId ∧ u.deletedAt = none
  match admin.bind User.departmentId with
  | none => []
  | some departmentId => collectDepartmentScope s maxDepartmentScopeDepth departmentId []

def Below (departmentId k : Nat) : Prop := ∃ n, climb (parentOf s) (n + 1) k = some departmentId

def IsActive (k : Nat) : Prop := ∃ d ∈ findDepartment s k, d.isActive = true

instance (k : Nat) : Decidable (IsActive s k) :=
  inferInstanceAs (Decidable (∃ d ∈ findDepartment s k, d.isActive = true))

/-- The scope of every administrator with a department: this one, and all active ones below it. -/
def ScopeComplete : Prop :=
  ∀ users adminUserId admin departmentId,
    (users.find? fun u => u.id = adminUserId ∧ u.deletedAt = none) = some admin →
    admin.departmentId = some departmentId →
    ∀ k, k ∈ resolveDepartmentScope s users adminUserId ↔
      k = departmentId ∨ IsActive s k ∧ Below s departmentId k

end Scope

section Collected
variable {s : DepartmentStore} {k d n left : Nat} {scope : List Nat}

theorem mem_foldl_collected {collect : List Nat → Nat → List Nat} {found : Nat → Prop} {k : Nat}
    (adds : ∀ scope child, k ∈ collect scope child ↔ k ∈ scope ∨ found child) (children : List Nat)
    (scope : List Nat) :
    k ∈ children.foldl collect scope ↔ k ∈ scope ∨ ∃ child ∈ children, found child := by
  induction children generalizing scope with
  | nil => simp
  | cons child children ih =>
    rw [List.foldl_cons, ih, adds, List.exists_mem_cons_iff, or_assoc]

theorem mem_activeChildren : k ∈ activeChildren s d ↔ IsActive s k ∧ parentOf s k = some d := by
  simp only [activeChildren, List.mem_map, mem_select, live, Bool.and_eq_true, decide_eq_true_eq,
    Option.isNone_iff_eq_none]
  constructor
  · rintro ⟨⟨j, row⟩, ⟨there, kept, child, active⟩, rfl⟩
    have found : findDepartment s j = some row := findDepartment_some.mpr ⟨there, kept⟩
    exact ⟨⟨row, found, active⟩, by rw [parentOf, found, Option.bind_some, child]⟩
  · rintro ⟨⟨row, found, active⟩, link⟩
    obtain ⟨there, kept⟩ := findDepartment_some.mp found
    rw [parentOf, found, Option.bind_some] at link
    exact ⟨(k, row), ⟨there, kept, link, active⟩, rfl⟩

theorem active_climb (inv : Hierarchy s) (active : IsActive s k) {a : Nat}
    (there : climb (parentOf s) n k = some a) : IsActive s a := by
  induction n generalizing k with
  | zero =>
    rw [climb_zero, Option.some.injEq] at there
    exact there ▸ active
  | succ n ih =>
    obtain ⟨row, found, isActive⟩ := active
    cases link : parentOf s k with
    | none =>
      rw [climb_root link] at there
      cases there
    | some p =>
      rw [climb_link link] at there
      refine ih ?_ there
      rw [parentOf, found, Option.bind_some] at link
      exact inv.parentsActive k row found isActive p link

/-- `n` links down from a department, over active ones. -/
def Reached (s : DepartmentStore) (d n k : Nat) : Prop :=
  climb (parentOf s) n k = some d ∧ (n = 0 ∨ IsActive s k)

theorem reached_zero : Reached s d 0 k ↔ k = d := by
  simp [Reached]

theorem reached_succ (inv : Hierarchy s) :
    Reached s d (n + 1) k ↔ ∃ child ∈ activeChildren s d, Reached s child n k := by
  constructor
  · rintro ⟨there, unstarted | active⟩
    · cases unstarted
    · rw [climb_add] at there
      obtain ⟨child, up, link⟩ := Option.bind_eq_some_iff.mp there
      rw [climb_succ, Option.bind_eq_some_iff] at link
      obtain ⟨parent, link, same⟩ := link
      cases same
      exact ⟨child, mem_activeChildren.mpr ⟨active_climb inv active up, link⟩, up, Or.inr active⟩
  · rintro ⟨child, listed, up, reached⟩
    obtain ⟨active, link⟩ := mem_activeChildren.mp listed
    refine ⟨?_, Or.inr ?_⟩
    · rw [climb_from up, climb_link link, climb_zero]
    · rcases reached with rfl | below
      · rw [climb_zero, Option.some.injEq] at up
        exact up ▸ active
      · exact below

theorem mem_collectDepartmentScope (inv : Hierarchy s) :
    k ∈ collectDepartmentScope s left d scope ↔ k ∈ scope ∨ ∃ n < left, Reached s d n k := by
  induction left generalizing d scope with
  | zero => simp [collectDepartmentScope]
  | succ left ih =>
    have adds : ∀ scope child, k ∈ collectDepartmentScope s left child scope ↔
        k ∈ scope ∨ ∃ n < left, Reached s child n k := fun scope child => ih
    rw [collectDepartmentScope, mem_foldl_collected adds, List.mem_insert_iff]
    constructor
    · rintro ((rfl | old) | ⟨child, listed, n, lt, reached⟩)
      · exact Or.inr ⟨0, Nat.succ_pos left, reached_zero.mpr rfl⟩
      · exact Or.inl old
      · exact Or.inr ⟨n + 1, Nat.succ_lt_succ lt, (reached_succ inv).mpr ⟨child, listed, reached⟩⟩
    · rintro (old | ⟨n, lt, reached⟩)
      · exact Or.inl (Or.inr old)
      · cases n with
        | zero => exact Or.inl (Or.inl (reached_zero.mp reached))
        | succ n =>
          obtain ⟨child, listed, further⟩ := (reached_succ inv).mp reached
          exact Or.inr ⟨child, listed, n, Nat.lt_of_succ_lt_succ lt, further⟩

def ActiveWithinDepth (s : DepartmentStore) : Prop :=
  ∀ k, IsActive s k → climb (parentOf s) maxDepth k = none

theorem scopeComplete_iff (inv : Hierarchy s) : ScopeComplete s ↔ ActiveWithinDepth s := by
  constructor
  · intro complete k active
    cases far : climb (parentOf s) maxDepth k with
    | none => rfl
    | some top =>
      have admin : ([⟨0, some top, .active, .active, none⟩] : List User).find?
          (fun u => u.id = 0 ∧ u.deletedAt = none) = some ⟨0, some top, .active, .active, none⟩ := rfl
      have listed := (complete _ 0 _ top admin rfl k).mpr (Or.inr ⟨active, 4, far⟩)
      have reached := (mem_collectDepartmentScope inv).mp listed
      obtain none_before | ⟨n, lt, there, -⟩ := reached
      · cases none_before
      · have same := climb_injective (inv.forest k) there far
        exact absurd same (Nat.ne_of_lt lt)
  · intro within users adminUserId admin departmentId found member k
    have resolved : resolveDepartmentScope s users adminUserId =
        collectDepartmentScope s maxDepartmentScopeDepth departmentId [] := by
      simp only [resolveDepartmentScope, found, Option.bind_some, member]
    rw [resolved, mem_collectDepartmentScope inv]
    constructor
    · rintro (none_before | ⟨n, -, there, reached⟩)
      · cases none_before
      · cases n with
        | zero => exact Or.inl (Option.some.inj there)
        | succ n => exact Or.inr ⟨reached.resolve_left (Nat.succ_ne_zero n), n, there⟩
    · rintro (rfl | ⟨active, n, there⟩)
      · exact Or.inr ⟨0, by decide, reached_zero.mpr rfl⟩
      · refine Or.inr ⟨n + 1, ?_, there, Or.inr active⟩
        by_contra far
        rw [climb_mono (within k active) (Nat.le_of_not_lt far)] at there
        cases there

end Collected

section Conditions
variable (orm : Orm) (s : DepartmentStore)

def reactivated : DepartmentEvent → Option Nat
  | .request (.reactivate id) =>
    match reactivateDepartment s id with
    | .ok _ => some id
    | .error _ => none
  | _ => none

/-- For every active department at or below `id`, the path from `p` to its root has room for those
    from there up to `id`. -/
def ActiveRoom (id p : Nat) : Prop :=
  ∀ r ∈ s.departments.rows, IsActive s r.1 → ∀ m < maxDepth, climb (parentOf s) m r.1 = some id →
    climb (parentOf s) (maxDepth - 1 - m) p = none

instance (id p : Nat) : Decidable (ActiveRoom s id p) :=
  inferInstanceAs (Decidable (∀ r ∈ s.departments.rows, IsActive s r.1 → ∀ m < maxDepth,
    climb (parentOf s) m r.1 = some id → climb (parentOf s) (maxDepth - 1 - m) p = none))

/-- The active departments that move fit under the new parent, and a department that is switched on
    has no more than four above it. -/
def ScopeFits (e : DepartmentEvent) : Prop :=
  (∀ move ∈ moved orm s e, ActiveRoom s move.1 move.2) ∧
    ∀ id ∈ reactivated s e, climb (parentOf s) maxDepth id = none

instance (e : DepartmentEvent) : Decidable (ScopeFits orm s e) :=
  inferInstanceAs (Decidable ((∀ move ∈ moved orm s e, ActiveRoom s move.1 move.2) ∧
    ∀ id ∈ reactivated s e, climb (parentOf s) maxDepth id = none))

end Conditions

section Runs
variable {orm : Orm} {s t : DepartmentStore} {e : DepartmentEvent} {k : Nat}

theorem isActive_update {f : Department → Department} {id : Nat} {d : Department}
    (found : findDepartment s id = some d) (kept : (f d).deletedAt = none)
    (written : t.departments = s.departments.update id f) :
    IsActive t k ↔ if k = id then (f d).isActive = true else IsActive s k := by
  rw [IsActive, findDepartment_update found kept written]
  split
  · simp
  · rfl

theorem isActive_unwritten (written : t.departments = s.departments) : IsActive t k ↔ IsActive s k := by
  rw [IsActive, findDepartment, written]
  rfl

theorem isActive_insert {d : Department} (written : t.departments = s.departments.insert d)
    (active : IsActive t k) : IsActive s k ∨ k = s.departments.next := by
  obtain ⟨q, found, isActive⟩ := active
  obtain ⟨row, kept⟩ := findDepartment_some.mp found
  rw [written] at row
  rcases mem_insert.mp row with old | new
  · exact Or.inl ⟨q, findDepartment_some.mpr ⟨old, kept⟩, isActive⟩
  · exact Or.inr (congrArg Prod.fst new)

theorem calm_active (inv : Hierarchy s) (step : Step orm s e t) (calm : reactivated s e = none)
    (active : IsActive t k) : IsActive s k ∨ k = s.departments.next := by
  rw [Step.eq_def] at step
  cases e with
  | forget key =>
    subst step
    exact Or.inl active
  | request r =>
    cases served : s.serve orm r with
    | error failure =>
      rw [step, DepartmentStore.next, served] at active
      exact Or.inl active
    | ok done =>
      obtain ⟨response, after⟩ := done
      have same : t = after := by rw [step, DepartmentStore.next, served]
      subst same
      have how := serve_written served
      generalize written : t.departments = table at how
      cases how with
      | repeated users dto creatorId idempotencyKey => exact Or.inl ((isActive_unwritten written).mp active)
      | created users dto creatorId idempotencyKey d => exact isActive_insert written active
      | updated users id dto d d' found still kept =>
        rw [isActive_update (f := fun _ => d') found kept written] at active
        split at active
        · rename_i same
          exact Or.inl ⟨d, same ▸ found, still ▸ active⟩
        · exact Or.inl active
      | deactivated users id d found memberless =>
        rw [isActive_update found (inv.kept _ (findDepartment_some.mp found).1) written] at active
        split at active
        · cases active
        · exact Or.inl active
      | reactivated id d found =>
        have accepted : reactivateDepartment s id = .ok (response, t) := served
        rw [reactivated, accepted] at calm
        cases calm

theorem short_before (inv : Hierarchy s) (within : ActiveWithinDepth s) (step : Step orm s e t)
    (calm : reactivated s e = none) (active : IsActive t k) :
    climb (parentOf s) maxDepth k = none := by
  rcases calm_active inv step calm active with before | rfl
  · exact within k before
  · apply climb_root
    apply root_of_unknown
    by_contra known
    obtain ⟨d, found⟩ := Option.ne_none_iff_exists'.mp known
    exact Nat.lt_irrefl _ (row_below _ (findDepartment_some.mp found).1)

theorem reactivated_step_iff {id : Nat} (within : ActiveWithinDepth s)
    (step : Step orm s e t) (woken : reactivated s e = some id) :
    ActiveWithinDepth t ↔ climb (parentOf s) maxDepth id = none := by
  have request : e = .request (.reactivate id) ∧ ∃ done, reactivateDepartment s id = .ok done := by
    rw [reactivated.eq_def] at woken
    split at woken
    · split at woken
      · rename_i i done accepted
        cases woken
        exact ⟨rfl, done, accepted⟩
      · cases woken
    · cases woken
  obtain ⟨rfl, ⟨response, after⟩, accepted⟩ := request
  have same : t = after := by
    rw [Step.eq_def] at step
    rw [step, DepartmentStore.next, DepartmentStore.serve, accepted]
  subst same
  simp only [reactivateDepartment, bind_eq_ok, require_eq_ok, expect_eq_ok, onSome_eq_ok,
    pure_eq_ok] at accepted
  obtain ⟨d, found, -, -, -, parent, written⟩ := accepted
  cases written
  have kept : d.deletedAt = none := (findDepartment_some.mp found).2
  generalize after : ({ s with departments := s.departments.update id fun d =>
    { d with isActive := true } } : DepartmentStore) = t
  have written : t.departments = s.departments.update id fun d => { d with isActive := true } := by
    rw [← after]
  have links : parentOf t = parentOf s := by
    have own : parentOf s id = d.parentDepartmentId := by rw [parentOf, found, Option.bind_some]
    rw [parentOf_update found kept written]
    change Function.update (parentOf s) id d.parentDepartmentId = parentOf s
    rw [← own, Function.update_eq_self]
  rw [ActiveWithinDepth, links]
  constructor
  · intro all
    exact all id ((isActive_update found kept written).mpr (by rw [if_pos rfl]))
  · intro room k active
    rw [isActive_update found kept written] at active
    split at active
    · rename_i same
      rw [same]
      exact room
    · exact within k active

theorem active_moved_iff {id p : Nat} {d d' : Department} (inv : Hierarchy s)
    (within : ActiveWithinDepth s) (found : findDepartment s id = some d)
    (written : t.departments = s.departments.save id d')
    (active : d'.isActive = d.isActive) (kept : d'.deletedAt = none)
    (parent : d'.parentDepartmentId = some p) (apart : ∀ n, climb (parentOf s) n p ≠ some id) :
    ActiveWithinDepth t ↔ ActiveRoom s id p := by
  have same : ∀ k, IsActive t k ↔ IsActive s k := by
    intro k
    rw [isActive_update (f := fun _ => d') found kept written]
    split
    · rename_i same
      rw [same, IsActive, found, active]
      simp
    · rfl
  constructor
  · intro all r _ isActive
    exact (path_moved_iff inv found written kept parent apart (within r.1 isActive)).mp
      (all r.1 ((same r.1).mpr isActive))
  · intro room k isActive
    have before := (same k).mp isActive
    have known := before
    obtain ⟨q, here, -⟩ := known
    refine (path_moved_iff inv found written kept parent apart (within k before)).mpr ?_
    exact room (k, q) (findDepartment_some.mp here).1 before

theorem scope_step_iff (inv : Hierarchy s) (within : ActiveWithinDepth s) (step : Step orm s e t) :
    ActiveWithinDepth t ↔ ScopeFits orm s e := by
  cases woken : reactivated s e with
  | some id =>
    have request : moved orm s e = none := by
      rw [reactivated.eq_def] at woken
      split at woken
      · rfl
      · cases woken
    rw [reactivated_step_iff within step woken, ScopeFits, request, woken]
    simp
  | none =>
    have fits : ScopeFits orm s e ↔ ∀ move ∈ moved orm s e, ActiveRoom s move.1 move.2 := by
      rw [ScopeFits, woken]
      simp
    have stays : moved orm s e = none → ScopeFits orm s e := by
      intro stays
      rw [fits, stays]
      simp
    have short := fun k (active : IsActive t k) => short_before inv within step woken active
    have effect := step_effect step
    generalize written : t.departments = table at effect
    cases effect with
    | nothing unmoved =>
      refine iff_of_true ?_ (stays unmoved)
      have links : parentOf t = parentOf s := by
        funext k
        rw [parentOf, findDepartment, written]
        rfl
      intro k active
      rw [links]
      exact short k active
    | created d unmoved active kept parent =>
      refine iff_of_true ?_ (stays unmoved)
      intro k isActive
      rcases calm_active inv step woken isActive with ⟨q, found, before⟩ | rfl
      · rw [path_insert inv written kept found]
        exact short k isActive
      · exact path_created inv written kept parent
    | edited id d d' found unmoved active kept parent =>
      refine iff_of_true ?_ (stays unmoved)
      have kept : d'.deletedAt = none := kept.trans (findDepartment_some.mp found).2
      intro k isActive
      exact path_kept found written kept parent (short k isActive)
    | moved id p d d' found moves active kept parent suitable apart =>
      have kept : d'.deletedAt = none := kept.trans (findDepartment_some.mp found).2
      rw [fits, moves, active_moved_iff inv within found written active kept parent apart]
      simp
    | deactivated id d found unmoved childless =>
      refine iff_of_true ?_ (stays unmoved)
      intro k isActive
      exact path_kept found written (findDepartment_some.mp found).2 (Or.inl rfl) (short k isActive)
    | reactivated id d found unmoved parent =>
      refine iff_of_true ?_ (stays unmoved)
      intro k isActive
      exact path_kept found written (findDepartment_some.mp found).2 (Or.inl rfl) (short k isActive)

variable {moves : List (Move DepartmentStore DepartmentEvent)}

theorem scope_complete_iff (run : Run (Step orm) .empty moves t) :
    (∀ s ∈ visited .empty moves, ScopeComplete s) ↔ Heeds (ScopeFits orm) moves := by
  have none_yet : ActiveWithinDepth .empty := by
    rintro k ⟨d, found, -⟩
    cases found
  refine states_safe_iff Hierarchy ScopeComplete run hierarchy_empty
    ((scopeComplete_iff hierarchy_empty).mpr none_yet) (fun inv step => hierarchy_step inv step) ?_
  intro a l b inv complete step
  rw [scopeComplete_iff (hierarchy_step inv step)]
  exact scope_step_iff inv ((scopeComplete_iff inv).mp complete) step

theorem activeWithinDepth_of_within (within : WithinDepth s) : ActiveWithinDepth s := by
  rintro k ⟨d, found, -⟩
  exact within (k, d) (findDepartment_some.mp found).1

theorem scope_complete (refuses : orm.RefusesUnknown) (run : Run (Step orm) .empty moves t) :
    ∀ s ∈ visited .empty moves, ScopeComplete s := by
  have within : ∀ s ∈ visited .empty moves, WithinDepth s := by
    refine (hierarchy_within_depth_iff run).mpr ?_
    intro m _
    exact fits_of_stays (moved_refused refuses)
  intro s there
  rw [scopeComplete_iff (hierarchy_visited run s there)]
  exact activeWithinDepth_of_within (within s there)

theorem scope_complete_named :
    (∀ s ∈ visited .empty (trail (DepartmentStore.next checkingOrm) .empty parentsNamed),
      ScopeComplete s) ∧
      resolveDepartmentScope (parentsNamed.foldl (DepartmentStore.next checkingOrm) .empty)
        [⟨9, some 0, .active, .active, none⟩] 9 = [0] := by
  have run : Run (Step checkingOrm) .empty
      (trail (DepartmentStore.next checkingOrm) .empty parentsNamed)
      (parentsNamed.foldl (DepartmentStore.next checkingOrm) .empty) := run_of_trail _ parentsNamed
  exact ⟨scope_complete checking_refuses run, by decide +kernel⟩

end Runs

end Accounts
