import MeetingPlatform.Accounts.Hierarchy

/- The bound on the levels of the hierarchy. A request measures the path above the new parent; what
   hangs below the department that moves is not measured. Both walks break off in a library that
   refuses their queries, and then no department ever comes under another one. -/
namespace Accounts
open KeyedTable ParentLinks LabelledRuns Guards

section Levels
variable (orm : Orm) (s : DepartmentStore)

/-- No path from a department to its root has more than five departments. -/
def WithinDepth : Prop :=
  ∀ r ∈ s.departments.rows, climb (parentOf s) maxDepth r.1 = none

instance : Decidable (WithinDepth s) :=
  inferInstanceAs (Decidable (∀ r ∈ s.departments.rows, climb (parentOf s) maxDepth r.1 = none))

/-- For every department at or below `id`, with `m + 1` departments from there up to `id`, the path
    from `p` to its root has room for these. -/
def Room (id p : Nat) : Prop :=
  ∀ r ∈ s.departments.rows, ∀ m < maxDepth, climb (parentOf s) m r.1 = some id →
    climb (parentOf s) (maxDepth - 1 - m) p = none

instance (id p : Nat) : Decidable (Room s id p) :=
  inferInstanceAs (Decidable (∀ r ∈ s.departments.rows, ∀ m < maxDepth,
    climb (parentOf s) m r.1 = some id → climb (parentOf s) (maxDepth - 1 - m) p = none))

/-- Where an accepted request moves a department, all of its subtree fits under the new parent. -/
def SubtreeFits (e : DepartmentEvent) : Prop := ∀ move ∈ moved orm s e, Room s move.1 move.2

instance (e : DepartmentEvent) : Decidable (SubtreeFits orm s e) :=
  inferInstanceAs (Decidable (∀ move ∈ moved orm s e, Room s move.1 move.2))

end Levels

section Bound
variable {orm : Orm} {s t : DepartmentStore} {e : DepartmentEvent}

theorem fits_of_stays (stays : moved orm s e = none) : SubtreeFits orm s e := by
  intro move there
  rw [stays] at there
  cases there

theorem path_kept {f : Department → Department} {id k n : Nat} {d : Department}
    (found : findDepartment s id = some d) (written : t.departments = s.departments.update id f)
    (kept : (f d).deletedAt = none)
    (parent : (f d).parentDepartmentId = d.parentDepartmentId ∨ (f d).parentDepartmentId = none)
    (short : climb (parentOf s) n k = none) : climb (parentOf t) n k = none := by
  rw [parentOf_update found kept written]
  rcases parent with same | root
  · have own : parentOf s id = d.parentDepartmentId := by rw [parentOf, found, Option.bind_some]
    rw [same, ← own, Function.update_eq_self]
    exact short
  · rw [root]
    exact climb_update_root short

theorem path_insert {d q : Department} {k n : Nat} (inv : Hierarchy s)
    (written : t.departments = s.departments.insert d) (kept : d.deletedAt = none)
    (old : findDepartment s k = some q) : climb (parentOf t) n k = climb (parentOf s) n k := by
  rw [parentOf_insert kept written, climb_update_away fun i _ => inv.fresh old]

theorem path_created {d : Department} (inv : Hierarchy s)
    (written : t.departments = s.departments.insert d) (kept : d.deletedAt = none)
    (suitable : ∀ p ∈ d.parentDepartmentId, Suitable s p) :
    climb (parentOf t) maxDepth s.departments.next = none := by
  rw [parentOf_insert kept written, show maxDepth = 0 + 1 + (maxDepth - 1) from rfl,
    climb_update_through (inv.forest _) climb_zero]
  cases link : d.parentDepartmentId with
  | none => rfl
  | some p =>
    obtain ⟨q, found, -⟩ := (suitable p link).active
    rw [Option.bind_some, climb_update_away fun i _ => inv.fresh found]
    exact (suitable p link).shallow

theorem path_moved_iff {f : Department → Department} {id p k : Nat} {d : Department}
    (inv : Hierarchy s) (found : findDepartment s id = some d)
    (written : t.departments = s.departments.update id f) (kept : (f d).deletedAt = none)
    (parent : (f d).parentDepartmentId = some p) (apart : ∀ n, climb (parentOf s) n p ≠ some id)
    (short : climb (parentOf s) maxDepth k = none) :
    climb (parentOf t) maxDepth k = none ↔ ∀ m < maxDepth, climb (parentOf s) m k = some id →
      climb (parentOf s) (maxDepth - 1 - m) p = none := by
  rw [parentOf_update found kept written, parent, climb_update_iff (inv.forest k) apart short]
  constructor
  · intro ended m _ reached
    exact ended m reached
  · intro room m reached
    have near : m < maxDepth := by
      by_contra far
      rw [climb_mono short (Nat.le_of_not_lt far)] at reached
      cases reached
    exact room m near reached

theorem within_update {f : Department → Department} {id : Nat}
    (written : t.departments = s.departments.update id f) :
    WithinDepth t ↔ ∀ r ∈ s.departments.rows, climb (parentOf t) maxDepth r.1 = none := by
  rw [WithinDepth, written]
  constructor
  · intro all r there
    have row := all (touch (fun r => r.1 = id) f r) (mem_updateWhere.mpr ⟨r, there, rfl⟩)
    rwa [touch_key] at row
  · intro all r there
    obtain ⟨q, old, rfl⟩ := mem_updateWhere.mp there
    rw [touch_key]
    exact all q old

theorem within_kept {f : Department → Department} {id : Nat} {d : Department}
    (within : WithinDepth s) (found : findDepartment s id = some d)
    (written : t.departments = s.departments.update id f) (kept : (f d).deletedAt = none)
    (parent : (f d).parentDepartmentId = d.parentDepartmentId ∨ (f d).parentDepartmentId = none) :
    WithinDepth t := by
  rw [within_update written]
  intro r there
  exact path_kept found written kept parent (within r there)

theorem within_insert {d : Department} (inv : Hierarchy s) (within : WithinDepth s)
    (written : t.departments = s.departments.insert d) (kept : d.deletedAt = none)
    (suitable : ∀ p ∈ d.parentDepartmentId, Suitable s p) : WithinDepth t := by
  rw [WithinDepth, written]
  intro r there
  rcases mem_insert.mp there with old | rfl
  · rw [path_insert inv written kept (inv.row old)]
    exact within r old
  · exact path_created inv written kept suitable

theorem within_moved_iff {f : Department → Department} {id p : Nat} {d : Department}
    (inv : Hierarchy s) (within : WithinDepth s) (found : findDepartment s id = some d)
    (written : t.departments = s.departments.update id f) (kept : (f d).deletedAt = none)
    (parent : (f d).parentDepartmentId = some p)
    (apart : ∀ n, climb (parentOf s) n p ≠ some id) : WithinDepth t ↔ Room s id p := by
  rw [within_update written]
  constructor
  · intro all r there
    exact (path_moved_iff inv found written kept parent apart (within r there)).mp (all r there)
  · intro room r there
    exact (path_moved_iff inv found written kept parent apart (within r there)).mpr (room r there)

theorem within_step_iff (inv : Hierarchy s) (within : WithinDepth s) (step : Step orm s e t) :
    WithinDepth t ↔ SubtreeFits orm s e := by
  have effect := step_effect step
  generalize written : t.departments = table at effect
  cases effect with
  | nothing stays =>
    have links : parentOf t = parentOf s := by
      funext k
      rw [parentOf, findDepartment, written]
      rfl
    rw [WithinDepth, links, written]
    exact ⟨fun _ => fits_of_stays stays, fun _ => within⟩
  | created d stays active kept parent =>
    exact ⟨fun _ => fits_of_stays stays, fun _ => within_insert inv within written kept parent⟩
  | edited id d d' found stays active kept parent =>
    have kept : d'.deletedAt = none := kept.trans (findDepartment_some.mp found).2
    exact ⟨fun _ => fits_of_stays stays, fun _ => within_kept within found written kept parent⟩
  | moved id p d d' found moves active kept parent suitable apart =>
    have kept : d'.deletedAt = none := kept.trans (findDepartment_some.mp found).2
    rw [within_moved_iff inv within found written kept parent apart, SubtreeFits, moves]
    constructor
    · intro room move there
      cases there
      exact room
    · intro fits
      exact fits (id, p) rfl
  | deactivated id d found stays childless =>
    have kept := (findDepartment_some.mp found).2
    exact ⟨fun _ => fits_of_stays stays,
      fun _ => within_kept within found written kept (Or.inl rfl)⟩
  | reactivated id d found stays parent =>
    have kept := (findDepartment_some.mp found).2
    exact ⟨fun _ => fits_of_stays stays,
      fun _ => within_kept within found written kept (Or.inl rfl)⟩

variable {moves : List (Move DepartmentStore DepartmentEvent)}

theorem hierarchy_within_depth_iff (run : Run (Step orm) .empty moves t) :
    (∀ s ∈ visited .empty moves, WithinDepth s) ↔ Heeds (SubtreeFits orm) moves := by
  refine states_safe_iff Hierarchy WithinDepth run hierarchy_empty ?_ ?_ ?_
  · intro r there
    cases mem_empty.mp there
  · intro a l b inv step
    exact hierarchy_step inv step
  · intro a l b inv within step
    exact within_step_iff inv within step

end Bound

section Refused
variable {orm : Orm} {s t : DepartmentStore} {e : DepartmentEvent}

theorem Orm.RefusesUnknown.list_refused (refuses : orm.RefusesUnknown) :
    orm.admits parentSelect = false :=
  refuses _ ⟨"0", by decide, by decide⟩

theorem checking_refuses : checkingOrm.RefusesUnknown := by
  rintro select ⟨key, listed, unknown⟩
  rw [checkingOrm, List.all_eq_false]
  exact ⟨key, listed, fun known => unknown (List.contains_iff_mem.mp known)⟩

theorem checkDepth_refused (refuses : orm.RefusesUnknown) (p : Nat) (message : String) :
    checkDepth orm s p message = .error .propertyNotFound := by
  have broken : calcDepth orm s (walkFuel s) p = .error .propertyNotFound := by
    rw [calcDepth, walkFuel, depthFrom, if_pos refuses.list_refused]
  rw [checkDepth, broken]
  rfl

theorem updateDepartment_refused (refuses : orm.RefusesUnknown) {users : List User} {id p : Nat}
    {dto : UpdateDepartmentDto} {done : DepartmentResponse × DepartmentStore}
    (sent : dto.parentDepartmentId = some (some p)) :
    updateDepartment orm s users id dto ≠ .ok done := by
  intro accepted
  simp only [updateDepartment, bind_eq_ok] at accepted
  obtain ⟨⟨d, d'⟩, checked, -⟩ := accepted
  obtain ⟨-, -, -, parent⟩ := edited_ok checked
  simp only [newParent, sent, bind_eq_ok] at parent
  obtain ⟨-, -, -, -, -, -, -, -, depth, measured, -⟩ := parent
  rw [checkDepth_refused refuses] at measured
  cases measured

theorem moved_refused (refuses : orm.RefusesUnknown) : moved orm s e = none := by
  unfold moved
  split
  · unfold movedBy
    split
    · rename_i sent accepted
      exact absurd accepted (updateDepartment_refused refuses sent)
    · rfl
  · rfl

theorem hierarchy_within_depth {moves : List (Move DepartmentStore DepartmentEvent)}
    (refuses : orm.RefusesUnknown) (run : Run (Step orm) .empty moves t) :
    ∀ s ∈ visited .empty moves, WithinDepth s := by
  refine (hierarchy_within_depth_iff run).mpr ?_
  intro m _
  exact fits_of_stays (moved_refused refuses)

def parentsNamed : List DepartmentEvent :=
  [creation "D0" none, creation "D1" (some 0), creation "D2" none, reparenting 1 0]

theorem hierarchy_within_depth_named :
    (∀ s ∈ visited .empty (trail (DepartmentStore.next checkingOrm) .empty parentsNamed),
      WithinDepth s) ∧
      ∀ id < 2, parentOf (parentsNamed.foldl (DepartmentStore.next checkingOrm) .empty) id = none := by
  have run : Run (Step checkingOrm) .empty
      (trail (DepartmentStore.next checkingOrm) .empty parentsNamed)
      (parentsNamed.foldl (DepartmentStore.next checkingOrm) .empty) := run_of_trail _ parentsNamed
  exact ⟨hierarchy_within_depth checking_refuses run, by decide +kernel⟩

end Refused

end Accounts
