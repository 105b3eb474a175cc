import MeetingPlatform.Accounts.HierarchyDepth
import MeetingPlatform.Lib.CallPool

/- Updates of departments that run at the same time. Each reads what was committed last, query by
   query, and nothing is locked before the `UPDATE`. Where the library refuses the queries of the
   walks, a call gets to its `UPDATE` only with the parent that it has read, or with none. -/
namespace Accounts
open KeyedTable MeetingBooking Guards ParentLinks LabelledRuns CallPools

section Model

structure Draft where
  dept : Department
  departmentName : String
  deriving DecidableEq, Repr

inductive UpdateStage where
  | department
  | name (dept : Department)
  | parent (dept : Department) (departmentName : String)
  | cycle (draft : Draft) (newParentId cursor : Nat)
  | depth (draft : Draft) (newParentId currentId depth : Nat)
  | manager (draft : Draft) (parentDepartmentId : Option Nat)
  | write (draft : Draft) (parentDepartmentId managerUserId : Option Nat)
  deriving DecidableEq, Repr

structure UpdateRequest where
  users : List User
  id : Nat
  dto : UpdateDepartmentDto

structure UpdateCall extends UpdateRequest where
  stage : UpdateStage

/-- The unique index on the names of the departments that are not deleted. -/
def nameTaken (s : DepartmentStore) (id : Nat) (departmentName : String) : Bool :=
  (s.departments.findOne (live fun k d => k ≠ id ∧ d.departmentName = departmentName)).isSome

def newDescription (dept : Department) (dto : UpdateDepartmentDto) : Option String :=
  match dto.description with
  | none => dept.description
  | some description => description.map stripHtml

variable (orm : Orm) (c : UpdateRequest) (s : DepartmentStore)

def readDepartment : Except Failure UpdateStage := do
  let dept ← expect (findDepartment s c.id) (departmentNotFound c.id)
  require (dept.departmentCode ≠ partnerDepartmentCode)
    (partnerProtected "Không thể sửa department cố định đánh dấu tài khoản đối tác.")
  return .name dept

def readName (dept : Department) : Except Failure UpdateStage := do
  let departmentName ← newName s c.id dept c.dto
  return .parent dept departmentName

def readParent (dept : Department) (departmentName : String) : Except Failure UpdateStage :=
  match c.dto.parentDepartmentId with
  | none => .ok (.manager ⟨dept, departmentName⟩ dept.parentDepartmentId)
  | some none => .ok (.manager ⟨dept, departmentName⟩ none)
  | some (some newParentId) => do
    require (newParentId ≠ c.id) (invalidParent "Phòng ban không thể là cha của chính nó.")
    checkParentActive s newParentId "Phòng ban cha không tồn tại hoặc không hoạt động."
    return .cycle ⟨dept, departmentName⟩ newParentId newParentId

def walkOn (draft : Draft) (newParentId cursor : Nat) : Except Failure UpdateStage :=
  if orm.admits parentSelect = false then .error .propertyNotFound
  else
    match parentOf s cursor with
    | none => .ok (.depth draft newParentId newParentId 1)
    | some next => do
      require (next ≠ c.id) (invalidParent
        "Không thể đặt phòng ban cha là hậu duệ của chính phòng ban này (tạo chu trình).")
      return .cycle draft newParentId next

def measureOn (draft : Draft) (newParentId currentId depth : Nat) : Except Failure UpdateStage :=
  if orm.admits parentSelect = false then .error .propertyNotFound
  else
    match parentOf s currentId with
    | none => do
      require (¬ maxDepth < depth + 1)
        (invalidParent "Cây phân cấp phòng ban không được vượt quá 5 cấp.")
      return .manager draft (some newParentId)
    | some parentId => .ok (.depth draft newParentId parentId (depth + 1))

def readManager (draft : Draft) (parentDepartmentId : Option Nat) : Except Failure UpdateStage := do
  let managerUserId ← newManager c.users draft.dept c.dto
  return .write draft parentDepartmentId managerUserId

/-- The `UPDATE` writes its four columns, whatever the others hold by now. -/
def columns (draft : Draft) (parentDepartmentId managerUserId : Option Nat) (d : Department) :
    Department :=
  { d with
    departmentName := draft.departmentName
    parentDepartmentId := parentDepartmentId
    managerUserId := managerUserId
    description := newDescription draft.dept c.dto }

def writeBack (draft : Draft) (parentDepartmentId managerUserId : Option Nat) : DepartmentStore :=
  if nameTaken s c.id draft.departmentName then s
  else { s with departments := s.departments.update c.id (columns c draft parentDepartmentId managerUserId) }

/-- A call goes on to its next query, unless it is refused. -/
def UpdateRequest.goOn (next : Except Failure UpdateStage) : DepartmentStore × Option UpdateCall :=
  match next with
  | .ok stage => (s, some ⟨c, stage⟩)
  | .error _ => (s, none)

def UpdateCall.access (orm : Orm) (c : UpdateCall) (s : DepartmentStore) : DepartmentStore × Option UpdateCall :=
  match c.stage with
  | .department => c.goOn s (readDepartment c.toUpdateRequest s)
  | .name dept => c.goOn s (readName c.toUpdateRequest s dept)
  | .parent dept departmentName => c.goOn s (readParent c.toUpdateRequest s dept departmentName)
  | .cycle draft newParentId cursor =>
    c.goOn s (walkOn orm c.toUpdateRequest s draft newParentId cursor)
  | .depth draft newParentId currentId depth =>
    c.goOn s (measureOn orm s draft newParentId currentId depth)
  | .manager draft parentDepartmentId => c.goOn s (readManager c.toUpdateRequest draft parentDepartmentId)
  | .write draft parentDepartmentId managerUserId =>
    (writeBack c.toUpdateRequest s draft parentDepartmentId managerUserId, none)

/-- A request that sends nothing is refused before its transaction begins. -/
def UpdateRequest.Sends (r : UpdateRequest) : Prop :=
  ¬ (r.dto.departmentName = none ∧ r.dto.parentDepartmentId = none ∧
    r.dto.managerUserId = none ∧ r.dto.description = none)

instance (r : UpdateRequest) : Decidable r.Sends := inferInstanceAs (Decidable (¬ (_ ∧ _ ∧ _ ∧ _)))

def updates (orm : Orm) : Service DepartmentStore UpdateCall UpdateRequest where
  clock _ := 0
  admits _ r := r.Sends
  enter _ r := ⟨r, .department⟩
  act _ c s := c.access orm s

instance (s : DepartmentStore) (r : UpdateRequest) : Decidable ((updates orm).admits s r) :=
  inferInstanceAs (Decidable r.Sends)

end Model

section Links
variable {orm : Orm} {first s : DepartmentStore} {c : UpdateRequest} {draft : Draft}
  {parent : Option Nat}

/-- Every department that has a parent has had this one from the start. -/
def OldLinks (first s : DepartmentStore) : Prop :=
  ∀ id p, parentOf s id = some p → parentOf first id = some p

def OldParent (first : DepartmentStore) (id : Nat) (parent : Option Nat) : Prop :=
  ∀ p ∈ parent, parentOf first id = some p

/-- No call gets through the walk up from the parent that it is to set. -/
def StageFits (first : DepartmentStore) (id : Nat) : UpdateStage → Prop
  | .department | .cycle _ _ _ => True
  | .name dept | .parent dept _ => OldParent first id dept.parentDepartmentId
  | .depth _ _ _ _ => False
  | .manager _ parent | .write _ parent _ => OldParent first id parent

theorem readDepartment_fits {stage : UpdateStage} (old : OldLinks first s)
    (read : readDepartment c s = .ok stage) : StageFits first c.id stage := by
  simp only [readDepartment, bind_eq_ok, expect_eq_ok, require_eq_ok, pure_eq_ok] at read
  obtain ⟨dept, found, _, _, rfl⟩ := read
  intro p link
  apply old
  rwa [parentOf, found, Option.bind_some]

theorem readName_fits {dept : Department} {stage : UpdateStage}
    (fits : OldParent first c.id dept.parentDepartmentId) (read : readName c s dept = .ok stage) :
    StageFits first c.id stage := by
  simp only [readName, bind_eq_ok, pure_eq_ok] at read
  obtain ⟨_, _, rfl⟩ := read
  exact fits

theorem readParent_fits {dept : Department} {name : String} {stage : UpdateStage}
    (fits : OldParent first c.id dept.parentDepartmentId)
    (read : readParent c s dept name = .ok stage) : StageFits first c.id stage := by
  unfold readParent at read
  split at read
  · cases read
    exact fits
  · cases read
    intro p none_given
    cases none_given
  · simp only [bind_eq_ok, require_eq_ok, pure_eq_ok] at read
    obtain ⟨_, _, _, _, rfl⟩ := read
    trivial

theorem walkOn_refused (refuses : orm.RefusesUnknown) {newParentId cursor : Nat} :
    walkOn orm c s draft newParentId cursor = .error .propertyNotFound := by
  rw [walkOn, if_pos refuses.list_refused]

theorem readManager_fits {stage : UpdateStage} (fits : OldParent first c.id parent)
    (read : readManager c draft parent = .ok stage) : StageFits first c.id stage := by
  simp only [readManager, bind_eq_ok, pure_eq_ok] at read
  obtain ⟨_, _, rfl⟩ := read
  exact fits

theorem writeBack_oldLinks {manager : Option Nat} (old : OldLinks first s)
    (fits : OldParent first c.id parent) : OldLinks first (writeBack c s draft parent manager) := by
  unfold writeBack
  split
  · exact old
  · intro id p link
    rw [parentOf, findDepartment, get?_update] at link
    split at link
    · rename_i same
      cases row : s.departments.get? id with
      | none =>
        rw [row] at link
        cases link
      | some d =>
        rw [row, Option.map_some, Option.filter_some] at link
        split at link
        · rw [same]
          exact fits p link
        · cases link
    · exact old id p link

end Links

section Steps
variable {orm : Orm} {first s : DepartmentStore} {c d : UpdateCall}

theorem goOn_fits {r : UpdateRequest} {next : Except Failure UpdateStage}
    (fits : ∀ stage, next = .ok stage → StageFits first r.id stage) :
    (r.goOn s next).1 = s ∧ ∀ c' ∈ (r.goOn s next).2, StageFits first c'.id c'.stage := by
  cases next with
  | error e =>
    refine ⟨rfl, ?_⟩
    intro c' goes
    cases (show (none : Option UpdateCall) = some c' from goes)
  | ok stage =>
    refine ⟨rfl, ?_⟩
    intro c' goes
    cases (show some (UpdateCall.mk r stage) = some c' from goes)
    exact fits stage rfl

theorem access_fits (refuses : orm.RefusesUnknown) (old : OldLinks first s)
    (fits : StageFits first c.id c.stage) :
    OldLinks first (c.access orm s).1 ∧
      ∀ c' ∈ (c.access orm s).2, StageFits first c'.id c'.stage := by
  -- every query but the last leaves the table alone
  have reads : ∀ {next : Except Failure UpdateStage},
      (∀ stage, next = .ok stage → StageFits first c.id stage) →
      OldLinks first (c.goOn s next).1 ∧
        ∀ c' ∈ (c.goOn s next).2, StageFits first c'.id c'.stage := by
    intro next later
    obtain ⟨same, onward⟩ := goOn_fits (s := s) (r := c.toUpdateRequest) later
    refine ⟨?_, onward⟩
    rw [same]
    exact old
  rw [UpdateCall.access]
  cases stage : c.stage with
  | department => exact reads fun next read => readDepartment_fits old read
  | name dept =>
    rw [stage] at fits
    exact reads fun next read => readName_fits fits read
  | parent dept departmentName =>
    rw [stage] at fits
    exact reads fun next read => readParent_fits fits read
  | cycle draft newParentId cursor =>
    refine reads ?_
    intro next walked
    rw [walkOn_refused refuses] at walked
    cases walked
  | depth draft newParentId currentId depth =>
    rw [stage] at fits
    exact fits.elim
  | manager draft parent =>
    rw [stage] at fits
    exact reads fun next read => readManager_fits fits read
  | write draft parent manager =>
    rw [stage] at fits
    refine ⟨writeBack_oldLinks old fits, ?_⟩
    intro c' goes
    cases goes

theorem updates_keep (refuses : orm.RefusesUnknown) :
    Keeps (updates orm) (OldLinks first) (fun _ c => StageFits first c.id c.stage) (fun _ _ => True)
      (fun _ _ _ => True) where
  symm _ _ _ := trivial
  enters _ _ _ _ := trivial
  alone _ _ _ _ _ _ := trivial
  inv _ _ _ old fits _ _ := (access_fits refuses old fits).1
  next _ _ _ c' old fits _ _ goes := (access_fits refuses old fits).2 c' goes
  others _ _ _ _ _ _ other _ _ _ := other
  still_apart _ _ _ _ _ _ _ _ _ _ _ _ := trivial

end Steps

section Runs
variable {orm : Orm} {s : DepartmentStore} {t : Pool DepartmentStore UpdateCall}
  {moves : List (Move (Pool DepartmentStore UpdateCall) (Turn UpdateRequest))}

/-- The committed links have no way round, and both walks come to an end. -/
def Acyclic (orm : Orm) (s : DepartmentStore) : Prop := Forest (parentOf s) ∧ WalksEnd orm s

theorem acyclic_iff {s : DepartmentStore} : Acyclic orm s ↔ Forest (parentOf s) :=
  ⟨And.left, fun forest => ⟨forest, walksEnd_of_forest forest⟩⟩

theorem moves_stay_acyclic (refuses : orm.RefusesUnknown) (acyclic : Acyclic orm s)
    (run : Run (CallPools.Step (updates orm)) (Pool.idle s) moves t) :
    ∀ p ∈ visited (Pool.idle s) moves, Acyclic orm p.shared := by
  have start : OldLinks s s := fun _ _ link => link
  have heeds : Heeds (Allows fun _ _ _ => True) moves := by
    intro m _
    cases m.label with
    | enter i r => trivial
    | act i now => exact fun _ _ => trivial
  intro p there
  have old := (sound_visited (updates_keep refuses) start run heeds p there).shared
  exact acyclic_iff.mpr (forest_of_fewer acyclic.1 old)

def twoRoots : DepartmentStore :=
  [creation "IT" none, creation "HR" none].foldl (DepartmentStore.next checkingOrm) .empty

def moveUnder (id newParentId : Nat) : UpdateRequest :=
  ⟨[], id, { parentDepartmentId := some (some newParentId) }⟩

def accesses (i n : Nat) : List (Turn UpdateRequest) := List.replicate n (.act i 0)

def crossing : List (Turn UpdateRequest) :=
  .enter 0 (moveUnder 0 1) :: .enter 1 (moveUnder 1 0) :: accesses 0 4 ++ accesses 1 4

theorem twoRoots_forest : Forest (parentOf twoRoots) := by
  intro k
  refine ⟨1, climb_root ?_⟩
  cases found : findDepartment twoRoots k with
  | none => exact root_of_unknown found
  | some d =>
    have all : ∀ r ∈ twoRoots.departments.rows, r.2.parentDepartmentId = none := by decide +kernel
    rw [parentOf, found, Option.bind_some]
    exact all _ (findDepartment_some.mp found).1

theorem moves_stay_acyclic_crossing :
    ∃ moves t, Run (CallPools.Step (updates checkingOrm)) (Pool.idle twoRoots) moves t ∧
      moves.map Move.label = crossing ∧
      ∀ p ∈ visited (Pool.idle twoRoots) moves, Acyclic checkingOrm p.shared := by
  have follows : Follows (updates checkingOrm) (fun _ _ _ => True) (Pool.idle twoRoots) crossing := by
    decide +kernel
  obtain ⟨moves, run, -, labels⟩ := follows_labels follows
  exact ⟨moves, _, run, labels,
    moves_stay_acyclic checking_refuses (acyclic_iff.mpr twoRoots_forest) run⟩

end Runs

end Accounts
