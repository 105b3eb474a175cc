import MeetingPlatform.Equipment.Deletions

/- The history of faults. It has no table of its own: it is read out of the audit log, where reports,
   confirmations and repairs stand among the rows of every other change of the equipment. -/
namespace EquipmentStore
open KeyedTable LabelledRuns CallPools

section Recording
variable {s : Store} {id now : Nat} {c : EquipmentCall}

def Write.logsOn (id : Nat) : Write → Bool
  | .log audit => audit.entityId = id
  | _ => false

/-- What an access puts on record about a piece of equipment: the instant, and what the call has done
    about a fault, if it has. -/
def EquipmentCall.records (c : EquipmentCall) (id now : Nat) : List (Nat × Option FaultHistoryItem) :=
  match c.stage with
  | .auditing k entity _ =>
    if c.auditFails = false ∧ k = id then [(now, happened c.request entity)] else []
  | .transaction startedAt [] writes _ =>
    (writes.filter (Write.logsOn id)).map fun _ => (startedAt.getD now, none)
  | _ => []

def recorded (id : Nat) :
    Move (Pool Store EquipmentCall) (Turn Incoming) → List (Nat × Option FaultHistoryItem) :=
  added fun now c _ => c.records id now

def Store.items (s : Store) (id : Nat) : List (Nat × Option FaultHistoryItem) :=
  (s.logsOf id).map fun row => (row.1, itemOf row.2)

theorem logged_items {row : Nat × AuditLogEntity} :
    Store.items { s with auditLogs := s.auditLogs ++ [row] } id =
      s.items id ++ if row.2.entityId = id then [(row.1, itemOf row.2)] else [] := by
  rw [Store.items, Store.logsOf, List.filter_append, List.map_append]
  by_cases about : row.2.entityId = id
  · simp [about, Store.items, Store.logsOf]
  · simp [about, Store.items, Store.logsOf]

theorem write_items {startedAt : Nat} {w : Write} (fits : w.Fits s) :
    (s.write startedAt w).items id =
      s.items id ++ if w.logsOn id then [(startedAt, none)] else [] := by
  cases w with
  | log audit =>
    have item : itemOf audit = none := fits
    have added := @logged_items s id (startedAt, audit)
    rw [item] at added
    simp only [Write.logsOn, decide_eq_true_eq]
    exact added
  | saveRoom k entity stored => exact (List.append_nil _).symm
  | removeRoom k => exact (List.append_nil _).symm
  | occupyRoom k => exact (List.append_nil _).symm
  | saveEquipment k entity stored => exact (List.append_nil _).symm
  | removeEquipment k => exact (List.append_nil _).symm

theorem commit_items {startedAt : Nat} {writes : List Write} (fits : ∀ w ∈ writes, w.Fits s) :
    (s.commit startedAt writes).items id =
      s.items id ++ (writes.filter (Write.logsOn id)).map fun _ => (startedAt, none) := by
  induction writes generalizing s with
  | nil => exact (List.append_nil _).symm
  | cons w rest ih =>
    obtain ⟨first, fits⟩ := List.forall_mem_cons.mp fits
    have later : ∀ w' ∈ rest, w'.Fits (s.write startedAt w) := fun w' there =>
      writes_within (write_within startedAt w) (fits w' there)
    change ((s.write startedAt w).commit startedAt rest).items id = _
    rw [ih later, write_items first, List.append_assoc, List.filter_cons]
    congr 1
    split
    · rw [List.map_cons, List.singleton_append]
    · rw [List.nil_append]

theorem act_items (fits : CallFits s c) :
    (c.act now s).1.items id = s.items id ++ c.records id now := by
  obtain ⟨incoming, stage⟩ := c
  cases stage with
  | auditing k entity audit =>
    have added := @logged_items s id (now, audit)
    rw [fits.about, fits.item] at added
    cases fails : incoming.auditFails with
    | true => simp [EquipmentCall.act, EquipmentCall.records, fails]
    | false => simpa [EquipmentCall.act, EquipmentCall.records, fails] using added
  | transaction startedAt todo writes next =>
    cases todo with
    | cons statement todo => exact (List.append_nil _).symm
    | nil => exact commit_items fits.written
  | telling k userId =>
    have same : (EquipmentCall.act ⟨incoming, .telling k userId⟩ now s).1.auditLogs = s.auditLogs := by
      simp only [EquipmentCall.act]
      split <;> rfl
    rw [Store.items, Store.logsOf, same]
    exact (List.append_nil _).symm
  | reading => exact (List.append_nil _).symm
  | readingRoom k dto userId found => exact (List.append_nil _).symm
  | insertingEquipment row userId => exact (List.append_nil _).symm
  | insertingRoom row => exact (List.append_nil _).symm

variable {p : Pool Store EquipmentCall}
  {moves : List (Move (Pool Store EquipmentCall) (Turn Incoming))}

theorem run_items (run : Run (Step equipmentService) (Pool.idle .empty) moves p) :
    p.shared.items id = moves.flatMap (recorded id) :=
  log_of_accesses (fun s => s.items id) _ calls_kept trivial run fun _ fits => act_items fits

theorem newestFirst_map {A B : Type} (f : A → B) (rows : List (Nat × A)) :
    (newestFirst rows).map (fun r => (r.1, f r.2)) = newestFirst (rows.map fun r => (r.1, f r.2)) := by
  rw [newestFirst, newestFirst, ← List.map_reverse]
  exact List.map_insertionSort _ _ _ _ fun _ _ _ _ => Iff.rfl

end Recording

section History
variable {id : Nat} {p : Pool Store EquipmentCall}
  {moves : List (Move (Pool Store EquipmentCall) (Turn Incoming))}

/-- The history of faults over every interleaving: it lists exactly the reports, confirmations and
    repairs among the last fifty changes that were put on record, newest first, each with who did it,
    what was noted and the state that was saved; no assignment, removal from a room or other change
    is taken for one. -/
theorem history_faithful (run : Run (Step equipmentService) (Pool.idle .empty) moves p)
    (there : (p.shared.findEquipment id).isSome = true) :
    getFaultHistory p.shared id =
      .ok (((newestFirst (moves.flatMap (recorded id))).take 50).filterMap fun row => row.2) := by
  obtain ⟨e, found⟩ := Option.isSome_iff_exists.mp there
  rw [getFaultHistory, found, ← run_items run, Store.items, ← newestFirst_map, ← List.map_take,
    List.filterMap_map]
  rfl

def reportedAndConfirmed : List (Turn Incoming) :=
  [.enter 0 newCamera, .act 0 10, .act 0 11, .act 0 12, .enter 0 noPicture, .act 0 20, .act 0 21,
    .act 0 22, .act 0 23, .enter 0 ⟨.confirmFault 0 ⟨none⟩ 5, false, false⟩, .act 0 30, .act 0 31]

theorem reportedAndConfirmed_follows :
    Follows equipmentService (fun _ _ _ => True) (Pool.idle .empty) reportedAndConfirmed := by decide

theorem history_faithful_confirmed :
    ∃ p moves items, Run (Step equipmentService) (Pool.idle .empty) moves p ∧
      getFaultHistory p.shared 0 = .ok items ∧
      items.map FaultHistoryItem.eventType = [.confirmed, .reported] := by
  obtain ⟨moves, run, -⟩ := follows_run reportedAndConfirmed_follows
  have told := @history_faithful 0 _ _ run rfl
  exact ⟨_, _, _, run, told, by rw [← Except.ok.inj told]; decide⟩

end History

section Reporters
variable {id : Nat} {p : Pool Store EquipmentCall}
  {moves : List (Move (Pool Store EquipmentCall) (Turn Incoming))}

def reporterOf (r : Nat × Option FaultHistoryItem) : Option (Nat × Nat) :=
  r.2.bind fun item => if item.eventType = .reported then some (r.1, item.actorId) else none

def lastReporter (records : List (Nat × Option FaultHistoryItem)) : Option Nat :=
  ((newestFirst (records.filterMap reporterOf)).head?).map Prod.snd

/-- What a turn tells the reporters: nothing, but for the one that confirms or repairs a fault. -/
def EquipmentCall.informs (c : EquipmentCall) (reporter : Nat → Option Nat) : List (Nat × Nat) :=
  match c.stage with
  | .telling _ _ =>
    if c.tellFails then []
    else c.request.tells.elim [] fun w =>
      ((reporter w.1).filter fun told => told ≠ w.2).toList.map fun told => (w.1, told)
  | _ => []

theorem itemOf_report (row : AuditLogEntity) (createdAt : Nat) :
    reporterOf (createdAt, itemOf row) =
      if row.actionType = .update ∧ row.severity = .warning then some (createdAt, row.userId)
      else none := by
  rw [reporterOf, itemOf, eventOf]
  by_cases report : row.actionType = .update ∧ row.severity = .warning
  · simp [report.1, report.2]
  · rw [if_neg report, if_neg report]
    split
    · rfl
    · split
      · rfl
      · rfl

theorem last_report (run : Run (Step equipmentService) (Pool.idle .empty) moves p) :
    findLastFaultReportAuditLog p.shared id = lastReporter (moves.flatMap (recorded id)) := by
  have rows : ∀ logs : List (Nat × AuditLogEntity),
      (logs.map fun row => (row.1, itemOf row.2)).filterMap reporterOf =
        (logs.filter fun row => row.2.actionType = .update ∧ row.2.severity = .warning).map
          fun row => (row.1, row.2.userId) := by
    intro logs
    induction logs with
    | nil => rfl
    | cons row rest ih =>
      rw [List.map_cons, List.filterMap_cons, itemOf_report, ih, List.filter_cons]
      by_cases report : row.2.actionType = .update ∧ row.2.severity = .warning
      · simp [report]
      · simp [report]
  rw [lastReporter, ← run_items run, Store.items, rows, ← newestFirst_map, List.head?_map,
    Option.map_map]
  rfl

theorem act_told {s : Store} {now : Nat} {c : EquipmentCall} (fits : CallFits s c) :
    (c.act now s).1.told = s.told ++ c.informs (findLastFaultReportAuditLog s) := by
  obtain ⟨incoming, stage⟩ := c
  have commit_told : ∀ (startedAt : Nat) (writes : List Write) (s : Store),
      (s.commit startedAt writes).told = s.told := by
    intro startedAt writes
    induction writes with
    | nil => exact fun _ => rfl
    | cons w rest ih =>
      intro s
      change ((s.write startedAt w).commit startedAt rest).told = _
      rw [ih]
      cases w <;> rfl
  cases stage with
  | telling k userId =>
    have tells : incoming.request.tells = some (k, userId) := fits
    cases fails : incoming.tellFails with
    | true => simp [EquipmentCall.act, EquipmentCall.informs, fails]
    | false => simp [EquipmentCall.act, EquipmentCall.informs, fails, tells, Store.tell]
  | transaction startedAt todo writes next =>
    cases todo with
    | cons statement todo => exact (List.append_nil _).symm
    | nil => exact (commit_told (startedAt.getD now) writes s).trans (List.append_nil _).symm
  | auditing k entity audit =>
    have same : (EquipmentCall.act ⟨incoming, .auditing k entity audit⟩ now s).1.told = s.told := by
      simp only [EquipmentCall.act]
      split <;> rfl
    exact same.trans (List.append_nil _).symm
  | reading => exact (List.append_nil _).symm
  | readingRoom k dto userId found => exact (List.append_nil _).symm
  | insertingEquipment row userId => exact (List.append_nil _).symm
  | insertingRoom row => exact (List.append_nil _).symm

end Reporters
end EquipmentStore
