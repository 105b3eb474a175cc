import MeetingPlatform.Gates.PairingOrder

/- What a batch that has paired nothing leaves over. It takes the oldest leave rows only, and those
   that nobody entered for stay among them. -/
namespace Gates

section Tables
variable {cfg : PairingConfig} {logs : List GateAccessLog}

/-- Pairs are written in both rows, so that no row points at a free one. -/
structure TwoWay (logs : List GateAccessLog) : Prop where
  keyed : (logs.map GateAccessLog.id).Nodup
  free : ∀ a ∈ logs, a.pairedLogId = none → ∀ b ∈ logs, b.pairedLogId ≠ some a.id

instance (logs : List GateAccessLog) : Decidable (TwoWay logs) :=
  decidable_of_iff ((logs.map GateAccessLog.id).Nodup ∧
    ∀ a ∈ logs, a.pairedLogId = none → ∀ b ∈ logs, b.pairedLogId ≠ some a.id)
    ⟨fun both => ⟨both.1, both.2⟩, fun two_way => ⟨two_way.keyed, two_way.free⟩⟩

theorem Matching.twoWay (matching : Matching cfg logs) : TwoWay logs :=
  ⟨matching.keyed, fun _ ha free _ hb => nobody_points_at matching ha hb free⟩

theorem free_unclaimed (two_way : TwoWay logs) {leave enter : GateAccessLog}
    (pairable : Pairable cfg logs leave enter) :
    ¬ Claimed logs leave.id enter.id ∧
      ¬ Claimed (setPaired logs leave.id enter.id (durationSeconds leave enter)) enter.id leave.id := by
  constructor
  · intro claimed
    obtain ⟨r, there, -, points⟩ := claimed
    exact two_way.free enter pairable.enter_there pairable.candidate.2.1 r there points
  · intro claimed
    obtain ⟨r, there, -, points⟩ := claimed
    rcases mem_setPaired.mp there with ⟨old, -, -, rfl⟩ | ⟨old, -⟩
    · exact pairable.ids_differ two_way.keyed (Option.some.inj points).symm
    · exact two_way.free leave pairable.leave_there pairable.leave_free r old points

theorem pairOne_skips_iff (two_way : TwoWay logs) {leave : GateAccessLog} (there : leave ∈ logs)
    (leaves : leave.direction = .leave) (free : leave.pairedLogId = none) :
    (pairOneInOwnTx cfg logs leave.id).1 = .skipped ↔ ∀ r ∈ logs, ¬ IsCandidate cfg leave r := by
  have found : unpairedLeave logs leave.id = some leave := by
    cases search : unpairedLeave logs leave.id with
    | none =>
      have no := List.find?_eq_none.mp search leave there
      exact absurd (decide_eq_true ⟨rfl, leaves, free⟩) no
    | some other =>
      have listed := List.find?_some search
      have holds : IsUnpairedLeave leave.id other := of_decide_eq_true listed
      rw [row_unique two_way.keyed (List.mem_of_find?_eq_some search) there holds.1]
  unfold pairOneInOwnTx pairOneWithManager
  rw [found]
  cases head : (candidates cfg logs leave).head? with
  | none =>
    simp only [head, true_iff]
    exact no_candidate head
  | some enter =>
    obtain ⟨enter_there, candidate, -⟩ := nearest head
    obtain ⟨first, second⟩ := free_unclaimed two_way ⟨there, leaves, free, enter_there, candidate⟩
    have first_set := updatePaired_ok first (durationSeconds leave enter)
    have second_set := updatePaired_ok second (durationSeconds leave enter)
    simp only [head, first_set, second_set, bind, Except.bind, pure, Except.pure, reduceCtorEq, false_iff]
    intro alone
    exact alone enter enter_there candidate

end Tables

section Batch
variable {cfg : PairingConfig} {logs : List GateAccessLog} {now : Nat}

theorem pairOne_skipped {id : Nat} (skips : (pairOneInOwnTx cfg logs id).1 = .skipped) :
    (pairOneInOwnTx cfg logs id).2 = logs := by
  unfold pairOneInOwnTx pairOneWithManager at skips ⊢
  cases search : unpairedLeave logs id with
  | none => rfl
  | some leave =>
    rw [search] at skips
    dsimp only at skips ⊢
    cases head : (candidates cfg logs leave).head? with
    | none => rfl
    | some enter =>
      rw [head] at skips
      dsimp only [bind, Except.bind, pure, Except.pure] at skips ⊢
      cases first : updatePaired logs leave.id enter.id (durationSeconds leave enter) with
      | error e =>
        cases e
        rfl
      | ok leaveSet =>
        rw [first] at skips
        dsimp only at skips ⊢
        cases second : updatePaired leaveSet enter.id leave.id (durationSeconds leave enter) with
        | error e =>
          cases e
          rfl
        | ok bothSet =>
          rw [second] at skips
          cases skips

theorem paired_counted (ids : List Nat) (result : PairBatchResult) :
    result.paired ≤ (pairEach cfg ids result logs).1.paired := by
  induction ids generalizing result logs with
  | nil => exact Nat.le_refl _
  | cons id ids ih =>
    refine Nat.le_trans ?_ (ih (result.count (pairOneInOwnTx cfg logs id).1))
    cases (pairOneInOwnTx cfg logs id).1 with
    | paired => exact Nat.le_succ _
    | skipped => exact Nat.le_refl _

theorem pairEach_none_iff (ids : List Nat) (result : PairBatchResult) :
    (pairEach cfg ids result logs).1.paired = result.paired ↔
      ∀ id ∈ ids, (pairOneInOwnTx cfg logs id).1 = .skipped := by
  induction ids generalizing result with
  | nil => exact iff_of_true rfl fun _ there => absurd there List.not_mem_nil
  | cons id ids ih =>
    rw [List.forall_mem_cons, pairEach]
    cases outcome : (pairOneInOwnTx cfg logs id).1 with
    | skipped =>
      rw [pairOne_skipped outcome]
      exact (ih (result.count .skipped)).trans (and_iff_right rfl).symm
    | paired =>
      have more : result.paired + 1 ≤ (pairEach cfg ids (result.count .paired)
          (pairOneInOwnTx cfg logs id).2).1.paired :=
        paired_counted ids (result.count .paired)
      refine iff_of_false ?_ ?_
      · exact Nat.ne_of_gt more
      · rintro ⟨⟨⟩, -⟩

theorem pairEach_unchanged {ids : List Nat} (result : PairBatchResult)
    (skips : ∀ id ∈ ids, (pairOneInOwnTx cfg logs id).1 = .skipped) :
    (pairEach cfg ids result logs).2 = logs := by
  induction ids generalizing result with
  | nil => rfl
  | cons id ids ih =>
    rw [List.forall_mem_cons] at skips
    rw [pairEach, pairOne_skipped skips.1]
    exact ih _ skips.2

theorem mem_scannedLeaves {leave : GateAccessLog} (there : leave ∈ scannedLeaves cfg logs now) :
    leave ∈ logs ∧ IsScanned cfg now leave := by
  have listed := List.mem_of_mem_take there
  rw [List.mem_insertionSort, List.mem_filter] at listed
  exact ⟨listed.1, of_decide_eq_true listed.2⟩

theorem pairBatch_none_iff (two_way : TwoWay logs) : (pairBatch cfg logs now).1.paired = 0 ↔
    ∀ leave ∈ scannedLeaves cfg logs now, ∀ r ∈ logs, ¬ IsCandidate cfg leave r := by
  rw [pairBatch, pairEach_none_iff, List.forall_mem_map]
  refine forall₂_congr ?_
  intro leave there
  obtain ⟨listed, leaves, free, -, -⟩ := mem_scannedLeaves there
  exact pairOne_skips_iff two_way listed leaves free

theorem pairBatch_unchanged (none_paired : (pairBatch cfg logs now).1.paired = 0) :
    (pairBatch cfg logs now).2 = logs := by
  rw [pairBatch, pairEach_none_iff] at none_paired
  exact pairEach_unchanged _ none_paired

/-- Rows that are not later than the given one and would be scanned as well. -/
def notLater (cfg : PairingConfig) (logs : List GateAccessLog) (now : Nat) (leave : GateAccessLog) : Nat :=
  logs.countP fun r => IsScanned cfg now r ∧ r.accessTime ≤ leave.accessTime

theorem oldest_scanned {leave : GateAccessLog} (there : leave ∈ logs) (scanned : IsScanned cfg now leave)
    (old : notLater cfg logs now leave ≤ batch) : leave ∈ scannedLeaves cfg logs now := by
  let earlier : GateAccessLog → GateAccessLog → Prop := fun a b => a.accessTime ≤ b.accessTime
  have : Std.Total earlier := ⟨fun a b => Nat.le_total a.accessTime b.accessTime⟩
  have : IsTrans GateAccessLog earlier := ⟨fun _ _ _ first second => Nat.le_trans first second⟩
  let rows := (logs.filter fun r => IsScanned cfg now r).insertionSort earlier
  have sorted : rows.Pairwise earlier := List.pairwise_insertionSort earlier _
  have counted : notLater cfg logs now leave = rows.countP fun r => r.accessTime ≤ leave.accessTime := by
    rw [(List.perm_insertionSort earlier _).countP_eq, List.countP_filter, notLater]
    refine List.countP_congr ?_
    intro r _
    simp only [decide_eq_true_eq, Bool.and_eq_true, and_comm]
  have listed : leave ∈ rows.take batch ++ rows.drop batch := by
    rw [List.take_append_drop, List.mem_insertionSort]
    exact List.mem_filter.mpr ⟨there, decide_eq_true scanned⟩
  rcases List.mem_append.mp listed with front | back
  · exact front
  · have full : (rows.take batch).length = batch := by
      have longer := List.length_pos_of_mem back
      rw [List.length_drop] at longer
      rw [List.length_take]
      omega
    have before : ∀ r ∈ rows.take batch, r.accessTime ≤ leave.accessTime := by
      rw [← List.take_append_drop batch rows] at sorted
      exact fun r ahead => (List.pairwise_append.mp sorted).2.2 r ahead leave back
    have ahead : (rows.take batch).countP (fun r => r.accessTime ≤ leave.accessTime) = batch := by
      refine (List.countP_eq_length.mpr ?_).trans full
      exact fun r inside => decide_eq_true (before r inside)
    have itself : 0 < (rows.drop batch).countP fun r => r.accessTime ≤ leave.accessTime :=
      List.countP_pos_iff.mpr ⟨leave, back, decide_eq_true (Nat.le_refl _)⟩
    rw [counted, ← List.take_append_drop batch rows, List.countP_append, ahead] at old
    omega

/-- Of the oldest rows in the scan window, a batch that has paired nothing leaves none that could be
    paired. -/
theorem none_pairable_among_oldest (two_way : TwoWay logs)
    (none_paired : (pairBatch cfg logs now).1.paired = 0) :
    ∀ leave ∈ (pairBatch cfg logs now).2, IsScanned cfg now leave →
      notLater cfg (pairBatch cfg logs now).2 now leave ≤ batch →
        ∀ enter ∈ (pairBatch cfg logs now).2, ¬ IsCandidate cfg leave enter := by
  rw [pairBatch_unchanged none_paired]
  intro leave there scanned old
  exact (pairBatch_none_iff two_way).mp none_paired leave (oldest_scanned there scanned old)

def leftAlone : List GateAccessLog :=
  [⟨0, some 1, .leave, 1000, none, none⟩, ⟨1, some 2, .enter, 1500, some 2, some 1⟩,
    ⟨2, some 2, .leave, 2500, some 1, some 1⟩]

theorem nothing_left_alone : (pairBatch .default leftAlone 5000).1 = ⟨1, 0, 1⟩ ∧
    ∀ leave ∈ (pairBatch .default leftAlone 5000).2, IsScanned .default 5000 leave →
      notLater .default (pairBatch .default leftAlone 5000).2 5000 leave ≤ batch →
        ∀ enter ∈ (pairBatch .default leftAlone 5000).2, ¬ IsCandidate .default leave enter :=
  ⟨by decide, none_pairable_among_oldest (by decide) (by decide)⟩

end Batch

section Blocked

def crowdedOut : List GateAccessLog :=
  (List.range batch).map (fun i => ⟨i, some 1, .leave, 1000 + i, none, none⟩) ++
    [⟨batch, some 2, .enter, 2000, none, none⟩, ⟨batch + 1, some 2, .leave, 3000, none, none⟩]

theorem crowdedOut_twoWay : TwoWay crowdedOut := by
  have none_points : ∀ r ∈ crowdedOut, r.pairedLogId = none := by
    intro r there
    rcases List.mem_append.mp there with alone | two
    · obtain ⟨i, -, rfl⟩ := List.mem_map.mp alone
      rfl
    · simp only [List.mem_cons, List.not_mem_nil, or_false] at two
      rcases two with rfl | rfl
      · rfl
      · rfl
  constructor
  · have ids : crowdedOut.map GateAccessLog.id = List.range (batch + 2) := by
      rw [crowdedOut, List.map_append, List.map_map, List.range_succ, List.range_succ, List.append_assoc]
      exact congrArg (· ++ _) (List.map_id _)
    rw [ids]
    exact List.nodup_range
  · intro a _ _ b there points
    rw [none_points b there] at points
    cases points

theorem crowdedOut_scanned : scannedLeaves .default crowdedOut 5000 =
    (List.range batch).map fun i => ⟨i, some 1, .leave, 1000 + i, none, none⟩ := by
  have scanned : crowdedOut.filter (fun r => IsScanned .default 5000 r) =
      (List.range batch).map (fun i => ⟨i, some 1, .leave, 1000 + i, none, none⟩) ++
        [⟨batch + 1, some 2, .leave, 3000, none, none⟩] := by
    have two : List.filter (fun r => IsScanned .default 5000 r)
        [⟨batch, some 2, .enter, 2000, none, none⟩, ⟨batch + 1, some 2, .leave, 3000, none, none⟩] =
          [⟨batch + 1, some 2, .leave, 3000, none, none⟩] := by
      decide +kernel
    rw [crowdedOut, List.filter_append, two, List.filter_eq_self.mpr]
    rw [List.forall_mem_map]
    intro i _
    exact decide_eq_true ⟨rfl, rfl, rfl, Nat.le_add_left_of_le (by decide)⟩
  have sorted : (crowdedOut.filter fun r => IsScanned .default 5000 r).Pairwise
      fun a b => a.accessTime ≤ b.accessTime := by
    rw [scanned, List.pairwise_append, List.pairwise_map]
    refine ⟨?_, List.pairwise_singleton _ _, ?_⟩
    · refine List.pairwise_lt_range.imp ?_
      intro i j before
      exact Nat.add_le_add_left (Nat.le_of_lt before) 1000
    · rw [List.forall_mem_map]
      intro i there last listed
      rw [List.mem_singleton.mp listed]
      have small := List.mem_range.mp there
      rw [batch] at small
      dsimp only
      omega
  rw [scannedLeaves, sorted.insertionSort_eq, scanned]
  exact List.take_left' (by rw [List.length_map, List.length_range])

theorem crowdedOut_not_paired : (pairBatch .default crowdedOut 5000).1.paired = 0 ∧
    ¬ ∀ leave ∈ (pairBatch .default crowdedOut 5000).2, IsScanned .default 5000 leave →
      ∀ enter ∈ (pairBatch .default crowdedOut 5000).2, ¬ IsCandidate .default leave enter := by
  have none_paired : (pairBatch .default crowdedOut 5000).1.paired = 0 := by
    refine (pairBatch_none_iff crowdedOut_twoWay).mpr ?_
    rw [crowdedOut_scanned, List.forall_mem_map]
    intro i _ r there candidate
    rcases List.mem_append.mp there with alone | two
    · obtain ⟨j, -, rfl⟩ := List.mem_map.mp alone
      cases candidate.1
    · obtain ⟨-, -, -, user, -⟩ := candidate
      simp only [List.mem_cons, List.not_mem_nil, or_false] at two
      rcases two with rfl | rfl
      · cases user
      · cases user
  refine ⟨none_paired, ?_⟩
  rw [pairBatch_unchanged none_paired]
  intro claimed
  exact claimed ⟨batch + 1, some 2, .leave, 3000, none, none⟩ (by simp [crowdedOut]) (by decide)
    ⟨batch, some 2, .enter, 2000, none, none⟩ (by simp [crowdedOut]) (by decide)

end Blocked
end Gates
