import MeetingPlatform.Gates.GateLogs

/- Does it matter when the rows of the gate log arrive? Pairing every leave row as it comes in is set
   against a batch over the complete table. -/
namespace Gates

section Ingestion
variable (cfg : PairingConfig)

structure Arrival where
  id : Nat
  input : WriteGateLogInput
  deriving DecidableEq, Repr

/-- What `onVehicleEvent` does to the gate log. -/
def onVehicleEvent (logs : List GateAccessLog) (a : Arrival) : List GateAccessLog :=
  let written := writeGateLog logs a.id a.input
  match a.input.direction with
  | .enter => written
  | .leave => (pairForLeaveLog cfg written a.id).2

def ingest (arrivals : List Arrival) : List GateAccessLog := arrivals.foldl (onVehicleEvent cfg) []

def writeAll (arrivals : List Arrival) : List GateAccessLog :=
  arrivals.foldl (fun logs a => writeGateLog logs a.id a.input) []

/-- Batches at the given instants until one pairs nothing; `none` where the instants run out. -/
def pairUntilNone : List Nat → List GateAccessLog → Option (List GateAccessLog)
  | [], _ => none
  | now :: instants, logs =>
    let done := pairBatch cfg logs now
    if done.1.paired = 0 then some done.2 else pairUntilNone instants done.2

def Paired (logs : List GateAccessLog) (i j : Nat) : Prop :=
  ∃ r ∈ logs, r.id = i ∧ r.pairedLogId = some j

instance (logs : List GateAccessLog) (i j : Nat) : Decidable (Paired logs i j) :=
  inferInstanceAs (Decidable (∃ r ∈ logs, r.id = i ∧ r.pairedLogId = some j))

def SamePairs (a b : List GateAccessLog) : Prop := ∀ i j, Paired a i j ↔ Paired b i j

end Ingestion

section OneTransaction
variable {cfg : PairingConfig} {logs : List GateAccessLog} {leave enter : GateAccessLog}

theorem head_by_time {rows : List GateAccessLog} {first : GateAccessLog}
    (head : (rows.insertionSort fun a b => b.accessTime ≤ a.accessTime).head? = some first) :
    first ∈ rows ∧ ∀ r ∈ rows, r.accessTime ≤ first.accessTime := by
  let later : GateAccessLog → GateAccessLog → Prop := fun a b => b.accessTime ≤ a.accessTime
  have : Std.Total later := ⟨fun a b => Nat.le_total b.accessTime a.accessTime⟩
  have : IsTrans GateAccessLog later := ⟨fun _ _ _ first second => Nat.le_trans second first⟩
  have sorted := List.pairwise_insertionSort later rows
  obtain ⟨rest, listed⟩ : ∃ rest, rows.insertionSort later = first :: rest := by
    cases shape : rows.insertionSort later with
    | nil => simp [later, shape] at head
    | cons x rest => simp_all [later]
  constructor
  · rw [← List.mem_insertionSort later, listed]
    exact List.mem_cons_self
  · intro r there
    rw [← List.mem_insertionSort later, listed] at there
    rw [listed] at sorted
    rcases List.mem_cons.mp there with rfl | behind
    · exact Nat.le_refl _
    · exact List.rel_of_pairwise_cons sorted behind

theorem nearest (head : (candidates cfg logs leave).head? = some enter) :
    enter ∈ logs ∧ IsCandidate cfg leave enter ∧
      ∀ r ∈ logs, IsCandidate cfg leave r → r.accessTime ≤ enter.accessTime := by
  obtain ⟨there, latest⟩ := head_by_time head
  have candidate := List.mem_filter.mp there
  refine ⟨candidate.1, of_decide_eq_true candidate.2, ?_⟩
  intro r listed fits
  exact latest r (List.mem_filter.mpr ⟨listed, decide_eq_true fits⟩)

theorem no_candidate (head : (candidates cfg logs leave).head? = none) :
    ∀ r ∈ logs, ¬ IsCandidate cfg leave r := by
  intro r there fits
  have listed : r ∈ candidates cfg logs leave := by
    rw [candidates, List.mem_insertionSort]
    exact List.mem_filter.mpr ⟨there, decide_eq_true fits⟩
  rw [List.head?_eq_none_iff.mp head] at listed
  cases listed

theorem updatePaired_ok {id pairedLogId : Nat} (unclaimed : ¬ Claimed logs id pairedLogId)
    (duration : Nat) :
    updatePaired logs id pairedLogId duration = .ok (setPaired logs id pairedLogId duration) :=
  if_neg unclaimed

/-- All that one pairing transaction can come to. -/
inductive PairStep (cfg : PairingConfig) (logs : List GateAccessLog) (id : Nat) :
    PairOutcome × List GateAccessLog → Prop where
  | missing (gone : ∀ r ∈ logs, ¬ IsUnpairedLeave id r) : PairStep cfg logs id (.skipped, logs)
  | orphan (leave : GateAccessLog) (there : leave ∈ logs) (free : IsUnpairedLeave id leave)
      (alone : ∀ r ∈ logs, ¬ IsCandidate cfg leave r) : PairStep cfg logs id (.skipped, logs)
  | pair (leave enter : GateAccessLog) (this : leave.id = id)
      (pairable : Pairable cfg logs leave enter)
      (latest : ∀ r ∈ logs, IsCandidate cfg leave r → r.accessTime ≤ enter.accessTime) :
      PairStep cfg logs id (.paired, writePair logs leave enter)

theorem pairOne_cases (matching : Matching cfg logs) (id : Nat) :
    PairStep cfg logs id (pairOneInOwnTx cfg logs id) := by
  unfold pairOneInOwnTx pairOneWithManager
  cases found : unpairedLeave logs id with
  | none =>
    refine .missing ?_
    intro r there free
    have no := List.find?_eq_none.mp found r there
    exact no (decide_eq_true free)
  | some leave =>
    have there := List.mem_of_find?_eq_some found
    have holds := List.find?_some found
    have free : IsUnpairedLeave id leave := of_decide_eq_true holds
    cases head : (candidates cfg logs leave).head? with
    | none =>
      simp only [head]
      exact .orphan leave there free (no_candidate head)
    | some enter =>
      obtain ⟨enter_there, candidate, latest⟩ := nearest head
      have pairable : Pairable cfg logs leave enter :=
        ⟨there, free.2.1, free.2.2, enter_there, candidate⟩
      have first := updatePaired_ok (unclaimed matching pairable) (durationSeconds leave enter)
      have second := updatePaired_ok (unclaimed_then matching pairable) (durationSeconds leave enter)
      simp only [head, first, second, bind, Except.bind, pure, Except.pure]
      exact .pair leave enter free.1 pairable latest

theorem paired_writePair (keyed : (logs.map GateAccessLog.id).Nodup)
    (pairable : Pairable cfg logs leave enter) {i j : Nat} :
    Paired (writePair logs leave enter) i j ↔
      Paired logs i j ∨ (i = leave.id ∧ j = enter.id) ∨ (i = enter.id ∧ j = leave.id) := by
  constructor
  · intro paired
    obtain ⟨r, there, rfl, points⟩ := paired
    rcases (mem_writePair keyed pairable).mp there with rfl | rfl | ⟨old, -, -⟩
    · exact Or.inr (Or.inl ⟨rfl, (Option.some.inj points).symm⟩)
    · exact Or.inr (Or.inr ⟨rfl, (Option.some.inj points).symm⟩)
    · exact Or.inl ⟨r, old, rfl, points⟩
  · intro known
    rcases known with ⟨r, there, rfl, points⟩ | ⟨rfl, rfl⟩ | ⟨rfl, rfl⟩
    · refine ⟨r, (mem_writePair keyed pairable).mpr (Or.inr (Or.inr ⟨there, ?_, ?_⟩)), rfl, points⟩
      · intro same
        rw [row_unique keyed there pairable.leave_there same, pairable.leave_free] at points
        cases points
      · intro same
        rw [row_unique keyed there pairable.enter_there same, pairable.candidate.2.1] at points
        cases points
    · exact ⟨_, (mem_writePair keyed pairable).mpr (Or.inl rfl), rfl, rfl⟩
    · exact ⟨_, (mem_writePair keyed pairable).mpr (Or.inr (Or.inl rfl)), rfl, rfl⟩

def GateAccessLog.bare (r : GateAccessLog) : GateAccessLog :=
  { r with pairedLogId := none, durationSeconds := none }

theorem setPaired_bare (logs : List GateAccessLog) (id pairedLogId duration : Nat) :
    (setPaired logs id pairedLogId duration).map GateAccessLog.bare =
      logs.map GateAccessLog.bare := by
  simp only [setPaired, List.map_map]
  apply List.map_congr_left
  intro r there
  by_cases same : r.id = id <;> simp [same, GateAccessLog.pairWith, GateAccessLog.bare]

theorem writePair_bare (logs : List GateAccessLog) (leave enter : GateAccessLog) :
    (writePair logs leave enter).map GateAccessLog.bare = logs.map GateAccessLog.bare := by
  rw [writePair, setPaired_bare, setPaired_bare]

/-- What a transaction keeps: the matching, the rows apart from their pairing, and every pair. -/
structure Extends (cfg : PairingConfig) (before after : List GateAccessLog) : Prop where
  matching : Matching cfg after
  rows : after.map GateAccessLog.bare = before.map GateAccessLog.bare
  grows : ∀ i j, Paired before i j → Paired after i j

theorem Extends.refl (matching : Matching cfg logs) : Extends cfg logs logs :=
  ⟨matching, rfl, fun _ _ known => known⟩

theorem Extends.trans {a b c : List GateAccessLog} (first : Extends cfg a b)
    (second : Extends cfg b c) : Extends cfg a c :=
  ⟨second.matching, second.rows.trans first.rows,
    fun i j known => second.grows i j (first.grows i j known)⟩

theorem pairOne_extends (matching : Matching cfg logs) (id : Nat) :
    Extends cfg logs (pairOneInOwnTx cfg logs id).2 := by
  have step := pairOne_cases matching id
  generalize pairOneInOwnTx cfg logs id = done at step
  cases step with
  | missing => exact .refl matching
  | orphan => exact .refl matching
  | pair leave enter this pairable latest =>
    constructor
    · exact matching_writePair matching pairable
    · exact writePair_bare logs leave enter
    · intro i j known
      exact (paired_writePair matching.keyed pairable).mpr (Or.inl known)

theorem pairEach_extends (ids : List Nat) (result : PairBatchResult) (matching : Matching cfg logs) :
    Extends cfg logs (pairEach cfg ids result logs).2 := by
  induction ids generalizing result logs with
  | nil => exact .refl matching
  | cons id ids ih =>
    have one := pairOne_extends matching id
    exact one.trans (ih _ one.matching)

end OneTransaction

section Batches
variable {cfg : PairingConfig} {a b logs : List GateAccessLog}

theorem paired_symm (matching : Matching cfg logs) {i j : Nat} (paired : Paired logs i j) :
    Paired logs j i := by
  obtain ⟨r, there, rfl, points⟩ := paired
  obtain ⟨s, partner, rfl, -⟩ := matching.joins r there j points
  exact ⟨s, partner, rfl, (matching.symmetric r there s partner).mp points⟩

theorem paired_unique (matching : Matching cfg logs) {i j k : Nat} (first : Paired logs i j)
    (second : Paired logs i k) : j = k := by
  obtain ⟨r, there, rfl, points⟩ := first
  obtain ⟨s, other, same, also⟩ := second
  rw [row_unique matching.keyed other there same, points] at also
  exact Option.some.inj also

theorem free_unpaired (matching : Matching cfg logs) {r : GateAccessLog} (there : r ∈ logs)
    (free : r.pairedLogId = none) (j : Nat) : ¬ Paired logs r.id j := by
  intro paired
  obtain ⟨s, other, same, points⟩ := paired
  rw [row_unique matching.keyed other there same, free] at points
  cases points

section Bare
variable {r s : GateAccessLog} (same : r.bare = s.bare)
include same

theorem bare_id : r.id = s.id :=
  show r.bare.id = s.bare.id by rw [same]

theorem bare_direction : r.direction = s.direction :=
  show r.bare.direction = s.bare.direction by rw [same]

theorem bare_userId : r.userId = s.userId :=
  show r.bare.userId = s.bare.userId by rw [same]

theorem bare_accessTime : r.accessTime = s.accessTime :=
  show r.bare.accessTime = s.bare.accessTime by rw [same]

end Bare

def SameRows (a b : List GateAccessLog) : Prop :=
  (a.map GateAccessLog.bare).Perm (b.map GateAccessLog.bare)

theorem twin (same : SameRows a b) {r : GateAccessLog} (there : r ∈ a) : ∃ s ∈ b, s.bare = r.bare :=
  List.mem_map.mp (same.mem_iff.mp (List.mem_map_of_mem there))

/-- The first table has no pair that the second one has not. -/
structure Behind (cfg : PairingConfig) (a b : List GateAccessLog) : Prop where
  matching : Matching cfg a
  matching' : Matching cfg b
  rows : SameRows a b
  times : (a.map GateAccessLog.accessTime).Nodup
  pairs : ∀ i j, Paired a i j → Paired b i j

theorem unpaired_free {r : GateAccessLog} (there : r ∈ logs) (unpaired : ∀ j, ¬ Paired logs r.id j) :
    r.pairedLogId = none := by
  cases points : r.pairedLogId with
  | none => rfl
  | some j => exact absurd ⟨r, there, rfl, points⟩ (unpaired j)

theorem Behind.free_twin (behind : Behind cfg a b) {r : GateAccessLog} (there : r ∈ b)
    (free : r.pairedLogId = none) : ∃ s ∈ a, s.bare = r.bare ∧ s.pairedLogId = none := by
  obtain ⟨s, listed, bare⟩ := twin behind.rows.symm there
  refine ⟨s, listed, bare, unpaired_free listed ?_⟩
  intro j paired
  have same : s.id = r.id := bare_id bare
  exact free_unpaired behind.matching' there free j (same ▸ behind.pairs s.id j paired)

theorem candidate_twin {leave leave' r r' : GateAccessLog} (same_leave : leave'.bare = leave.bare)
    (same : r'.bare = r.bare) (free : r'.pairedLogId = none) (candidate : IsCandidate cfg leave r) :
    IsCandidate cfg leave' r' := by
  have direction : r'.direction = r.direction := bare_direction same
  have user : r'.userId = r.userId := bare_userId same
  have time : r'.accessTime = r.accessTime := bare_accessTime same
  have leave_user : leave'.userId = leave.userId := bare_userId same_leave
  have leave_time : leave'.accessTime = leave.accessTime :=
    bare_accessTime same_leave
  obtain ⟨enters, -, identified, same_user, before, within⟩ := candidate
  refine ⟨direction.trans enters, free, ?_, ?_, ?_, ?_⟩
  · rw [user]
    exact identified
  · rw [user, leave_user]
    exact same_user
  · rw [time, leave_time]
    exact before
  · rw [time, leave_time]
    exact within

theorem Behind.leave_twin (behind : Behind cfg a b) {leave leave' : GateAccessLog}
    (there : leave ∈ a) (there' : leave' ∈ b) (same : leave'.id = leave.id) :
    leave'.bare = leave.bare := by
  obtain ⟨s, listed, bare⟩ := twin behind.rows.symm there'
  have ids : s.id = leave'.id := bare_id bare
  rw [row_unique behind.matching.keyed listed there (ids.trans same)] at bare
  exact bare.symm

theorem time_unique (times : (logs.map GateAccessLog.accessTime).Nodup) {r s : GateAccessLog}
    (hr : r ∈ logs) (hs : s ∈ logs) (same : r.accessTime = s.accessTime) : r = s :=
  List.inj_on_of_nodup_map times hr hs same

theorem Behind.skips (behind : Behind cfg a b) {id : Nat} {done : List GateAccessLog}
    (skipped : PairStep cfg a id (.skipped, done)) {leave' enter' : GateAccessLog}
    (this : leave'.id = id) (pairable : Pairable cfg b leave' enter') : False := by
  obtain ⟨leave, leave_there, leave_bare, leave_free⟩ :=
    behind.free_twin pairable.leave_there pairable.leave_free
  have leave_id : leave.id = leave'.id := bare_id leave_bare
  have leaves : leave.direction = leave'.direction := bare_direction leave_bare
  have free : IsUnpairedLeave id leave :=
    ⟨leave_id.trans this, leaves.trans pairable.leaves, leave_free⟩
  cases skipped with
  | missing gone => exact gone leave leave_there free
  | orphan first first_there first_free alone =>
    obtain ⟨enter, enter_there, enter_bare, enter_free⟩ :=
      behind.free_twin pairable.enter_there pairable.candidate.2.1
    have same := row_unique behind.matching.keyed first_there leave_there
      (first_free.1.trans (leave_id.trans this).symm)
    rw [same] at alone
    exact alone enter enter_there (candidate_twin leave_bare enter_bare enter_free pairable.candidate)

theorem Behind.partner_free (behind : Behind cfg a b) {final : List GateAccessLog}
    (matched : Matching cfg final) (bound : ∀ i j, Paired b i j → Paired final i j)
    {leave enter : GateAccessLog} (found : Paired final leave.id enter.id)
    (unpaired : ¬ Paired b leave.id enter.id) :
    (∀ j, ¬ Paired b leave.id j) ∧ ∀ j, ¬ Paired b enter.id j := by
  constructor
  · intro j paired
    rw [paired_unique matched (bound _ _ paired) found] at paired
    exact unpaired paired
  · intro j paired
    rw [paired_unique matched (bound _ _ paired) (paired_symm matched found)] at paired
    exact unpaired (paired_symm behind.matching' paired)

theorem Behind.finds (behind : Behind cfg a b) {leave enter : GateAccessLog}
    (pairable : Pairable cfg a leave enter) (leave_free : ∀ j, ¬ Paired b leave.id j)
    (enter_free : ∀ j, ¬ Paired b enter.id j) :
    ∃ leave' ∈ b, IsUnpairedLeave leave.id leave' ∧ ∃ enter' ∈ b, IsCandidate cfg leave' enter' := by
  obtain ⟨leave', leave_there, leave_bare⟩ := twin behind.rows pairable.leave_there
  obtain ⟨enter', enter_there, enter_bare⟩ := twin behind.rows pairable.enter_there
  have leave_id := bare_id leave_bare
  have enter_id := bare_id enter_bare
  have leave_open := unpaired_free leave_there (leave_id ▸ leave_free)
  have enter_open := unpaired_free enter_there (enter_id ▸ enter_free)
  refine ⟨leave', leave_there, ⟨leave_id, ?_, leave_open⟩, enter', enter_there, ?_⟩
  · exact (bare_direction leave_bare).trans pairable.leaves
  · exact candidate_twin leave_bare enter_bare enter_open pairable.candidate

theorem Behind.picks (behind : Behind cfg a b) {leave enter leave' enter' : GateAccessLog}
    (pairable : Pairable cfg a leave enter)
    (latest : ∀ r ∈ a, IsCandidate cfg leave r → r.accessTime ≤ enter.accessTime)
    (same : leave'.id = leave.id) (pairable' : Pairable cfg b leave' enter')
    (latest' : ∀ r ∈ b, IsCandidate cfg leave' r → r.accessTime ≤ enter'.accessTime)
    (free : ∀ j, ¬ Paired b enter.id j) : enter'.id = enter.id := by
  have leave_bare := behind.leave_twin pairable.leave_there pairable'.leave_there same
  obtain ⟨mine, mine_there, mine_bare⟩ := twin behind.rows pairable.enter_there
  obtain ⟨theirs, theirs_there, theirs_bare, theirs_free⟩ :=
    behind.free_twin pairable'.enter_there pairable'.candidate.2.1
  have mine_id : mine.id = enter.id := bare_id mine_bare
  have mine_time : mine.accessTime = enter.accessTime := bare_accessTime mine_bare
  have theirs_time : theirs.accessTime = enter'.accessTime :=
    bare_accessTime theirs_bare
  have mine_free : mine.pairedLogId = none := unpaired_free mine_there (mine_id ▸ free)
  have not_later := latest' mine mine_there
    (candidate_twin leave_bare mine_bare mine_free pairable.candidate)
  have not_earlier := latest theirs theirs_there
    (candidate_twin leave_bare.symm theirs_bare theirs_free pairable'.candidate)
  have same_row : theirs = enter :=
    time_unique behind.times theirs_there pairable.enter_there (by omega)
  have ids : theirs.id = enter'.id := bare_id theirs_bare
  rw [← ids, same_row]

theorem Behind.same_pick (behind : Behind cfg a b) {leave enter leave' enter' : GateAccessLog}
    (pairable : Pairable cfg a leave enter)
    (same : leave'.id = leave.id) (picked : enter'.id = enter.id)
    (pairable' : Pairable cfg b leave' enter') :
    ∀ i j, Paired (writePair a leave enter) i j → Paired (writePair b leave' enter') i j := by
  intro i j paired
  rw [paired_writePair behind.matching'.keyed pairable', same, picked]
  rcases (paired_writePair behind.matching.keyed pairable).mp paired with old | new
  · exact Or.inl (behind.pairs i j old)
  · exact Or.inr new

/-- One leave row in both tables, where the pairs of the second are among those the first one ends
    up with: the first stays behind, and no pair comes in that the first does not end up with. -/
theorem Behind.step (behind : Behind cfg a b) (id : Nat) {final : List GateAccessLog}
    (reaches : Extends cfg (pairOneInOwnTx cfg a id).2 final)
    (bound : ∀ i j, Paired b i j → Paired final i j) :
    (∀ i j, Paired (pairOneInOwnTx cfg a id).2 i j → Paired (pairOneInOwnTx cfg b id).2 i j) ∧
      ∀ i j, Paired (pairOneInOwnTx cfg b id).2 i j → Paired final i j := by
  have here := pairOne_cases behind.matching id
  have there := pairOne_cases behind.matching' id
  generalize pairOneInOwnTx cfg a id = done at here reaches
  generalize pairOneInOwnTx cfg b id = done' at there
  obtain ⟨outcome, after⟩ := done
  cases outcome with
  | skipped =>
    have unchanged : after = a := by cases here <;> rfl
    cases there with
    | missing => exact ⟨unchanged ▸ behind.pairs, bound⟩
    | orphan => exact ⟨unchanged ▸ behind.pairs, bound⟩
    | pair leave' enter' this pairable' _ => exact (behind.skips here this pairable').elim
  | paired =>
    cases here with
    | pair leave enter this pairable latest =>
      have new := (paired_writePair behind.matching.keyed pairable).mpr (Or.inr (Or.inl ⟨rfl, rfl⟩))
      have found : Paired final leave.id enter.id := reaches.grows _ _ new
      have kept : Paired b leave.id enter.id →
          ∀ i j, Paired (writePair a leave enter) i j → Paired b i j := by
        intro known i j paired
        rcases (paired_writePair behind.matching.keyed pairable).mp paired with
          old | ⟨rfl, rfl⟩ | ⟨rfl, rfl⟩
        · exact behind.pairs i j old
        · exact known
        · exact paired_symm behind.matching' known
      cases there with
      | missing gone =>
        by_cases known : Paired b leave.id enter.id
        · exact ⟨kept known, bound⟩
        · have free := behind.partner_free reaches.matching bound found known
          obtain ⟨leave', there', unpaired, -⟩ := behind.finds pairable free.1 free.2
          rw [this] at unpaired
          exact absurd unpaired (gone leave' there')
      | orphan first first_there first_free alone =>
        by_cases known : Paired b leave.id enter.id
        · exact ⟨kept known, bound⟩
        · have free := behind.partner_free reaches.matching bound found known
          obtain ⟨leave', there', unpaired, enter', enter_there, candidate⟩ :=
            behind.finds pairable free.1 free.2
          have same := row_unique behind.matching'.keyed first_there there'
            (first_free.1.trans (unpaired.1.trans this).symm)
          rw [same] at alone
          exact absurd candidate (alone enter' enter_there)
      | pair leave' enter' this' pairable' latest' =>
        have same : leave'.id = leave.id := this'.trans this.symm
        have unknown : ¬ Paired b leave.id enter.id := by
          rw [← same]
          exact free_unpaired behind.matching' pairable'.leave_there pairable'.leave_free _
        have free := behind.partner_free reaches.matching bound found unknown
        have picked := behind.picks pairable latest same pairable' latest' free.2
        refine ⟨behind.same_pick pairable same picked pairable', ?_⟩
        intro i j paired
        rcases (paired_writePair behind.matching'.keyed pairable').mp paired with
          old | ⟨rfl, rfl⟩ | ⟨rfl, rfl⟩
        · exact bound i j old
        · rw [same, picked]
          exact found
        · rw [same, picked]
          exact paired_symm reaches.matching found

theorem Extends.same_rows (extends_to : Extends cfg a b) : SameRows b a :=
  List.Perm.of_eq extends_to.rows

theorem bare_times (logs : List GateAccessLog) :
    (logs.map GateAccessLog.bare).map GateAccessLog.accessTime =
      logs.map GateAccessLog.accessTime := by
  rw [List.map_map]
  rfl

theorem SameRows.times (same : SameRows a b) :
    (a.map GateAccessLog.accessTime).Perm (b.map GateAccessLog.accessTime) := by
  rw [← bare_times a, ← bare_times b]
  exact same.map _

theorem Behind.completes (behind : Behind cfg a b) (ids : List Nat) (ra rb : PairBatchResult)
    (bound : ∀ i j, Paired b i j → Paired (pairEach cfg ids ra a).2 i j) :
    SamePairs (pairEach cfg ids rb b).2 (pairEach cfg ids ra a).2 := by
  induction ids generalizing a b ra rb with
  | nil => exact fun i j => ⟨bound i j, behind.pairs i j⟩
  | cons id ids ih =>
    have one := pairOne_extends behind.matching id
    have one' := pairOne_extends behind.matching' id
    have reaches := pairEach_extends ids (ra.count (pairOneInOwnTx cfg a id).1) one.matching
    have step := behind.step id reaches bound
    have rows := one.same_rows.trans (behind.rows.trans one'.same_rows.symm)
    have times := one.same_rows.times.nodup_iff.mpr behind.times
    exact ih ⟨one.matching, one'.matching, rows, times, step.1⟩ _ _ step.2

theorem Extends.idle (extends_to : Extends cfg a b) {id : Nat}
    (idle : ∀ r ∈ a, ¬ IsUnpairedLeave id r) : ∀ r ∈ b, ¬ IsUnpairedLeave id r := by
  intro r there free
  obtain ⟨s, listed, bare⟩ := twin extends_to.same_rows there
  have ids := bare_id bare
  have open_row : s.pairedLogId = none := by
    refine unpaired_free listed ?_
    intro j paired
    exact free_unpaired extends_to.matching there free.2.2 j (ids ▸ extends_to.grows _ _ paired)
  exact idle s listed ⟨ids.trans free.1, (bare_direction bare).trans free.2.1, open_row⟩

theorem pairOne_idle (matching : Matching cfg logs) {id : Nat}
    (idle : ∀ r ∈ logs, ¬ IsUnpairedLeave id r) : (pairOneInOwnTx cfg logs id).2 = logs := by
  have step := pairOne_cases matching id
  generalize pairOneInOwnTx cfg logs id = done at step
  cases step with
  | missing => rfl
  | orphan => rfl
  | pair leave enter this pairable _ =>
    exact absurd ⟨this, pairable.leaves, pairable.leave_free⟩ (idle leave pairable.leave_there)

theorem pairEach_filter (p : Nat → Bool) (ids : List Nat) (r r' : PairBatchResult)
    (matching : Matching cfg logs)
    (idle : ∀ id ∈ ids, p id = false → ∀ r ∈ logs, ¬ IsUnpairedLeave id r) :
    (pairEach cfg (ids.filter p) r logs).2 = (pairEach cfg ids r' logs).2 := by
  induction ids generalizing logs r r' with
  | nil => rfl
  | cons id ids ih =>
    have one := pairOne_extends matching id
    cases kept : p id with
    | true =>
      rw [List.filter_cons_of_pos kept]
      refine ih _ _ one.matching ?_
      intro other later left_out
      exact one.idle (idle other (List.mem_cons_of_mem _ later) left_out)
    | false =>
      have nothing := pairOne_idle matching (idle id List.mem_cons_self kept)
      rw [List.filter_cons_of_neg (by simp [kept])]
      simp only [pairEach, nothing]
      exact ih _ _ matching fun other later => idle other (List.mem_cons_of_mem _ later)

end Batches

section Scan
variable {cfg : PairingConfig} {a b logs : List GateAccessLog} {now : Nat}

/-- Rows of one time are one row, they are few enough for one batch, and all in its window. -/
structure Scannable (cfg : PairingConfig) (now : Nat) (logs : List GateAccessLog) : Prop where
  times : (logs.map GateAccessLog.accessTime).Nodup
  few : logs.length ≤ batch
  inside : ∀ r ∈ logs, now ≤ r.accessTime + cfg.scan

def Earlier (a b : GateAccessLog) : Prop := a.accessTime ≤ b.accessTime

instance (a b : GateAccessLog) : Decidable (Earlier a b) :=
  inferInstanceAs (Decidable (a.accessTime ≤ b.accessTime))

instance : Std.Total Earlier := ⟨fun a b => Nat.le_total a.accessTime b.accessTime⟩

instance : IsTrans GateAccessLog Earlier := ⟨fun _ _ _ first second => Nat.le_trans first second⟩

/-- The leave rows that a batch would go through if none were paired. -/
def leaveOrder (logs : List GateAccessLog) : List GateAccessLog :=
  ((logs.map GateAccessLog.bare).filter fun r => r.direction = .leave ∧ r.userId.isSome = true)
    |>.insertionSort Earlier

theorem sorted_unique (times : (logs.map GateAccessLog.accessTime).Nodup)
    {xs ys : List GateAccessLog} (listed : ∀ x ∈ xs, x ∈ logs) (listed' : ∀ y ∈ ys, y ∈ logs)
    (sorted : xs.Pairwise Earlier) (sorted' : ys.Pairwise Earlier) (same : xs.Perm ys) : xs = ys := by
  refine List.Perm.eq_of_pairwise ?_ sorted sorted' same
  intro x y hx hy first second
  exact time_unique times (listed x hx) (listed' y hy) (Nat.le_antisymm first second)

theorem leaveOrder_perm (logs : List GateAccessLog) : (leaveOrder logs).Perm
    ((logs.map GateAccessLog.bare).filter fun r => r.direction = .leave ∧ r.userId.isSome = true) :=
  List.perm_insertionSort _ _

theorem leaveOrder_listed {x : GateAccessLog} (there : x ∈ leaveOrder logs) :
    x ∈ logs.map GateAccessLog.bare :=
  List.mem_of_mem_filter ((leaveOrder_perm logs).mem_iff.mp there)

theorem leaveOrder_same (same : SameRows a b) (times : (a.map GateAccessLog.accessTime).Nodup) :
    leaveOrder a = leaveOrder b := by
  have bare_nodup : ((a.map GateAccessLog.bare).map GateAccessLog.accessTime).Nodup := by
    rw [bare_times]
    exact times
  refine sorted_unique bare_nodup (fun _ there => leaveOrder_listed there) ?_
    (List.pairwise_insertionSort _ _) (List.pairwise_insertionSort _ _) ?_
  · intro y there
    exact same.mem_iff.mpr (leaveOrder_listed there)
  · exact (leaveOrder_perm a).trans ((same.filter _).trans (leaveOrder_perm b).symm)

def isFree (logs : List GateAccessLog) (id : Nat) : Bool :=
  decide (∃ r ∈ logs, r.id = id ∧ r.pairedLogId = none)

theorem isFree_iff (keyed : (logs.map GateAccessLog.id).Nodup) {r : GateAccessLog} (there : r ∈ logs) :
    isFree logs r.id = true ↔ r.pairedLogId = none := by
  rw [isFree, decide_eq_true_eq]
  constructor
  · intro found
    obtain ⟨s, listed, same, free⟩ := found
    rw [← row_unique keyed listed there same]
    exact free
  · intro free
    exact ⟨r, there, rfl, free⟩

theorem scanned_bare (keyed : (logs.map GateAccessLog.id).Nodup) (scannable : Scannable cfg now logs) :
    (scannedLeaves cfg logs now).map GateAccessLog.bare =
      (leaveOrder logs).filter fun x => isFree logs x.id := by
  have all : scannedLeaves cfg logs now =
      (logs.filter fun r => IsScanned cfg now r).insertionSort Earlier := by
    refine List.take_of_length_le ?_
    rw [List.length_insertionSort]
    exact Nat.le_trans (List.length_filter_le _ _) scannable.few
  rw [all]
  have bare_nodup : ((logs.map GateAccessLog.bare).map GateAccessLog.accessTime).Nodup := by
    rw [bare_times]
    exact scannable.times
  refine sorted_unique bare_nodup ?_ ?_ ?_ ?_ ?_
  · intro x there
    obtain ⟨r, listed, rfl⟩ := List.mem_map.mp there
    exact List.mem_map_of_mem (List.mem_of_mem_filter ((List.mem_insertionSort _).mp listed))
  · intro y there
    exact leaveOrder_listed (List.mem_of_mem_filter there)
  · rw [List.pairwise_map]
    exact List.pairwise_insertionSort Earlier _
  · exact (List.pairwise_insertionSort Earlier _).filter _
  · refine ((List.perm_insertionSort Earlier _).map _).trans ?_
    refine List.Perm.trans ?_ ((leaveOrder_perm logs).filter _).symm
    refine List.Perm.of_eq ?_
    rw [List.filter_filter, List.filter_map]
    refine congrArg _ (List.filter_congr ?_)
    intro r there
    have free := isFree_iff keyed there
    have inside := scannable.inside r there
    have bare_free : isFree logs r.bare.id = true ↔ r.pairedLogId = none := free
    rw [Bool.eq_iff_iff]
    simp only [Function.comp_apply, decide_eq_true_eq, Bool.and_eq_true, bare_free]
    constructor
    · intro scanned
      exact ⟨scanned.2.1, scanned.1, scanned.2.2.1⟩
    · intro waiting
      exact ⟨waiting.2.1, waiting.1, waiting.2.2, inside⟩

theorem scanned_ids (keyed : (logs.map GateAccessLog.id).Nodup) (scannable : Scannable cfg now logs) :
    (scannedLeaves cfg logs now).map GateAccessLog.id =
      ((leaveOrder logs).map GateAccessLog.id).filter (isFree logs) := by
  calc (scannedLeaves cfg logs now).map GateAccessLog.id
      = ((scannedLeaves cfg logs now).map GateAccessLog.bare).map GateAccessLog.id := by
        rw [List.map_map]
        rfl
    _ = ((leaveOrder logs).filter fun x => isFree logs x.id).map GateAccessLog.id := by
        rw [scanned_bare keyed scannable]
    _ = ((leaveOrder logs).map GateAccessLog.id).filter (isFree logs) := by
        rw [List.filter_map]
        rfl

theorem pairBatch_all (matching : Matching cfg logs) (scannable : Scannable cfg now logs)
    (result : PairBatchResult) : (pairBatch cfg logs now).2 =
      (pairEach cfg ((leaveOrder logs).map GateAccessLog.id) result logs).2 := by
  rw [pairBatch, scanned_ids matching.keyed scannable]
  refine pairEach_filter _ _ _ _ matching ?_
  intro id _ taken r there free
  have open_row : isFree logs id = true := decide_eq_true ⟨r, there, free.1, free.2.2⟩
  rw [open_row] at taken
  cases taken

theorem pairBatch_extends (matching : Matching cfg logs) (now : Nat) :
    Extends cfg logs (pairBatch cfg logs now).2 :=
  pairEach_extends _ _ matching

theorem Behind.batch {na nb : Nat} (behind : Behind cfg a b) (sa : Scannable cfg na a)
    (sb : Scannable cfg nb b) (bound : ∀ i j, Paired b i j → Paired (pairBatch cfg a na).2 i j) :
    SamePairs (pairBatch cfg b nb).2 (pairBatch cfg a na).2 := by
  rw [pairBatch_all behind.matching' sb ⟨0, 0, 0⟩, ← leaveOrder_same behind.rows behind.times]
  rw [pairBatch_all behind.matching sa ⟨0, 0, 0⟩] at bound ⊢
  exact behind.completes _ _ _ bound

theorem Scannable.same (scannable : Scannable cfg now a) (same : SameRows a b) :
    Scannable cfg now b where
  times := same.times.nodup_iff.mp scannable.times
  few := by
    have lengths := same.length_eq
    rw [List.length_map, List.length_map] at lengths
    exact lengths ▸ scannable.few
  inside := by
    intro r there
    obtain ⟨s, listed, bare⟩ := twin same.symm there
    rw [← bare_accessTime bare]
    exact scannable.inside s listed

theorem pairEach_counts (ids : List Nat) (result : PairBatchResult) (matching : Matching cfg logs)
    (nothing : ∀ i j, Paired (pairEach cfg ids result logs).2 i j → Paired logs i j) :
    (pairEach cfg ids result logs).1.paired = result.paired := by
  induction ids generalizing result logs with
  | nil => rfl
  | cons id ids ih =>
    have one := pairOne_extends matching id
    have step := pairOne_cases matching id
    simp only [pairEach] at nothing ⊢
    generalize pairOneInOwnTx cfg logs id = done at step one nothing
    cases step with
    | missing => exact ih _ matching nothing
    | orphan => exact ih _ matching nothing
    | pair leave enter this pairable _ =>
      have new := (paired_writePair matching.keyed pairable).mpr (Or.inr (Or.inl ⟨rfl, rfl⟩))
      have kept := (pairEach_extends ids (result.count .paired) one.matching).grows _ _ new
      exact absurd (nothing _ _ kept)
        (free_unpaired matching pairable.leave_there pairable.leave_free _)

theorem until_none (rest : List Nat) (matching : Matching cfg logs) {first second : Nat}
    (scan_first : Scannable cfg first logs) (scan_second : Scannable cfg second logs) :
    ∃ settled, pairUntilNone cfg (first :: second :: rest) logs = some settled ∧
      SamePairs settled (pairBatch cfg logs first).2 := by
  have one := pairBatch_extends matching first
  have behind : Behind cfg logs (pairBatch cfg logs first).2 :=
    ⟨matching, one.matching, one.same_rows.symm, scan_first.times, one.grows⟩
  have again := behind.batch scan_first (scan_second.same one.same_rows.symm) fun _ _ known => known
  have none_left : (pairBatch cfg (pairBatch cfg logs first).2 second).1.paired = 0 :=
    pairEach_counts _ ⟨0, 0, 0⟩ one.matching fun i j paired => (again i j).mp paired
  by_cases done : (pairBatch cfg logs first).1.paired = 0
  · refine ⟨(pairBatch cfg logs first).2, ?_, fun _ _ => Iff.rfl⟩
    simp only [pairUntilNone, if_pos done]
  · refine ⟨(pairBatch cfg (pairBatch cfg logs first).2 second).2, ?_, again⟩
    simp only [pairUntilNone, if_neg done, if_pos none_left]

end Scan

section Arrivals
variable {cfg : PairingConfig} {logs : List GateAccessLog} {arrivals all : List Arrival}

def Arrival.row (a : Arrival) : GateAccessLog := a.input.row a.id

theorem onVehicleEvent_extends (matching : Matching cfg logs) (a : Arrival) :
    Extends cfg (writeGateLog logs a.id a.input) (onVehicleEvent cfg logs a) := by
  have written := matching_writeGateLog matching a.id a.input
  unfold onVehicleEvent
  cases a.input.direction with
  | enter => exact .refl written
  | leave => exact pairOne_extends written a.id

theorem arrived (handle : List GateAccessLog → Arrival → List GateAccessLog)
    (extends_to : ∀ logs a, Matching cfg logs →
      Extends cfg (writeGateLog logs a.id a.input) (handle logs a))
    (matching : Matching cfg logs)
    (keyed : (logs.map GateAccessLog.id ++ arrivals.map Arrival.id).Nodup) :
    Matching cfg (arrivals.foldl handle logs) ∧
      (arrivals.foldl handle logs).map GateAccessLog.bare =
        logs.map GateAccessLog.bare ++ arrivals.map Arrival.row := by
  induction arrivals generalizing logs with
  | nil => exact ⟨matching, by simp⟩
  | cons a arrivals ih =>
    have fresh : ∀ r ∈ logs, r.id ≠ a.id := by
      intro r there same
      have apart := (List.nodup_append.mp keyed).2.2
      exact apart r.id (List.mem_map_of_mem there) a.id (by simp) same
    have one := extends_to logs a matching
    have rows : (handle logs a).map GateAccessLog.bare =
        logs.map GateAccessLog.bare ++ [a.row] := by
      rw [one.rows, writeGateLog, if_pos fresh, List.map_append]
      rfl
    have ids : (handle logs a).map GateAccessLog.id = logs.map GateAccessLog.id ++ [a.id] := by
      have bare_ids := congrArg (List.map GateAccessLog.id) rows
      rw [List.map_append, List.map_map, List.map_map] at bare_ids
      exact bare_ids
    have next := ih one.matching (by rw [ids, List.append_assoc]; exact keyed)
    refine ⟨next.1, ?_⟩
    rw [List.foldl_cons, next.2, rows, List.append_assoc]
    rfl

theorem ingest_rows (cfg : PairingConfig) (keyed : (arrivals.map Arrival.id).Nodup) :
    Matching cfg (ingest cfg arrivals) ∧
      (ingest cfg arrivals).map GateAccessLog.bare = arrivals.map Arrival.row :=
  arrived (onVehicleEvent cfg) (fun _ a matching => onVehicleEvent_extends matching a) matching_nil
    keyed

theorem writeAll_rows (cfg : PairingConfig) (keyed : (arrivals.map Arrival.id).Nodup) :
    Matching cfg (writeAll arrivals) ∧
      (writeAll arrivals).map GateAccessLog.bare = arrivals.map Arrival.row := by
  refine arrived _ ?_ matching_nil keyed
  intro logs a matching
  exact .refl (matching_writeGateLog matching a.id a.input)

theorem writeAll_free (start : List GateAccessLog) (free : ∀ r ∈ start, r.pairedLogId = none) :
    ∀ r ∈ arrivals.foldl (fun logs a => writeGateLog logs a.id a.input) start,
      r.pairedLogId = none := by
  induction arrivals generalizing start with
  | nil => exact free
  | cons a arrivals ih =>
    refine ih _ ?_
    intro r there
    simp only [writeGateLog] at there
    split at there
    · rcases List.mem_append.mp there with old | new
      · exact free r old
      · rw [List.mem_singleton.mp new]
        rfl
    · exact free r there

theorem writeAll_unpaired (arrivals : List Arrival) (i j : Nat) : ¬ Paired (writeAll arrivals) i j := by
  intro paired
  obtain ⟨r, there, -, points⟩ := paired
  rw [writeAll_free [] (fun _ none_there => absurd none_there List.not_mem_nil) r there] at points
  cases points

/-- A finite set of gate logs: ids of their own, times of their own, fewer than a batch takes. -/
structure Distinct (arrivals : List Arrival) : Prop where
  ids : (arrivals.map Arrival.id).Nodup
  times : (arrivals.map fun a => a.input.accessTime).Nodup
  few : arrivals.length < batch

/-- All in the scan window of a batch at that instant. -/
def InScan (cfg : PairingConfig) (arrivals : List Arrival) (now : Nat) : Prop :=
  ∀ a ∈ arrivals, now ≤ a.input.accessTime + cfg.scan

instance (now : Nat) : Decidable (InScan cfg arrivals now) :=
  inferInstanceAs (Decidable (∀ a ∈ arrivals, now ≤ a.input.accessTime + cfg.scan))

theorem rows_scannable {now : Nat} (distinct : Distinct arrivals) (inside : InScan cfg arrivals now) :
    Scannable cfg now (arrivals.map Arrival.row) where
  times := by
    rw [List.map_map]
    exact distinct.times
  few := by
    rw [List.length_map]
    exact Nat.le_of_lt distinct.few
  inside := by
    intro r there
    obtain ⟨a, listed, rfl⟩ := List.mem_map.mp there
    exact inside a listed

theorem bare_rows (arrivals : List Arrival) :
    (arrivals.map Arrival.row).map GateAccessLog.bare = arrivals.map Arrival.row := by
  rw [List.map_map]
  rfl

/-- Pairing at every arrival comes to what the batch over everything comes to exactly when it makes
    no pair that this batch does not make. -/
theorem delivery_order_iff (same_logs : arrivals.Perm all) (distinct : Distinct arrivals)
    {now first second : Nat} {rest : List Nat}
    (inside : ∀ t ∈ [now, first, second], InScan cfg arrivals t) :
    ∃ settled, pairUntilNone cfg (first :: second :: rest) (ingest cfg arrivals) = some settled ∧
      (SamePairs settled (pairBatch cfg (writeAll all) now).2 ↔
        ∀ i j, Paired (ingest cfg arrivals) i j → Paired (pairBatch cfg (writeAll all) now).2 i j) := by
  obtain ⟨matching, rows⟩ := ingest_rows cfg distinct.ids
  obtain ⟨matching', rows'⟩ := writeAll_rows cfg ((same_logs.map Arrival.id).nodup_iff.mp distinct.ids)
  have listed : SameRows (arrivals.map Arrival.row) (ingest cfg arrivals) := by
    rw [SameRows, bare_rows, rows]
  have listed' : SameRows (arrivals.map Arrival.row) (writeAll all) := by
    rw [SameRows, bare_rows, rows']
    exact same_logs.map _
  have scan : ∀ t ∈ [now, first, second], Scannable cfg t (arrivals.map Arrival.row) :=
    fun t there => rows_scannable distinct (inside t there)
  have scan_now := (scan now (by simp)).same listed'
  have scan_first := (scan first (by simp)).same listed
  have scan_second := (scan second (by simp)).same listed
  obtain ⟨settled, stops, pairs⟩ := until_none rest matching scan_first scan_second
  refine ⟨settled, stops, ?_⟩
  constructor
  · intro agree i j paired
    exact (agree i j).mp ((pairs i j).mpr ((pairBatch_extends matching first).grows i j paired))
  · intro bound i j
    have behind : Behind cfg (writeAll all) (ingest cfg arrivals) :=
      ⟨matching', matching, listed'.symm.trans listed, scan_now.times,
        fun i j paired => absurd paired (writeAll_unpaired all i j)⟩
    exact (pairs i j).trans (behind.batch scan_now scan_first bound i j)

def inTurn : List Arrival :=
  [⟨1, ⟨some 7, .enter, 1000⟩⟩, ⟨2, ⟨some 7, .enter, 2000⟩⟩, ⟨3, ⟨some 7, .leave, 3000⟩⟩,
   ⟨4, ⟨some 7, .leave, 4000⟩⟩]

def enterLate : List Arrival :=
  [⟨1, ⟨some 7, .enter, 1000⟩⟩, ⟨3, ⟨some 7, .leave, 3000⟩⟩, ⟨2, ⟨some 7, .enter, 2000⟩⟩,
   ⟨4, ⟨some 7, .leave, 4000⟩⟩]

theorem inTurn_alike :
    ∃ settled, pairUntilNone .default [5000, 5000] (ingest .default inTurn) = some settled ∧
      (SamePairs settled (pairBatch .default (writeAll enterLate) 5000).2 ↔
        ∀ i j, Paired (ingest .default inTurn) i j →
          Paired (pairBatch .default (writeAll enterLate) 5000).2 i j) :=
  delivery_order_iff (by decide) ⟨by decide, by decide, by decide⟩ (by decide +kernel)

theorem enterLate_differs :
    enterLate.Perm inTurn ∧ Distinct enterLate ∧ InScan .default enterLate 5000 ∧
      ∃ settled, pairUntilNone .default [5000, 5000] (ingest .default enterLate) = some settled ∧
        Paired settled 3 1 ∧ Paired (pairBatch .default (writeAll inTurn) 5000).2 3 2 ∧
        ¬ SamePairs settled (pairBatch .default (writeAll inTurn) 5000).2 := by
  have agrees : Paired (pairBatch .default (writeAll inTurn) 5000).2 3 2 := by decide +kernel
  have settles : pairUntilNone .default [5000, 5000] (ingest .default enterLate) =
      some [⟨1, some 7, .enter, 1000, some 3, some 2⟩, ⟨3, some 7, .leave, 3000, some 1, some 2⟩,
        ⟨2, some 7, .enter, 2000, some 4, some 2⟩, ⟨4, some 7, .leave, 4000, some 2, some 2⟩] := by
    decide +kernel
  refine ⟨by decide, ⟨by decide, by decide, by decide⟩, by decide +kernel, _, settles, by decide,
    agrees, ?_⟩
  intro same
  exact absurd ((same 3 2).mpr agrees) (by decide)

end Arrivals
end Gates
