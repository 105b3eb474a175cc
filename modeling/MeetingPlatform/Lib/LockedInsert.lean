import MeetingPlatform.Lib.CallPool

/- Transactions that take a lock on a key, look for a row, and insert one where they find none. What
   a transaction has inserted is seen by the others from its commit on. -/
namespace LockedInserts
open LabelledRuns CallPools
variable {Row Lock Request : Type}

/-- The row that a call would insert, and whether its `INSERT` is going to fail. -/
structure Attempt (Row : Type) where
  row : Row
  fails : Bool
  deriving DecidableEq, Repr

/-- `prepare` is what a call computes before its transaction, if it gets there; `found` is the
    condition of the look-up, on a stored row and the one to be inserted. -/
structure Insertion (Row Lock Request : Type) where
  prepare : Nat → Request → Option (Attempt Row)
  lock : Row → Lock
  found : Row → Row → Bool

/-- The committed rows, the locks that are held, and the rows that were left out. -/
structure Store (Row Lock : Type) where
  rows : List Row
  held : List Lock
  dropped : List Row

def Store.empty : Store Row Lock := ⟨[], [], []⟩

inductive Stage (Row Request : Type) where
  | preparing (r : Request)
  | locking (a : Attempt Row)
  | selecting (a : Attempt Row)
  | inserting (a : Attempt Row)
  | committing (row : Row)
  | releasing (row : Row)

def Stage.critical : Stage Row Request → Option Row
  | .preparing _ | .locking _ => none
  | .selecting a | .inserting a => some a.row
  | .committing row | .releasing row => some row

def Stage.cleared : Stage Row Request → Option Row
  | .inserting a => some a.row
  | .committing row => some row
  | .preparing _ | .locking _ | .selecting _ | .releasing _ => none

section Model
variable [DecidableEq Lock] (t : Insertion Row Lock Request)

def Insertion.release (s : Store Row Lock) (row : Row) : Store Row Lock :=
  { s with held := s.held.erase (t.lock row) }

def Insertion.access (s : Store Row Lock) (now : Nat) :
    Stage Row Request → Store Row Lock × Option (Stage Row Request)
  | .preparing r => (s, (t.prepare now r).map .locking)
  | .locking a =>
    if t.lock a.row ∈ s.held then (s, some (.locking a))
    else ({ s with held := t.lock a.row :: s.held }, some (.selecting a))
  | .selecting a =>
    if s.rows.any fun r => t.found r a.row then
      ({ s with dropped := s.dropped ++ [a.row] }, some (.releasing a.row))
    else (s, some (.inserting a))
  | .inserting a => (s, some (if a.fails then .releasing a.row else .committing a.row))
  | .committing row => ({ t.release s row with rows := s.rows ++ [row] }, none)
  | .releasing row => (t.release s row, none)

def Insertion.service : Service (Store Row Lock) (Stage Row Request) Request where
  clock _ := 0
  admits _ _ := True
  enter _ r := .preparing r
  act now c s := t.access s now c

instance (s : Store Row Lock) (r : Request) : Decidable (t.service.admits s r) :=
  inferInstanceAs (Decidable True)

end Model

section Invariant
variable {t : Insertion Row Lock Request}

/-- No row was inserted while another was there that its look-up finds. -/
def Unmatched (t : Insertion Row Lock Request) (rows : List Row) : Prop :=
  rows.Pairwise fun r later => t.found r later = false

structure StoreSound (t : Insertion Row Lock Request) (s : Store Row Lock) : Prop where
  unmatched : Unmatched t s.rows
  held_once : s.held.Nodup

structure StageFits (t : Insertion Row Lock Request) (s : Store Row Lock)
    (c : Stage Row Request) : Prop where
  holds : ∀ row ∈ c.critical, t.lock row ∈ s.held
  clear : ∀ row ∈ c.cleared, ∀ r ∈ s.rows, t.found r row = false

def StagesApart (t : Insertion Row Lock Request) (c d : Stage Row Request) : Prop :=
  ∀ row ∈ c.critical, ∀ other ∈ d.critical, t.lock row ≠ t.lock other

theorem critical_of_cleared {c : Stage Row Request} {row : Row} (cleared : row ∈ c.cleared) :
    row ∈ c.critical := by
  cases c with
  | preparing r => cases cleared
  | locking a => cases cleared
  | selecting a => cases cleared
  | inserting a => exact cleared
  | committing r => exact cleared
  | releasing r => cases cleared

theorem unmatched_snoc {rows : List Row} {row : Row} (unmatched : Unmatched t rows)
    (clear : ∀ r ∈ rows, t.found r row = false) : Unmatched t (rows ++ [row]) := by
  refine List.pairwise_append.mpr ⟨unmatched, List.pairwise_singleton _ _, ?_⟩
  intro r there other new
  rw [List.mem_singleton.mp new]
  exact clear r there

theorem still_held [DecidableEq Lock] {s : Store Row Lock} {row other : Row} (held : t.lock other ∈ s.held)
    (apart : t.lock row ≠ t.lock other) : t.lock other ∈ s.held.erase (t.lock row) :=
  (List.mem_erase_of_ne (Ne.symm apart)).mpr held

theorem fits_of_idle {s : Store Row Lock} {c : Stage Row Request} (idle : c.critical = none) :
    StageFits t s c where
  holds := by
    intro row there
    rw [idle] at there
    cases there
  clear := by
    intro row there
    have critical := critical_of_cleared there
    rw [idle] at critical
    cases critical

abbrev PoolSound (t : Insertion Row Lock Request) :
    Pool (Store Row Lock) (Stage Row Request) → Prop :=
  Sound (StoreSound t) (StageFits t) (StagesApart t)

theorem pool_sound_start : PoolSound t (Pool.idle Store.empty) :=
  sound_idle ⟨List.Pairwise.nil, List.nodup_nil⟩

variable [DecidableEq Lock] {s : Store Row Lock} {now : Nat} {c d : Stage Row Request}

theorem store_sound_access (sound : StoreSound t s) (fits : StageFits t s c) :
    StoreSound t (t.access s now c).1 := by
  obtain ⟨unmatched, once⟩ := sound
  cases c with
  | preparing r => exact ⟨unmatched, once⟩
  | locking a =>
    rw [Insertion.access]
    split
    · exact ⟨unmatched, once⟩
    · rename_i free
      exact ⟨unmatched, List.nodup_cons.mpr ⟨free, once⟩⟩
  | selecting a =>
    rw [Insertion.access]
    split
    · exact ⟨unmatched, once⟩
    · exact ⟨unmatched, once⟩
  | inserting a => exact ⟨unmatched, once⟩
  | committing row => exact ⟨unmatched_snoc unmatched (fits.clear row rfl), once.erase _⟩
  | releasing row => exact ⟨unmatched, once.erase _⟩

theorem fits_next (fits : StageFits t s c) (rest : (t.access s now c).2 = some d) :
    StageFits t (t.access s now c).1 d := by
  cases c with
  | preparing r =>
    obtain ⟨a, -, rfl⟩ := Option.map_eq_some_iff.mp rest
    exact fits_of_idle rfl
  | locking a =>
    rw [Insertion.access] at rest ⊢
    split at rest
    · cases rest
      rw [if_pos ‹_›]
      exact fits_of_idle rfl
    · cases rest
      rw [if_neg ‹_›]
      refine ⟨?_, nofun⟩
      rintro row ⟨⟩
      exact List.mem_cons.mpr (Or.inl rfl)
  | selecting a =>
    rw [Insertion.access] at rest ⊢
    split at rest
    · cases rest
      rw [if_pos ‹_›]
      exact ⟨fits.holds, nofun⟩
    · rename_i none_found
      cases rest
      rw [if_neg none_found]
      refine ⟨fits.holds, ?_⟩
      rintro row ⟨⟩ r there
      rw [← Bool.not_eq_true]
      intro found
      exact none_found (List.any_eq_true.mpr ⟨r, there, found⟩)
  | inserting a =>
    cases rest
    change StageFits t s (if a.fails then .releasing a.row else .committing a.row)
    cases a.fails with
    | true => exact ⟨fits.holds, nofun⟩
    | false => exact ⟨fits.holds, fits.clear⟩
  | committing row => cases rest
  | releasing row => cases rest

theorem fits_others (same_lock : ∀ r row, t.found r row = true → t.lock r = t.lock row)
    (fits : StageFits t s d) (apart : StagesApart t c d) : StageFits t (t.access s now c).1 d := by
  cases c with
  | preparing r => exact fits
  | locking a =>
    rw [Insertion.access]
    split
    · exact fits
    · exact ⟨fun row there => List.mem_cons_of_mem _ (fits.holds row there), fits.clear⟩
  | selecting a =>
    rw [Insertion.access]
    split
    · exact ⟨fits.holds, fits.clear⟩
    · exact fits
  | inserting a => exact fits
  | committing new =>
    constructor
    · intro row there
      exact still_held (fits.holds row there) (apart new rfl row there)
    · intro row there r stored
      rcases List.mem_append.mp stored with old | here
      · exact fits.clear row there r old
      · rw [List.mem_singleton.mp here, ← Bool.not_eq_true]
        intro found
        exact apart new rfl row (critical_of_cleared there) (same_lock new row found)
  | releasing old =>
    exact ⟨fun row there => still_held (fits.holds row there) (apart old rfl row there), fits.clear⟩

theorem apart_next (fits : StageFits t s d) (apart : StagesApart t c d) {c' : Stage Row Request}
    (rest : (t.access s now c).2 = some c') : StagesApart t c' d := by
  cases c with
  | preparing r =>
    obtain ⟨a, -, rfl⟩ := Option.map_eq_some_iff.mp rest
    exact nofun
  | locking a =>
    rw [Insertion.access] at rest
    split at rest
    · cases rest
      exact nofun
    · rename_i free
      cases rest
      rintro row ⟨⟩ other there same
      exact free (same ▸ fits.holds other there)
  | selecting a =>
    rw [Insertion.access] at rest
    split at rest
    · cases rest
      exact apart
    · cases rest
      exact apart
  | inserting a =>
    cases rest
    cases a.fails with
    | true => exact apart
    | false => exact apart
  | committing row => cases rest
  | releasing row => cases rest

theorem insertion_keeps (same_lock : ∀ r row, t.found r row = true → t.lock r = t.lock row) :
    Keeps t.service (StoreSound t) (StageFits t) (StagesApart t) (fun _ _ _ => True) where
  symm := fun _ _ apart row there other here => Ne.symm (apart other here row there)
  enters := fun _ _ _ _ => fits_of_idle rfl
  alone := fun _ _ _ _ _ _ => nofun
  inv := fun _ _ _ sound fits _ _ => store_sound_access sound fits
  next := fun _ _ _ _ _ fits _ _ rest => fits_next fits rest
  others := fun _ _ _ _ _ _ fits apart _ _ => fits_others same_lock fits apart
  still_apart := fun _ _ _ _ _ _ _ fits apart _ _ rest => apart_next fits apart rest

theorem pool_sound_step (same_lock : ∀ r row, t.found r row = true → t.lock r = t.lock row)
    {p q : Pool (Store Row Lock) (Stage Row Request)} {turn : Turn Request} (sound : PoolSound t p)
    (step : Step t.service p turn q) : PoolSound t q :=
  sound_kept (insertion_keeps same_lock) sound step

end Invariant

section Dropped
variable [DecidableEq Lock] {t : Insertion Row Lock Request} {s : Store Row Lock} {now : Nat}
  {c : Stage Row Request}

theorem dropped_access (t : Insertion Row Lock Request) (s : Store Row Lock) (now : Nat)
    (c : Stage Row Request) : (t.access s now c).1.dropped = s.dropped ∨
    ∃ a, c = .selecting a ∧ (∃ r ∈ s.rows, t.found r a.row = true) ∧
      t.access s now c = ({ s with dropped := s.dropped ++ [a.row] }, some (.releasing a.row)) := by
  cases c with
  | selecting a =>
    by_cases any : (s.rows.any fun r => t.found r a.row) = true
    · refine Or.inr ⟨a, rfl, List.any_eq_true.mp any, ?_⟩
      rw [Insertion.access, if_pos any]
    · rw [Insertion.access, if_neg any]
      exact Or.inl rfl
  | locking a =>
    rw [Insertion.access]
    split
    · exact Or.inl rfl
    · exact Or.inl rfl
  | preparing r => exact Or.inl rfl
  | inserting a => exact Or.inl rfl
  | committing row => exact Or.inl rfl
  | releasing row => exact Or.inl rfl

theorem rows_access : s.rows <+: (t.access s now c).1.rows := by
  cases c with
  | selecting a =>
    rw [Insertion.access]
    split
    · exact List.prefix_rfl
    · exact List.prefix_rfl
  | locking a =>
    rw [Insertion.access]
    split
    · exact List.prefix_rfl
    · exact List.prefix_rfl
  | preparing r => exact List.prefix_rfl
  | inserting a => exact List.prefix_rfl
  | committing row => exact List.prefix_append _ _
  | releasing row => exact List.prefix_rfl

/-- A row is left out with a reason: one that is stored already. -/
def Justified (near : Row → Row → Bool) (s : Store Row Lock) : Prop :=
  ∀ row ∈ s.dropped, ∃ r ∈ s.rows, near r row = true

def FindsReason (t : Insertion Row Lock Request) (near : Row → Row → Bool) (s : Store Row Lock)
    (_ : Nat) : Stage Row Request → Prop
  | .selecting a => (∃ r ∈ s.rows, t.found r a.row = true) → ∃ r ∈ s.rows, near r a.row = true
  | .preparing _ | .locking _ | .inserting _ | .committing _ | .releasing _ => True

instance (near : Row → Row → Bool) (s : Store Row Lock) (now : Nat) (c : Stage Row Request) :
    Decidable (FindsReason t near s now c) :=
  match c with
  | .selecting _ => inferInstanceAs (Decidable (_ → _))
  | .preparing _ => inferInstanceAs (Decidable True)
  | .locking _ => inferInstanceAs (Decidable True)
  | .inserting _ => inferInstanceAs (Decidable True)
  | .committing _ => inferInstanceAs (Decidable True)
  | .releasing _ => inferInstanceAs (Decidable True)

theorem justified_access_iff {near : Row → Row → Bool} (justified : Justified near s) :
    Justified near (t.access s now c).1 ↔ FindsReason t near s now c := by
  have grown : ∀ row ∈ s.dropped, ∃ r ∈ (t.access s now c).1.rows, near r row = true := by
    intro row there
    obtain ⟨r, stored, reason⟩ := justified row there
    exact ⟨r, rows_access.subset stored, reason⟩
  rcases dropped_access t s now c with same | ⟨a, rfl, found, result⟩
  · refine iff_of_true ?_ ?_
    · intro row there
      rw [same] at there
      exact grown row there
    · cases c with
      | selecting a =>
        rintro ⟨r, stored, found⟩
        rw [Insertion.access, if_pos (List.any_eq_true.mpr ⟨r, stored, found⟩)] at same
        exact absurd same (by simp)
      | preparing r => trivial
      | locking a => trivial
      | inserting a => trivial
      | committing row => trivial
      | releasing row => trivial
  · rw [result]
    constructor
    · intro all _
      exact all a.row (List.mem_append.mpr (Or.inr (List.mem_singleton.mpr rfl)))
    · intro reason row there
      rcases List.mem_append.mp there with old | new
      · exact justified row old
      · rw [List.mem_singleton.mp new]
        exact reason found

variable {p : Pool (Store Row Lock) (Stage Row Request)}
  {moves : List (Move (Pool (Store Row Lock) (Stage Row Request)) (Turn Request))}

/-- In a whole run: every row that was left out had a reason exactly when every look-up that found
    something found a reason too; and nothing that is stored matches what was stored before it. -/
theorem justified_iff (near : Row → Row → Bool)
    (same_lock : ∀ r row, t.found r row = true → t.lock r = t.lock row)
    (run : Run (Step t.service) (Pool.idle Store.empty) moves p) :
    (∀ a ∈ visited (Pool.idle Store.empty) moves,
      Justified near a.shared ∧ Unmatched t a.shared.rows) ↔
      Heeds (Allows (FindsReason t near)) moves := by
  refine states_safe_iff (PoolSound t)
    (fun a => Justified near a.shared ∧ Unmatched t a.shared.rows) run pool_sound_start
    ⟨nofun, List.Pairwise.nil⟩ (pool_sound_step same_lock) ?_
  intro a l b sound safe step
  have unmatched := (pool_sound_step same_lock sound step).shared.unmatched
  rw [and_iff_left unmatched]
  cases step with
  | enter free admitted => exact iff_of_true safe.1 trivial
  | @act i now c waiting order =>
    change Justified near (t.access a.shared now c).1 ↔ _
    rw [justified_access_iff safe.1, Allows, waiting]
    constructor
    · intro here d same
      cases same
      exact here
    · intro all
      exact all c rfl

end Dropped

end LockedInserts
