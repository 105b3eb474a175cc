import MeetingPlatform.Presence.FaceEvents
import Mathlib.Algebra.Order.Group.Abs
import Mathlib.Algebra.Order.Group.Int

/- What the look-up for duplicates makes of the stored events. It goes back eight seconds from an
   event and has no end on the other side, so that an event that comes late meets all later ones. -/
namespace Presence
open LabelledRuns CallPools LockedInserts
variable {Row Key Request : Type}

/-- Rows that are the same event where they agree in a key and are close in time. -/
structure Windowed (Row Key : Type) where
  key : Row → Key
  time : Row → Int

section Window
variable [DecidableEq Key] (w : Windowed Row Key)

def Windowed.sinceWindow (stored row : Row) : Bool :=
  decide (w.key stored = w.key row ∧ w.time row - dedupWindowMs ≤ w.time stored)

def Windowed.near (stored row : Row) : Bool :=
  decide (w.key stored = w.key row ∧ |w.time stored - w.time row| ≤ dedupWindowMs)

def Windowed.longAfter (stored row : Row) : Bool :=
  decide (w.key stored = w.key row ∧ w.time row + dedupWindowMs < w.time stored)

/-- A row is looked up before any of its key is stored that comes more than a window after it; or one
    in the window is stored too. -/
def LookedUpInTime (s : Store Row Int) (_ : Nat) : Stage Row Request → Prop
  | .selecting a => (∀ r ∈ s.rows, w.longAfter r a.row = false) ∨ ∃ r ∈ s.rows, w.near r a.row = true
  | .preparing _ | .locking _ | .inserting _ | .committing _ | .releasing _ => True

instance (s : Store Row Int) (now : Nat) (c : Stage Row Request) :
    Decidable (LookedUpInTime w s now c) :=
  match c with
  | .selecting _ => inferInstanceAs (Decidable (_ ∨ _))
  | .preparing _ => inferInstanceAs (Decidable True)
  | .locking _ => inferInstanceAs (Decidable True)
  | .inserting _ => inferInstanceAs (Decidable True)
  | .committing _ => inferInstanceAs (Decidable True)
  | .releasing _ => inferInstanceAs (Decidable True)

def Windowed.Spaced (rows : List Row) : Prop :=
  rows.Pairwise fun r later => w.key r = w.key later → dedupWindowMs ≤ |w.time r - w.time later|

structure NearDuplicatesDropped (s : Store Row Int) : Prop where
  only : Justified w.near s
  all : w.Spaced s.rows

variable {w}

theorem spaced_of_unmatched {t : Insertion Row Int Request} (looks : t.found = w.sinceWindow)
    {rows : List Row} (unmatched : Unmatched t rows) : w.Spaced rows := by
  refine List.Pairwise.imp ?_ unmatched
  intro r later unfound same
  rw [looks, Windowed.sinceWindow, decide_eq_false_iff_not] at unfound
  have before : w.time r < w.time later - dedupWindowMs := by
    by_contra late
    exact unfound ⟨same, not_lt.mp late⟩
  have distance := neg_le_abs (w.time r - w.time later)
  omega

theorem sinceWindow_iff {stored row : Row} : w.sinceWindow stored row = true ↔
    w.near stored row = true ∨ w.longAfter stored row = true := by
  simp only [Windowed.sinceWindow, Windowed.near, Windowed.longAfter, decide_eq_true_eq, abs_le]
  have window : (0 : Int) ≤ dedupWindowMs := by decide
  constructor
  · rintro ⟨same, since⟩
    by_cases after : w.time row + dedupWindowMs < w.time stored
    · exact Or.inr ⟨same, after⟩
    · exact Or.inl ⟨same, by omega, by omega⟩
  · rintro (⟨same, before, -⟩ | ⟨same, after⟩)
    · exact ⟨same, by omega⟩
    · exact ⟨same, by omega⟩

theorem findsReason_iff {t : Insertion Row Int Request} (looks : t.found = w.sinceWindow)
    {s : Store Row Int} {now : Nat} {c : Stage Row Request} :
    FindsReason t w.near s now c ↔ LookedUpInTime w s now c := by
  cases c with
  | selecting a =>
    rw [FindsReason, looks]
    constructor
    · intro reason
      by_cases late : ∀ r ∈ s.rows, w.longAfter r a.row = false
      · exact Or.inl late
      · simp only [not_forall, Bool.not_eq_false] at late
        obtain ⟨r, stored, after⟩ := late
        exact Or.inr (reason ⟨r, stored, sinceWindow_iff.mpr (Or.inr after)⟩)
    · rintro (early | reason) ⟨r, stored, found⟩
      · rcases sinceWindow_iff.mp found with close | after
        · exact ⟨r, stored, close⟩
        · rw [early r stored] at after
          cases after
      · exact reason
  | preparing r => exact Iff.rfl
  | locking a => exact Iff.rfl
  | inserting a => exact Iff.rfl
  | committing row => exact Iff.rfl
  | releasing row => exact Iff.rfl

theorem near_dropped_iff {t : Insertion Row Int Request} (looks : t.found = w.sinceWindow)
    (same_lock : ∀ r row, w.key r = w.key row → t.lock r = t.lock row)
    {p : Pool (Store Row Int) (Stage Row Request)}
    {moves : List (Move (Pool (Store Row Int) (Stage Row Request)) (Turn Request))}
    (run : Run (Step t.service) (Pool.idle Store.empty) moves p) :
    (∀ a ∈ visited (Pool.idle Store.empty) moves, NearDuplicatesDropped w a.shared) ↔
      Heeds (Allows (LookedUpInTime w)) moves := by
  have locks : ∀ r row, t.found r row = true → t.lock r = t.lock row := by
    intro r row found
    rw [looks, Windowed.sinceWindow, decide_eq_true_iff] at found
    exact same_lock r row found.1
  have condition : (FindsReason t w.near : Store Row Int → Nat → Stage Row Request → Prop) =
      LookedUpInTime w := by
    funext s now c
    exact propext (findsReason_iff looks)
  rw [← condition, ← justified_iff w.near locks run]
  constructor
  · intro dropped a there
    have sound : PoolSound t a := by
      have anyhow : Heeds (fun _ _ => True) moves := fun _ _ => trivial
      refine visited_invariant (PoolSound t) run pool_sound_start anyhow ?_ a there
      intro a l b sound step _
      exact pool_sound_step locks sound step
    exact ⟨(dropped a there).only, sound.shared.unmatched⟩
  · intro justified a there
    obtain ⟨only, unmatched⟩ := justified a there
    exact ⟨only, spaced_of_unmatched looks unmatched⟩

end Window

section Events

def faces : Windowed FaceEventRow (Nat × Int × Option String) where
  key row := (row.deviceId, row.channelId, row.szUid)
  time row := row.eventTime

def counts : Windowed CountEventRow (Nat × Int) where
  key row := (row.zoneId, row.occupancyCount)
  time row := row.eventTime

variable (hashtext : String → Int)

theorem faces_looks : (onFaceEvent hashtext).found = faces.sinceWindow := by
  funext stored row
  change isFaceDuplicate stored row = faces.sinceWindow stored row
  simp [isFaceDuplicate, Windowed.sinceWindow, faces, and_assoc]

theorem counts_looks : (writeCountEvent hashtext).found = counts.sinceWindow := by
  funext stored row
  change isCountDuplicate stored row = counts.sinceWindow stored row
  simp [isCountDuplicate, Windowed.sinceWindow, counts, and_assoc]

theorem faces_lock (r row : FaceEventRow) (same : faces.key r = faces.key row) :
    (onFaceEvent hashtext).lock r = (onFaceEvent hashtext).lock row := by
  simp only [faces, Prod.mk.injEq] at same
  exact congrArg hashtext (congrArg₂ faceLockKey same.2.1 same.2.2)

theorem counts_lock (r row : CountEventRow) (same : counts.key r = counts.key row) :
    (writeCountEvent hashtext).lock r = (writeCountEvent hashtext).lock row := by
  simp only [counts, Prod.mk.injEq] at same
  exact congrArg hashtext (congrArg₂ countLockKey same.1 same.2)

/-- A run of calls, from empty tables on. -/
abbrev EventRun (t : Insertion Row Int Request)
    (moves : List (Move (Pool (Store Row Int) (Stage Row Request)) (Turn Request)))
    (p : Pool (Store Row Int) (Stage Row Request)) : Prop :=
  Run (Step t.service) (Pool.idle Store.empty) moves p

theorem duplicates_dropped_iff :
    (∀ moves p, EventRun (onFaceEvent hashtext) moves p →
      ((∀ a ∈ visited (Pool.idle Store.empty) moves, NearDuplicatesDropped faces a.shared) ↔
        Heeds (Allows (LookedUpInTime faces)) moves)) ∧
      (∀ moves p, EventRun (writeCountEvent hashtext) moves p →
        ((∀ a ∈ visited (Pool.idle Store.empty) moves, NearDuplicatesDropped counts a.shared) ↔
          Heeds (Allows (LookedUpInTime counts)) moves)) := by
  constructor
  · intro moves p run
    exact near_dropped_iff (faces_looks hashtext) (faces_lock hashtext) run
  · intro moves p run
    exact near_dropped_iff (counts_looks hashtext) (counts_lock hashtext) run

end Events

section Runs

def lengthHash (text : String) : Int := text.length

def plainLookups : FaceLookups :=
  ⟨some 1, fun _ => some 7, 0, fun _ => some 2, fun _ => none, fun _ => none, fun _ _ => none,
    fun _ _ => false, fun _ => false, none⟩

def faceAt (utc : Int) : FaceCall := ⟨plainLookups, ⟨3, some "u1", none, none, some utc⟩, false⟩

def countAt (utc : Int) : CountCall := ⟨⟨4, none, 12, utc⟩, true, false⟩

/-- A first call that stores its event, and a second one as far as its look-up. -/
def storedThen (first second : Request) : List (Turn Request) :=
  [.enter 0 first, .act 0 100000, .act 0 100000, .act 0 100000, .act 0 100000, .act 0 100000,
    .enter 1 second, .act 1 100000, .act 1 100000, .act 1 100000]

theorem repeats_dropped :
    (∃ moves p, EventRun (onFaceEvent lengthHash) moves p ∧ p.shared.dropped.length = 1 ∧
      ∀ a ∈ visited (Pool.idle Store.empty) moves, NearDuplicatesDropped faces a.shared) ∧
      (∃ moves p, EventRun (writeCountEvent lengthHash) moves p ∧ p.shared.dropped.length = 1 ∧
        ∀ a ∈ visited (Pool.idle Store.empty) moves, NearDuplicatesDropped counts a.shared) := by
  constructor
  · have follows : Follows (onFaceEvent lengthHash).service
        (LookedUpInTime faces) (Pool.idle Store.empty)
        (storedThen (faceAt 100000) (faceAt 103000)) := by decide +kernel
    obtain ⟨moves, run, heeds⟩ := follows_run follows
    have iffs := duplicates_dropped_iff lengthHash
    exact ⟨moves, _, run, by decide +kernel, (iffs.1 moves _ run).mpr heeds⟩
  · have follows : Follows (writeCountEvent lengthHash).service
        (LookedUpInTime counts) (Pool.idle Store.empty)
        (storedThen (countAt 100000) (countAt 103000)) := by decide +kernel
    obtain ⟨moves, run, heeds⟩ := follows_run follows
    have iffs := duplicates_dropped_iff lengthHash
    exact ⟨moves, _, run, by decide +kernel, (iffs.2 moves _ run).mpr heeds⟩

theorem late_event_dropped :
    (¬ ∀ (hashtext : String → Int) moves p, EventRun (onFaceEvent hashtext) moves p →
      NearDuplicatesDropped faces p.shared) ∧
      ¬ ∀ (hashtext : String → Int) moves p, EventRun (writeCountEvent hashtext) moves p →
        NearDuplicatesDropped counts p.shared := by
  constructor
  · intro claimed
    have follows : Follows (onFaceEvent lengthHash).service (fun _ _ _ => True)
        (Pool.idle Store.empty) (storedThen (faceAt 100000) (faceAt 50000)) := by decide +kernel
    obtain ⟨moves, run, -⟩ := follows_run follows
    have only := (claimed lengthHash moves _ run).only
    rw [Justified] at only
    exact absurd only (by decide +kernel)
  · intro claimed
    have follows : Follows (writeCountEvent lengthHash).service (fun _ _ _ => True)
        (Pool.idle Store.empty) (storedThen (countAt 100000) (countAt 50000)) := by decide +kernel
    obtain ⟨moves, run, -⟩ := follows_run follows
    have only := (claimed lengthHash moves _ run).only
    rw [Justified] at only
    exact absurd only (by decide +kernel)

end Runs

end Presence
