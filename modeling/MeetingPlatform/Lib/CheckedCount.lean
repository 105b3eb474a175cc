import MeetingPlatform.Lib.CallPool

/- Calls that count rows against a limit and add some later, where nothing keeps other calls from
   adding in between. -/
namespace CheckedCounts
open LabelledRuns CallPools
variable {Shared Call Request : Type} {v : Service Shared Call Request}

structure Counting (v : Service Shared Call Request) where
  count : Shared → Nat
  adds : Shared → Nat → Call → Nat
  seen : Call → Nat
  counts : ∀ s now c, count (v.act now c s).1 = count s + adds s now c

variable (t : Counting v) (limit : Nat)

def Within (s : Shared) : Prop := t.count s ≤ limit

structure FoundRoom (s : Shared) (c : Call) : Prop where
  within : t.seen c ≤ t.count s
  room : ∀ now, 0 < t.adds s now c → t.seen c + t.adds s now c ≤ limit

/-- What others have added since fits into the room that the count has left over. -/
def InTime (s : Shared) (now : Nat) (c : Call) : Prop :=
  0 < t.adds s now c → t.count s - t.seen c ≤ limit - (t.seen c + t.adds s now c)

variable {t limit} {s : Shared} {c : Call} {now : Nat}

theorem within_access (within : Within t limit s) (found : FoundRoom t limit s c) :
    Within t limit (v.act now c s).1 ↔ InTime t limit s now c := by
  rw [Within, t.counts]
  have before : t.count s ≤ limit := within
  have seen := found.within
  rcases Nat.eq_zero_or_pos (t.adds s now c) with nothing | some_added
  · refine iff_of_true (by omega) ?_
    intro added
    omega
  · have room := found.room now some_added
    constructor
    · intro after _
      omega
    · intro late
      have fits := late some_added
      omega

section Runs
variable {Inv : Shared → Prop} {Fits : Shared → Call → Prop} {Apart : Call → Call → Prop}
  {p : Pool Shared Call}
  {moves : List (Move (Pool Shared Call) (Turn Request))}

theorem within_iff (keeps : Keeps v Inv Fits Apart fun _ _ _ => True)
    (found : ∀ s c, Fits s c → FoundRoom t limit s c) (inv : Inv s) (within : Within t limit s)
    (run : Run (Step v) (Pool.idle s) moves p) :
    (∀ a ∈ visited (Pool.idle s) moves, Within t limit a.shared) ↔
      Heeds (Allows (InTime t limit)) moves := by
  refine shared_safe_iff (Within t limit) keeps ?_ inv within run
  intro s now c _ fits _ within
  exact within_access within (found s c fits)

end Runs
end CheckedCounts
