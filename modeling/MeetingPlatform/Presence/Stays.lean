import MeetingPlatform.Presence.FaceSessions

/- The same events as a person going in and out. At each time the person is outside, was sighted, or
   is inside since an enter; the loop over the events goes through these and never has both an open
   enter and a cluster. -/
namespace FacePresence
open TimeSpans

/-- Between two events. A person who was sighted is taken to be there from `since` on, and was seen
    `last`; of a person inside `last` is the time of the last event of all. -/
inductive Whereabouts where
  | outside
  | sighted (since last : Int)
  | inside (since last : Int)
  deriving DecidableEq, Repr

inductive Sign where
  | enters | leaves | seen
  deriving DecidableEq, Repr

def RawEvt.sign (e : RawEvt) : Sign :=
  if e.direction = some "enter" then .enters
  else if e.direction = some "leave" then .leaves
  else .seen

section Reading
variable (r : Reading)

def sighting (since last : Int) : PresenceSegment := ⟨since, clusterEnd r since last, .cluster⟩

def Whereabouts.next (w : Whereabouts) (e : RawEvt) : Whereabouts :=
  let t := e.eventTime
  match w, e.sign with
  | _, .enters => .inside t t
  | .inside _ _, .leaves => .outside
  | .inside since _, .seen => .inside since t
  | .outside, _ => .sighted t t
  | .sighted since last, _ => if t - last ≤ r.gapMs then .sighted since t else .sighted t t

def Whereabouts.ended (w : Whereabouts) (e : RawEvt) : Option PresenceSegment :=
  let t := e.eventTime
  match w, e.sign with
  | .outside, _ => none
  | .sighted since last, .enters => some (sighting r since last)
  | .sighted since last, _ => if t - last ≤ r.gapMs then none else some (sighting r since last)
  | .inside since _, .enters => some ⟨since, max (min t (since + r.gapMs)) since, .interval⟩
  | .inside since _, .leaves => some ⟨since, max t since, .interval⟩
  | .inside _ _, .seen => none

def Whereabouts.final : Whereabouts → Option PresenceSegment
  | .outside => none
  | .sighted since last => some (sighting r since last)
  | .inside since last => some ⟨since, max (min r.endOrNow (last + r.gapMs)) since, .interval⟩

def stays : Whereabouts → List RawEvt → List PresenceSegment
  | w, [] => (w.final r).toList
  | w, e :: rest => (w.ended r e).toList ++ stays (w.next r e) rest

def whereAfter (w : Whereabouts) (events : List RawEvt) : Whereabouts :=
  events.foldl (Whereabouts.next r) w

end Reading

section Refinement
variable {r : Reading} {l : Loop} {w : Whereabouts}

/-- The variables of the loop tell where the person is. -/
def Shows (l : Loop) : Whereabouts → Prop
  | .outside => l.openEnter = none ∧ l.clusterStart = none
  | .sighted since last => l.openEnter = none ∧ l.clusterStart = some since ∧ l.clusterLast = some last
  | .inside since last => l.openEnter = some since ∧ l.clusterStart = none ∧ l.lastActivity = last

theorem step_eq (l : Loop) (e : RawEvt) : l.step r e =
    let active := { l with lastActivity := e.eventTime }
    match e.sign with
    | .enters => active.enter r e.eventTime
    | .leaves => active.leave r e.eventTime
    | .seen => active.seen r e.eventTime := by
  unfold Loop.step RawEvt.sign
  by_cases enters : e.direction = some "enter"
  · rw [if_pos enters, if_pos enters]
  · rw [if_neg enters, if_neg enters]
    by_cases leaves : e.direction = some "leave"
    · rw [if_pos leaves, if_pos leaves]
    · rw [if_neg leaves, if_neg leaves]

theorem step_refines (shows : Shows l w) (e : RawEvt) :
    Shows (l.step r e) (w.next r e) ∧ (l.step r e).raw = l.raw ++ (w.ended r e).toList := by
  obtain ⟨raw, method, openEnter, clusterStart, clusterLast, lastActivity⟩ := l
  rw [step_eq]
  cases w with
  | outside =>
    obtain ⟨rfl, rfl⟩ := shows
    cases sign : e.sign <;>
      simp [Whereabouts.next, Whereabouts.ended, sign, Shows, Loop.enter, Loop.leave, Loop.seen,
        Loop.flushCluster, Loop.addToCluster]
  | sighted since last =>
    obtain ⟨rfl, rfl, rfl⟩ := shows
    cases sign : e.sign <;> by_cases near : e.eventTime - last ≤ r.gapMs <;>
      simp [Whereabouts.next, Whereabouts.ended, sign, near, Shows, Loop.enter, Loop.leave, Loop.seen,
        Loop.flushCluster, Loop.addToCluster, sighting]
  | inside since last =>
    obtain ⟨rfl, rfl, rfl⟩ := shows
    cases sign : e.sign <;>
      simp [Whereabouts.next, Whereabouts.ended, sign, Shows, Loop.enter, Loop.leave, Loop.seen,
        Loop.flushCluster]

theorem close_refines (shows : Shows l w) : (l.close r).raw = l.raw ++ (w.final r).toList := by
  obtain ⟨raw, method, openEnter, clusterStart, clusterLast, lastActivity⟩ := l
  cases w with
  | outside =>
    obtain ⟨rfl, rfl⟩ := shows
    simp [Loop.close, Loop.flushCluster, Whereabouts.final]
  | sighted since last =>
    obtain ⟨rfl, rfl, rfl⟩ := shows
    simp [Loop.close, Loop.flushCluster, Whereabouts.final, sighting]
  | inside since last =>
    obtain ⟨rfl, rfl, rfl⟩ := shows
    simp [Loop.close, Loop.flushCluster, Whereabouts.final]

theorem loop_refines (shows : Shows l w) (events : List RawEvt) :
    ((events.foldl (Loop.step r) l).close r).raw = l.raw ++ stays r w events := by
  induction events generalizing l w with
  | nil => exact close_refines shows
  | cons e rest ih =>
    obtain ⟨later, raw⟩ := step_refines shows e
    rw [List.foldl_cons, ih later, raw, stays, List.append_assoc]

theorem flush_lastActivity (l : Loop) : (l.flushCluster r).lastActivity = l.lastActivity := by
  unfold Loop.flushCluster
  split <;> rfl

theorem addToCluster_lastActivity (l : Loop) (t : Int) :
    (l.addToCluster r t).lastActivity = l.lastActivity := by
  unfold Loop.addToCluster
  split
  · rfl
  · split
    · rfl
    · exact flush_lastActivity l

theorem step_lastActivity (l : Loop) (e : RawEvt) : (l.step r e).lastActivity = e.eventTime := by
  rw [step_eq]
  cases e.sign with
  | enters =>
    simp only [Loop.enter]
    split <;> exact flush_lastActivity _
  | leaves =>
    simp only [Loop.leave]
    split
    · exact flush_lastActivity _
    · exact addToCluster_lastActivity _ _
  | seen =>
    simp only [Loop.seen]
    split
    · rfl
    · exact addToCluster_lastActivity _ _

theorem close_lastActivity (l : Loop) : (l.close r).lastActivity = l.lastActivity := by
  simp only [Loop.close]
  split <;> exact flush_lastActivity l

theorem loop_lastActivity (l : Loop) (events : List RawEvt) (last : RawEvt) :
    ((events ++ [last]).foldl (Loop.step r) l).lastActivity = last.eventTime := by
  rw [List.foldl_append, List.foldl_cons, List.foldl_nil, step_lastActivity]

end Refinement

section Order
variable {r : Reading} {w : Whereabouts} {e : RawEvt} {events : List RawEvt} {s : PresenceSegment}
  {t : Int}

/-- Nothing of what is known of the person lies after the time. -/
def Whereabouts.By (w : Whereabouts) (t : Int) : Prop :=
  match w with
  | .outside => True
  | .sighted since last => since ≤ last ∧ last ≤ t
  | .inside since last => since ≤ last ∧ last ≤ t

/-- The time that the next stay cannot begin before. -/
def Whereabouts.since (w : Whereabouts) (t : Int) : Int :=
  match w with
  | .outside => t
  | .sighted since _ => since
  | .inside since _ => since

theorem next_by (by_now : w.By e.eventTime) : (w.next r e).By e.eventTime := by
  unfold Whereabouts.next
  cases w with
  | outside => cases e.sign <;> exact ⟨le_rfl, le_rfl⟩
  | sighted since last =>
    obtain ⟨order, until_now⟩ := by_now
    cases e.sign with
    | enters => exact ⟨le_rfl, le_rfl⟩
    | leaves | seen =>
      dsimp only
      split
      · exact ⟨order.trans until_now, le_rfl⟩
      · exact ⟨le_rfl, le_rfl⟩
  | inside since last =>
    obtain ⟨order, until_now⟩ := by_now
    cases e.sign with
    | enters => exact ⟨le_rfl, le_rfl⟩
    | leaves => exact trivial
    | seen => exact ⟨order.trans until_now, le_rfl⟩

theorem by_later {t' : Int} (by_now : w.By t) (order : t ≤ t') : w.By t' := by
  cases w with
  | outside => exact trivial
  | sighted since last => exact ⟨by_now.1, by_now.2.trans order⟩
  | inside since last => exact ⟨by_now.1, by_now.2.trans order⟩

theorem since_next (by_now : w.By e.eventTime) : w.since e.eventTime ≤ (w.next r e).since e.eventTime := by
  unfold Whereabouts.next
  cases w with
  | outside => cases e.sign <;> exact le_rfl
  | sighted since last =>
    have order : since ≤ e.eventTime := by_now.1.trans by_now.2
    cases e.sign with
    | enters => exact order
    | leaves | seen =>
      dsimp only
      split
      · exact le_rfl
      · exact order
  | inside since last =>
    have order : since ≤ e.eventTime := by_now.1.trans by_now.2
    cases e.sign with
    | enters | leaves => exact order
    | seen => exact le_rfl

theorem final_start (t : Int) (there : s ∈ w.final r) : s.start = w.since t := by
  cases w with
  | outside => cases there
  | sighted since last =>
    cases there
    rfl
  | inside since last =>
    cases there
    rfl

theorem ended_start (there : s ∈ w.ended r e) :
    s.start = w.since e.eventTime ∧ (w.next r e).since e.eventTime = e.eventTime := by
  unfold Whereabouts.ended at there
  unfold Whereabouts.next
  cases w with
  | outside => cases there
  | sighted since last =>
    cases sign : e.sign with
    | enters =>
      rw [sign] at there
      cases there
      exact ⟨rfl, rfl⟩
    | leaves | seen =>
      rw [sign] at there
      dsimp only at there ⊢
      split at there
      · cases there
      · rename_i far
        cases there
        rw [if_neg far]
        exact ⟨rfl, rfl⟩
  | inside since last =>
    cases sign : e.sign with
    | enters | leaves =>
      rw [sign] at there
      cases there
      exact ⟨rfl, rfl⟩
    | seen =>
      rw [sign] at there
      cases there

theorem since_mono (order : t ≤ e.eventTime) : w.since t ≤ w.since e.eventTime := by
  cases w with
  | outside => exact order
  | sighted since last => exact le_rfl
  | inside since last => exact le_rfl

/-- Events in the order of their times, none before `t`. -/
structure From (t : Int) (events : List RawEvt) : Prop where
  sorted : events.Pairwise fun a b => a.eventTime ≤ b.eventTime
  later : ∀ e ∈ events, t ≤ e.eventTime

theorem from_tail (events_from : From t (e :: events)) : From e.eventTime events :=
  ⟨events_from.sorted.of_cons, (List.pairwise_cons.mp events_from.sorted).1⟩

theorem since_le_start (by_now : w.By t) (events_from : From t events) (there : s ∈ stays r w events) :
    w.since t ≤ s.start := by
  induction events generalizing w t with
  | nil => exact (final_start t (Option.mem_toList.mp there)).ge
  | cons e rest ih =>
    have order := events_from.later e List.mem_cons_self
    have by_event := by_later by_now order
    rcases List.mem_append.mp there with now | later
    · exact (since_mono order).trans (ended_start (Option.mem_toList.mp now)).1.ge
    · have tail := ih (next_by by_event) (from_tail events_from) later
      exact (since_mono order).trans ((since_next by_event).trans tail)

theorem stays_sorted (by_now : w.By t) (events_from : From t events) :
    (stays r w events).Pairwise fun a b => a.start ≤ b.start := by
  induction events generalizing w t with
  | nil =>
    rw [stays]
    cases w.final r with
    | none => exact List.Pairwise.nil
    | some s => exact List.pairwise_singleton _ s
  | cons e rest ih =>
    have by_event := by_later by_now (events_from.later e List.mem_cons_self)
    rw [stays, List.pairwise_append]
    refine ⟨?_, ih (next_by by_event) (from_tail events_from), ?_⟩
    · cases w.ended r e with
      | none => exact List.Pairwise.nil
      | some s => exact List.pairwise_singleton _ s
    · intro s now s' later
      have tail := since_le_start (next_by by_event) (from_tail events_from) later
      rw [(ended_start (Option.mem_toList.mp now)).1]
      exact (since_next by_event).trans tail

/-- An enter that comes after a sighting at one instant only. -/
def Whereabouts.LoneEnter (w : Whereabouts) (e : RawEvt) (c : Int) : Prop :=
  w = .sighted c c ∧ e.sign = .enters

instance (w : Whereabouts) (e : RawEvt) (c : Int) : Decidable (w.LoneEnter e c) :=
  inferInstanceAs (Decidable (_ ∧ _))

theorem ended_by (by_now : w.By e.eventTime) (there : s ∈ w.ended r e) (many : ∀ c, ¬ w.LoneEnter e c) :
    s.stop ≤ e.eventTime := by
  unfold Whereabouts.ended at there
  cases w with
  | outside => cases there
  | sighted since last =>
    cases sign : e.sign with
    | enters =>
      rw [sign] at there
      cases there
      have apart : since ≠ last := by
        rintro rfl
        exact many since ⟨rfl, sign⟩
      simp only [sighting, clusterEnd, if_neg apart]
      exact by_now.2
    | leaves | seen =>
      rw [sign] at there
      dsimp only at there
      split at there
      · cases there
      · rename_i far
        cases there
        simp only [sighting, clusterEnd]
        split
        · rename_i same
          refine (min_le_left _ _).trans ?_
          omega
        · exact by_now.2
  | inside since last =>
    have order : since ≤ e.eventTime := by_now.1.trans by_now.2
    cases sign : e.sign with
    | enters =>
      rw [sign] at there
      cases there
      exact max_le (min_le_left _ _) order
    | leaves =>
      rw [sign] at there
      cases there
      exact max_le le_rfl order
    | seen =>
      rw [sign] at there
      cases there

end Order

end FacePresence
