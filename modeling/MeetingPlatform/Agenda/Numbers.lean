import MeetingPlatform.Agenda.Replacement
import Mathlib.Algebra.BigOperators.Group.List.Basic

/- The numbers and the durations of the agenda, while calls replace, change and delete its items at
   the same time. -/
namespace Agenda
open KeyedTable Guards Numbering LabelledRuns CallPools
open MeetingBooking (Meeting)

section WellFormed
variable {s s' : AgendaStore} {agendaId userId now : Nat} {c : AgendaCall}

/-- The numbers are 1..n, each once, and the durations fit into the meeting. -/
structure WellFormed (s : AgendaStore) : Prop where
  numbered : Numbered (s.agendas.rows.map fun r => r.2.agendaOrder)
  fits : (s.agendas.rows.map fun r => r.2.minutes).sum ≤ getMeetingDurationMinutes s.meeting

def Planned (s : AgendaStore) : Prop := ∀ r ∈ s.agendas.rows, 0 ≤ r.2.minutes

theorem wellFormed_empty (empty : s.agendas.rows = []) (order : s.meeting.startTime ≤ s.meeting.endTime) :
    WellFormed s := by
  constructor
  · rw [empty]
    exact numbered_places 0
  · rw [empty, getMeetingDurationMinutes]
    change 0 ≤ _
    omega

section Delete
variable {t : Table AgendaItem} {deletedOrder : Int}

theorem renormalized_orders : (renormalizeAfterDelete t deletedOrder).rows.map (fun r => r.2.agendaOrder) =
    (t.rows.map fun r => r.2.agendaOrder).map (closeGap deletedOrder) := by
  change (t.rows.map (touch _ _)).map _ = _
  rw [List.map_map, List.map_map]
  refine List.map_congr_left ?_
  intro r _
  simp only [Function.comp_apply, touch, closeGap, decide_eq_true_eq]
  split <;> rfl

theorem renormalized_minutes : (renormalizeAfterDelete t deletedOrder).rows.map (fun r => r.2.minutes) =
    t.rows.map fun r => r.2.minutes := by
  change (t.rows.map (touch _ _)).map _ = _
  rw [List.map_map]
  refine List.map_congr_left ?_
  intro r _
  rw [Function.comp_apply, touch]
  split <;> rfl

end Delete

theorem delete_planned (planned : Planned s) (ok : deleteAgendaItem s agendaId userId = .ok s') :
    Planned s' := by
  obtain ⟨item, there, rfl⟩ := deleteAgendaItem_cases ok
  intro r stored
  have kept := List.mem_map_of_mem (f := fun r : Nat × AgendaItem => r.2.minutes) stored
  rw [renormalized_minutes] at kept
  obtain ⟨q, member, same⟩ := List.mem_map.mp kept
  exact same ▸ planned q (List.filter_sublist.subset member)

theorem delete_wellFormed (wellFormed : WellFormed s) (planned : Planned s)
    (ok : deleteAgendaItem s agendaId userId = .ok s') : WellFormed s' := by
  obtain ⟨item, there, rfl⟩ := deleteAgendaItem_cases ok
  have split := perm_deleteWhere there
  constructor
  · rw [renormalized_orders]
    have parts := split.map fun r : Nat × AgendaItem => r.2.agendaOrder
    exact numbered_closeGap ((numbered_perm parts).mp wellFormed.numbered)
  · rw [renormalized_minutes]
    have total := (split.map fun r => r.2.minutes).sum_eq
    rw [List.map_cons, List.sum_cons] at total
    have whole := wellFormed.fits
    have own := planned _ there
    change _ ≤ getMeetingDurationMinutes s.meeting
    omega

section Shift
variable {t : Table AgendaItem} {item : AgendaItem} {order : Option (Option Int)}
  {shift : Option (List (Nat × Int))}

theorem shifted_numbered (numbered : Numbered (t.rows.map fun r => r.2.agendaOrder))
    (planned : shiftPlan (byOrder t.rows) agendaId item order = .ok shift) :
    Numbered (t.rows.map fun r => (OrderedMap.get (shift.getD []) r.1).getD r.2.agendaOrder) := by
  rcases shiftPlan_cases planned with rfl | ⟨reordered, rows, rfl⟩
  · exact numbered
  · have once : (reordered.map Prod.fst).Nodup := (rows.map Prod.fst).nodup_iff.mp (keys_nodup t)
    change Numbered (t.rows.map (corrected Prod.fst (fun r => r.2.agendaOrder) reordered))
    rw [numbered_perm (rows.map _), corrected_numbered once]
    exact numbered_places _

end Shift

theorem updated_total {item : AgendaItem} {duration : Option Int} (there : (agendaId, item) ∈ s.agendas.rows)
    (total : checkTotal s agendaId item duration = .ok ()) :
    (s.agendas.rows.map fun r => if r.1 = agendaId then duration.getD item.minutes else r.2.minutes).sum ≤
      getMeetingDurationMinutes s.meeting := by
  unfold checkTotal at total
  have fits := require_eq_ok.mp total
  have split := perm_deleteWhere there
  have others : (s.agendas.deleteWhere fun r => r.1 = agendaId).rows =
      s.agendas.rows.filter fun r => r.1 ≠ agendaId :=
    List.filter_congr fun r _ => (decide_not).symm
  have apart : ((s.agendas.rows.filter fun r => r.1 ≠ agendaId).map fun r =>
      if r.1 = agendaId then duration.getD item.minutes else r.2.minutes) =
      (s.agendas.rows.filter fun r => r.1 ≠ agendaId).map fun r => r.2.minutes := by
    refine List.map_congr_left ?_
    intro r member
    exact if_neg (of_decide_eq_true (List.mem_filter.mp member).2)
  rw [others] at split
  rw [(split.map _).sum_eq, List.map_cons, List.sum_cons, if_pos rfl, apart]
  omega

theorem update_planned {dto : UpdateAgendaItemDto} (planned : Planned s)
    (ok : updateAgendaItem s agendaId dto userId = .ok s') : Planned s' := by
  rcases updateAgendaItem_cases ok with
    rfl | ⟨item, title, duration, shift, there, checked, moves, -, -, rfl⟩
  · exact planned
  · have own : 0 ≤ duration.getD item.minutes := by
      cases duration with
      | none => exact planned _ there
      | some own_minutes => exact Int.le_of_lt (checkDuration_positive checked own_minutes rfl)
    intro r stored
    change r ∈ (writeUpdate _ _ _ _ _).rows at stored
    rw [writeUpdate_rows (shiftPlan_once moves)] at stored
    obtain ⟨q, old, rfl⟩ := List.mem_map.mp stored
    rw [updated_minutes there old]
    split
    · exact own
    · exact planned q old

theorem update_wellFormed {dto : UpdateAgendaItemDto} (wellFormed : WellFormed s)
    (ok : updateAgendaItem s agendaId dto userId = .ok s') : WellFormed s' := by
  rcases updateAgendaItem_cases ok with
    rfl | ⟨item, title, duration, shift, there, -, moves, -, total, rfl⟩
  · exact wellFormed
  · let fields := changedFields agendaId item title dto duration shift
    have orders : (s.agendas.rows.map fun r => (updated agendaId userId shift fields r).2.agendaOrder) =
        s.agendas.rows.map fun r => (OrderedMap.get (shift.getD []) r.1).getD r.2.agendaOrder :=
      List.map_congr_left fun r stored => updated_order there stored
    have minutes : (s.agendas.rows.map fun r => (updated agendaId userId shift fields r).2.minutes) =
        s.agendas.rows.map fun r =>
          if r.1 = agendaId then duration.getD item.minutes else r.2.minutes :=
      List.map_congr_left fun r stored => updated_minutes there stored
    constructor
    · change Numbered ((writeUpdate _ _ _ _ fields).rows.map _)
      rw [writeUpdate_rows (shiftPlan_once moves), List.map_map]
      exact orders ▸ shifted_numbered wellFormed.numbered moves
    · change ((writeUpdate _ _ _ _ fields).rows.map _).sum ≤ _
      rw [writeUpdate_rows (shiftPlan_once moves), List.map_map]
      exact minutes ▸ updated_total there total

end WellFormed

section Replacing
variable {s : AgendaStore} {items : List AgendaItemDto} {userId now : Nat}
  {existingItems : List (Nat × AgendaItem)} {c : AgendaCall}

/-- The rows that have come since a replacement read the items, and the items that it will write, have
    places of their own with no gap between them, and durations that fit. -/
def Compatible (s : AgendaStore) (existingItems : List (Nat × AgendaItem)) (items : List AgendaItemDto) :
    Prop :=
  let come := added s.agendas existingItems
  let wanted := writes s.agendas existingItems items
  ((∀ r ∈ come, ∀ w ∈ wanted, r.2.agendaOrder ≠ (w.2 : Int) + 1) ∧
    (∀ r ∈ come, r.2.agendaOrder ≤ (come.length + wanted.length : Nat)) ∧
    ∀ w ∈ wanted, (w.2 : Int) + 1 ≤ (come.length + wanted.length : Nat)) ∧
  (come.map fun r => r.2.minutes).sum + (wanted.map fun w => w.1.minutes).sum ≤
    getMeetingDurationMinutes s.meeting

theorem replace_wellFormed_iff (wellFormed : WellFormed s) (distinct : (requestIds items).Nodup) :
    WellFormed { s with agendas := replaceItems items userId existingItems s.agendas } ↔
      Compatible s existingItems items := by
  let come := added s.agendas existingItems
  let wanted := writes s.agendas existingItems items
  let after := (replaceItems items userId existingItems s.agendas).rows
  have orders : (after.map fun r => r.2.agendaOrder).Perm
      ((come.map fun r => r.2.agendaOrder) ++ wanted.map fun w => (w.2 : Int) + 1) :=
    replaced_perm distinct (fun _ _ => rfl) fun _ => rfl
  have minutes : (after.map fun r => r.2.minutes).sum =
      (come.map fun r => r.2.minutes).sum + (wanted.map fun w => w.1.minutes).sum :=
    (replaced_perm distinct (fun _ _ => rfl) fun _ => rfl).sum_eq.trans List.sum_append
  obtain ⟨once, inside⟩ := numbered_iff.mp wellFormed.numbered
  have come_rows : come.Sublist s.agendas.rows := List.filter_sublist
  have come_once : (come.map fun r => r.2.agendaOrder).Nodup := once.sublist (come_rows.map _)
  have come_positive : ∀ k ∈ come.map (fun r => r.2.agendaOrder), 1 ≤ k := fun k there =>
    (inside k ((come_rows.map _).subset there)).1
  have wanted_once : (wanted.map fun w => (w.2 : Int) + 1).Nodup := by
    have places : (wanted.map Prod.snd).Nodup := by
      refine List.Nodup.sublist (List.filter_sublist.map Prod.snd) ?_
      rw [List.zipIdx_map_snd]
      exact List.nodup_range'
    have apart := places.map (f := fun i : Nat => (i : Int) + 1) fun i j same => by
      have same : (i : Int) + 1 = j + 1 := same
      omega
    rw [List.map_map] at apart
    exact apart
  have wanted_positive : ∀ k ∈ wanted.map (fun w => (w.2 : Int) + 1), 1 ≤ k := by
    intro k there
    obtain ⟨w, -, rfl⟩ := List.mem_map.mp there
    omega
  have numbered := (numbered_perm orders).trans
    (numbered_append_iff come_once wanted_once come_positive wanted_positive)
  simp only [List.forall_mem_map, List.length_map] at numbered
  constructor
  · intro good
    exact ⟨numbered.mp good.numbered, minutes ▸ good.fits⟩
  · rintro ⟨apart, fits⟩
    exact ⟨numbered.mpr apart, minutes.symm ▸ fits⟩

theorem compatible_undisturbed (known : ∀ id ∈ requestIds items, id ∈ s.agendas.rows.map Prod.fst)
    (total : (items.map (·.minutes)).sum ≤ getMeetingDurationMinutes s.meeting) :
    Compatible s (byOrder s.agendas.rows) items := by
  have read : ∀ id, id ∈ (byOrder s.agendas.rows).map Prod.fst ↔ id ∈ s.agendas.rows.map Prod.fst :=
    fun id => ((List.perm_insertionSort _ s.agendas.rows).map Prod.fst).mem_iff
  have come : added s.agendas (byOrder s.agendas.rows) = [] := by
    refine List.filter_eq_nil_iff.mpr ?_
    intro r there
    simpa [-List.mem_map, read] using List.mem_map_of_mem there
  have wanted : writes s.agendas (byOrder s.agendas.rows) items = items.zipIdx := by
    refine List.filter_eq_self.mpr ?_
    intro w there
    refine decide_eq_true ?_
    intro id given
    have stored := known id (List.mem_filterMap.mpr ⟨w.1, List.fst_mem_of_mem_zipIdx there, given⟩)
    exact ⟨(read id).mpr stored, stored⟩
  have minutes : items.zipIdx.map (fun w => w.1.minutes) = items.map (·.minutes) :=
    zipIdx_keys
  unfold Compatible
  dsimp only
  rw [come, wanted, minutes]
  refine ⟨⟨List.forall_mem_nil _, List.forall_mem_nil _, ?_⟩, ?_⟩
  · intro w there
    have inside := List.snd_lt_of_mem_zipIdx there
    rw [List.length_zipIdx, List.length_nil]
    omega
  · rw [List.map_nil, List.sum_nil, Int.zero_add]
    exact total

theorem replace_planned (planned : Planned s) (distinct : (requestIds items).Nodup)
    (positive : ∀ item ∈ items, 0 < item.minutes) :
    Planned { s with agendas := replaceItems items userId existingItems s.agendas } := by
  have parts : ((replaceItems items userId existingItems s.agendas).rows.map fun r => r.2.minutes).Perm
      ((added s.agendas existingItems).map (fun r => r.2.minutes) ++
        (writes s.agendas existingItems items).map fun w => w.1.minutes) :=
    replaced_perm distinct (fun _ _ => rfl) fun _ => rfl
  intro r stored
  rcases List.mem_append.mp (parts.mem_iff.mp (List.mem_map_of_mem stored)) with old | new
  · obtain ⟨q, there, own⟩ := List.mem_map.mp old
    exact own ▸ planned q (List.filter_sublist.subset there)
  · obtain ⟨w, there, own⟩ := List.mem_map.mp new
    have item := List.fst_mem_of_mem_zipIdx (List.filter_sublist.subset there)
    exact own ▸ Int.le_of_lt (positive _ item)

end Replacing

section Runs
variable {s : AgendaStore} {c : AgendaCall} {now : Nat}

/-- A replacement meets an agenda that its writes are compatible with. -/
def Meets (s : AgendaStore) (_ : Nat) : AgendaCall → Prop
  | .replace items _ (.replacing existingItems) => Compatible s existingItems items
  | _ => True

theorem access_planned (planned : Planned s) (validated : Validated c) :
    Planned (agendaCalls.act now c s).1 := by
  cases c with
  | replace items userId stage =>
    cases stage with
    | starting => exact planned
    | idsChecked => exact planned
    | validated => exact planned
    | replacing existingItems => exact replace_planned planned validated.1 validated.2
  | update agendaId dto userId =>
    change Planned ((updateAgendaItem s agendaId dto userId).toOption.getD s)
    cases ran : updateAgendaItem s agendaId dto userId with
    | error e => exact planned
    | ok s' => exact update_planned planned ran
  | delete agendaId userId =>
    change Planned ((deleteAgendaItem s agendaId userId).toOption.getD s)
    cases ran : deleteAgendaItem s agendaId userId with
    | error e => exact planned
    | ok s' => exact delete_planned planned ran
  | remove meetingId participantUserId authUserId scope stage =>
    cases stage with
    | starting => exact planned
    | found => exact planned
    | removing =>
      change Planned ((deleteParticipant s participantUserId).toOption.getD s)
      rw [deleteParticipant_store]
      exact planned

theorem access_wellFormed (wellFormed : WellFormed s) (planned : Planned s) (validated : Validated c) :
    WellFormed (agendaCalls.act now c s).1 ↔ Meets s now c := by
  cases c with
  | replace items userId stage =>
    cases stage with
    | starting => exact iff_of_true wellFormed trivial
    | idsChecked => exact iff_of_true wellFormed trivial
    | validated => exact iff_of_true wellFormed trivial
    | replacing existingItems => exact replace_wellFormed_iff wellFormed validated.1
  | update agendaId dto userId =>
    refine iff_of_true ?_ trivial
    change WellFormed ((updateAgendaItem s agendaId dto userId).toOption.getD s)
    cases ran : updateAgendaItem s agendaId dto userId with
    | error e => exact wellFormed
    | ok s' => exact update_wellFormed wellFormed ran
  | delete agendaId userId =>
    refine iff_of_true ?_ trivial
    change WellFormed ((deleteAgendaItem s agendaId userId).toOption.getD s)
    cases ran : deleteAgendaItem s agendaId userId with
    | error e => exact wellFormed
    | ok s' => exact delete_wellFormed wellFormed planned ran
  | remove meetingId participantUserId authUserId scope stage =>
    refine iff_of_true ?_ trivial
    cases stage with
    | starting => exact wellFormed
    | found => exact wellFormed
    | removing =>
      change WellFormed ((deleteParticipant s participantUserId).toOption.getD s)
      rw [deleteParticipant_store]
      exact ⟨wellFormed.numbered, wellFormed.fits⟩

theorem agenda_wellFormed_iff {p : Pool AgendaStore AgendaCall}
    {moves : List (Move (Pool AgendaStore AgendaCall) (Turn AgendaRequest))}
    (empty : s.agendas.rows = []) (order : s.meeting.startTime ≤ s.meeting.endTime)
    (run : Run (Step agendaCalls) (Pool.idle s) moves p) :
    (∀ a ∈ visited (Pool.idle s) moves, WellFormed a.shared) ↔ Heeds (Allows Meets) moves := by
  have planned : Planned s := fun r there => absurd (empty ▸ there) List.not_mem_nil
  refine shared_safe_iff WellFormed (calls_keep access_planned) ?_ planned (wellFormed_empty empty order) run
  intro s now c planned validated _ wellFormed
  exact access_wellFormed wellFormed planned validated

instance (s : AgendaStore) (existingItems : List (Nat × AgendaItem)) (items : List AgendaItemDto) :
    Decidable (Compatible s existingItems items) :=
  inferInstanceAs (Decidable ((_ ∧ _ ∧ _) ∧ _))

instance decidableMeets (s : AgendaStore) (now : Nat) (c : AgendaCall) : Decidable (Meets s now c) :=
  match c with
  | .replace items _ (.replacing existingItems) => inferInstanceAs (Decidable (Compatible s existingItems items))
  | .replace _ _ .starting | .replace _ _ .idsChecked | .replace _ _ .validated | .update _ _ _
  | .delete _ _ | .remove _ _ _ _ _ => inferInstanceAs (Decidable True)

def hourMeeting : AgendaStore where
  meeting :=
    { organizerId := 1
      hostId := none
      roomId := none
      startTime := 0
      endTime := 3600000
      status := .scheduled }
  permissions _ := []
  participants := [⟨1, .host, .accepted, true, true, none⟩, ⟨2, .attendee, .pending, true, true, some 1⟩,
    ⟨3, .attendee, .pending, true, true, some 1⟩]
  agendas := .empty

def topic (title : String) (minutes : Int) : AgendaItemDto where
  title := title
  plannedDurationMinutes := some minutes

def accesses (i n : Nat) : List (Turn AgendaRequest) := List.replicate n (.act i 0)

/-- The organizer sends the agenda from two windows; both calls find it empty. -/
def twoWindows : List (Turn AgendaRequest) :=
  [.enter 0 (.replace [topic "Budget" 40] 1), .enter 1 (.replace [topic "Staff" 40] 1)] ++
    accesses 0 3 ++ accesses 1 3 ++ accesses 0 1 ++ accesses 1 1

theorem agenda_doubled :
    ∃ moves p, Run (Step agendaCalls) (Pool.idle hourMeeting) moves p ∧
      p ∈ visited (Pool.idle hourMeeting) moves ∧ ¬ WellFormed p.shared := by
  have follows : Follows agendaCalls (fun _ _ _ => True) (Pool.idle hourMeeting) twoWindows := by
    decide +kernel
  obtain ⟨moves, run, -⟩ := follows_run follows
  refine ⟨moves, _, run, end_visited run, ?_⟩
  intro good
  exact absurd good.numbered (by decide +kernel)

/-- Two items are put in; while the agenda is replaced, one of them is moved. -/
def movedMeanwhile : List (Turn AgendaRequest) :=
  .enter 0 (.replace [topic "Budget" 20, topic "Staff" 20] 1) :: accesses 0 4 ++
    .enter 1 (.replace [{ topic "Staff" 30 with id := some 1 }, topic "Rooms" 30] 1) :: accesses 1 3 ++
    [.enter 2 (.update 0 { agendaOrder := some (some 2) } 1)] ++ accesses 2 1 ++ accesses 1 1 ++
    .enter 3 (.delete 1 1) :: accesses 3 1

theorem agenda_wellFormed_when_moved :
    ∃ moves p, Run (Step agendaCalls) (Pool.idle hourMeeting) moves p ∧
      (p.shared.agendas.rows.map fun r => (r.2.title, r.2.agendaOrder)) = [("Rooms", 1)] ∧
      ∀ a ∈ visited (Pool.idle hourMeeting) moves, WellFormed a.shared := by
  have follows : Follows agendaCalls Meets (Pool.idle hourMeeting) movedMeanwhile := by
    decide +kernel
  obtain ⟨moves, run, heeds⟩ := follows_run follows
  exact ⟨moves, _, run, by decide +kernel, (agenda_wellFormed_iff rfl (by decide) run).mpr heeds⟩

end Runs
end Agenda
