import MeetingPlatform.Agenda.Replacement

/- The owners of the agenda items take part in the meeting, unless a removal and an assignment
   overtake each other. -/
namespace Agenda
open KeyedTable Guards LabelledRuns CallPools

section Owners
variable {s s' : AgendaStore} {c : AgendaCall} {now agendaId userId : Nat}

/-- The owner of every item is null or the user of a participant row. -/
def OwnersTakePart (s : AgendaStore) : Prop :=
  ∀ r ∈ s.agendas.rows, ∀ ownerId ∈ r.2.ownerId, ownerId ∈ s.getParticipantUserIds

/-- What has been checked before the lock still holds under it: the removed user owns no item, and the
    owners that are written take part. -/
def StillHolds (s : AgendaStore) (_ : Nat) : AgendaCall → Prop
  | .replace items _ (.replacing existingItems) =>
    ∀ w ∈ writes s.agendas existingItems items, ∀ ownerId ∈ w.1.ownerId, ownerId ∈ s.getParticipantUserIds
  | .remove _ participantUserId _ _ .removing => ownedAgendas s participantUserId = []
  | _ => True

theorem replace_owners_iff {items : List AgendaItemDto} {existingItems : List (Nat × AgendaItem)}
    (owners : OwnersTakePart s) (distinct : (requestIds items).Nodup) :
    OwnersTakePart { s with agendas := replaceItems items userId existingItems s.agendas } ↔
      ∀ w ∈ writes s.agendas existingItems items, ∀ ownerId ∈ w.1.ownerId,
        ownerId ∈ s.getParticipantUserIds := by
  have parts : ((replaceItems items userId existingItems s.agendas).rows.map fun r => r.2.ownerId).Perm
      ((added s.agendas existingItems).map (fun r => r.2.ownerId) ++
        (writes s.agendas existingItems items).map fun w => w.1.ownerId) :=
    replaced_perm distinct (fun _ _ => rfl) fun _ => rfl
  constructor
  · intro after w there ownerId own
    have stored := parts.mem_iff.mpr (List.mem_append_right _ (List.mem_map_of_mem there))
    obtain ⟨r, row, same⟩ := List.mem_map.mp stored
    exact after r row ownerId (same ▸ own)
  · intro written r row ownerId own
    rcases List.mem_append.mp (parts.mem_iff.mp (List.mem_map_of_mem row)) with old | new
    · obtain ⟨q, there, same⟩ := List.mem_map.mp old
      exact owners q (List.filter_sublist.subset there) ownerId (same ▸ own)
    · obtain ⟨w, there, same⟩ := List.mem_map.mp new
      exact written w there ownerId (same ▸ own)

theorem update_owners {dto : UpdateAgendaItemDto} (owners : OwnersTakePart s)
    (ok : updateAgendaItem s agendaId dto userId = .ok s') : OwnersTakePart s' := by
  rcases updateAgendaItem_cases ok with
    rfl | ⟨item, title, duration, shift, there, -, moves, owned, -, rfl⟩
  · exact owners
  · intro r stored ownerId own
    change r ∈ (writeUpdate _ _ _ _ _).rows at stored
    rw [writeUpdate_rows (shiftPlan_once moves)] at stored
    obtain ⟨q, old, rfl⟩ := List.mem_map.mp stored
    rw [updated_owner there old] at own
    split at own
    · unfold checkOwner at owned
      have checked := require_eq_ok.mp owned
      cases given : dto.ownerId with
      | none =>
        rw [given] at own
        exact owners _ there ownerId own
      | some newOwner =>
        rw [given] at own checked
        exact checked ownerId own
    · exact owners q old ownerId own

theorem delete_owners (owners : OwnersTakePart s) (ok : deleteAgendaItem s agendaId userId = .ok s') :
    OwnersTakePart s' := by
  obtain ⟨item, -, rfl⟩ := deleteAgendaItem_cases ok
  intro r stored ownerId own
  obtain ⟨q, kept, rfl⟩ := List.mem_map.mp stored
  have same : (touch (fun r => decide (item.agendaOrder < r.2.agendaOrder))
      (fun row => { row with agendaOrder := row.agendaOrder - 1 }) q).2.ownerId = q.2.ownerId := by
    unfold touch
    split <;> rfl
  exact owners q (List.filter_sublist.subset kept) ownerId (same ▸ own)

theorem remove_owners_iff {participantUserId : Nat} (owners : OwnersTakePart s) :
    OwnersTakePart { s with
      participants := s.participants.filter fun p => p.userId ≠ participantUserId } ↔
      ownedAgendas s participantUserId = [] := by
  rw [ownedAgendas, List.map_eq_nil_iff, List.filter_eq_nil_iff]
  have left : ∀ ownerId, ownerId ∈ (s.participants.filter fun p => p.userId ≠ participantUserId).map
      (·.userId) ↔ ownerId ∈ s.getParticipantUserIds ∧ ownerId ≠ participantUserId := by
    intro ownerId
    simp only [AgendaStore.getParticipantUserIds, List.mem_map, List.mem_filter, decide_eq_true_eq]
    constructor
    · rintro ⟨p, ⟨there, other⟩, rfl⟩
      exact ⟨⟨p, there, rfl⟩, other⟩
    · rintro ⟨⟨p, there, rfl⟩, other⟩
      exact ⟨p, ⟨there, other⟩, rfl⟩
  constructor
  · intro after r row own
    exact ((left _).mp (after r row participantUserId (of_decide_eq_true own))).2 rfl
  · intro unowned r row ownerId own
    refine (left ownerId).mpr ⟨owners r row ownerId own, ?_⟩
    rintro rfl
    exact unowned r row (decide_eq_true own)

theorem access_owners (owners : OwnersTakePart s) (validated : Validated c) :
    OwnersTakePart (agendaCalls.act now c s).1 ↔ StillHolds s now c := by
  cases c with
  | replace items userId stage =>
    cases stage with
    | starting => exact iff_of_true owners trivial
    | idsChecked => exact iff_of_true owners trivial
    | validated => exact iff_of_true owners trivial
    | replacing existingItems => exact replace_owners_iff owners validated.1
  | update agendaId dto userId =>
    refine iff_of_true ?_ trivial
    change OwnersTakePart ((updateAgendaItem s agendaId dto userId).toOption.getD s)
    cases ran : updateAgendaItem s agendaId dto userId with
    | error e => exact owners
    | ok s' => exact update_owners owners ran
  | delete agendaId userId =>
    refine iff_of_true ?_ trivial
    change OwnersTakePart ((deleteAgendaItem s agendaId userId).toOption.getD s)
    cases ran : deleteAgendaItem s agendaId userId with
    | error e => exact owners
    | ok s' => exact delete_owners owners ran
  | remove meetingId participantUserId authUserId scope stage =>
    cases stage with
    | starting => exact iff_of_true owners trivial
    | found => exact iff_of_true owners trivial
    | removing =>
      change OwnersTakePart ((deleteParticipant s participantUserId).toOption.getD s) ↔ _
      rw [deleteParticipant_store]
      exact remove_owners_iff owners

end Owners

section Runs
variable {s : AgendaStore}

theorem owners_take_part_iff {p : Pool AgendaStore AgendaCall}
    {moves : List (Move (Pool AgendaStore AgendaCall) (Turn AgendaRequest))}
    (start : OwnersTakePart s) (run : Run (Step agendaCalls) (Pool.idle s) moves p) :
    (∀ a ∈ visited (Pool.idle s) moves, OwnersTakePart a.shared) ↔ Heeds (Allows StillHolds) moves := by
  have keeps : Keeps agendaCalls (fun _ => True) (fun _ => Validated) (fun _ _ => True)
      fun _ _ _ => True := calls_keep fun _ _ => trivial
  refine shared_safe_iff OwnersTakePart keeps ?_ trivial start run
  intro s now c _ validated _ owners
  exact access_owners owners validated

instance decidableStillHolds (s : AgendaStore) (now : Nat) (c : AgendaCall) :
    Decidable (StillHolds s now c) :=
  match c with
  | .replace items _ (.replacing existingItems) =>
    inferInstanceAs (Decidable (∀ w ∈ writes s.agendas existingItems items, ∀ ownerId ∈ w.1.ownerId,
      ownerId ∈ s.getParticipantUserIds))
  | .remove _ participantUserId _ _ .removing =>
    inferInstanceAs (Decidable (ownedAgendas s participantUserId = []))
  | .replace _ _ .starting | .replace _ _ .idsChecked | .replace _ _ .validated | .update _ _ _
  | .delete _ _ | .remove _ _ _ _ .starting | .remove _ _ _ _ .found => inferInstanceAs (Decidable True)

def soloTopic : AgendaItem where
  agendaOrder := 1
  title := "Budget"
  description := none
  ownerId := none
  plannedDurationMinutes := some 30
  status := .planned
  createdBy := some 1
  updatedBy := some 1

def oneTopic : AgendaStore where
  meeting :=
    { organizerId := 1
      hostId := none
      roomId := none
      startTime := 0
      endTime := 3600000
      status := .scheduled }
  permissions _ := []
  participants := [⟨1, .host, .accepted, true, true, none⟩, ⟨2, .attendee, .pending, true, true, some 1⟩,
    ⟨3, .attendee, .pending, true, true, some 1⟩]
  agendas := Table.empty.insert soloTopic

def turns (i n : Nat) : List (Turn AgendaRequest) := List.replicate n (.act i 0)

theorem oneTopic_owners : OwnersTakePart oneTopic := by
  unfold OwnersTakePart
  decide

/-- User 2 is removed, and made the owner of the item after the removal has looked for owned items. -/
def assignedMeanwhile : List (Turn AgendaRequest) :=
  .enter 0 (.remove 0 2 1 .instanceOnly) :: turns 0 2 ++
    .enter 1 (.update 0 { ownerId := some (some 2) } 1) :: turns 1 1 ++ turns 0 1

theorem owner_removed :
    ∃ moves p, OwnersTakePart oneTopic ∧ Run (Step agendaCalls) (Pool.idle oneTopic) moves p ∧
      p ∈ visited (Pool.idle oneTopic) moves ∧ ¬ OwnersTakePart p.shared := by
  have follows : Follows agendaCalls (fun _ _ _ => True) (Pool.idle oneTopic) assignedMeanwhile := by
    decide +kernel
  obtain ⟨moves, run, -⟩ := follows_run follows
  refine ⟨moves, _, oneTopic_owners, run, end_visited run, ?_⟩
  unfold OwnersTakePart
  decide +kernel

def anotherOwner : List (Turn AgendaRequest) :=
  .enter 0 (.remove 0 2 1 .instanceOnly) :: turns 0 2 ++
    .enter 1 (.update 0 { ownerId := some (some 3) } 1) :: turns 1 1 ++
    .enter 2 (.replace [⟨none, "Staff", none, some 3, some 20⟩] 1) :: turns 2 3 ++ turns 0 1 ++ turns 2 1

theorem owners_take_part_when_other :
    ∃ moves p, Run (Step agendaCalls) (Pool.idle oneTopic) moves p ∧
      p.shared.getParticipantUserIds = [1, 3] ∧
      (p.shared.agendas.rows.map fun r => r.2.ownerId) = [some 3] ∧
      ∀ a ∈ visited (Pool.idle oneTopic) moves, OwnersTakePart a.shared := by
  have follows : Follows agendaCalls StillHolds (Pool.idle oneTopic) anotherOwner := by
    decide +kernel
  obtain ⟨moves, run, heeds⟩ := follows_run follows
  exact ⟨moves, _, run, by decide +kernel, by decide +kernel,
    (owners_take_part_iff oneTopic_owners run).mpr heeds⟩

end Runs
end Agenda
