import MeetingPlatform.Participants.ImportRows
import MeetingPlatform.Lib.Admission

/- The rows of a file, if they were added one by one: each in a call of its own, which looks at the
   participants who are there by then. -/
namespace Participants
open KeyedTable Guards Admissions
open MeetingBooking (MeetingStatus)

section Calls
variable (s : MeetingRoster) (actorId : Nat) (parsed : ParsedRow)

/-- A call with no other one at the same time. -/
def addAlone (t : ParticipantStore) (r : AddRequest) : ParticipantStore :=
  match (r.access t .starting).2 with
  | none => t
  | some validated =>
    match (r.access t validated).2 with
    | none => t
    | some persisting => (r.access t persisting).1

def owner : Option Nat :=
  let active : Nat × UserEntity → Bool := fun u => u.2.accountStatus = .active ∧ u.2.deletedAt = none
  let emailOwner := s.users.table.findOne fun u => active u ∧ u.2.email.toLower = parsed.email.toLower
  let codeOwner := s.users.table.findOne fun u => active u ∧ u.2.employeeCode = some parsed.employeeCode
  (if parsed.email ≠ "" then emailOwner.map Prod.fst else none).or
    (if parsed.employeeCode ≠ "" then codeOwner.map Prod.fst else none)

/-- The warnings about the schedule have been shown before, and are confirmed. -/
def confirmedAdd (userId : Nat) : AddRequest where
  userId := userId
  authUserId := actorId
  overrideWarnings := true
  warningToken := some
    (generateToken s.meetingId userId (scheduleWarnings s.internal ⟨userId, actorId, false, none⟩))

def addRow : MeetingRoster :=
  let asExternal := (addExternalParticipant s ⟨parsed.guest, actorId, false, none⟩).toOption.getD s
  if parsed.declaredKind = some .external then asExternal
  else match owner s parsed with
    | some userId => s.setInternal (addAlone s.internal (confirmedAdd s actorId userId))
    | none =>
      if parsed.declaredKind = some .internal ∨ parsed.namesGuest = false then s else asExternal

def addOneByOne (rows : List ParsedRow) : MeetingRoster :=
  (rows.filter fun parsed => !(staticValidate parsed).isHardError).foldl
    (fun s parsed => addRow s actorId parsed) s

end Calls

section Applicants
variable (s : MeetingRoster) (actorId : Nat)

inductive Applicant where
  | user (userId : Nat)
  | guest (data : GuestData)
  deriving DecidableEq, Repr

inductive ApplicantKey where
  | userId (id : Nat)
  | email (address : String)
  deriving DecidableEq, Repr

def Applicant.key : Applicant → ApplicantKey
  | .user userId => .userId userId
  | .guest data => .email data.email.toLower

def Applicant.isUser : Applicant → Bool
  | .user _ => true
  | .guest _ => false

def MeetingRoster.taken : List ApplicantKey :=
  s.participants.map (fun p => .userId p.userId) ++
    s.externalParticipants.map fun p => .email p.email.toLower

def MeetingRoster.freeSeats : Option Nat :=
  s.internal.surroundings.roomCapacity.map fun capacity => capacity - s.internal.getAttendeeCount

def MeetingRoster.addApplicant : Applicant → MeetingRoster
  | .user userId => { s with
      participants := s.participants ++ [AddRequest.participant ⟨userId, actorId, false, none⟩] }
  | .guest data => { s with
      externalParticipants := s.externalParticipants ++ [⟨data, .attendee, .pending⟩] }

def MeetingRoster.addApplicants (l : List Applicant) : MeetingRoster :=
  l.foldl (fun s a => s.addApplicant actorId a) s

/-- Whom a row asks for, where `user` is the user that has been found for it. -/
def applicant (user : Option Nat) (parsed : ParsedRow) : Option Applicant :=
  if (staticValidate parsed).isHardError then none
  else if parsed.declaredKind = some .external then some (.guest parsed.guest)
  else match user with
    | some userId => if isMeetingIneligibleRole (s.roleCodes userId) then none else some (.user userId)
    | none =>
      if parsed.declaredKind = some .internal ∨ parsed.namesGuest = false then none
      else some (.guest parsed.guest)

/-- The meeting takes participants from its owner, and no more than the room holds. -/
structure OpenTo (meeting : Meeting) : Prop where
  meant : s.meeting = some meeting
  kept : meeting.deletedAt = none
  status : meeting.status = .scheduled ∨ meeting.status = .inProgress
  owned : meeting.organizerId = actorId ∨ meeting.hostId = some actorId
  policy : s.internal.surroundings.capacityPolicy = "block"

instance (meeting : Meeting) : Decidable (OpenTo s actorId meeting) :=
  decidable_of_iff (s.meeting = some meeting ∧ meeting.deletedAt = none ∧
    (meeting.status = .scheduled ∨ meeting.status = .inProgress) ∧
    (meeting.organizerId = actorId ∨ meeting.hostId = some actorId) ∧
    s.internal.surroundings.capacityPolicy = "block")
    ⟨fun ⟨meant, kept, status, owned, policy⟩ => ⟨meant, kept, status, owned, policy⟩,
      fun h => ⟨h.meant, h.kept, h.status, h.owned, h.policy⟩⟩

end Applicants

section Single
variable {s : MeetingRoster} {actorId : Nat} {meeting : Meeting} {a : Applicant} {parsed : ParsedRow}

theorem hasParticipant_iff {userId : Nat} :
    s.internal.hasParticipant userId = true ↔ ApplicantKey.userId userId ∈ s.taken := by
  simp [ParticipantStore.hasParticipant, MeetingRoster.taken, MeetingRoster.internal]

theorem hasExternal_iff {email : String} : s.hasExternal email = true ↔ ApplicantKey.email email.toLower ∈ s.taken := by
  simp [MeetingRoster.hasExternal, MeetingRoster.taken]

/-- One who has a seat is added, unless the key is taken. -/
def MeetingRoster.seat (s : MeetingRoster) (actorId : Nat) (a : Applicant) : MeetingRoster :=
  if a.key ∉ s.taken ∧ s.freeSeats ≠ some 0 then s.addApplicant actorId a else s

theorem roomCapacity_eq (open_to : OpenTo s actorId meeting) :
    s.internal.surroundings.roomCapacity = meeting.roomId.bind s.capacities := by
  change (s.meeting.bind fun m => m.roomId.bind s.capacities) = _
  rw [open_to.meant]
  rfl

theorem seat_left_iff : s.freeSeats ≠ some 0 ↔
    ∀ capacity ∈ s.internal.surroundings.roomCapacity, s.internal.getAttendeeCount + 1 ≤ capacity := by
  unfold MeetingRoster.freeSeats
  cases s.internal.surroundings.roomCapacity with
  | none => simp
  | some capacity =>
    simp only [Option.map_some, ne_eq, Option.some.injEq, Option.mem_def, forall_eq']
    omega

theorem toOption_of_ok_iff {ε β : Type} {x : Except ε β} {c : Prop} [Decidable c] {a : β}
    (ok : ∀ t, x = .ok t ↔ c ∧ t = a) : x.toOption = if c then some a else none := by
  cases x with
  | ok t =>
    obtain ⟨holds, rfl⟩ := (ok t).mp rfl
    rw [if_pos holds]
    rfl
  | error e =>
    rw [if_neg]
    · rfl
    · intro holds
      cases (ok a).mpr ⟨holds, rfl⟩

theorem checkGuestCapacity_ok {r : AddExternalRequest} (open_to : OpenTo s actorId meeting) :
    checkGuestCapacity s r meeting = .ok () ↔ s.freeSeats ≠ some 0 := by
  rw [checkGuestCapacity, onSome_eq_ok, seat_left_iff, roomCapacity_eq open_to]
  refine forall₂_congr ?_
  intro capacity _
  dsimp only
  by_cases full : capacity < s.internal.getAttendeeCount + 1
  · rw [if_pos full, bind_eq_ok]
    refine iff_of_false ?_ (Nat.not_le_of_lt full)
    rintro ⟨_, allowed, -⟩
    exact require_eq_ok.mp allowed open_to.policy
  · rw [if_neg full]
    exact iff_of_true rfl (Nat.le_of_not_lt full)

theorem meeting_found (open_to : OpenTo s actorId meeting) :
    s.meeting.filter (fun m => m.deletedAt = none) = some meeting := by
  rw [open_to.meant, Option.filter_some, if_pos (decide_eq_true open_to.kept)]

theorem addExternal_eq (open_to : OpenTo s actorId meeting) (guest : GuestData) :
    (addExternalParticipant s ⟨guest, actorId, false, none⟩).toOption.getD s =
      s.seat actorId (.guest guest) := by
  have unknown : s.hasExternal guest.email = false ↔ ApplicantKey.email guest.email.toLower ∉ s.taken := by
    rw [← hasExternal_iff, Bool.not_eq_true]
  have found := meeting_found open_to
  have ok : ∀ t, addExternalParticipant s ⟨guest, actorId, false, none⟩ = .ok t ↔
      (ApplicantKey.email guest.email.toLower ∉ s.taken ∧ s.freeSeats ≠ some 0) ∧
        t = s.addApplicant actorId (.guest guest) := by
    intro t
    simp only [addExternalParticipant, bind_eq_ok, expect_eq_ok, require_eq_ok, found, Option.some.injEq,
      exists_eq_left', open_to.status, open_to.owned, true_or, or_true, true_and, unknown,
      checkGuestCapacity_ok open_to, persistExternalParticipantCore, pure_eq_ok, exists_const]
    constructor
    · rintro ⟨free, seat, -, rfl⟩
      exact ⟨⟨free, seat⟩, rfl⟩
    · rintro ⟨⟨free, seat⟩, rfl⟩
      exact ⟨free, seat, free, rfl⟩
  rw [toOption_of_ok_iff ok, MeetingRoster.seat, Applicant.key]
  split
  · rfl
  · rfl

theorem preValidate_ok (open_to : OpenTo s actorId meeting) {userId : Nat} {user : UserEntity}
    (found : s.findUser userId = some user) (active : user.accountStatus = .active) (stage : AddStage) :
    preValidate s.internal (confirmedAdd s actorId userId) = .ok stage ↔
      (isMeetingIneligibleRole (s.roleCodes userId) = false ∧ ApplicantKey.userId userId ∉ s.taken) ∧
        stage = .validated meeting := by
  have unknown : s.internal.hasParticipant userId = false ↔ ApplicantKey.userId userId ∉ s.taken := by
    rw [← hasParticipant_iff, Bool.not_eq_true]
  have meant : s.internal.surroundings.meeting.filter (fun m => m.deletedAt = none) = some meeting :=
    meeting_found open_to
  have status : s.internal.surroundings.accountStatus userId = some .active := by
    change (s.findUser userId).map UserEntity.accountStatus = _
    rw [found, Option.map_some, active]
  have codes : s.internal.surroundings.roleCodes userId = s.roleCodes userId := rfl
  simp only [preValidate, confirmedAdd, bind_eq_ok, expect_eq_ok, require_eq_ok, meant, Option.some.injEq,
    exists_eq_left', status, codes, pure_eq_ok]
  constructor
  · rintro ⟨_, -, _, -, _, eligible, _, free, _, -, rfl⟩
    exact ⟨⟨eligible, unknown.mp (require_eq_ok.mp free)⟩, rfl⟩
  · rintro ⟨⟨eligible, free⟩, rfl⟩
    exact ⟨(), open_to.status, (), trivial, (), eligible, (), require_eq_ok.mpr (unknown.mpr free), (),
      require_eq_ok.mpr (Or.inr (Or.inl open_to.owned)), rfl⟩

theorem checkCapacity_ok (open_to : OpenTo s actorId meeting) (warnings : List Warning) :
    checkCapacity s.internal meeting = .ok warnings ↔ s.freeSeats ≠ some 0 ∧ warnings = [] := by
  have same : meeting.roomId.bind s.internal.surroundings.capacities =
      s.internal.surroundings.roomCapacity := (roomCapacity_eq open_to).symm
  rw [seat_left_iff, checkCapacity, same]
  cases s.internal.surroundings.roomCapacity with
  | none => simp
  | some capacity =>
    simp only [Option.mem_def, Option.some.injEq, forall_eq']
    by_cases within : s.internal.getAttendeeCount + 1 ≤ capacity
    · rw [if_pos within, pure_eq_ok]
      exact ⟨fun same => ⟨within, same.symm⟩, fun here => here.2.symm⟩
    · rw [if_neg within, bind_eq_ok]
      refine iff_of_false ?_ fun here => within here.1
      rintro ⟨_, allowed, -⟩
      exact require_eq_ok.mp allowed open_to.policy

theorem checkWarnings_ok (open_to : OpenTo s actorId meeting) {userId : Nat} (stage : AddStage) :
    checkWarnings s.internal (confirmedAdd s actorId userId) meeting = .ok stage ↔
      s.freeSeats ≠ some 0 ∧ stage = .persisting s.internal.getAttendeeCount := by
  have confirmation : (confirmedAdd s actorId userId).confirmation = (confirmedAdd s actorId userId).warningToken := rfl
  have overridden : processOverride s.internal (confirmedAdd s actorId userId) = .ok () := by
    rw [processOverride, onSome_eq_ok, confirmation]
    rintro token ⟨⟩
    simp only [bind_eq_ok, expect_eq_ok]
    refine ⟨_, if_pos ⟨rfl, rfl, rfl⟩, ?_⟩
    rw [if_neg]
    · rfl
    · simp [generateToken, scheduleWarnings]
  rw [checkWarnings]
  simp only [bind_eq_ok, checkCapacity_ok open_to, pure_eq_ok]
  constructor
  · rintro ⟨_, ⟨seat, -⟩, _, -, _, -, rfl⟩
    exact ⟨seat, rfl⟩
  · rintro ⟨seat, rfl⟩
    exact ⟨[], ⟨seat, rfl⟩, (), require_eq_ok.mpr (Or.inr rfl), (), overridden, rfl⟩

theorem addInternal_eq (open_to : OpenTo s actorId meeting) {userId : Nat} {user : UserEntity}
    (found : s.findUser userId = some user) (active : user.accountStatus = .active) :
    s.setInternal (addAlone s.internal (confirmedAdd s actorId userId)) =
      if isMeetingIneligibleRole (s.roleCodes userId) then s else s.seat actorId (.user userId) := by
  have decided : (if isMeetingIneligibleRole (s.roleCodes userId) then s
      else s.seat actorId (.user userId)) =
      if (isMeetingIneligibleRole (s.roleCodes userId) = false ∧ ApplicantKey.userId userId ∉ s.taken) ∧
        s.freeSeats ≠ some 0 then s.addApplicant actorId (.user userId) else s := by
    cases isMeetingIneligibleRole (s.roleCodes userId) with
    | true => simp
    | false =>
      rw [if_neg Bool.false_ne_true, MeetingRoster.seat, Applicant.key]
      by_cases goes : ApplicantKey.userId userId ∉ s.taken ∧ s.freeSeats ≠ some 0
      · rw [if_pos goes, if_pos ⟨⟨rfl, goes.1⟩, goes.2⟩]
      · rw [if_neg goes, if_neg fun both => goes ⟨both.1.2, both.2⟩]
  rw [decided]
  by_cases passes : isMeetingIneligibleRole (s.roleCodes userId) = false ∧
      ApplicantKey.userId userId ∉ s.taken
  · have validated : ((confirmedAdd s actorId userId).access s.internal .starting).2 =
        some (.validated meeting) := by
      exact (toOption_of_ok_iff (preValidate_ok open_to found active)).trans (if_pos passes)
    have counted := toOption_of_ok_iff (@checkWarnings_ok s actorId meeting open_to userId)
    by_cases seat : s.freeSeats ≠ some 0
    · have persisting : ((confirmedAdd s actorId userId).access s.internal (.validated meeting)).2 =
          some (.persisting s.internal.getAttendeeCount) := counted.trans (if_pos seat)
      have unknown : s.internal.hasParticipant userId = false :=
        Bool.eq_false_iff.mpr fun known => passes.2 (hasParticipant_iff.mp known)
      have written : persistInternalParticipantCore s.internal (confirmedAdd s actorId userId) =
          .ok { s.internal with
            participants := s.participants ++ [AddRequest.participant ⟨userId, actorId, false, none⟩] } :=
        bind_eq_ok.mpr ⟨(), require_eq_ok.mpr unknown, rfl⟩
      rw [if_pos ⟨passes, seat⟩, addAlone, validated]
      dsimp only
      rw [persisting]
      dsimp only [AddRequest.access]
      rw [written]
      rfl
    · have refused : ((confirmedAdd s actorId userId).access s.internal (.validated meeting)).2 = none :=
        counted.trans (if_neg seat)
      rw [if_neg fun both => seat both.2, addAlone, validated]
      dsimp only
      rw [refused]
      rfl
  · have refused : ((confirmedAdd s actorId userId).access s.internal .starting).2 = none :=
      (toOption_of_ok_iff (preValidate_ok open_to found active)).trans (if_neg passes)
    rw [if_neg fun both => passes both.1, addAlone, refused]
    rfl

theorem found_active {selected : Nat × UserEntity → Bool} {userId : Nat}
    (active : ∀ u, selected u = true → u.2.accountStatus = .active ∧ u.2.deletedAt = none)
    (chosen : (s.users.table.findOne selected).map Prod.fst = some userId) :
    ∃ user, s.findUser userId = some user ∧ user.accountStatus = .active := by
  obtain ⟨u, there, rfl⟩ := Option.map_eq_some_iff.mp chosen
  obtain ⟨row, is_selected⟩ := findOne_mem there
  obtain ⟨is_active, kept⟩ := active u is_selected
  refine ⟨u.2, ?_, is_active⟩
  rw [MeetingRoster.findUser, get?_eq_some.mpr row, Option.filter_some, if_pos (decide_eq_true kept)]

theorem owner_active {userId : Nat} (owns : owner s parsed = some userId) :
    ∃ user, s.findUser userId = some user ∧ user.accountStatus = .active := by
  unfold owner at owns
  rcases Option.or_eq_some_iff.mp owns with by_email | ⟨-, by_code⟩
  · split at by_email
    · exact found_active (fun u selected => of_decide_eq_true (of_decide_eq_true selected).1) by_email
    · cases by_email
  · split at by_code
    · exact found_active (fun u selected => of_decide_eq_true (of_decide_eq_true selected).1) by_code
    · cases by_code

theorem addRow_eq (open_to : OpenTo s actorId meeting) (valid : (staticValidate parsed).isHardError = false) :
    addRow s actorId parsed =
      ((applicant s (owner s parsed) parsed).map (s.seat actorId)).getD s := by
  unfold addRow applicant
  rw [valid, if_neg Bool.false_ne_true, addExternal_eq open_to]
  by_cases declared : parsed.declaredKind = some .external
  · rw [if_pos declared, if_pos declared]
    rfl
  rw [if_neg declared, if_neg declared]
  cases owns : owner s parsed with
  | none =>
    dsimp only
    split
    · rfl
    · rfl
  | some userId =>
    obtain ⟨user, found, active⟩ := owner_active owns
    dsimp only
    rw [addInternal_eq open_to found active]
    split
    · rfl
    · rfl

end Single

section Run
variable {s : MeetingRoster} {actorId : Nat} {meeting : Meeting} {a : Applicant} {l : List Applicant}
  {rows : List ParsedRow}

theorem mem_taken_add (k : ApplicantKey) : k ∈ a.key :: s.taken ↔ k ∈ (s.addApplicant actorId a).taken := by
  cases a with
  | user userId =>
    simp [MeetingRoster.addApplicant, MeetingRoster.taken, Applicant.key, AddRequest.participant]
    exact or_left_comm
  | guest data =>
    simp [MeetingRoster.addApplicant, MeetingRoster.taken, Applicant.key]
    exact or_comm.trans or_assoc

theorem freeSeats_add : (s.addApplicant actorId a).freeSeats = s.freeSeats.map (· - 1) := by
  have counted : (s.addApplicant actorId a).internal.getAttendeeCount = s.internal.getAttendeeCount + 1 := by
    cases a with
    | user userId =>
      simp [MeetingRoster.addApplicant, MeetingRoster.internal, ParticipantStore.getAttendeeCount]
      omega
    | guest data =>
      simp [MeetingRoster.addApplicant, MeetingRoster.internal, ParticipantStore.getAttendeeCount]
      omega
  have room : (s.addApplicant actorId a).internal.surroundings.roomCapacity =
      s.internal.surroundings.roomCapacity := by
    cases a with
    | user userId => rfl
    | guest data => rfl
  rw [MeetingRoster.freeSeats, room, counted, MeetingRoster.freeSeats, Option.map_map]
  refine congrFun (congrArg Option.map (funext ?_)) _
  intro capacity
  exact Nat.sub_add_eq _ _ _

theorem foldl_seat : l.foldl (fun s a => s.seat actorId a) s =
    s.addApplicants actorId (seated s.freeSeats (fresh Applicant.key s.taken l)) := by
  rw [← admitted_eq]
  induction l generalizing s with
  | nil => rfl
  | cons a rest ih =>
    rw [List.foldl_cons, ih, MeetingRoster.seat, admitted]
    by_cases goes : a.key ∉ s.taken ∧ s.freeSeats ≠ some 0
    · rw [if_pos goes, if_neg (by tauto), freeSeats_add, admitted_congr fun k => (mem_taken_add k).symm]
      rfl
    · rw [if_neg goes, if_pos (by tauto)]

theorem openTo_add (open_to : OpenTo s actorId meeting) : OpenTo (s.addApplicant actorId a) actorId meeting := by
  obtain ⟨meant, kept, status, owned, policy⟩ := open_to
  cases a with
  | user userId => exact ⟨meant, kept, status, owned, policy⟩
  | guest data => exact ⟨meant, kept, status, owned, policy⟩

def wanted (s : MeetingRoster) (rows : List ParsedRow) : List Applicant :=
  rows.filterMap fun parsed => applicant s (owner s parsed) parsed

theorem wanted_seat : wanted (s.seat actorId a) rows = wanted s rows := by
  unfold MeetingRoster.seat
  split
  · cases a with
    | user userId => rfl
    | guest data => rfl
  · rfl

theorem openTo_seat (open_to : OpenTo s actorId meeting) : OpenTo (s.seat actorId a) actorId meeting := by
  unfold MeetingRoster.seat
  split
  · exact openTo_add open_to
  · exact open_to

theorem rows_admitted (open_to : OpenTo s actorId meeting) :
    addOneByOne s actorId rows = (wanted s rows).foldl (fun s a => s.seat actorId a) s := by
  induction rows generalizing s with
  | nil => rfl
  | cons parsed rest ih =>
    unfold addOneByOne at ih ⊢
    rw [wanted, List.filterMap_cons]
    cases invalid : (staticValidate parsed).isHardError with
    | true =>
      have nobody : applicant s (owner s parsed) parsed = none := if_pos invalid
      rw [List.filter_cons, if_neg (by simp [invalid]), nobody]
      exact ih open_to
    | false =>
      rw [List.filter_cons, if_pos (by simp [invalid]), List.foldl_cons, addRow_eq open_to invalid]
      cases applicant s (owner s parsed) parsed with
      | none => exact ih open_to
      | some a =>
        rw [Option.map_some, Option.getD_some, ih (openTo_seat open_to), wanted_seat]
        rfl

theorem addOneByOne_eq (open_to : OpenTo s actorId meeting) : addOneByOne s actorId rows =
    s.addApplicants actorId (seated s.freeSeats (fresh Applicant.key s.taken (wanted s rows))) :=
  (rows_admitted open_to).trans foldl_seat

end Run
end Participants
