import MeetingPlatform.Participants.OneByOne

/- A file that is imported should add those whom its rows would add one by one. The import looks all
   users up at once, and counts the seats of the internal rows only. -/
namespace Participants
open KeyedTable Guards Admissions

section Passes
variable {s : MeetingRoster} {state : RowState} {states : List RowState} {reason : ImportRowReason}

def RowState.asks (state : RowState) : Option Applicant :=
  match state.userToAdd with
  | some userId => some (.user userId)
  | none => if state.emailToAdd.isSome then some (.guest state.parsed.guest) else none

/-- A row that is no error has been found to be of one kind. -/
def RowState.Settled (state : RowState) : Prop :=
  state.isHardError = true ∨ (state.kind = some .internal ∧ state.resolvedUserId.isSome = true) ∨
    state.kind = some .external

theorem asks_markError : (state.markError reason).asks = none := rfl

theorem asks_markWarning : (state.markWarning reason).asks = state.asks := by
  unfold RowState.markWarning
  split
  · rfl
  · rfl

theorem settled_markError : (state.markError reason).Settled := Or.inl rfl

theorem settled_markWarning (settled : state.Settled) : (state.markWarning reason).Settled := by
  unfold RowState.markWarning
  split
  · exact settled
  · exact settled

theorem asks_user {userId : Nat} : state.asks = some (.user userId) ↔ state.userToAdd = some userId := by
  unfold RowState.asks
  cases state.userToAdd with
  | some other => simp
  | none =>
    dsimp only
    split
    · simp
    · simp

theorem no_user_of_email {email : String} (to_add : state.emailToAdd = some email) : state.userToAdd = none := by
  unfold RowState.emailToAdd at to_add
  unfold RowState.userToAdd
  split at to_add
  · rename_i external
    rw [if_neg]
    rintro ⟨-, internal⟩
    rw [external.2] at internal
    cases internal
  · cases to_add

theorem asks_guest {data : GuestData} : state.asks = some (.guest data) ↔
    state.emailToAdd = some state.parsed.email ∧ data = state.parsed.guest := by
  have own : ∀ email, state.emailToAdd = some email → email = state.parsed.email := by
    intro email to_add
    unfold RowState.emailToAdd at to_add
    split at to_add
    · exact (Option.some.inj to_add).symm
    · cases to_add
  unfold RowState.asks
  cases to_add : state.emailToAdd with
  | none =>
    cases state.userToAdd with
    | none => simp
    | some userId => simp
  | some email =>
    rw [no_user_of_email to_add, own email to_add]
    simp [eq_comm]

theorem user_told : (state.userToAdd).map .userId = (state.asks.filter Applicant.isUser).map Applicant.key := by
  cases to_add : state.userToAdd with
  | some userId =>
    rw [asks_user.mpr to_add]
    rfl
  | none =>
    cases asked : state.asks with
    | none => rfl
    | some a =>
      cases a with
      | user userId =>
        rw [asks_user.mp asked] at to_add
        cases to_add
      | guest data => rfl

theorem email_told :
    (state.emailToAdd).map .email = (state.asks.filter (!·.isUser)).map Applicant.key := by
  cases asked : state.asks with
  | none =>
    cases to_add : state.emailToAdd with
    | none => rfl
    | some email =>
      rw [RowState.asks, no_user_of_email to_add, to_add] at asked
      cases asked
  | some a =>
    cases a with
    | user userId =>
      cases to_add : state.emailToAdd with
      | none => rfl
      | some email =>
        rw [asks_user, no_user_of_email to_add] at asked
        cases asked
    | guest data =>
      obtain ⟨to_add, rfl⟩ := asks_guest.mp asked
      rw [to_add]
      exact congrArg (fun email => some (ApplicantKey.email email)) state.parsed.lower.symm

section Marks
variable {κ : Type} [DecidableEq κ] {keyToAdd : RowState → Option κ} {bad seen : List κ}

theorem asks_markWhere {keep : Applicant → Bool} (drops : ∀ state ∈ states, ∀ a ∈ state.asks,
    (∃ k ∈ keyToAdd state, k ∈ bad) ↔ keep a = false) :
    (markWhere states keyToAdd bad reason).filterMap RowState.asks =
      (states.filterMap RowState.asks).filter keep := by
  rw [markWhere, List.filterMap_map, List.filter_filterMap]
  refine List.filterMap_congr ?_
  intro state there
  have here := drops state there
  rw [Function.comp_apply]
  cases asked : state.asks with
  | none =>
    split
    · rfl
    · rw [asked]
      rfl
  | some a =>
    rw [asked] at here
    rw [Option.filter_some]
    split
    · rename_i marked
      rw [(here a rfl).mp marked]
      rfl
    · rename_i unmarked
      have kept : keep a = true := by
        by_contra dropped
        exact unmarked ((here a rfl).mpr (Bool.eq_false_of_not_eq_true dropped))
      rw [kept, asked]
      rfl

theorem asks_markRepeated {tag : κ → ApplicantKey} {p : Applicant → Bool} (one_to_one : tag.Injective)
    (told : ∀ state : RowState, (keyToAdd state).map tag = (state.asks.filter p).map Applicant.key) :
    (markRepeated keyToAdd seen states).filterMap RowState.asks =
      freshAmong Applicant.key p (seen.map tag) (states.filterMap RowState.asks) := by
  induction states generalizing seen with
  | nil => rfl
  | cons state rest ih =>
    have here := told state
    rw [markRepeated, List.filterMap_cons]
    cases to_add : keyToAdd state with
    | none =>
      dsimp only
      rw [List.filterMap_cons, ih]
      cases asked : state.asks with
      | none => rfl
      | some a =>
        have other : p a = false := by
          by_contra chosen
          rw [to_add, asked, Option.filter_some, if_pos (Bool.eq_true_of_not_eq_false chosen)] at here
          cases here
        dsimp only
        rw [freshAmong, other, if_neg (by simp)]
        rfl
    | some k =>
      rw [to_add] at here
      obtain ⟨a, chosen, same⟩ := Option.map_eq_some_iff.mp here.symm
      obtain ⟨asked, is_chosen⟩ := Option.filter_eq_some_iff.mp chosen
      rw [asked]
      dsimp only
      rw [freshAmong, is_chosen, same]
      by_cases again : k ∈ seen
      · rw [if_pos again, if_pos ⟨rfl, List.mem_map_of_mem again⟩, List.filterMap_cons, asks_markError, ih]
      · have unseen : ¬ (true = true ∧ tag k ∈ seen.map tag) := by
          rintro ⟨-, there⟩
          obtain ⟨j, before, equal⟩ := List.mem_map.mp there
          exact again (one_to_one equal ▸ before)
        rw [if_neg again, if_neg unseen, List.filterMap_cons, asked, ih]
        rfl

theorem settled_markWhere (settled : ∀ state ∈ states, state.Settled) :
    ∀ state ∈ markWhere states keyToAdd bad reason, state.Settled := by
  rw [markWhere, List.forall_mem_map]
  intro state there
  split
  · exact settled_markError
  · exact settled state there

theorem settled_markRepeated (settled : ∀ state ∈ states, state.Settled) :
    ∀ state ∈ markRepeated keyToAdd seen states, state.Settled := by
  induction states generalizing seen with
  | nil => exact settled
  | cons state rest ih =>
    rw [List.forall_mem_cons] at settled
    rw [markRepeated]
    split
    · exact List.forall_mem_cons.mpr ⟨settled.1, ih settled.2⟩
    · split
      · exact List.forall_mem_cons.mpr ⟨settled_markError, ih settled.2⟩
      · exact List.forall_mem_cons.mpr ⟨settled.1, ih settled.2⟩

end Marks

end Passes

section Resolved
variable {s : MeetingRoster} {states : List RowState} {parsed : ParsedRow} {users : List (Nat × UserEntity)}

theorem static_fields : (staticValidate parsed).parsed = parsed ∧
    (staticValidate parsed).kind = parsed.declaredKind ∧
    (staticValidate parsed).declaredKind = parsed.declaredKind := by
  unfold staticValidate
  dsimp only
  repeat' split
  all_goals exact ⟨rfl, rfl, rfl⟩

/-- Users of some roles are not asked for. -/
def eligible (s : MeetingRoster) : Applicant → Bool
  | .user userId => !isMeetingIneligibleRole (s.roleCodes userId)
  | .guest _ => true

theorem asks_resolved : (resolveRow users (staticValidate parsed)).asks.filter (eligible s) =
      applicant s (resolveUser users parsed) parsed ∧
    (resolveRow users (staticValidate parsed)).Settled := by
  obtain ⟨own, kind, declared⟩ := @static_fields parsed
  unfold resolveRow applicant
  cases invalid : (staticValidate parsed).isHardError with
  | true =>
    rw [if_pos (Or.inl rfl), if_pos rfl, RowState.asks, RowState.userToAdd, RowState.emailToAdd, invalid]
    exact ⟨rfl, Or.inl invalid⟩
  | false =>
    rw [if_neg Bool.false_ne_true]
    by_cases external : parsed.declaredKind = some .external
    · have to_add : (staticValidate parsed).emailToAdd = some (staticValidate parsed).parsed.email :=
        if_pos ⟨invalid, kind.trans external⟩
      rw [if_pos (Or.inr (declared.trans external)), if_pos external,
        asks_guest.mpr ⟨to_add, rfl⟩, own]
      exact ⟨rfl, Or.inr (Or.inr (kind.trans external))⟩
    · have not_external : ¬ (false = true ∨ (staticValidate parsed).declaredKind = some .external) := by
        rw [declared]
        exact fun either => either.elim Bool.false_ne_true external
      rw [if_neg not_external, if_neg external, own, declared]
      cases resolveUser users parsed with
      | some userId =>
        have asked : ((staticValidate parsed).resolved .internal (some userId)).asks = some (.user userId) :=
          asks_user.mpr (if_pos ⟨invalid, rfl⟩)
        dsimp only
        rw [asked, Option.filter_some, eligible]
        refine ⟨?_, Or.inr (Or.inl ⟨rfl, rfl⟩)⟩
        cases isMeetingIneligibleRole (s.roleCodes userId) with
        | true => rfl
        | false => rfl
      | none =>
        dsimp only
        by_cases internal : parsed.declaredKind = some .internal
        · rw [if_pos internal, if_pos (Or.inl internal)]
          exact ⟨rfl, settled_markError⟩
        · rw [if_neg internal]
          cases named : parsed.namesGuest with
          | true =>
            have to_add : ((staticValidate parsed).resolved .external none).emailToAdd =
                some (staticValidate parsed).parsed.email := if_pos ⟨invalid, rfl⟩
            rw [if_pos rfl, if_neg (by simpa using internal), asks_guest.mpr ⟨to_add, rfl⟩]
            refine ⟨?_, Or.inr (Or.inr rfl)⟩
            exact congrArg (fun row : ParsedRow => some (Applicant.guest row.guest)) own
          | false =>
            rw [if_neg Bool.false_ne_true, if_pos (Or.inr rfl)]
            exact ⟨rfl, settled_markError⟩

end Resolved

section Detected
variable {s : MeetingRoster} {states : List RowState} {rows : List ParsedRow}

theorem guest_asks_no_user {state : RowState} {data : GuestData} (asked : state.asks = some (.guest data)) :
    state.userToAdd = none :=
  no_user_of_email (asks_guest.mp asked).1

theorem asks_markUsers {bad : List Nat} {reason : ImportRowReason} {keep : Applicant → Bool}
    (guests : ∀ data, keep (.guest data) = true)
    (drops : ∀ userId ∈ states.filterMap RowState.userToAdd, userId ∈ bad ↔ keep (.user userId) = false) :
    (markWhere states RowState.userToAdd bad reason).filterMap RowState.asks =
      (states.filterMap RowState.asks).filter keep := by
  refine asks_markWhere ?_
  intro state there a asked
  cases a with
  | user userId =>
    have to_add := asks_user.mp asked
    rw [to_add, ← drops userId (List.mem_filterMap.mpr ⟨state, there, to_add⟩)]
    simp only [Option.mem_def, Option.some.injEq, exists_eq_left']
  | guest data =>
    rw [guest_asks_no_user asked, guests]
    simp only [Option.mem_def, reduceCtorEq, false_and, exists_false, Bool.true_eq_false]

theorem mem_existing {β κ : Type} [DecidableEq κ] {key : β → κ} {l : List β} {keys : List κ} {k : κ}
    (listed : k ∈ keys) : k ∈ (l.filter fun p => key p ∈ keys).map key ↔ ∃ p ∈ l, key p = k := by
  simp only [List.mem_map, List.mem_filter, decide_eq_true_eq]
  constructor
  · rintro ⟨p, ⟨row, -⟩, same⟩
    exact ⟨p, row, same⟩
  · rintro ⟨p, row, same⟩
    exact ⟨p, ⟨row, same ▸ listed⟩, same⟩

theorem asks_markIneligible : (markIneligible s states).filterMap RowState.asks =
    (states.filterMap RowState.asks).filter (eligible s) := by
  refine asks_markUsers (fun data => rfl) ?_
  intro userId listed
  rw [getIneligibleMeetingUserIds, List.mem_filter, eligible, Bool.not_eq_false']
  exact and_iff_right listed

theorem asks_markExistingUsers : (markExistingUsers s states).filterMap RowState.asks =
    (states.filterMap RowState.asks).filter fun a => !(a.isUser && decide (a.key ∈ s.taken)) := by
  refine asks_markUsers (fun data => rfl) ?_
  intro userId listed
  have known : (∃ p ∈ s.participants, p.userId = userId) ↔ ApplicantKey.userId userId ∈ s.taken := by
    rw [← hasParticipant_iff, ParticipantStore.hasParticipant, List.any_eq_true]
    simp only [decide_eq_true_eq]
    exact Iff.rfl
  rw [mem_existing listed, known, Applicant.isUser, Applicant.key, Bool.true_and, Bool.not_eq_false',
    decide_eq_true_eq]

theorem asks_markExistingGuests : (markExistingGuests s states).filterMap RowState.asks =
    (states.filterMap RowState.asks).filter fun a => !(!a.isUser && decide (a.key ∈ s.taken)) := by
  refine asks_markWhere ?_
  intro state there a asked
  cases a with
  | user userId =>
    have told := @email_told state
    rw [asked] at told
    rw [Option.map_eq_none_iff.mp told, Applicant.isUser, Bool.not_true, Bool.false_and]
    simp only [Option.mem_def, reduceCtorEq, false_and, exists_false, Bool.not_false, Bool.true_eq_false]
  | guest data =>
    obtain ⟨to_add, rfl⟩ := asks_guest.mp asked
    have listed : state.parsed.email ∈ states.filterMap RowState.emailToAdd :=
      List.mem_filterMap.mpr ⟨state, there, to_add⟩
    have lower : state.parsed.guest.email.toLower = state.parsed.email := state.parsed.lower
    have known : (∃ p ∈ s.externalParticipants, p.email.toLower = state.parsed.email) ↔
        ApplicantKey.email state.parsed.email ∈ s.taken := by
      rw [← state.parsed.lower, ← hasExternal_iff, MeetingRoster.hasExternal, List.any_eq_true]
      simp only [decide_eq_true_eq]
    have asked_key : (Applicant.guest state.parsed.guest).key = .email state.parsed.email :=
      congrArg ApplicantKey.email lower
    rw [to_add, asked_key]
    simp only [Option.mem_def, Option.some.injEq, exists_eq_left', Applicant.isUser, Bool.not_false,
      Bool.true_and, Bool.not_eq_false', decide_eq_true_eq]
    exact (mem_existing listed).trans known

/-- Whom the rows ask for, as the import finds the users. -/
def found (s : MeetingRoster) (rows : List ParsedRow) : List Applicant :=
  rows.filterMap fun parsed =>
    applicant s (resolveUser (activeUsers (fetchedUsers s (rows.map staticValidate))) parsed) parsed

theorem asks_found : (((rows.map staticValidate).map (resolveRow
    (activeUsers (fetchedUsers s (rows.map staticValidate))))).filterMap RowState.asks).filter (eligible s) =
      found s rows := by
  rw [List.map_map, List.filterMap_map, List.filter_filterMap]
  refine List.filterMap_congr ?_
  intro parsed _
  exact asks_resolved.1

theorem told_apart (a b : Applicant) (same : a.key = b.key) : a.isUser = b.isUser := by
  cases a with
  | user userId =>
    cases b with
    | user other => rfl
    | guest data => cases same
  | guest data =>
    cases b with
    | user userId => cases same
    | guest other => rfl

theorem detected_class {p : Applicant → Bool} {taken : List ApplicantKey} {l : List Applicant} :
    ((freshAmong Applicant.key p [] l).filter fun a => !(p a && decide (a.key ∈ taken))).filter p =
      fresh Applicant.key taken (l.filter p) ∧
    ((freshAmong Applicant.key p [] l).filter fun a => !(p a && decide (a.key ∈ taken))).filter (!p ·) =
      l.filter (!p ·) := by
  constructor
  · have class_only : ∀ m : List Applicant, (m.filter fun a => !(p a && decide (a.key ∈ taken))).filter p =
        (m.filter p).filter fun a => a.key ∉ taken := by
      intro m
      rw [List.filter_filter, List.filter_filter]
      refine List.filter_congr ?_
      intro a _
      cases p a with
      | true => simp
      | false => simp
    rw [class_only, freshAmong_class, fresh_then_taken, List.nil_append]
  · have others_kept : ∀ m : List Applicant, (m.filter fun a => !(p a && decide (a.key ∈ taken))).filter (!p ·) =
        m.filter (!p ·) := by
      intro m
      rw [List.filter_filter]
      refine List.filter_congr ?_
      intro a _
      cases p a with
      | true => simp
      | false => simp
    rw [others_kept, freshAmong_others]
    intro a other
    simpa using other

theorem asks_detected : ((resolveAndDetectDuplicates s (rows.map staticValidate)).filterMap
      RowState.asks).filter Applicant.isUser = (fresh Applicant.key s.taken (found s rows)).filter Applicant.isUser ∧
    ((resolveAndDetectDuplicates s (rows.map staticValidate)).filterMap RowState.asks).filter (!·.isUser) =
      (fresh Applicant.key s.taken (found s rows)).filter (!·.isUser) := by
  have users_one_to_one : ApplicantKey.userId.Injective := fun a b same => ApplicantKey.userId.inj same
  have emails_one_to_one : ApplicantKey.email.Injective := fun a b same => ApplicantKey.email.inj same
  have guests_apart : ∀ a b : Applicant, a.key = b.key → (!a.isUser) = !b.isUser :=
    fun a b same => congrArg Bool.not (told_apart a b same)
  obtain ⟨users, guests⟩ := @detected_class Applicant.isUser s.taken (found s rows)
  rw [resolveAndDetectDuplicates, asks_markExistingGuests,
    asks_markRepeated emails_one_to_one fun state => email_told, asks_markExistingUsers,
    asks_markRepeated users_one_to_one fun state => user_told, asks_markIneligible, asks_found]
  obtain ⟨emails, others⟩ := @detected_class (fun a => !a.isUser) s.taken
    ((freshAmong Applicant.key Applicant.isUser [] (found s rows)).filter
      fun a => !(a.isUser && decide (a.key ∈ s.taken)))
  rw [fresh_filter told_apart, fresh_filter guests_apart, ← users, ← guests]
  simp only [Bool.not_not] at others
  exact ⟨others, emails⟩

theorem settled_detected :
    ∀ state ∈ resolveAndDetectDuplicates s (rows.map staticValidate), state.Settled := by
  refine settled_markWhere (settled_markRepeated (settled_markWhere (settled_markRepeated
    (settled_markWhere ?_))))
  rw [List.map_map, List.forall_mem_map]
  intro parsed _
  exact (asks_resolved (s := s)).2

end Detected

section Seats
variable {s : MeetingRoster} {actorId : Nat} {meeting : Meeting} {states : List RowState}

theorem users_asked : (states.filterMap RowState.userToAdd).length =
    ((states.filterMap RowState.asks).filter Applicant.isUser).length := by
  induction states with
  | nil => rfl
  | cons state rest ih =>
    have told := @user_told state
    rw [List.filterMap_cons, List.filterMap_cons]
    cases asked : state.asks with
    | none =>
      rw [asked] at told
      rw [Option.map_eq_none_iff.mp told]
      exact ih
    | some a =>
      cases a with
      | user userId =>
        rw [asks_user.mp asked]
        exact congrArg (· + 1) ih
      | guest data =>
        rw [guest_asks_no_user asked]
        exact ih

theorem asks_markConflicts : (markConflicts s states).filterMap RowState.asks = states.filterMap RowState.asks := by
  rw [markConflicts, List.filterMap_map]
  refine List.filterMap_congr ?_
  intro state _
  rw [Function.comp_apply]
  split
  · exact asks_markWarning
  · rfl

theorem settled_markConflicts (settled : ∀ state ∈ states, state.Settled) :
    ∀ state ∈ markConflicts s states, state.Settled := by
  rw [markConflicts, List.forall_mem_map]
  intro state there
  split
  · exact settled_markWarning (settled state there)
  · exact settled state there

theorem asks_markOverCapacity {capacity seat : Nat} {reason : ImportRowReason} :
    let marked := (markOverCapacity capacity (·.markError reason) seat states).filterMap RowState.asks
    marked.filter Applicant.isUser =
        ((states.filterMap RowState.asks).filter Applicant.isUser).take (capacity - seat) ∧
      marked.filter (!·.isUser) = (states.filterMap RowState.asks).filter (!·.isUser) := by
  induction states generalizing seat with
  | nil => exact ⟨List.take_nil.symm, rfl⟩
  | cons state rest ih =>
    have told := @user_told state
    rw [markOverCapacity, List.filterMap_cons (l := rest)]
    cases asked : state.asks with
    | none =>
      rw [asked] at told
      rw [Option.map_eq_none_iff.mp told]
      simp only [Option.isSome_none, Bool.false_eq_true, if_false, List.filterMap_cons, asked]
      exact ih
    | some a =>
      cases a with
      | guest data =>
        rw [guest_asks_no_user asked]
        simp only [Option.isSome_none, Bool.false_eq_true, if_false, List.filterMap_cons, asked]
        exact ⟨ih.1, congrArg (Applicant.guest data :: ·) ih.2⟩
      | user userId =>
        obtain ⟨users, guests⟩ := @ih (seat + 1)
        rw [asks_user.mp asked]
        simp only [Option.isSome_some, if_true, List.filterMap_cons]
        by_cases left : seat + 1 ≤ capacity
        · rw [if_pos left, asked]
          have more : capacity - seat = (capacity - (seat + 1)) + 1 := by omega
          refine ⟨?_, guests⟩
          rw [more]
          exact congrArg (Applicant.user userId :: ·) users
        · rw [if_neg left, asks_markError]
          have none_left : capacity - seat = 0 ∧ capacity - (seat + 1) = 0 := by omega
          rw [none_left.2] at users
          rw [none_left.1]
          exact ⟨users, guests⟩

theorem settled_markOverCapacity {capacity seat : Nat} {reason : ImportRowReason}
    (settled : ∀ state ∈ states, state.Settled) :
    ∀ state ∈ markOverCapacity capacity (·.markError reason) seat states, state.Settled := by
  induction states generalizing seat with
  | nil => exact settled
  | cons state rest ih =>
    rw [List.forall_mem_cons] at settled
    rw [markOverCapacity]
    split
    · refine List.forall_mem_cons.mpr ⟨?_, ih settled.2⟩
      split
      · exact settled.1
      · exact settled_markError
    · exact List.forall_mem_cons.mpr ⟨settled.1, ih settled.2⟩

theorem markCapacity_blocked (open_to : OpenTo s actorId meeting) {capacity : Nat} :
    markCapacity s states actorId capacity =
      if s.internal.getAttendeeCount + (states.filterMap RowState.userToAdd).length ≤ capacity then states
      else markOverCapacity capacity (·.markError .roomCapacityExceeded) s.internal.getAttendeeCount states := by
  rw [markCapacity]
  simp only [open_to.policy, true_or, if_true]

/-- What the import comes to before it writes. -/
structure SeatsGiven (s : MeetingRoster) (states evaluated : List RowState) : Prop where
  users : (evaluated.filterMap RowState.asks).filter Applicant.isUser =
    seated s.freeSeats ((states.filterMap RowState.asks).filter Applicant.isUser)
  guests : (evaluated.filterMap RowState.asks).filter (!·.isUser) =
    (states.filterMap RowState.asks).filter (!·.isUser)
  settled : ∀ state ∈ evaluated, state.Settled

theorem seats_given (open_to : OpenTo s actorId meeting) (settled : ∀ state ∈ states, state.Settled) :
    SeatsGiven s states (evaluateWarnings s states actorId meeting) := by
  have counted := @users_asked states
  have seats : s.freeSeats =
      (meeting.roomId.bind s.capacities).map fun capacity => capacity - s.internal.getAttendeeCount := by
    rw [MeetingRoster.freeSeats, roomCapacity_eq open_to]
  rw [evaluateWarnings]
  by_cases nobody : states.filterMap RowState.userToAdd = []
  · rw [nobody] at counted
    have no_user := List.length_eq_zero_iff.mp counted.symm
    rw [if_pos nobody]
    refine ⟨?_, rfl, settled⟩
    rw [no_user]
    cases s.freeSeats with
    | none => rfl
    | some n => exact List.take_nil.symm
  rw [if_neg nobody]
  have settled' := settled_markConflicts (s := s) settled
  cases room : meeting.roomId.bind s.capacities with
  | none =>
    refine ⟨?_, ?_, settled'⟩
    · rw [asks_markConflicts, seats, room]
      rfl
    · rw [asks_markConflicts]
  | some capacity =>
    dsimp only
    rw [markCapacity_blocked open_to, users_asked, asks_markConflicts]
    by_cases within : s.internal.getAttendeeCount +
        ((states.filterMap RowState.asks).filter Applicant.isUser).length ≤ capacity
    · rw [if_pos within]
      refine ⟨?_, by rw [asks_markConflicts], settled'⟩
      rw [asks_markConflicts, seats, room, seated_of_fits]
      rintro n ⟨⟩
      exact Nat.le_sub_of_add_le' within
    · obtain ⟨users, guests⟩ := @asks_markOverCapacity (markConflicts s states) capacity
        s.internal.getAttendeeCount .roomCapacityExceeded
      rw [asks_markConflicts] at users guests
      rw [if_neg within]
      refine ⟨?_, guests, settled_markOverCapacity settled'⟩
      rw [seats, room]
      exact users

end Seats

section Written
variable {s : MeetingRoster} {actorId : Nat} {states : List RowState} {l m : List Applicant}

theorem persistRow_eq {state : RowState} (settled : state.Settled) : (persistRow s actorId state).1 =
    match state.asks with
    | none => s
    | some a => if a.key ∈ s.taken then s else s.addApplicant actorId a := by
  unfold persistRow
  cases failed : state.isHardError with
  | true =>
    have nobody : state.asks = none := by
      rw [RowState.asks, RowState.userToAdd, RowState.emailToAdd, failed]
      rfl
    rw [if_pos rfl, nobody]
  | false =>
    rw [if_neg Bool.false_ne_true]
    rcases settled with error | ⟨internal, resolved⟩ | external
    · rw [failed] at error
      cases error
    · obtain ⟨userId, is_user⟩ := Option.isSome_iff_exists.mp resolved
      have to_add : state.userToAdd = some userId := (if_pos ⟨failed, internal⟩).trans is_user
      rw [asks_user.mpr to_add, internal, is_user]
      dsimp only
      by_cases known : (Applicant.user userId).key ∈ s.taken
      · have refused : persistInternalParticipantCore s.internal ⟨userId, actorId, false, none⟩ =
            .error participantAlreadyExists := by
          rw [persistInternalParticipantCore, hasParticipant_iff.mpr known]
          rfl
        rw [refused, if_pos known]
      · have unknown : s.internal.hasParticipant userId = false :=
          Bool.eq_false_iff.mpr fun there => known (hasParticipant_iff.mp there)
        rw [if_neg known, persistInternalParticipantCore, unknown]
        rfl
    · have to_add : state.emailToAdd = some state.parsed.email := if_pos ⟨failed, external⟩
      rw [asks_guest.mpr ⟨to_add, rfl⟩, external]
      dsimp only
      by_cases known : (Applicant.guest state.parsed.guest).key ∈ s.taken
      · have refused : persistExternalParticipantCore s state.parsed.guest = .error externalAlreadyExists := by
          rw [persistExternalParticipantCore, hasExternal_iff.mpr known]
          rfl
        rw [refused, if_pos known]
      · have unknown : s.hasExternal state.parsed.guest.email = false :=
          Bool.eq_false_iff.mpr fun there => known (hasExternal_iff.mp there)
        rw [if_neg known, persistExternalParticipantCore, unknown]
        rfl

theorem persistRows_eq (settled : ∀ state ∈ states, state.Settled) : (persistRows actorId s states).1 =
    s.addApplicants actorId (fresh Applicant.key s.taken (states.filterMap RowState.asks)) := by
  induction states generalizing s with
  | nil => rfl
  | cons state rest ih =>
    rw [List.forall_mem_cons] at settled
    rw [persistRows, persistRow_eq settled.1, List.filterMap_cons]
    cases state.asks with
    | none => exact ih settled.2
    | some a =>
      dsimp only
      rw [fresh]
      by_cases known : a.key ∈ s.taken
      · rw [if_pos known, if_pos known]
        exact ih settled.2
      · rw [if_neg known, if_neg known, ih settled.2, fresh_congr fun k => (mem_taken_add k).symm]
        rfl

def Applicant.asParticipant (actorId : Nat) : Applicant → Option Participant
  | .user userId => some (AddRequest.participant ⟨userId, actorId, false, none⟩)
  | .guest _ => none

def Applicant.asExternal : Applicant → Option ExternalParticipant
  | .user _ => none
  | .guest data => some ⟨data, .attendee, .pending⟩

theorem addApplicants_eq : s.addApplicants actorId l = { s with
    participants := s.participants ++ l.filterMap (Applicant.asParticipant actorId)
    externalParticipants := s.externalParticipants ++ l.filterMap Applicant.asExternal } := by
  induction l generalizing s with
  | nil => simp [MeetingRoster.addApplicants]
  | cons a rest ih =>
    have later : s.addApplicants actorId (a :: rest) = (s.addApplicant actorId a).addApplicants actorId rest := rfl
    rw [later, ih]
    cases a with
    | user userId =>
      simp [MeetingRoster.addApplicant, Applicant.asParticipant, Applicant.asExternal, List.filterMap_cons]
    | guest data =>
      simp [MeetingRoster.addApplicant, Applicant.asParticipant, Applicant.asExternal, List.filterMap_cons]

theorem participants_told : (l.filterMap (Applicant.asParticipant actorId)).map (fun p => Applicant.user p.userId) =
    l.filter Applicant.isUser := by
  induction l with
  | nil => rfl
  | cons a rest ih =>
    cases a with
    | user userId => exact congrArg (Applicant.user userId :: ·) ih
    | guest data => exact ih

theorem externals_told : (l.filterMap Applicant.asExternal).map (fun p => Applicant.guest p.toGuestData) =
    l.filter (!·.isUser) := by
  induction l with
  | nil => rfl
  | cons a rest ih =>
    cases a with
    | user userId => exact ih
    | guest data => exact congrArg (Applicant.guest data :: ·) ih

theorem participants_of_users : l.filterMap (Applicant.asParticipant actorId) =
    (l.filter Applicant.isUser).filterMap (Applicant.asParticipant actorId) := by
  rw [List.filterMap_filter]
  refine List.filterMap_congr ?_
  rintro (userId | data) _
  · rfl
  · rfl

theorem externals_of_guests : l.filterMap Applicant.asExternal =
    (l.filter (!·.isUser)).filterMap Applicant.asExternal := by
  rw [List.filterMap_filter]
  refine List.filterMap_congr ?_
  rintro (userId | data) _
  · rfl
  · rfl

theorem addApplicants_eq_iff : s.addApplicants actorId l = s.addApplicants actorId m ↔
    l.filter Applicant.isUser = m.filter Applicant.isUser ∧ l.filter (!·.isUser) = m.filter (!·.isUser) := by
  rw [addApplicants_eq, addApplicants_eq]
  constructor
  · intro same
    have participants := List.append_cancel_left (congrArg MeetingRoster.participants same)
    have externals := List.append_cancel_left (congrArg MeetingRoster.externalParticipants same)
    rw [← @participants_told actorId l, ← @participants_told actorId m,
      ← externals_told (l := l), ← externals_told (l := m), participants, externals]
    exact ⟨rfl, rfl⟩
  · rintro ⟨users, guests⟩
    rw [participants_of_users (l := l), participants_of_users (l := m), externals_of_guests (l := l),
      externals_of_guests (l := m), users, guests]

end Written

section Lookup
variable {s : MeetingRoster} {rows : List ParsedRow} {parsed : ParsedRow}

/-- The e-mail of a row belongs to a user whom the query does not return: it is not stored as the row
    has it, and no row has the code of the user. -/
def Missed (s : MeetingRoster) (rows : List ParsedRow) (parsed : ParsedRow) : Prop :=
  (staticValidate parsed).isHardError = false ∧ parsed.declaredKind ≠ some .external ∧
    parsed.email ≠ "" ∧ ∃ u ∈ s.users.table.rows, u.2.accountStatus = .active ∧ u.2.deletedAt = none ∧
      u.2.email.toLower = parsed.email ∧ u ∉ fetchedUsers s (rows.map staticValidate)

instance (s : MeetingRoster) (rows : List ParsedRow) (parsed : ParsedRow) :
    Decidable (Missed s rows parsed) :=
  inferInstanceAs (Decidable (_ ∧ _ ∧ _ ∧ ∃ u ∈ s.users.table.rows, _))

/-- Whom the import finds for some of the rows of a file. -/
def foundFor (s : MeetingRoster) (rows part : List ParsedRow) : List Applicant :=
  part.filterMap fun parsed =>
    applicant s (resolveUser (activeUsers (fetchedUsers s (rows.map staticValidate))) parsed) parsed

def missedUsers (s : MeetingRoster) (rows : List ParsedRow) : List Applicant :=
  (rows.filter fun parsed => Missed s rows parsed).filterMap fun parsed =>
    (owner s parsed).map Applicant.user

theorem last_eq_head {α : Type} {l r : List α} (same : ∀ a, a ∈ l ↔ a ∈ r)
    (one : ∀ a ∈ r, ∀ b ∈ r, a = b) : l.getLast? = r.head? := by
  cases last : l.getLast? with
  | none =>
    have none_right : r = [] := by
      refine List.eq_nil_iff_forall_not_mem.mpr ?_
      intro a there
      have listed := (same a).mpr there
      rw [List.getLast?_eq_none_iff.mp last] at listed
      cases listed
    rw [none_right]
    rfl
  | some a =>
    have there := (same a).mp (List.mem_of_getLast? last)
    cases r with
    | nil => cases there
    | cons b rest => rw [List.head?_cons, one a there b List.mem_cons_self]

theorem mem_active {users : List (Nat × UserEntity)} {u : Nat × UserEntity} :
    u ∈ activeUsers users ↔ u ∈ users ∧ u.2.accountStatus = .active ∧ u.2.deletedAt = none := by
  rw [activeUsers, List.mem_filter, decide_eq_true_eq]

theorem mem_lookup (there : parsed ∈ rows) (valid : (staticValidate parsed).isHardError = false)
    (not_external : parsed.declaredKind ≠ some .external) :
    staticValidate parsed ∈ lookupStates (rows.map staticValidate) := by
  refine List.mem_filter.mpr ⟨List.mem_map_of_mem there, ?_⟩
  rw [valid, static_fields.2.2]
  simpa using not_external

theorem byEmail_eq (as_stored : ¬ Missed s rows parsed)
    (valid : (staticValidate parsed).isHardError = false)
    (not_external : parsed.declaredKind ≠ some .external) (given : parsed.email ≠ "") :
    byEmail (activeUsers (fetchedUsers s (rows.map staticValidate))) parsed.email =
      (s.users.table.findOne fun u => decide (u.2.accountStatus = .active ∧ u.2.deletedAt = none) ∧
        u.2.email.toLower = parsed.email.toLower).map Prod.fst := by
  refine congrArg (Option.map Prod.fst) (last_eq_head ?_ ?_)
  · intro u
    rw [List.mem_filter, mem_active, mem_select, decide_eq_true_eq, decide_eq_true_eq, decide_eq_true_eq,
      parsed.lower]
    constructor
    · rintro ⟨⟨fetched, active⟩, -, same⟩
      exact ⟨(mem_select.mp fetched).1, active, same⟩
    · rintro ⟨row, active, same⟩
      have looked_up : u ∈ fetchedUsers s (rows.map staticValidate) := by
        by_contra unfetched
        exact as_stored ⟨valid, not_external, given, u, row, active.1, active.2, same, unfetched⟩
      refine ⟨⟨looked_up, active⟩, ?_, same⟩
      intro empty
      have none_left : "".toLower = "" := by decide +kernel
      rw [empty, none_left] at same
      exact given same.symm
  · intro u first q second
    rw [mem_select, decide_eq_true_eq, decide_eq_true_eq] at first second
    exact s.users.emails u first.1 q second.1 first.2.1.2 second.2.1.2 (first.2.2.trans second.2.2.symm)

theorem byCode_eq (there : parsed ∈ rows) (valid : (staticValidate parsed).isHardError = false)
    (not_external : parsed.declaredKind ≠ some .external) (given : parsed.employeeCode ≠ "") :
    byCode (activeUsers (fetchedUsers s (rows.map staticValidate))) parsed.employeeCode =
      (s.users.table.findOne fun u => decide (u.2.accountStatus = .active ∧ u.2.deletedAt = none) ∧
        u.2.employeeCode = some parsed.employeeCode).map Prod.fst := by
  have listed := List.mem_map_of_mem (f := fun state : RowState => state.parsed.employeeCode)
    (mem_lookup there valid not_external)
  rw [static_fields.1] at listed
  refine congrArg (Option.map Prod.fst) (last_eq_head ?_ ?_)
  · intro u
    rw [List.mem_filter, mem_active, mem_select, decide_eq_true_eq, decide_eq_true_eq, decide_eq_true_eq]
    constructor
    · rintro ⟨⟨fetched, active⟩, same⟩
      exact ⟨(mem_select.mp fetched).1, active, same⟩
    · rintro ⟨row, active, same⟩
      refine ⟨⟨mem_select.mpr ⟨row, decide_eq_true ⟨active.2, Or.inr ⟨_, same, ?_⟩⟩⟩, active⟩, same⟩
      exact List.mem_filter.mpr ⟨listed, decide_eq_true given⟩
  · intro u first q second
    rw [mem_select, decide_eq_true_eq, decide_eq_true_eq] at first second
    refine s.users.codes u first.1 q second.1 first.2.1.2 second.2.1.2 ?_ (first.2.2.trans second.2.2.symm)
    rw [first.2.2]
    rfl

theorem found_of_row (there : parsed ∈ rows) (as_stored : ¬ Missed s rows parsed) :
    applicant s (resolveUser (activeUsers (fetchedUsers s (rows.map staticValidate))) parsed) parsed =
      applicant s (owner s parsed) parsed := by
  cases valid : (staticValidate parsed).isHardError with
  | true => exact (if_pos valid).trans (if_pos valid).symm
  | false =>
    by_cases external : parsed.declaredKind = some .external
    · unfold applicant
      rw [if_pos external, if_pos external]
    · have same : resolveUser (activeUsers (fetchedUsers s (rows.map staticValidate))) parsed =
          owner s parsed := by
        unfold resolveUser owner
        refine congrArg₂ Option.or ?_ ?_
        · split
          · rename_i given
            exact byEmail_eq as_stored valid external given
          · rfl
        · split
          · rename_i given
            exact byCode_eq there valid external given
          · rfl
      rw [same]

theorem owner_of_missed (missed : Missed s rows parsed) : ∃ u ∈ s.users.table.rows,
    u ∉ fetchedUsers s (rows.map staticValidate) ∧ owner s parsed = some u.1 := by
  obtain ⟨valid, not_external, given, u, row, active, kept, same, unfetched⟩ := missed
  refine ⟨u, row, unfetched, ?_⟩
  have selects : ∀ q ∈ s.users.table.select (fun u : Nat × UserEntity =>
      decide (u.2.accountStatus = .active ∧ u.2.deletedAt = none) ∧
        u.2.email.toLower = parsed.email.toLower), q = u := by
    intro q there
    rw [mem_select, decide_eq_true_eq, decide_eq_true_eq] at there
    exact s.users.emails q there.1 u row there.2.1.2 kept
      (there.2.2.trans (parsed.lower.trans same.symm))
  have chosen : u ∈ s.users.table.select (fun u : Nat × UserEntity =>
      decide (u.2.accountStatus = .active ∧ u.2.deletedAt = none) ∧
        u.2.email.toLower = parsed.email.toLower) := by
    rw [mem_select, decide_eq_true_eq, decide_eq_true_eq]
    exact ⟨row, ⟨active, kept⟩, same.trans parsed.lower.symm⟩
  have first : s.users.table.findOne (fun u : Nat × UserEntity =>
      decide (u.2.accountStatus = .active ∧ u.2.deletedAt = none) ∧
        u.2.email.toLower = parsed.email.toLower) = some u := by
    rw [Table.findOne]
    cases listed : s.users.table.select (fun u : Nat × UserEntity =>
        decide (u.2.accountStatus = .active ∧ u.2.deletedAt = none) ∧
          u.2.email.toLower = parsed.email.toLower) with
    | nil =>
      rw [listed] at chosen
      cases chosen
    | cons q rest => rw [List.head?_cons, selects q (listed ▸ List.mem_cons_self)]
  unfold owner
  dsimp only
  rw [if_pos given, first]
  rfl

theorem missed_not_found {a : Applicant} (missed : a ∈ missedUsers s rows) : a ∉ found s rows := by
  obtain ⟨parsed, chosen, asked⟩ := List.mem_filterMap.mp missed
  obtain ⟨u, row, unfetched, owns⟩ := owner_of_missed (of_decide_eq_true (List.mem_filter.mp chosen).2)
  rw [owns] at asked
  obtain rfl : Applicant.user u.1 = a := Option.some.inj asked
  intro there
  obtain ⟨other, -, found⟩ := List.mem_filterMap.mp there
  have resolved : resolveUser (activeUsers (fetchedUsers s (rows.map staticValidate))) other =
      some u.1 := by
    unfold applicant at found
    split at found
    · cases found
    · split at found
      · cases found
      · split at found
        · rename_i userId resolved
          split at found
          · cases found
          · rw [resolved, Applicant.user.inj (Option.some.inj found)]
        · split at found
          · cases found
          · cases found
  have fetched : ∀ {l : List (Nat × UserEntity)},
      (∀ v ∈ l, v ∈ activeUsers (fetchedUsers s (rows.map staticValidate))) →
        (l.getLast?).map Prod.fst ≠ some u.1 := by
    intro l inside last
    obtain ⟨v, listed, same⟩ := Option.map_eq_some_iff.mp last
    have is_fetched := (mem_active.mp (inside v (List.mem_of_getLast? listed))).1
    have stored := (mem_select.mp is_fetched).1
    have one : v.2 = u.2 := key_unique s.users.table (same ▸ stored : (u.1, v.2) ∈ _) row
    exact unfetched ((Prod.ext same one : v = u) ▸ is_fetched)
  rcases Option.or_eq_some_iff.mp resolved with by_email | ⟨-, by_code⟩
  · split at by_email
    · exact fetched (fun v listed => (List.mem_filter.mp listed).1) by_email
    · cases by_email
  · split at by_code
    · exact fetched (fun v listed => (List.mem_filter.mp listed).1) by_code
    · cases by_code

theorem missed_told_apart (a b : Applicant) (same : a.key = b.key) :
    decide (a ∉ missedUsers s rows) = decide (b ∉ missedUsers s rows) := by
  have guest : ∀ data, Applicant.guest data ∉ missedUsers s rows := by
    intro data there
    obtain ⟨parsed, -, asked⟩ := List.mem_filterMap.mp there
    obtain ⟨userId, -, is_user⟩ := Option.map_eq_some_iff.mp asked
    cases is_user
  cases a with
  | user userId =>
    cases b with
    | user other =>
      cases same
      rfl
    | guest data => cases same
  | guest data =>
    cases b with
    | user userId => cases same
    | guest other => rw [decide_eq_true (guest data), decide_eq_true (guest other)]

theorem wanted_others : (wanted s rows).filter (fun a => decide (a ∉ missedUsers s rows)) =
    foundFor s rows (rows.filter fun parsed => ¬ Missed s rows parsed) := by
  rw [wanted, foundFor, List.filter_filterMap, List.filterMap_filter]
  refine List.filterMap_congr ?_
  intro parsed there
  by_cases missed : Missed s rows parsed
  · obtain ⟨u, -, -, owns⟩ := owner_of_missed missed
    have listed : Applicant.user u.1 ∈ missedUsers s rows :=
      List.mem_filterMap.mpr ⟨parsed, List.mem_filter.mpr ⟨there, decide_eq_true missed⟩, by rw [owns]; rfl⟩
    have asked : applicant s (owner s parsed) parsed = none ∨
        applicant s (owner s parsed) parsed = some (.user u.1) := by
      rw [owns, applicant, if_neg (by simp [missed.1]), if_neg missed.2.1]
      split
      · exact Or.inl rfl
      · exact Or.inr rfl
    rw [if_neg (by simpa using missed)]
    rcases asked with nobody | user
    · rw [nobody]
      rfl
    · rw [user, Option.filter_some, if_neg (by simpa using listed)]
  · rw [if_pos (by simpa using missed), found_of_row there missed]
    cases asked : applicant s (owner s parsed) parsed with
    | none => rfl
    | some a =>
      have found_here : a ∈ found s rows :=
        List.mem_filterMap.mpr ⟨parsed, there, (found_of_row there missed).trans asked⟩
      rw [Option.filter_some, if_pos]
      exact decide_eq_true fun listed => missed_not_found listed found_here

end Lookup

section Agreement
variable {s : MeetingRoster} {actorId : Nat} {meeting : Meeting} {rows : List ParsedRow}

/-- The people asked for who do not take part yet, each once. -/
def newcomers (s : MeetingRoster) (asked : List Applicant) : List Applicant := fresh Applicant.key s.taken asked

theorem newcomers_kept {p : Applicant → Bool} {l asked : List Applicant}
    (part : l.Sublist ((newcomers s asked).filter p)) : fresh Applicant.key s.taken l = l := by
  have inside := part.trans List.filter_sublist
  have keys := @fresh_keys _ _ _ Applicant.key s.taken asked
  exact fresh_eq_self (keys.1.sublist (inside.map _)) fun a there => keys.2 a (inside.subset there)

theorem imported_eq (open_to : OpenTo s actorId meeting) : ∃ added,
    (importParticipants s actorId rows true).map Prod.fst = .ok (s.addApplicants actorId added) ∧
    added.filter Applicant.isUser =
      seated s.freeSeats ((newcomers s (found s rows)).filter Applicant.isUser) ∧
    added.filter (!·.isUser) = (newcomers s (found s rows)).filter (!·.isUser) := by
  obtain ⟨users, guests⟩ := @asks_detected s rows
  have given := seats_given open_to (@settled_detected s rows)
  refine ⟨fresh Applicant.key s.taken ((evaluateWarnings s
    (resolveAndDetectDuplicates s (rows.map staticValidate)) actorId meeting).filterMap RowState.asks),
    ?_, ?_, ?_⟩
  · have goes : ∃ report, importParticipants s actorId rows true = .ok ((persistRows actorId s (evaluateWarnings s
        (resolveAndDetectDuplicates s (rows.map staticValidate)) actorId meeting)).1, report) :=
      ⟨_, bind_eq_ok.mpr ⟨meeting, expect_eq_ok.mpr (meeting_found open_to), bind_eq_ok.mpr ⟨(),
        require_eq_ok.mpr open_to.status, bind_eq_ok.mpr ⟨(),
        require_eq_ok.mpr (Or.inr (Or.inl open_to.owned)), bind_eq_ok.mpr ⟨(),
        require_eq_ok.mpr (Or.inr rfl), rfl⟩⟩⟩⟩⟩
    obtain ⟨report, goes⟩ := goes
    rw [goes, ← persistRows_eq given.settled]
    rfl
  · rw [fresh_filter told_apart, given.users, users]
    exact newcomers_kept (seated_sublist _)
  · rw [fresh_filter fun a b same => congrArg Bool.not (told_apart a b same), given.guests, guests]
    exact newcomers_kept (List.Sublist.refl _)

/-- All new people whom the import finds fit into the room, or none of them is external. -/
def SeatsSuffice (s : MeetingRoster) (rows : List ParsedRow) : Prop :=
  Fits s.freeSeats (newcomers s (found s rows)) ∨ (newcomers s (found s rows)).filter (!·.isUser) = []

instance (s : MeetingRoster) (rows : List ParsedRow) : Decidable (SeatsSuffice s rows) :=
  inferInstanceAs (Decidable (_ ∨ _))

/-- The rows whose e-mail is missed make no difference: added one by one, the users of these e-mails get
    no seat; and those whom the import finds for the other rows get theirs as if the file had only these. -/
structure MissedSpared (s : MeetingRoster) (rows : List ParsedRow) : Prop where
  owners : ∀ a ∈ missedUsers s rows, a ∉ seated s.freeSeats (newcomers s (wanted s rows))
  others : Alike Applicant.isUser (seated s.freeSeats (newcomers s (found s rows)))
    (seated s.freeSeats (newcomers s
      (foundFor s rows (rows.filter fun parsed => ¬ Missed s rows parsed))))

instance (s : MeetingRoster) (rows : List ParsedRow) : Decidable (MissedSpared s rows) :=
  decidable_of_iff ((∀ a ∈ missedUsers s rows, a ∉ seated s.freeSeats (newcomers s (wanted s rows))) ∧
    Alike Applicant.isUser (seated s.freeSeats (newcomers s (found s rows)))
      (seated s.freeSeats (newcomers s
        (foundFor s rows (rows.filter fun parsed => ¬ Missed s rows parsed)))))
    ⟨fun ⟨owners, others⟩ => ⟨owners, others⟩, fun ⟨owners, others⟩ => ⟨owners, others⟩⟩

theorem seated_without_missed
    (owners : ∀ a ∈ missedUsers s rows, a ∉ seated s.freeSeats (newcomers s (wanted s rows))) :
    seated s.freeSeats (newcomers s
        (foundFor s rows (rows.filter fun parsed => ¬ Missed s rows parsed))) =
      seated s.freeSeats (newcomers s (wanted s rows)) := by
  rw [← wanted_others, newcomers, ← fresh_filter missed_told_apart]
  exact seated_filter fun a there => decide_eq_true fun missed => owners a missed there

theorem spared_iff : Alike Applicant.isUser (seated s.freeSeats (newcomers s (found s rows)))
    (seated s.freeSeats (newcomers s (wanted s rows))) ↔ MissedSpared s rows := by
  constructor
  · intro alike
    have owners : ∀ a ∈ missedUsers s rows, a ∉ seated s.freeSeats (newcomers s (wanted s rows)) := by
      intro a missed given
      have is_user : a.isUser = true := by
        obtain ⟨parsed, -, asked⟩ := List.mem_filterMap.mp missed
        obtain ⟨userId, -, rfl⟩ := Option.map_eq_some_iff.mp asked
        rfl
      have listed : a ∈ (seated s.freeSeats (newcomers s (found s rows))).filter Applicant.isUser := by
        rw [alike.1]
        exact List.mem_filter.mpr ⟨given, is_user⟩
      have new := (seated_sublist _).subset (List.mem_filter.mp listed).1
      exact missed_not_found missed (fresh_sublist.subset new)
    refine ⟨owners, ?_⟩
    rw [seated_without_missed owners]
    exact alike
  · intro spared
    have alike := spared.others
    rw [seated_without_missed spared.owners] at alike
    exact alike

def meetingRoom : MeetingRoster where
  meetingId := 0
  meeting := some ⟨0, none, some 9, .scheduled, .internalLevel, none⟩
  users :=
    { table := ((Table.empty.insert ⟨"chu@abc.vn", some "EMP0", .active, none⟩).insert
        ⟨"an@abc.vn", some "EMP1", .active, none⟩).insert ⟨"Binh@abc.vn", some "EMP2", .active, none⟩
      emails := by decide +kernel
      codes := by decide +kernel }
  roleCodes := fun _ => ["EMPLOYEE"]
  permissions := fun _ => []
  conflicts := fun _ => []
  capacities := fun i => if i = 9 then some 3 else none
  capacityConfig := some "block"
  participants := [⟨0, .host, .accepted, true, true, none⟩]
  externalParticipants := []

def fileRow (row : Nat) (email employeeCode fullName : String) (lower : email.toLower = email) : ParsedRow :=
  ⟨row, "", email, employeeCode, fullName, "", "", lower⟩

def employeeRow : ParsedRow := fileRow 2 "an@abc.vn" "" "" (by decide +kernel)

def guestRow : ParsedRow := fileRow 3 "khach@doitac.com" "" "Nguyen Van B" (by decide +kernel)

def secondGuestRow : ParsedRow := fileRow 4 "hai@doitac.com" "" "Tran Van C" (by decide +kernel)

def upperCaseRow : ParsedRow := fileRow 5 "binh@abc.vn" "" "Le Van Binh" (by decide +kernel)

theorem import_differs {γ : Type} {answer : Except ImportError (MeetingRoster × ImportReport)}
    {alone : MeetingRoster} {x y : γ} (read : MeetingRoster → γ) (imported : (answer.map fun r => read r.1).toOption = some x)
    (added : read alone = y) (differ : x ≠ y) : answer.map Prod.fst ≠ .ok alone := by
  intro same
  cases answer with
  | error e => cases same
  | ok r =>
    have one_store : r.1 = alone := Except.ok.inj same
    rw [← one_store] at added
    exact differ ((Option.some.inj imported).symm.trans added)

end Agreement
end Participants
