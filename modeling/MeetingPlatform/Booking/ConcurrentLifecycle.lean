import MeetingPlatform.Booking.Operations

/- Cancelling, starting and ending one meeting at the same time. Each call checks the
   meeting without a lock first; its transaction comes later and finds what others left. -/
namespace MeetingBooking
open KeyedTable LabelledRuns

inductive Intent where
  | cancel
  | start
  | finish
  deriving DecidableEq, Repr

def Intent.commit : Intent → Int → Nat → Store → Except ApiError Store
  | .cancel, _, i, s => commitCancel i s
  | .start, now, i, s => executeStartMeetingInTransaction now i s
  | .finish, now, i, s => executeEndMeetingInTransaction now i s

/-- A transaction whose re-checks throw is rolled back. -/
def Intent.settle (intent : Intent) (now : Int) (i : Nat) (s : Store) : Store :=
  (intent.commit now i s).toOption.getD s

structure Floor where
  store : Store
  waiting : List Intent

inductive Event where
  | checkCancel (dir : Directory) (now : Int) (userId : Nat)
  | checkStart (now : Int) (userId : Nat)
  | checkEnd (userId : Nat)
  | commit (intent : Intent) (now : Int)
  | autoStart (now : Int)

inductive FloorStep (i : Nat) : Floor → Event → Floor → Prop where
  | checkCancel {f : Floor} {dir : Directory} {now : Int} {userId : Nat}
      (passed : checkCancel dir now i userId f.store = .ok ()) :
      FloorStep i f (.checkCancel dir now userId) { f with waiting := .cancel :: f.waiting }
  | checkStart {f : Floor} {now : Int} {userId : Nat}
      (passed : checkStart now i userId f.store = .ok true) :
      FloorStep i f (.checkStart now userId) { f with waiting := .start :: f.waiting }
  | checkEnd {f : Floor} {userId : Nat} (passed : checkEnd i userId f.store = .ok ()) :
      FloorStep i f (.checkEnd userId) { f with waiting := .finish :: f.waiting }
  | commit (f : Floor) (intent : Intent) (now : Int) (front back : List Intent)
      (waiting : f.waiting = front ++ intent :: back) :
      FloorStep i f (.commit intent now) ⟨intent.settle now i f.store, front ++ back⟩
  | autoStart (f : Floor) (now : Int) :
      FloorStep i f (.autoStart now) { f with store := autoStartDueMeetings now f.store }

def lawfulChanges : List (MeetingStatus × MeetingStatus) :=
  [(.scheduled, .inProgress), (.inProgress, .completed), (.scheduled, .cancelled)]

/-- The status stays or changes lawfully, and a cancelled meeting keeps no live booking. -/
def Lawful (i : Nat) (s s' : Store) : Prop :=
  ∀ m m', s.meetings.get? i = some m → s'.meetings.get? i = some m' →
    (m'.status = m.status ∨ (m.status, m'.status) ∈ lawfulChanges) ∧
      (m'.status = .cancelled → liveRows s'.bookings i = [])

/-- No transaction cancels a meeting that has been started in the meantime. -/
def CancelsInTime (i : Nat) (f : Floor) : Event → Prop
  | .commit .cancel _ => ∀ m, f.store.meetings.get? i = some m →
      m.status ≠ .inProgress ∧ m.status ≠ .completed
  | _ => True

def Standing.cancelSeen : Standing → Bool
  | .booked _ | .running _ | .finished _ | .calledOff => true
  | .absent | .requested | .changing _ => false

def Sound (i : Nat) (f : Floor) : Prop :=
  ∃ st, (f.store.dossier i).Fits st ∧ (.cancel ∈ f.waiting → st.cancelSeen = true)

section Steps
variable {i : Nat} {s s' : Store} {f f' : Floor} {st st' : Standing} {event : Event}

theorem edge_lawful {a : Action} (edge : st.next a = some st')
    (live : a = .cancel ∨ a = .start ∨ a = .finish) :
    ∃ a b, st.meetingStatus = some a ∧ st'.meetingStatus = some b ∧
      (b = a ∨ (a, b) ∈ lawfulChanges) ∧ st'.cancelSeen = true := by
  revert edge
  rcases live with rfl | rfl | rfl <;>
    rcases st with _ | _ | ⟨_ | _⟩ | ⟨_ | _⟩ | ⟨_ | _⟩ | ⟨_ | _⟩ | _ <;>
    intro edge <;> cases edge <;> exact ⟨_, _, rfl, rfl, by decide, rfl⟩

theorem called_off_frees (fits : (s.dossier i).Fits .calledOff) : liveRows s.bookings i = [] :=
  List.map_eq_nil_iff.mp fits.booking

theorem lawful_of_fits {a b : MeetingStatus} (fits : (s.dossier i).Fits st)
    (fits' : (s'.dossier i).Fits st') (here : st.meetingStatus = some a)
    (there : st'.meetingStatus = some b) (change : b = a ∨ (a, b) ∈ lawfulChanges) :
    Lawful i s s' := by
  intro m m' row row'
  obtain rfl : m.status = a := Option.some.inj ((fits_status fits row).symm.trans here)
  obtain rfl : m'.status = b := Option.some.inj ((fits_status fits' row').symm.trans there)
  refine ⟨change, ?_⟩
  intro cancelled
  rw [cancelled] at there
  have off : st' = .calledOff := by
    cases st' <;> first | rfl | simp [Standing.meetingStatus] at there
  subst off
  exact called_off_frees fits'

theorem lawful_same (fits : (s.dossier i).Fits st) (fits' : (s'.dossier i).Fits st) :
    Lawful i s s' := by
  intro m m' row row'
  have status := fits_status fits row
  exact lawful_of_fits fits fits' status status (Or.inl rfl) m m' row row'

theorem advance_sound {a : Action} {waiting : List Intent} (fits : (s.dossier i).Fits st)
    (live : a = .cancel ∨ a = .start ∨ a = .finish) (advances : Advances s i a s') :
    Lawful i s s' ∧ Sound i ⟨s', waiting⟩ := by
  obtain ⟨st', d', edge, fits', after⟩ := advances st fits
  have fits' : (s'.dossier i).Fits st' := by
    rw [after, Function.update_self]
    exact fits'
  obtain ⟨a, b, here, there, change, seen⟩ := edge_lawful edge live
  exact ⟨lawful_of_fits fits fits' here there change, st', fits', fun _ => seen⟩

theorem settle_cases (intent : Intent) (now : Int) (i : Nat) (s : Store) :
    intent.settle now i s = s ∨ intent.commit now i s = .ok (intent.settle now i s) := by
  unfold Intent.settle
  cases intent.commit now i s with
  | ok s' => exact Or.inr rfl
  | error e => exact Or.inl rfl

theorem late_cancel_unlawful {m : Meeting} {now : Int} (found : s.findMeeting i = some m)
    (late : m.status = .inProgress ∨ m.status = .completed) :
    ¬ Lawful i s (Intent.cancel.settle now i s) := by
  have open_yet : m.status ≠ .cancelled := by
    rcases late with late | late <;> simp [late]
  have row := found_row found
  have written : commitCancel i s = .ok (Intent.cancel.settle now i s) := by
    rcases settle_cases .cancel now i s with same | ok
    · have ok := commitCancel_ok.mpr ⟨m, found, open_yet, rfl⟩
      simp only [Intent.settle, Intent.commit, ok] at same ⊢
      rfl
    · exact ok
  obtain ⟨-, -, -, after⟩ := commitCancel_ok.mp written
  intro lawful
  have row' : (Intent.cancel.settle now i s).meetings.get? i =
      some { m with status := .cancelled } := by
    rw [after]
    exact (congrFun (meeting_update row) i).trans (Function.update_self ..)
  obtain ⟨change, -⟩ := lawful m _ row row'
  rcases late with late | late <;> simp [late, lawfulChanges] at change

theorem sound_after_check {waiting : List Intent} {intent : Intent} (sound : Sound i f)
    (waits : f.waiting = waiting) (other : intent ≠ .cancel) :
    Sound i ⟨f.store, intent :: waiting⟩ := by
  obtain ⟨st, fits, seen⟩ := sound
  refine ⟨st, fits, fun there => seen ?_⟩
  rw [waits]
  exact (List.mem_cons.mp there).resolve_left other.symm

theorem sound_after_commit {intent : Intent} {front back : List Intent} (sound : Sound i f)
    (waiting : f.waiting = front ++ intent :: back) : Sound i ⟨f.store, front ++ back⟩ := by
  obtain ⟨st, fits, seen⟩ := sound
  refine ⟨st, fits, fun there => seen ?_⟩
  rw [waiting]
  rcases List.mem_append.mp there with there | there
  · exact List.mem_append_left _ there
  · exact List.mem_append_right _ (List.mem_cons_of_mem _ there)

theorem found_of_fits {m : Meeting} (fits : (s.dossier i).Fits st)
    (row : s.meetings.get? i = some m) : s.findMeeting i = some m :=
  findMeeting_eq_some.mpr ⟨get?_eq_some.mp row, (fits.seated m row).1⟩

theorem in_time_of_lawful {now : Int} (fits : (f.store.dossier i).Fits st)
    (lawful : Lawful i f.store (Intent.cancel.settle now i f.store)) :
    CancelsInTime i f (.commit .cancel now) := by
  intro m row
  by_contra late
  have late : m.status = .inProgress ∨ m.status = .completed := by
    by_contra neither
    exact late (not_or.mp neither)
  exact late_cancel_unlawful (found_of_fits fits row) late lawful

theorem cancel_commit {now : Int} {front back : List Intent} (sound : Sound i f)
    (waiting : f.waiting = front ++ .cancel :: back)
    (timely : CancelsInTime i f (.commit .cancel now)) :
    Lawful i f.store (Intent.cancel.settle now i f.store) ∧
      Sound i ⟨Intent.cancel.settle now i f.store, front ++ back⟩ := by
  obtain ⟨st, fits, seen⟩ := sound
  have seen := seen (by simp [waiting])
  rcases settle_cases .cancel now i f.store with same | written
  · rw [same]
    exact ⟨lawful_same fits fits, sound_after_commit ⟨st, fits, fun _ => seen⟩ waiting⟩
  · obtain ⟨m, found, open_yet, -⟩ := commitCancel_ok.mp written
    have row := found_row found
    have status := fits_status fits row
    obtain ⟨running, ended_yet⟩ := timely m row
    have scheduled : m.status = .scheduled := by
      cases st with
      | booked => exact (Option.some.inj status).symm
      | running => exact absurd (Option.some.inj status).symm running
      | finished => exact absurd (Option.some.inj status).symm ended_yet
      | calledOff => exact absurd (Option.some.inj status).symm open_yet
      | _ => cases seen
    exact advance_sound fits (Or.inl rfl) (commitCancel_advances found scheduled written)

theorem other_commit {intent : Intent} {now : Int} {front back : List Intent} (sound : Sound i f)
    (waiting : f.waiting = front ++ intent :: back) (other : intent ≠ .cancel) :
    Lawful i f.store (intent.settle now i f.store) ∧
      Sound i ⟨intent.settle now i f.store, front ++ back⟩ := by
  obtain ⟨st, fits, seen⟩ := sound
  rcases settle_cases intent now i f.store with same | written
  · rw [same]
    exact ⟨lawful_same fits fits, sound_after_commit ⟨st, fits, seen⟩ waiting⟩
  · cases intent with
    | cancel => exact absurd rfl other
    | start => exact advance_sound fits (Or.inr (Or.inl rfl)) (executeStart_advances written)
    | finish => exact advance_sound fits (Or.inr (Or.inr rfl)) (executeEnd_advances written)

theorem autoStart_sound {now : Int} (sound : Sound i f) :
    Lawful i f.store (autoStartDueMeetings now f.store) ∧
      Sound i ⟨autoStartDueMeetings now f.store, f.waiting⟩ := by
  obtain ⟨st, fits, seen⟩ := sound
  rcases autoStart_fits now fits with ⟨held, rfl, fits'⟩ | same
  · exact ⟨lawful_of_fits fits fits' rfl rfl (by decide), .running held, fits', fun _ => rfl⟩
  · have fits' : ((autoStartDueMeetings now f.store).dossier i).Fits st := by
      rw [same]
      exact fits
    exact ⟨lawful_same fits fits', st, fits', seen⟩

theorem step_lawful_iff (sound : Sound i f) (step : FloorStep i f event f') :
    Lawful i f.store f'.store ↔ CancelsInTime i f event := by
  obtain ⟨st, fits, -⟩ := id sound
  cases step with
  | checkCancel => exact iff_of_true (lawful_same fits fits) trivial
  | checkStart => exact iff_of_true (lawful_same fits fits) trivial
  | checkEnd => exact iff_of_true (lawful_same fits fits) trivial
  | autoStart now => exact iff_of_true (autoStart_sound sound).1 trivial
  | commit intent now front back waiting =>
    cases intent with
    | cancel =>
      exact ⟨in_time_of_lawful fits, fun timely => (cancel_commit sound waiting timely).1⟩
    | start => exact iff_of_true (other_commit sound waiting (by decide)).1 trivial
    | finish => exact iff_of_true (other_commit sound waiting (by decide)).1 trivial

theorem step_sound (sound : Sound i f) (step : FloorStep i f event f')
    (timely : CancelsInTime i f event) : Sound i f' := by
  cases step with
  | checkCancel passed =>
    obtain ⟨st, fits, -⟩ := sound
    obtain ⟨m, found, scheduled⟩ := checkCancel_ok passed
    obtain ⟨-, -, held, -, rfl, -⟩ := fits_scheduled fits (dossier_of_found found) scheduled
    exact ⟨.booked held, fits, fun _ => rfl⟩
  | checkStart => exact sound_after_check sound rfl (by decide)
  | checkEnd => exact sound_after_check sound rfl (by decide)
  | autoStart now => exact (autoStart_sound sound).2
  | commit intent now front back waiting =>
    cases intent with
    | cancel => exact (cancel_commit sound waiting timely).2
    | start => exact (other_commit sound waiting (by decide)).2
    | finish => exact (other_commit sound waiting (by decide)).2

end Steps

/-- Whatever the order of the steps, a meeting moves lawfully throughout exactly when no
    cancellation gets its lock after the meeting was started. -/
theorem lifecycle_lawful_iff {cfg : Config} {s : Store} {i : Nat} {f : Floor}
    {moves : List (Move Floor Event)} (reachable : Reachable cfg s)
    (run : Run (FloorStep i) ⟨s, []⟩ moves f) :
    (∀ move ∈ moves, Lawful i move.before.store move.after.store) ↔
      Heeds (CancelsInTime i) moves := by
  obtain ⟨st, fits⟩ := reachable_consistent reachable i
  exact run_good_iff (Sound i) (fun f _ f' => Lawful i f.store f'.store) run
    ⟨st, fits, fun there => absurd there List.not_mem_nil⟩ step_sound step_lawful_iff

theorem started_meeting_lawful : ∃ s moves f,
    execAll (Config.load none none) approvedAtOnce Store.empty = some s ∧
      Run (FloorStep 0) ⟨s, []⟩ moves f ∧
      moves.map Move.label = [.checkStart 7200000 7, .commit .start 7200000] ∧
      ((∀ move ∈ moves, Lawful 0 move.before.store move.after.store) ↔
        Heeds (CancelsInTime 0) moves) := by
  have start : ∃ s, execAll (Config.load none none) approvedAtOnce Store.empty = some s ∧
      checkStart 7200000 0 7 s = .ok true := ⟨_, rfl, rfl⟩
  obtain ⟨s, created, passed⟩ := start
  obtain ⟨before, ran, -⟩ := run_of_execAll created
  have first : FloorStep 0 ⟨s, []⟩ (.checkStart 7200000 7) ⟨s, [.start]⟩ := .checkStart passed
  have second : FloorStep 0 ⟨s, [.start]⟩ (.commit .start 7200000)
      ⟨Intent.start.settle 7200000 0 s, []⟩ := .commit _ .start 7200000 [] [] rfl
  have run := (Run.nil.snoc first).snoc second
  exact ⟨s, _, _, created, run, rfl, lifecycle_lawful_iff ⟨before, ran⟩ run⟩

theorem started_meeting_gets_cancelled : ∃ s moves f,
    Reachable (Config.load none none) s ∧ Run (FloorStep 0) ⟨s, []⟩ moves f ∧
      ¬ ∀ move ∈ moves, Lawful 0 move.before.store move.after.store := by
  have start : ∃ s m m', execAll (Config.load none none) approvedAtOnce Store.empty = some s ∧
      checkCancel openDirectory 0 0 7 s = .ok () ∧
      (autoStartDueMeetings 7200000 s).meetings.get? 0 = some m ∧ m.status = .inProgress ∧
      (Intent.cancel.settle 0 0 (autoStartDueMeetings 7200000 s)).meetings.get? 0 = some m' ∧
      m'.status = .cancelled := ⟨_, _, _, rfl, rfl, rfl, rfl, rfl, rfl⟩
  obtain ⟨s, m, m', created, passed, row, running, row', cancelled⟩ := start
  obtain ⟨before, ran, -⟩ := run_of_execAll created
  have first : FloorStep 0 ⟨s, []⟩ (.checkCancel openDirectory 0 7) ⟨s, [.cancel]⟩ :=
    .checkCancel passed
  have second : FloorStep 0 ⟨s, [.cancel]⟩ (.autoStart 7200000)
      ⟨autoStartDueMeetings 7200000 s, [.cancel]⟩ := .autoStart _ 7200000
  have third : FloorStep 0 ⟨autoStartDueMeetings 7200000 s, [.cancel]⟩ (.commit .cancel 0)
      ⟨Intent.cancel.settle 0 0 (autoStartDueMeetings 7200000 s), []⟩ :=
    .commit _ .cancel 0 [] [] rfl
  refine ⟨s, _, _, ⟨before, ran⟩, ((Run.nil.snoc first).snoc second).snoc third, ?_⟩
  intro lawful
  have last := lawful _ (List.mem_append_right _ (List.mem_singleton_self _))
  obtain ⟨change, -⟩ := last m m' row row'
  rw [running, cancelled] at change
  revert change
  decide

end MeetingBooking
