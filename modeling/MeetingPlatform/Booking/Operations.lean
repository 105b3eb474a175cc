import MeetingPlatform.Booking.Lifecycle
import MeetingPlatform.Lib.Runs

/- The meeting services as one state machine, each call run on its own. -/
namespace MeetingBooking
open KeyedTable LabelledRuns Guards

inductive Op where
  | create (dir : Directory) (now : Int) (dto : CreateMeetingDto) (userId : Nat)
  | updateMeetingTime (dir : Directory) (now : Int) (meetingId : Nat) (dto : UpdateMeetingTimeDto)
      (userId : Nat)
  | updateMeetingRoom (dir : Directory) (now : Int) (meetingId : Nat) (dto : UpdateMeetingRoomDto)
      (userId : Nat)
  | approve (now : Int) (requestId userId : Nat)
  | reject (requestId userId : Nat)
  | expireOne (requestId : Nat)
  | cancelMeeting (dir : Directory) (now : Int) (meetingId userId : Nat)
  | startMeeting (now : Int) (meetingId userId : Nat)
  | autoStartDueMeetings (now : Int)
  | requestExtension (meetingId : Nat) (dto : ExtensionRequestDto) (userId : Nat)
  | endMeeting (now : Int) (meetingId userId : Nat)

/-- `none` where the call throws; its transaction is rolled back. -/
def Op.exec (cfg : Config) : Op → Store → Option Store
  | .create dir now dto userId, s => (MeetingBooking.create cfg dir now dto userId s).toOption
  | .updateMeetingTime dir now meetingId dto userId, s =>
    (MeetingBooking.updateMeetingTime cfg dir now meetingId dto userId s).toOption
  | .updateMeetingRoom dir now meetingId dto userId, s =>
    (MeetingBooking.updateMeetingRoom cfg dir now meetingId dto userId s).toOption
  | .approve now requestId userId, s =>
    (MeetingBooking.approve cfg now requestId userId s).toOption
  | .reject requestId userId, s => (MeetingBooking.reject requestId userId s).toOption
  | .expireOne requestId, s => MeetingBooking.expireOne requestId s
  | .cancelMeeting dir now meetingId userId, s =>
    (MeetingBooking.cancelMeeting dir now meetingId userId s).toOption
  | .startMeeting now meetingId userId, s =>
    (MeetingBooking.startMeeting now meetingId userId s).toOption
  | .autoStartDueMeetings now, s => some (MeetingBooking.autoStartDueMeetings now s)
  | .requestExtension meetingId dto userId, s =>
    (MeetingBooking.requestExtension cfg meetingId dto userId s).toOption
  | .endMeeting now meetingId userId, s =>
    (MeetingBooking.endMeeting now meetingId userId s).toOption

def Step (cfg : Config) (s : Store) (op : Op) (s' : Store) : Prop := op.exec cfg s = some s'

def Reachable (cfg : Config) (s : Store) : Prop := ∃ moves, Run (Step cfg) Store.empty moves s

/-- Every meeting's rows fit some standing. -/
def Consistent (s : Store) : Prop := ∀ i, ∃ st, (s.dossier i).Fits st

inductive Op.Does (s : Store) : Op → Nat → Action → Prop where
  | create {dir now dto userId} : Op.Does s (.create dir now dto userId) s.meetings.next
      (.create (dir.approverIds.contains userId))
  | updateMeetingTime {dir now i dto userId} :
      Op.Does s (.updateMeetingTime dir now i dto userId) i .moveTime
  | updateMeetingRoom {dir now i dto userId} :
      Op.Does s (.updateMeetingRoom dir now i dto userId) i .moveRoom
  | approve {now q userId r i} (row : s.requests.get? q = some r) (mine : r.meetingId = some i) :
      Op.Does s (.approve now q userId) i .approve
  | reject {q userId r i} (row : s.requests.get? q = some r) (mine : r.meetingId = some i) :
      Op.Does s (.reject q userId) i .reject
  | expireOne {q r i} (row : s.requests.get? q = some r) (mine : r.meetingId = some i) :
      Op.Does s (.expireOne q) i .expire
  | cancelMeeting {dir now i userId} : Op.Does s (.cancelMeeting dir now i userId) i .cancel
  | startMeeting {now i userId} : Op.Does s (.startMeeting now i userId) i .start
  | autoStartDueMeetings {now i} : Op.Does s (.autoStartDueMeetings now) i .start
  | requestExtension {i dto userId} : Op.Does s (.requestExtension i dto userId) i .extend
  | endMeeting {now i userId} : Op.Does s (.endMeeting now i userId) i .finish

theorem advances_fits {s s' : Store} {i j : Nat} {a : Action} {st : Standing}
    (sound : Consistent s) (advances : Advances s i a s') (fits : (s.dossier j).Fits st) :
    ∃ st', (s'.dossier j).Fits st' ∧ (st' = st ∨ j = i ∧ st.next a = some st') := by
  obtain ⟨here, fits_here⟩ := sound i
  by_cases same : j = i
  · subst same
    obtain ⟨st', d', edge, fits', after⟩ := advances st fits
    refine ⟨st', ?_, Or.inr ⟨rfl, edge⟩⟩
    rw [after, Function.update_self]
    exact fits'
  · obtain ⟨-, d', -, -, after⟩ := advances here fits_here
    refine ⟨st, ?_, Or.inl rfl⟩
    rw [after, Function.update_of_ne same]
    exact fits

theorem step_simulates {cfg : Config} {s s' : Store} {op : Op} {j : Nat} {st : Standing}
    (sound : Consistent s) (step : Step cfg s op s') (fits : (s.dossier j).Fits st) :
    ∃ st', (s'.dossier j).Fits st' ∧
      (st' = st ∨ ∃ a, Op.Does s op j a ∧ st.next a = some st') := by
  have along : ∀ {i a}, Op.Does s op i a → Advances s i a s' → ∃ st', (s'.dossier j).Fits st' ∧
      (st' = st ∨ ∃ a, Op.Does s op j a ∧ st.next a = some st') := by
    intro i a does advances
    obtain ⟨st', fits', same | ⟨rfl, edge⟩⟩ := advances_fits sound advances fits
    · exact ⟨st', fits', Or.inl same⟩
    · exact ⟨st', fits', Or.inr ⟨a, does, edge⟩⟩
  cases op with
  | create => exact along .create (create_advances (toOption_eq_some.mp step))
  | updateMeetingTime =>
    exact along .updateMeetingTime (updateMeetingTime_advances (toOption_eq_some.mp step))
  | updateMeetingRoom =>
    exact along .updateMeetingRoom (updateMeetingRoom_advances (toOption_eq_some.mp step))
  | approve =>
    obtain ⟨v, opened, advances⟩ := approve_advances (toOption_eq_some.mp step)
    exact along (.approve opened.request_row opened.of_meeting) advances
  | reject =>
    obtain ⟨v, opened, advances⟩ := reject_advances (toOption_eq_some.mp step)
    exact along (.reject opened.request_row opened.of_meeting) advances
  | expireOne =>
    obtain ⟨r, i, row, mine, advances⟩ := expireOne_advances step
    exact along (.expireOne row mine) advances
  | cancelMeeting => exact along .cancelMeeting (cancelMeeting_advances (toOption_eq_some.mp step))
  | startMeeting =>
    rcases startMeeting_advances (toOption_eq_some.mp step) with rfl | advances
    · exact ⟨st, fits, Or.inl rfl⟩
    · exact along .startMeeting advances
  | autoStartDueMeetings now =>
    obtain rfl : autoStartDueMeetings now s = s' := Option.some.inj step
    rcases autoStart_fits now fits with ⟨held, rfl, fits'⟩ | same
    · exact ⟨.running held, fits', Or.inr ⟨.start, .autoStartDueMeetings, rfl⟩⟩
    · exact ⟨st, same ▸ fits, Or.inl rfl⟩
  | requestExtension =>
    exact along .requestExtension (requestExtension_advances (toOption_eq_some.mp step))
  | endMeeting => exact along .endMeeting (endMeeting_advances (toOption_eq_some.mp step))

theorem empty_consistent : Consistent Store.empty := by
  intro i
  exact ⟨.absent, ⟨rfl, rfl, rfl, by rintro m ⟨⟩, by rintro r ⟨⟩⟩⟩

theorem step_consistent {cfg : Config} {s s' : Store} {op : Op} (sound : Consistent s)
    (step : Step cfg s op s') : Consistent s' := by
  intro j
  obtain ⟨st, fits⟩ := sound j
  obtain ⟨st', fits', -⟩ := step_simulates sound step fits
  exact ⟨st', fits'⟩

theorem reachable_consistent {cfg : Config} {s : Store} (reachable : Reachable cfg s) :
    Consistent s := by
  obtain ⟨moves, run⟩ := reachable
  exact run_invariant run empty_consistent step_consistent

section Traces

def execAll (cfg : Config) : List Op → Store → Option Store
  | [], s => some s
  | op :: ops, s => (op.exec cfg s).bind (execAll cfg ops)

theorem run_of_execAll {cfg : Config} {ops : List Op} {s t : Store}
    (h : execAll cfg ops s = some t) :
    ∃ moves, Run (Step cfg) s moves t ∧ moves.map Move.label = ops := by
  induction ops generalizing s with
  | nil =>
    obtain rfl := Option.some.inj h
    exact ⟨[], .nil, rfl⟩
  | cons op ops ih =>
    obtain ⟨u, step, rest⟩ := Option.bind_eq_some_iff.mp h
    obtain ⟨moves, run, labels⟩ := ih rest
    exact ⟨_, (Run.nil.snoc step).append run, congrArg (op :: ·) labels⟩

def openDirectory : Directory where
  room _ := some ⟨true, .available, .available, some 10⟩
  activeUser _ := true
  ineligibleForMeetings _ := false
  faultyEquipments _ := []
  hasPermission _ _ := false
  approverIds := [7]

def halfAnHour : ExtensionRequestDto := ⟨30, by decide, by decide⟩

def approvedAtOnce : List Op :=
  [.create openDirectory 0 { roomId := 1, startTime := 7200000, endTime := 10800000 } 7]

def approvedChange : List Op :=
  approvedAtOnce ++ [.updateMeetingTime openDirectory 0 0
      { startTime := some 10800000, endTime := some 14400000 } 7,
    .approve 0 1 8]

theorem approved_change_runs : ∃ moves t,
    Run (Step (Config.load none none)) Store.empty moves t ∧
      moves.map Move.label = approvedChange := by
  have ran : ∃ t, execAll (Config.load none none) approvedChange Store.empty = some t := ⟨_, rfl⟩
  obtain ⟨t, ran⟩ := ran
  obtain ⟨moves, run, labels⟩ := run_of_execAll ran
  exact ⟨moves, t, run, labels⟩

end Traces

end MeetingBooking
