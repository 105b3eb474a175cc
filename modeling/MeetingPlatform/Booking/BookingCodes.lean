import MeetingPlatform.Booking.Operations
import MeetingPlatform.Lib.NumberedCodes

/- The codes of bookings, numbered by the day. One generator goes on from the largest number of the
   day, the other from the number of bookings that were made on it. -/
namespace BookingCodes
open MeetingBooking KeyedTable LabelledRuns NumberedCodes Guards

section Dates

/-- The calendar of the server's time zone, with instants counted from the epoch. `startOfDay` is
    what the constructor of a date makes of a year, a month and a day. -/
structure LocalTime where
  getFullYear : Nat → Nat
  getMonth : Nat → Nat
  getDate : Nat → Nat
  startOfDay : Nat → Nat → Nat → Int
  month_lt : ∀ t, getMonth t < 12
  date_lt : ∀ t, getDate t < 32
  startOfDay_le : ∀ t, startOfDay (getFullYear t) (getMonth t) (getDate t) ≤ t

variable (zone : LocalTime)

def todayStamp (now : Nat) : List Char :=
  Nat.toDigits 10 (zone.getFullYear now) ++ padStart 2 (zone.getMonth now + 1) ++
    padStart 2 (zone.getDate now)

def startOfToday (now : Nat) : Int :=
  zone.startOfDay (zone.getFullYear now) (zone.getMonth now) (zone.getDate now)

def bookingPrefix (now : Nat) : List Char := ['B', 'K', '-'] ++ (todayStamp zone now ++ ['-'])

end Dates

section Generators
variable (zone : LocalTime)

/-- The columns of a booking that the generators read; a code is given as its characters. -/
structure IssuedCode where
  bookingId : Nat
  bookingCode : List Char
  createdAt : Nat
  deriving DecidableEq, Repr

def attemptedCode (now : Nat) (codes : List (List Char)) (attempt : Nat) : List Char :=
  let front := bookingPrefix zone now
  let rows := codes.filter fun code => front.isPrefixOf code
  codeOf front 3 (maxSeqOf rows front + 1 + attempt)

def firstFree (now : Nat) (codes : List (List Char)) : List Nat → List Char
  | [] =>
    let digits := Nat.toDigits 10 now
    bookingPrefix zone now ++ digits.drop (digits.length - 6)
  | attempt :: later =>
    let code := attemptedCode zone now codes attempt
    if code ∈ codes then firstFree now codes later else code

def generateBookingCode (now : Nat) (codes : List (List Char)) : List Char :=
  firstFree zone now codes (List.range 10)

def countToday (now : Nat) (issued : List IssuedCode) : Nat :=
  (issued.filter fun x => startOfToday zone now ≤ x.createdAt).length

def generateBookingCodeTransaction (now : Nat) (issued : List IssuedCode) : List Char :=
  codeOf (bookingPrefix zone now) 3 (countToday zone now issued + 1)

end Generators

section Calls

structure CodedStore where
  store : Store
  issued : List IssuedCode

def CodedStore.codes (c : CodedStore) : List (List Char) := c.issued.map IssuedCode.bookingCode

inductive Failure where
  | refused
  | codeConflict (code : List Char)
  deriving DecidableEq, Repr

def insertCoded (code : List Char) (now : Nat) (written : Store) (c : CodedStore) :
    Except Failure CodedStore :=
  if code ∈ c.codes then .error (.codeConflict code)
  else .ok ⟨written, c.issued ++ [⟨c.store.bookings.next, code, now⟩]⟩

/-- A conflict makes `create` try again with a new code, so often. -/
def insertRetrying (zone : LocalTime) (now : Nat) (written : Store) (c : CodedStore) :
    Nat → List Char → Except Failure CodedStore
  | 0, code => insertCoded code now written c
  | retries + 1, code =>
    match insertCoded code now written c with
    | .ok inserted => .ok inserted
    | .error _ => insertRetrying zone now written c retries (generateBookingCode zone now c.codes)

def create (zone : LocalTime) (cfg : Config) (dir : Directory) (now : Nat) (dto : CreateMeetingDto)
    (userId : Nat) (c : CodedStore) : Except Failure CodedStore :=
  match checkCreate cfg dir now dto userId c.store with
  | .error _ => .error .refused
  | .ok plan =>
    insertRetrying zone now (commitCreate plan c.store) c 2 (generateBookingCode zone now c.codes)

def edited (zone : LocalTime) (now : Nat) (edit : Except ApiError Store) (c : CodedStore) :
    Except Failure CodedStore :=
  match edit with
  | .error _ => .error .refused
  | .ok written =>
    if written.bookings.next = c.store.bookings.next then .ok { c with store := written }
    else insertCoded (generateBookingCodeTransaction zone now c.issued) now written c

def mayBook : Op → Bool
  | .create .. | .updateMeetingTime .. | .updateMeetingRoom .. => true
  | _ => false

inductive Call where
  | create (dir : Directory) (dto : CreateMeetingDto) (userId : Nat)
  | updateMeetingTime (dir : Directory) (meetingId : Nat) (dto : UpdateMeetingTimeDto) (userId : Nat)
  | updateMeetingRoom (dir : Directory) (meetingId : Nat) (dto : UpdateMeetingRoomDto) (userId : Nat)
  | other (op : Op) (bookless : mayBook op = false)

def Call.exec (zone : LocalTime) (cfg : Config) (now : Nat) : Call → CodedStore →
    Except Failure CodedStore
  | .create dir dto userId, c => BookingCodes.create zone cfg dir now dto userId c
  | .updateMeetingTime dir meetingId dto userId, c =>
    edited zone now (MeetingBooking.updateMeetingTime cfg dir now meetingId dto userId c.store) c
  | .updateMeetingRoom dir meetingId dto userId, c =>
    edited zone now (MeetingBooking.updateMeetingRoom cfg dir now meetingId dto userId c.store) c
  | .other op _, c =>
    match op.exec cfg c.store with
    | none => .error .refused
    | some written => .ok { c with store := written }

def Happens (zone : LocalTime) (cfg : Config) (c : CodedStore) (timed : Nat × Call)
    (c' : CodedStore) : Prop := timed.2.exec zone cfg timed.1 c = .ok c'

end Calls

section Stamps
variable {zone : LocalTime} {t now n : Nat}

theorem todayStamp_digit {c : Char} (there : c ∈ todayStamp zone t) : c.isDigit = true := by
  simp only [todayStamp, List.mem_append] at there
  rcases there with (year | month) | date
  · exact Nat.isDigit_of_mem_toDigits (by decide) (by decide) year
  · exact padStart_digit month
  · exact padStart_digit date

theorem same_day_of_stamp (same : todayStamp zone t = todayStamp zone now) :
    startOfToday zone t = startOfToday zone now := by
  have two_digits : ∀ x, x < 10 ^ 2 → (padStart 2 x).length = 2 := fun x => padStart_length Nat.two_pos
  have month := zone.month_lt
  have date := zone.date_lt
  obtain ⟨front, date_same⟩ := List.append_inj' same
    (by rw [two_digits _ (by have := date t; omega), two_digits _ (by have := date now; omega)])
  obtain ⟨year_same, month_same⟩ := List.append_inj' front
    (by rw [two_digits _ (by have := month t; omega), two_digits _ (by have := month now; omega)])
  have year_eq : zone.getFullYear t = zone.getFullYear now := by
    have value := congrArg (fun digits => Nat.ofDigitChars 10 digits 0) year_same
    simpa using value
  have month_eq : zone.getMonth t = zone.getMonth now := Nat.succ.inj (padStart_injective month_same)
  rw [startOfToday, startOfToday, year_eq, month_eq, padStart_injective date_same]

theorem prefix_unique (front : bookingPrefix zone t <+: codeOf (bookingPrefix zone now) 3 n) :
    bookingPrefix zone t = bookingPrefix zone now ∧ startOfToday zone t = startOfToday zone now := by
  obtain ⟨rest, written⟩ := front
  simp only [codeOf, bookingPrefix, List.append_assoc] at written
  have stamps : todayStamp zone t = todayStamp zone now :=
    separated_unique (by decide) (fun _ => todayStamp_digit) (fun _ => todayStamp_digit)
      (List.append_cancel_left written)
  exact ⟨by rw [bookingPrefix, bookingPrefix, stamps], same_day_of_stamp stamps⟩

end Stamps

section Inserts
variable {cfg : Config} {dir : Directory} {now : Int} {i userId : Nat} {s s' : Store}

def BooksOnce (s s' : Store) : Prop :=
  s'.bookings.next = s.bookings.next ∨ s'.bookings.next = s.bookings.next + 1

theorem updateMeetingTime_books_once {dto : UpdateMeetingTimeDto}
    (ok : MeetingBooking.updateMeetingTime cfg dir now i dto userId s = .ok s') : BooksOnce s s' := by
  obtain ⟨m, roomId, slot, -, -, -, -, -, ⟨-, edited⟩ | ⟨-, rfl⟩⟩ := updateMeetingTime_ok ok
  · cases found : s.bookings.findOne (ofMeeting i RoomBookingStatus.isLive) with
    | none =>
      rw [found] at edited
      obtain ⟨q, r, -, rfl⟩ := editPendingTime_unbooked_ok edited
      exact Or.inr rfl
    | some r =>
      obtain ⟨k, b⟩ := r
      rw [found] at edited
      obtain ⟨q, r, -, rfl⟩ := editPendingTime_ok (get?_eq_some.mpr (findOne_mem found).1) edited
      exact Or.inl rfl
  · exact Or.inl rfl

theorem updateMeetingRoom_books_once {dto : UpdateMeetingRoomDto}
    (ok : MeetingBooking.updateMeetingRoom cfg dir now i dto userId s = .ok s') : BooksOnce s s' := by
  obtain ⟨m, roomId, -, -, -, ⟨-, edited⟩ | ⟨-, rfl⟩⟩ := updateMeetingRoom_ok ok
  · obtain ⟨q, r, -, rfl⟩ := editPendingRoom_ok edited
    exact Or.inr rfl
  · exact Or.inl rfl

theorem bookless_next {op : Op} (bookless : mayBook op = false) (ran : op.exec cfg s = some s') :
    s'.bookings.next = s.bookings.next := by
  cases op with
  | create dir now dto userId => cases bookless
  | updateMeetingTime dir now meetingId dto userId => cases bookless
  | updateMeetingRoom dir now meetingId dto userId => cases bookless
  | approve now requestId userId =>
    obtain ⟨plan, -, rfl⟩ := approve_ok (toOption_eq_some.mp ran)
    rfl
  | reject requestId userId =>
    obtain ⟨v, -, rfl⟩ := reject_ok.mp (toOption_eq_some.mp ran)
    unfold turnDown
    dsimp only
    split <;> rfl
  | expireOne requestId =>
    obtain ⟨r, j, m, -, -, -, -, -, rfl⟩ := expireOne_some ran
    unfold turnDown cancelNewestBooking
    dsimp only
    split
    · rfl
    · split <;> rfl
  | cancelMeeting dir now meetingId userId =>
    obtain ⟨m, -, -, rfl⟩ := commitCancel_ok.mp (cancelMeeting_ok (toOption_eq_some.mp ran)).2
    unfold cancelFirstBooking
    dsimp only
    split <;> rfl
  | startMeeting now meetingId userId =>
    rcases startMeeting_ok (toOption_eq_some.mp ran) with rfl | executed
    · rfl
    · obtain ⟨m, -, -, -, rfl⟩ := executeStart_ok executed
      rfl
  | autoStartDueMeetings now =>
    cases ran
    rfl
  | requestExtension meetingId dto userId =>
    obtain ⟨basis, k, -, -, ⟨-, applied⟩ | ⟨-, rfl⟩⟩ := requestExtension_ok (toOption_eq_some.mp ran)
    · obtain ⟨m, -, -, rfl⟩ := handleAutoApplyPath_ok.mp applied
      rfl
    · rfl
  | endMeeting now meetingId userId =>
    obtain ⟨m, -, -, rfl⟩ := executeEnd_ok (endMeeting_ok (toOption_eq_some.mp ran))
    unfold completeFirstBooking
    dsimp only
    split <;> rfl

end Inserts

section Uniqueness
variable {zone : LocalTime} {cfg : Config} {now n : Nat} {c c' : CodedStore} {written : Store}

/-- The codes differ, and no number of a day exceeds the count of the bookings made since its start. -/
structure Numbered (zone : LocalTime) (c : CodedStore) : Prop where
  distinct : c.codes.Nodup
  bounded : ∀ t, ∀ code ∈ c.codes, bookingPrefix zone t <+: code → ∀ read,
    parseInt (code.drop (bookingPrefix zone t).length) = some read → read ≤ countToday zone t c.issued

theorem countToday_snoc (t : Nat) (issued : List IssuedCode) (x : IssuedCode) :
    countToday zone t (issued ++ [x]) =
      countToday zone t issued + if startOfToday zone t ≤ x.createdAt then 1 else 0 := by
  rw [countToday, List.filter_append, List.length_append, ← countToday]
  by_cases counts : startOfToday zone t ≤ x.createdAt
  · simp [counts]
  · simp [counts]

theorem codes_snoc (written : Store) (issued : List IssuedCode) (x : IssuedCode) :
    (CodedStore.mk written (issued ++ [x])).codes =
      issued.map IssuedCode.bookingCode ++ [x.bookingCode] := by
  rw [CodedStore.codes, List.map_append, List.map_singleton]

theorem startOfToday_le (now : Nat) : startOfToday zone now ≤ now := zone.startOfDay_le now

theorem largest_numbered (numbered : Numbered zone c) (now : Nat) :
    let rows := c.codes.filter fun code => (bookingPrefix zone now).isPrefixOf code
    maxSeqOf rows (bookingPrefix zone now) ≤ countToday zone now c.issued := by
  refine maxSeqOf_le fun code there read number => ?_
  obtain ⟨stored, front⟩ := List.mem_filter.mp there
  exact numbered.bounded now code stored (List.isPrefixOf_iff_prefix.mp front) read number

theorem attemptedCode_fresh (attempt : Nat) : attemptedCode zone now c.codes attempt ∉ c.codes := by
  intro there
  have matching : attemptedCode zone now c.codes attempt ∈
      c.codes.filter fun code => (bookingPrefix zone now).isPrefixOf code :=
    List.mem_filter.mpr ⟨there, List.isPrefixOf_iff_prefix.mpr (List.prefix_append _ _)⟩
  exact fresh_above_max (by omega) matching

theorem generateBookingCode_first :
    generateBookingCode zone now c.codes = attemptedCode zone now c.codes 0 := by
  rw [generateBookingCode, List.range_succ_eq_map, firstFree]
  exact if_neg (attemptedCode_fresh 0)

theorem countCode_fresh (numbered : Numbered zone c) :
    generateBookingCodeTransaction zone now c.issued ∉ c.codes :=
  fresh_above_bound (numbered.bounded now) (Nat.lt_succ_self _)

/-- What a call does to the codes: nothing, or one more code that was on no booking. -/
inductive Grows (zone : LocalTime) (now : Nat) (c : CodedStore) (written : Store) :
    CodedStore → Prop where
  | same (kept : written.bookings.next = c.store.bookings.next) :
      Grows zone now c written { c with store := written }
  | issued (n : Nat) (inserted : written.bookings.next = c.store.bookings.next + 1)
      (bound : n ≤ countToday zone now c.issued + 1)
      (fresh : codeOf (bookingPrefix zone now) 3 n ∉ c.codes) :
      Grows zone now c written
        ⟨written, c.issued ++ [⟨c.store.bookings.next, codeOf (bookingPrefix zone now) 3 n, now⟩]⟩

theorem grows_numbered (numbered : Numbered zone c) (grows : Grows zone now c written c') :
    Numbered zone c' := by
  cases grows with
  | same => exact ⟨numbered.distinct, numbered.bounded⟩
  | issued n inserted bound fresh =>
    constructor
    · rw [codes_snoc]
      refine List.nodup_append.mpr ⟨numbered.distinct, List.nodup_singleton _, ?_⟩
      intro a old b new same
      rw [same, List.mem_singleton.mp new] at old
      exact fresh old
    · intro t code there front read number
      rw [countToday_snoc]
      rw [codes_snoc] at there
      rcases List.mem_append.mp there with old | new
      · have := numbered.bounded t code old front read number
        split <;> omega
      · rw [List.mem_singleton] at new
        subst new
        obtain ⟨same_front, same_day⟩ := prefix_unique front
        rw [same_front, parseInt_codeOf, Option.some.injEq] at number
        have same_count : countToday zone t c.issued = countToday zone now c.issued := by
          rw [countToday, countToday, same_day]
        rw [same_day, if_pos (startOfToday_le now), ← number, same_count]
        omega

theorem insertCoded_ok {code : List Char} (fresh : code ∉ c.codes) :
    insertCoded code now written c =
      .ok ⟨written, c.issued ++ [⟨c.store.bookings.next, code, now⟩]⟩ := if_neg fresh

theorem create_grows (numbered : Numbered zone c) (dir : Directory) (dto : CreateMeetingDto)
    (userId : Nat) :
    BookingCodes.create zone cfg dir now dto userId c = .error .refused ∨
      ∃ written c', BookingCodes.create zone cfg dir now dto userId c = .ok c' ∧
        Grows zone now c written c' := by
  rw [BookingCodes.create]
  cases checkCreate cfg dir now dto userId c.store with
  | error e => exact Or.inl rfl
  | ok plan =>
    right
    have fresh : attemptedCode zone now c.codes 0 ∉ c.codes := attemptedCode_fresh 0
    have bound := largest_numbered numbered now
    refine ⟨commitCreate plan c.store, _, ?_, .issued _ rfl ?_ fresh⟩
    · dsimp only
      rw [generateBookingCode_first, insertRetrying, insertCoded_ok fresh]
      rfl
    · dsimp only at bound ⊢
      omega

theorem edited_grows (numbered : Numbered zone c) {edit : Except ApiError Store}
    (once : ∀ written, edit = .ok written → BooksOnce c.store written) :
    edited zone now edit c = .error .refused ∨
      ∃ written c', edited zone now edit c = .ok c' ∧ Grows zone now c written c' := by
  unfold edited
  cases edit with
  | error e => exact Or.inl rfl
  | ok written =>
    right
    dsimp only
    split
    · rename_i kept
      exact ⟨written, _, rfl, .same kept⟩
    · rename_i moved
      have fresh : generateBookingCodeTransaction zone now c.issued ∉ c.codes := countCode_fresh numbered
      have inserted := (once written rfl).resolve_left moved
      exact ⟨written, _, insertCoded_ok fresh, .issued _ inserted (Nat.le_refl _) fresh⟩

theorem exec_grows (numbered : Numbered zone c) (call : Call) :
    call.exec zone cfg now c = .error .refused ∨
      ∃ written c', call.exec zone cfg now c = .ok c' ∧ Grows zone now c written c' := by
  cases call with
  | create dir dto userId => exact create_grows numbered dir dto userId
  | updateMeetingTime dir meetingId dto userId =>
    exact edited_grows numbered fun _ => updateMeetingTime_books_once
  | updateMeetingRoom dir meetingId dto userId =>
    exact edited_grows numbered fun _ => updateMeetingRoom_books_once
  | other op bookless =>
    rw [Call.exec]
    cases ran : op.exec cfg c.store with
    | none => exact Or.inl rfl
    | some written => exact Or.inr ⟨written, _, rfl, .same (bookless_next bookless ran)⟩

theorem happens_grows {timed : Nat × Call} (numbered : Numbered zone c)
    (happens : Happens zone cfg c timed c') : ∃ written, Grows zone timed.1 c written c' := by
  rcases exec_grows numbered timed.2 with refused | ⟨written, reached, ok, grows⟩
  · rw [Happens, refused] at happens
    cases happens
  · rw [Happens, ok] at happens
    cases happens
    exact ⟨written, grows⟩

/-- The codes that are there at first differ, and none looks like a generated one. -/
structure Seeded (zone : LocalTime) (c : CodedStore) : Prop where
  distinct : c.codes.Nodup
  foreign : ∀ t, ∀ code ∈ c.codes, ¬ bookingPrefix zone t <+: code

theorem numbered_of_seeded (seeded : Seeded zone c) : Numbered zone c :=
  ⟨seeded.distinct, fun t code there front => absurd front (seeded.foreign t code there)⟩

/-- The last step gives at most one new code, and it differs from all before. -/
def NewCodeDiffers (before after : CodedStore) : Prop :=
  after.issued = before.issued ∨
    ∃ new, after.issued = before.issued ++ [new] ∧ new.bookingCode ∉ before.codes

theorem differs_of_grows (grows : Grows zone now c written c') : NewCodeDiffers c c' := by
  cases grows with
  | same => exact Or.inl rfl
  | issued n inserted bound fresh => exact Or.inr ⟨_, rfl, fresh⟩

/-- No call, at any instant, fails on the unique index. -/
def NoConflict (zone : LocalTime) (cfg : Config) (c : CodedStore) : Prop :=
  ∀ (now : Nat) (call : Call) (code : List Char),
    call.exec zone cfg now c ≠ .error (.codeConflict code)

theorem no_conflict (numbered : Numbered zone c) : NoConflict zone cfg c := by
  intro now call code conflict
  have grows : call.exec zone cfg now c = .error .refused ∨
      ∃ written c', call.exec zone cfg now c = .ok c' ∧ Grows zone now c written c' :=
    exec_grows numbered call
  rcases grows with refused | ⟨written, c', ok, -⟩
  · rw [conflict] at refused
    cases refused
  · rw [conflict] at ok
    cases ok

theorem booking_codes_stay_unique {moves : List (Move CodedStore (Nat × Call))} {last : CodedStore}
    (seeded : Seeded zone c) (run : Run (Happens zone cfg) c moves last) :
    (∀ reached ∈ visited c moves, reached.codes.Nodup ∧ NoConflict zone cfg reached) ∧
    ∀ m ∈ moves, NewCodeDiffers m.before m.after := by
  have start := numbered_of_seeded seeded
  have heeds : Heeds (fun _ _ => True) moves := fun _ _ => trivial
  have keeps : ∀ {a l b}, Numbered zone a → Happens zone cfg a l b → True → Numbered zone b := by
    intro a l b numbered happens _
    obtain ⟨written, grows⟩ := happens_grows numbered happens
    exact grows_numbered numbered grows
  constructor
  · intro reached there
    have numbered := visited_invariant (Numbered zone) run start heeds keeps reached there
    exact ⟨numbered.distinct, no_conflict numbered⟩
  · intro m there
    obtain ⟨numbered, happens⟩ := moves_invariant (Numbered zone) run start heeds keeps m there
    obtain ⟨written, grows⟩ := happens_grows numbered happens
    exact differs_of_grows grows

theorem codes_follow_bookings {moves : List (Move CodedStore (Nat × Call))} {last : CodedStore}
    (seeded : Seeded zone c) (run : Run (Happens zone cfg) c moves last) :
    last.store.bookings.next + c.issued.length = c.store.bookings.next + last.issued.length := by
  have keeps : ∀ {a l b},
      Numbered zone a ∧
        a.store.bookings.next + c.issued.length = c.store.bookings.next + a.issued.length →
      Happens zone cfg a l b → Numbered zone b ∧
        b.store.bookings.next + c.issued.length = c.store.bookings.next + b.issued.length := by
    rintro a l b ⟨numbered, level⟩ happens
    obtain ⟨written, grows⟩ := happens_grows numbered happens
    refine ⟨grows_numbered numbered grows, ?_⟩
    cases grows with
    | same kept =>
      dsimp only
      omega
    | issued n inserted bound fresh =>
      rw [List.length_append, List.length_singleton]
      dsimp only
      omega
  exact (run_invariant run ⟨numbered_of_seeded seeded, rfl⟩ keeps).2

def january : LocalTime where
  getFullYear _ := 1970
  getMonth _ := 0
  getDate t := min 31 (t / 86400000 + 1)
  startOfDay _ _ date := 86400000 * ((date : Int) - 1)
  month_lt _ := by omega
  date_lt _ := by omega
  startOfDay_le t := by omega

def oneHour (startTime : Int) : CreateMeetingDto where
  roomId := 1
  startTime := startTime
  endTime := startTime + 3600000

/-- Two meetings are asked for on the first day, and the second moves to room 2; another one is asked
    for and moved on the day after. -/
def twoDays : List (Nat × Call) :=
  [(0, .create openDirectory (oneHour 172800000) 3), (1000, .create openDirectory (oneHour 259200000) 3),
    (2000, .updateMeetingRoom openDirectory 1 ⟨2, false⟩ 3),
    (90000000, .create openDirectory (oneHour 345600000) 3),
    (90001000, .updateMeetingRoom openDirectory 2 ⟨3, false⟩ 3)]

theorem booking_codes_stay_unique_two_days :
    ∃ moves last, Run (Happens january (Config.load none none)) ⟨Store.empty, []⟩ moves last ∧
      last.codes.map String.ofList = ["BK-19700101-001", "BK-19700101-002", "BK-19700101-003",
        "BK-19700102-001", "BK-19700102-002"] ∧
      (∀ reached ∈ visited ⟨Store.empty, []⟩ moves, reached.codes.Nodup ∧
        NoConflict january (Config.load none none) reached) ∧
      ∀ m ∈ moves, NewCodeDiffers m.before m.after := by
  have run := run_followed (fun timed c => (timed.2.exec january (Config.load none none) timed.1 c).toOption)
    twoDays ⟨Store.empty, []⟩
  simp only [toOption_eq_some] at run
  have seeded : Seeded january ⟨Store.empty, []⟩ := ⟨List.nodup_nil, fun _ _ there => by cases there⟩
  exact ⟨_, _, run, by decide +kernel, booking_codes_stay_unique seeded run⟩

end Uniqueness
end BookingCodes
