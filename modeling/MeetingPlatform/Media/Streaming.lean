import MeetingPlatform.Lib.NumberedCodes
import MeetingPlatform.Lib.Runs
import MeetingPlatform.Media.Files
import MeetingPlatform.Vehicles.PlateReads

/- Playing a media file: the range a request asks for, the head of the answer and the bytes behind
   it. A player fetches a file in pieces and asks again from where the connection broke. -/
namespace MediaFiles
open LabelledRuns NumberedCodes
open Anpr (trim isWhiteSpace)

section Ranges

/-- The two groups of `/^bytes=(\d*)-(\d*)$/`. -/
def matchRange (text : Text) : Option (Text × Text) :=
  if "bytes=".toList.isPrefixOf text then
    let rest := text.drop 6
    match rest.dropWhile Char.isDigit with
    | '-' :: back =>
      if back.all Char.isDigit then some (rest.takeWhile Char.isDigit, back) else none
    | _ => none
  else none

inductive RangeAnswer where
  | whole
  | slice (first last : Int)
  | range416
  deriving DecidableEq, Repr

/-- `NaN` is `none`. Sizes are below the numbers that a double cannot hold, so reading the digits
    without rounding compares the same. -/
def rangeOf (range : Option Text) (size : Nat) : RangeAnswer :=
  match range with
  | none => .whole
  | some [] => .whole
  | some text =>
    match matchRange (trim text) with
    | none => .range416
    | some ([], []) => .range416
    | some ([], suffix) =>
      match parseInt suffix with
      | none => .range416
      | some n => if n = 0 then .range416 else .slice (max 0 (size - n)) (size - 1)
    | some (front, back) =>
      match parseInt front with
      | none => .range416
      | some first =>
        if first ≥ size then .range416
        else
          match if back = [] then some ((size : Int) - 1) else parseInt back with
          | none => .range416
          | some last =>
            let last := min last (size - 1)
            if last < first then .range416 else .slice first last

def decimal (n : Int) : Text :=
  if n < 0 then '-' :: Nat.toDigits 10 n.natAbs else Nat.toDigits 10 n.natAbs

/-- `body` is missing when the stream cannot be opened behind the head. -/
structure Response where
  status : Nat
  contentRange : Option Text
  contentLength : Option Int
  body : Option Bytes
  deriving DecidableEq

def streamWithRangeSupport (st : Storage) (range : Option Text) (m : ResolvedMedia) : Response :=
  match rangeOf range m.size with
  | .range416 =>
    { status := 416
      contentRange := some ("bytes */".toList ++ decimal m.size)
      contentLength := none
      body := some [] }
  | .slice first last =>
    { status := 206
      contentRange :=
        some ("bytes ".toList ++ decimal first ++ '-' :: decimal last ++ '/' :: decimal m.size)
      contentLength := some (last - first + 1)
      body := openMediaStream st m (some (first, last)) }
  | .whole =>
    { status := 200
      contentRange := none
      contentLength := some m.size
      body := openMediaStream st m none }

end Ranges

section Slices
variable {st : Storage} {m : ResolvedMedia} {data : Bytes} {range : Option Text} {size : Nat}

theorem matchRange_eq_some {text front back : Text} :
    matchRange text = some (front, back) ↔
      text = "bytes=".toList ++ front ++ '-' :: back ∧
        (∀ d ∈ front, d.isDigit = true) ∧ ∀ d ∈ back, d.isDigit = true := by
  constructor
  · intro matched
    rw [matchRange] at matched
    split at matched
    · rename_i begins
      obtain ⟨rest, rfl⟩ := List.isPrefixOf_iff_prefix.mp begins
      have dropped : ("bytes=".toList ++ rest).drop 6 = rest := rfl
      simp only [dropped] at matched
      split at matched
      · rename_i digits stops
        split at matched
        · rename_i back_digits
          rw [Option.some.injEq, Prod.mk.injEq] at matched
          rw [← matched.1, ← matched.2]
          refine ⟨?_, List.all_eq_true.mp List.all_takeWhile,
            List.all_eq_true.mp back_digits⟩
          rw [List.append_assoc, ← stops, List.takeWhile_append_dropWhile]
        · cases matched
      · cases matched
    · cases matched
  · rintro ⟨rfl, front_digits, back_digits⟩
    have begins : "bytes=".toList.isPrefixOf ("bytes=".toList ++ front ++ '-' :: back) = true := by
      rw [List.isPrefixOf_iff_prefix, List.append_assoc]
      exact List.prefix_append _ _
    have dropped : ("bytes=".toList ++ front ++ '-' :: back).drop 6 = front ++ '-' :: back := rfl
    have stops : (front ++ '-' :: back).dropWhile Char.isDigit = '-' :: back := by
      rw [List.dropWhile_append_of_pos front_digits]
      rfl
    have taken : (front ++ '-' :: back).takeWhile Char.isDigit = front := by
      rw [List.takeWhile_append_of_pos front_digits]
      exact List.append_nil front
    rw [matchRange, if_pos begins]
    simp only [dropped, stops, taken, List.all_eq_true.mpr back_digits, if_true]

theorem parseInt_nonneg {text : Text} {n : Int} (digits : ∀ d ∈ text, d.isDigit = true)
    (read : parseInt text = some n) : 0 ≤ n := by
  by_cases filled : text = []
  · rw [filled] at read
    cases read
  · rw [parseInt_digits filled digits, Option.some.injEq] at read
    omega

def sliceOf (data : Bytes) (first last : Nat) : Bytes := (data.drop first).take (last + 1 - first)

theorem sliceOf_length {first last : Nat} (inside : last < data.length) :
    (sliceOf data first last).length = last + 1 - first := by
  rw [sliceOf, List.length_take, List.length_drop]
  omega

theorem rangeOf_slice {first last : Int} (answer : rangeOf range size = .slice first last) :
    0 ≤ first ∧ last < size ∧ (first ≤ last ∨ size = 0 ∧ first = 0 ∧ last = -1) := by
  unfold rangeOf at answer
  split at answer
  · cases answer
  · cases answer
  · split at answer
    · cases answer
    · cases answer
    · rename_i suffix _ matched
      split at answer
      · cases answer
      · split at answer
        · cases answer
        · rename_i n read nonzero
          have positive := parseInt_nonneg (matchRange_eq_some.mp matched).2.2 read
          rw [RangeAnswer.slice.injEq] at answer
          omega
    · rename_i front back _ _ matched
      obtain ⟨-, front_digits, back_digits⟩ := matchRange_eq_some.mp matched
      split at answer
      · cases answer
      · rename_i start read
        have positive := parseInt_nonneg front_digits read
        split at answer
        · cases answer
        · split at answer
          · cases answer
          · simp only at answer
            split at answer
            · cases answer
            · rw [RangeAnswer.slice.injEq] at answer
              omega

/-- Both stores hand out the same bytes for a range of the file. -/
structure Reads (st : Storage) (m : ResolvedMedia) (data : Bytes) : Prop where
  size : m.size = data.length
  whole : openMediaStream st m none = some data
  slices : ∀ first last : Nat, first ≤ last →
    openMediaStream st m (some (first, last)) = some (sliceOf data first last)

theorem createReadStream_slice {first last : Nat} (order : first ≤ last) :
    createReadStream data (some (first, last)) = some (sliceOf data first last) := by
  have length : ((last : Int) - first + 1).toNat = last + 1 - first := by omega
  simp only [createReadStream, sliceOf, length, Int.toNat_natCast]
  rw [if_pos ⟨Int.natCast_nonneg first, Int.ofNat_le.mpr order⟩]

theorem getPartialObject_slice {key : Text} {first last : Nat} (stored : st.bucket key = some data)
    (order : first ≤ last) :
    st.getPartialObject key first (last - first + 1) = some (sliceOf data first last) := by
  have length : (last : Int) - first + 1 = (last + 1 - first : Nat) := by omega
  rw [length]
  exact st.getPartialObject_reads key data stored first (last + 1 - first) (by omega)

theorem getObjectStream_reads {key : Text} {n : Nat} (sized : st.getObjectSize key = some n) :
    ∃ data, n = data.length ∧ st.getObjectStream key none = some data ∧
      ∀ first last : Nat, first ≤ last →
        st.getObjectStream key (some (first, last)) = some (sliceOf data first last) := by
  rw [Storage.getObjectSize] at sized
  cases driver : st.driver with
  | localDisk =>
    rw [driver] at sized
    obtain ⟨data, found, rfl⟩ := Option.map_eq_some_iff.mp sized
    refine ⟨data, rfl, ?_, ?_⟩
    · rw [Storage.getObjectStream, driver]
      simp only [found, Option.bind_some]
      rfl
    · intro first last order
      rw [Storage.getObjectStream, driver]
      simp only [found, Option.bind_some]
      exact createReadStream_slice order
  | s3 =>
    rw [driver] at sized
    obtain ⟨data, found, rfl⟩ := Option.map_eq_some_iff.mp sized
    refine ⟨data, rfl, ?_, ?_⟩
    · rw [Storage.getObjectStream, driver]
      exact found
    · intro first last order
      rw [Storage.getObjectStream, driver]
      exact getPartialObject_slice found order

theorem resolvePlayback_reads {files : List MediaFileEntity} {fileId : Text}
    (found : resolvePlayback st files fileId = some m) : ∃ data, Reads st m data := by
  have stored : ∀ {row : MediaFileEntity}, resolveStored st row = some m → ∃ data, Reads st m data := by
    intro row made
    obtain ⟨n, sized, rfl⟩ := Option.map_eq_some_iff.mp made
    obtain ⟨data, length, whole, slices⟩ := getObjectStream_reads sized
    exact ⟨data, length, whole, slices⟩
  have recorded : ∀ {row : MediaFileEntity}, resolveRecorded st row = some m →
      ∃ data, Reads st m data := by
    intro row made
    rw [resolveRecorded, Option.bind_eq_some_iff] at made
    obtain ⟨base, -, made⟩ := made
    simp only at made
    split at made
    · obtain ⟨data, there, rfl⟩ := Option.map_eq_some_iff.mp made
      refine ⟨data, rfl, ?_, ?_⟩
      · rw [openMediaStream, there]
        rfl
      · intro first last order
        rw [openMediaStream, there]
        exact createReadStream_slice order
    · cases made
  rw [resolvePlayback, Option.bind_eq_some_iff] at found
  obtain ⟨row, -, found⟩ := found
  split at found
  · cases found
  · split at found
    · split at found
      · cases found
      · exact stored found
    · split at found
      · cases found
      · exact stored found
    · split at found
      · exact recorded found
      · exact stored found
    · cases found

def wholeAnswer (data : Bytes) : Response where
  status := 200
  contentRange := none
  contentLength := some data.length
  body := some data

def sliceAnswer (data : Bytes) (first last : Nat) : Response where
  status := 206
  contentRange :=
    some ("bytes ".toList ++ decimal first ++ '-' :: decimal last ++ '/' :: decimal data.length)
  contentLength := some (sliceOf data first last).length
  body := some (sliceOf data first last)

def refusal (data : Bytes) : Response where
  status := 416
  contentRange := some ("bytes */".toList ++ decimal data.length)
  contentLength := none
  body := some []

theorem slice_answer {first last : Int} (reads : Reads st m data) (filled : data ≠ [])
    (answer : rangeOf range m.size = .slice first last) :
    ∃ a b : Nat, a ≤ b ∧ b < data.length ∧
      streamWithRangeSupport st range m = sliceAnswer data a b := by
  obtain ⟨positive, inside, order⟩ := rangeOf_slice answer
  have length : 0 < data.length := List.length_pos_iff.mpr filled
  rw [reads.size] at inside order
  obtain ⟨a, rfl⟩ := Int.eq_ofNat_of_zero_le positive
  obtain ⟨b, rfl⟩ := Int.eq_ofNat_of_zero_le (show 0 ≤ last by omega)
  refine ⟨a, b, by omega, by omega, ?_⟩
  rw [streamWithRangeSupport, answer, sliceAnswer, sliceOf_length (by omega)]
  simp only [Response.mk.injEq, true_and, reads.size]
  exact ⟨by congr 1; omega, reads.slices a b (by omega)⟩

/-- Whatever the header says, the answer is the whole file, or a part whose place and length are those
    that its head announces, or a refusal that names the size. The one other answer is for the last
    bytes of an empty file: it announces the bytes from 0 to -1. -/
theorem every_answer {files : List MediaFileEntity} {fileId : Text}
    (found : resolvePlayback st files fileId = some m) :
    ∃ data, openMediaStream st m none = some data ∧
      ∀ range,
        streamWithRangeSupport st range m = wholeAnswer data ∨
        streamWithRangeSupport st range m = refusal data ∨
        (∃ first last, first ≤ last ∧ last < data.length ∧
          streamWithRangeSupport st range m = sliceAnswer data first last) ∨
        data = [] ∧ (streamWithRangeSupport st range m).status = 206 ∧
          (streamWithRangeSupport st range m).contentRange = some "bytes 0--1/0".toList ∧
          (streamWithRangeSupport st range m).contentLength = some 0 := by
  obtain ⟨data, reads⟩ := resolvePlayback_reads found
  refine ⟨data, reads.whole, fun range => ?_⟩
  cases answer : rangeOf range m.size with
  | whole =>
    left
    rw [streamWithRangeSupport, answer, wholeAnswer, reads.size, ← reads.whole]
  | range416 =>
    right; left
    rw [streamWithRangeSupport, answer, refusal, reads.size]
  | slice first last =>
    right; right
    by_cases empty : data = []
    · right
      obtain ⟨positive, inside, order⟩ := rangeOf_slice answer
      have none_left : m.size = 0 := by rw [reads.size, empty]; rfl
      have at_zero : first = 0 ∧ last = -1 := by omega
      rw [streamWithRangeSupport, answer, none_left, at_zero.1, at_zero.2]
      exact ⟨empty, rfl, rfl, rfl⟩
    · left
      exact slice_answer reads empty answer

end Slices

section Player
variable {st : Storage} {m : ResolvedMedia} {data : Bytes}

def lastAsked (received : Nat) : Option Nat → Text
  | none => []
  | some more => Nat.toDigits 10 (received + more)

/-- The header of a player that has `received` bytes: it asks for what follows, up to a byte or to the
    end. -/
def rangeFrom (received : Nat) (more : Option Nat) : Text :=
  "bytes=".toList ++ Nat.toDigits 10 received ++ '-' :: lastAsked received more

/-- One request of the player. The connection may break after any byte of the body. -/
inductive Fetch (st : Storage) (m : ResolvedMedia) : Bytes → Option Nat × Nat → Bytes → Prop where
  | kept {received body : Bytes} {more : Option Nat} {arrived : Nat}
      (partly : (streamWithRangeSupport st (some (rangeFrom received.length more)) m).status = 206)
      (sent : (streamWithRangeSupport st (some (rangeFrom received.length more)) m).body = some body) :
      Fetch st m received (more, arrived) (received ++ body.take arrived)

theorem digit_not_white {c : Char} (digit : c.isDigit = true) : isWhiteSpace c = false := by
  have low : 48 ≤ c.toNat := by
    simp only [Char.isDigit, Bool.and_eq_true, decide_eq_true_eq] at digit
    exact UInt32.le_iff_toNat_le.mp digit.1
  have high : c.toNat ≤ 57 := by
    simp only [Char.isDigit, Bool.and_eq_true, decide_eq_true_eq] at digit
    exact UInt32.le_iff_toNat_le.mp digit.2
  simp only [isWhiteSpace, List.mem_cons, List.not_mem_nil, or_false, Bool.or_eq_false_iff,
    decide_eq_false_iff_not, Bool.and_eq_false_iff]
  omega

theorem trim_of_none {text : Text} (none : ∀ c ∈ text, isWhiteSpace c = false) : trim text = text := by
  have kept : ∀ {t : Text}, (∀ c ∈ t, isWhiteSpace c = false) → t.dropWhile isWhiteSpace = t := by
    intro t clean
    cases t with
    | nil => rfl
    | cons c t => exact List.dropWhile_cons_of_neg (by simp [clean c List.mem_cons_self])
  rw [trim, kept none, kept (fun c there => none c (List.mem_reverse.mp there)), List.reverse_reverse]

theorem toDigits_digits (n : Nat) : ∀ d ∈ Nat.toDigits 10 n, d.isDigit = true :=
  fun _ there => Nat.isDigit_of_mem_toDigits (by decide) (by decide) there

theorem lastAsked_digits (received : Nat) (more : Option Nat) :
    ∀ d ∈ lastAsked received more, d.isDigit = true := by
  cases more with
  | none => exact fun _ there => absurd there List.not_mem_nil
  | some more => exact toDigits_digits _

theorem rangeFrom_clean {received : Nat} {more : Option Nat} {c : Char}
    (there : c ∈ rangeFrom received more) : isWhiteSpace c = false := by
  have letters : ("bytes=".toList.all fun c => !isWhiteSpace c) = true := by decide
  rw [rangeFrom, List.mem_append, List.mem_append, List.mem_cons] at there
  rcases there with (letter | digit) | rfl | digit
  · exact Bool.not_eq_true' _ ▸ List.all_eq_true.mp letters c letter
  · exact digit_not_white (toDigits_digits _ c digit)
  · decide
  · exact digit_not_white (lastAsked_digits received more c digit)

theorem rangeFrom_matched (received : Nat) (more : Option Nat) :
    matchRange (trim (rangeFrom received more)) =
      some (Nat.toDigits 10 received, lastAsked received more) := by
  rw [trim_of_none fun c there => rangeFrom_clean there, matchRange_eq_some]
  exact ⟨rfl, toDigits_digits _, lastAsked_digits received more⟩

theorem lastAsked_read (received size : Nat) (more : Option Nat) :
    (if lastAsked received more = [] then some ((size : Int) - 1)
      else parseInt (lastAsked received more)) =
        some (more.elim ((size : Int) - 1) fun more => ((received + more : Nat) : Int)) := by
  cases more with
  | none => rfl
  | some more => exact (if_neg Nat.toDigits_ne_nil).trans parseInt_toDigits

theorem rangeOf_rangeFrom (received size : Nat) (more : Option Nat) :
    rangeOf (some (rangeFrom received more)) size =
      if received < size then
        .slice received ((min (more.elim (size - 1) (received + ·)) (size - 1) : Nat) : Int)
      else .range416 := by
  have filled : rangeFrom received more ≠ [] := List.cons_ne_nil _ _
  have front : Nat.toDigits 10 received ≠ [] := Nat.toDigits_ne_nil
  unfold rangeOf
  split
  · rename_i none
    cases none
  · rename_i empty
    exact absurd (Option.some.inj empty) filled
  · rename_i text _ asked
    rw [← Option.some.inj asked, rangeFrom_matched]
    split
    · rename_i none
      cases none
    · rename_i empty
      exact absurd (Prod.mk.inj (Option.some.inj empty)).1 front
    · rename_i empty
      exact absurd (Prod.mk.inj (Option.some.inj empty)).1 front
    · rename_i groups
      obtain ⟨rfl, rfl⟩ := Prod.mk.inj (Option.some.inj groups)
      simp only [parseInt_toDigits, lastAsked_read]
      by_cases inside : received < size
      · have last : min (more.elim ((size : Int) - 1) fun more => ((received + more : Nat) : Int))
            ((size : Int) - 1) = ((min (more.elim (size - 1) (received + ·)) (size - 1) : Nat) : Int) := by
          cases more with
          | none => simp only [Option.elim]; omega
          | some more => simp only [Option.elim]; omega
        have order : received ≤ min (more.elim (size - 1) (received + ·)) (size - 1) := by
          cases more with
          | none => simp only [Option.elim]; omega
          | some more => simp only [Option.elim]; omega
        rw [if_neg (by omega), if_pos inside, last, if_neg (by omega)]
      · rw [if_pos (by omega), if_neg inside]

theorem player_answer {received : Bytes} (reads : Reads st m data) (begins : received <+: data)
    (more : Option Nat) :
    let answer := streamWithRangeSupport st (some (rangeFrom received.length more)) m
    if received = data then answer.status = 416
    else
      answer.status = 206 ∧ ∃ asked, 0 < asked ∧
        answer.body = some ((data.drop received.length).take asked) := by
  simp only [streamWithRangeSupport, rangeOf_rangeFrom, reads.size]
  by_cases whole : received = data
  · rw [if_pos whole, whole, if_neg (Nat.lt_irrefl _)]
  · have shorter : received.length < data.length := by
      refine Nat.lt_of_le_of_ne begins.length_le fun same => whole ?_
      exact begins.eq_of_length same
    rw [if_neg whole, if_pos shorter]
    have order : received.length ≤
        min (more.elim (data.length - 1) (received.length + ·)) (data.length - 1) := by
      cases more with
      | none => simp only [Option.elim]; omega
      | some more => simp only [Option.elim]; omega
    refine ⟨rfl, _, ?_, reads.slices _ _ order⟩
    omega

theorem fetch_kept {received after : Bytes} {request : Option Nat × Nat} (reads : Reads st m data)
    (begins : received <+: data) (fetched : Fetch st m received request after) :
    after <+: data ∧ (1 ≤ request.2 → received.length + 1 ≤ after.length) := by
  obtain ⟨partly, sent⟩ := fetched
  rename_i body more arrived
  have answered := player_answer reads begins more
  by_cases whole : received = data
  · simp only [whole, if_true] at answered partly
    rw [answered] at partly
    cases partly
  · simp only [whole, if_false] at answered
    obtain ⟨-, asked, some_asked, answered⟩ := answered
    have slice := Option.some.inj (sent.symm.trans answered)
    have shorter : received.length < data.length := by
      refine Nat.lt_of_le_of_ne begins.length_le fun same => whole ?_
      exact begins.eq_of_length same
    have joined : received ++ body.take arrived =
        data.take (received.length + min arrived asked) := by
      rw [slice, List.take_take, List.take_add, ← List.prefix_iff_eq_take.mp begins]
    rw [joined]
    refine ⟨List.take_prefix _ _, fun some_arrived => ?_⟩
    rw [List.length_take]
    simp only at some_arrived
    omega

theorem fetched_beginning {moves : List (Move Bytes (Option Nat × Nat))} {received : Bytes}
    (reads : Reads st m data) (run : Run (Fetch st m) [] moves received) : received <+: data := by
  induction run with
  | nil => exact List.nil_prefix
  | snoc init last ih => exact (fetch_kept reads ih last).1

/-- A player that always asks for what it does not have yet ends up with the file, however the
    requests are cut and wherever the connections break: at every moment it has a beginning of the
    file, it is told that nothing follows exactly when it has all of it, and otherwise it is offered
    at least one byte more. -/
theorem resumed_download {files : List MediaFileEntity} {fileId : Text}
    (found : resolvePlayback st files fileId = some m) :
    ∃ data, openMediaStream st m none = some data ∧
      ∀ {moves : List (Move Bytes (Option Nat × Nat))} {received : Bytes},
        Run (Fetch st m) [] moves received →
          received <+: data ∧
          ((∀ move ∈ moves, 1 ≤ move.label.2) → moves.length ≤ received.length) ∧
          ∀ more,
            ((streamWithRangeSupport st (some (rangeFrom received.length more)) m).status = 416 ↔
              received = data) ∧
            (received ≠ data →
              ∃ body ≠ [], (streamWithRangeSupport st (some (rangeFrom received.length more)) m).body =
                some body) := by
  obtain ⟨data, reads⟩ := resolvePlayback_reads found
  refine ⟨data, reads.whole, ?_⟩
  intro moves received run
  have begins := fetched_beginning reads run
  refine ⟨begins, ?_, ?_⟩
  · intro bring
    induction run with
    | nil => exact Nat.le_refl _
    | @snoc t u l moves init last ih =>
      have before := fetched_beginning reads init
      have grown := (fetch_kept reads before last).2
        (bring _ (List.mem_append_right _ (List.mem_singleton_self _)))
      have counted := ih before fun move there => bring move (List.mem_append_left _ there)
      rw [List.length_append, List.length_singleton]
      omega
  · intro more
    have answered := player_answer reads begins more
    by_cases whole : received = data
    · simp only [whole, if_true] at answered
      exact ⟨by rw [whole]; exact iff_of_true answered rfl, fun other => absurd whole other⟩
    · simp only [whole, if_false] at answered
      obtain ⟨status, asked, some_asked, body⟩ := answered
      refine ⟨by rw [status]; exact iff_of_false (by decide) whole, fun _ => ⟨_, ?_, body⟩⟩
      intro none
      rcases List.take_eq_nil_iff.mp none with zero | empty
      · omega
      · exact whole (begins.eq_of_length_le (List.drop_eq_nil_iff.mp empty))

def shelf (elsewhere : Option Bytes) : Storage where
  driver := .localDisk
  localPath := ["srv".toList, "uploads".toList]
  recordings := none
  disk := fun path =>
    if path = ["srv".toList, "uploads".toList, "clip".toList] then some [7, 8, 9]
    else if path = ["srv".toList, "secrets".toList] then elsewhere
    else none
  bucket := fun _ => none
  getPartialObject := fun _ _ _ => none
  localPath_clean := by decide
  recordings_clean := by simp
  getPartialObject_reads := by simp

def clipRow (storageKey : Text) : MediaFileEntity where
  id := "c1".toList
  meetingId := none
  fileName := "clip"
  mimeType := "video/mp4"
  storageProvider := .localDisk
  storageKey := storageKey
  fileUrl := none
  isActive := true
  deleted := false

def clip : ResolvedMedia := .remote "clip".toList 3 "video/mp4" "clip"

theorem every_answer_suffix :
    ∃ first last, first ≤ last ∧ last < 3 ∧
      streamWithRangeSupport (shelf none) (some " bytes=-2 ".toList) clip =
        sliceAnswer [7, 8, 9] first last := by
  obtain ⟨data, opened, all⟩ :=
    @every_answer (shelf none) clip [clipRow "clip".toList] "c1".toList (by decide)
  have whole : data = [7, 8, 9] := Option.some.inj (opened.symm.trans (by decide))
  have partly : (streamWithRangeSupport (shelf none) (some " bytes=-2 ".toList) clip).status = 206 := by
    decide
  rw [whole] at all
  rcases all (some " bytes=-2 ".toList) with answer | answer | answer | ⟨empty, -⟩
  · rw [answer] at partly
    cases partly
  · rw [answer] at partly
    cases partly
  · exact answer
  · cases empty

theorem resumed_download_broken :
    ∃ data, openMediaStream (shelf none) clip none = some data ∧
      ([7, 8, 9] : Bytes) <+: data ∧
      (streamWithRangeSupport (shelf none) (some (rangeFrom 3 none)) clip).status = 416 := by
  obtain ⟨data, opened, all⟩ :=
    @resumed_download (shelf none) clip [clipRow "clip".toList] "c1".toList (by decide)
  have first : Fetch (shelf none) clip [] (none, 1) [7] :=
    @Fetch.kept (shelf none) clip [] [7, 8, 9] none 1 (by decide) (by decide)
  have second : Fetch (shelf none) clip [7] (some 1, 2) [7, 8, 9] :=
    @Fetch.kept (shelf none) clip [7] [8, 9] (some 1) 2 (by decide) (by decide)
  obtain ⟨begins, -, next⟩ := all ((Run.nil.snoc first).snoc second)
  have whole : data = [7, 8, 9] := Option.some.inj (opened.symm.trans (by decide))
  exact ⟨data, opened, begins, (next none).1.mpr whole.symm⟩

end Player
end MediaFiles
