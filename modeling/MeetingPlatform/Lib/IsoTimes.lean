import Mathlib.Order.Compare
import Mathlib.Tactic.NormNum
import Mathlib.Tactic.IntervalCases

/- Instants as texts: the calendar, the text of an instant, and the order in which a language-aware
   comparison of texts puts them. -/
namespace IsoTimes

section Orders
variable {α β : Type*} [LinearOrder α] [LinearOrder β] {a b : α} {p q : β} {rest : Ordering}

theorem compare_split (below : p < q → a < b) (above : q < p → b < a)
    (tied : p = q → compare a b = rest) : compare a b = (compare p q).then rest := by
  rcases lt_trichotomy p q with less | same | more
  · rw [compare_lt_iff_lt.mpr less, compare_lt_iff_lt.mpr (below less)]
    rfl
  · rw [compare_eq_iff_eq.mpr same, tied same]
    rfl
  · rw [compare_gt_iff_gt.mpr more, compare_gt_iff_gt.mpr (above more)]
    rfl

theorem compare_congr (below : a < b → p < q) (above : b < a → q < p)
    (same : a = b → p = q) : compare a b = compare p q := by
  rcases lt_trichotomy a b with less | tied | more
  · rw [compare_lt_iff_lt.mpr less, compare_lt_iff_lt.mpr (below less)]
  · rw [compare_eq_iff_eq.mpr tied, compare_eq_iff_eq.mpr (same tied)]
  · rw [compare_gt_iff_gt.mpr more, compare_gt_iff_gt.mpr (above more)]

theorem compare_div_mod (k m n : Nat) :
    compare m n = (compare (m / k) (n / k)).then (compare (m % k) (n % k)) := by
  have whole := Nat.div_add_mod m k
  have whole' := Nat.div_add_mod n k
  refine compare_split Nat.lt_of_div_lt_div Nat.lt_of_div_lt_div ?_
  intro same
  rw [same] at whole
  apply compare_congr <;> omega

end Orders

section Texts

/-- The places of the characters of an instant in the order of characters. -/
def weight (c : Char) : Nat :=
  match c with
  | '-' => 0
  | ':' => 1
  | '.' => 2
  | '+' => 3
  | 'T' => 14
  | 'Z' => 15
  | digit => 4 + (digit.toNat - '0'.toNat)

def localeCompare (a b : List Char) : Ordering :=
  a.compareLex (fun x y => compare (weight x) (weight y)) b

def padded : Nat → Nat → List Char
  | 0, _ => []
  | width + 1, n => padded width (n / 10) ++ [Nat.digitChar (n % 10)]

variable {xs ys : List Char} {m n width : Nat}

theorem weight_digit {n : Nat} (digit : n < 10) : weight (Nat.digitChar n) = 4 + n := by
  interval_cases n <;> rfl

theorem compare_cons (c : Char) : localeCompare (c :: xs) (c :: ys) = localeCompare xs ys := by
  rw [localeCompare, List.compareLex_cons_cons, compare_eq_iff_eq.mpr rfl]
  rfl

theorem compare_padded (short : m < 10 ^ width) (short' : n < 10 ^ width) :
    localeCompare (padded width m ++ xs) (padded width n ++ ys) =
      (compare m n).then (localeCompare xs ys) := by
  induction width generalizing m n xs ys with
  | zero =>
    obtain rfl : m = 0 := by omega
    obtain rfl : n = 0 := by omega
    rfl
  | succ width ih =>
    have front : m / 10 < 10 ^ width := by omega
    have front' : n / 10 < 10 ^ width := by omega
    have digits : compare (weight (Nat.digitChar (m % 10))) (weight (Nat.digitChar (n % 10))) =
        compare (m % 10) (n % 10) := by
      rw [weight_digit (Nat.mod_lt m (by decide)), weight_digit (Nat.mod_lt n (by decide))]
      apply compare_congr <;> omega
    simp only [padded, List.append_assoc, List.singleton_append]
    rw [ih front front', localeCompare, List.compareLex_cons_cons, digits, compare_div_mod 10 m n,
      Ordering.then_assoc]
    rfl

end Texts

section Calendar

def dayLength : Int := 86400000

def dayFromYear (year : Int) : Int :=
  365 * (year - 1970) + (year - 1969) / 4 - (year - 1901) / 100 + (year - 1601) / 400

/-- The year by the mean length of the years, one off at most. -/
def estimatedYear (day : Int) : Int := 1970 + 400 * day / 146097

def yearFromDay (day : Int) : Int :=
  if day < dayFromYear (estimatedYear day) then estimatedYear day - 1
  else if dayFromYear (estimatedYear day + 1) ≤ day then estimatedYear day + 1
  else estimatedYear day

def dayWithinYear (day : Int) : Nat := (day - dayFromYear (yearFromDay day)).toNat

def leapDays (year : Int) : Nat := (dayFromYear (year + 1) - dayFromYear year - 365).toNat

def monthStarts (leapDays : Nat) : List Nat :=
  0 :: 31 :: [59, 90, 120, 151, 181, 212, 243, 273, 304, 334].map fun start => start + leapDays

def monthOf (leapDays dayInYear : Nat) : Nat :=
  (monthStarts leapDays).countP fun start => start ≤ dayInYear

def monthStart (leapDays month : Nat) : Nat := (monthStarts leapDays).getD (month - 1) 0

def dayOfMonth (leapDays dayInYear : Nat) : Nat :=
  dayInYear - monthStart leapDays (monthOf leapDays dayInYear) + 1

/-- Four digits, or a sign and six digits. -/
def yearText (year : Int) : List Char :=
  if 0 ≤ year ∧ year ≤ 9999 then padded 4 year.toNat
  else if 0 < year then '+' :: padded 6 year.toNat
  else '-' :: padded 6 (-year).toNat

def dateText (day : Int) : List Char :=
  let leap := leapDays (yearFromDay day)
  yearText (yearFromDay day) ++ '-' :: (padded 2 (monthOf leap (dayWithinYear day)) ++
    '-' :: padded 2 (dayOfMonth leap (dayWithinYear day)))

def clockText (ms : Nat) : List Char :=
  padded 2 (ms / 3600000) ++ ':' :: (padded 2 (ms % 3600000 / 60000) ++
    ':' :: (padded 2 (ms % 60000 / 1000) ++ '.' :: (padded 3 (ms % 1000) ++ ['Z'])))

/-- The text of the instant so many milliseconds after 1970 began. -/
def isoText (t : Int) : List Char :=
  dateText (t / dayLength) ++ 'T' :: clockText (t % dayLength).toNat

variable {d e t u : Int}

theorem estimatedYear_near (day : Int) : dayFromYear (estimatedYear day - 1) ≤ day ∧
    day < dayFromYear (estimatedYear day + 1 + 1) := by
  unfold dayFromYear estimatedYear
  omega

theorem yearFromDay_spec (day : Int) :
    dayFromYear (yearFromDay day) ≤ day ∧ day < dayFromYear (yearFromDay day + 1) := by
  obtain ⟨started, ends⟩ := estimatedYear_near day
  unfold yearFromDay
  split_ifs with early late
  · rw [Int.sub_add_cancel]
    exact ⟨started, early⟩
  · exact ⟨late, ends⟩
  · exact ⟨Int.not_lt.mp early, Int.not_le.mp late⟩

theorem dayFromYear_mono {y z : Int} (order : y ≤ z) : dayFromYear y ≤ dayFromYear z := by
  unfold dayFromYear
  omega

theorem day_lt_of_year_lt (earlier : yearFromDay d < yearFromDay e) : d < e := by
  have next := dayFromYear_mono (show yearFromDay d + 1 ≤ yearFromDay e by omega)
  have ends := (yearFromDay_spec d).2
  have started := (yearFromDay_spec e).1
  omega

theorem year_lasts (year : Int) :
    dayFromYear (year + 1) = dayFromYear year + 365 + leapDays year ∧ leapDays year ≤ 1 := by
  unfold leapDays dayFromYear
  omega

theorem dayWithinYear_spec (day : Int) :
    day = dayFromYear (yearFromDay day) + dayWithinYear day ∧
      dayWithinYear day < 365 + leapDays (yearFromDay day) := by
  have := yearFromDay_spec day
  have := (year_lasts (yearFromDay day)).1
  unfold dayWithinYear
  omega

theorem month_spec : ∀ leap ≤ 1, ∀ day < 365 + leap,
    monthOf leap day < 100 ∧ dayOfMonth leap day < 100 ∧
      monthStart leap (monthOf leap day) ≤ day := by
  decide +kernel

theorem monthOf_mono (leap : Nat) : Monotone (monthOf leap) := by
  intro m n order
  apply List.countP_mono_left
  intro start _ reached
  simp only [decide_eq_true_eq] at reached ⊢
  exact reached.trans order

theorem compare_month {leap m n : Nat} (short : leap ≤ 1) (year : m < 365 + leap)
    (year' : n < 365 + leap) :
    compare m n = (compare (monthOf leap m) (monthOf leap n)).then
      (compare (dayOfMonth leap m) (dayOfMonth leap n)) := by
  obtain ⟨-, -, started⟩ := month_spec leap short m year
  obtain ⟨-, -, started'⟩ := month_spec leap short n year'
  refine compare_split (monthOf_mono leap).reflect_lt (monthOf_mono leap).reflect_lt ?_
  intro same
  rw [dayOfMonth, dayOfMonth, same]
  rw [same] at started
  apply compare_congr <;> omega

def FourDigits (day : Int) : Prop := 0 ≤ yearFromDay day ∧ yearFromDay day ≤ 9999

theorem compare_yearText {y z : Int} (four : 0 ≤ y ∧ y ≤ 9999) (four' : 0 ≤ z ∧ z ≤ 9999)
    (xs ys : List Char) :
    localeCompare (yearText y ++ xs) (yearText z ++ ys) = (compare y z).then (localeCompare xs ys) := by
  have order : compare y.toNat z.toNat = compare y z := by
    apply compare_congr <;> omega
  rw [yearText, yearText, if_pos four, if_pos four', compare_padded (by omega) (by omega), order]

theorem compare_dateText (four : FourDigits d) (four' : FourDigits e) (xs ys : List Char) :
    localeCompare (dateText d ++ xs) (dateText e ++ ys) = (compare d e).then (localeCompare xs ys) := by
  obtain ⟨whole, rest⟩ := dayWithinYear_spec d
  obtain ⟨whole', rest'⟩ := dayWithinYear_spec e
  obtain ⟨-, short⟩ := year_lasts (yearFromDay d)
  obtain ⟨-, short'⟩ := year_lasts (yearFromDay e)
  obtain ⟨month, day, -⟩ := month_spec _ short _ rest
  obtain ⟨month', day', -⟩ := month_spec _ short' _ rest'
  simp only [dateText, List.append_assoc, List.cons_append]
  rw [compare_yearText four four', compare_cons, compare_padded month month', compare_cons,
    compare_padded day day', ← Ordering.then_assoc, ← Ordering.then_assoc,
    Ordering.then_assoc (compare _ _)]
  congr 1
  symm
  refine compare_split day_lt_of_year_lt day_lt_of_year_lt ?_
  intro same
  rw [← same] at whole' rest' ⊢
  rw [← compare_month short rest rest']
  apply compare_congr <;> omega

theorem compare_clockText {m n : Nat} (inside : m < 86400000) (inside' : n < 86400000) :
    localeCompare (clockText m) (clockText n) = compare m n := by
  have minutes : m % 3600000 % 60000 = m % 60000 := Nat.mod_mod_of_dvd m (by decide)
  have minutes' : n % 3600000 % 60000 = n % 60000 := Nat.mod_mod_of_dvd n (by decide)
  have seconds : m % 60000 % 1000 = m % 1000 := Nat.mod_mod_of_dvd m (by decide)
  have seconds' : n % 60000 % 1000 = n % 1000 := Nat.mod_mod_of_dvd n (by decide)
  have last : localeCompare ['Z'] ['Z'] = .eq := rfl
  rw [clockText, clockText, compare_padded (by omega) (by omega), compare_cons,
    compare_padded (by omega) (by omega), compare_cons, compare_padded (by omega) (by omega),
    compare_cons, compare_padded (by omega) (by omega)]
  rw [compare_div_mod 3600000 m n, compare_div_mod 60000 (m % 3600000) (n % 3600000), minutes, minutes',
    compare_div_mod 1000 (m % 60000) (n % 60000), seconds, seconds', last, Ordering.then_eq]

/-- The instants of the years 0 to 9999. -/
def InFourDigitYears (t : Int) : Prop :=
  dayFromYear 0 * dayLength ≤ t ∧ t < dayFromYear 10000 * dayLength

theorem fourDigits_of_inYears (inside : InFourDigitYears t) : FourDigits (t / dayLength) := by
  obtain ⟨started, ends⟩ := yearFromDay_spec (t / dayLength)
  have since : dayFromYear 0 ≤ t / dayLength := (Int.le_ediv_iff_mul_le (by decide)).mpr inside.1
  have until_end : t / dayLength < dayFromYear 10000 := (Int.ediv_lt_iff_lt_mul (by decide)).mpr inside.2
  constructor
  · by_contra early
    have order := dayFromYear_mono (show yearFromDay (t / dayLength) + 1 ≤ 0 by omega)
    omega
  · by_contra late
    have order := dayFromYear_mono (show 10000 ≤ yearFromDay (t / dayLength) by omega)
    omega

theorem compare_isoText (inside : InFourDigitYears t) (inside' : InFourDigitYears u) :
    localeCompare (isoText t) (isoText u) = compare t u := by
  have clock : (t % dayLength).toNat < 86400000 := by
    unfold dayLength
    omega
  have clock' : (u % dayLength).toNat < 86400000 := by
    unfold dayLength
    omega
  rw [isoText, isoText, compare_dateText (fourDigits_of_inYears inside) (fourDigits_of_inYears inside'),
    compare_cons, compare_clockText clock clock']
  symm
  unfold dayLength
  refine compare_split ?_ ?_ ?_
  · omega
  · omega
  · intro same
    apply compare_congr <;> omega

end Calendar
end IsoTimes
