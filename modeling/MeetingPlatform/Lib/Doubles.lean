import Mathlib.Data.Int.Log
import Mathlib.Data.Rat.Floor
import Mathlib.Algebra.Order.Field.Power
import Mathlib.Tactic.Linarith
import Mathlib.Tactic.Positivity
import Mathlib.Tactic.NormNum
import Mathlib.Tactic.FieldSimp
import Mathlib.Tactic.Ring

/- The rounding of double precision: to the nearest number of 53 digits, and to the even one of two. What
   is too large for the format is not cut off. -/
namespace Doubles

def roundEven (x : ℚ) : ℤ :=
  if x - ⌊x⌋ < 1 / 2 then ⌊x⌋
  else if 1 / 2 < x - ⌊x⌋ then ⌊x⌋ + 1
  else if ⌊x⌋ % 2 = 0 then ⌊x⌋
  else ⌊x⌋ + 1

def lastDigit (x : ℚ) : ℤ := max (Int.log 2 |x| - 52) (-1074)

/-- The double that stands for a rational number. -/
def fl (x : ℚ) : ℚ := roundEven (x / 2 ^ lastDigit x) * 2 ^ lastDigit x

variable {x y : ℚ}

theorem roundEven_near (x : ℚ) : |roundEven x - x| ≤ 1 / 2 := by
  have floor_le := Int.floor_le x
  have lt_floor := Int.lt_floor_add_one x
  unfold roundEven
  split_ifs with below above <;> push_cast <;> rw [abs_le] <;> constructor <;> linarith

theorem roundEven_int (n : ℤ) : roundEven n = n := by
  rw [roundEven, Int.floor_intCast, sub_self, if_pos (by norm_num)]

theorem fl_near (x : ℚ) : |fl x - x| ≤ 2 ^ lastDigit x / 2 := by
  have positive : (0 : ℚ) < 2 ^ lastDigit x := zpow_pos (by norm_num) _
  have near := roundEven_near (x / 2 ^ lastDigit x)
  have scaled : fl x - x = (roundEven (x / 2 ^ lastDigit x) - x / 2 ^ lastDigit x) * 2 ^ lastDigit x := by
    rw [sub_mul, div_mul_cancel₀ _ positive.ne', fl]
  rw [scaled, abs_mul, abs_of_pos positive]
  calc |(roundEven (x / 2 ^ lastDigit x) : ℚ) - x / 2 ^ lastDigit x| * 2 ^ lastDigit x
      ≤ 1 / 2 * 2 ^ lastDigit x := mul_le_mul_of_nonneg_right near positive.le
    _ = 2 ^ lastDigit x / 2 := by ring

theorem fl_zero : fl 0 = 0 := by
  have same : roundEven 0 = 0 := roundEven_int 0
  rw [fl, zero_div, same, Int.cast_zero, zero_mul]

theorem fl_error (normal : x = 0 ∨ (2 : ℚ) ^ (-1022 : ℤ) ≤ |x|) : |fl x - x| ≤ |x| / 2 ^ 53 := by
  rcases normal with rfl | normal
  · rw [fl_zero, sub_self, abs_zero, zero_div]
  have positive : 0 < |x| := lt_of_lt_of_le (by positivity) normal
  have exponent : -1022 ≤ Int.log 2 |x| :=
    (Int.zpow_le_iff_le_log one_lt_two positive).mp (by exact_mod_cast normal)
  have digit : lastDigit x = Int.log 2 |x| - 52 := max_eq_left (by omega)
  have below : (2 : ℚ) ^ Int.log 2 |x| ≤ |x| := by exact_mod_cast Int.zpow_log_le_self one_lt_two positive
  refine (fl_near x).trans ?_
  rw [digit, zpow_sub₀ (by norm_num)]
  have power : (2 : ℚ) ^ (52 : ℤ) = 2 ^ 52 := by norm_cast
  rw [power, div_div, ← pow_succ]
  exact div_le_div_of_nonneg_right below (by positivity)

end Doubles
