import Mathlib.Data.Int.Log
import Mathlib.Data.Rat.Floor
import Mathlib.Tactic.Linarith
import Mathlib.Tactic.FieldSimp

/-!
# Rounding to a number of binary digits

The arithmetic of floats whose exponent is in range: the exact result, rounded to the nearest
number with as many significant binary digits, of two as near to the one whose last digit is even.

* `nearest`, `nearest_mono`, `nearest_intCast` — the same for whole numbers.
* `roundDigits_mono` — rounding keeps the order of numbers that are not negative.
* `roundDigits_natCast` — a whole number with few enough digits is not rounded.
-/

namespace Rounding

/-! ## Whole numbers -/

/-- The nearest whole number, of two the even one. -/
def nearest (x : ℚ) : ℤ :=
  if x - ⌊x⌋ < 1 / 2 then ⌊x⌋
  else if 1 / 2 < x - ⌊x⌋ then ⌊x⌋ + 1
  else if ⌊x⌋ % 2 = 0 then ⌊x⌋ else ⌊x⌋ + 1

theorem nearest_bounds (x : ℚ) : ⌊x⌋ ≤ nearest x ∧ nearest x ≤ ⌊x⌋ + 1 := by
  unfold nearest
  split
  · omega
  · split
    · omega
    · split <;> omega

theorem nearest_mono {x y : ℚ} (h : x ≤ y) : nearest x ≤ nearest y := by
  rcases (Int.floor_le_floor h).lt_or_eq with hlt | heq
  · have := (nearest_bounds x).2
    have := (nearest_bounds y).1
    omega
  · -- the same whole number: the larger rest rounds up whenever the smaller one does
    have hrest : x - ⌊x⌋ ≤ y - ⌊y⌋ := by
      rw [heq]
      linarith
    unfold nearest
    rw [heq] at hrest ⊢
    by_cases hx : x - ⌊y⌋ < 1 / 2
    · rw [if_pos hx]
      split
      · exact le_refl _
      · split
        · omega
        · split <;> omega
    · have hy : ¬ y - ⌊y⌋ < 1 / 2 := by linarith
      rw [if_neg hx, if_neg hy]
      by_cases hx' : 1 / 2 < x - ⌊y⌋
      · rw [if_pos hx', if_pos (by linarith)]
      · rw [if_neg hx']
        by_cases heven : ⌊y⌋ % 2 = 0
        · rw [if_pos heven]
          split <;> omega
        · rw [if_neg heven]
          split <;> omega

@[simp] theorem nearest_intCast (n : ℤ) : nearest n = n := by
  unfold nearest
  rw [Int.floor_intCast, if_pos (by norm_num)]

theorem nearest_natCast (n : ℕ) : nearest n = n := nearest_intCast n

/-! ## Binary digits -/

variable {p : ℕ} {x y : ℚ}

/-- The worth of the last of `p` digits after the first one. -/
def ulp (p : ℕ) (x : ℚ) : ℚ := (2 : ℚ) ^ (Int.log 2 x - p)

theorem ulp_pos (p : ℕ) (x : ℚ) : 0 < ulp p x := zpow_pos two_pos _

theorem two_pow_mul_ulp (p : ℕ) (x : ℚ) : 2 ^ p * ulp p x = (2 : ℚ) ^ Int.log 2 x := by
  unfold ulp
  rw [← zpow_natCast, ← zpow_add₀ two_ne_zero]
  congr 1
  omega

/-- `x`, not negative, rounded to `p` binary digits after the first one. -/
def roundDigits (p : ℕ) (x : ℚ) : ℚ := nearest (x / ulp p x) * ulp p x

@[simp] theorem roundDigits_zero (p : ℕ) : roundDigits p 0 = 0 := by
  have hzero : nearest 0 = 0 := nearest_intCast 0
  rw [roundDigits, zero_div, hzero, Int.cast_zero, zero_mul]

/-- Rounding stays at or above the power of two below, … -/
theorem zpow_log_le_roundDigits (hx : 0 < x) : (2 : ℚ) ^ Int.log 2 x ≤ roundDigits p x := by
  have hlow : (2 : ℚ) ^ Int.log 2 x ≤ x := Int.zpow_log_le_self (b := 2) one_lt_two hx
  have hquot : ((2 ^ p : ℤ) : ℚ) ≤ x / ulp p x := by
    rw [le_div_iff₀ (ulp_pos p x)]
    push_cast
    rw [two_pow_mul_ulp]
    exact hlow
  have hnear := nearest_mono hquot
  rw [nearest_intCast] at hnear
  calc (2 : ℚ) ^ Int.log 2 x = ((2 ^ p : ℤ) : ℚ) * ulp p x := by
        push_cast
        rw [two_pow_mul_ulp]
    _ ≤ nearest (x / ulp p x) * ulp p x :=
        mul_le_mul_of_nonneg_right (Int.cast_le.mpr hnear) (ulp_pos p x).le

/-- … and at or below the one above. -/
theorem roundDigits_le_zpow (p : ℕ) (x : ℚ) : roundDigits p x ≤ (2 : ℚ) ^ (Int.log 2 x + 1) := by
  have hhigh : x < (2 : ℚ) ^ (Int.log 2 x + 1) := Int.lt_zpow_succ_log_self (b := 2) one_lt_two x
  have hpow : ((2 ^ (p + 1) : ℤ) : ℚ) * ulp p x = (2 : ℚ) ^ (Int.log 2 x + 1) := by
    push_cast
    rw [pow_succ, mul_right_comm, two_pow_mul_ulp, zpow_add_one₀ two_ne_zero]
  have hquot : x / ulp p x ≤ ((2 ^ (p + 1) : ℤ) : ℚ) := by
    rw [div_le_iff₀ (ulp_pos p x), hpow]
    exact hhigh.le
  have hnear := nearest_mono hquot
  rw [nearest_intCast] at hnear
  calc nearest (x / ulp p x) * ulp p x ≤ ((2 ^ (p + 1) : ℤ) : ℚ) * ulp p x :=
        mul_le_mul_of_nonneg_right (Int.cast_le.mpr hnear) (ulp_pos p x).le
    _ = (2 : ℚ) ^ (Int.log 2 x + 1) := hpow

theorem roundDigits_nonneg (p : ℕ) (hx : 0 ≤ x) : 0 ≤ roundDigits p x := by
  rcases hx.eq_or_lt with rfl | hpos
  · rw [roundDigits_zero]
  · exact (zpow_pos two_pos _).le.trans (zpow_log_le_roundDigits hpos)

/-- **Rounding keeps the order.** -/
theorem roundDigits_mono (p : ℕ) (hx : 0 ≤ x) (h : x ≤ y) : roundDigits p x ≤ roundDigits p y := by
  rcases hx.eq_or_lt with rfl | hpos
  · rw [roundDigits_zero]
    exact roundDigits_nonneg p h
  · have hlog : Int.log 2 x ≤ Int.log 2 y := Int.log_mono_right hpos h
    rcases hlog.lt_or_eq with hlt | heq
    · -- a power of two lies between them
      calc roundDigits p x ≤ (2 : ℚ) ^ (Int.log 2 x + 1) := roundDigits_le_zpow p x
        _ ≤ (2 : ℚ) ^ Int.log 2 y := zpow_le_zpow_right₀ one_le_two (by omega)
        _ ≤ roundDigits p y := zpow_log_le_roundDigits (hpos.trans_le h)
    · have hulp : ulp p x = ulp p y := by
        unfold ulp
        rw [heq]
      have hquot : x / ulp p x ≤ y / ulp p x := div_le_div_of_nonneg_right h (ulp_pos p x).le
      unfold roundDigits
      rw [← hulp]
      exact mul_le_mul_of_nonneg_right (Int.cast_le.mpr (nearest_mono hquot)) (ulp_pos p x).le

/-- **Whole numbers with few enough digits are not rounded.** -/
theorem roundDigits_natCast {n : ℕ} (h : n < 2 ^ (p + 1)) : roundDigits p (n : ℚ) = n := by
  rcases Nat.eq_zero_or_pos n with rfl | hpos
  · rw [Nat.cast_zero, roundDigits_zero]
  · have hlog : Nat.log 2 n ≤ p := Nat.lt_succ_iff.mp (Nat.log_lt_of_lt_pow hpos.ne' h)
    have hulp : ulp p (n : ℚ) * 2 ^ (p - Nat.log 2 n) = 1 := by
      unfold ulp
      rw [Int.log_natCast, ← zpow_natCast, ← zpow_add₀ two_ne_zero, Nat.cast_sub hlog]
      simp
    -- a multiple of the last digit
    have hquot : (n : ℚ) / ulp p n = ((n * 2 ^ (p - Nat.log 2 n) : ℤ) : ℚ) := by
      rw [div_eq_iff (ulp_pos p n).ne']
      push_cast
      rw [mul_assoc, mul_comm (2 ^ _) (ulp p (n : ℚ)), hulp, mul_one]
    rw [roundDigits, hquot, nearest_intCast, ← hquot]
    exact div_mul_cancel₀ _ (ulp_pos p n).ne'

end Rounding
