import PaymentService.Provider
import PaymentService.Lib.Numeral
import Mathlib.Tactic.FieldSimp
import Mathlib.Algebra.Order.Field.Basic

/-!
# Amounts

The three forms of an amount: the `Decimal` of the request, the `Numeric(12, 2)` column, and the
string in the body of `POST /payments`.

* `Decimal.value` — the number a decimal stands for; `Decimal.positive_iff`.
* `validateAmount` — the validator; `Decimal.column` — what the column keeps, in hundredths.
* `hundredths_value`, `formatAmount_isFixed` — the column has the amount's value, and the string is
  the numeral of the column's.
* `format_eq_iff` — the string of an accepted amount depends on its value alone, and tells it.
-/

namespace PaymentService

/-! ## Decimals -/

/-- The number a decimal stands for. -/
def Decimal.value (d : Decimal) : ℚ :=
  (if d.negative then -1 else 1) * d.coefficient * 10 ^ d.exponent

theorem Decimal.positive_iff {d : Decimal} : d.positive = true ↔ 0 < d.value := by
  have hpower : (0 : ℚ) < 10 ^ d.exponent := zpow_pos (by norm_num) _
  obtain ⟨negative, coefficient, exponent⟩ := d
  cases negative with
  | true =>
    have hle : (-1 : ℚ) * coefficient * 10 ^ exponent ≤ 0 := by
      have := mul_nonneg (Nat.cast_nonneg (α := ℚ) coefficient) hpower.le
      linarith
    simpa [positive, value] using hle
  | false =>
    simp [positive, value, mul_pos_iff_of_pos_right hpower, Nat.pos_iff_ne_zero]

theorem Decimal.negative_of_positive {d : Decimal} (h : d.positive = true) :
    d.negative = false := by
  unfold positive at h
  cases hnegative : d.negative with
  | true => simp [hnegative] at h
  | false => rfl

/-- `CreateOperationRequest.validate_amount`. -/
def validateAmount (value : Decimal) : Except Error Decimal :=
  if ¬ value.positive then .error (.valueError "amount must be positive")
  else if value.exponent < -2 then
    .error (.valueError "amount must have no more than 2 decimal places")
  else .ok value

theorem validateAmount_ok {d : Decimal} :
    validateAmount d = .ok d ↔ d.positive = true ∧ -2 ≤ d.exponent := by
  unfold validateAmount
  by_cases hpositive : d.positive = true
  · by_cases hplaces : d.exponent < -2
    · simp [hpositive, hplaces]
    · simp [hpositive, hplaces, not_lt.mp hplaces]
  · simp [hpositive]

/-- An accepted request has passed the validator. -/
theorem CreateOperationRequest.validateAmount (request : CreateOperationRequest) :
    PaymentService.validateAmount request.amount = .ok request.amount :=
  validateAmount_ok.mpr ⟨request.amount_positive, request.amount_places⟩

/-! ## The column -/

/-- What a `Numeric(12, 2)` column keeps of an amount, in hundredths: a half is rounded up. -/
def Decimal.column (d : Decimal) : Nat :=
  if -2 ≤ d.exponent then d.hundredths
  else
    let unit := 10 ^ (-2 - d.exponent).toNat
    (2 * d.coefficient + unit) / (2 * unit)

/-- What is read back from it. -/
def Decimal.ofColumn (hundredths : Nat) : Decimal := ⟨false, hundredths, -2⟩

section

variable {amount : Decimal} (haccepted : validateAmount amount = .ok amount)

include haccepted

theorem column_eq : amount.column = amount.hundredths :=
  if_pos (validateAmount_ok.mp haccepted).2

/-- No digit of an accepted amount is beyond the hundredths. -/
theorem hundredths_value : (amount.hundredths : ℚ) / 100 = amount.value := by
  obtain ⟨hpositive, hplaces⟩ := validateAmount_ok.mp haccepted
  have hscale : (10 : ℚ) ^ (amount.exponent + 2).toNat = 10 ^ amount.exponent * 100 := by
    calc (10 : ℚ) ^ (amount.exponent + 2).toNat
        = 10 ^ ((amount.exponent + 2).toNat : Int) := (zpow_natCast _ _).symm
      _ = 10 ^ (amount.exponent + 2) := by rw [Int.toNat_of_nonneg (by omega)]
      _ = 10 ^ amount.exponent * 10 ^ (2 : Int) := zpow_add₀ (by norm_num) _ _
      _ = 10 ^ amount.exponent * 100 := by norm_num
  simp only [Decimal.hundredths, Decimal.value, Decimal.negative_of_positive hpositive,
    Nat.cast_mul, Nat.cast_pow, Nat.cast_ofNat, hscale]
  norm_num
  ring

/-- The column takes the amounts below 10 ^ 10. -/
theorem hundredths_lt_iff : amount.hundredths < 10 ^ 12 ↔ amount.value < 10 ^ 10 := by
  rw [← hundredths_value haccepted, div_lt_iff₀ (by norm_num)]
  norm_num

/-- The amount is printed as the column is. -/
theorem format_eq : amount.format = formatAmount amount.column := by
  obtain ⟨hpositive, hplaces⟩ := validateAmount_ok.mp haccepted
  simp [Decimal.format, Decimal.rescaled, Decimal.column, Decimal.negative_of_positive hpositive,
    hplaces]

end

/-- An accepted amount is printed as the column that stores it is. -/
theorem CreateOperationRequest.amount_format (request : CreateOperationRequest) :
    request.amount.format = formatAmount request.amount.hundredths := by
  rw [format_eq request.validateAmount, column_eq request.validateAmount]

/-! ## The string -/

theorem format_ofColumn (hundredths : Nat) :
    (Decimal.ofColumn hundredths).format = formatAmount hundredths := by
  simp [Decimal.format, Decimal.rescaled, Decimal.ofColumn, Decimal.hundredths]

/-- The two digits of the cents. -/
theorem cents_toList {cents : Nat} (h : cents < 100) :
    (if cents < 10 then s!"0{cents}" else s!"{cents}").toList = Numeral.pad 2 cents := by
  unfold Numeral.pad
  by_cases hone : cents < 10
  · rw [if_pos hone, Nat.toDigits_of_lt_base hone]
    simp [Nat.toDigits_of_lt_base hone, show toString "0" = "0" from rfl]
  · have hlength : 1 < (Nat.toDigits 10 cents).length := by
      have := Nat.length_toDigits_le_iff (n := cents) (by decide : 1 < 10) (by decide : 0 < 1)
      omega
    rw [if_neg hone, Nat.sub_eq_zero_of_le hlength]
    simp

/-- `f"{amount:.2f}"` of the column is a numeral with two fraction digits, of the column's value. -/
theorem formatAmount_isFixed (hundredths : Nat) :
    Numeral.IsFixed 2 (formatAmount hundredths) ((hundredths : ℚ) / 100) := by
  have hcents : hundredths % 100 < 100 := Nat.mod_lt _ (by decide)
  have htext : (formatAmount hundredths).toList =
      Nat.toDigits 10 (hundredths / 100) ++ '.' :: Numeral.pad 2 (hundredths % 100) := by
    rw [← cents_toList hcents]
    unfold formatAmount
    simp [show toString "." = "." from rfl]
  have hvalue : ((hundredths : ℚ) / 100) =
      (hundredths / 100 : Nat) + ((hundredths % 100 : Nat) : ℚ) / 10 ^ 2 := by
    have hsplit := congrArg (fun n : Nat => (n : ℚ)) (Nat.div_add_mod hundredths 100)
    push_cast at hsplit
    linarith
  rw [hvalue]
  exact Numeral.isFixed_of_digits (by decide) hcents htext

/-- The string of an accepted amount has its value. -/
theorem format_isFixed {amount : Decimal} (haccepted : validateAmount amount = .ok amount) :
    Numeral.IsFixed 2 amount.format amount.value := by
  rw [format_eq haccepted, column_eq haccepted, ← hundredths_value haccepted]
  exact formatAmount_isFixed amount.hundredths

/-- Accepted amounts have the same string when they have the same value. -/
theorem format_eq_iff {amount other : Decimal} (haccepted : validateAmount amount = .ok amount)
    (hother : validateAmount other = .ok other) :
    other.format = amount.format ↔ other.value = amount.value := by
  constructor
  · intro hformat
    have hread := format_isFixed hother
    rw [hformat] at hread
    exact hread.value_unique (format_isFixed haccepted)
  · intro hvalue
    rw [← hundredths_value hother, ← hundredths_value haccepted] at hvalue
    have hcast : (other.hundredths : ℚ) = amount.hundredths := by linarith
    have hsame : other.hundredths = amount.hundredths := by exact_mod_cast hcast
    rw [format_eq hother, format_eq haccepted, column_eq hother, column_eq haccepted, hsame]

example : Decimal.format ⟨false, 1, 3⟩ = "1000.00" ∧ Decimal.format ⟨false, 1000, 0⟩ = "1000.00" ∧
    Decimal.format ⟨false, 100000, -2⟩ = "1000.00" := by decide

end PaymentService
