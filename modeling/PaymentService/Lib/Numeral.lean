import Mathlib.Data.Rat.Cast.Order
import Mathlib.Algebra.Order.Field.Rat

/-!
# Fixed-point decimal numerals

Digits, a point, and a given number of digits after it: no sign, no exponent, no blanks.

* `IsFixed places text value` — the text is such a numeral and has this value.
* `IsFixed.value_unique` — a text has one value, so numerals of different values differ.
* `pad`, `isFixed_of_digits` — the digits of a whole number, a point, and those of a fraction
  filled up with zeros on the left are one.
-/

namespace Numeral

/-- A plain numeral with exactly `places` digits after the point. -/
def IsFixed (places : Nat) (text : String) (value : ℚ) : Prop :=
  ∃ whole fraction : List Char, text.toList = whole ++ '.' :: fraction ∧
    (whole ≠ [] ∧ ∀ c ∈ whole, c.isDigit) ∧
    (fraction.length = places ∧ ∀ c ∈ fraction, c.isDigit) ∧
    value = Nat.ofDigitChars 10 whole 0 + (Nat.ofDigitChars 10 fraction 0 : ℚ) / 10 ^ places

theorem IsFixed.value_unique {places : Nat} {text : String} {v w : ℚ}
    (hv : IsFixed places text v) (hw : IsFixed places text w) : v = w := by
  obtain ⟨whole, fraction, htext, -, ⟨hlength, -⟩, rfl⟩ := hv
  obtain ⟨whole', fraction', htext', -, ⟨hlength', -⟩, rfl⟩ := hw
  -- the point is where the last `places` digits begin
  have htail : ('.' :: fraction).length = ('.' :: fraction').length := by
    rw [List.length_cons, List.length_cons, hlength, hlength']
  obtain ⟨rfl, hpoint⟩ := List.append_inj' (htext.symm.trans htext') htail
  cases hpoint
  rfl

/-! ## Writing one -/

/-- The digits of a number, with zeros in front up to this length. -/
def pad (places n : Nat) : List Char :=
  List.replicate (places - (Nat.toDigits 10 n).length) '0' ++ Nat.toDigits 10 n

theorem length_pad {places n : Nat} (hplaces : 0 < places) (h : n < 10 ^ places) :
    (pad places n).length = places := by
  have hle := (Nat.length_toDigits_le_iff (by decide : 1 < 10) hplaces).mpr h
  rw [pad, List.length_append, List.length_replicate]
  omega

theorem isDigit_of_mem_pad {places n : Nat} {c : Char} (h : c ∈ pad places n) : c.isDigit := by
  rcases List.mem_append.mp h with hzero | hdigit
  · rw [List.eq_of_mem_replicate hzero]
    rfl
  · exact Nat.isDigit_of_mem_toDigits (by decide) (by decide) hdigit

theorem ofDigitChars_pad (places n : Nat) : Nat.ofDigitChars 10 (pad places n) 0 = n := by
  rw [pad, Nat.ofDigitChars_append, Nat.ofDigitChars_replicate_zero, Nat.mul_zero,
    Nat.ofDigitChars_ten_toDigits]

/-- A whole number, a point, and a fraction with its leading zeros. -/
theorem isFixed_of_digits {places whole fraction : Nat} {text : String} (hplaces : 0 < places)
    (hfraction : fraction < 10 ^ places)
    (htext : text.toList = Nat.toDigits 10 whole ++ '.' :: pad places fraction) :
    IsFixed places text (whole + (fraction : ℚ) / 10 ^ places) := by
  refine ⟨_, _, htext, ⟨Nat.toDigits_ne_nil, ?_⟩, ⟨length_pad hplaces hfraction, ?_⟩, ?_⟩
  · intro c hc
    exact Nat.isDigit_of_mem_toDigits (by decide) (by decide) hc
  · intro c hc
    exact isDigit_of_mem_pad hc
  · rw [Nat.ofDigitChars_ten_toDigits, ofDigitChars_pad]

end Numeral
