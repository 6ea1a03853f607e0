/-
The rational numbers that patterns and numerals stand for.

A finite double-precision number is its significand, scaled by a power of two; a numeral is its
digits, scaled by a power of ten.  Neither the units of `2 ^ -1074`, in which the program
calculates, nor its quotients appear in the two definitions.

* `Binary64.toRat_eq`: a finite number is so many units, with its sign;
* `Numeral.toRat_eq`: a numeral is its numerator over its denominator.
-/
import Mathlib.Algebra.Order.Field.Rat
import Reckon.Proofs.Hundredths

namespace Reckon

/-! ### Double-precision numbers -/

namespace Binary64

/-- The eleven bits of the exponent. -/
def exponentField (x : Binary64) : Nat := x.magnitude / leadingOne

/-- The fifty-two bits of the fraction. -/
def fraction (x : Binary64) : Nat := x.magnitude % leadingOne

/-- The fraction with the one in front of it, which numbers of the least exponent do not have. -/
def significand (x : Binary64) : Nat :=
  if x.exponentField = 0 then x.fraction else leadingOne + x.fraction

/-- The number that a finite pattern stands for: sign, significand and exponent. -/
def toRat (x : Binary64) : ℚ :=
  (if x.isNegative then -1 else 1) * x.significand *
    2 ^ (((max x.exponentField 1 : ℕ) : ℤ) - 1075)

/-- What a magnitude stands for. -/
def magnitudeRat (m : Nat) : ℚ := unitsOfMagnitude m / unitsPerOne

theorem cast_unitsPerOne_pos : (0 : ℚ) < unitsPerOne := Nat.cast_pos.2 unitsPerOne_pos

theorem cast_two_pow (k : Nat) : ((Nat.pow 2 k : ℕ) : ℚ) = 2 ^ k := Nat.cast_pow 2 k

theorem cast_unitsPerOne : (unitsPerOne : ℚ) = 2 ^ 1074 := by
  unfold unitsPerOne
  generalize 1074 = k
  exact cast_two_pow k

theorem magnitudeRat_strictMono : StrictMono magnitudeRat := by
  intro m n h
  exact div_lt_div_of_pos_right (Nat.cast_lt.2 (units_strictMono h)) cast_unitsPerOne_pos

theorem magnitudeRat_zero : magnitudeRat 0 = 0 := by
  have hunits : unitsOfMagnitude 0 = 0 := by decide
  rw [magnitudeRat, hunits, Nat.cast_zero, zero_div]

theorem magnitudeRat_nonneg (m : Nat) : 0 ≤ magnitudeRat m :=
  div_nonneg (Nat.cast_nonneg _) cast_unitsPerOne_pos.le

/-- The units of a number are its significand, doubled with each step of the exponent. -/
theorem units_eq (x : Binary64) :
    x.units = x.significand * Nat.pow 2 (max x.exponentField 1 - 1) := by
  have hpos : 0 < leadingOne := by decide
  rw [units, unitsOfMagnitude, significand, exponentField, fraction]
  by_cases hsmall : x.magnitude < leadingOne
  · rw [if_pos hsmall, Nat.div_eq_of_lt hsmall, if_pos rfl, Nat.mod_eq_of_lt hsmall]
    exact (Nat.mul_one _).symm
  · have hexponent : 1 ≤ x.magnitude / leadingOne :=
      (Nat.one_le_div_iff hpos).2 (Nat.le_of_not_lt hsmall)
    rw [if_neg hsmall, if_neg (Nat.ne_of_gt hexponent), Nat.max_eq_left hexponent]

theorem toRat_eq (x : Binary64) :
    x.toRat = if x.isNegative then -magnitudeRat x.magnitude else magnitudeRat x.magnitude := by
  have hexponent : (((max x.exponentField 1 : ℕ) : ℤ) - 1075) =
      ((max x.exponentField 1 - 1 : ℕ) : ℤ) - (1074 : ℕ) := by omega
  have hunits : magnitudeRat x.magnitude =
      x.significand * 2 ^ (((max x.exponentField 1 : ℕ) : ℤ) - 1075) := by
    have hcast : (x.units : ℚ) = x.significand * 2 ^ (max x.exponentField 1 - 1) := by
      rw [units_eq, Nat.cast_mul, cast_two_pow]
    rw [hexponent, zpow_sub₀ two_ne_zero, zpow_natCast, zpow_natCast, ← cast_unitsPerOne,
      mul_div_assoc', ← hcast]
    rfl
  rw [toRat, hunits]
  split
  · rw [neg_one_mul, neg_mul]
  · rw [one_mul]

end Binary64

/-! ### Numerals -/

namespace Numeral

/-- The number that a numeral stands for: what is before the point, and so many parts of a power of
ten behind it. -/
def toRat (n : Numeral) : ℚ :=
  Nat.ofDigitChars 10 n.whole 0 + Nat.ofDigitChars 10 n.places 0 / 10 ^ n.places.length

theorem toRat_eq (n : Numeral) : n.toRat = n.numerator / n.denominator := by
  have hpos : (0 : ℚ) < 10 ^ n.places.length := by positivity
  have hdenominator : (n.denominator : ℚ) = 10 ^ n.places.length := Nat.cast_pow 10 _
  have hnumerator : (n.numerator : ℚ) =
      10 ^ n.places.length * Nat.ofDigitChars 10 n.whole 0 + Nat.ofDigitChars 10 n.places 0 := by
    rw [numerator, Nat.ofDigitChars_append, Nat.ofDigitChars_eq_ofDigitChars_zero]
    push_cast
    rfl
  rw [toRat, hdenominator, hnumerator, add_div, mul_div_cancel_left₀ _ hpos.ne']

end Numeral

end Reckon
