/-
Results are rounded exactly.

The text of a finite result writes the whole number of hundredths that is nearest to it, of two the
even one, and nothing is lost on the way: not for the least numbers, which are all zero, and not for
the largest ones, whose digits are all written.

* `isNearestInt_signedHundredths`: the program rounds to the nearest hundredth;
* `toList_resultText`: it writes so many hundredths, with a sign if they are negative;
* `decimalRat_hundredthsText`: read as a decimal, that is the number of hundredths it was written
  for.
-/
import Reckon.Proofs.NearestEven
import Reckon.Proofs.Rationals
import Reckon.Proofs.ResultText

namespace Reckon

/-- So many hundredths, written out: a sign if they are negative, the whole part, and as many places
as are needed. -/
def hundredthsText (n : ℤ) : List Char :=
  (if n < 0 then ['-'] else []) ++
    (Nat.toDigits 10 (n.natAbs / 100) ++ Decimal.placesText n.natAbs)

/-- The number that a decimal with or without a sign stands for. -/
def decimalRat : List Char → ℚ
  | '-' :: cs => -(Numeral.split cs).1.toRat
  | cs => (Numeral.split cs).1.toRat

/-! ### Rounding -/

namespace Binary64

/-- The nearest number of hundredths, with the sign. -/
def signedHundredths (x : Binary64) : ℤ :=
  if x.isNegative then -x.hundredths else x.hundredths

theorem isNearestInt_hundredths (x : Binary64) :
    IsNearestInt (100 * magnitudeRat x.magnitude) x.hundredths := by
  have hround : IsRounded (100 * x.units) unitsPerOne x.hundredths :=
    isRounded_roundHalfEven _ unitsPerOne_pos
  have hnearest := isNearestInt_of_isRounded unitsPerOne_pos hround
  rw [Nat.cast_mul, mul_div_assoc] at hnearest
  exact hnearest

theorem isNearestInt_signedHundredths (x : Binary64) :
    IsNearestInt (100 * x.toRat) x.signedHundredths := by
  have hnearest := x.isNearestInt_hundredths
  rw [toRat_eq, signedHundredths]
  split
  · rw [mul_neg]
    exact hnearest.neg
  · exact hnearest

end Binary64

/-! ### Writing -/

theorem toRat_hundredthsNumeral (n : Nat) : (hundredthsNumeral n).toRat = n / 100 := by
  have hratio : ((Decimal.ofHundredths n).numerator : ℚ) * 100 =
      n * (Decimal.ofHundredths n).denominator := by
    exact_mod_cast Decimal.ratio_ofHundredths n
  have hpos : (0 : ℚ) < (Decimal.ofHundredths n).denominator := by
    have hden : 0 < (Decimal.ofHundredths n).denominator := Nat.pow_pos (by decide)
    exact Nat.cast_pos.2 hden
  have hdenominator : (hundredthsNumeral n).denominator = (Decimal.ofHundredths n).denominator := by
    rw [Numeral.denominator, hundredthsNumeral, Decimal.length_places_toNumeral,
      Decimal.denominator]
  rw [Numeral.toRat_eq, hdenominator, hundredthsNumeral, Decimal.numerator_toNumeral,
    div_eq_div_iff hpos.ne' (by norm_num), hratio]

theorem hundredthsText_of_nonneg (n : Nat) : hundredthsText n = (hundredthsNumeral n).text := by
  rw [hundredthsText, if_neg (by omega), Int.natAbs_natCast, hundredthsNumeral,
    Decimal.text_ofHundredths]
  rfl

theorem hundredthsText_neg {n : Nat} (h : n ≠ 0) :
    hundredthsText (-n) = '-' :: (hundredthsNumeral n).text := by
  rw [hundredthsText, if_pos (by omega), Int.natAbs_neg, Int.natAbs_natCast, hundredthsNumeral,
    Decimal.text_ofHundredths]
  rfl

theorem decimalRat_of_isDigit {d : Char} {ds : List Char} (hd : d.isDigit = true) :
    decimalRat (d :: ds) = (Numeral.split (d :: ds)).1.toRat := by
  unfold decimalRat
  split
  · rename_i heq
    obtain rfl := (List.cons.inj heq).1
    exact absurd hd (by decide)
  · rfl

/-- Read as a decimal, the text of so many hundredths is the number of them. -/
theorem decimalRat_hundredthsText (n : ℤ) : decimalRat (hundredthsText n) = n / 100 := by
  have hread (k : Nat) : (Numeral.split (hundredthsNumeral k).text).1.toRat = k / 100 := by
    have hsplit : Numeral.split ((hundredthsNumeral k).text ++ []) = (hundredthsNumeral k, []) :=
      Numeral.split_text_append (Decimal.wellFormed_toNumeral _) rfl
    rw [List.append_nil] at hsplit
    rw [hsplit]
    exact toRat_hundredthsNumeral k
  obtain ⟨k, rfl | ⟨hk, rfl⟩⟩ : ∃ k : Nat, n = k ∨ k ≠ 0 ∧ n = -k := ⟨n.natAbs, by omega⟩
  · -- The text begins with a digit.
    obtain ⟨d, ds, hdigits, hd⟩ := (isWholeText_toDigits (k / 100)).exists_head
    have htext : (hundredthsNumeral k).text = d :: (ds ++ Decimal.placesText k) := by
      rw [hundredthsNumeral, Decimal.text_ofHundredths, hdigits, List.cons_append]
    rw [hundredthsText_of_nonneg, Int.cast_natCast, ← hread, htext, decimalRat_of_isDigit hd]
  · rw [hundredthsText_neg hk, decimalRat, hread, Int.cast_neg, Int.cast_natCast, neg_div]

/-- The text of a finite result is that of its hundredths. -/
theorem toList_resultText {x : Binary64} (h : x.isFinite = true) :
    (resultText x).toList = hundredthsText x.signedHundredths := by
  rw [resultText_of_isFinite h, Binary64.signedHundredths]
  by_cases hminus : (x.isNegative && x.hundredths != 0) = true
  · obtain ⟨hnegative, hne⟩ := Bool.and_eq_true_iff.1 hminus
    rw [if_pos hminus, if_pos hnegative, String.toList_ofList,
      hundredthsText_neg (bne_iff_ne.1 hne)]
  · -- Without a sign, or zero.
    have hsigned : (if x.isNegative then -(x.hundredths : ℤ) else x.hundredths) = x.hundredths := by
      split
      · rename_i hnegative
        have hzero : x.hundredths = 0 := by simpa [hnegative] using hminus
        rw [hzero]
        rfl
      · rfl
    rw [if_neg hminus, hsigned, String.toList_ofList, hundredthsText_of_nonneg]

/-- **Results are rounded exactly.**  The text of a finite result is that of the whole number of
hundredths nearest to its exact value, of two the even one: a sign if that is negative, its whole
part without zeros in front, and no more places than it needs.  It stands for that number exactly,
so the text of a larger result never stands for a smaller number.  What is not finite has a name. -/
theorem resultText_exact :
    (∀ x : Binary64, x.isFinite = true → (∃! n, IsNearestInt (100 * x.toRat) n) ∧
      ∀ n, IsNearestInt (100 * x.toRat) n →
        (resultText x).toList = hundredthsText n ∧
        decimalRat (resultText x).toList = n / 100 ∧
        IsResultText (resultText x).toList) ∧
    (∀ x : Binary64, x.isNaN = true → resultText x = "NaN") ∧
    (∀ x : Binary64, x.isFinite = false → x.isNaN = false →
      resultText x = if x.isNegative then "-inf" else "inf") ∧
    ∀ x y : Binary64, x.isFinite = true → y.isFinite = true → x.toRat ≤ y.toRat →
      decimalRat (resultText x).toList ≤ decimalRat (resultText y).toList := by
  have hdecimal {x : Binary64} (hx : x.isFinite = true) :
      decimalRat (resultText x).toList = x.signedHundredths / 100 := by
    rw [toList_resultText hx, decimalRat_hundredthsText]
  refine ⟨fun x hx => ⟨⟨_, x.isNearestInt_signedHundredths, fun n hn => ?_⟩, fun n hn => ?_⟩,
    fun x hnan => ?_, fun x hx hnan => ?_, fun x y hx hy hle => ?_⟩
  · exact hn.unique x.isNearestInt_signedHundredths
  · obtain rfl := hn.unique x.isNearestInt_signedHundredths
    exact ⟨toList_resultText hx, hdecimal hx, isResultText_resultText hx⟩
  · rw [resultText, if_pos hnan]
  · simp [resultText, hx, hnan]
  · have hhundredths : x.signedHundredths ≤ y.signedHundredths :=
      x.isNearestInt_signedHundredths.mono (mul_le_mul_of_nonneg_left hle (by norm_num))
        y.isNearestInt_signedHundredths
    rw [hdecimal hx, hdecimal hy]
    exact div_le_div_of_nonneg_right (Int.cast_le.2 hhundredths) (by norm_num)

/-- An eighth below zero is half way between twelve and thirteen hundredths, of which twelve is
even. -/
theorem resultText_exact_tie :
    (⟨0xBFC0000000000000⟩ : Binary64).toRat = -1 / 8 ∧ IsNearestInt (100 * (-1 / 8)) (-12) ∧
    resultText ⟨0xBFC0000000000000⟩ = "-0.12" ∧
    decimalRat (resultText ⟨0xBFC0000000000000⟩).toList = (-12 : ℤ) / 100 ∧
    resultText ⟨0x7FF8000000000000⟩ = "NaN" ∧ resultText ⟨0xFFF0000000000000⟩ = "-inf" ∧
    decimalRat (resultText ⟨0xBFC0000000000000⟩).toList ≤ decimalRat (resultText ⟨1⟩).toList := by
  have hvalue : (⟨0xBFC0000000000000⟩ : Binary64).toRat = -1 / 8 := by
    have hnegative : (⟨0xBFC0000000000000⟩ : Binary64).isNegative = true := by decide
    have hexponent : (⟨0xBFC0000000000000⟩ : Binary64).exponentField = 1020 := by decide
    have hsignificand : (⟨0xBFC0000000000000⟩ : Binary64).significand = 2 ^ 52 := by decide
    rw [Binary64.toRat, hnegative, hexponent, hsignificand]
    norm_num
  have hleast : 0 ≤ (⟨1⟩ : Binary64).toRat := by
    have hpositive : (⟨1⟩ : Binary64).isNegative = false := by decide
    rw [Binary64.toRat_eq, hpositive]
    exact Binary64.magnitudeRat_nonneg _
  have hnearest : IsNearestInt (100 * (-1 / 8)) (-12) :=
    isNearestInt_of_half (.inr ⟨by norm_num, by decide⟩)
  obtain ⟨hfinite, hnan, hinfinite, hmono⟩ := resultText_exact
  obtain ⟨-, htext⟩ := hfinite ⟨0xBFC0000000000000⟩ (by decide)
  obtain ⟨htext, hdecimal, -⟩ := htext (-12) (hvalue ▸ hnearest)
  refine ⟨hvalue, hnearest, ?_, hdecimal, hnan _ (by decide), hinfinite _ (by decide) (by decide),
    hmono _ _ (by decide) (by decide) ?_⟩
  · exact String.toList_injective (htext.trans (by decide))
  · rw [hvalue]
    linarith

end Reckon
