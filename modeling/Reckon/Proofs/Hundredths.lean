/-
Results written and read again.

A result is written as the number of hundredths nearest to it.  Read again, that decimal is in
general another number than the result, but its hundredths are the same: it is no farther from
the decimal than the result is, and where both are just half a hundredth off, the decimal is the
even one for both.

* `Decimal.toBinary64?_toNumeral`: writing a decimal out in full does not change it;
* `Binary64.hundredths_nearestMagnitude`: the hundredths of a finite number are in range, and the
  number nearest to them has the same hundredths.
-/
import Reckon.Proofs.Nearest

namespace Reckon

/-! ### Decimals written out -/

namespace Decimal

theorem length_toDigits_mod_pow (c k : Nat) :
    (Nat.toDigits 10 (c % Nat.pow 10 (k + 1))).length ≤ k + 1 :=
  (Nat.length_toDigits_le_iff (by decide) (Nat.succ_pos k)).2
    (Nat.mod_lt _ (Nat.pow_pos (by decide)))

theorem length_places_toNumeral (d : Decimal) :
    d.toNumeral.places.length = (-d.exponent).toNat := by
  obtain ⟨c, zeros | k⟩ := d
  · show 0 = (-(zeros : Int)).toNat
    omega
  · have hle := length_toDigits_mod_pow c k
    show ((Nat.toDigits 10 (c % Nat.pow 10 (k + 1))).leftpad (k + 1) '0').length =
      (-Int.negSucc k).toNat
    rw [List.length_leftpad, Int.neg_negSucc]
    exact Nat.max_eq_left hle

theorem numerator_toNumeral (d : Decimal) : d.toNumeral.numerator = d.numerator := by
  obtain ⟨c, zeros | k⟩ := d
  · show Nat.ofDigitChars 10 (Nat.toDigits 10 (c * Nat.pow 10 zeros) ++ []) 0 =
      c * Nat.pow 10 (zeros : Int).toNat
    rw [List.append_nil, Nat.ofDigitChars_ten_toDigits, Int.toNat_natCast]
  · -- The digits behind the point count as many as the exponent says, leading zeros included.
    have hlength := length_places_toNumeral ⟨c, .negSucc k⟩
    rw [Int.neg_negSucc] at hlength
    show Nat.ofDigitChars 10 (Nat.toDigits 10 (c / Nat.pow 10 (k + 1)) ++
      (toNumeral ⟨c, .negSucc k⟩).places) 0 = c * 1
    rw [Nat.ofDigitChars_append, Nat.ofDigitChars_ten_toDigits,
      Nat.ofDigitChars_eq_ofDigitChars_zero, hlength]
    show Nat.pow 10 (k + 1) * (c / Nat.pow 10 (k + 1)) +
      Nat.ofDigitChars 10 (List.replicate _ '0' ++ Nat.toDigits 10 (c % Nat.pow 10 (k + 1))) 0 =
        c * 1
    rw [Nat.ofDigitChars_append, Nat.ofDigitChars_replicate_zero, Nat.mul_zero,
      Nat.ofDigitChars_ten_toDigits, Nat.div_add_mod, Nat.mul_one]

/-- Writing a decimal out does not change its value. -/
theorem toBinary64?_toNumeral (d : Decimal) : d.toNumeral.toBinary64? = d.toBinary64? := by
  rw [Numeral.toBinary64?, toBinary64?, numerator_toNumeral, Numeral.denominator,
    length_places_toNumeral, denominator]

theorem wellFormed_toNumeral (d : Decimal) : d.toNumeral.WellFormed := by
  have hdigits : ∀ n, ∀ c ∈ Nat.toDigits 10 n, c.isDigit = true := fun n c hc =>
    Nat.isDigit_of_mem_toDigits (by decide) (by decide) hc
  obtain ⟨c, zeros | k⟩ := d
  · refine ⟨fun c hc => hdigits _ c (by simpa [toNumeral, Numeral.places] using hc), ?_⟩
    simp [toNumeral, Nat.toDigits_ne_nil]
  · refine ⟨fun c hc => ?_, by simp [toNumeral, Nat.toDigits_ne_nil]⟩
    rcases List.mem_append.1 hc with hc | hc
    · exact hdigits _ c hc
    · rcases List.mem_append.1 hc with hc | hc
      · rw [List.eq_of_mem_replicate hc]
        rfl
      · exact hdigits _ c hc

/-! ### Hundredths -/

/-- Leaving out zeros at the end does not change the value either. -/
theorem ratio_ofHundredths (n : Nat) :
    (ofHundredths n).numerator * 100 = n * (ofHundredths n).denominator := by
  unfold ofHundredths numerator denominator
  split
  · show n / 100 * 1 * 100 = n * 1
    omega
  · split
    · show n / 10 * 1 * 100 = n * 10
      omega
    · show n * 1 * 100 = n * 100
      omega

theorem toBinary64?_ofHundredths (n : Nat) :
    (ofHundredths n).toBinary64? = Binary64.ofRatio? n 100 := by
  have hden : 0 < (ofHundredths n).denominator := Nat.pow_pos (by decide)
  rw [toBinary64?, Binary64.ofRatio?, Binary64.ofRatio?,
    Binary64.nearestMagnitude_eq_of_ratio hden (by decide) (ratio_ofHundredths n)]

theorem whole_toNumeral_ofHundredths (n : Nat) :
    (ofHundredths n).toNumeral.whole = Nat.toDigits 10 (n / 100) := by
  unfold ofHundredths
  split
  · show Nat.toDigits 10 (n / 100 * 1) = _
    rw [Nat.mul_one]
  · split
    · show Nat.toDigits 10 (n / 10 / 10) = _
      rw [Nat.div_div_eq_div_mul]
    · rfl

theorem length_places_toNumeral_ofHundredths (n : Nat) :
    (ofHundredths n).toNumeral.places.length ≤ 2 := by
  have hexponent : -2 ≤ (ofHundredths n).exponent := by
    unfold ofHundredths
    split
    · exact (by decide : (-2 : Int) ≤ 0)
    · split
      · exact (by decide : (-2 : Int) ≤ -1)
      · exact Int.le_refl _
  rw [length_places_toNumeral]
  omega

end Decimal

theorem Numeral.length_text_le (n : Numeral) :
    n.text.length ≤ n.whole.length + n.places.length + 1 := by
  obtain ⟨whole, fraction⟩ := n
  cases fraction with
  | none => exact Nat.le_succ whole.length
  | some digits =>
    simp only [text, places, Option.getD_some, List.length_append, List.length_cons]
    omega

/-- The text of so many hundredths is as long as their number, and a little longer. -/
theorem Decimal.length_text_ofHundredths_le {n k : Nat} (hk : 0 < k) (h : n < 10 ^ k) :
    (ofHundredths n).toNumeral.text.length ≤ k + 3 := by
  have hwhole : (Nat.toDigits 10 (n / 100)).length ≤ k :=
    (Nat.length_toDigits_le_iff (by decide) hk).2 (Nat.lt_of_le_of_lt (Nat.div_le_self _ _) h)
  have hplaces := length_places_toNumeral_ofHundredths n
  have hle := (ofHundredths n).toNumeral.length_text_le
  rw [whole_toNumeral_ofHundredths] at hle
  omega

namespace Binary64

theorem gapTo_swap (a b k n : Nat) : gapTo (a * k) b n = gapTo (n * b) a k := by
  rw [gapTo, gapTo, Nat.mul_comm k a, Nat.add_comm]

/-- Below the least number of an exponent there is a gap. -/
theorem units_add_le {x : Binary64} {e : Nat} (h : x.magnitude < (e + 1 + 1) * leadingOne) :
    x.units + Nat.pow 2 e ≤ unitsOfMagnitude ((e + 1 + 1) * leadingOne) := by
  have hle : x.magnitude ≤ (e + 1) * leadingOne + (leadingOne - 1) := by
    rw [Nat.add_one_mul (e + 1)] at h
    omega
  rw [← unitsOfMagnitude_step]
  exact Nat.add_le_add_right (units_mono hle) _

/-- The infinities have the exponent after the largest one, at which the gap is far larger than
one. -/
theorem exists_exponent_infinity :
    ∃ e, infinityMagnitude = (e + 1 + 1) * leadingOne ∧ e ≤ 2045 ∧ unitsPerOne ≤ Nat.pow 2 e := by
  refine ⟨2045, by decide, Nat.le_refl _, ?_⟩
  generalize hexponent : 2045 = e
  unfold unitsPerOne
  generalize hplaces : 1074 = k
  exact pow_mono (by omega)

/-- The hundredths of finite numbers have a bounded number of digits. -/
theorem exists_hundredths_lt :
    ∃ k, 0 < k ∧ k ≤ 3000 ∧ ∀ x : Binary64, x.isFinite = true → x.hundredths < 10 ^ k := by
  obtain ⟨e, hinfinity, he, -⟩ := exists_exponent_infinity
  refine ⟨60 + e, by omega, by omega, fun x hx => ?_⟩
  have hunits := units_add_le (hinfinity ▸ of_decide_eq_true hx)
  have hpow : 0 < Nat.pow 2 e := Nat.pow_pos (by decide)
  rw [unitsOfMagnitude_least] at hunits
  have hle : x.hundredths ≤ 100 * x.units + 1 := by
    -- Crude, but all that is needed is some bound.
    have hquotient := Nat.div_le_self (100 * x.units) unitsPerOne
    rcases roundHalfEven_eq_or (100 * x.units) unitsPerOne with ⟨h, -⟩ | ⟨h, -⟩ <;>
      rw [hundredths, h] <;> omega
  have hdouble : Nat.pow 2 (e + 1) = Nat.pow 2 e * 2 := rfl
  calc x.hundredths ≤ 100 * x.units + 1 := hle
    _ ≤ 2 ^ 60 * Nat.pow 2 e := by
      rw [hdouble] at hunits
      unfold leadingOne at hunits
      omega
    _ = 2 ^ (60 + e) := (Nat.pow_add 2 60 e).symm
    _ < 10 ^ (60 + e) := Nat.pow_lt_pow_left (by decide) (by omega)

/-- **Hundredths are read back.**  The number nearest to the hundredths of a finite number is finite
and has the same hundredths. -/
theorem hundredths_nearestMagnitude {x : Binary64} (h : x.isFinite = true) :
    nearestMagnitude x.hundredths 100 < infinityMagnitude ∧
      roundHalfEven (100 * unitsOfMagnitude (nearestMagnitude x.hundredths 100)) unitsPerOne =
        x.hundredths := by
  have hone := unitsPerOne_pos
  have hround : IsRounded (100 * x.units) unitsPerOne x.hundredths :=
    isRounded_roundHalfEven _ hone
  have hnearest := nearestMagnitude_nearest x.hundredths (show 0 < 100 by decide) x.magnitude
  rw [IsRounded, gapTo_swap, units] at hround
  refine ⟨?_, (roundHalfEven_eq_iff hone).2 ?_⟩
  · by_contra hlarge
    -- A number beyond the finite ones is farther off than `x` is.
    obtain ⟨e, hinfinity, -, hgap⟩ := exists_exponent_infinity
    have hfinite := units_add_le (hinfinity ▸ of_decide_eq_true h)
    have hinfinite := units_mono (hinfinity ▸ Nat.le_of_not_lt hlarge)
    unfold gapTo at hround hnearest
    rw [units] at hfinite
    omega
  · -- The number found is no farther off than `x`, and where both are half a hundredth off, the
    -- number of hundredths is even on account of `x`.
    rw [IsRounded, gapTo_swap]
    omega

end Binary64

end Reckon
