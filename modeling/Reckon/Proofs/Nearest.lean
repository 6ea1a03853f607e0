/-
The number nearest to a quotient is nearest.

Of all magnitudes, those beyond the largest finite number included, `nearestMagnitude num den`
stands for a number that is nearest to `num / den`.  The numbers with the same exponent are the
multiples of a power of two, and rounding finds the nearest of these; the numbers with smaller
exponents all lie below, farther away than the least of them.

* `roundHalfEven_nearest`, `roundHalfEven_eq_iff`: no whole number is nearer to a quotient than the
  rounded one, which is known by that and by being even where there are two;
* `pow_dvd_or_lt`: a number is on the grid of an exponent or below all numbers with it;
* `nearestMagnitude_nearest`, `nearestMagnitude_even_of_tie`: no number is nearer to a quotient than
  the one found, which is even where another is just as near;
* `nearestMagnitude_mul_left`, `nearestMagnitude_mono`: the number found depends on the quotient
  alone, and does not get smaller when the quotient gets larger;
* `isFinite_of_ofRatio?`, `isNegative_of_ofRatio?`, `magnitude_neg`, `isNegative_neg`: its sign, and
  that of its opposite.
-/
import Mathlib.Tactic.Linarith
import Mathlib.Tactic.Ring
import Reckon.Decimal.Hundredths

namespace Reckon

/-! ### Rounding to whole numbers -/

section
variable {num den : Nat}

/-- How far `num / den` is from a whole number, in parts of `1 / den`. -/
def gapTo (num den k : Nat) : Nat := (num - k * den) + (k * den - num)

theorem gapTo_mul (num den k p : Nat) : gapTo num den (k * p) = gapTo num (den * p) k := by
  rw [gapTo, gapTo, Nat.mul_assoc, Nat.mul_comm p]

theorem roundHalfEven_nearest (num : Nat) (h : 0 < den) (k : Nat) :
    gapTo num den (roundHalfEven num den) ≤ gapTo num den k := by
  have hupper := roundHalfEven_mul_le num den
  have hlower : 2 * num ≤ 2 * (roundHalfEven num den * den) + den := le_roundHalfEven_mul h
  unfold gapTo
  -- Another whole number is off by one at least, and the rounded one by a half at most.
  rcases Nat.lt_trichotomy k (roundHalfEven num den) with hk | rfl | hk
  · have hstep := Nat.mul_le_mul_right den hk
    rw [Nat.succ_mul] at hstep
    omega
  · exact Nat.le_refl _
  · have hstep := Nat.mul_le_mul_right den hk
    rw [Nat.succ_mul] at hstep
    omega

/-- A whole number within half a unit of the quotient, and even if it is just half a unit off. -/
def IsRounded (num den k : Nat) : Prop :=
  2 * gapTo num den k < den ∨ 2 * gapTo num den k = den ∧ k % 2 = 0

theorem isRounded_roundHalfEven (num : Nat) (h : 0 < den) :
    IsRounded num den (roundHalfEven num den) := by
  have hdiv := Nat.div_add_mod' num den
  have hmod := Nat.mod_lt num h
  unfold IsRounded
  -- The gap is what the division leaves, or what is missing from it to the next whole number.
  by_cases htie : 2 * (num % den) = den
  · refine .inr ⟨?_, roundHalfEven_even_of_tie htie⟩
    rcases roundHalfEven_eq_or num den with ⟨heq, -⟩ | ⟨heq, -⟩ <;> rw [heq, gapTo]
    · omega
    · rw [Nat.add_one_mul (num / den)]
      omega
  · refine .inl ?_
    rcases roundHalfEven_eq_or num den with ⟨heq, hle⟩ | ⟨heq, hle⟩ <;> rw [heq, gapTo]
    · omega
    · rw [Nat.add_one_mul (num / den)]
      omega

/-- Two such numbers would be neighbours, and two neighbours are not both even. -/
theorem IsRounded.not_lt {num k r : Nat} (h : 0 < den) (hk : IsRounded num den k)
    (hr : IsRounded num den r) : ¬k < r := by
  intro hlt
  unfold IsRounded gapTo at hk hr
  have hstep := Nat.mul_le_mul_right den hlt
  rw [Nat.succ_mul] at hstep
  by_cases hnext : r = k + 1
  · omega
  · have hskip := Nat.mul_le_mul_right den (show k + 2 ≤ r by omega)
    rw [Nat.add_mul] at hskip
    omega

theorem roundHalfEven_eq_iff {num k : Nat} (h : 0 < den) :
    roundHalfEven num den = k ↔ IsRounded num den k := by
  have hround := isRounded_roundHalfEven num h
  constructor
  · rintro rfl
    exact hround
  · intro hk
    have hle := Nat.le_of_not_lt (hk.not_lt h hround)
    have hge := Nat.le_of_not_lt (hround.not_lt h hk)
    exact Nat.le_antisymm hle hge

/-- Where another whole number is just as near, the rounded one is even. -/
theorem roundHalfEven_even_of_gapTo_eq {k : Nat} (h : 0 < den) (hne : k ≠ roundHalfEven num den)
    (htie : gapTo num den k = gapTo num den (roundHalfEven num den)) :
    roundHalfEven num den % 2 = 0 := by
  rcases isRounded_roundHalfEven num h with hlt | ⟨-, heven⟩
  · have hk : IsRounded num den k := .inl (htie ▸ hlt)
    exact absurd ((roundHalfEven_eq_iff h).2 hk).symm hne
  · exact heven

theorem roundHalfEven_mul_left {k : Nat} (hk : 0 < k) :
    roundHalfEven (k * num) (k * den) = roundHalfEven num den := by
  have hcompare : ∀ a b : Nat, k * a < k * b ↔ a < b := fun a b => Nat.mul_lt_mul_left hk
  simp only [roundHalfEven, Nat.mul_mod_mul_left, Nat.mul_div_mul_left _ _ hk,
    Nat.mul_left_comm 2 k, hcompare]

end

namespace Binary64

/-! ### Magnitudes and exponents -/

theorem unitsPerOne_pos : 0 < unitsPerOne := by
  unfold unitsPerOne
  generalize 1074 = k
  exact Nat.pow_pos (by decide)

theorem pow_mono {j k : Nat} (h : j ≤ k) : Nat.pow 2 j ≤ Nat.pow 2 k :=
  Nat.pow_le_pow_right (by decide) h

theorem units_mono {m n : Nat} (h : m ≤ n) : unitsOfMagnitude m ≤ unitsOfMagnitude n := by
  rcases Nat.lt_or_eq_of_le h with h | rfl
  · exact (units_strictMono h).le
  · exact Nat.le_refl _

/-- The number with a leading one and the fraction `f`, `e` exponents above the least. -/
theorem unitsOfMagnitude_normal (e : Nat) {f : Nat} (hf : f < leadingOne) :
    unitsOfMagnitude ((e + 1) * leadingOne + f) = (leadingOne + f) * Nat.pow 2 e := by
  have hpos : 0 < leadingOne := by decide
  have hle : leadingOne ≤ (e + 1) * leadingOne := Nat.le_mul_of_pos_left _ (Nat.succ_pos e)
  rw [unitsOfMagnitude, if_neg (by omega), Nat.mul_add_mod_self_right, Nat.mod_eq_of_lt hf,
    Nat.mul_comm (e + 1), Nat.mul_add_div hpos, Nat.div_eq_of_lt hf]
  rfl

/-- The least number of an exponent. -/
theorem unitsOfMagnitude_least (e : Nat) :
    unitsOfMagnitude ((e + 1) * leadingOne) = leadingOne * Nat.pow 2 e := by
  have h := unitsOfMagnitude_normal e (show 0 < leadingOne by decide)
  rwa [Nat.add_zero, Nat.add_zero] at h

/-- The last step of an exponent is of the same length as the others. -/
theorem unitsOfMagnitude_step (e : Nat) :
    unitsOfMagnitude ((e + 1) * leadingOne + (leadingOne - 1)) + Nat.pow 2 e =
      unitsOfMagnitude ((e + 1 + 1) * leadingOne) := by
  have hdouble : Nat.pow 2 (e + 1) = Nat.pow 2 e * 2 := rfl
  rw [unitsOfMagnitude_normal e (by decide), unitsOfMagnitude_least, hdouble]
  unfold leadingOne
  omega

/-- Digits and a count of dropped ones add up to a magnitude, a carry into a further digit
included. -/
theorem unitsOfMagnitude_add {dropped r : Nat} (hr : r ≤ 2 * leadingOne)
    (h : dropped = 0 ∨ leadingOne ≤ r) :
    unitsOfMagnitude (dropped * leadingOne + r) = r * Nat.pow 2 dropped := by
  by_cases hsmall : r < leadingOne
  · obtain rfl : dropped = 0 := by omega
    rw [Nat.zero_mul, Nat.zero_add, unitsOfMagnitude, if_pos hsmall]
    exact (Nat.mul_one r).symm
  · by_cases hcarry : r = 2 * leadingOne
    · have hsum : dropped * leadingOne + r = (dropped + 1 + 1) * leadingOne := by
        rw [hcarry, Nat.add_assoc, Nat.add_mul]
      have hdouble : Nat.pow 2 (dropped + 1) = 2 * Nat.pow 2 dropped := Nat.pow_succ'
      rw [hsum, unitsOfMagnitude_least, hdouble, hcarry, Nat.mul_left_comm, Nat.mul_assoc]
    · have hsum : dropped * leadingOne + r = (dropped + 1) * leadingOne + (r - leadingOne) := by
        rw [Nat.succ_mul]
        omega
      rw [hsum, unitsOfMagnitude_normal _ (by omega), Nat.add_sub_cancel' (by omega)]

/-- A number is a multiple of the spacing of an exponent, or below all numbers with it. -/
theorem pow_dvd_or_lt (m dropped : Nat) :
    Nat.pow 2 dropped ∣ unitsOfMagnitude m ∨
      unitsOfMagnitude m < leadingOne * Nat.pow 2 dropped := by
  have hpos : 0 < leadingOne := by decide
  rcases Nat.lt_or_ge m ((dropped + 1) * leadingOne) with h | h
  · exact .inr (unitsOfMagnitude_least dropped ▸ units_strictMono h)
  · have hquotient : dropped + 1 ≤ m / leadingOne := (Nat.le_div_iff_mul_le hpos).2 h
    have hle : leadingOne ≤ (dropped + 1) * leadingOne :=
      Nat.le_mul_of_pos_left _ (Nat.succ_pos dropped)
    rw [unitsOfMagnitude, if_neg (by omega)]
    have hpow : Nat.pow 2 dropped ∣ Nat.pow 2 (m / leadingOne - 1) :=
      Nat.pow_dvd_pow 2 (Nat.le_sub_one_of_lt hquotient)
    exact .inl (Nat.dvd_mul_left_of_dvd hpow _)

/-! ### Rounding to numbers -/

section
variable {scaled den dropped : Nat}

/-- Fifty-three digits are kept at most; and as many at least, if any are dropped. -/
theorem kept_digits (hdropped : dropped = (scaled / den).log2 - 52) :
    scaled / (den * Nat.pow 2 dropped) < 2 * leadingOne ∧
      (dropped = 0 ∨ leadingOne ≤ scaled / (den * Nat.pow 2 dropped)) := by
  have hpow : 0 < Nat.pow 2 dropped := Nat.two_pow_pos dropped
  rw [← Nat.div_div_eq_div_mul]
  constructor
  · rw [Nat.div_lt_iff_lt_mul hpow]
    calc scaled / den < 2 ^ ((scaled / den).log2 + 1) := Nat.lt_log2_self
      _ ≤ 2 ^ (53 + dropped) := Nat.pow_le_pow_right (by decide) (by omega)
      _ = 2 * leadingOne * Nat.pow 2 dropped := Nat.pow_add 2 53 dropped
  · refine or_iff_not_imp_left.2 fun hsome => (Nat.le_div_iff_mul_le hpow).2 ?_
    have hne : scaled / den ≠ 0 := by
      intro h
      rw [h] at hdropped
      exact hsome hdropped
    calc leadingOne * Nat.pow 2 dropped = 2 ^ (52 + dropped) := (Nat.pow_add 2 52 dropped).symm
      _ ≤ 2 ^ (scaled / den).log2 := Nat.pow_le_pow_right (by decide) (by omega)
      _ ≤ scaled / den := Nat.log2_self_le hne

/-- The kept digits, rounded, are as many or one and zeros. -/
theorem rounded_digits (hdropped : dropped = (scaled / den).log2 - 52) :
    roundHalfEven scaled (den * Nat.pow 2 dropped) ≤ 2 * leadingOne ∧
      (dropped = 0 ∨ leadingOne ≤ roundHalfEven scaled (den * Nat.pow 2 dropped)) := by
  obtain ⟨hupper, hlower⟩ := kept_digits hdropped
  rcases roundHalfEven_eq_or scaled (den * Nat.pow 2 dropped) with ⟨h, -⟩ | ⟨h, -⟩
  · rw [h]
    exact ⟨hupper.le, hlower⟩
  · rw [h]
    exact ⟨hupper, hlower.imp_right Nat.le_succ_of_le⟩

end

/-- The magnitude found is the kept digits and the count of dropped ones.  It amounts to the kept
digits, and zeros for the dropped ones. -/
theorem exists_unitsOfMagnitude_nearestMagnitude (num : Nat) {den : Nat} (hden : 0 < den) :
    ∃ dropped, nearestMagnitude num den =
        dropped * leadingOne + roundHalfEven (num * unitsPerOne) (den * Nat.pow 2 dropped) ∧
      unitsOfMagnitude (nearestMagnitude num den) =
        roundHalfEven (num * unitsPerOne) (den * Nat.pow 2 dropped) * Nat.pow 2 dropped ∧
      (dropped = 0 ∨ leadingOne * (den * Nat.pow 2 dropped) ≤ num * unitsPerOne) := by
  have hdropped := Eq.refl ((num * unitsPerOne / den).log2 - 52)
  obtain ⟨hupper, hlower⟩ := rounded_digits hdropped
  obtain ⟨-, hkept⟩ := kept_digits hdropped
  refine ⟨_, rfl, unitsOfMagnitude_add hupper hlower, hkept.imp_right ?_⟩
  exact (Nat.le_div_iff_mul_le (Nat.mul_pos hden (Nat.two_pow_pos _))).1

/-- Numbers below all those of an exponent are farther off than the least of these, which is below
the quotient. -/
theorem gapTo_leadingOne_lt {scaled den dropped m : Nat} (hden : 0 < den)
    (hbelow : unitsOfMagnitude m < leadingOne * Nat.pow 2 dropped)
    (hleast : leadingOne * (den * Nat.pow 2 dropped) ≤ scaled) :
    gapTo scaled (den * Nat.pow 2 dropped) leadingOne <
      gapTo scaled den (unitsOfMagnitude m) := by
  have hlt := Nat.mul_lt_mul_of_pos_right hbelow hden
  rw [Nat.mul_assoc, Nat.mul_comm (Nat.pow 2 dropped)] at hlt
  rw [gapTo, gapTo]
  omega

/-- **The number found is nearest**: no other is nearer to the quotient, whatever its exponent. -/
theorem nearestMagnitude_nearest (num : Nat) {den : Nat} (hden : 0 < den) (m : Nat) :
    gapTo (num * unitsPerOne) den (unitsOfMagnitude (nearestMagnitude num den)) ≤
      gapTo (num * unitsPerOne) den (unitsOfMagnitude m) := by
  -- On the grid of its exponent the number is nearest by rounding; the other numbers that are not
  -- on that grid have smaller exponents.
  obtain ⟨dropped, -, hunits, hdropped⟩ := exists_unitsOfMagnitude_nearestMagnitude num hden
  generalize num * unitsPerOne = scaled at *
  have hpow : 0 < Nat.pow 2 dropped := Nat.two_pow_pos dropped
  have hnearest := roundHalfEven_nearest scaled (Nat.mul_pos hden hpow)
  rw [hunits, gapTo_mul]
  rcases pow_dvd_or_lt m dropped with ⟨k, hk⟩ | hbelow
  · rw [hk, Nat.mul_comm (Nat.pow 2 dropped) k, gapTo_mul]
    exact hnearest k
  · rcases hdropped with rfl | hleast
    · simpa [← gapTo_mul] using hnearest (unitsOfMagnitude m)
    · -- The least number with the exponent is nearer already.
      exact (hnearest leadingOne).trans (gapTo_leadingOne_lt hden hbelow hleast).le

/-- Where another number is just as near, the one found is even. -/
theorem nearestMagnitude_even_of_tie {num den m : Nat} (hden : 0 < den)
    (hne : m ≠ nearestMagnitude num den)
    (htie : gapTo (num * unitsPerOne) den (unitsOfMagnitude m) =
      gapTo (num * unitsPerOne) den (unitsOfMagnitude (nearestMagnitude num den))) :
    nearestMagnitude num den % 2 = 0 := by
  have hunits_ne : unitsOfMagnitude m ≠ unitsOfMagnitude (nearestMagnitude num den) := by
    rcases Nat.lt_or_gt_of_ne hne with hlt | hgt
    · exact (units_strictMono hlt).ne
    · exact (units_strictMono hgt).ne'
  obtain ⟨dropped, hmagnitude, hunits, hdropped⟩ :=
    exists_unitsOfMagnitude_nearestMagnitude num hden
  rw [hmagnitude]
  generalize num * unitsPerOne = scaled at *
  have hpow : 0 < Nat.pow 2 dropped := Nat.two_pow_pos dropped
  have hpos := Nat.mul_pos hden hpow
  rw [hunits] at hunits_ne htie
  rw [gapTo_mul] at htie
  -- What is just as near is on the grid of the exponent, and there it is the rounded digits that
  -- are even; the count of dropped ones is not seen in the last digit.
  have hgrid : Nat.pow 2 dropped ∣ unitsOfMagnitude m := by
    rcases hdropped with rfl | hleast
    · exact one_dvd _
    · refine (pow_dvd_or_lt m dropped).resolve_right fun hbelow => ?_
      have hfar := gapTo_leadingOne_lt hden hbelow hleast
      have hnearest := roundHalfEven_nearest scaled hpos leadingOne
      omega
  obtain ⟨k, hk⟩ := hgrid
  rw [hk, Nat.mul_comm (Nat.pow 2 dropped) k] at hunits_ne htie
  rw [gapTo_mul] at htie
  have heven := roundHalfEven_even_of_gapTo_eq hpos (fun heq => hunits_ne (heq ▸ rfl)) htie
  unfold leadingOne
  omega

/-- The number found depends on the quotient alone. -/
theorem nearestMagnitude_mul_left {num den k : Nat} (hk : 0 < k) :
    nearestMagnitude (k * num) (k * den) = nearestMagnitude num den := by
  simp only [nearestMagnitude, Nat.mul_assoc, Nat.mul_div_mul_left _ _ hk,
    roundHalfEven_mul_left hk]

theorem nearestMagnitude_eq_of_ratio {num den num' den' : Nat} (hden : 0 < den) (hden' : 0 < den')
    (h : num * den' = num' * den) : nearestMagnitude num den = nearestMagnitude num' den' := by
  calc nearestMagnitude num den = nearestMagnitude (den' * num) (den' * den) :=
        (nearestMagnitude_mul_left hden').symm
    _ = nearestMagnitude (den * num') (den * den') := by
        rw [Nat.mul_comm den' num, h, Nat.mul_comm num' den, Nat.mul_comm den' den]
    _ = nearestMagnitude num' den' := nearestMagnitude_mul_left hden

/-- A larger quotient has no smaller nearest number. -/
theorem nearestMagnitude_mono {num den num' den' : Nat} (hden : 0 < den) (hden' : 0 < den')
    (h : num * den' ≤ num' * den) : nearestMagnitude num den ≤ nearestMagnitude num' den' := by
  by_contra hgt
  have hunits := units_strictMono (Nat.lt_of_not_le hgt)
  have hnearest := nearestMagnitude_nearest num hden (nearestMagnitude num' den')
  have hnearest' := nearestMagnitude_nearest num' hden' (nearestMagnitude num den)
  generalize unitsOfMagnitude (nearestMagnitude num den) = k at hunits hnearest hnearest'
  generalize unitsOfMagnitude (nearestMagnitude num' den') = k' at hunits hnearest hnearest'
  -- Half way between the two numbers found the one quotient is not below, and the other not above.
  have hlower : (k + k') * den ≤ 2 * (num * unitsPerOne) := by
    have hlt := Nat.mul_lt_mul_of_pos_right hunits hden
    unfold gapTo at hnearest
    rw [Nat.add_mul]
    omega
  have hupper : 2 * (num' * unitsPerOne) ≤ (k + k') * den' := by
    have hlt := Nat.mul_lt_mul_of_pos_right hunits hden'
    unfold gapTo at hnearest'
    rw [Nat.add_mul]
    omega
  have hge : num' * den ≤ num * den' := by
    refine Nat.le_of_mul_le_mul_right (c := 2 * unitsPerOne) ?_
      (Nat.mul_pos (by decide) unitsPerOne_pos)
    calc num' * den * (2 * unitsPerOne) = 2 * (num' * unitsPerOne) * den := by ring
      _ ≤ (k + k') * den' * den := Nat.mul_le_mul_right den hupper
      _ = (k + k') * den * den' := by ring
      _ ≤ 2 * (num * unitsPerOne) * den' := Nat.mul_le_mul_right den' hlower
      _ = num * den' * (2 * unitsPerOne) := by ring
  -- So the quotients are the same.
  exact hgt (nearestMagnitude_eq_of_ratio hden hden' (Nat.le_antisymm h hge)).le

/-! ### Signs -/

theorem toNat_bits_ofMagnitude {m : Nat} (h : m < signBit) : (ofMagnitude m).bits.toNat = m := by
  rw [ofMagnitude, UInt64.toNat_ofNat']
  exact Nat.mod_eq_of_lt (h.trans (by decide))

theorem magnitude_ofMagnitude {m : Nat} (h : m < signBit) : (ofMagnitude m).magnitude = m := by
  rw [magnitude, toNat_bits_ofMagnitude h, Nat.mod_eq_of_lt h]

theorem isNegative_ofMagnitude {m : Nat} (h : m < signBit) :
    (ofMagnitude m).isNegative = false := by
  rw [isNegative, toNat_bits_ofMagnitude h]
  exact decide_eq_false (Nat.not_le_of_lt h)

theorem ofRatio?_eq_some_iff {num den : Nat} {x : Binary64} :
    ofRatio? num den = some x ↔
      nearestMagnitude num den < infinityMagnitude ∧
        ofMagnitude (nearestMagnitude num den) = x := by
  simp [ofRatio?]

theorem isFinite_of_ofRatio? {num den : Nat} {x : Binary64} (h : ofRatio? num den = some x) :
    x.isFinite = true := by
  obtain ⟨hlt, rfl⟩ := ofRatio?_eq_some_iff.1 h
  rw [isFinite, magnitude_ofMagnitude (hlt.trans (by decide))]
  exact decide_eq_true hlt

theorem isNegative_of_ofRatio? {num den : Nat} {x : Binary64} (h : ofRatio? num den = some x) :
    x.isNegative = false := by
  obtain ⟨hlt, rfl⟩ := ofRatio?_eq_some_iff.1 h
  exact isNegative_ofMagnitude (hlt.trans (by decide))

theorem isNegative_eq_testBit (x : Binary64) : x.isNegative = x.bits.toNat.testBit 63 := by
  have hlt : x.bits.toNat < 2 ^ 64 := x.bits.toNat_lt
  rw [isNegative, Nat.testBit_eq_decide_div_mod_eq, decide_eq_decide, signBit]
  omega

theorem toNat_bits_neg (x : Binary64) : (-x).bits.toNat = x.bits.toNat ^^^ 2 ^ 63 := by
  show (x.bits ^^^ 0x8000000000000000).toNat = _
  rw [UInt64.toNat_xor]
  rfl

@[simp] theorem isNegative_neg (x : Binary64) : (-x).isNegative = !x.isNegative := by
  rw [isNegative_eq_testBit, isNegative_eq_testBit, toNat_bits_neg, Nat.testBit_xor,
    Nat.testBit_two_pow_self, Bool.xor_true]

@[simp] theorem magnitude_neg (x : Binary64) : (-x).magnitude = x.magnitude := by
  show (-x).bits.toNat % 2 ^ 63 = x.bits.toNat % 2 ^ 63
  rw [toNat_bits_neg, Nat.xor_mod_two_pow, Nat.mod_self, Nat.xor_zero]

@[simp] theorem isFinite_neg (x : Binary64) : (-x).isFinite = x.isFinite := by
  rw [isFinite, isFinite, magnitude_neg]

@[simp] theorem hundredths_neg (x : Binary64) : (-x).hundredths = x.hundredths := by
  rw [hundredths, hundredths, units, units, magnitude_neg]

end Binary64

end Reckon
