/-
The double-precision number nearest to a rational.

The program finds it as a magnitude, by rounding a quotient in units of `2 ^ -1074`.  Here it is
said in rationals: no finite number is nearer, and where another one is just as near, the
significand is even.  From `leastOverflow` on, half way between the largest finite number and the
next power of two, a quotient is not rounded to a finite number any more.

* `nearestEven_nearestMagnitude`: the magnitude found is nearest among all magnitudes;
* `nearestMagnitude_lt_infinity_iff`: it is finite for quotients below `leastOverflow` only;
* `isNearest_of_ofRatio?`, `IsNearest.unique`: so the number found is the nearest one, and the only
  one.
-/
import Reckon.Proofs.NearestEven
import Reckon.Proofs.Rationals

namespace Reckon.Binary64

/-- Half way between the largest finite number and the power of two after it. -/
def leastOverflow : ℚ := 2 ^ 1024 - 2 ^ 970

/-- The finite number nearest to `q`, of two the one with the even significand. -/
def IsNearest (q : ℚ) (x : Binary64) : Prop :=
  NearestEven toRat (fun y => y.isFinite = true) (fun y => Even y.significand) q x

/-! ### Magnitudes -/

/-- The gap to a magnitude, in parts of a unit. -/
theorem cast_gapTo_units (num : Nat) {den : Nat} (hden : 0 < den) (m : Nat) :
    (gapTo (num * unitsPerOne) den (unitsOfMagnitude m) : ℚ) =
      (den * unitsPerOne : ℕ) * |(num : ℚ) / den - magnitudeRat m| := by
  have hpos := cast_unitsPerOne_pos
  have hunits : (unitsPerOne : ℚ) * |(num : ℚ) / den - magnitudeRat m| =
      |((num * unitsPerOne : ℕ) : ℚ) / den - unitsOfMagnitude m| := by
    have hparts : (unitsPerOne : ℚ) * ((num : ℚ) / den - magnitudeRat m) =
        ((num * unitsPerOne : ℕ) : ℚ) / den - unitsOfMagnitude m := by
      rw [mul_sub, magnitudeRat, mul_div_cancel₀ _ hpos.ne', Nat.cast_mul, mul_comm (num : ℚ),
        mul_div_assoc]
    rw [← hparts, abs_mul, abs_of_pos hpos]
  rw [cast_gapTo _ hden, ← hunits, Nat.cast_mul, mul_assoc]

theorem nearestEven_nearestMagnitude (num : Nat) {den : Nat} (hden : 0 < den) :
    NearestEven magnitudeRat (fun _ => True) Even ((num : ℚ) / den) (nearestMagnitude num den) := by
  have hscale : (0 : ℚ) < (den * unitsPerOne : ℕ) :=
    Nat.cast_pos.2 (Nat.mul_pos hden unitsPerOne_pos)
  refine ⟨trivial, fun m _ => ?_, fun m _ hne htie => ?_⟩
  · have hnearest := nearestMagnitude_nearest num hden m
    rw [← Nat.cast_le (α := ℚ), cast_gapTo_units num hden, cast_gapTo_units num hden] at hnearest
    exact le_of_mul_le_mul_left hnearest hscale
  · refine Nat.even_iff.2 (nearestMagnitude_even_of_tie hden (fun heq => hne (heq ▸ rfl)) ?_)
    rw [← Nat.cast_inj (R := ℚ), cast_gapTo_units num hden, cast_gapTo_units num hden, htie]

/-! ### The largest finite number -/

/-- The infinities have the magnitude of the next power of two. -/
theorem magnitudeRat_infinity : magnitudeRat infinityMagnitude = 2 ^ 1024 := by
  have hunits : (unitsOfMagnitude infinityMagnitude : ℚ) = 2 ^ 52 * 2 ^ 2046 := by
    have hinfinity : infinityMagnitude = (2046 + 1) * leadingOne := by decide
    have hleading : (leadingOne : ℚ) = 2 ^ 52 := cast_two_pow 52
    rw [hinfinity]
    generalize 2046 = e
    rw [unitsOfMagnitude_least, Nat.cast_mul, hleading, cast_two_pow]
  have hpow : (2 : ℚ) ^ 52 * 2 ^ 2046 = 2 ^ 1024 * 2 ^ 1074 := by
    rw [← pow_add, ← pow_add]
  rw [magnitudeRat, hunits, cast_unitsPerOne, hpow, mul_div_cancel_right₀]
  exact pow_ne_zero _ two_ne_zero

/-- The largest finite number is one step below it. -/
theorem magnitudeRat_largest_add : magnitudeRat (infinityMagnitude - 1) + 2 ^ 971 = 2 ^ 1024 := by
  have hunits : (unitsOfMagnitude (infinityMagnitude - 1) : ℚ) + 2 ^ 2045 =
      unitsOfMagnitude infinityMagnitude := by
    have hlargest : infinityMagnitude - 1 = (2045 + 1) * leadingOne + (leadingOne - 1) := by decide
    have hinfinity : infinityMagnitude = (2045 + 1 + 1) * leadingOne := by decide
    rw [hlargest, hinfinity]
    generalize 2045 = e
    rw [← unitsOfMagnitude_step, Nat.cast_add, cast_two_pow]
  have hpow : (2 : ℚ) ^ 2045 = 2 ^ 971 * 2 ^ 1074 := by rw [← pow_add]
  rw [← magnitudeRat_infinity, magnitudeRat, magnitudeRat, ← hunits, add_div, hpow,
    cast_unitsPerOne, mul_div_cancel_right₀]
  exact pow_ne_zero _ two_ne_zero

theorem largest_add_infinity :
    magnitudeRat (infinityMagnitude - 1) + magnitudeRat infinityMagnitude = 2 * leastOverflow := by
  have hpow : (2 : ℚ) ^ 971 = 2 * 2 ^ 970 := pow_succ' 2 970
  have hlargest := magnitudeRat_largest_add
  rw [hpow] at hlargest
  rw [magnitudeRat_infinity, leastOverflow]
  generalize (2 : ℚ) ^ 1024 = top, (2 : ℚ) ^ 970 = half at hlargest ⊢
  linarith

/-- The magnitude found is finite just for the quotients below the least overflow.  That one is half
way, and since the largest finite magnitude is odd, it goes beyond it. -/
theorem nearestMagnitude_lt_infinity_iff (num : Nat) {den : Nat} (hden : 0 < den) :
    nearestMagnitude num den < infinityMagnitude ↔ (num : ℚ) / den < leastOverflow := by
  have hnearest := nearestEven_nearestMagnitude num hden
  have hsum := largest_add_infinity
  generalize nearestMagnitude num den = m at hnearest ⊢
  constructor
  · intro hm
    by_contra hlarge
    have hle : m ≤ infinityMagnitude - 1 := Nat.le_sub_one_of_lt hm
    have hlt := magnitudeRat_strictMono hm
    have hbelow := magnitudeRat_strictMono.monotone hle
    have hfar := (abs_sub_le_abs_sub_iff_of_lt hlt).1 (hnearest.nearest infinityMagnitude trivial)
    have hnear : |(num : ℚ) / den - magnitudeRat infinityMagnitude| ≤
        |(num : ℚ) / den - magnitudeRat m| :=
      (abs_sub_le_abs_sub_iff_of_gt hlt).2 (by linarith)
    -- So the infinity is just as near, and the number found is the largest finite one.
    have heven : Even m := hnearest.even_of_tie infinityMagnitude trivial hlt.ne'
      (le_antisymm hnear (hnearest.nearest infinityMagnitude trivial))
    have hlargest : magnitudeRat m = magnitudeRat (infinityMagnitude - 1) := by linarith
    rw [magnitudeRat_strictMono.injective hlargest] at heven
    exact absurd heven (by decide)
  · intro hsmall
    by_contra hlarge
    have hle := magnitudeRat_strictMono.monotone (Nat.le_of_not_lt hlarge)
    have hlt : magnitudeRat (infinityMagnitude - 1) < magnitudeRat m :=
      magnitudeRat_strictMono (Nat.lt_of_lt_of_le (by decide) (Nat.le_of_not_lt hlarge))
    have hfar := (abs_sub_le_abs_sub_iff_of_gt hlt).1 (hnearest.nearest _ trivial)
    linarith

/-! ### Finite numbers -/

theorem toRat_of_not_isNegative {x : Binary64} (h : x.isNegative = false) :
    x.toRat = magnitudeRat x.magnitude := by
  rw [toRat_eq, h]
  rfl

theorem toRat_ofMagnitude {m : Nat} (h : m < signBit) : (ofMagnitude m).toRat = magnitudeRat m := by
  rw [toRat_of_not_isNegative (isNegative_ofMagnitude h), magnitude_ofMagnitude h]

/-- The last digit of the significand is that of the magnitude. -/
theorem even_significand_iff (x : Binary64) : Even x.significand ↔ Even x.magnitude := by
  rw [Nat.even_iff, Nat.even_iff, significand, exponentField, fraction]
  unfold leadingOne
  split <;> omega

/-- A number is known by its sign and its magnitude. -/
theorem eq_of_magnitude_eq {x y : Binary64} (hsign : x.isNegative = y.isNegative)
    (hmagnitude : x.magnitude = y.magnitude) : x = y := by
  have hx : x.bits.toNat < 2 ^ 64 := x.bits.toNat_lt
  have hy : y.bits.toNat < 2 ^ 64 := y.bits.toNat_lt
  rw [isNegative, isNegative, decide_eq_decide] at hsign
  rw [magnitude, magnitude] at hmagnitude
  unfold signBit at hsign hmagnitude
  have hbits : x.bits.toNat = y.bits.toNat := by omega
  exact congrArg Binary64.mk (UInt64.toNat_inj.1 hbits)

/-- A number without a sign is its magnitude. -/
theorem ofMagnitude_magnitude {x : Binary64} (h : x.isNegative = false) :
    ofMagnitude x.magnitude = x := by
  have hlt : x.magnitude < signBit := Nat.mod_lt _ (by decide)
  exact eq_of_magnitude_eq ((isNegative_ofMagnitude hlt).trans h.symm) (magnitude_ofMagnitude hlt)

section
variable {q r : ℚ} {x y : Binary64}

/-- A number with a sign is no nearer to one without than its opposite is. -/
theorem abs_sub_magnitudeRat_le (hq : 0 ≤ q) (x : Binary64) :
    |q - magnitudeRat x.magnitude| ≤ |q - x.toRat| := by
  have hvalue := magnitudeRat_nonneg x.magnitude
  rw [toRat_eq]
  split
  · rw [abs_of_nonneg (show 0 ≤ q - -magnitudeRat x.magnitude by linarith), abs_le]
    constructor <;> linarith
  · exact le_rfl

/-- The finite number with the nearest magnitude is nearest. -/
theorem isNearest_of_nearestEven (hq : 0 ≤ q) (hfinite : x.isFinite = true)
    (hsign : x.isNegative = false)
    (h : NearestEven magnitudeRat (fun _ => True) Even q x.magnitude) : IsNearest q x := by
  have hx := toRat_of_not_isNegative hsign
  refine ⟨hfinite, fun y _ => ?_, fun y _ hne htie => (even_significand_iff x).2 ?_⟩
  · rw [hx]
    exact (h.nearest y.magnitude trivial).trans (abs_sub_magnitudeRat_le hq y)
  · rw [hx] at hne htie
    by_cases hmagnitude : y.magnitude = x.magnitude
    · -- Only zero is as near to the opposite of a number.
      have hopposite : y.toRat = -magnitudeRat x.magnitude := by
        rw [toRat_eq, hmagnitude] at hne ⊢
        cases hysign : y.isNegative with
        | true => rfl
        | false => simp [hysign] at hne
      rw [hopposite] at hne htie
      have hzero : q = 0 := by
        rcases abs_eq_abs.1 htie with hsame | hsame
        · exact absurd (by linarith) hne
        · linarith
      have hnearest := h.nearest 0 trivial
      rw [hzero, zero_sub, abs_neg, magnitudeRat_zero, sub_zero, abs_zero,
        abs_nonpos_iff] at hnearest
      exact absurd (by rw [hnearest, neg_zero]) hne
    · refine h.even_of_tie y.magnitude trivial (magnitudeRat_strictMono.injective.ne hmagnitude) ?_
      exact le_antisymm (htie ▸ abs_sub_magnitudeRat_le hq y) (h.nearest y.magnitude trivial)

/-- The magnitude of a nearest number without a sign is nearest among the finite ones. -/
theorem IsNearest.nearestEven (h : IsNearest q x) (hsign : x.isNegative = false) :
    NearestEven magnitudeRat (fun m => m < infinityMagnitude) Even q x.magnitude := by
  have hcandidate {m : Nat} (hm : m < infinityMagnitude) :
      (ofMagnitude m).isFinite = true ∧ (ofMagnitude m).toRat = magnitudeRat m := by
    have hlt : m < signBit := hm.trans (by decide)
    refine ⟨?_, toRat_ofMagnitude hlt⟩
    rw [isFinite, magnitude_ofMagnitude hlt]
    exact decide_eq_true hm
  have hx := toRat_of_not_isNegative hsign
  refine ⟨of_decide_eq_true h.mem, fun m hm => ?_, fun m hm hne htie => ?_⟩
  · obtain ⟨hfinite, hvalue⟩ := hcandidate hm
    rw [← hx, ← hvalue]
    exact h.nearest _ hfinite
  · obtain ⟨hfinite, hvalue⟩ := hcandidate hm
    rw [← hx, ← hvalue] at hne htie
    exact (even_significand_iff x).1 (h.even_of_tie _ hfinite hne htie)

theorem IsNearest.mono (hle : q ≤ r) (hx : IsNearest q x) (hxsign : x.isNegative = false)
    (hy : IsNearest r y) (hysign : y.isNegative = false) : x.toRat ≤ y.toRat := by
  rw [toRat_of_not_isNegative hxsign, toRat_of_not_isNegative hysign]
  refine NearestEven.mono ?_ hle (hx.nearestEven hxsign) (hy.nearestEven hysign)
  intro m n _ hn hm_even hn_even hlt
  -- Even magnitudes are two apart.
  have hlt := magnitudeRat_strictMono.lt_iff_lt.1 hlt
  rw [Nat.even_iff] at hm_even hn_even
  exact ⟨m + 1, by omega, magnitudeRat_strictMono (by omega), magnitudeRat_strictMono (by omega)⟩

theorem IsNearest.unique (hx : IsNearest q x) (hxsign : x.isNegative = false) (hy : IsNearest q y)
    (hysign : y.isNegative = false) : x = y := by
  have heq := le_antisymm (hx.mono le_rfl hxsign hy hysign) (hy.mono le_rfl hysign hx hxsign)
  rw [toRat_of_not_isNegative hxsign, toRat_of_not_isNegative hysign] at heq
  exact eq_of_magnitude_eq (hxsign.trans hysign.symm) (magnitudeRat_strictMono.injective heq)

end

/-- The number that is found for a quotient is the nearest one. -/
theorem isNearest_of_ofRatio? {num den : Nat} {x : Binary64} (hden : 0 < den)
    (h : ofRatio? num den = some x) : IsNearest ((num : ℚ) / den) x := by
  have hsign := isNegative_of_ofRatio? h
  have hfinite := isFinite_of_ofRatio? h
  obtain ⟨hlt, rfl⟩ := ofRatio?_eq_some_iff.1 h
  have hnonneg : (0 : ℚ) ≤ num / den := div_nonneg (Nat.cast_nonneg _) (Nat.cast_nonneg _)
  refine isNearest_of_nearestEven hnonneg hfinite hsign ?_
  rw [magnitude_ofMagnitude (hlt.trans (by decide))]
  exact nearestEven_nearestMagnitude num hden

/-- There is a number for the quotients below the least overflow. -/
theorem ofRatio?_eq_none_iff_le {num den : Nat} (hden : 0 < den) :
    ofRatio? num den = none ↔ leastOverflow ≤ (num : ℚ) / den := by
  rw [ofRatio?_eq_none_iff, ← not_lt, ← not_lt, not_iff_not]
  exact nearestMagnitude_lt_infinity_iff num hden

end Reckon.Binary64
