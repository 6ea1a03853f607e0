/-
The fewest digits that read back.

Numbers are written with the decimal that a search over grids comes to.  Which decimals read back
as a number is a matter of their values: all between two that do, do so as well.  So it is enough to
look at the neighbours of the number on a grid.  Neither reads back on a grid coarser than the first
one of the search; on one with seventeen digits the nearer one always does.

* `Binary64.exists_step`: the numbers go in steps, of which each is a small part of the number;
* `Decimal.readsBack_of_between`: what is between decimals that read back, reads back;
* `Decimal.exists_onGrid?`: a grid with a decimal that reads back has a neighbour that does;
* `Decimal.coarsestGrid_bounds`: where the search begins;
* `Decimal.onGrid?_shortest`: what it comes to is on the first grid that has a decimal that reads
  back;
* `Decimal.isShortest_shortest`: so no such decimal has fewer digits, and none on the grid is
  nearer.
-/
import Mathlib.Algebra.Order.Floor.Semifield
import Mathlib.Data.Rat.Floor
import Reckon.Decimal.Shortest
import Reckon.Proofs.NearestNumber

namespace Reckon

namespace Binary64

/-! ### Steps from a number to the next one -/

/-- A number is a multiple of a power of two, less than `2 ^ 53` times, and the next number is the
next multiple. -/
theorem exists_step (m : Nat) : ∃ c k, unitsOfMagnitude m = c * Nat.pow 2 k ∧
    unitsOfMagnitude (m + 1) = (c + 1) * Nat.pow 2 k ∧ c < 2 * leadingOne := by
  obtain ⟨dropped, r, rfl, hr, h⟩ : ∃ dropped r, m = dropped * leadingOne + r ∧
      r < 2 * leadingOne ∧ (dropped = 0 ∨ leadingOne ≤ r) := by
    refine ⟨m / leadingOne - 1, m - (m / leadingOne - 1) * leadingOne, ?_⟩
    unfold leadingOne
    omega
  refine ⟨r, dropped, unitsOfMagnitude_add hr.le h, ?_, hr⟩
  rw [Nat.add_assoc]
  exact unitsOfMagnitude_add hr (h.imp_right fun hle => hle.trans (Nat.le_succ r))

/-- The gap between two numbers is no less than the larger one divided by `2 ^ 53`. -/
theorem units_le_mul_gap {m n : Nat} (h : m < n) :
    unitsOfMagnitude n ≤ 2 * leadingOne * (unitsOfMagnitude n - unitsOfMagnitude m) := by
  obtain ⟨n, rfl⟩ := Nat.exists_eq_add_of_le' (Nat.zero_lt_of_lt h)
  obtain ⟨c, k, hn, hnext, hc⟩ := exists_step n
  have hle := units_mono (Nat.le_of_lt_succ h)
  have hgap : Nat.pow 2 k ≤ unitsOfMagnitude (n + 1) - unitsOfMagnitude m := by
    rw [Nat.succ_mul, ← hn] at hnext
    omega
  calc unitsOfMagnitude (n + 1) = (c + 1) * Nat.pow 2 k := hnext
    _ ≤ 2 * leadingOne * Nat.pow 2 k := Nat.mul_le_mul_right _ hc
    _ ≤ _ := Nat.mul_le_mul_left _ hgap

theorem units_succ_le {m : Nat} (hm : 0 < m) :
    unitsOfMagnitude (m + 1) ≤ 2 * unitsOfMagnitude m := by
  obtain ⟨c, k, hunits, hnext, -⟩ := exists_step m
  have hpos : 0 < c := by
    refine Nat.pos_of_ne_zero ?_
    rintro rfl
    have hlt := units_strictMono hm
    omega
  rw [hunits, hnext, ← Nat.mul_assoc]
  exact Nat.mul_le_mul_right _ (by omega)

theorem magnitudeRat_le_mul_abs {m n : Nat} (h : m ≠ n) :
    magnitudeRat m ≤ 2 ^ 53 * |magnitudeRat n - magnitudeRat m| := by
  have hleading : ((2 * leadingOne : ℕ) : ℚ) = 2 ^ 53 := by
    unfold leadingOne
    norm_num
  have hlower {m n : Nat} (h : m < n) :
      magnitudeRat n ≤ 2 ^ 53 * (magnitudeRat n - magnitudeRat m) := by
    have hunits := units_le_mul_gap h
    rw [← Nat.cast_le (α := ℚ), Nat.cast_mul, hleading, Nat.cast_sub (units_strictMono h).le]
      at hunits
    rw [magnitudeRat, magnitudeRat, ← sub_div, ← mul_div_assoc]
    exact div_le_div_of_nonneg_right hunits cast_unitsPerOne_pos.le
  rcases Nat.lt_or_gt_of_ne h with h | h
  · have hlt := magnitudeRat_strictMono h
    rw [abs_of_pos (sub_pos.2 hlt)]
    exact hlt.le.trans (hlower h)
  · rw [abs_sub_comm, abs_of_pos (sub_pos.2 (magnitudeRat_strictMono h))]
    exact hlower h

/-! ### Readings of values -/

/-- A number is nearest to itself. -/
theorem nearestMagnitude_units (m : Nat) :
    nearestMagnitude (unitsOfMagnitude m) unitsPerOne = m := by
  have hnearest := (nearestEven_nearestMagnitude (unitsOfMagnitude m) unitsPerOne_pos).nearest m
    trivial
  rw [← magnitudeRat, sub_self, abs_zero, abs_nonpos_iff, sub_eq_zero] at hnearest
  exact (magnitudeRat_strictMono.injective hnearest).symm

section
variable {num den m : Nat}

theorem le_nearestMagnitude (hden : 0 < den) (h : magnitudeRat m ≤ (num : ℚ) / den) :
    m ≤ nearestMagnitude num den := by
  rw [magnitudeRat, div_le_div_iff₀ cast_unitsPerOne_pos (Nat.cast_pos.2 hden)] at h
  calc m = nearestMagnitude (unitsOfMagnitude m) unitsPerOne := (nearestMagnitude_units m).symm
    _ ≤ nearestMagnitude num den := nearestMagnitude_mono unitsPerOne_pos hden (by exact_mod_cast h)

theorem nearestMagnitude_le (hden : 0 < den) (h : (num : ℚ) / den ≤ magnitudeRat m) :
    nearestMagnitude num den ≤ m := by
  rw [magnitudeRat, div_le_div_iff₀ (Nat.cast_pos.2 hden) cast_unitsPerOne_pos] at h
  calc nearestMagnitude num den ≤ nearestMagnitude (unitsOfMagnitude m) unitsPerOne :=
        nearestMagnitude_mono hden unitsPerOne_pos (by exact_mod_cast h)
    _ = m := nearestMagnitude_units m

/-- What is nearer to a number than half a step is read as that number. -/
theorem nearestMagnitude_eq_of_near (hden : 0 < den)
    (h : 2 ^ 54 * |(num : ℚ) / den - magnitudeRat m| < magnitudeRat m) :
    nearestMagnitude num den = m := by
  by_contra hne
  have hnearest := (nearestEven_nearestMagnitude num hden).nearest m trivial
  have hgap := magnitudeRat_le_mul_abs (Ne.symm hne)
  have htriangle := abs_sub_le (magnitudeRat (nearestMagnitude num den)) ((num : ℚ) / den)
    (magnitudeRat m)
  rw [abs_sub_comm] at hnearest
  linarith

end

end Binary64

namespace Decimal

/-! ### Values of decimals -/

/-- The number that a decimal stands for. -/
def toRat (d : Decimal) : ℚ := d.coefficient * 10 ^ d.exponent

theorem cast_ten_pow (k : Nat) : ((Nat.pow 10 k : ℕ) : ℚ) = 10 ^ k := Nat.cast_pow 10 k

theorem toRat_eq (d : Decimal) : d.toRat = d.numerator / d.denominator := by
  obtain ⟨c, e⟩ := d
  rw [toRat, numerator, denominator, Nat.cast_mul, cast_ten_pow, cast_ten_pow]
  dsimp only
  obtain ⟨k, rfl | rfl⟩ := e.eq_nat_or_neg
  · rw [Int.toNat_natCast, Int.toNat_neg_natCast, zpow_natCast, pow_zero, div_one]
  · rw [Int.toNat_neg_natCast, neg_neg, Int.toNat_natCast, zpow_neg, zpow_natCast, pow_zero,
      mul_one, div_eq_mul_inv]

theorem denominator_pos (d : Decimal) : 0 < d.denominator := Nat.pow_pos (by decide)

variable {x : Binary64} {d e : Decimal}

/-- All digits of a number are as many places as there are halvings from one to a unit. -/
theorem exists_places_exact (x : Binary64) : ∃ k : Nat, k ≤ 1074 ∧ ∃ p,
    exact x = ⟨x.units * p, -k⟩ ∧ p * Binary64.unitsPerOne = Nat.pow 10 k := by
  refine ⟨1074, Nat.le_refl _, Nat.pow 5 1074, ?_, ?_⟩
  · unfold exact
    generalize Nat.pow 5 1074 = p
    rfl
  · unfold Binary64.unitsPerOne
    generalize 1074 = k
    exact (Nat.mul_pow 5 2 k).symm

theorem toRat_exact (x : Binary64) : (exact x).toRat = Binary64.magnitudeRat x.magnitude := by
  obtain ⟨k, -, p, hexact, hone⟩ := exists_places_exact x
  have hten : (p : ℚ) * Binary64.unitsPerOne = 10 ^ k := by
    rw [← Nat.cast_mul, hone, cast_ten_pow]
  have hp : (p : ℚ) ≠ 0 := by
    intro hp
    rw [hp, zero_mul] at hten
    exact absurd hten.symm (by positivity)
  rw [hexact, toRat, zpow_neg, zpow_natCast, ← hten, mul_comm (p : ℚ), Nat.cast_mul,
    ← div_eq_mul_inv, mul_div_mul_right _ _ hp]
  rfl

/-! ### Decimals that read back -/

theorem readsBack_iff (hfinite : x.isFinite = true) :
    readsBack x d = true ↔
      Binary64.nearestMagnitude d.numerator d.denominator = x.magnitude := by
  have hlt : x.magnitude < Binary64.infinityMagnitude := of_decide_eq_true hfinite
  have hsmall {m : Nat} (h : m < Binary64.infinityMagnitude) : m < Binary64.signBit :=
    h.trans (by decide)
  rw [readsBack, beq_iff_eq, toBinary64?, Binary64.ofRatio?_eq_some_iff]
  constructor
  · rintro ⟨hnearest, heq⟩
    rw [← Binary64.magnitude_ofMagnitude (hsmall hnearest), heq,
      Binary64.magnitude_ofMagnitude (hsmall hlt)]
  · intro heq
    rw [heq]
    exact ⟨hlt, rfl⟩

theorem readsBack_exact (hfinite : x.isFinite = true) : readsBack x (exact x) = true := by
  have hvalue := toRat_exact x
  rw [toRat_eq] at hvalue
  rw [readsBack_iff hfinite]
  exact Nat.le_antisymm (Binary64.nearestMagnitude_le (exact x).denominator_pos hvalue.le)
    (Binary64.le_nearestMagnitude (exact x).denominator_pos hvalue.ge)

/-- What is between two decimals that read back, reads back. -/
theorem readsBack_of_between {d' : Decimal} (hfinite : x.isFinite = true)
    (hd : readsBack x d = true) (he : readsBack x e = true) (hle : d.toRat ≤ d'.toRat)
    (hle' : d'.toRat ≤ e.toRat) : readsBack x d' = true := by
  rw [readsBack_iff hfinite] at hd he ⊢
  have hmono {d e : Decimal} (h : d.toRat ≤ e.toRat) :
      Binary64.nearestMagnitude d.numerator d.denominator ≤
        Binary64.nearestMagnitude e.numerator e.denominator := by
    refine Binary64.nearestMagnitude_mono d.denominator_pos e.denominator_pos ?_
    rw [toRat_eq, toRat_eq, div_le_div_iff₀ (Nat.cast_pos.2 d.denominator_pos)
      (Nat.cast_pos.2 e.denominator_pos)] at h
    exact_mod_cast h
  exact Nat.le_antisymm (he ▸ hmono hle') (hd ▸ hmono hle)

theorem readsBack_of_near (hfinite : x.isFinite = true)
    (h : 2 ^ 54 * |d.toRat - Binary64.magnitudeRat x.magnitude| <
      Binary64.magnitudeRat x.magnitude) : readsBack x d = true := by
  rw [toRat_eq] at h
  exact (readsBack_iff hfinite).2 (Binary64.nearestMagnitude_eq_of_near d.denominator_pos h)

/-- A decimal that reads back as a number other than zero is not zero, and less than twice the
number. -/
theorem toRat_of_readsBack (hfinite : x.isFinite = true) (hpos : 0 < x.magnitude)
    (hd : readsBack x d = true) :
    0 < d.coefficient ∧ d.toRat < 2 * Binary64.magnitudeRat x.magnitude := by
  rw [readsBack_iff hfinite] at hd
  constructor
  · refine Nat.pos_of_ne_zero fun hzero => ?_
    have hle : Binary64.nearestMagnitude d.numerator d.denominator ≤ 0 := by
      refine Binary64.nearestMagnitude_le d.denominator_pos ?_
      rw [← toRat_eq, toRat, hzero, Nat.cast_zero, zero_mul, Binary64.magnitudeRat_zero]
    omega
  · by_contra hlarge
    have hnext : Binary64.magnitudeRat (x.magnitude + 1) ≤
        2 * Binary64.magnitudeRat x.magnitude := by
      rw [Binary64.magnitudeRat, Binary64.magnitudeRat, ← mul_div_assoc]
      refine div_le_div_of_nonneg_right ?_ Binary64.cast_unitsPerOne_pos.le
      exact_mod_cast Binary64.units_succ_le hpos
    have hle : x.magnitude + 1 ≤ Binary64.nearestMagnitude d.numerator d.denominator := by
      refine Binary64.le_nearestMagnitude d.denominator_pos ?_
      rw [← toRat_eq]
      exact hnext.trans (not_lt.1 hlarge)
    omega

/-! ### Neighbours on a grid -/

section
variable {grid : Int}

/-- A number in steps of a grid, as the quotient that its neighbours are found by. -/
theorem magnitudeRat_div_zpow (x : Binary64) (grid : Int) :
    Binary64.magnitudeRat x.magnitude / 10 ^ grid =
      ((x.units * Nat.pow 10 (-grid).toNat : ℕ) : ℚ) /
        ((Binary64.unitsPerOne * Nat.pow 10 grid.toNat : ℕ) : ℚ) := by
  rw [Nat.cast_mul, Nat.cast_mul, cast_ten_pow, cast_ten_pow, Binary64.magnitudeRat,
    ← Binary64.units]
  obtain ⟨k, rfl | rfl⟩ := grid.eq_nat_or_neg
  · rw [Int.toNat_natCast, Int.toNat_neg_natCast, zpow_natCast, pow_zero, mul_one, div_div]
  · rw [Int.toNat_neg_natCast, neg_neg, Int.toNat_natCast, zpow_neg, zpow_natCast, pow_zero,
      mul_one, div_inv_eq_mul, div_mul_eq_mul_div]

theorem coefficient_below (x : Binary64) (grid : Int) :
    (below x.units grid).coefficient = ⌊Binary64.magnitudeRat x.magnitude / 10 ^ grid⌋₊ := by
  rw [magnitudeRat_div_zpow, Nat.floor_div_eq_div]
  rfl

theorem ten_zpow_pos (grid : Int) : (0 : ℚ) < 10 ^ grid := zpow_pos (by norm_num) grid

theorem toRat_above (x : Binary64) (grid : Int) :
    (above x.units grid).toRat = (below x.units grid).toRat + 10 ^ grid := by
  show ((((below x.units grid).coefficient + 1 : ℕ) : ℚ)) * 10 ^ grid =
    (below x.units grid).coefficient * 10 ^ grid + 10 ^ grid
  push_cast
  ring

theorem toRat_below_le (x : Binary64) (grid : Int) :
    (below x.units grid).toRat ≤ Binary64.magnitudeRat x.magnitude := by
  have hnonneg := Binary64.magnitudeRat_nonneg x.magnitude
  have hfloor := Nat.floor_le (div_nonneg hnonneg (ten_zpow_pos grid).le)
  rw [← coefficient_below, le_div_iff₀ (ten_zpow_pos grid)] at hfloor
  exact hfloor

theorem lt_toRat_above (x : Binary64) (grid : Int) :
    Binary64.magnitudeRat x.magnitude < (above x.units grid).toRat := by
  have hfloor := Nat.lt_floor_add_one (Binary64.magnitudeRat x.magnitude / 10 ^ grid)
  rw [← coefficient_below, div_lt_iff₀ (ten_zpow_pos grid), add_mul, one_mul] at hfloor
  rw [toRat_above]
  exact hfloor

/-- No decimal on a grid is between the neighbours of a number. -/
theorem toRat_le_or_le (x : Binary64) (d : Decimal) :
    d.toRat ≤ (below x.units d.exponent).toRat ∨ (above x.units d.exponent).toRat ≤ d.toRat := by
  have hpos := (ten_zpow_pos d.exponent).le
  rcases Nat.lt_or_ge (below x.units d.exponent).coefficient d.coefficient with h | h
  · exact .inr (mul_le_mul_of_nonneg_right (Nat.cast_le.2 h) hpos)
  · exact .inl (mul_le_mul_of_nonneg_right (Nat.cast_le.2 h) hpos)

theorem readsBack_below (hfinite : x.isFinite = true) (hd : readsBack x d = true)
    (hle : d.toRat ≤ (below x.units d.exponent).toRat) :
    readsBack x (below x.units d.exponent) = true := by
  refine readsBack_of_between hfinite hd (readsBack_exact hfinite) hle ?_
  rw [toRat_exact]
  exact toRat_below_le x d.exponent

theorem readsBack_above (hfinite : x.isFinite = true) (hd : readsBack x d = true)
    (hle : (above x.units d.exponent).toRat ≤ d.toRat) :
    readsBack x (above x.units d.exponent) = true := by
  refine readsBack_of_between hfinite (readsBack_exact hfinite) hd ?_ hle
  rw [toRat_exact]
  exact (lt_toRat_above x d.exponent).le

theorem exponent_of_onGrid? {grid : Int} {d : Decimal} (h : onGrid? x grid = some d) :
    d.exponent = grid := by
  simp only [onGrid?] at h
  split at h
  · exact Option.some.inj h ▸ rfl
  · split at h
    · exact Option.some.inj h ▸ rfl
    · exact absurd h (by simp)

theorem onGrid?_eq_none_iff : onGrid? x grid = none ↔
    readsBack x (below x.units grid) = false ∧ readsBack x (above x.units grid) = false := by
  simp only [onGrid?]
  cases readsBack x (below x.units grid) <;> cases readsBack x (above x.units grid) <;>
    cases nearerBelow x.units grid <;> simp

/-- A grid with a decimal that reads back has a neighbour that does. -/
theorem exists_onGrid? (hfinite : x.isFinite = true) (hd : readsBack x d = true) :
    ∃ e, onGrid? x d.exponent = some e := by
  rw [← Option.isSome_iff_exists, Option.isSome_iff_ne_none]
  intro hnone
  obtain ⟨hbelow, habove⟩ := onGrid?_eq_none_iff.1 hnone
  rcases toRat_le_or_le x d with hle | hle
  · exact Bool.noConfusion (hbelow.symm.trans (readsBack_below hfinite hd hle))
  · exact Bool.noConfusion (habove.symm.trans (readsBack_above hfinite hd hle))

theorem nearerBelow_iff (x : Binary64) (grid : Int) : nearerBelow x.units grid = true ↔
    2 * (Binary64.magnitudeRat x.magnitude - (below x.units grid).toRat) < 10 ^ grid := by
  have hten := ten_zpow_pos grid
  have hunit : (0 : ℚ) < (Binary64.unitsPerOne * Nat.pow 10 grid.toNat : ℕ) :=
    Nat.cast_pos.2 (Nat.mul_pos Binary64.unitsPerOne_pos (Nat.pow_pos (by decide)))
  have hquotient := magnitudeRat_div_zpow x grid
  have hbelow : (below x.units grid).toRat =
      (x.units * Nat.pow 10 (-grid).toNat / (Binary64.unitsPerOne * Nat.pow 10 grid.toNat) : ℕ) *
        10 ^ grid := rfl
  rw [nearerBelow, decide_eq_true_iff, hbelow, ← Nat.cast_lt (α := ℚ), Nat.cast_mul]
  generalize x.units * Nat.pow 10 (-grid).toNat = num at hquotient ⊢
  generalize Binary64.unitsPerOne * Nat.pow 10 grid.toNat = unit at hquotient hunit ⊢
  have hmod : ((num % unit : ℕ) : ℚ) = (num / unit - (num / unit : ℕ)) * unit := by
    rw [sub_mul, div_mul_cancel₀ _ hunit.ne', eq_sub_iff_add_eq', mul_comm, ← Nat.cast_mul,
      ← Nat.cast_add, Nat.div_add_mod]
  rw [div_eq_iff hten.ne'] at hquotient
  rw [hquotient, ← sub_mul, hmod, Nat.cast_two, ← mul_assoc, ← mul_assoc,
    mul_lt_iff_lt_one_left hunit, mul_lt_iff_lt_one_left hten]

end

/-! ### Where the search begins -/

theorem pow_length_toDigits {n : Nat} (h : 0 < n) :
    10 ^ ((Nat.toDigits 10 n).length - 1) ≤ n ∧ n < 10 ^ (Nat.toDigits 10 n).length := by
  have hlength : 0 < (Nat.toDigits 10 n).length := Nat.length_toDigits_pos
  refine ⟨?_, (Nat.length_toDigits_le_iff (by decide) hlength).1 (Nat.le_refl _)⟩
  rcases Nat.eq_zero_or_pos ((Nat.toDigits 10 n).length - 1) with hone | hmore
  · rw [hone]
    exact h
  · by_contra hlt
    have hle := (Nat.length_toDigits_le_iff (by decide) hmore).2 (Nat.lt_of_not_le hlt)
    omega

/-- The number has its first digit on the grid that the search begins with, or on the next one. -/
theorem coarsestGrid_bounds (hpos : 0 < x.magnitude) :
    10 ^ (coarsestGrid x - 1) ≤ Binary64.magnitudeRat x.magnitude ∧
      Binary64.magnitudeRat x.magnitude ≤ 10 ^ coarsestGrid x := by
  have hone := Binary64.cast_unitsPerOne_pos
  have hunits : 0 < x.units := by
    have hlt := Binary64.units_strictMono hpos
    exact Nat.zero_lt_of_lt hlt
  rw [coarsestGrid, Binary64.magnitudeRat, ← Binary64.units]
  split
  · rename_i hwhole
    have hlt : x.units < Binary64.unitsPerOne :=
      (Nat.div_eq_zero_iff.1 hwhole).resolve_left Binary64.unitsPerOne_pos.ne'
    obtain ⟨hlower, hupper⟩ := pow_length_toDigits (Nat.div_pos hlt.le hunits)
    rw [Nat.le_div_iff_mul_le hunits] at hlower
    rw [Nat.div_lt_iff_lt_mul hunits] at hupper
    have hlength : 0 < (Nat.toDigits 10 (Binary64.unitsPerOne / x.units)).length :=
      Nat.length_toDigits_pos
    generalize (Nat.toDigits 10 (Binary64.unitsPerOne / x.units)).length = k at *
    obtain ⟨k, rfl⟩ := Nat.exists_eq_add_of_le' hlength
    have hfirst : (1 : ℤ) - (k + 1 : ℕ) = -(k : ℕ) := by omega
    have hnext : (1 : ℤ) - (k + 1 : ℕ) - 1 = -(k + 1 : ℕ) := by omega
    rw [hnext, hfirst, zpow_neg, zpow_neg, zpow_natCast, zpow_natCast, inv_eq_one_div,
      inv_eq_one_div, div_le_div_iff₀ (by positivity) hone, div_le_div_iff₀ hone (by positivity)]
    constructor
    · rw [one_mul, mul_comm]
      exact_mod_cast hupper.le
    · rw [one_mul, mul_comm]
      exact_mod_cast hlower
  · rename_i hwhole
    obtain ⟨hlower, hupper⟩ := pow_length_toDigits (Nat.pos_of_ne_zero hwhole)
    have hlength : 0 < (Nat.toDigits 10 (x.units / Binary64.unitsPerOne)).length :=
      Nat.length_toDigits_pos
    rw [Nat.le_div_iff_mul_le Binary64.unitsPerOne_pos] at hlower
    rw [Nat.div_lt_iff_lt_mul Binary64.unitsPerOne_pos] at hupper
    generalize (Nat.toDigits 10 (x.units / Binary64.unitsPerOne)).length = k at *
    obtain ⟨k, rfl⟩ := Nat.exists_eq_add_of_le' hlength
    have hnext : ((k + 1 : ℕ) : ℤ) - 1 = (k : ℕ) := by omega
    rw [hnext, zpow_natCast, zpow_natCast, le_div_iff₀ hone, div_le_iff₀ hone]
    constructor
    · exact_mod_cast hlower
    · exact_mod_cast hupper.le

/-- No grid above the first one has a decimal that reads back. -/
theorem exponent_le_coarsestGrid (hfinite : x.isFinite = true) (hpos : 0 < x.magnitude)
    (hd : readsBack x d = true) : d.exponent ≤ coarsestGrid x := by
  obtain ⟨hcoefficient, hlt⟩ := toRat_of_readsBack hfinite hpos hd
  obtain ⟨-, hupper⟩ := coarsestGrid_bounds hpos
  by_contra hcoarse
  have hten := ten_zpow_pos (coarsestGrid x)
  have hgrid : (10 : ℚ) ^ (coarsestGrid x + 1) ≤ d.toRat :=
    calc (10 : ℚ) ^ (coarsestGrid x + 1) ≤ 10 ^ d.exponent :=
          zpow_le_zpow_right₀ (by norm_num) (by omega)
      _ ≤ d.toRat := le_mul_of_one_le_left (ten_zpow_pos _).le (Nat.one_le_cast.2 hcoefficient)
  rw [zpow_add_one₀ (by norm_num)] at hgrid
  linarith

/-- On the seventeenth grid behind the first one, the nearer neighbour reads back. -/
theorem exists_readsBack (hfinite : x.isFinite = true) (hpos : 0 < x.magnitude) :
    ∃ d, readsBack x d = true ∧ d.exponent = coarsestGrid x - 17 := by
  obtain ⟨hlower, -⟩ := coarsestGrid_bounds hpos
  have hten := ten_zpow_pos (coarsestGrid x - 17)
  have hsplit : (10 : ℚ) ^ (coarsestGrid x - 1) = 10 ^ (coarsestGrid x - 17) * 10 ^ 16 := by
    rw [← zpow_natCast (10 : ℚ) 16, ← zpow_add₀ (by norm_num)]
    congr 1
    omega
  have hbelow := toRat_below_le x (coarsestGrid x - 17)
  have habove := lt_toRat_above x (coarsestGrid x - 17)
  have hstep := toRat_above x (coarsestGrid x - 17)
  rw [hsplit] at hlower
  generalize coarsestGrid x - 17 = grid at *
  rcases le_total (2 * (Binary64.magnitudeRat x.magnitude - (below x.units grid).toRat))
    (10 ^ grid) with hnear | hnear
  · refine ⟨below x.units grid, readsBack_of_near hfinite ?_, rfl⟩
    rw [abs_sub_comm, abs_of_nonneg (sub_nonneg.2 hbelow)]
    linarith
  · refine ⟨above x.units grid, readsBack_of_near hfinite ?_, rfl⟩
    rw [abs_of_pos (sub_pos.2 habove)]
    linarith

/-! ### What the search comes to -/

theorem exists_first_of_findSome? {α : Type} {f : Nat → Option α} {n : Nat} {a : α}
    (h : (List.range n).findSome? f = some a) :
    ∃ k < n, f k = some a ∧ ∀ j < k, f j = none := by
  induction n with
  | zero => exact absurd h (by simp)
  | succ n ih =>
    rw [List.range_succ, List.findSome?_append, Option.or_eq_some_iff] at h
    rcases h with h | ⟨hnone, h⟩
    · obtain ⟨k, hk, hf⟩ := ih h
      exact ⟨k, Nat.lt_succ_of_lt hk, hf⟩
    · rw [List.findSome?_singleton] at h
      exact ⟨n, Nat.lt_succ_self n, h, fun j hj =>
        List.findSome?_eq_none_iff.1 hnone j (List.mem_range.2 hj)⟩

/-- The search always finds a decimal, on the first grid that has one. -/
theorem onGrid?_shortest (hfinite : x.isFinite = true) (hpos : 0 < x.magnitude) :
    onGrid? x (shortest x).exponent = some (shortest x) ∧
      ∀ d, readsBack x d = true → d.exponent ≤ (shortest x).exponent := by
  obtain ⟨d, hd, hexponent⟩ := exists_readsBack hfinite hpos
  obtain ⟨e, he⟩ := exists_onGrid? hfinite hd
  have hzero : x.isZero = false := decide_eq_false hpos.ne'
  cases hfind : (List.range 20).findSome? fun (step : Nat) =>
      onGrid? x (coarsestGrid x - step) with
  | none =>
    have hnone := List.findSome?_eq_none_iff.1 hfind 17 (by decide)
    rw [hexponent] at he
    exact absurd (hnone.symm.trans he) (by simp)
  | some d' =>
    have hshortest : shortest x = d' := by
      rw [shortest, hzero]
      simp [hfind]
    obtain ⟨step, -, hstep, hfirst⟩ := exists_first_of_findSome? hfind
    rw [hshortest, exponent_of_onGrid? hstep]
    refine ⟨hstep, fun c hc => ?_⟩
    by_contra hcoarse
    have hle := exponent_le_coarsestGrid hfinite hpos hc
    obtain ⟨e', he'⟩ := exists_onGrid? hfinite hc
    have hnone := hfirst (coarsestGrid x - c.exponent).toNat (by omega)
    rw [Int.toNat_of_nonneg (by omega), Int.sub_sub_self] at hnone
    exact absurd (hnone.symm.trans he') (by simp)

/-- Of the decimals of a grid that read back the nearest one is taken. -/
theorem abs_sub_le_of_onGrid? (hfinite : x.isFinite = true)
    (h : onGrid? x d.exponent = some e) (hd : readsBack x d = true) :
    |Binary64.magnitudeRat x.magnitude - e.toRat| ≤
      |Binary64.magnitudeRat x.magnitude - d.toRat| := by
  have hbelow := toRat_below_le x d.exponent
  have habove := lt_toRat_above x d.exponent
  have hstep := toRat_above x d.exponent
  have hnearer := nearerBelow_iff x d.exponent
  simp only [onGrid?] at h
  split at h
  · rename_i hlower
    obtain rfl := Option.some.inj h
    rw [abs_of_nonneg (sub_nonneg.2 hbelow)]
    rcases toRat_le_or_le x d with hle | hle
    · rw [abs_of_nonneg (sub_nonneg.2 (hle.trans hbelow))]
      exact sub_le_sub_left hle _
    · -- The neighbour above reads back too, so the one below has been taken for being nearer.
      have hupper := readsBack_above hfinite hd hle
      rw [hupper, Bool.not_true, Bool.or_false, Bool.and_eq_true, hnearer] at hlower
      rw [abs_sub_comm, abs_of_pos (sub_pos.2 (habove.trans_le hle))]
      linarith
  · rename_i hlower
    split at h
    · rename_i hupper
      obtain rfl := Option.some.inj h
      rw [abs_sub_comm, abs_of_pos (sub_pos.2 habove)]
      rcases toRat_le_or_le x d with hle | hle
      · rw [readsBack_below hfinite hd hle, hupper, Bool.not_true, Bool.or_false, Bool.true_and,
          hnearer] at hlower
        rw [abs_of_nonneg (sub_nonneg.2 (hle.trans hbelow))]
        linarith
      · rw [abs_sub_comm, abs_of_pos (sub_pos.2 (habove.trans_le hle))]
        exact sub_le_sub_right hle _
    · exact absurd h (by simp)

/-- Where a decimal that reads back is at most a power of ten on the grid of the one that is
written, that one is below the power. -/
theorem coefficient_shortest_lt (hfinite : x.isFinite = true) (hpos : 0 < x.magnitude) {k : Nat}
    (hk : 0 < k) (hd : readsBack x d = true)
    (hle : d.toRat ≤ 10 ^ k * 10 ^ (shortest x).exponent) :
    (shortest x).coefficient < 10 ^ k := by
  obtain ⟨hfound, hcoarsest⟩ := onGrid?_shortest hfinite hpos
  by_contra hlarge
  -- It would be between the decimal and the shortest one, and would read back itself.
  have hpower : toRat ⟨1, (shortest x).exponent + k⟩ = 10 ^ k * 10 ^ (shortest x).exponent := by
    rw [toRat, Nat.cast_one, one_mul, zpow_add₀ (by norm_num), zpow_natCast, mul_comm]
  have hcoefficient : ((10 ^ k : ℕ) : ℚ) ≤ (shortest x).coefficient :=
    Nat.cast_le.2 (Nat.le_of_not_lt hlarge)
  have hreads : readsBack x ⟨1, (shortest x).exponent + k⟩ = true := by
    refine readsBack_of_between hfinite hd (readsBack_of_onGrid? hfound) (hle.trans hpower.ge) ?_
    rw [hpower, ← Nat.cast_ofNat (R := ℚ) (n := 10), ← Nat.cast_pow]
    exact mul_le_mul_of_nonneg_right hcoefficient (zpow_nonneg (Nat.cast_nonneg 10) _)
  have hcoarse : (shortest x).exponent + k ≤ (shortest x).exponent := hcoarsest _ hreads
  omega

/-! ### The decimal that is written -/

theorem shortest_of_magnitude_eq_zero (h : x.magnitude = 0) : shortest x = ⟨0, 0⟩ :=
  if_pos (decide_eq_true h)

theorem readsBack_shortest (hfinite : x.isFinite = true) : readsBack x (shortest x) = true := by
  rcases Nat.eq_zero_or_pos x.magnitude with hzero | hpos
  · rw [shortest_of_magnitude_eq_zero hzero, readsBack, hzero]
    decide +kernel
  · exact readsBack_of_onGrid? (onGrid?_shortest hfinite hpos).1

/-- There are never more than seventeen digits. -/
theorem length_toDigits_shortest_le (hfinite : x.isFinite = true) :
    (Nat.toDigits 10 (shortest x).coefficient).length ≤ 17 := by
  refine (Nat.length_toDigits_le_iff (by decide) (by decide)).2 ?_
  rcases Nat.eq_zero_or_pos x.magnitude with hzero | hpos
  · rw [shortest_of_magnitude_eq_zero hzero]
    decide
  · obtain ⟨d, hd, hexponent⟩ := exists_readsBack hfinite hpos
    have hgrid := (onGrid?_shortest hfinite hpos).2 d hd
    obtain ⟨-, hupper⟩ := coarsestGrid_bounds hpos
    refine coefficient_shortest_lt hfinite hpos (by decide) (readsBack_exact hfinite) ?_
    rw [toRat_exact, ← zpow_natCast (10 : ℚ) 17, ← zpow_add₀ (by norm_num)]
    exact hupper.trans (zpow_le_zpow_right₀ (by norm_num) (by omega))

/-- No decimal that reads back has fewer digits. -/
theorem length_toDigits_shortest_le_of_readsBack (hfinite : x.isFinite = true)
    (hd : readsBack x d = true) :
    (Nat.toDigits 10 (shortest x).coefficient).length ≤
      (Nat.toDigits 10 d.coefficient).length := by
  have hlength : 0 < (Nat.toDigits 10 d.coefficient).length := Nat.length_toDigits_pos
  rcases Nat.eq_zero_or_pos x.magnitude with hzero | hpos
  · rw [shortest_of_magnitude_eq_zero hzero]
    exact hlength
  · have hlt := (Nat.length_toDigits_le_iff (by decide) hlength).1 (Nat.le_refl _)
    have hgrid : (10 : ℚ) ^ d.exponent ≤ 10 ^ (shortest x).exponent :=
      zpow_le_zpow_right₀ (by norm_num) ((onGrid?_shortest hfinite hpos).2 d hd)
    refine (Nat.length_toDigits_le_iff (by decide) hlength).2 ?_
    refine coefficient_shortest_lt hfinite hpos hlength hd ?_
    exact mul_le_mul (by exact_mod_cast hlt.le) hgrid (ten_zpow_pos _).le (by positivity)

/-- Of the decimals on the same grid that read back none is nearer. -/
theorem abs_sub_shortest_le (hfinite : x.isFinite = true) (hd : readsBack x d = true)
    (hgrid : d.exponent = (shortest x).exponent) :
    |Binary64.magnitudeRat x.magnitude - (shortest x).toRat| ≤
      |Binary64.magnitudeRat x.magnitude - d.toRat| := by
  rcases Nat.eq_zero_or_pos x.magnitude with hzero | hpos
  · have hvalue : toRat ⟨0, 0⟩ = 0 := by
      rw [toRat, Nat.cast_zero, zero_mul]
    rw [shortest_of_magnitude_eq_zero hzero, hzero, Binary64.magnitudeRat_zero, hvalue, sub_zero,
      abs_zero]
    exact abs_nonneg _
  · have hfound := (onGrid?_shortest hfinite hpos).1
    rw [← hgrid] at hfound
    exact abs_sub_le_of_onGrid? hfinite hfound hd

/-- The decimal is read as the number; none that is read so has fewer digits, and on the same grid
none is nearer. -/
structure IsShortest (d : Decimal) (x : Binary64) : Prop where
  toBinary64?_eq : d.toBinary64? = some x
  fewest : ∀ e : Decimal, e.toBinary64? = some x →
    (Nat.toDigits 10 d.coefficient).length ≤ (Nat.toDigits 10 e.coefficient).length
  nearest : ∀ e : Decimal, e.toBinary64? = some x → e.exponent = d.exponent →
    |x.toRat - d.toRat| ≤ |x.toRat - e.toRat|

/-- What is written of a number without a sign is the shortest decimal. -/
theorem isShortest_shortest (hfinite : x.isFinite = true) (hsign : x.isNegative = false) :
    (shortest x).IsShortest x := by
  have hreads (e : Decimal) : readsBack x e = true ↔ e.toBinary64? = some x := by
    rw [readsBack, beq_iff_eq, Binary64.ofMagnitude_magnitude hsign]
  refine ⟨(hreads _).1 (readsBack_shortest hfinite), fun e he => ?_, fun e he hgrid => ?_⟩
  · exact length_toDigits_shortest_le_of_readsBack hfinite ((hreads e).2 he)
  · rw [Binary64.toRat_of_not_isNegative hsign]
    exact abs_sub_shortest_le hfinite ((hreads e).2 he) hgrid

end Decimal

end Reckon
