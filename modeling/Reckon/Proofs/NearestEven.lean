/-
The nearest of several numbers, and of two the even one.

Results are rounded to whole hundredths and decimals to double-precision numbers.  Both go to the
nearest of the numbers that there are, and where two are equally near, to the even one of them.
Here the numbers are rational, and it is said what nearest means without saying how it is found.

* `NearestEven.mono`: a larger number has no smaller nearest one, wherever there is some number
  between two even ones; so the nearest one is unique;
* `isNearestInt_of_half`: a whole number within a half is nearest;
* `isNearestInt_of_isRounded`: so `roundHalfEven` finds the nearest one.
-/
import Mathlib.Algebra.Order.Field.Rat
import Mathlib.Algebra.Order.Ring.Abs
import Reckon.Proofs.Nearest

namespace Reckon

/-! ### Distances -/

section
variable {q x y : ℚ}

theorem abs_sub_le_abs_sub_iff (q x y : ℚ) :
    |q - x| ≤ |q - y| ↔ 0 ≤ (y - x) * (x + y - 2 * q) := by
  have hdifference : (q - y) ^ 2 - (q - x) ^ 2 = (y - x) * (x + y - 2 * q) := by ring
  rw [← sq_le_sq, ← sub_nonneg, hdifference]

theorem abs_sub_le_abs_sub_iff_of_lt (h : x < y) : |q - x| ≤ |q - y| ↔ 2 * q ≤ x + y := by
  rw [abs_sub_le_abs_sub_iff, mul_nonneg_iff_of_pos_left (sub_pos.2 h), sub_nonneg]

theorem abs_sub_le_abs_sub_iff_of_gt (h : x < y) : |q - y| ≤ |q - x| ↔ x + y ≤ 2 * q := by
  have hswap : (x - y) * (y + x - 2 * q) = (y - x) * (2 * q - (x + y)) := by ring
  rw [abs_sub_le_abs_sub_iff, hswap, mul_nonneg_iff_of_pos_left (sub_pos.2 h), sub_nonneg]

end

/-! ### The nearest number -/

/-- None of the candidates is nearer to `q` than `a`; and if one of another value is just as near,
then `a` is even. -/
structure NearestEven {α : Type} (value : α → ℚ) (among even : α → Prop) (q : ℚ) (a : α) :
    Prop where
  mem : among a
  nearest : ∀ b, among b → |q - value a| ≤ |q - value b|
  even_of_tie : ∀ b, among b → value b ≠ value a → |q - value b| = |q - value a| → even a

section
variable {α : Type} {value : α → ℚ} {among even : α → Prop} {q r : ℚ} {a b : α}

/-- Where no two even candidates are neighbours, a larger number has no smaller nearest one. -/
theorem NearestEven.mono
    (hbetween : ∀ a b, among a → among b → even a → even b → value a < value b →
      ∃ c, among c ∧ value a < value c ∧ value c < value b)
    (hle : q ≤ r) (ha : NearestEven value among even q a) (hb : NearestEven value among even r b) :
    value a ≤ value b := by
  by_contra hgt
  have hlt := lt_of_not_ge hgt
  -- Both numbers are just half way between the two.
  have hlower := (abs_sub_le_abs_sub_iff_of_gt hlt).1 (ha.nearest b hb.mem)
  have hupper := (abs_sub_le_abs_sub_iff_of_lt hlt).1 (hb.nearest a ha.mem)
  obtain rfl : q = r := by linarith
  have htie : |q - value b| = |q - value a| :=
    le_antisymm (hb.nearest a ha.mem) (ha.nearest b hb.mem)
  obtain ⟨c, hc, hbc, hca⟩ := hbetween b a hb.mem ha.mem
    (hb.even_of_tie a ha.mem hlt.ne' htie.symm) (ha.even_of_tie b hb.mem hlt.ne htie) hlt
  have hnearer := (abs_sub_le_abs_sub_iff_of_lt hbc).1 (hb.nearest c hc)
  linarith

end

/-! ### Whole numbers -/

/-- The whole number nearest to `q`, of two the even one. -/
def IsNearestInt (q : ℚ) (n : ℤ) : Prop :=
  NearestEven (fun n : ℤ => (n : ℚ)) (fun _ => True) Even q n

section
variable {q r : ℚ} {m n : ℤ}

theorem IsNearestInt.mono (hle : q ≤ r) (hn : IsNearestInt q n) (hm : IsNearestInt r m) :
    n ≤ m := by
  have hcast : (n : ℚ) ≤ m := by
    refine NearestEven.mono ?_ hle hn hm
    rintro a b - - ha hb hlt
    -- Even numbers are two apart.
    have hlt : a < b := Int.cast_lt.1 hlt
    rw [Int.even_iff] at ha hb
    exact ⟨a + 1, trivial, Int.cast_lt.2 (by omega), Int.cast_lt.2 (by omega)⟩
  exact Int.cast_le.1 hcast

theorem IsNearestInt.unique (hn : IsNearestInt q n) (hm : IsNearestInt q m) : n = m :=
  le_antisymm (hn.mono le_rfl hm) (hm.mono le_rfl hn)

/-- A number within a half is nearest. -/
theorem isNearestInt_of_half (h : 2 * |q - n| < 1 ∨ 2 * |q - n| = 1 ∧ Even n) :
    IsNearestInt q n := by
  -- Every other whole number is off by one at least from this one.
  have hother {m : ℤ} (hne : m ≠ n) : 1 ≤ |q - n| + |q - m| := by
    have hone : (1 : ℚ) ≤ |((n - m : ℤ) : ℚ)| := by
      rw [← Int.cast_abs]
      exact_mod_cast Int.one_le_abs (sub_ne_zero.2 hne.symm)
    calc (1 : ℚ) ≤ |((n - m : ℤ) : ℚ)| := hone
      _ = |(n - q) + (q - m)| := by
        rw [sub_add_sub_cancel, Int.cast_sub]
      _ ≤ |n - q| + |q - m| := abs_add_le _ _
      _ = |q - n| + |q - m| := by rw [abs_sub_comm (n : ℚ) q]
  refine ⟨trivial, fun m _ => ?_, fun m _ hne htie => ?_⟩
  · by_cases hne : m = n
    · rw [hne]
    · have hfar := hother hne
      rcases h with h | ⟨h, -⟩ <;> linarith
  · have hfar := hother (m := m) fun heq => hne (congrArg _ heq)
    rcases h with h | ⟨-, heven⟩
    · linarith
    · exact heven

theorem IsNearestInt.neg (h : IsNearestInt q n) : IsNearestInt (-q) (-n) := by
  have hswap (m : ℤ) : |-q - ((-m : ℤ) : ℚ)| = |q - m| := by
    rw [Int.cast_neg, ← neg_sub', abs_neg]
  refine ⟨trivial, fun m _ => ?_, fun m _ hne htie => ?_⟩
  · have hnearest := h.nearest (-m) trivial
    rw [← hswap, ← hswap, neg_neg] at hnearest
    exact hnearest
  · rw [← neg_neg m, hswap, hswap] at htie
    refine Even.neg (h.even_of_tie (-m) trivial (fun heq => hne ?_) htie)
    rw [← neg_neg m, Int.cast_neg, heq, ← Int.cast_neg]

/-- The gap to a whole number, in parts of `1 / den`. -/
theorem cast_gapTo (num : Nat) {den : Nat} (hden : 0 < den) (k : Nat) :
    (gapTo num den k : ℚ) = den * |(num : ℚ) / den - k| := by
  have hpos : (0 : ℚ) < den := Nat.cast_pos.2 hden
  have hscaled : (den : ℚ) * |(num : ℚ) / den - k| = |(num : ℚ) - (k * den : ℕ)| := by
    have hparts : (den : ℚ) * ((num : ℚ) / den - k) = (num : ℚ) - (k * den : ℕ) := by
      rw [mul_sub, mul_div_cancel₀ _ hpos.ne', Nat.cast_mul, mul_comm (den : ℚ)]
    rw [← hparts, abs_mul, abs_of_pos hpos]
  rw [hscaled, gapTo]
  rcases Nat.le_total num (k * den) with hle | hle
  · rw [Nat.sub_eq_zero_of_le hle, Nat.zero_add, Nat.cast_sub hle, abs_sub_comm,
      abs_of_nonneg (sub_nonneg.2 (Nat.cast_le.2 hle))]
  · rw [Nat.sub_eq_zero_of_le hle, Nat.add_zero, Nat.cast_sub hle,
      abs_of_nonneg (sub_nonneg.2 (Nat.cast_le.2 hle))]

/-- What is rounded in parts of `1 / den` is nearest. -/
theorem isNearestInt_of_isRounded {num den k : Nat} (hden : 0 < den) (h : IsRounded num den k) :
    IsNearestInt ((num : ℚ) / den) k := by
  have hpos : (0 : ℚ) < den := Nat.cast_pos.2 hden
  have hgap := cast_gapTo num hden k
  refine isNearestInt_of_half (h.imp (fun hlt => ?_) fun ⟨htie, heven⟩ => ⟨?_, ?_⟩)
  · have hcast : 2 * (gapTo num den k : ℚ) < den := by exact_mod_cast hlt
    rw [hgap, mul_left_comm] at hcast
    exact (mul_lt_iff_lt_one_right hpos).1 hcast
  · have hcast : 2 * (gapTo num den k : ℚ) = den := by exact_mod_cast htie
    rw [hgap, mul_left_comm] at hcast
    exact (mul_eq_left₀ hpos.ne').1 hcast
  · exact (Int.even_coe_nat k).2 (Nat.even_iff.2 heven)

end

end Reckon
