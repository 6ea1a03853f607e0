/-
Rounding a quotient to the nearest whole number.

`roundHalfEven num den` is the whole number nearest to `num / den`; of two that are
equally near it is the even one.  Both the conversion of decimals to binary numbers and
the printing of results to two places come down to it.

* `roundHalfEven_mul_le`, `le_roundHalfEven_mul`: the result is within half a unit of
  the quotient;
* `roundHalfEven_even_of_tie`: a quotient half way between two whole numbers goes to
  the even one;
* `roundHalfEven_mul_right`: a whole quotient is kept.
-/

namespace Reckon

/-- The quotient `num / den` rounded to the nearest whole number, a half going to the even one. -/
def roundHalfEven (num den : Nat) : Nat :=
  if 2 * (num % den) < den then num / den
  else if den < 2 * (num % den) then num / den + 1
  else num / den + num / den % 2

section
variable {num den : Nat}

/-- The result lies between the quotient rounded down and the quotient rounded up. -/
theorem roundHalfEven_eq_or (num den : Nat) :
    (roundHalfEven num den = num / den ∧ 2 * (num % den) ≤ den) ∨
      (roundHalfEven num den = num / den + 1 ∧ den ≤ 2 * (num % den)) := by
  unfold roundHalfEven
  split
  · exact .inl ⟨rfl, by omega⟩
  · split
    · exact .inr ⟨rfl, by omega⟩
    · rcases Nat.mod_two_eq_zero_or_one (num / den) with h | h <;> rw [h]
      · exact .inl ⟨rfl, by omega⟩
      · exact .inr ⟨rfl, by omega⟩

theorem roundHalfEven_mul_le (num den : Nat) :
    2 * (roundHalfEven num den * den) ≤ 2 * num + den := by
  have hdiv := Nat.div_add_mod' num den
  rcases roundHalfEven_eq_or num den with ⟨h, hle⟩ | ⟨h, hle⟩ <;> rw [h]
  · omega
  · rw [Nat.add_mul]
    omega

theorem le_roundHalfEven_mul (h : 0 < den) :
    2 * num ≤ 2 * (roundHalfEven num den * den) + den := by
  have hdiv := Nat.div_add_mod' num den
  have hmod := Nat.mod_lt num h
  rcases roundHalfEven_eq_or num den with ⟨h, hle⟩ | ⟨h, hle⟩ <;> rw [h]
  · omega
  · rw [Nat.add_mul]
    omega

theorem roundHalfEven_even_of_tie (h : 2 * (num % den) = den) :
    roundHalfEven num den % 2 = 0 := by
  simp only [roundHalfEven, h, Nat.lt_irrefl, if_false]
  omega

theorem roundHalfEven_mul_right (n : Nat) (h : 0 < den) : roundHalfEven (n * den) den = n := by
  simp [roundHalfEven, Nat.mul_div_cancel _ h, Nat.mul_mod_left, h]

end

end Reckon
