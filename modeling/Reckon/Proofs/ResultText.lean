/-
The form of a result.

A result is written as a whole number without zeros in front, with at most two places behind the
point of which the last is not zero, and perhaps with a sign.  Zero has no sign.

* `Decimal.text_ofHundredths`: the digits that are written for so many hundredths;
* `isResultText_resultText`: the text of a finite result has the form;
* `trimmedText_eq_resultText`: it is what is left of the text with two places when its zeros and its
  point are taken away.
-/
import Reckon.Proofs.Rendering

namespace Reckon

/-! ### The form -/

/-- A whole number with no zero in front of its digits. -/
inductive IsWholeText : List Char → Prop where
  | zero : IsWholeText ['0']
  | positive {d : Char} {ds : List Char} (hd : d.isDigit = true) (hne : d ≠ '0')
      (hds : ∀ c ∈ ds, c.isDigit = true) : IsWholeText (d :: ds)

/-- At most two places after a point, with no zero at the end. -/
inductive IsPlacesText : List Char → Prop where
  | none : IsPlacesText []
  | tenths {d : Char} (hd : d.isDigit = true) (hne : d ≠ '0') : IsPlacesText ['.', d]
  | hundredths {c d : Char} (hc : c.isDigit = true) (hd : d.isDigit = true) (hne : d ≠ '0') :
      IsPlacesText ['.', c, d]

/-- What results are written as: perhaps a sign, a whole number and places, but no zero with a
sign. -/
def IsResultText (cs : List Char) : Prop :=
  cs ≠ ['-', '0'] ∧ ∃ sign whole places, cs = sign ++ (whole ++ places) ∧
    (sign = [] ∨ sign = ['-']) ∧ IsWholeText whole ∧ IsPlacesText places

theorem IsWholeText.exists_head {cs : List Char} (h : IsWholeText cs) :
    ∃ d ds, cs = d :: ds ∧ d.isDigit = true := by
  cases h with
  | zero => exact ⟨_, _, rfl, rfl⟩
  | positive hd => exact ⟨_, _, rfl, hd⟩

/-- A result begins with a sign or a digit. -/
theorem IsResultText.exists_head {cs : List Char} (h : IsResultText cs) :
    ∃ d ds, cs = d :: ds ∧ (d = '-' ∨ d.isDigit = true) := by
  obtain ⟨-, sign, whole, places, rfl, hsign, hwhole, -⟩ := h
  obtain ⟨d, ds, rfl, hd⟩ := hwhole.exists_head
  rcases hsign with rfl | rfl
  · exact ⟨d, ds ++ places, rfl, .inr hd⟩
  · exact ⟨'-', d :: (ds ++ places), rfl, .inl rfl⟩

/-! ### Digits -/

theorem isDigit_digitChar_mod (n : Nat) : (n % 10).digitChar.isDigit = true := by
  rw [Nat.isDigit_digitChar]
  exact decide_eq_true (Nat.mod_lt n (by decide))

theorem digitChar_ne_zero {n : Nat} (h : n ≠ 0) : n.digitChar ≠ '0' :=
  fun hzero => h (Nat.digitChar_eq_zero.1 hzero)

/-- The digits of a number begin with a zero only if the number is zero. -/
theorem exists_toDigits_eq_cons {n : Nat} (h : 0 < n) :
    ∃ d ds, Nat.toDigits 10 n = d :: ds ∧ d ≠ '0' := by
  induction n using Nat.strongRecOn with
  | ind n ih =>
    rcases Nat.lt_or_ge n 10 with hlt | hge
    · exact ⟨_, [], Nat.toDigits_of_lt_base hlt, digitChar_ne_zero (Nat.ne_of_gt h)⟩
    · obtain ⟨d, ds, hdigits, hd⟩ := ih (n / 10) (by omega) (by omega)
      refine ⟨d, ds ++ [(n % 10).digitChar], ?_, hd⟩
      rw [Nat.toDigits_of_base_le (by decide) hge, hdigits, List.cons_append]

theorem isWholeText_toDigits (n : Nat) : IsWholeText (Nat.toDigits 10 n) := by
  rcases Nat.eq_zero_or_pos n with rfl | hpos
  · exact .zero
  · have hdigit : ∀ c ∈ Nat.toDigits 10 n, c.isDigit = true := fun c hc =>
      Nat.isDigit_of_mem_toDigits (by decide) (by decide) hc
    obtain ⟨d, ds, hdigits, hne⟩ := exists_toDigits_eq_cons hpos
    rw [hdigits, List.forall_mem_cons] at hdigit
    rw [hdigits]
    exact .positive hdigit.1 hne hdigit.2

theorem leftpad_toDigits_of_lt_ten {n : Nat} (h : n < 10) :
    (Nat.toDigits 10 n).leftpad 1 '0' = [n.digitChar] := by
  rw [Nat.toDigits_of_lt_base h]
  rfl

theorem leftpad_toDigits_of_lt_hundred {n : Nat} (h : n < 100) :
    (Nat.toDigits 10 n).leftpad 2 '0' = [(n / 10).digitChar, (n % 10).digitChar] := by
  rcases Nat.lt_or_ge n 10 with hlt | hge
  · rw [Nat.toDigits_of_lt_base hlt, Nat.div_eq_of_lt hlt, Nat.mod_eq_of_lt hlt]
    rfl
  · rw [Nat.toDigits_of_base_le (by decide) hge,
      Nat.toDigits_of_lt_base (Nat.div_lt_of_lt_mul h)]
    rfl

/-! ### Results -/

namespace Decimal

/-- So many hundredths with two places. -/
theorem text_twoPlaces (n : Nat) :
    (⟨n, -2⟩ : Decimal).toNumeral.text =
      Nat.toDigits 10 (n / 100) ++ ['.', (n / 10 % 10).digitChar, (n % 10).digitChar] := by
  show Nat.toDigits 10 (n / 100) ++ '.' :: (Nat.toDigits 10 (n % 100)).leftpad 2 '0' = _
  have htenths : n % 100 / 10 = n / 10 % 10 := by omega
  have hhundredths : n % 100 % 10 = n % 10 := by omega
  rw [leftpad_toDigits_of_lt_hundred (Nat.mod_lt _ (by decide)), htenths, hhundredths]

/-- The places that are written for so many hundredths. -/
def placesText (n : Nat) : List Char :=
  if n % 100 = 0 then []
  else if n % 10 = 0 then ['.', (n / 10 % 10).digitChar]
  else ['.', (n / 10 % 10).digitChar, (n % 10).digitChar]

/-- So many hundredths are the whole digits of them and the places that are left. -/
theorem text_ofHundredths (n : Nat) :
    (ofHundredths n).toNumeral.text = Nat.toDigits 10 (n / 100) ++ placesText n := by
  unfold ofHundredths placesText
  split
  · show Nat.toDigits 10 (n / 100 * 1) = Nat.toDigits 10 (n / 100) ++ []
    rw [Nat.mul_one, List.append_nil]
  · split
    · show Nat.toDigits 10 (n / 10 / 10) ++ '.' :: (Nat.toDigits 10 (n / 10 % 10)).leftpad 1 '0' = _
      rw [Nat.div_div_eq_div_mul, leftpad_toDigits_of_lt_ten (Nat.mod_lt _ (by decide))]
    · exact text_twoPlaces n

theorem isPlacesText_placesText (n : Nat) : IsPlacesText (placesText n) := by
  unfold placesText
  split
  · exact .none
  · split
    · exact .tenths (isDigit_digitChar_mod _) (digitChar_ne_zero (by omega))
    · exact .hundredths (isDigit_digitChar_mod _) (isDigit_digitChar_mod _)
        (digitChar_ne_zero (by assumption))

/-- Only for zero a zero is written. -/
theorem text_ofHundredths_ne_zero {n : Nat} (h : n ≠ 0) :
    (ofHundredths n).toNumeral.text ≠ ['0'] := by
  rw [text_ofHundredths]
  intro htext
  rcases Nat.eq_zero_or_pos (n / 100) with hwhole | hwhole
  · -- There are hundredths, but no whole: so there are places.
    have hmod : n % 100 ≠ 0 := by omega
    unfold placesText at htext
    rw [hwhole, if_neg hmod] at htext
    split at htext <;> simp at htext
  · obtain ⟨d, ds, hdigits, hne⟩ := exists_toDigits_eq_cons hwhole
    rw [hdigits, List.cons_append] at htext
    exact hne (List.cons.inj htext).1

end Decimal

/-- The text of a finite result is of the form of results. -/
theorem isResultText_resultText {x : Binary64} (h : x.isFinite = true) :
    IsResultText (resultText x).toList := by
  have hwhole := isWholeText_toDigits (x.hundredths / 100)
  have hplaces := Decimal.isPlacesText_placesText x.hundredths
  have htext := Decimal.text_ofHundredths x.hundredths
  rw [resultText_of_isFinite h, hundredthsNumeral]
  split
  · rename_i hminus
    have hne : x.hundredths ≠ 0 := by
      simpa using (Bool.and_eq_true_iff.1 hminus).2
    rw [String.toList_ofList]
    refine ⟨fun heq => Decimal.text_ofHundredths_ne_zero hne (List.cons.inj heq).2, ['-'], _, _, ?_,
      .inr rfl, hwhole, hplaces⟩
    rw [htext, List.singleton_append]
  · rw [String.toList_ofList, htext]
    refine ⟨?_, [], _, _, rfl, .inl rfl, hwhole, hplaces⟩
    obtain ⟨d, ds, hdigits, hd⟩ := hwhole.exists_head
    rw [hdigits]
    intro heq
    obtain rfl := (List.cons.inj heq).1
    exact absurd hd (by decide)

/-! ### Results by steps -/

theorem trimEnd_concat_self (c : Char) (cs : List Char) : trimEnd c (cs ++ [c]) = trimEnd c cs := by
  simp [trimEnd]

theorem trimEnd_concat_of_ne {c d : Char} (h : d ≠ c) (cs : List Char) :
    trimEnd c (cs ++ [d]) = cs ++ [d] := by
  simp [trimEnd, h]

theorem ne_point_of_isDigit {d : Char} (hd : d.isDigit = true) : d ≠ '.' := by
  rintro rfl
  exact absurd hd (by decide)

/-- A number that has no point at its end. -/
theorem trimEnd_point_toDigits (sign : List Char) (n : Nat) :
    trimEnd '.' (sign ++ Nat.toDigits 10 n) = sign ++ Nat.toDigits 10 n := by
  rcases List.eq_nil_or_concat (Nat.toDigits 10 n) with hnil | ⟨front, d, hdigits⟩
  · exact absurd hnil Nat.toDigits_ne_nil
  · rw [List.concat_eq_append] at hdigits
    have hd : d.isDigit = true := Nat.isDigit_of_mem_toDigits (by decide) (by decide)
      (hdigits ▸ List.mem_append_right front List.mem_cons_self)
    rw [hdigits, ← List.append_assoc]
    exact trimEnd_concat_of_ne (ne_point_of_isDigit hd) _

/-- Of the two places those stay that are needed. -/
theorem trimEnd_twoPlaces (sign : List Char) (n : Nat) :
    trimEnd '.' (trimEnd '0' (sign ++ (⟨n, -2⟩ : Decimal).toNumeral.text)) =
      sign ++ (Nat.toDigits 10 (n / 100) ++ Decimal.placesText n) := by
  have htext (front : List Char) (c d : Char) :
      sign ++ (front ++ ['.', c, d]) = sign ++ front ++ ['.'] ++ [c] ++ [d] := by simp
  rw [Decimal.text_twoPlaces, htext, Decimal.placesText]
  have hzero : Nat.digitChar 0 = '0' := rfl
  by_cases hones : n % 10 = 0
  · rw [hones, hzero, trimEnd_concat_self]
    by_cases htens : n / 10 % 10 = 0
    · -- No place is left, and the point goes, too.
      rw [htens, hzero, trimEnd_concat_self, trimEnd_concat_of_ne (by decide),
        trimEnd_concat_self, if_pos (by omega), trimEnd_point_toDigits, List.append_nil]
    · have hne : (n / 10 % 10).digitChar ≠ '0' := digitChar_ne_zero htens
      rw [trimEnd_concat_of_ne hne,
        trimEnd_concat_of_ne (ne_point_of_isDigit (isDigit_digitChar_mod _)),
        if_neg (by omega), if_pos rfl]
      simp
  · have hne : (n % 10).digitChar ≠ '0' := digitChar_ne_zero hones
    rw [trimEnd_concat_of_ne hne,
      trimEnd_concat_of_ne (ne_point_of_isDigit (isDigit_digitChar_mod _)), if_neg (by omega),
      if_neg hones]
    simp

theorem twoPlaceText_of_isFinite {x : Binary64} (h : x.isFinite = true) :
    twoPlaceText x = (if x.isNegative then ['-'] else []) ++
      (⟨x.hundredths, -2⟩ : Decimal).toNumeral.text := by
  have hnan := Binary64.isNaN_eq_false_of_isFinite h
  cases hsign : x.isNegative <;> simp [twoPlaceText, hnan, h, hsign]

/-- Before the last step a finite result has the digits that it should have, and zero may still have
a sign. -/
theorem trimmedText_of_isFinite {x : Binary64} (h : x.isFinite = true) :
    trimmedText x = String.ofList
      (let kept := (if x.isNegative then ['-'] else []) ++ (hundredthsNumeral x.hundredths).text
      if kept = ['-', '0'] then kept.tail else kept) := by
  have hpoint : (twoPlaceText x).contains '.' = true := by
    simp [twoPlaceText_of_isFinite h, Decimal.text_twoPlaces]
  rw [trimmedText, if_pos hpoint, twoPlaceText_of_isFinite h, trimEnd_twoPlaces,
    ← Decimal.text_ofHundredths, ← hundredthsNumeral]

/-- The text of a result is that with two places when what is not needed is taken away. -/
theorem trimmedText_eq_resultText (x : Binary64) : trimmedText x = resultText x := by
  cases hfinite : x.isFinite with
  | false =>
    -- There is no point in the name, and so nothing is taken away.
    cases hnan : x.isNaN with
    | true => simp [trimmedText, twoPlaceText, resultText, hnan]
    | false => cases hsign : x.isNegative <;>
        simp [trimmedText, twoPlaceText, resultText, hnan, hfinite, hsign]
  | true =>
    have hform := isResultText_resultText hfinite
    rw [trimmedText_of_isFinite hfinite]
    rw [resultText_of_isFinite hfinite] at hform ⊢
    -- Only zero with a sign is changed by the last step.
    by_cases hminus : (x.isNegative && x.hundredths != 0) = true
    · obtain ⟨hnegative, -⟩ := Bool.and_eq_true_iff.1 hminus
      rw [if_pos hminus, String.toList_ofList] at hform
      rw [if_pos hminus, if_pos hnegative, List.singleton_append, if_neg hform.1]
    · rw [if_neg hminus, String.toList_ofList] at hform
      rw [if_neg hminus]
      cases hsign : x.isNegative with
      | false => rw [if_neg Bool.false_ne_true, List.nil_append, if_neg hform.1]
      | true =>
        have hzero : x.hundredths = 0 := by simpa [hsign] using hminus
        rw [hzero]
        rfl

end Reckon
