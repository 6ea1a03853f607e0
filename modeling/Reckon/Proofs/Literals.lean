/-
Numbers are read exactly.

A number of any length stands for a rational, and the token that is made for it has the nearest
double-precision number.  The last digit of a long number may decide which one that is, and whether
there is one; and the digits that make no difference to the rational make none to the token.

* `Numeral.isNearest_of_toBinary64?`, `Numeral.toBinary64?_eq_none_iff`: what a numeral is read as;
* `Numeral.toBinary64?_eq_of_toRat_eq`: that is up to its value alone;
* `Lexer.Faces.next_eq`: what the lexer gives where a numeral is next.
-/
import Reckon.Proofs.NearestNumber
import Reckon.Proofs.ReadOn
import Reckon.Proofs.Words

namespace Reckon

/-! ### Values -/

namespace Numeral

variable {n m : Numeral} {x y : Binary64}

theorem isNearest_of_toBinary64? (h : n.toBinary64? = some x) : Binary64.IsNearest n.toRat x := by
  rw [toRat_eq]
  exact Binary64.isNearest_of_ofRatio? n.denominator_pos h

theorem toBinary64?_eq_none_iff : n.toBinary64? = none ↔ Binary64.leastOverflow ≤ n.toRat := by
  rw [toRat_eq]
  exact Binary64.ofRatio?_eq_none_iff_le n.denominator_pos

/-- Numerals of one value are read alike. -/
theorem toBinary64?_eq_of_toRat_eq (h : n.toRat = m.toRat) : n.toBinary64? = m.toBinary64? := by
  have hn : (n.denominator : ℚ) ≠ 0 := Nat.cast_ne_zero.2 n.denominator_pos.ne'
  have hm : (m.denominator : ℚ) ≠ 0 := Nat.cast_ne_zero.2 m.denominator_pos.ne'
  rw [toRat_eq, toRat_eq, div_eq_div_iff hn hm] at h
  have hratio : n.numerator * m.denominator = m.numerator * n.denominator := by exact_mod_cast h
  rw [toBinary64?, toBinary64?, Binary64.ofRatio?, Binary64.ofRatio?,
    Binary64.nearestMagnitude_eq_of_ratio n.denominator_pos m.denominator_pos hratio]

/-- A larger numeral is not read as a smaller number. -/
theorem toRat_le_of_toBinary64? (hle : n.toRat ≤ m.toRat) (hx : n.toBinary64? = some x)
    (hy : m.toBinary64? = some y) : x.toRat ≤ y.toRat :=
  (isNearest_of_toBinary64? hx).mono hle (Binary64.isNegative_of_ofRatio? hx)
    (isNearest_of_toBinary64? hy) (Binary64.isNegative_of_ofRatio? hy)

theorem toRat_leading_zeros (k : Nat) (whole : List Char) (fraction : Option (List Char)) :
    (⟨List.replicate k '0' ++ whole, fraction⟩ : Numeral).toRat =
      (⟨whole, fraction⟩ : Numeral).toRat := by
  have hwhole : Nat.ofDigitChars 10 (List.replicate k '0' ++ whole) 0 =
      Nat.ofDigitChars 10 whole 0 := by
    rw [Nat.ofDigitChars_append, Nat.ofDigitChars_replicate_zero, Nat.mul_zero]
  rw [toRat, toRat, hwhole]
  rfl

theorem toRat_trailing_zeros (k : Nat) (whole places : List Char) :
    (⟨whole, some (places ++ List.replicate k '0')⟩ : Numeral).toRat =
      (⟨whole, some places⟩ : Numeral).toRat := by
  have hplaces : (Nat.ofDigitChars 10 (places ++ List.replicate k '0') 0 : ℚ) =
      10 ^ k * Nat.ofDigitChars 10 places 0 := by
    rw [Nat.ofDigitChars_append, Nat.ofDigitChars_replicate_zero]
    push_cast
    rfl
  have hpos : (0 : ℚ) < 10 ^ k := by positivity
  show (Nat.ofDigitChars 10 whole 0 : ℚ) + Nat.ofDigitChars 10 (places ++ List.replicate k '0') 0 /
      10 ^ (places ++ List.replicate k '0').length =
    Nat.ofDigitChars 10 whole 0 + Nat.ofDigitChars 10 places 0 / 10 ^ places.length
  rw [hplaces, List.length_append, List.length_replicate, pow_add, mul_comm (10 ^ places.length),
    mul_div_mul_left _ _ hpos.ne']

/-- A point with nothing behind it adds nothing. -/
theorem toRat_point (whole : List Char) :
    (⟨whole, some []⟩ : Numeral).toRat = (⟨whole, none⟩ : Numeral).toRat := rfl

end Numeral

/-! ### Tokens -/

namespace Lexer

/-- After blanks the numeral is next, as long a number as there is, and `rest` is behind it. -/
structure Faces (l : Lexer) (gap : List Char) (n : Numeral) (rest : List Char) : Prop where
  exhausted_eq : l.exhausted = false
  rest_eq : l.rest = gap ++ (n.text ++ rest)
  isBlank_of_mem : ∀ c ∈ gap, isBlank c = true
  longest : (Lexeme.number n).LongestIn (n.text ++ rest)

variable {l : Lexer} {gap rest : List Char} {n : Numeral}

theorem Faces.next_eq (h : l.Faces gap n rest) :
    l.next = some (l.item (l.offset + Text.byteLength gap) (n.text ++ rest)) :=
  next_lexeme h.exhausted_eq h.rest_eq h.isBlank_of_mem h.longest.wellFormed

/-- A text that is a numeral and nothing else. -/
theorem faces_start (hn : n.WellFormed) : (Lexer.start (String.ofList n.text)).Faces [] n [] := by
  refine ⟨rfl, ?_, isBlank_of_mem_nil, Lexeme.longestIn_of_stops hn rfl⟩
  rw [start, String.toList_ofList, List.nil_append, List.append_nil]

theorem Faces.munch_eq (h : l.Faces gap n rest) :
    Lexeme.munch (n.text ++ rest) = some (.number n, rest) :=
  Lexeme.munch_eq_some_iff_longest.2 ⟨h.longest, rfl⟩

end Lexer

/-- **Numbers are read exactly**, however long they are.  Where the lexer comes to a number, it
gives the token with the finite number nearest to its value, of two the one with the even
significand, and zero without a sign.  But if the value is half way or more from the largest finite
number to the next power of two, it gives the error with all of the number.  A larger number is not
read as a smaller one, and zeros in front, zeros behind the places and a point at the end make no
difference. -/
theorem literals_exact :
    (∀ l gap n rest start stop, Lexer.Faces l gap n rest → start = l.offset + Text.byteLength gap →
      stop = start + Text.byteLength n.text →
      (n.toRat < Binary64.leastOverflow → ∃ x, n.toBinary64? = some x ∧
        l.next = some (.ok ⟨.number x, .ofRange start stop⟩, { l with rest, offset := stop }) ∧
        Binary64.IsNearest n.toRat x ∧ x.isNegative = false ∧
        ∀ y, Binary64.IsNearest n.toRat y → y.isNegative = false → y = x) ∧
      (Binary64.leastOverflow ≤ n.toRat → n.toBinary64? = none ∧
        l.next = some (.error (.numberOutOfRange (String.ofList n.text) (saturate start)),
          l.finish))) ∧
    (∀ (n m : Numeral) (x y : Binary64), n.toRat ≤ m.toRat → n.toBinary64? = some x →
      m.toBinary64? = some y → x.toRat ≤ y.toRat) ∧
    (∀ k whole fraction, (⟨List.replicate k '0' ++ whole, fraction⟩ : Numeral).toBinary64? =
      (⟨whole, fraction⟩ : Numeral).toBinary64?) ∧
    (∀ k whole places, (⟨whole, some (places ++ List.replicate k '0')⟩ : Numeral).toBinary64? =
      (⟨whole, some places⟩ : Numeral).toBinary64?) ∧
    ∀ whole, (⟨whole, some []⟩ : Numeral).toBinary64? = (⟨whole, none⟩ : Numeral).toBinary64? := by
  refine ⟨?_, fun n m x y => Numeral.toRat_le_of_toBinary64?, fun k whole fraction => ?_,
    fun k whole places => ?_, fun whole => ?_⟩
  · rintro l gap n rest start stop h rfl rfl
    refine ⟨fun hsmall => ?_, fun hlarge => ?_⟩
    · obtain ⟨x, hx⟩ : ∃ x, n.toBinary64? = some x := by
        refine Option.ne_none_iff_exists'.1 fun hnone => ?_
        exact absurd (Numeral.toBinary64?_eq_none_iff.1 hnone) (not_le_of_gt hsmall)
      have hkind : (Lexeme.number n).kind? = some (.number x) := by
        rw [Lexeme.kind?, hx, Option.map_some]
      have hnearest := Numeral.isNearest_of_toBinary64? hx
      have hsign := Binary64.isNegative_of_ofRatio? hx
      refine ⟨x, hx, ?_, hnearest, hsign, fun y hy hysign => hy.unique hysign hnearest hsign⟩
      rw [h.next_eq, Lexer.item_of_kind?_eq_some _ _ h.munch_eq hkind]
      rfl
    · have hnone := Numeral.toBinary64?_eq_none_iff.2 hlarge
      refine ⟨hnone, ?_⟩
      rw [h.next_eq,
        Lexer.item_of_kind?_eq_none _ _ h.munch_eq (Lexeme.kind?_eq_none_of_range hnone)]
      rfl
  · exact Numeral.toBinary64?_eq_of_toRat_eq (Numeral.toRat_leading_zeros k whole fraction)
  · exact Numeral.toBinary64?_eq_of_toRat_eq (Numeral.toRat_trailing_zeros k whole places)
  · exact Numeral.toBinary64?_eq_of_toRat_eq (Numeral.toRat_point whole)

/-- A number half way between two goes to the even one.  The number half way between the largest
finite one and the next power of two goes to neither. -/
theorem literals_exact_half :
    (Lexer.start "9007199254740993").next =
      some (.ok ⟨.number ⟨0x4340000000000000⟩, ⟨0, 16⟩⟩, ⟨"9007199254740993", [], 16, false⟩) ∧
    Binary64.IsNearest 9007199254740993 ⟨0x4340000000000000⟩ ∧
    ∃ n : Numeral, n.WellFormed ∧ n.toRat = Binary64.leastOverflow ∧
      (Lexer.start (String.ofList n.text)).next =
        some (.error (.numberOutOfRange (String.ofList n.text) 0),
          (Lexer.start (String.ofList n.text)).finish) := by
  have hdigits (k : Nat) : (⟨Nat.toDigits 10 k, none⟩ : Numeral).WellFormed := by
    refine ⟨fun c hc => ?_, by simp [Nat.toDigits_ne_nil]⟩
    rw [Numeral.places, Option.getD_none, List.append_nil] at hc
    exact Nat.isDigit_of_mem_toDigits (by decide) (by decide) hc
  have hvalue (k : Nat) : (⟨Nat.toDigits 10 k, none⟩ : Numeral).toRat = k := by
    show (Nat.ofDigitChars 10 (Nat.toDigits 10 k) 0 : ℚ) + Nat.ofDigitChars 10 [] 0 / 10 ^ 0 = k
    rw [Nat.ofDigitChars_ten_toDigits]
    simp
  have hpow (j k : Nat) (h : k ≤ j) : ((2 ^ j - 2 ^ k : ℕ) : ℚ) = 2 ^ j - 2 ^ k := by
    rw [Nat.cast_sub (Nat.pow_le_pow_right (by decide) h), Nat.cast_pow, Nat.cast_pow, Nat.cast_two]
  obtain ⟨htokens, -⟩ := literals_exact
  have hread : (⟨Nat.toDigits 10 9007199254740993, none⟩ : Numeral).toBinary64? =
      some ⟨0x4340000000000000⟩ := by decide +kernel
  have hsmall := lt_of_not_ge fun hle => absurd (Numeral.toBinary64?_eq_none_iff.2 hle)
    (hread ▸ Option.some_ne_none _)
  obtain ⟨x, hx, hnext, hnearest, -⟩ :=
    (htokens _ _ _ _ 0 16 (Lexer.faces_start (hdigits 9007199254740993)) rfl (by decide)).1 hsmall
  obtain rfl := Option.some.inj (hx.symm.trans hread)
  rw [hvalue] at hnearest
  refine ⟨hnext, hnearest, ⟨Nat.toDigits 10 (2 ^ 1024 - 2 ^ 970), none⟩, hdigits _, ?_, ?_⟩
  · rw [hvalue, hpow _ _ (by decide), Binary64.leastOverflow]
  · refine ((htokens _ _ _ _ 0 _ (Lexer.faces_start (hdigits _)) rfl rfl).2 ?_).2
    rw [hvalue, hpow _ _ (by decide), Binary64.leastOverflow]

end Reckon
