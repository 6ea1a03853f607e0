/-
Numbers as they are written in full.

A finite number is written in the plain layout as a numeral, behind a sign if it has one.  The
numeral is that of the shortest decimal, which reads back, and it is not too long for a text.  So
the text of a number without a sign is a number to the lexer again, the same one.

* `Decimal.le_exponent_shortest`, `Decimal.length_text_toNumeral_le`: how long a number gets;
* `Binary64.text_plain`, `Binary64.size_text_plain`: the text of a number, which has room;
* `literal_reads_back`: the tokens of that text.
-/
import Mathlib.Data.Nat.Cast.Order.Field
import Reckon.Expr.Sexpr
import Reckon.Proofs.Literals
import Reckon.Proofs.Operands
import Reckon.Proofs.Rendering
import Reckon.Proofs.ShortestDigits

namespace Reckon

/-! ### How long a number is -/

namespace Decimal

variable {x : Binary64}

/-- The search does not begin with a grid finer than this, whatever the number. -/
theorem le_coarsestGrid (x : Binary64) : -1074 ≤ coarsestGrid x := by
  obtain ⟨k, hk, p, -, hone⟩ := exists_places_exact x
  have hp : p ≠ 0 := by
    rintro rfl
    rw [Nat.zero_mul] at hone
    exact absurd hone.symm (Nat.pow_pos (by decide)).ne'
  have hlength : (Nat.toDigits 10 (Binary64.unitsPerOne / x.units)).length ≤ k + 1 := by
    refine (Nat.length_toDigits_le_iff (by decide) (Nat.succ_pos k)).2 ?_
    calc Binary64.unitsPerOne / x.units ≤ Binary64.unitsPerOne := Nat.div_le_self _ _
      _ ≤ p * Binary64.unitsPerOne := Nat.le_mul_of_pos_left _ (Nat.pos_of_ne_zero hp)
      _ = 10 ^ k := hone
      _ < 10 ^ (k + 1) := Nat.pow_lt_pow_right (by decide) (Nat.lt_succ_self k)
  unfold coarsestGrid
  dsimp only
  split <;> omega

theorem le_exponent_shortest (h : x.isFinite = true) : -1100 ≤ (shortest x).exponent := by
  rcases Nat.eq_zero_or_pos x.magnitude with hzero | hpos
  · rw [shortest_of_magnitude_eq_zero hzero]
    decide
  · obtain ⟨d, hd, hexponent⟩ := exists_readsBack h hpos
    have hle := (onGrid?_shortest h hpos).2 d hd
    have hfirst := le_coarsestGrid x
    omega

/-- What is written before the point is the whole part. -/
theorem whole_toNumeral (d : Decimal) :
    d.toNumeral.whole = Nat.toDigits 10 (d.numerator / d.denominator) := by
  obtain ⟨c, zeros | k⟩ := d
  · show Nat.toDigits 10 (c * Nat.pow 10 zeros) =
      Nat.toDigits 10 (c * Nat.pow 10 (zeros : Int).toNat / Nat.pow 10 (-(zeros : Int)).toNat)
    rw [Int.toNat_natCast, Int.toNat_neg_natCast]
    exact congrArg _ (Nat.div_one _).symm
  · show Nat.toDigits 10 (c / Nat.pow 10 (k + 1)) = Nat.toDigits 10 (c * 1 / Nat.pow 10 (k + 1))
    rw [Nat.mul_one]

/-- The text of a decimal in range is short. -/
theorem length_text_toNumeral_le {d : Decimal} {y : Binary64} (hexponent : -1100 ≤ d.exponent)
    (h : d.toBinary64? = some y) : d.toNumeral.text.length ≤ 2200 := by
  have hden : 0 < d.denominator := Nat.pow_pos (by decide)
  have hplaces := length_places_toNumeral d
  have hlength := d.toNumeral.length_text_le
  have hwhole : (Nat.toDigits 10 (d.numerator / d.denominator)).length ≤ 1024 := by
    -- What is read as a finite number is below the power of two after the largest one.
    have hrange : ¬ Binary64.leastOverflow ≤ (d.numerator : ℚ) / d.denominator := by
      rw [← Binary64.ofRatio?_eq_none_iff_le hden, ← toBinary64?, h]
      exact Option.some_ne_none y
    obtain ⟨k, hk, hoverflow⟩ : ∃ k : Nat, k = 1024 ∧ Binary64.leastOverflow ≤ (2 : ℚ) ^ k :=
      ⟨_, rfl, sub_le_self _ (by positivity)⟩
    have hpos : 0 < k := hk ▸ by decide
    refine hk ▸ (Nat.length_toDigits_le_iff (by decide) hpos).2 ?_
    have hcast : ((d.numerator / d.denominator : ℕ) : ℚ) < ((10 ^ k : ℕ) : ℚ) :=
      calc ((d.numerator / d.denominator : ℕ) : ℚ) ≤ (d.numerator : ℚ) / d.denominator :=
            Nat.cast_div_le
        _ < Binary64.leastOverflow := not_le.1 hrange
        _ ≤ 2 ^ k := hoverflow
        _ ≤ 10 ^ k := pow_le_pow_left₀ (by norm_num) (by norm_num) k
        _ = ((10 ^ k : ℕ) : ℚ) := by push_cast; rfl
    exact Nat.cast_lt.1 hcast
  rw [whole_toNumeral] at hlength
  omega

end Decimal

/-! ### Texts of numbers -/

namespace Binary64

variable {x : Binary64}

/-- The numeral that a finite number is written as, behind its sign if it has one. -/
def plainNumeral (x : Binary64) : Numeral := (Decimal.shortest x).toNumeral

theorem wellFormed_plainNumeral (x : Binary64) : x.plainNumeral.WellFormed :=
  Decimal.wellFormed_toNumeral _

/-- What a number that is no NaN is written as, behind its sign if it has one. -/
def plainDigits (x : Binary64) : List Char :=
  if x.isFinite then x.plainNumeral.text else ['i', 'n', 'f']

theorem plainDigits_of_isFinite (h : x.isFinite = true) : x.plainDigits = x.plainNumeral.text :=
  if_pos h

/-- A number is written as its digits, behind a sign if it has one. -/
theorem text_plain (h : x.isNaN = false) :
    x.text .plain =
      String.ofList (if x.isNegative then '-' :: x.plainDigits else x.plainDigits) := by
  have hlayOut : (Decimal.shortest x).layOut .plain = String.ofList x.plainNumeral.text := by
    show String.ofList x.plainNumeral.text ++
      (if x.plainNumeral.fraction.isNone then "" else "") = _
    rw [ite_self, String.append_empty]
  have hdigits : (if x.isFinite then (Decimal.shortest x).layOut .plain else "inf") =
      String.ofList x.plainDigits := by
    rw [hlayOut, plainDigits, apply_ite String.ofList]
  rw [text, h, if_neg Bool.false_ne_true, hdigits]
  split
  · exact String.ofList_append.symm
  · rfl

theorem text_plain_of_isFinite (hfinite : x.isFinite = true) (hsign : x.isNegative = false) :
    x.text .plain = String.ofList x.plainNumeral.text := by
  rw [text_plain (isNaN_eq_false_of_isFinite hfinite), hsign, if_neg Bool.false_ne_true,
    plainDigits_of_isFinite hfinite]

/-- The digits of a number read back, its sign left out. -/
theorem toBinary64?_plainNumeral (h : x.isFinite = true) :
    x.plainNumeral.toBinary64? = some (.ofMagnitude x.magnitude) := by
  rw [plainNumeral, Decimal.toBinary64?_toNumeral, beq_iff_eq.1 (Decimal.readsBack_shortest h)]

theorem size_text_plain (h : x.isFinite = true) :
    (x.text .plain).utf8ByteSize ≤ maxOffset := by
  have hlength := Decimal.length_text_toNumeral_le (Decimal.le_exponent_shortest h)
    (beq_iff_eq.1 (Decimal.readsBack_shortest h))
  rw [text_plain (isNaN_eq_false_of_isFinite h), plainDigits_of_isFinite h, Text.byteLength_ofList]
  refine (byteLength_le _).trans ?_
  rw [maxOffset]
  split
  · rw [List.length_cons, plainNumeral]
    omega
  · rw [plainNumeral]
    omega

end Binary64

/-! ### Reading it back -/

/-- A text that is a numeral in range is one token. -/
theorem tokenize_numeral {n : Numeral} {value : Binary64} (hn : n.WellFormed)
    (hvalue : n.toBinary64? = some value) :
    tokenize (String.ofList n.text) = .ok
      [⟨.number value, .ofRange 0 (String.ofList n.text).utf8ByteSize⟩,
        endToken (String.ofList n.text)] := by
  have hwords : Separate [] [Word.numeral n value hn hvalue] := ⟨rfl, trivial⟩
  have htext : writing [Word.numeral n value hn hvalue] = n.text := List.append_nil _
  have hlength : (Word.numeral n value hn hvalue).length = (String.ofList n.text).utf8ByteSize := by
    rw [Text.byteLength_ofList]
    exact Nat.zero_add _
  have htokens := (cuts_ofList hwords).tokenize_eq
  rw [htext] at htokens
  rw [htokens, ← hlength, ← Nat.zero_add (Word.length _)]
  rfl

theorem tokenize_text_plain {x : Binary64} (hfinite : x.isFinite = true)
    (hsign : x.isNegative = false) :
    tokenize (x.text .plain) = .ok
      [⟨.number x, .ofRange 0 (x.text .plain).utf8ByteSize⟩, endToken (x.text .plain)] := by
  have hread := Binary64.toBinary64?_plainNumeral hfinite
  rw [Binary64.ofMagnitude_magnitude hsign] at hread
  rw [Binary64.text_plain_of_isFinite hfinite hsign]
  exact tokenize_numeral x.wellFormed_plainNumeral hread

/-- What is written of a literal. -/
theorem Arena.walk_writer_literal {arena : Arena} {id : NodeId} {x : Binary64} {span : Span}
    (hnode : arena.get? id = some ⟨.literal x, span⟩) (front : String) :
    arena.walk Sexpr.writer id front = (.ok (), front ++ x.text .plain) :=
  Arena.walk_of_literal Sexpr.writer hnode front

/-- **A literal reads back as it was.**  Of a literal that is finite and has no sign, however small
or large it is, a text is written that depends on nothing but the literal.  It is a number to the
lexer, all of it and with nothing after it, and that number has the same bits.  What is written
there in full is the shortest decimal that is read as the literal; it has no more than seventeen
digits. -/
theorem literal_reads_back {arena : Arena} {id : NodeId} {x : Binary64} {span : Span}
    (hnode : arena.get? id = some ⟨.literal x, span⟩) (hfinite : x.isFinite = true)
    (hsign : x.isNegative = false) :
    (∀ front, arena.walk Sexpr.writer id front = (.ok (), front ++ x.text .plain)) ∧
    (∃ text stop, arena.sexpr id = .ok text ∧ text = x.text .plain ∧
      stop.toNat = text.utf8ByteSize ∧
      tokenize text = .ok [⟨.number x, ⟨0, stop⟩⟩, ⟨.endOfInput, ⟨stop, stop⟩⟩]) ∧
    ∃ d : Decimal, d.IsShortest x ∧ (Nat.toDigits 10 d.coefficient).length ≤ 17 ∧
      x.text .plain = String.ofList d.toNumeral.text := by
  have hwritten := Arena.walk_writer_literal hnode
  refine ⟨hwritten, ⟨x.text .plain, saturate (x.text .plain).utf8ByteSize, ?_, rfl, ?_, ?_⟩, ?_⟩
  · rw [Arena.sexpr, hwritten, String.empty_append]
  · exact toNat_saturate_of_le (Binary64.size_text_plain hfinite)
  · exact tokenize_text_plain hfinite hsign
  · exact ⟨_, Decimal.isShortest_shortest hfinite hsign,
      Decimal.length_toDigits_shortest_le hfinite, Binary64.text_plain_of_isFinite hfinite hsign⟩

/-- The least positive number has a single digit, three hundred and twenty-four places behind the
point. -/
theorem literal_reads_back_least :
    ∃ stop : UInt32, stop.toNat = 326 ∧
      Arena.sexpr ⟨#[⟨.literal ⟨1⟩, ⟨0, 1⟩⟩]⟩ ⟨0⟩ =
        .ok ("0." ++ String.ofList (List.replicate 323 '0') ++ "5") ∧
      tokenize ("0." ++ String.ofList (List.replicate 323 '0') ++ "5") =
        .ok [⟨.number ⟨1⟩, ⟨0, stop⟩⟩, ⟨.endOfInput, ⟨stop, stop⟩⟩] := by
  have hwritten : (⟨1⟩ : Binary64).text .plain =
      "0." ++ String.ofList (List.replicate 323 '0') ++ "5" := by decide +kernel
  have hnode : Arena.get? ⟨#[⟨.literal ⟨1⟩, ⟨0, 1⟩⟩]⟩ ⟨0⟩ = some ⟨.literal ⟨1⟩, ⟨0, 1⟩⟩ := rfl
  obtain ⟨-, ⟨text, stop, hsexpr, htext, hstop, htokens⟩, -⟩ :=
    literal_reads_back hnode (by decide) (by decide)
  rw [hwritten] at htext
  subst htext
  exact ⟨stop, hstop.trans (by decide +kernel), hsexpr, htokens⟩

end Reckon
