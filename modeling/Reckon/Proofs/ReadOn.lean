/-
Lexemes with more text behind them.

A lexeme that ends before the text does is read the same when more is written behind the text.
One that reaches to the end of the text may be read on, but only if it is a numeral, and the numeral
does not become smaller by that.  Where no lexeme begins none begins with more text either, but for
a point at the very end, which may be followed by digits then.

* `Numeral.numerator_mul_le_of_munch`: a numeral that is read on does not become smaller;
* `Numeral.toBinary64?_eq_none_of_munch`: so out of range it stays;
* `Lexeme.munch_append_of_ne_nil`, `Lexeme.munch_symbol_append`, `Lexeme.munch_append_of_none`: what
  stays as it is;
* `Lexeme.exists_munch_of_append`: a token that is read with more text was read without it, or a
  number was.
-/
import Reckon.Proofs.Longest
import Reckon.Proofs.Nearest

namespace Reckon

/-! ### Numerals read on -/

/-- Digits with others behind them stand for no less than with zeros there. -/
theorem ofDigitChars_append_ge (ds fs : List Char) :
    10 ^ fs.length * Nat.ofDigitChars 10 ds 0 ≤ Nat.ofDigitChars 10 (ds ++ fs) 0 := by
  rw [Nat.ofDigitChars_append, Nat.ofDigitChars_eq_ofDigitChars_zero (l := fs)]
  exact Nat.le_add_right _ _

namespace Numeral

theorem denominator_pos (n : Numeral) : 0 < n.denominator := Nat.pow_pos (by decide)

/-- A numeral that is read on does not become smaller. -/
theorem numerator_mul_le_of_munch {n m : Numeral} {rest rest' : List Char} (hn : n.WellFormed)
    (h : munch (n.text ++ rest) = some (m, rest')) :
    n.numerator * m.denominator ≤ m.numerator * n.denominator := by
  obtain ⟨hsplit, -⟩ := munch_eq_some_iff.1 h
  obtain ⟨ds, fraction⟩ := n
  have hds : ∀ c ∈ ds, c.isDigit = true := fun c hc => hn.1 c (List.mem_append_left _ hc)
  cases fraction with
  | none =>
    -- Behind the digits there may be more of them, and places of any number.
    have hwhole : m.whole = ds ++ rest.takeWhile Char.isDigit := by
      rw [← whole_split_append hds, show split (ds ++ rest) = (m, rest') from hsplit]
    have hdigits : Nat.ofDigitChars 10 ds 0 ≤ Nat.ofDigitChars 10 m.whole 0 := by
      rw [hwhole]
      exact (Nat.le_mul_of_pos_left _ (Nat.pow_pos (by decide))).trans (ofDigitChars_append_ge _ _)
    show Nat.ofDigitChars 10 (ds ++ []) 0 * m.denominator ≤ m.numerator * 1
    rw [List.append_nil, Nat.mul_one]
    calc Nat.ofDigitChars 10 ds 0 * m.denominator
        ≤ Nat.ofDigitChars 10 m.whole 0 * m.denominator := Nat.mul_le_mul_right _ hdigits
      _ = 10 ^ m.places.length * Nat.ofDigitChars 10 m.whole 0 := Nat.mul_comm _ _
      _ ≤ m.numerator := ofDigitChars_append_ge _ _
  | some fs =>
    -- There are only more places.
    have hfs : ∀ c ∈ fs, c.isDigit = true := fun c hc => hn.1 c (List.mem_append_right _ hc)
    have htext : (⟨ds, some fs⟩ : Numeral).text ++ rest = ds ++ '.' :: (fs ++ rest) := by
      simp [text]
    rw [htext, split_pointed hds hfs] at hsplit
    obtain ⟨rfl, -⟩ := Prod.mk.inj hsplit
    generalize rest.takeWhile Char.isDigit = more
    show Nat.ofDigitChars 10 (ds ++ fs) 0 * 10 ^ (fs ++ more).length ≤
      Nat.ofDigitChars 10 (ds ++ (fs ++ more)) 0 * 10 ^ fs.length
    calc Nat.ofDigitChars 10 (ds ++ fs) 0 * 10 ^ (fs ++ more).length
        = 10 ^ more.length * Nat.ofDigitChars 10 (ds ++ fs) 0 * 10 ^ fs.length := by
          rw [List.length_append, Nat.pow_add]
          ring
      _ ≤ Nat.ofDigitChars 10 (ds ++ fs ++ more) 0 * 10 ^ fs.length :=
          Nat.mul_le_mul_right _ (ofDigitChars_append_ge _ _)
      _ = Nat.ofDigitChars 10 (ds ++ (fs ++ more)) 0 * 10 ^ fs.length := by
          rw [List.append_assoc]

/-- Out of range a numeral stays when it is read on. -/
theorem toBinary64?_eq_none_of_munch {n m : Numeral} {rest rest' : List Char} (hn : n.WellFormed)
    (h : munch (n.text ++ rest) = some (m, rest')) (hrange : n.toBinary64? = none) :
    m.toBinary64? = none := by
  rw [toBinary64?, Binary64.ofRatio?_eq_none_iff] at hrange ⊢
  exact hrange.trans (Binary64.nearestMagnitude_mono n.denominator_pos m.denominator_pos
    (numerator_mul_le_of_munch hn h))

end Numeral

/-! ### Lexemes read on -/

/-- A lexeme begins with one that is a single character, or a point and a digit. -/
theorem IsLexeme.exists_prefix {p : List Char} (h : IsLexeme p) :
    ∃ q, IsLexeme q ∧ q <+: p ∧ ((∃ c, q = [c]) ∨ ∃ d, q = ['.', d]) := by
  have hdigit {d : Char} (hd : d.isDigit = true) : IsLexeme [d] :=
    .inr (.whole (List.forall_mem_singleton.2 hd) (List.cons_ne_nil _ _))
  rcases h with ⟨sign, rfl⟩ | hnumber
  · exact ⟨_, .inl ⟨sign, rfl⟩, List.prefix_refl _, .inl ⟨_, rfl⟩⟩
  · cases hnumber with
    | whole hds hne =>
      obtain ⟨d, ds, rfl⟩ := List.exists_cons_of_ne_nil hne
      exact ⟨[d], hdigit (hds d (by simp)), List.prefix_append [d] ds, .inl ⟨d, rfl⟩⟩
    | @pointed ds fs hds hne hfs =>
      obtain ⟨d, ds, rfl⟩ := List.exists_cons_of_ne_nil hne
      exact ⟨[d], hdigit (hds d (by simp)), List.prefix_append [d] (ds ++ '.' :: fs), .inl ⟨d, rfl⟩⟩
    | @fraction fs hfs hne =>
      obtain ⟨d, fs, rfl⟩ := List.exists_cons_of_ne_nil hne
      refine ⟨['.', d], .inr (.fraction ?_ (List.cons_ne_nil _ _)), List.prefix_append ['.', d] fs,
        .inr ⟨d, rfl⟩⟩
      exact List.forall_mem_singleton.2 (hfs d (by simp))

namespace Lexeme

/-- A lexeme that ends before the text does stays. -/
theorem munch_append_of_ne_nil {cs rest : List Char} {x : Lexeme} (h : munch cs = some (x, rest))
    (hne : rest ≠ []) (more : List Char) : munch (cs ++ more) = some (x, rest ++ more) := by
  obtain ⟨rfl, hx, hstops⟩ := munch_eq_some_iff.1 h
  obtain ⟨c, rest, rfl⟩ := List.exists_cons_of_ne_nil hne
  exact munch_eq_some_iff.2 ⟨List.append_assoc _ _ _, hx, hstops⟩

/-- A sign stays, whatever follows it. -/
theorem munch_symbol_append {cs rest : List Char} {sign : Symbol}
    (h : munch cs = some (symbol sign, rest)) (more : List Char) :
    munch (cs ++ more) = some (symbol sign, rest ++ more) := by
  obtain ⟨rfl, hx, -⟩ := munch_eq_some_iff.1 h
  exact munch_eq_some_iff.2 ⟨List.append_assoc _ _ _, hx, any_continuesWith_symbol sign _⟩

/-- Where no lexeme begins there begins none with less text. -/
theorem munch_eq_none_of_append {cs more : List Char} (h : munch (cs ++ more) = none) :
    munch cs = none := by
  rw [munch_eq_none_iff] at h ⊢
  exact fun p hp hbegins => h p hp (hbegins.trans (List.prefix_append cs more))

/-- Where no lexeme begins there begins none with more text, unless it is a point at the end. -/
theorem munch_append_of_none {c : Char} {cs : List Char} (h : munch (c :: cs) = none)
    (hpoint : c = '.' → cs ≠ []) (more : List Char) : munch (c :: cs ++ more) = none := by
  rw [munch_eq_none_iff] at h ⊢
  intro p hp hbegins
  obtain ⟨q, hq, hqp, ⟨d, rfl⟩ | ⟨d, rfl⟩⟩ := hp.exists_prefix
  · obtain ⟨rfl, -⟩ := List.cons_prefix_cons.1 (hqp.trans hbegins)
    exact h [d] hq (List.prefix_append [d] cs)
  · obtain ⟨rfl, hd⟩ := List.cons_prefix_cons.1 (hqp.trans hbegins)
    obtain ⟨d', cs, rfl⟩ := List.exists_cons_of_ne_nil (hpoint rfl)
    obtain ⟨rfl, -⟩ := List.cons_prefix_cons.1 hd
    exact h ['.', d] hq (List.prefix_append ['.', d] cs)

/-- A token that is read with more text behind was read without it, but for a number: for that some
number was. -/
theorem exists_munch_of_append {c : Char} {cs more rest : List Char} {x : Lexeme}
    {kind : TokenKind} (h : munch (c :: cs ++ more) = some (x, rest)) (hkind : x.kind? = some kind)
    (hpoint : c = '.' → cs ≠ []) :
    ∃ y rest' kind', munch (c :: cs) = some (y, rest') ∧ y.kind? = some kind' ∧
      (kind' = kind ∨ ∃ u v, kind' = .number u ∧ kind = .number v) := by
  cases hbefore : munch (c :: cs) with
  | none =>
    rw [munch_append_of_none hbefore hpoint] at h
    exact absurd h (by simp)
  | some read =>
    obtain ⟨y, rest'⟩ := read
    -- What was read is read again, but for a numeral that went up to the end of the text.
    cases y with
    | symbol sign =>
      rw [munch_symbol_append hbefore] at h
      obtain ⟨rfl, -⟩ := Prod.mk.inj (Option.some.inj h)
      exact ⟨_, _, kind, rfl, hkind, .inl rfl⟩
    | number n =>
      by_cases hrest : rest' = []
      · obtain ⟨htext, hn, -⟩ := munch_eq_some_iff.1 hbefore
        rw [hrest, List.append_nil] at htext
        rw [htext, text, munch_number_append hn, Option.map_eq_some_iff] at h
        obtain ⟨⟨m, rest''⟩, hm, heq⟩ := h
        obtain ⟨rfl, rfl⟩ := Prod.mk.inj heq
        obtain ⟨v, hv, rfl⟩ := Option.map_eq_some_iff.1 hkind
        cases hrange : n.toBinary64? with
        | none => exact absurd hv (by simp [Numeral.toBinary64?_eq_none_of_munch hn hm hrange])
        | some u =>
          have hkind' : (number n).kind? = some (.number u) := by
            rw [kind?, hrange, Option.map_some]
          exact ⟨_, _, _, rfl, hkind', .inr ⟨u, v, rfl, rfl⟩⟩
      · rw [munch_append_of_ne_nil hbefore hrest] at h
        obtain ⟨rfl, -⟩ := Prod.mk.inj (Option.some.inj h)
        exact ⟨_, _, kind, rfl, hkind, .inl rfl⟩

end Lexeme

end Reckon
