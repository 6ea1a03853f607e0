/-
The longest lexeme in front of a text.

A number is written in one of two ways: digits, after which there may be a point and more digits; or
a point and digits.  Together with the six signs these are all the written forms of tokens, and
reading goes by them alone:

* `isLexeme_iff`: the written forms are the texts of the well-formed lexemes;
* `Lexeme.munch_eq_some_iff_longest`: what is read off the front of a text is the longest written
  form that it begins with;
* `Lexeme.munch_eq_none_iff`: nothing is read only where the text begins with no written form.
-/
import Reckon.Proofs.Munch

namespace Reckon

/-! ### Written forms -/

/-- Digits, perhaps a point behind them, and perhaps digits behind that; or a point and digits. -/
inductive IsNumberText : List Char → Prop where
  | whole {ds : List Char} (hds : ∀ c ∈ ds, c.isDigit = true) (hne : ds ≠ []) : IsNumberText ds
  | pointed {ds fs : List Char} (hds : ∀ c ∈ ds, c.isDigit = true) (hne : ds ≠ [])
      (hfs : ∀ c ∈ fs, c.isDigit = true) : IsNumberText (ds ++ '.' :: fs)
  | fraction {fs : List Char} (hfs : ∀ c ∈ fs, c.isDigit = true) (hne : fs ≠ []) :
      IsNumberText ('.' :: fs)

/-- What a token is written as: a sign or a number. -/
def IsLexeme (cs : List Char) : Prop := (∃ sign : Symbol, cs = [sign.char]) ∨ IsNumberText cs

theorem isNumberText_iff {cs : List Char} :
    IsNumberText cs ↔ ∃ n : Numeral, n.WellFormed ∧ n.text = cs := by
  constructor
  · intro h
    cases h with
    | whole hds hne =>
      refine ⟨⟨cs, none⟩, ⟨?_, ?_⟩, rfl⟩
      · simpa [Numeral.places] using hds
      · simpa [Numeral.places] using hne
    | @pointed ds fs hds hne hfs =>
      refine ⟨⟨ds, some fs⟩, ⟨fun c hc => ?_, by simp [hne]⟩, rfl⟩
      rcases List.mem_append.1 hc with hc | hc
      · exact hds c hc
      · exact hfs c hc
    | @fraction fs hfs hne => exact ⟨⟨[], some fs⟩, ⟨hfs, hne⟩, rfl⟩
  · rintro ⟨⟨ds, fraction⟩, hn, rfl⟩
    have hds : ∀ c ∈ ds, c.isDigit = true := fun c hc => hn.1 c (List.mem_append_left _ hc)
    cases fraction with
    | none => exact .whole hds (by simpa [Numeral.text, Numeral.places] using hn.2)
    | some fs =>
      have hfs : ∀ c ∈ fs, c.isDigit = true := fun c hc => hn.1 c (List.mem_append_right _ hc)
      by_cases hne : ds = []
      · subst hne
        exact .fraction hfs hn.2
      · exact .pointed hds hne hfs

theorem isLexeme_iff {cs : List Char} :
    IsLexeme cs ↔ ∃ x : Lexeme, x.WellFormed ∧ x.text = cs := by
  constructor
  · rintro (⟨sign, rfl⟩ | h)
    · exact ⟨.symbol sign, trivial, rfl⟩
    · obtain ⟨n, hn, htext⟩ := isNumberText_iff.1 h
      exact ⟨.number n, hn, htext⟩
  · rintro ⟨x, hx, rfl⟩
    cases x with
    | symbol sign => exact .inl ⟨sign, rfl⟩
    | number n => exact .inr (isNumberText_iff.2 ⟨n, hx, rfl⟩)

/-! ### Reading as far as possible -/

namespace Numeral

/-- Of digits all are read, and more of them if there are more. -/
theorem whole_split_append {ds : List Char} (hds : ∀ c ∈ ds, c.isDigit = true)
    (rest : List Char) :
    (split (ds ++ rest)).1.whole = ds ++ rest.takeWhile Char.isDigit := by
  rw [← List.takeWhile_append_of_pos hds]
  unfold split
  split <;> rfl

/-- Digits end at a point, and those behind it are read, and more of them if there are more. -/
theorem split_pointed {ds fs : List Char} (hds : ∀ c ∈ ds, c.isDigit = true)
    (hfs : ∀ c ∈ fs, c.isDigit = true) (rest : List Char) :
    split (ds ++ '.' :: (fs ++ rest)) =
      (⟨ds, some (fs ++ rest.takeWhile Char.isDigit)⟩, rest.dropWhile Char.isDigit) := by
  have hpoint : ('.' :: (fs ++ rest)).head?.any Char.isDigit = false := rfl
  obtain ⟨htake, hdrop⟩ := takeWhile_append_of_head hds hpoint
  unfold split
  rw [hdrop, htake]
  simp only [List.takeWhile_append_of_pos hfs, List.dropWhile_append_of_pos hfs]

/-- A numeral in front of a text is read, whatever follows it, or a longer one is. -/
theorem exists_munch_text_append {n : Numeral} (hn : n.WellFormed) (rest : List Char) :
    ∃ m rest', munch (n.text ++ rest) = some (m, rest') ∧ n.text.length ≤ m.text.length := by
  obtain ⟨ds, fraction⟩ := n
  have hds : ∀ c ∈ ds, c.isDigit = true := fun c hc => hn.1 c (List.mem_append_left _ hc)
  cases fraction with
  | none =>
    have hne : ds ≠ [] := by simpa [places] using hn.2
    have hwhole := whole_split_append hds rest
    have htext : (split (ds ++ rest)).1.whole <+: (split (ds ++ rest)).1.text := by
      unfold text
      split
      · exact List.prefix_refl _
      · exact List.prefix_append _ _
    refine ⟨_, _, munch_eq_some_iff.2 ⟨rfl, ?_⟩, ?_⟩
    · show (split (ds ++ rest)).1.whole ++ _ ≠ []
      simp [hwhole, hne]
    · refine Nat.le_trans ?_ htext.length_le
      show ds.length ≤ _
      rw [hwhole, List.length_append]
      exact Nat.le_add_right _ _
  | some fs =>
    have hfs : ∀ c ∈ fs, c.isDigit = true := fun c hc => hn.1 c (List.mem_append_right _ hc)
    have hsplit := split_pointed hds hfs rest
    have htext : (⟨ds, some fs⟩ : Numeral).text ++ rest = ds ++ '.' :: (fs ++ rest) := by
      simp [text]
    have hne : ds ++ fs ≠ [] := hn.2
    refine ⟨_, _, munch_eq_some_iff.2 ⟨htext ▸ hsplit, ?_⟩, ?_⟩
    · simp only [places, Option.getD_some, ← List.append_assoc]
      exact List.append_ne_nil_of_left_ne_nil hne _
    · simp only [text, List.length_append, List.length_cons]
      omega

end Numeral

namespace Lexeme

/-- Where a numeral stands in front, what is read is a numeral. -/
theorem munch_number_append {n : Numeral} (hn : n.WellFormed) (rest : List Char) :
    munch (n.text ++ rest) =
      (Numeral.munch (n.text ++ rest)).map fun front => (number front.1, front.2) := by
  obtain ⟨c, cs, htext, hc⟩ := Numeral.head_text hn
  rw [htext, List.cons_append, munch, ofChar?_eq_none_of_isDigit hc]

/-- A lexeme in front of a text is read, whatever follows it, or a longer one is. -/
theorem exists_munch_text_append {x : Lexeme} (hx : x.WellFormed) (rest : List Char) :
    ∃ y rest', munch (x.text ++ rest) = some (y, rest') ∧ x.text.length ≤ y.text.length := by
  cases x with
  | symbol sign =>
    have hstops := any_continuesWith_symbol sign rest.head?
    exact ⟨_, _, munch_text_append trivial hstops, Nat.le_refl _⟩
  | number n =>
    obtain ⟨m, rest', hmunch, hle⟩ := Numeral.exists_munch_text_append hx rest
    refine ⟨.number m, rest', ?_, hle⟩
    rw [text, munch_number_append hx, hmunch, Option.map_some]

/-- A lexeme is known by its text. -/
theorem eq_of_text_eq {x y : Lexeme} (hx : x.WellFormed) (hy : y.WellFormed)
    (h : x.text = y.text) : x = y := by
  have hmunchx : munch (x.text ++ []) = some (x, []) := munch_text_append hx rfl
  have hmunchy : munch (y.text ++ []) = some (y, []) := munch_text_append hy rfl
  rw [h, hmunchy] at hmunchx
  exact (Prod.mk.inj (Option.some.inj hmunchx)).1.symm

/-- The lexeme is the longest one that the text begins with. -/
structure LongestIn (x : Lexeme) (cs : List Char) : Prop where
  wellFormed : x.WellFormed
  begins : x.text <+: cs
  longest : ∀ p, IsLexeme p → p <+: cs → p.length ≤ x.text.length

theorem longestIn_of_munch {x : Lexeme} {cs rest : List Char} (h : munch cs = some (x, rest)) :
    x.LongestIn cs := by
  obtain ⟨htext, hx, -⟩ := munch_eq_some_iff.1 h
  refine ⟨hx, ⟨rest, htext.symm⟩, fun p hp hbegins => ?_⟩
  obtain ⟨y, hy, rfl⟩ := isLexeme_iff.1 hp
  obtain ⟨back, rfl⟩ := hbegins
  obtain ⟨z, rest', hmunch, hle⟩ := exists_munch_text_append hy back
  obtain ⟨rfl, -⟩ := Prod.mk.inj (Option.some.inj (h.symm.trans hmunch))
  exact hle

/-- What is read off the front of a text is the longest lexeme there. -/
theorem munch_eq_some_iff_longest {x : Lexeme} {cs rest : List Char} :
    munch cs = some (x, rest) ↔ x.LongestIn cs ∧ cs = x.text ++ rest := by
  constructor
  · intro h
    exact ⟨longestIn_of_munch h, (munch_eq_some_iff.1 h).1⟩
  · rintro ⟨hx, rfl⟩
    obtain ⟨y, rest', hmunch, hle⟩ := exists_munch_text_append hx.wellFormed rest
    have hy := longestIn_of_munch hmunch
    -- Neither of the two is longer than the other, and both are in front of the same text.
    have hge := hx.longest y.text (isLexeme_iff.2 ⟨y, hy.wellFormed, rfl⟩) hy.begins
    have htext : x.text = y.text :=
      (List.prefix_of_prefix_length_le hx.begins hy.begins hle).eq_of_length_le hge
    obtain rfl := eq_of_text_eq hx.wellFormed hy.wellFormed htext
    rw [hmunch, List.append_cancel_left (munch_eq_some_iff.1 hmunch).1]

/-- Where a lexeme is the longest one it is not read on. -/
theorem LongestIn.stops {x : Lexeme} {rest : List Char} (h : x.LongestIn (x.text ++ rest)) :
    rest.head?.any x.continuesWith = false :=
  (munch_eq_some_iff.1 (munch_eq_some_iff_longest.2 ⟨h, rfl⟩)).2.2

theorem longestIn_of_stops {x : Lexeme} {rest : List Char} (hx : x.WellFormed)
    (hrest : rest.head?.any x.continuesWith = false) : x.LongestIn (x.text ++ rest) :=
  longestIn_of_munch (munch_text_append hx hrest)

/-- Nothing is read off the front of a text that begins with no lexeme, and of no other. -/
theorem munch_eq_none_iff {cs : List Char} :
    munch cs = none ↔ ∀ p, IsLexeme p → ¬ p <+: cs := by
  constructor
  · rintro h p hp ⟨rest, rfl⟩
    obtain ⟨x, hx, rfl⟩ := isLexeme_iff.1 hp
    obtain ⟨y, rest', hmunch, -⟩ := exists_munch_text_append hx rest
    exact absurd (h.symm.trans hmunch) (by simp)
  · intro h
    cases hmunch : munch cs with
    | none => rfl
    | some front =>
      obtain ⟨x, rest⟩ := front
      have hx := longestIn_of_munch hmunch
      exact absurd hx.begins (h x.text (isLexeme_iff.2 ⟨x, hx.wellFormed, rfl⟩))

end Lexeme

end Reckon
