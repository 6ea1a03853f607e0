/-
Where a lexeme ends.

A lexeme at the front of a text is read as far as it goes.  After a sign anything may follow; a
numeral goes on as long as there are digits, and a point still belongs to it if it has none yet.

* `Numeral.split_text_append`, `Lexeme.munch_text_append`: a lexeme that does not go on is read
  back as it was written;
* `Lexeme.munch_eq_some_iff`: that is all that is ever read.
-/
import Reckon.Token.Lexeme

namespace Reckon

/-- A stretch of characters of one sort that does not go on is taken off the front. -/
theorem takeWhile_append_of_head {p : Char → Bool} {cs rest : List Char}
    (hcs : ∀ c ∈ cs, p c = true) (hrest : rest.head?.any p = false) :
    (cs ++ rest).takeWhile p = cs ∧ (cs ++ rest).dropWhile p = rest := by
  rw [List.takeWhile_append_of_pos hcs, List.dropWhile_append_of_pos hcs]
  cases rest with
  | nil => exact ⟨by simp, by simp⟩
  | cons c rest =>
    have hc : ¬ p c = true := by simpa using hrest
    rw [List.takeWhile_cons_of_neg hc, List.dropWhile_cons_of_neg hc]
    exact ⟨by simp, rfl⟩

theorem head_dropWhile (p : Char → Bool) (cs : List Char) :
    (cs.dropWhile p).head?.any p = false := by
  have h := List.head?_dropWhile_not p cs
  cases hd : (cs.dropWhile p).head? with
  | none => rfl
  | some c =>
    rw [hd] at h
    exact h

theorem any_head?_append {p : Char → Bool} {cs ds : List Char} (hcs : cs.head?.any p = false)
    (hds : ds.head?.any p = false) : (cs ++ ds).head?.any p = false := by
  cases cs with
  | nil => exact hds
  | cons c cs => exact hcs

namespace Numeral

/-- Whether the numeral, where the character follows it, would be read on. -/
def continuesWith (n : Numeral) (c : Char) : Bool := c.isDigit || (n.fraction.isNone && c == '.')

theorem split_text_append {n : Numeral} {rest : List Char} (hn : n.WellFormed)
    (hrest : rest.head?.any n.continuesWith = false) : split (n.text ++ rest) = (n, rest) := by
  obtain ⟨whole, fraction⟩ := n
  -- Whatever follows, it is no digit; and no point if the numeral has none yet.
  have hdigits : rest.head?.any Char.isDigit = false := by
    cases rest with
    | nil => rfl
    | cons c rest =>
      simp only [List.head?_cons, Option.any_some, continuesWith, Bool.or_eq_false_iff] at hrest ⊢
      exact hrest.1
  cases fraction with
  | none =>
    have hwhole : ∀ c ∈ whole, c.isDigit = true := fun c hc => hn.1 c (by simp [hc])
    obtain ⟨htake, hdrop⟩ := takeWhile_append_of_head hwhole hdigits
    unfold split
    rw [show (⟨whole, none⟩ : Numeral).text = whole from rfl, hdrop, htake]
    split
    · simp [continuesWith] at hrest
    · rfl
  | some digits =>
    have hwhole : ∀ c ∈ whole, c.isDigit = true := fun c hc => hn.1 c (by simp [hc])
    have hdigits' : ∀ c ∈ digits, c.isDigit = true := fun c hc => hn.1 c (by simp [places, hc])
    have hpoint : ('.' :: (digits ++ rest)).head?.any Char.isDigit = false := rfl
    obtain ⟨htake, hdrop⟩ := takeWhile_append_of_head hwhole hpoint
    obtain ⟨htake', hdrop'⟩ := takeWhile_append_of_head hdigits' hdigits
    unfold split
    rw [show (⟨whole, some digits⟩ : Numeral).text ++ rest = whole ++ '.' :: (digits ++ rest) by
      simp [text], hdrop, htake]
    simp only [htake', hdrop']

theorem stops_of_munch {cs rest : List Char} {n : Numeral} (h : munch cs = some (n, rest)) :
    rest.head?.any n.continuesWith = false := by
  have hsplit := (munch_eq_some_iff.1 h).1
  -- Digits end where they cannot go on, and so do those behind a point.
  unfold split at hsplit
  have hstops := head_dropWhile Char.isDigit cs
  split at hsplit <;> obtain ⟨rfl, rfl⟩ := Prod.mk.inj hsplit
  · rename_i tail _
    have hstops' := head_dropWhile Char.isDigit tail
    cases hd : tail.dropWhile Char.isDigit <;> simp_all [continuesWith]
  · rename_i hpoint
    cases hd : cs.dropWhile Char.isDigit <;> simp_all [continuesWith]

/-- A numeral begins with a digit or a point. -/
theorem head_text {n : Numeral} (hn : n.WellFormed) :
    ∃ c cs, n.text = c :: cs ∧ (c.isDigit = true ∨ c = '.') := by
  obtain ⟨whole, fraction⟩ := n
  cases whole with
  | cons c whole =>
    refine ⟨c, (⟨whole, fraction⟩ : Numeral).text, ?_, .inl (hn.1 c (by simp))⟩
    cases fraction <;> rfl
  | nil =>
    cases fraction with
    | none => exact absurd rfl hn.2
    | some digits => exact ⟨'.', digits, rfl, .inr rfl⟩

end Numeral

namespace Lexeme

/-- Digits only and at least one, in a numeral. -/
def WellFormed : Lexeme → Prop
  | symbol _ => True
  | number n => n.WellFormed

/-- Whether the lexeme, where the character follows it, would be read on. -/
def continuesWith : Lexeme → Char → Bool
  | symbol _, _ => false
  | number n, c => n.continuesWith c

/-- A sign is never read on. -/
theorem any_continuesWith_symbol (sign : Symbol) (c : Option Char) :
    c.any (symbol sign).continuesWith = false := by
  cases c <;> rfl

/-- No lexeme is read on into a sign. -/
theorem continuesWith_char (x : Lexeme) (s : Symbol) : x.continuesWith s.char = false := by
  cases x with
  | symbol sign => rfl
  | number n =>
    show (s.char.isDigit || (n.fraction.isNone && s.char == '.')) = false
    have hpoint : (s.char == '.') = false := by cases s <;> rfl
    rw [hpoint, Bool.and_false, Bool.or_false]
    cases s <;> rfl

theorem ofChar?_eq_none_of_isDigit {c : Char} (h : c.isDigit = true ∨ c = '.') :
    Symbol.ofChar? c = none := by
  unfold Symbol.ofChar?
  split <;> first | rfl | simp_all

theorem isBlank_eq_false_of_isDigit {c : Char} (h : c.isDigit = true ∨ c = '.') :
    isBlank c = false := by
  rw [isBlank]
  rcases h with h | rfl
  · simp only [Bool.or_eq_false_iff, beq_eq_false_iff_ne]
    refine ⟨⟨⟨⟨?_, ?_⟩, ?_⟩, ?_⟩, ?_⟩ <;> (rintro rfl; simp at h)
  · rfl

/-- No lexeme is read on into a blank. -/
theorem continuesWith_of_isBlank (x : Lexeme) {c : Char} (hc : isBlank c = true) :
    x.continuesWith c = false := by
  cases x with
  | symbol sign => rfl
  | number n =>
    by_cases hdigit : c.isDigit = true ∨ c = '.'
    · exact absurd hc (by simp [isBlank_eq_false_of_isDigit hdigit])
    · show (c.isDigit || (n.fraction.isNone && c == '.')) = false
      simp_all

/-- A lexeme does not begin with a blank. -/
theorem head_text {x : Lexeme} (hx : x.WellFormed) :
    ∃ c cs, x.text = c :: cs ∧ isBlank c = false := by
  cases x with
  | symbol sign => exact ⟨sign.char, [], rfl, by cases sign <;> rfl⟩
  | number n =>
    obtain ⟨c, cs, htext, hc⟩ := Numeral.head_text hx
    exact ⟨c, cs, htext, isBlank_eq_false_of_isDigit hc⟩

theorem munch_text_append {x : Lexeme} {rest : List Char} (hx : x.WellFormed)
    (hrest : rest.head?.any x.continuesWith = false) : munch (x.text ++ rest) = some (x, rest) := by
  cases x with
  | symbol sign =>
    show munch (sign.char :: rest) = _
    rw [munch, Symbol.ofChar?_char]
  | number n =>
    obtain ⟨c, cs, htext, hc⟩ := Numeral.head_text hx
    have hsplit := Numeral.split_text_append hx hrest
    rw [htext, List.cons_append] at hsplit
    rw [text, htext, List.cons_append, munch, ofChar?_eq_none_of_isDigit hc]
    simp only [Numeral.munch_eq_some_iff.2 ⟨hsplit, hx.2⟩, Option.map_some]

theorem wellFormed_of_munch {cs rest : List Char} {x : Lexeme} (h : munch cs = some (x, rest)) :
    x.WellFormed ∧ rest.head?.any x.continuesWith = false := by
  cases cs with
  | nil => simp [munch] at h
  | cons c cs =>
    rw [munch] at h
    split at h
    · obtain ⟨rfl, rfl⟩ := Prod.mk.inj (Option.some.inj h)
      exact ⟨trivial, by cases cs <;> rfl⟩
    · obtain ⟨front, hfront, heq⟩ := Option.map_eq_some_iff.1 h
      obtain ⟨rfl, rfl⟩ := Prod.mk.inj heq
      exact ⟨Numeral.wellFormed_of_munch hfront, Numeral.stops_of_munch hfront⟩

/-- What is read off the front of a text is a lexeme that ends there, and nothing else. -/
theorem munch_eq_some_iff {cs rest : List Char} {x : Lexeme} :
    munch cs = some (x, rest) ↔
      cs = x.text ++ rest ∧ x.WellFormed ∧ rest.head?.any x.continuesWith = false := by
  constructor
  · intro h
    exact ⟨(text_append_of_munch h).symm, wellFormed_of_munch h⟩
  · rintro ⟨rfl, hx, hrest⟩
    exact munch_text_append hx hrest

end Lexeme

end Reckon
