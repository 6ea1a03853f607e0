/-
Unsigned decimal numerals: `12`, `12.`, `12.5`, `.5`.

A `Numeral` keeps the digits as they are written, before and after the point.  Its value is
the quotient `numerator / denominator`, where the denominator is a power of ten.

`munch` reads a numeral off the front of a text, as long a one as there is:

* `text_append_of_munch`: what was read and what is left make up the text;
* `wellFormed_of_munch`: digits only, and at least one;
* `length_lt_of_munch`: the rest is shorter.
-/
import Reckon.Binary64.Nearest

namespace Reckon

/-- The digits of a decimal numeral.  `fraction` is `none` where no point is written. -/
structure Numeral where
  whole : List Char
  fraction : Option (List Char)
  deriving DecidableEq

namespace Numeral

/-- The digits after the point. -/
def places (n : Numeral) : List Char := n.fraction.getD []

/-- The numeral as it is written. -/
def text (n : Numeral) : List Char :=
  match n.fraction with
  | none => n.whole
  | some digits => n.whole ++ '.' :: digits

/-- All digits, the point left out, as one number. -/
def numerator (n : Numeral) : Nat := Nat.ofDigitChars 10 (n.whole ++ n.places) 0

/-- The power of ten that the place of the point divides by. -/
def denominator (n : Numeral) : Nat := Nat.pow 10 n.places.length

/-- The double-precision number nearest to the numeral, if it is in range. -/
def toBinary64? (n : Numeral) : Option Binary64 :=
  Binary64.ofRatio? n.numerator n.denominator

/-- Digits only, and at least one of them. -/
def WellFormed (n : Numeral) : Prop :=
  (∀ c ∈ n.whole ++ n.places, c.isDigit = true) ∧ n.whole ++ n.places ≠ []

/-! ### Reading -/

/-- The longest stretch of digits, point and digits that the text begins with, and the text after
it. -/
def split (cs : List Char) : Numeral × List Char :=
  match cs.dropWhile Char.isDigit with
  | '.' :: tail =>
    (⟨cs.takeWhile Char.isDigit, some (tail.takeWhile Char.isDigit)⟩,
      tail.dropWhile Char.isDigit)
  | rest => (⟨cs.takeWhile Char.isDigit, none⟩, rest)

/-- The longest numeral that the text begins with, and the text after it. -/
def munch (cs : List Char) : Option (Numeral × List Char) :=
  let front := split cs
  if front.1.whole.isEmpty && front.1.places.isEmpty then none else some front

theorem isDigit_of_mem_takeWhile {cs : List Char} {c : Char}
    (h : c ∈ cs.takeWhile Char.isDigit) : c.isDigit = true := by
  induction cs with
  | nil => simp at h
  | cons d cs ih =>
    rw [List.takeWhile_cons] at h
    split at h
    · rcases List.mem_cons.1 h with rfl | h
      · assumption
      · exact ih h
    · simp at h

theorem text_append_split (cs : List Char) : (split cs).1.text ++ (split cs).2 = cs := by
  have hcs := List.takeWhile_append_dropWhile (p := Char.isDigit) (l := cs)
  unfold split
  split
  · rename_i tail hdrop
    rw [hdrop] at hcs
    simpa [text, List.takeWhile_append_dropWhile] using hcs
  · exact hcs

theorem isDigit_of_mem_split {cs : List Char} {c : Char}
    (h : c ∈ (split cs).1.whole ++ (split cs).1.places) : c.isDigit = true := by
  unfold split at h
  split at h
  · rcases List.mem_append.1 h with h | h <;> exact isDigit_of_mem_takeWhile h
  · exact isDigit_of_mem_takeWhile (by simpa [places] using h)

theorem munch_eq_some_iff {cs rest : List Char} {n : Numeral} :
    munch cs = some (n, rest) ↔ split cs = (n, rest) ∧ n.whole ++ n.places ≠ [] := by
  simp only [munch, Option.ite_none_left_eq_some, Option.some_inj]
  constructor
  · rintro ⟨hne, hs⟩
    rw [hs] at hne
    exact ⟨hs, by simpa using hne⟩
  · rintro ⟨hs, hne⟩
    rw [hs]
    exact ⟨by simpa using hne, rfl⟩

theorem text_append_of_munch {cs rest : List Char} {n : Numeral}
    (h : munch cs = some (n, rest)) : n.text ++ rest = cs := by
  have := text_append_split cs
  rwa [(munch_eq_some_iff.1 h).1] at this

theorem wellFormed_of_munch {cs rest : List Char} {n : Numeral}
    (h : munch cs = some (n, rest)) : n.WellFormed := by
  obtain ⟨hs, hne⟩ := munch_eq_some_iff.1 h
  refine ⟨fun c hc => ?_, hne⟩
  rw [← show (split cs).1 = n by rw [hs]] at hc
  exact isDigit_of_mem_split hc

theorem text_ne_nil {n : Numeral} (h : n.WellFormed) : n.text ≠ [] := by
  obtain ⟨whole, fraction⟩ := n
  cases fraction with
  | none => simpa [WellFormed, text, places] using h.2
  | some digits => simp [text]

theorem length_lt_of_munch {cs rest : List Char} {n : Numeral}
    (h : munch cs = some (n, rest)) : rest.length < cs.length := by
  have hne := List.length_pos_iff.2 (text_ne_nil (wellFormed_of_munch h))
  rw [← text_append_of_munch h, List.length_append]
  omega

end Numeral

end Reckon
