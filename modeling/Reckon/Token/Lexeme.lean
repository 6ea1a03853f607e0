/-
The written forms of tokens.

A `Lexeme` is a sign or a numeral as it is written.  `munch` reads one off the front of a text,
as long a one as there is:

* `text_append_of_munch`: what was read and what is left make up the text;
* `length_lt_of_munch`: the rest is shorter.

Between lexemes there may be blanks: space, tab, line feed, form feed and carriage return.
-/
import Reckon.Token.Basic
import Reckon.Numeral

namespace Reckon

/-- Whether a character may stand between lexemes without a meaning. -/
def isBlank (c : Char) : Bool :=
  c == ' ' || c == '\t' || c == '\n' || c == '\x0c' || c == '\r'

/-- A sign or a numeral. -/
inductive Lexeme where
  | symbol (sign : Symbol)
  | number (numeral : Numeral)
  deriving DecidableEq

namespace Lexeme

/-- The lexeme as it is written. -/
def text : Lexeme → List Char
  | symbol sign => [sign.char]
  | number numeral => numeral.text

/-- The token that the lexeme stands for; none for a numeral that is out of range. -/
def kind? : Lexeme → Option TokenKind
  | symbol sign => some (.symbol sign)
  | number numeral => numeral.toBinary64?.map .number

/-- The longest lexeme that the text begins with, and the text after it. -/
def munch : List Char → Option (Lexeme × List Char)
  | [] => none
  | c :: cs =>
    match Symbol.ofChar? c with
    | some sign => some (symbol sign, cs)
    | none => (Numeral.munch (c :: cs)).map fun front => (number front.1, front.2)

theorem text_append_of_munch {cs rest : List Char} {x : Lexeme}
    (h : munch cs = some (x, rest)) : x.text ++ rest = cs := by
  cases cs with
  | nil => exact absurd h (by simp [munch])
  | cons c cs =>
    rw [munch] at h
    split at h
    · rename_i sign hsign
      obtain ⟨rfl, rfl⟩ := Prod.mk.inj (Option.some.inj h)
      rw [text, Symbol.char_of_ofChar? hsign]
      rfl
    · obtain ⟨front, hfront, heq⟩ := Option.map_eq_some_iff.1 h
      obtain ⟨rfl, rfl⟩ := Prod.mk.inj heq
      exact Numeral.text_append_of_munch hfront

theorem length_lt_of_munch {cs rest : List Char} {x : Lexeme}
    (h : munch cs = some (x, rest)) : rest.length < cs.length := by
  cases cs with
  | nil => exact absurd h (by simp [munch])
  | cons c cs =>
    rw [munch] at h
    split at h
    · obtain ⟨rfl, rfl⟩ := Prod.mk.inj (Option.some.inj h)
      simp
    · obtain ⟨front, hfront, heq⟩ := Option.map_eq_some_iff.1 h
      obtain ⟨rfl, rfl⟩ := Prod.mk.inj heq
      exact Numeral.length_lt_of_munch hfront

end Lexeme

end Reckon
