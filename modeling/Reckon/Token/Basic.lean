/-
The tokens of an expression.

A token is a number, one of six signs, or the end of the text, together with the place where it
stands.
-/
import Reckon.Span
import Reckon.Binary64.Basic

namespace Reckon

/-- The signs of an expression. -/
inductive Symbol where
  | plus
  | minus
  | star
  | slash
  | openParen
  | closeParen
  deriving DecidableEq

namespace Symbol

/-- The character a sign is written with. -/
def char : Symbol → Char
  | plus => '+'
  | minus => '-'
  | star => '*'
  | slash => '/'
  | openParen => '('
  | closeParen => ')'

/-- The sign written with a character. -/
def ofChar? (c : Char) : Option Symbol :=
  match c with
  | '+' => some plus
  | '-' => some minus
  | '*' => some star
  | '/' => some slash
  | '(' => some openParen
  | ')' => some closeParen
  | _ => none

theorem ofChar?_char (s : Symbol) : ofChar? s.char = some s := by
  cases s <;> rfl

theorem char_of_ofChar? {c : Char} {s : Symbol} (h : ofChar? c = some s) : s.char = c := by
  unfold ofChar? at h
  split at h <;> first
    | (obtain rfl := Option.some.inj h; rfl)
    | exact absurd h (by simp)

end Symbol

/-- What a token is. -/
inductive TokenKind where
  | number (value : Binary64)
  | symbol (sign : Symbol)
  | endOfInput
  deriving DecidableEq

/-- The name of a kind of token in a log. -/
def TokenKind.name : TokenKind → String
  | number _ => "number"
  | symbol sign => "`" ++ sign.char.toString ++ "`"
  | endOfInput => "end of input"

/-- A token and where it stands. -/
structure Token where
  kind : TokenKind
  span : Span
  deriving DecidableEq

end Reckon
