/-
The token that a parser looks at.

A `Cursor` holds one token and the lexer behind it.  Going on to the next token may meet an
error in the text; at the end token the cursor stays where it is.

* `remaining_lt_of_advance`: going on from any other token brings the cursor nearer to the end.
-/
import Reckon.Token.Lexer

namespace Reckon

/-- One token, and the lexer after it. -/
structure Cursor where
  lexer : Lexer
  current : Token
  deriving DecidableEq

namespace Cursor

/-- The cursor at the next token of a lexer; past the end there are only end tokens. -/
def pull (lexer : Lexer) : Except LexError Cursor :=
  match lexer.next with
  | some (.ok token, lexer) => .ok ⟨lexer, token⟩
  | some (.error error, _) => .error error
  | none => .ok ⟨lexer, ⟨.endOfInput, .point lexer.source.utf8ByteSize⟩⟩

/-- The cursor at the first token of a text. -/
def start (source : String) : Except LexError Cursor := pull (.start source)

/-- The cursor at the token after the current one. -/
def advance (c : Cursor) : Except LexError Cursor :=
  if c.current.kind = .endOfInput then .ok c else pull c.lexer

/-- The error for a token that does not fit. -/
def unexpected (c : Cursor) : ParseError :=
  let span := c.current.span
  match c.current.kind with
  | .endOfInput => .unexpectedEnd span.start
  | _ =>
    let found := Text.slice? c.lexer.source.toList span.start.toNat span.stop.toNat
    .unexpectedToken (String.ofList (found.getD [])) span

/-- What is still to be read, the current token included. -/
def remaining (c : Cursor) : Nat :=
  c.lexer.remaining + if c.current.kind = .endOfInput then 0 else 1

theorem remaining_lt_of_advance {c c' : Cursor} (hopen : c.current.kind ≠ .endOfInput)
    (h : c.advance = .ok c') : c'.remaining < c.remaining := by
  rw [advance, if_neg hopen, pull] at h
  rw [remaining, remaining, if_neg hopen]
  split at h
  · rename_i token lexer hnext
    obtain rfl := Except.ok.inj h
    have := Lexer.remaining_lt_of_next hnext
    dsimp only
    split <;> omega
  · exact absurd h (by simp)
  · obtain rfl := Except.ok.inj h
    simp

end Cursor

end Reckon
