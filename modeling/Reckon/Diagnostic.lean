/-
What can be wrong with an expression, and the words for it.

There are three kinds of errors, one for each thing that is done with an expression: `LexError`
when it is cut into tokens, `ParseError` when the tokens are put together, `EvalError` when the
result is worked out.  Each names its cause and the place, and has one `message`.
-/
import Reckon.Span
import Reckon.Operator
import Reckon.Text.Quoted

namespace Reckon

/-- Why a text cannot be cut into tokens. -/
inductive LexError where
  /-- No token begins with the character. -/
  | unexpectedChar (char : Char) (pos : UInt32)
  /-- The literal is beyond the largest finite number. -/
  | numberOutOfRange (literal : String) (pos : UInt32)
  deriving DecidableEq

/-- Why tokens do not make up an expression. -/
inductive ParseError where
  /-- The token does not fit; `found` is its text. -/
  | unexpectedToken (found : String) (span : Span)
  /-- The text ends where more is needed. -/
  | unexpectedEnd (pos : UInt32)
  | lex (error : LexError)
  deriving DecidableEq

/-- Why an expression has no result.  The span is that of the operator. -/
inductive EvalError where
  /-- The divisor is zero, of either sign. -/
  | divisionByZero (span : Span)
  /-- The result is not finite. -/
  | overflow (op : BinaryOp) (span : Span)
  deriving DecidableEq

namespace LexError

/-- The byte offset that the error points at. -/
def pos : LexError → UInt32
  | unexpectedChar _ pos => pos
  | numberOutOfRange _ pos => pos

def message : LexError → String
  | unexpectedChar char pos =>
    "unexpected character '" ++ String.ofList (Text.escape Text.bothQuotes char) ++
      "' at position " ++ pos.toNat.repr
  | numberOutOfRange literal pos =>
    "number literal `" ++ literal ++ "` at position " ++ pos.toNat.repr ++ " is out of range"

end LexError

namespace ParseError

/-- The byte offset that the error points at. -/
def pos : ParseError → UInt32
  | unexpectedToken _ span => span.start
  | unexpectedEnd pos => pos
  | lex error => error.pos

def message : ParseError → String
  | unexpectedToken found span =>
    "unexpected token `" ++ found ++ "` at position " ++ span.start.toNat.repr
  | unexpectedEnd pos => "unexpected end of input at position " ++ pos.toNat.repr
  | lex error => error.message

end ParseError

namespace EvalError

/-- The operator that the error points at. -/
def span : EvalError → Span
  | divisionByZero span => span
  | overflow _ span => span

/-- The byte offset that the error points at. -/
def pos (e : EvalError) : UInt32 := e.span.start

def message : EvalError → String
  | divisionByZero span => "division by zero at position " ++ span.start.toNat.repr
  | overflow op span =>
    "arithmetic overflow in `" ++ op.symbol ++ "` at position " ++ span.start.toNat.repr

/-- The error as a log shows it, with its fields. -/
def logText : EvalError → String
  | divisionByZero span => "DivisionByZero \x7b span: " ++ span.text ++ " \x7d"
  | overflow op span => "Overflow \x7b op: " ++ op.name ++ ", span: " ++ span.text ++ " \x7d"

end EvalError

end Reckon
