/-
What is reported on the way to a result.

An `Event` is one thing that happened: a token was taken in, a node worked out, and so on.  Each
kind of event has a level, a target, which names the part of the program that it concerns, a
message and named fields.
-/
import Reckon.Outcome
import Reckon.Diagnostic
import Reckon.Token.Basic
import Reckon.Expr.Sexpr

namespace Reckon

/-- How much an event matters, from the weightiest on. -/
inductive Level where
  | error
  | warn
  | info
  | debug
  | trace
  deriving DecidableEq

namespace Level

/-- The name of a level in a log. -/
def name : Level → String
  | error => "ERROR"
  | warn => "WARN"
  | info => "INFO"
  | debug => "DEBUG"
  | trace => "TRACE"

/-- The detail that a log must have to show the level. -/
def detail : Level → Nat
  | error => 1
  | warn => 2
  | info => 3
  | debug => 4
  | trace => 5

end Level

/-- One thing that happened. -/
inductive Event where
  /-- The parser took in a token. -/
  | advanced (token : Token)
  /-- The parser came to an opening parenthesis. -/
  | groupOpened (pos : UInt32)
  /-- A text was parsed. -/
  | parsed (expression : Expression)
  /-- A node was worked out. -/
  | nodeEvaluated (node : NodeId) (value : Binary64)
  /-- An expression was worked out, or could not be. -/
  | evaluated (result : Except EvalError Binary64)
  /-- A text got its outcome. -/
  | rendered (source : String) (outcome : Outcome)
  /-- An argument was not well-formed text after its first bytes. -/
  | rejected (validUpTo : Nat)

/-- The value of a field. -/
inductive FieldValue where
  | natural (n : Nat)
  | number (x : Binary64)
  /-- A text that is shown in quotes. -/
  | quoted (text : String)
  /-- A text that is shown as it is. -/
  | plain (text : String)

namespace FieldValue

/-- The value as a log shows it. -/
def logText : FieldValue → String
  | natural n => n.repr
  | number x => x.text .logged
  | quoted text => Text.quoted text
  | plain text => text

end FieldValue

/-- The result of an evaluation as a log shows it. -/
def resultLogText : Except EvalError Binary64 → String
  | .ok value => "Ok(" ++ value.text .logged ++ ")"
  | .error error => "Err(" ++ error.logText ++ ")"

namespace Event

def level : Event → Level
  | advanced _ => .trace
  | groupOpened _ => .trace
  | parsed _ => .debug
  | nodeEvaluated _ _ => .trace
  | evaluated _ => .debug
  | rendered _ _ => .debug
  | rejected _ => .debug

/-- The part of the program that an event concerns. -/
def target : Event → String
  | advanced _ => "calc_parse::cursor"
  | groupOpened _ => "calc_parse::grammar"
  | parsed _ => "calc_parse"
  | nodeEvaluated _ _ => "calc_eval"
  | evaluated _ => "calc_eval"
  | rendered _ _ => "calc_rt"
  | rejected _ => "calc_rt::ffi"

def message : Event → String
  | advanced _ => "advance"
  | groupOpened _ => "parse_factor -> group"
  | parsed _ => "parsed expression"
  | nodeEvaluated _ _ => "eval"
  | evaluated _ => "evaluated expression"
  | rendered _ _ => "rendered"
  | rejected _ => "rejecting non-UTF-8 input"

/-- The fields, in the order in which they are shown. -/
def fields : Event → List (String × FieldValue)
  | advanced token =>
    [("consumed", .quoted token.kind.name), ("at", .natural token.span.start.toNat)]
  | groupOpened pos => [("at", .natural pos.toNat)]
  | parsed expression =>
    [("nodes", .natural expression.arena.size),
      ("tree", .plain (expression.sexpr.toOption.getD ""))]
  | nodeEvaluated node value => [("node", .natural node.index.toNat), ("value", .number value)]
  | evaluated result => [("result", .plain (resultLogText result))]
  | rendered source outcome =>
    [("source", .quoted source), ("status", .plain outcome.status.name),
      ("text", .plain outcome.text)]
  | rejected validUpTo => [("valid_up_to", .natural validUpTo)]

end Event

end Reckon
