/-
From a text to its result.

`evaluate` reads an expression and works it out; `render` gives the outcome as a text.  Both
tell what happened on the way.
-/
import Reckon.Expr.Parser
import Reckon.Expr.Eval

namespace Reckon

/-- Why a text has no result. -/
inductive Failure where
  | parse (error : ParseError)
  | eval (error : EvalError)
  /-- The nodes of the expression do not hang together. -/
  | fault (fault : Fault)
  deriving DecidableEq

namespace Failure

def status : Failure → Status
  | parse (.lex _) => .lexError
  | parse _ => .parseError
  | eval _ => .evalError
  | fault _ => .internal

def message : Failure → String
  | parse error => error.message
  | eval error => error.message
  | fault _ => "internal error"

/-- The failure that ended an evaluation. -/
def ofInterrupt : Interrupt EvalError → Failure
  | .refused error => eval error
  | .fault cause => fault cause

end Failure

/-- The result of the expression that a text stands for. -/
def evaluate (source : String) : Except Failure Binary64 × Array Event :=
  match parse source with
  | (.error error, events) => (.error (.parse error), events)
  | (.ok expression, events) =>
    let (result, events) := expression.evaluate events
    (result.mapError .ofInterrupt, events)

/-- The outcome that shows a result. -/
def Outcome.ofResult : Except Failure Binary64 → Outcome
  | .ok value => .success value
  | .error failure => .failure failure.status failure.message

/-- The outcome for a text: its result, or what is wrong with it.  A text whose positions do not
fit into a span is not looked at. -/
def render (source : String) : Outcome × Array Event :=
  if maxOffset < source.utf8ByteSize then (.failure .invalidInput "input is too long", #[])
  else
    let (result, events) := evaluate source
    let outcome := Outcome.ofResult result
    (outcome, events.push (.rendered source outcome))

example : (render "1 - 2 * -3").1 = ⟨.ok, "7"⟩ := by decide +kernel
example : (render "5 / 0").1 = ⟨.evalError, "error: division by zero at position 2"⟩ := by
  decide +kernel
example : (render "(1 + 2").1 = ⟨.parseError, "error: unexpected end of input at position 6"⟩ := by
  decide +kernel
example : (render "1 $").1 = ⟨.lexError, "error: unexpected character '$' at position 2"⟩ := by
  decide +kernel

end Reckon
