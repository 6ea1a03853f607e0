/-
Outcomes: a text for the reader, and a status for a program.
-/
import Reckon.Decimal.Hundredths

namespace Reckon

/-- What became of a request. -/
inductive Status where
  | ok
  | lexError
  | parseError
  | evalError
  /-- There is no text to work on. -/
  | invalidInput
  /-- The program itself is at fault. -/
  | internal
  deriving DecidableEq

namespace Status

/-- The number of a status. -/
def code : Status → Nat
  | ok => 0
  | lexError => 1
  | parseError => 2
  | evalError => 3
  | invalidInput => 4
  | internal => 5

/-- The name of a status in a log. -/
def name : Status → String
  | ok => "Ok"
  | lexError => "LexError"
  | parseError => "ParseError"
  | evalError => "EvalError"
  | invalidInput => "InvalidInput"
  | internal => "Internal"

end Status

/-- A status and a text: the result, or what is wrong. -/
structure Outcome where
  status : Status
  text : String
  deriving DecidableEq

namespace Outcome

/-- What stands before every text that is not a result. -/
def errorMark : String := "error: "

/-- The outcome with a result. -/
def success (value : Binary64) : Outcome := ⟨.ok, resultText value⟩

/-- The outcome without a result. -/
def failure (status : Status) (message : String) : Outcome := ⟨status, errorMark ++ message⟩

end Outcome

end Reckon
