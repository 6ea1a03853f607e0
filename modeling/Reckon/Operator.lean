/-
The operators of an expression and the signs they are written with.
-/

namespace Reckon

/-- An operator between two operands. -/
inductive BinaryOp where
  | add
  | sub
  | mul
  | div
  deriving DecidableEq, Inhabited

/-- An operator in front of one operand. -/
inductive UnaryOp where
  | neg
  | plus
  deriving DecidableEq, Inhabited

/-- The sign a binary operator is written with. -/
def BinaryOp.symbol : BinaryOp → String
  | add => "+"
  | sub => "-"
  | mul => "*"
  | div => "/"

/-- A binary operator's name in a log. -/
def BinaryOp.name : BinaryOp → String
  | add => "Add"
  | sub => "Sub"
  | mul => "Mul"
  | div => "Div"

/-- The sign a unary operator is written with. -/
def UnaryOp.symbol : UnaryOp → String
  | neg => "-"
  | plus => "+"

end Reckon
