/-
Expressions with their grouping written out.

Every operator is written in front of its operands, in parentheses with them: `1 - 2 * 3` becomes
`(- 1 (* 2 3))`.
-/
import Reckon.Decimal.Layout
import Reckon.Expr.Walk

namespace Reckon

/-- Writes the node of an expression onto a text. -/
def Sexpr.writer : Visitor String Unit Empty where
  literal _ value text := ((), text ++ value.text .plain)
  enterUnary op text := text ++ "(" ++ op.symbol ++ " "
  leaveUnary _ _ _ text := ((), text ++ ")")
  enterBinary op text := text ++ "(" ++ op.symbol ++ " "
  between _ text := text ++ " "
  leaveBinary _ _ _ _ _ text := (.ok (), text ++ ")")

/-- The expression below a node, with its grouping written out. -/
def Arena.sexpr (arena : Arena) (id : NodeId) : Except Fault String :=
  match arena.walk Sexpr.writer id "" with
  | (.ok (), text) => .ok text
  | (.error (.fault fault), _) => .error fault

/-- The expression with its grouping written out. -/
def Expression.sexpr (e : Expression) : Except Fault String := e.arena.sexpr e.root

end Reckon
