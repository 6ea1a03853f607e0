/-
The result of an expression.

`Expression.evaluate` works out all nodes from left to right, the operands of a node before the
node itself.  Dividing by zero, of either sign, is an error, and so is a binary operation
whose result is not finite; the first error ends the evaluation.  Every node that has been
worked out is reported.

* `apply_eq_ok_iff`, `apply_eq_error_iff`: when a binary operation succeeds, and with what, and
  when it fails, and why.
-/
import Reckon.Event

namespace Reckon

namespace BinaryOp

/-- The operation on numbers, with whatever result. -/
def compute : BinaryOp → Binary64 → Binary64 → Binary64
  | add, x, y => x + y
  | sub, x, y => x - y
  | mul, x, y => x * y
  | div, x, y => x / y

/-- The operation, where its result is finite and it is no division by zero. -/
def apply (op : BinaryOp) (x y : Binary64) (span : Span) : Except EvalError Binary64 :=
  if op = div ∧ y.isZero then .error (.divisionByZero span)
  else if (op.compute x y).isFinite then .ok (op.compute x y)
  else .error (.overflow op span)

theorem apply_eq_ok_iff {op : BinaryOp} {x y v : Binary64} {span : Span} :
    op.apply x y span = .ok v ↔
      ¬(op = div ∧ y.isZero = true) ∧ op.compute x y = v ∧ v.isFinite = true := by
  unfold apply
  split
  · simp [*]
  · split
    · simp only [Except.ok.injEq]
      constructor
      · rintro rfl
        exact ⟨by assumption, rfl, by assumption⟩
      · exact fun h => h.2.1
    · rename_i hfin
      simp only [reduceCtorEq, false_iff]
      rintro ⟨-, rfl, h⟩
      exact hfin h

theorem apply_eq_error_iff {op : BinaryOp} {x y : Binary64} {span : Span} {e : EvalError} :
    op.apply x y span = .error e ↔
      ((op = div ∧ y.isZero = true) ∧ e = .divisionByZero span) ∨
      (¬(op = div ∧ y.isZero = true) ∧ (op.compute x y).isFinite = false ∧
        e = .overflow op span) := by
  unfold apply
  split
  · rename_i hzero
    simp only [hzero, Except.error.injEq, @eq_comm _ _ e, and_self, true_and, not_true, false_and,
      or_false]
  · rename_i hzero
    split
    · rename_i hfin
      simp only [reduceCtorEq, hzero, hfin, Bool.true_eq_false, false_and, and_false, or_false]
    · rename_i hfin
      simp only [Except.error.injEq, @eq_comm _ _ e, hzero, Bool.not_eq_true _ ▸ hfin, false_and,
        not_false_eq_true, true_and, false_or]

end BinaryOp

/-- The value of a unary operator. -/
def UnaryOp.apply : UnaryOp → Binary64 → Binary64
  | neg, x => -x
  | plus, x => x

/-- Works out one node after another and reports each. -/
def Eval.evaluator : Visitor (Array Event) Binary64 EvalError where
  literal id value events := (value, events.push (.nodeEvaluated id value))
  enterUnary _ events := events
  leaveUnary id op x events := (op.apply x, events.push (.nodeEvaluated id (op.apply x)))
  enterBinary _ events := events
  between _ events := events
  leaveBinary id op span x y events :=
    match op.apply x y span with
    | .ok value => (.ok value, events.push (.nodeEvaluated id value))
    | .error error => (.error error, events)

/-- The value of a node, with the nodes below it reported after `events`. -/
def Arena.evaluate (arena : Arena) (id : NodeId) (events : Array Event) :
    Except (Interrupt EvalError) Binary64 × Array Event :=
  arena.walk Eval.evaluator id events

/-- The result of an expression, with the evaluation reported after `events`. -/
def Expression.evaluate (e : Expression) (events : Array Event) :
    Except (Interrupt EvalError) Binary64 × Array Event :=
  match e.arena.evaluate e.root events with
  | (.ok value, events) => (.ok value, events.push (.evaluated (.ok value)))
  | (.error (.refused error), events) =>
    (.error (.refused error), events.push (.evaluated (.error error)))
  | (.error (.fault fault), events) => (.error (.fault fault), events)

end Reckon
