/-
Walks over the nodes of an expression.

A walk goes through all nodes below a given one, from left to right, and comes to each node
twice: on the way down and, with the results of its operands, on the way up.  A `Visitor` says what
is done there; it carries a state along and may refuse to go on at a binary node.  The walk
ends early when it comes to an id that the arena does not have.

The nodes that are part way done are kept in a list of frames, so the depth of an expression is
not bounded by the depth of calls.  A path through nodes without a cycle is no longer than the
number of nodes; the walk counts its depth against it, which is why it ends on any arena.

`Arena.fold` is the same walk as a plain recursion on the depth, for use in proofs:

* `walk_eq_fold`: the two agree on every arena, visitor and state.
-/
import Reckon.Expr.Arena

namespace Reckon

/-- Why a walk ended early. -/
inductive Interrupt (ε : Type) where
  | fault (fault : Fault)
  /-- The visitor refused to go on. -/
  | refused (error : ε)
  deriving DecidableEq

/-- What is done at each node, with a state `σ`, results `β` and errors `ε`. -/
structure Visitor (σ β ε : Type) where
  literal : NodeId → Binary64 → σ → β × σ
  enterUnary : UnaryOp → σ → σ
  leaveUnary : NodeId → UnaryOp → β → σ → β × σ
  enterBinary : BinaryOp → σ → σ
  /-- Between the two operands of a binary node. -/
  between : BinaryOp → σ → σ
  leaveBinary : NodeId → BinaryOp → Span → β → β → σ → Except ε β × σ

namespace Walk

/-- A node part way done, named for what it waits for. -/
inductive Frame (β : Type) where
  | operand (id : NodeId) (op : UnaryOp)
  | left (id : NodeId) (op : BinaryOp) (span : Span) (right : NodeId) (depth : Nat)
  | right (id : NodeId) (op : BinaryOp) (span : Span) (left : β)

/-- Where a walk stands: before a node, with the depth that may still be gone down, or after one. -/
inductive Focus (β : Type) where
  | before (id : NodeId) (depth : Nat)
  | after (value : β)

/-- A bound on the steps below a point of so much depth. -/
def bound : Nat → Nat
  | 0 => 3
  | depth + 1 => 3 * bound depth

/-- A bound on the steps that a frame still causes. -/
def Frame.steps {β : Type} : Frame β → Nat
  | operand .. => 1
  | left _ _ _ _ depth => bound depth + 2
  | right .. => 1

/-- A bound on the steps up to the end of the node in focus. -/
def Focus.steps {β : Type} : Focus β → Nat
  | before _ depth => bound depth
  | after _ => 0

/-- A bound on the steps that frames cause. -/
def Frame.totalSteps {β : Type} (frames : List (Frame β)) : Nat :=
  frames.foldr (fun frame n => frame.steps + n) 0

/-- A bound on the steps that are left. -/
def steps {β : Type} (focus : Focus β) (frames : List (Frame β)) : Nat :=
  focus.steps + Frame.totalSteps frames

theorem three_le_bound (depth : Nat) : 3 ≤ bound depth := by
  induction depth with
  | zero => exact Nat.le_refl 3
  | succ depth ih =>
    rw [bound]
    omega

variable {σ β ε : Type}

/-- Goes on from a point until the walk ends. -/
def run (visitor : Visitor σ β ε) (arena : Arena) (focus : Focus β) (frames : List (Frame β))
    (state : σ) : Except (Interrupt ε) β × σ :=
  match focus with
  | .before id depth =>
    match arena.get id, depth with
    | .error fault, _ => (.error (.fault fault), state)
    | .ok _, 0 => (.error (.fault .cyclic), state)
    | .ok node, depth + 1 =>
      match node.kind with
      | .literal value =>
        let (result, state) := visitor.literal id value state
        run visitor arena (.after result) frames state
      | .unary op operand =>
        run visitor arena (.before operand depth) (.operand id op :: frames)
          (visitor.enterUnary op state)
      | .binary op left right =>
        run visitor arena (.before left depth) (.left id op node.span right depth :: frames)
          (visitor.enterBinary op state)
  | .after value =>
    match frames with
    | [] => (.ok value, state)
    | .operand id op :: frames =>
      let (result, state) := visitor.leaveUnary id op value state
      run visitor arena (.after result) frames state
    | .left id op span right depth :: frames =>
      run visitor arena (.before right depth) (.right id op span value :: frames)
        (visitor.between op state)
    | .right id op span left :: frames =>
      match visitor.leaveBinary id op span left value state with
      | (.ok result, state) => run visitor arena (.after result) frames state
      | (.error error, state) => (.error (.refused error), state)
termination_by steps focus frames
decreasing_by
  all_goals
    simp only [steps, Frame.totalSteps, Focus.steps, Frame.steps, List.foldr_cons, bound]
    try have := three_le_bound depth
    omega

end Walk

/-- Walks over all nodes below `id`. -/
def Arena.walk {σ β ε : Type} (arena : Arena) (visitor : Visitor σ β ε) (id : NodeId) (state : σ) :
    Except (Interrupt ε) β × σ :=
  Walk.run visitor arena (.before id arena.size) [] state

/-! ### The walk as a recursion -/

variable {σ β ε : Type}

/-- Walks over all nodes below `id`, no deeper than `depth`. -/
def Arena.fold (arena : Arena) (visitor : Visitor σ β ε) (depth : Nat) (id : NodeId) (state : σ) :
    Except (Interrupt ε) β × σ :=
  match arena.get id, depth with
  | .error fault, _ => (.error (.fault fault), state)
  | .ok _, 0 => (.error (.fault .cyclic), state)
  | .ok node, depth + 1 =>
    match node.kind with
    | .literal value =>
      let (result, state) := visitor.literal id value state
      (.ok result, state)
    | .unary op operand =>
      match arena.fold visitor depth operand (visitor.enterUnary op state) with
      | (.error interrupt, state) => (.error interrupt, state)
      | (.ok value, state) =>
        let (result, state) := visitor.leaveUnary id op value state
        (.ok result, state)
    | .binary op left right =>
      match arena.fold visitor depth left (visitor.enterBinary op state) with
      | (.error interrupt, state) => (.error interrupt, state)
      | (.ok leftValue, state) =>
        match arena.fold visitor depth right (visitor.between op state) with
        | (.error interrupt, state) => (.error interrupt, state)
        | (.ok rightValue, state) =>
          match visitor.leaveBinary id op node.span leftValue rightValue state with
          | (.ok result, state) => (.ok result, state)
          | (.error error, state) => (.error (.refused error), state)

/-- Before a node, a walk does what the recursion does with that node, and then goes on with the
frames. -/
theorem Walk.run_before (visitor : Visitor σ β ε) (arena : Arena) (depth : Nat) (id : NodeId)
    (frames : List (Walk.Frame β)) (state : σ) :
    Walk.run visitor arena (.before id depth) frames state =
      match arena.fold visitor depth id state with
      | (.ok value, state) => Walk.run visitor arena (.after value) frames state
      | (.error interrupt, state) => (.error interrupt, state) := by
  induction depth generalizing id frames state with
  | zero =>
    rw [Walk.run.eq_def, Arena.fold.eq_def]
    dsimp only
    cases arena.get id <;> rfl
  | succ depth ih =>
    rw [Walk.run.eq_def, Arena.fold.eq_def]
    dsimp only
    cases arena.get id with
    | error fault => rfl
    | ok node =>
      dsimp only
      cases node.kind with
      | literal value => rfl
      | unary op operand =>
        dsimp only
        rw [ih]
        rcases arena.fold visitor depth operand _ with ⟨_ | value, state⟩
        · rfl
        · dsimp only
          rw [Walk.run]
      | binary op left right =>
        dsimp only
        rw [ih]
        rcases arena.fold visitor depth left _ with ⟨_ | leftValue, state⟩
        · rfl
        · dsimp only
          rw [Walk.run, ih]
          rcases arena.fold visitor depth right _ with ⟨_ | rightValue, state⟩
          · rfl
          · dsimp only
            rw [Walk.run]
            rcases visitor.leaveBinary id op node.span leftValue rightValue state with
              ⟨_ | result, state⟩ <;> rfl

theorem Arena.walk_eq_fold (arena : Arena) (visitor : Visitor σ β ε) (id : NodeId) (state : σ) :
    arena.walk visitor id state = arena.fold visitor arena.size id state := by
  rw [Arena.walk, Walk.run_before]
  rcases arena.fold visitor arena.size id state with ⟨_ | value, state⟩
  · rfl
  · dsimp only
    rw [Walk.run]

end Reckon
