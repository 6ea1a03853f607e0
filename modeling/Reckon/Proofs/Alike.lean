/-
Expressions that differ only in where they stand.

When two texts have tokens of the same kinds, in the same order, then what is read and worked out is
the same for both, and only the places are different.  Which place corresponds to which is said by
a relation `R` between the tokens of one text and those of the other, of which it is used only that
tokens that correspond have the same kind.

* `SpanTree.alike_layout`: trees of one shape have the same nodes, those at corresponding places
  corresponding to each other;
* `Arena.fold_evaluator_fst`: the result of an evaluation as a plain recursion;
* `Expression.Alike.evaluate`: expressions whose nodes correspond have the same result, or errors
  that correspond.
-/
import Mathlib.Data.List.Forall2
import Reckon.Proofs.Located

namespace Reckon

/-- Two values that go together, or two errors that do. -/
inductive Both {ε ε' α α' : Type} (E : ε → ε' → Prop) (V : α → α' → Prop) :
    Except ε α → Except ε' α' → Prop where
  | ok {a : α} {b : α'} (h : V a b) : Both E V (.ok a) (.ok b)
  | error {e : ε} {e' : ε'} (h : E e e') : Both E V (.error e) (.error e')

namespace Both

variable {ε ε' δ δ' α α' β β' : Type} {E : ε → ε' → Prop} {D : δ → δ' → Prop} {V : α → α' → Prop}
  {W : β → β' → Prop} {x : Except ε α} {x' : Except ε' α'}

theorem cases (h : Both E V x x') :
    (∃ a a', x = .ok a ∧ x' = .ok a' ∧ V a a') ∨
      ∃ e e', x = .error e ∧ x' = .error e' ∧ E e e' := by
  cases h with
  | ok h => exact .inl ⟨_, _, rfl, rfl, h⟩
  | error h => exact .inr ⟨_, _, rfl, rfl, h⟩

theorem imp {F : ε → ε' → Prop} (h : Both E V x x') (hF : ∀ e e', E e e' → F e e') :
    Both F V x x' := by
  cases h with
  | ok h => exact .ok h
  | error h => exact .error (hF _ _ h)

theorem bind {f : α → Except ε β} {f' : α' → Except ε' β'} (h : Both E V x x')
    (hf : ∀ a a', V a a' → Both E W (f a) (f' a')) : Both E W (x >>= f) (x' >>= f') := by
  cases h with
  | ok h => exact hf _ _ h
  | error h => exact .error h

theorem map {f : α → β} {f' : α' → β'} (h : Both E V x x') (hf : ∀ a a', V a a' → W (f a) (f' a')) :
    Both E W (x.map f) (x'.map f') := by
  cases h with
  | ok h => exact .ok (hf _ _ h)
  | error h => exact .error h

theorem mapError {f : ε → δ} {f' : ε' → δ'} (h : Both E V x x')
    (hf : ∀ e e', E e e' → D (f e) (f' e')) : Both D V (x.mapError f) (x'.mapError f') := by
  cases h with
  | ok h => exact .ok h
  | error h => exact .error (hf _ _ h)

end Both

/-- Nodes of the same kind, made for tokens that correspond. -/
def Node.Alike (R : Token → Token → Prop) (n n' : Node) : Prop :=
  n.kind = n'.kind ∧ R n.token n'.token

/-- Expressions whose nodes are the same and made for tokens that correspond. -/
structure Expression.Alike (R : Token → Token → Prop) (e e' : Expression) : Prop where
  root_eq : e.root = e'.root
  nodes : List.Forall₂ (Node.Alike R) e.arena.nodes.toList e'.arena.nodes.toList

/-- Errors with the same cause, at signs that correspond. -/
inductive EvalError.Alike (R : Token → Token → Prop) : EvalError → EvalError → Prop where
  | divisionByZero {span span' : Span}
      (h : R ⟨.symbol .slash, span⟩ ⟨.symbol .slash, span'⟩) :
      Alike R (.divisionByZero span) (.divisionByZero span')
  | overflow {op : BinaryOp} {span span' : Span}
      (h : R ⟨.symbol op.sign, span⟩ ⟨.symbol op.sign, span'⟩) :
      Alike R (.overflow op span) (.overflow op span')

/-- The same fault, or refusals for errors that correspond. -/
inductive Interrupt.Alike {ε : Type} (E : ε → ε → Prop) : Interrupt ε → Interrupt ε → Prop where
  | fault (cause : Fault) : Alike E (.fault cause) (.fault cause)
  | refused {error error' : ε} (h : E error error') : Alike E (.refused error) (.refused error')

section
variable {R : Token → Token → Prop}

/-! ### Nodes -/

namespace SpanTree

theorem rootAt_eq_of_tree {t u : SpanTree} (base : Nat) (h : t.tree = u.tree) :
    t.rootAt base = u.rootAt base := by
  rw [rootAt, rootAt, size_eq_of_tree h]

theorem alike_layout {t u : SpanTree} (base : Nat) (htree : t.tree = u.tree)
    (hinOrder : List.Forall₂ R t.inOrder u.inOrder) :
    List.Forall₂ (Node.Alike R) (t.layout base) (u.layout base) := by
  induction t generalizing u base with
  | literal value span =>
    cases u <;> simp only [tree, reduceCtorEq] at htree
    obtain rfl := Tree.literal.inj htree
    obtain ⟨htoken, -⟩ := List.forall₂_cons.1 hinOrder
    exact .cons ⟨rfl, htoken⟩ .nil
  | unary op span t ih =>
    cases u <;> simp only [tree, reduceCtorEq] at htree
    obtain ⟨rfl, ht⟩ := Tree.unary.inj htree
    obtain ⟨htoken, hrest⟩ := List.forall₂_cons.1 hinOrder
    refine List.rel_append (ih base ht hrest) (.cons ⟨?_, htoken⟩ .nil)
    rw [rootAt_eq_of_tree base ht]
  | binary op span t u iht ihu =>
    cases u <;> simp only [tree, reduceCtorEq] at htree
    rename_i span' t' u'
    obtain ⟨rfl, ht, hu⟩ := Tree.binary.inj htree
    -- The left operands have the same number of tokens, so the two lists split at the same place.
    have hsize := size_eq_of_tree ht
    have hlength : t'.inOrder.length = t.inOrder.length := by
      rw [length_inOrder, length_inOrder, hsize]
    have hleft := List.forall₂_take t.inOrder.length hinOrder
    have hright := List.forall₂_drop t.inOrder.length hinOrder
    rw [inOrder, inOrder, List.take_left, ← hlength, List.take_left] at hleft
    rw [inOrder, inOrder, List.drop_left, ← hlength, List.drop_left] at hright
    obtain ⟨htoken, hright⟩ := List.forall₂_cons.1 hright
    rw [layout, layout, ← hsize]
    refine List.rel_append (iht base ht hleft)
      (List.rel_append (ihu _ hu hright) (.cons ⟨?_, htoken⟩ .nil))
    rw [rootAt_eq_of_tree base ht, rootAt_eq_of_tree _ hu]

theorem alike_expression {t u : SpanTree} (htree : t.tree = u.tree)
    (hinOrder : List.Forall₂ R t.inOrder u.inOrder) : t.expression.Alike R u.expression :=
  ⟨rootAt_eq_of_tree 0 htree, alike_layout 0 htree hinOrder⟩

end SpanTree

/-! ### Evaluations -/

theorem BinaryOp.apply_alike {op : BinaryOp} {span span' : Span} (x y : Binary64)
    (h : R ⟨.symbol op.sign, span⟩ ⟨.symbol op.sign, span'⟩) :
    Both (EvalError.Alike R) Eq (op.apply x y span) (op.apply x y span') := by
  unfold apply
  split
  · rename_i hzero
    obtain ⟨rfl, -⟩ := hzero
    exact .error (.divisionByZero h)
  · split
    · exact .ok rfl
    · exact .error (.overflow h)

namespace Arena

variable {arena arena' : Arena}

/-- An id that one arena does not have, the other does not have; and nodes with the same id are
alike. -/
theorem get_alike (h : List.Forall₂ (Node.Alike R) arena.nodes.toList arena'.nodes.toList)
    (id : NodeId) : Both Eq (Node.Alike R) (arena.get id) (arena'.get id) := by
  have hsize : arena.size = arena'.size := h.length_eq
  rw [get, get, get?, get?]
  rcases Nat.lt_or_ge id.index.toNat arena.size with hid | hid
  · have hid' : id.index.toNat < arena'.size := hsize ▸ hid
    rw [Array.getElem?_eq_getElem hid, Array.getElem?_eq_getElem hid']
    exact .ok (h.get hid hid')
  · have hid' : arena'.size ≤ id.index.toNat := hsize ▸ hid
    rw [Array.getElem?_eq_none hid, Array.getElem?_eq_none hid', hsize]
    exact .error rfl

/-- The value of a node, worked out no deeper than `depth`, with nothing reported. -/
def valueAt (arena : Arena) (depth : Nat) (id : NodeId) : Except (Interrupt EvalError) Binary64 :=
  match arena.get id, depth with
  | .error fault, _ => .error (.fault fault)
  | .ok _, 0 => .error (.fault .cyclic)
  | .ok node, depth + 1 =>
    match node.kind with
    | .literal value => .ok value
    | .unary op operand => (arena.valueAt depth operand).map op.apply
    | .binary op left right => do
      let x ← arena.valueAt depth left
      let y ← arena.valueAt depth right
      (op.apply x y node.span).mapError .refused

/-- What has been reported does not matter to the result of an evaluation. -/
theorem fold_evaluator_fst (arena : Arena) (depth : Nat) (id : NodeId) (events : Array Event) :
    (arena.fold Eval.evaluator depth id events).1 = arena.valueAt depth id := by
  induction depth generalizing id events with
  | zero =>
    rw [Arena.fold.eq_def, valueAt.eq_def]
    cases arena.get id <;> rfl
  | succ depth ih =>
    rw [Arena.fold.eq_def, valueAt.eq_def]
    cases arena.get id with
    | error fault => rfl
    | ok node =>
      dsimp only
      cases node.kind with
      | literal value => rfl
      | unary op operand =>
        dsimp only
        rw [← ih operand (Eval.evaluator.enterUnary op events)]
        rcases arena.fold Eval.evaluator depth operand _ with ⟨_ | x, events⟩ <;> rfl
      | binary op left right =>
        dsimp only
        rw [← ih left (Eval.evaluator.enterBinary op events)]
        rcases arena.fold Eval.evaluator depth left _ with ⟨_ | x, events⟩
        · rfl
        · dsimp only
          rw [← ih right (Eval.evaluator.between op events)]
          rcases arena.fold Eval.evaluator depth right _ with ⟨_ | y, events⟩
          · rfl
          · show _ = (op.apply x y node.span).mapError Interrupt.refused
            dsimp only [Eval.evaluator]
            cases op.apply x y node.span <;> rfl

theorem evaluate_fst (arena : Arena) (id : NodeId) (events : Array Event) :
    (arena.evaluate id events).1 = arena.valueAt arena.size id := by
  rw [evaluate, walk_eq_fold, fold_evaluator_fst]

/-- Nodes that are alike have the same values, or errors that correspond. -/
theorem valueAt_alike (h : List.Forall₂ (Node.Alike R) arena.nodes.toList arena'.nodes.toList)
    (depth : Nat) (id : NodeId) :
    Both (Interrupt.Alike (EvalError.Alike R)) Eq (arena.valueAt depth id)
      (arena'.valueAt depth id) := by
  induction depth generalizing id with
  | zero =>
    have hget := get_alike h id
    rw [valueAt.eq_def, valueAt.eq_def]
    generalize arena.get id = node at hget
    generalize arena'.get id = node' at hget
    cases hget with
    | error hfault => exact hfault ▸ .error (.fault _)
    | ok hnode => exact .error (.fault .cyclic)
  | succ depth ih =>
    have hget := get_alike h id
    rw [valueAt.eq_def, valueAt.eq_def]
    generalize arena.get id = node at hget
    generalize arena'.get id = node' at hget
    cases hget with
    | error hfault => exact hfault ▸ .error (.fault _)
    | @ok node node' hnode =>
      obtain ⟨kind, span⟩ := node
      obtain ⟨kind', span'⟩ := node'
      obtain ⟨rfl, htoken⟩ := hnode
      cases kind with
      | literal value => exact .ok rfl
      | unary op operand => exact (ih operand).map fun x x' hx => congrArg op.apply hx
      | binary op left right =>
        refine (ih left).bind fun x x' hx => (ih right).bind fun y y' hy => ?_
        subst hx hy
        exact (BinaryOp.apply_alike x y htoken).mapError fun e e' he => .refused he

end Arena

theorem Expression.evaluate_fst (e : Expression) (events : Array Event) :
    (e.evaluate events).1 = e.arena.valueAt e.arena.size e.root := by
  rw [← Arena.evaluate_fst _ _ events, Expression.evaluate]
  rcases e.arena.evaluate e.root events with ⟨(_ | _) | _, _⟩ <;> rfl

theorem Expression.Alike.evaluate {e e' : Expression} (h : e.Alike R e')
    (events events' : Array Event) :
    Both (Interrupt.Alike (EvalError.Alike R)) Eq (e.evaluate events).1
      (e'.evaluate events').1 := by
  have hsize : e.arena.size = e'.arena.size := h.nodes.length_eq
  rw [e.evaluate_fst, e'.evaluate_fst, ← h.root_eq, ← hsize]
  exact Arena.valueAt_alike h.nodes e.arena.size e.root

end

end Reckon
