/-
Trees laid out in an arena.

`SpanTree.layout base` lists the nodes of a tree in post-order, operands before their operator and
left before right, under the ids from `base` on.  An arena that contains such a stretch has the
tree below its last node, and walks over it go by the tree:

* `Arena.unfolds_of_contains`: the tree is what the arena unfolds to;
* `Arena.fold_of_contains`: a walk over the arena is the recursion on the tree;
* `SpanTree.evaluate_expression`: the result of a tree that fills its arena is worked out from its
  operands, and its values in post-order are what is reported.

Ids are 32-bit words, so all this is about arenas with no more nodes than there are ids.
-/
import Reckon.Expr.Eval
import Reckon.Proofs.Grammar

namespace Reckon

/-- The arena, followed from the node, is the expression. -/
inductive Arena.Unfolds (arena : Arena) : NodeId → Tree → Prop where
  | literal {id : NodeId} {value : Binary64} {span : Span}
      (h : arena.get? id = some ⟨.literal value, span⟩) : Unfolds arena id (.literal value)
  | unary {id operand : NodeId} {op : UnaryOp} {span : Span} {t : Tree}
      (h : arena.get? id = some ⟨.unary op operand, span⟩) (ht : Unfolds arena operand t) :
      Unfolds arena id (.unary op t)
  | binary {id left right : NodeId} {op : BinaryOp} {span : Span} {t u : Tree}
      (h : arena.get? id = some ⟨.binary op left right, span⟩) (ht : Unfolds arena left t)
      (hu : Unfolds arena right u) : Unfolds arena id (.binary op t u)

theorem Arena.Unfolds.unique {arena : Arena} {id : NodeId} {t u : Tree}
    (ht : arena.Unfolds id t) (hu : arena.Unfolds id u) : t = u := by
  -- The node under an id is one and the same, so both derivations end in the same rule.
  induction ht generalizing u with
  | literal h => cases hu <;> simp_all
  | unary h _ ih =>
    cases hu with
    | unary h' hu' =>
      simp only [h, Option.some.injEq, Node.mk.injEq, NodeKind.unary.injEq] at h'
      obtain ⟨⟨rfl, rfl⟩, -⟩ := h'
      rw [ih hu']
    | _ => simp_all
  | binary h _ _ iht ihu =>
    cases hu with
    | binary h' ht' hu' =>
      simp only [h, Option.some.injEq, Node.mk.injEq, NodeKind.binary.injEq] at h'
      obtain ⟨⟨rfl, rfl, rfl⟩, -⟩ := h'
      rw [iht ht', ihu hu']
    | _ => simp_all

namespace SpanTree

/-- The id of the root, where the nodes of the tree have the ids from `base` on. -/
def rootAt (base : Nat) (t : SpanTree) : NodeId := .ofNat (base + t.size - 1)

/-- The nodes in post-order, with the ids from `base` on. -/
def layout (base : Nat) : SpanTree → List Node
  | literal value span => [⟨.literal value, span⟩]
  | unary op span t => t.layout base ++ [⟨.unary op (t.rootAt base), span⟩]
  | binary op span t u =>
    t.layout base ++ (u.layout (base + t.size) ++
      [⟨.binary op (t.rootAt base) (u.rootAt (base + t.size)), span⟩])

/-- The tree in an arena of its own. -/
def expression (t : SpanTree) : Expression := ⟨⟨(t.layout 0).toArray⟩, t.rootAt 0⟩

/-- The node of the root. -/
def rootNode (base : Nat) : SpanTree → Node
  | literal value span => ⟨.literal value, span⟩
  | unary op span t => ⟨.unary op (t.rootAt base), span⟩
  | binary op span t u => ⟨.binary op (t.rootAt base) (u.rootAt (base + t.size)), span⟩

theorem getLast?_layout (base : Nat) (t : SpanTree) :
    (t.layout base).getLast? = some (t.rootNode base) := by
  cases t with
  | literal value span => rfl
  | unary op span t => rw [layout, List.getLast?_concat, rootNode]
  | binary op span t u => rw [layout, ← List.append_assoc, List.getLast?_concat, rootNode]

@[simp] theorem length_layout (base : Nat) (t : SpanTree) : (t.layout base).length = t.size := by
  induction t generalizing base with
  | literal value span => rfl
  | unary op span t ih => rw [layout, List.length_append, ih, size, List.length_singleton]
  | binary op span t u iht ihu =>
    rw [layout, List.length_append, List.length_append, iht, ihu, size, List.length_singleton]
    omega

@[simp] theorem size_arena_expression (t : SpanTree) : t.expression.arena.size = t.size := by
  simp [expression, Arena.size]

end SpanTree

/-! ### Trees inside an arena -/

/-- The nodes with the ids from `base` on are those of the tree, in post-order. -/
def Arena.Contains (arena : Arena) (base : Nat) (t : SpanTree) : Prop :=
  ∃ front back, arena.nodes.toList = front ++ (t.layout base ++ back) ∧ front.length = base

namespace Arena

open SpanTree (rootNode)

variable {arena : Arena} {base : Nat}

theorem contains_expression (t : SpanTree) : t.expression.arena.Contains 0 t :=
  ⟨[], [], by simp [SpanTree.expression], rfl⟩

theorem Contains.size_le {t : SpanTree} (h : arena.Contains base t) :
    base + t.size ≤ arena.size := by
  obtain ⟨front, back, hnodes, rfl⟩ := h
  rw [Arena.size, ← Array.length_toList, hnodes]
  simp only [List.length_append, SpanTree.length_layout]
  omega

theorem Contains.operand {op : UnaryOp} {span : Span} {t : SpanTree}
    (h : arena.Contains base (.unary op span t)) : arena.Contains base t := by
  obtain ⟨front, back, hnodes, hbase⟩ := h
  exact ⟨front, _, by rw [hnodes, SpanTree.layout, List.append_assoc], hbase⟩

theorem Contains.left {op : BinaryOp} {span : Span} {t u : SpanTree}
    (h : arena.Contains base (.binary op span t u)) : arena.Contains base t := by
  obtain ⟨front, back, hnodes, hbase⟩ := h
  exact ⟨front, _, by rw [hnodes, SpanTree.layout, List.append_assoc], hbase⟩

theorem Contains.right {op : BinaryOp} {span : Span} {t u : SpanTree}
    (h : arena.Contains base (.binary op span t u)) : arena.Contains (base + t.size) u := by
  obtain ⟨front, back, hnodes, rfl⟩ := h
  refine ⟨front ++ t.layout front.length, [rootNode front.length (.binary op span t u)] ++ back,
    ?_, by simp⟩
  rw [hnodes, SpanTree.layout]
  simp only [List.append_assoc]
  rfl

/-- A node is found under its id, as long as the ids have not run out. -/
theorem get?_ofNat {n : Nat} (h : n < idCount) : arena.get? (.ofNat n) = arena.nodes[n]? := by
  rw [get?, NodeId.ofNat, UInt32.toNat_ofNat']
  exact congrArg (arena.nodes[·]?) (Nat.mod_eq_of_lt h)

/-- The root of a tree is found under its id. -/
theorem Contains.get?_rootAt {t : SpanTree} (h : arena.Contains base t)
    (hsize : arena.size ≤ idCount) : arena.get? (t.rootAt base) = some (t.rootNode base) := by
  have hle := h.size_le
  have hpos := t.size_pos
  obtain ⟨front, back, hnodes, rfl⟩ := h
  -- The root is the last node of the layout.
  rw [SpanTree.rootAt, get?_ofNat (by omega), ← Array.getElem?_toList, hnodes,
    List.getElem?_append_right (by omega), List.getElem?_append_left (by simp; omega),
    ← SpanTree.getLast?_layout, List.getLast?_eq_getElem?, SpanTree.length_layout]
  congr 1
  omega

theorem Contains.get_rootAt {t : SpanTree} (h : arena.Contains base t)
    (hsize : arena.size ≤ idCount) : arena.get (t.rootAt base) = .ok (t.rootNode base) := by
  rw [get, h.get?_rootAt hsize]

/-- A tree that an arena contains is what the arena unfolds to. -/
theorem unfolds_of_contains {t : SpanTree} (h : arena.Contains base t)
    (hsize : arena.size ≤ idCount) : arena.Unfolds (t.rootAt base) t.tree := by
  induction t generalizing base with
  | literal value span => exact .literal (h.get?_rootAt hsize)
  | unary op span t ih => exact .unary (h.get?_rootAt hsize) (ih h.operand)
  | binary op span t u iht ihu =>
    exact .binary (h.get?_rootAt hsize) (iht h.left) (ihu h.right)

end Arena

theorem SpanTree.unfolds_expression {t : SpanTree} (h : t.size ≤ idCount) :
    t.expression.arena.Unfolds t.expression.root t.tree :=
  Arena.unfolds_of_contains (Arena.contains_expression t) (by simpa using h)

/-! ### Walks by the tree -/

variable {σ β ε : Type}

/-- Walks over the nodes of a tree that have the ids from `base` on. -/
def SpanTree.fold (visitor : Visitor σ β ε) (base : Nat) : SpanTree → σ → Except ε β × σ
  | literal value span, state =>
    let (result, state) := visitor.literal ((literal value span).rootAt base) value state
    (.ok result, state)
  | unary op span t, state =>
    match t.fold visitor base (visitor.enterUnary op state) with
    | (.error error, state) => (.error error, state)
    | (.ok value, state) =>
      let (result, state) := visitor.leaveUnary ((unary op span t).rootAt base) op value state
      (.ok result, state)
  | binary op span t u, state =>
    match t.fold visitor base (visitor.enterBinary op state) with
    | (.error error, state) => (.error error, state)
    | (.ok left, state) =>
      match u.fold visitor (base + t.size) (visitor.between op state) with
      | (.error error, state) => (.error error, state)
      | (.ok right, state) =>
        visitor.leaveBinary ((binary op span t u).rootAt base) op span left right state

/-- Below the root of a tree that it contains, an arena is walked over as the tree is. -/
theorem Arena.fold_of_contains {arena : Arena} {base : Nat} {t : SpanTree}
    (visitor : Visitor σ β ε) (h : arena.Contains base t) (hsize : arena.size ≤ idCount)
    {depth : Nat} (hdepth : t.size ≤ depth) (state : σ) :
    arena.fold visitor depth (t.rootAt base) state =
      ((t.fold visitor base state).1.mapError .refused, (t.fold visitor base state).2) := by
  -- Each operand is smaller than its tree, so the depth that is left is enough for it.
  induction t generalizing base depth state with
  | literal value span =>
    obtain ⟨depth, rfl⟩ := Nat.exists_eq_add_of_le' hdepth
    rw [SpanTree.size, Arena.fold.eq_def, h.get_rootAt hsize]
    rfl
  | unary op span t ih =>
    rw [SpanTree.size] at hdepth
    obtain ⟨depth, rfl⟩ := Nat.exists_eq_add_of_le' (Nat.le_of_add_left_le hdepth)
    rw [Arena.fold.eq_def, h.get_rootAt hsize]
    dsimp only [SpanTree.rootNode]
    rw [ih h.operand (by omega), SpanTree.fold]
    rcases t.fold visitor base (visitor.enterUnary op state) with ⟨_ | value, state⟩ <;> rfl
  | binary op span t u iht ihu =>
    rw [SpanTree.size] at hdepth
    obtain ⟨depth, rfl⟩ := Nat.exists_eq_add_of_le' (Nat.le_of_add_left_le hdepth)
    rw [Arena.fold.eq_def, h.get_rootAt hsize]
    dsimp only [SpanTree.rootNode]
    rw [iht h.left (by omega), SpanTree.fold]
    rcases t.fold visitor base (visitor.enterBinary op state) with ⟨_ | left, state⟩
    · rfl
    · dsimp only [Except.mapError]
      rw [ihu h.right (by omega)]
      rcases u.fold visitor (base + t.size) (visitor.between op state) with ⟨_ | right, state⟩
      · rfl
      · dsimp only [Except.mapError]
        rcases visitor.leaveBinary ((SpanTree.binary op span t u).rootAt base) op span left right
          state with ⟨_ | value, state⟩ <;> rfl

/-- A tree in an arena of its own is walked over from its root as the tree is. -/
theorem SpanTree.walk_expression (visitor : Visitor σ β ε) {t : SpanTree} (h : t.size ≤ idCount)
    (state : σ) :
    t.expression.arena.walk visitor t.expression.root state =
      ((t.fold visitor 0 state).1.mapError .refused, (t.fold visitor 0 state).2) := by
  rw [Arena.walk_eq_fold]
  exact Arena.fold_of_contains visitor (Arena.contains_expression t) (by simpa using h) (by simp)
    state

/-- A literal is walked over in one step. -/
theorem Arena.walk_of_literal {arena : Arena} {id : NodeId} {value : Binary64} {span : Span}
    (visitor : Visitor σ β ε) (hnode : arena.get? id = some ⟨.literal value, span⟩) (state : σ) :
    arena.walk visitor id state =
      (.ok (visitor.literal id value state).1, (visitor.literal id value state).2) := by
  obtain ⟨hlt, -⟩ := Array.getElem?_eq_some_iff.1 hnode
  obtain ⟨depth, hdepth⟩ : ∃ depth, arena.size = depth + 1 :=
    ⟨arena.size - 1, (Nat.sub_add_cancel (Nat.one_le_of_lt hlt)).symm⟩
  have hget : arena.get id = .ok ⟨.literal value, span⟩ := by rw [Arena.get, hnode]
  rw [Arena.walk_eq_fold, hdepth, Arena.fold.eq_def, hget]

/-! ### Results -/

/-- The reports of nodes with the given values, which have the ids from `base` on. -/
def nodeReports (base : Nat) (values : List Binary64) : List Event :=
  values.mapIdx fun i value => .nodeEvaluated (.ofNat (base + i)) value

theorem nodeReports_append (base : Nat) (front back : List Binary64) :
    nodeReports base (front ++ back) =
      nodeReports base front ++ nodeReports (base + front.length) back := by
  rw [nodeReports, List.mapIdx_append, nodeReports, nodeReports]
  congr 2
  funext i value
  rw [Nat.add_assoc, Nat.add_comm i]

theorem nodeReports_singleton (base : Nat) (value : Binary64) :
    nodeReports base [value] = [.nodeEvaluated (.ofNat base) value] := rfl

namespace SpanTree

/-- The result of an expression; of two failing operands the left one gives the error. -/
def evaluate : SpanTree → Except EvalError Binary64
  | literal value _ => .ok value
  | unary op _ t => t.evaluate.map op.apply
  | binary op span t u =>
    match t.evaluate with
    | .error error => .error error
    | .ok left =>
      match u.evaluate with
      | .error error => .error error
      | .ok right => op.apply left right span

/-- The values of the nodes in post-order, up to the first one with an error. -/
def values : SpanTree → List Binary64
  | literal value _ => [value]
  | unary op span t => t.values ++ (unary op span t).evaluate.toOption.toList
  | binary op span t u =>
    match t.evaluate with
    | .error _ => t.values
    | .ok _ => t.values ++ (u.values ++ (binary op span t u).evaluate.toOption.toList)

/-- A tree with a result has a value for each node, the result being that of the last one. -/
theorem values_of_ok {t : SpanTree} {value : Binary64} (h : t.evaluate = .ok value) :
    ∃ front, t.values = front ++ [value] ∧ front.length + 1 = t.size := by
  induction t generalizing value with
  | literal x span =>
    obtain rfl := Except.ok.inj h
    exact ⟨[], rfl, rfl⟩
  | unary op span t ih =>
    cases ht : t.evaluate with
    | error error => simp [evaluate, ht, Except.map] at h
    | ok x =>
      obtain ⟨front, hvalues, hlength⟩ := ih ht
      refine ⟨t.values, by rw [values, h]; rfl, ?_⟩
      rw [hvalues, List.length_append, List.length_singleton, hlength, size]
  | binary op span t u iht ihu =>
    cases ht : t.evaluate with
    | error error => simp [evaluate, ht] at h
    | ok x =>
      cases hu : u.evaluate with
      | error error => simp [evaluate, ht, hu] at h
      | ok y =>
        obtain ⟨front, hvalues, hlength⟩ := iht ht
        obtain ⟨front', hvalues', hlength'⟩ := ihu hu
        refine ⟨t.values ++ u.values, by simp [values, ht, h, Except.toOption], ?_⟩
        rw [hvalues, hvalues', size, ← hlength, ← hlength']
        simp only [List.length_append, List.length_singleton]

theorem length_values_of_ok {t : SpanTree} {value : Binary64} (h : t.evaluate = .ok value) :
    t.values.length = t.size := by
  obtain ⟨front, hvalues, hlength⟩ := values_of_ok h
  rw [hvalues, List.length_append, List.length_singleton, hlength]

/-- Going down into a tree gives its result, and reports the values of its nodes in post-order. -/
theorem fold_evaluator_eq (base : Nat) (t : SpanTree) (events : Array Event) :
    t.fold Eval.evaluator base events =
      (t.evaluate, events ++ (nodeReports base t.values).toArray) := by
  induction t generalizing base events with
  | literal value span => rfl
  | unary op span t ih =>
    have henter : Eval.evaluator.enterUnary op events = events := rfl
    rw [fold, ih, henter]
    cases ht : t.evaluate with
    | error error => simp [values, evaluate, ht, Except.map, Except.toOption]
    | ok x =>
      have hroot : (unary op span t).rootAt base = .ofNat (base + t.values.length) := by
        rw [rootAt, size, length_values_of_ok ht, ← Nat.add_assoc, Nat.add_sub_cancel]
      simp [Eval.evaluator, hroot, values, evaluate, ht, Except.map, Except.toOption,
        nodeReports_append, nodeReports_singleton]
  | binary op span t u iht ihu =>
    have henter : Eval.evaluator.enterBinary op events = events := rfl
    rw [fold, iht, henter]
    cases ht : t.evaluate with
    | error error => simp [values, evaluate, ht]
    | ok x =>
      have hbetween (events : Array Event) : Eval.evaluator.between op events = events := rfl
      dsimp only
      rw [ihu, hbetween]
      cases hu : u.evaluate with
      | error error =>
        simp [values, evaluate, ht, hu, Except.toOption, nodeReports_append, length_values_of_ok ht]
      | ok y =>
        have hroot : (binary op span t u).rootAt base =
            .ofNat (base + t.values.length + u.values.length) := by
          rw [rootAt, size, length_values_of_ok ht, length_values_of_ok hu]
          congr 1
          omega
        simp only [Eval.evaluator, hroot, values, evaluate, ht, hu]
        cases op.apply x y span <;>
          simp [Except.toOption, nodeReports_append, nodeReports_singleton, length_values_of_ok ht]

/-- A tree in an arena of its own has the result of the tree, and the values of its nodes are
reported, whatever was reported before. -/
theorem evaluate_expression {t : SpanTree} (h : t.size ≤ idCount) (events : Array Event) :
    t.expression.evaluate events =
      (t.evaluate.mapError .refused,
        (events ++ (nodeReports 0 t.values).toArray).push (.evaluated t.evaluate)) := by
  rw [Expression.evaluate, Arena.evaluate, walk_expression Eval.evaluator h, fold_evaluator_eq]
  cases t.evaluate <;> rfl

end SpanTree

end Reckon
