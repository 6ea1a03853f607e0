/-
The infix reading of an expression.

Read from its root in infix order, an operator before its operand or between its two, the nodes of
a parsed expression are those that the tokens of the text were made into, one after another:

* `SpanTree.fold_reader`: a walk that puts the ids in infix order gives those of the tree;
* `Arena.Contains.token_infixIds`: the nodes under these ids are made for the tokens of the tree,
  from left to right;
* `parse_infixIds`: so no token of a parsed text is lost, made into two nodes, or moved.
-/
import Reckon.Proofs.Located

namespace Reckon

/-- Puts the ids of nodes in infix order. -/
def Infix.reader : Visitor Unit (List NodeId) Empty where
  literal id _ _ := ([id], ())
  enterUnary _ _ := ()
  leaveUnary id _ ids _ := (id :: ids, ())
  enterBinary _ _ := ()
  between _ _ := ()
  leaveBinary id _ _ left right _ := (.ok (left ++ id :: right), ())

/-- The ids below a node in infix order. -/
def Arena.infixIds (arena : Arena) (id : NodeId) : Except Fault (List NodeId) :=
  match arena.walk Infix.reader id () with
  | (.ok ids, _) => .ok ids
  | (.error (.fault fault), _) => .error fault

/-- The ids of an expression in infix order. -/
def Expression.infixIds (e : Expression) : Except Fault (List NodeId) := e.arena.infixIds e.root

namespace SpanTree

/-- The ids of a tree in infix order, where its nodes have those from `base` on. -/
def infixIds (base : Nat) : SpanTree → List NodeId
  | literal value span => [(literal value span).rootAt base]
  | unary op span t => (unary op span t).rootAt base :: t.infixIds base
  | binary op span t u =>
    t.infixIds base ++ (binary op span t u).rootAt base :: u.infixIds (base + t.size)

theorem fold_reader (base : Nat) (t : SpanTree) :
    t.fold Infix.reader base () = (.ok (t.infixIds base), ()) := by
  induction t generalizing base with
  | literal value span => rfl
  | unary op span t ih =>
    rw [fold, ih]
    rfl
  | binary op span t u iht ihu =>
    rw [fold, iht]
    dsimp only
    rw [ihu]
    rfl

theorem infixIds_expression {t : SpanTree} (h : t.size ≤ idCount) :
    t.expression.infixIds = .ok (t.infixIds 0) := by
  rw [Expression.infixIds, Arena.infixIds, walk_expression Infix.reader h, fold_reader]
  rfl

end SpanTree

/-- Below the root of a tree that it contains, the nodes of an arena in infix order are made for the
tokens of the tree. -/
theorem Arena.Contains.token_infixIds {arena : Arena} {base : Nat} {t : SpanTree}
    (h : arena.Contains base t) (hsize : arena.size ≤ idCount) :
    ((t.infixIds base).map fun id => (arena.get? id).map Node.token) = t.inOrder.map some := by
  induction t generalizing base with
  | literal value span =>
    rw [SpanTree.infixIds, List.map_singleton, h.get?_rootAt hsize]
    rfl
  | unary op span t ih =>
    rw [SpanTree.infixIds, List.map_cons, ih h.operand, h.get?_rootAt hsize]
    rfl
  | binary op span t u iht ihu =>
    rw [SpanTree.infixIds, List.map_append, List.map_cons, iht h.left, ihu h.right,
      h.get?_rootAt hsize, SpanTree.inOrder, List.map_append, List.map_cons]
    rfl

/-- **Parsing loses no token, and keeps them in their order.**  The expression has as many nodes as
the text has tokens besides the parentheses and the end.  Read from the root in infix order its
nodes are made for just these tokens, each with the span of its token and with the value of the
number or an operator that the sign stands for.  For the reading the nodes have to be told apart by
their ids, which they are in a text whose positions fit into spans. -/
theorem parse_infixIds {source : String} {e : Expression} (hparse : (parse source).1 = .ok e) :
    ∃ tokens, tokenize source = .ok (tokens ++ [endToken source]) ∧
      e.arena.size = (tokens.filter fun token => !token.isParen).length ∧
      (source.utf8ByteSize ≤ maxOffset → e.arena.size ≤ idCount) ∧
      (e.arena.size ≤ idCount → ∃ ids, e.infixIds = .ok ids ∧
        (ids.map fun id => (e.arena.get? id).map Node.token) =
          (tokens.filter fun token => !token.isParen).map some) := by
  have hbound := size_le_of_parse hparse
  obtain ⟨words, t, hcuts, hreads, rfl⟩ := parse_eq_ok_iff.1 hparse
  have hcount : t.expression.arena.size = t.size := t.size_arena_expression
  refine ⟨_, tokenize_eq_ok_iff.2 ⟨words, hcuts, rfl⟩, ?_, hbound, fun hsize => ?_⟩
  · rw [hcount, ← hreads.inOrder, t.length_inOrder]
  · refine ⟨_, SpanTree.infixIds_expression (hcount ▸ hsize), ?_⟩
    rw [(Arena.contains_expression t).token_infixIds hsize, hreads.inOrder]

/-- Read in infix order, the nodes stand for the text without its parentheses. -/
theorem parse_infixIds_signs :
    ∃ e ids, (parse "-(3 - +4)").1 = .ok e ∧ e.infixIds = .ok ids ∧
      (ids.map fun id => (e.arena.get? id).map Node.token) =
        [some ⟨.symbol .minus, ⟨0, 1⟩⟩, some ⟨.number ⟨0x4008000000000000⟩, ⟨2, 3⟩⟩,
          some ⟨.symbol .minus, ⟨4, 5⟩⟩, some ⟨.symbol .plus, ⟨6, 7⟩⟩,
          some ⟨.number ⟨0x4010000000000000⟩, ⟨7, 8⟩⟩] := by
  have hparse : (parse "-(3 - +4)").1 = .ok (SpanTree.expression
      (.unary .neg ⟨0, 1⟩
        (.binary .sub ⟨4, 5⟩ (.literal ⟨0x4008000000000000⟩ ⟨2, 3⟩)
          (.unary .plus ⟨6, 7⟩ (.literal ⟨0x4010000000000000⟩ ⟨7, 8⟩))))) := by
    decide +kernel
  have htokens : tokenize "-(3 - +4)" = .ok ([⟨.symbol .minus, ⟨0, 1⟩⟩,
      ⟨.symbol .openParen, ⟨1, 2⟩⟩, ⟨.number ⟨0x4008000000000000⟩, ⟨2, 3⟩⟩,
      ⟨.symbol .minus, ⟨4, 5⟩⟩, ⟨.symbol .plus, ⟨6, 7⟩⟩,
      ⟨.number ⟨0x4010000000000000⟩, ⟨7, 8⟩⟩, ⟨.symbol .closeParen, ⟨8, 9⟩⟩] ++
        [endToken "-(3 - +4)"]) := by decide +kernel
  obtain ⟨tokens, htokenize, -, hsize, hreading⟩ := parse_infixIds hparse
  obtain rfl := (List.append_left_inj _).1 (Except.ok.inj (htokens.symm.trans htokenize))
  obtain ⟨ids, hids, hnodes⟩ := hreading (hsize (by decide))
  exact ⟨_, ids, hparse, hids, hnodes⟩

/-- With one node more than there are ids, only the first node is read, and the tokens are many. -/
theorem parse_infixIds_pastIds :
    ∃ e tokens, (parse (signedOne 4294967295)).1 = .ok e ∧
      tokenize (signedOne 4294967295) = .ok (tokens ++ [endToken (signedOne 4294967295)]) ∧
      (tokens.filter fun token => !token.isParen).length = 4294967297 ∧
      e.infixIds = .ok [⟨0⟩] := by
  obtain ⟨t, hreads, hsize, -, span, hnode⟩ := exists_reads_signedOne 4294967295
  have hcuts := cuts_signedOne 4294967295
  have hwhole := size_signedOne hsize
  refine ⟨_, _, parse_eq_ok_iff.2 ⟨_, _, hcuts, hreads, rfl⟩, tokenize_eq_ok_iff.2 ⟨_, hcuts, rfl⟩,
    ?_, ?_⟩
  · rw [← hreads.inOrder, SpanTree.length_inOrder, hwhole]
    rfl
  · rw [Expression.infixIds, Arena.infixIds, SpanTree.root_expression_of_size hwhole,
      Arena.walk_of_literal _ hnode]
    rfl

end Reckon
