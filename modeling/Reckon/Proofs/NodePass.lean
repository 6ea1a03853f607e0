/-
One pass over the nodes.

The result of an expression can be had without going down into it: its nodes are worked out in the
order in which they were made, each from the values of the nodes before it, and the first one with
an error ends the pass.

* `SpanTree.passOver_layout`: over the nodes of a tree, whatever nodes come after them, the pass
  finds the values that the tree has in post-order, and its error;
* `evaluate_eq_pass`: so the pass over a parsed expression gives its result and its reports.

Ids are 32-bit words, so again all this is about arenas with no more nodes than there are ids; those
of texts whose positions fit into spans are such (`size_le_of_parse`).
-/
import Reckon.Proofs.ParseGrammar

namespace Reckon

/-- How far a pass over nodes has come: the values of the nodes it has worked out, in their
order, and the error of the one after them, if that is where it ended. -/
structure Pass where
  values : List Binary64
  error? : Option EvalError
  deriving DecidableEq

/-- The result of a node, where `values` are those of the nodes before it; none if an operand is
not among these. -/
def Node.result? (values : List Binary64) (node : Node) : Option (Except EvalError Binary64) :=
  match node.kind with
  | .literal value => some (.ok value)
  | .unary op operand => values[operand.index.toNat]?.map fun x => .ok (op.apply x)
  | .binary op left right =>
    values[left.index.toNat]?.bind fun x =>
      values[right.index.toNat]?.map fun y => op.apply x y node.span

/-- Works out one node after another, after nodes with the given values, up to the first error;
none if a node comes before one of its operands. -/
def passOver (values : List Binary64) : List Node → Option Pass
  | [] => some ⟨values, none⟩
  | node :: nodes =>
    match node.result? values with
    | none => none
    | some (.error error) => some ⟨values, some error⟩
    | some (.ok value) => passOver (values ++ [value]) nodes

/-- The pass over all nodes. -/
def Arena.pass (arena : Arena) : Option Pass := passOver [] arena.nodes.toList

/-! ### The pass over a tree -/

namespace SpanTree

/-- A tree with an error has a node without a value. -/
theorem length_values_lt {t : SpanTree} {error : EvalError} (h : t.evaluate = .error error) :
    t.values.length < t.size := by
  induction t generalizing error with
  | literal x span => exact absurd h (by simp [evaluate])
  | unary op span t ih =>
    cases ht : t.evaluate with
    | error error' =>
      have := ih ht
      simp only [values, evaluate, ht, Except.map, Except.toOption, Option.toList_none,
        List.append_nil, size]
      omega
    | ok x => simp [evaluate, ht, Except.map] at h
  | binary op span t u iht ihu =>
    cases ht : t.evaluate with
    | error error' =>
      have := iht ht
      simp only [values, ht, size]
      omega
    | ok x =>
      have hlength := length_values_of_ok ht
      have hvalues : (binary op span t u).values = t.values ++ u.values := by
        simp [values, ht, h, Except.toOption]
      rw [hvalues, List.length_append, hlength, size]
      cases hu : u.evaluate with
      | error error' =>
        have := ihu hu
        omega
      | ok y =>
        rw [length_values_of_ok hu]
        omega

/-- After the nodes of a tree with a result, that result is found under the id of the root. -/
theorem getElem?_rootAt (front back : List Binary64) {t : SpanTree} {value : Binary64}
    (h : t.evaluate = .ok value) (hsize : front.length + t.size ≤ idCount) :
    (front ++ (t.values ++ back))[(t.rootAt front.length).index.toNat]? = some value := by
  have hpos := t.size_pos
  have hroot : (t.rootAt front.length).index.toNat = front.length + t.size - 1 := by
    rw [rootAt, NodeId.ofNat, UInt32.toNat_ofNat']
    exact Nat.mod_eq_of_lt (Nat.lt_of_lt_of_le (by omega) hsize)
  obtain ⟨own, hvalues, hlength⟩ := values_of_ok h
  have hplace : front.length + t.size - 1 = (front ++ own).length := by
    rw [List.length_append]
    omega
  rw [hroot, hplace, hvalues, List.append_assoc, ← List.append_assoc front own,
    List.getElem?_append_right (Nat.le_refl _), Nat.sub_self]
  rfl

/-- The pass over the nodes of a tree, after nodes with any values and before any others, finds
the values of the tree, and ends at its error if there is one. -/
theorem passOver_layout (front : List Binary64) {t : SpanTree}
    (hsize : front.length + t.size ≤ idCount) (nodes : List Node) :
    passOver front (t.layout front.length ++ nodes) =
      match t.evaluate with
      | .ok _ => passOver (front ++ t.values) nodes
      | .error error => some ⟨front ++ t.values, some error⟩ := by
  induction t generalizing front nodes with
  | literal value span => rfl
  | unary op span t ih =>
    rw [size] at hsize
    rw [layout, List.append_assoc, ih front (by omega)]
    cases ht : t.evaluate with
    | error error => simp [values, evaluate, ht, Except.map, Except.toOption]
    | ok x =>
      have hoperand := getElem?_rootAt front [] ht (by omega)
      rw [List.append_nil] at hoperand
      simp [passOver, Node.result?, hoperand, values, evaluate, ht, Except.map, Except.toOption]
  | binary op span t u iht ihu =>
    rw [size] at hsize
    rw [layout, List.append_assoc, iht front (by omega)]
    cases ht : t.evaluate with
    | error error => simp [values, evaluate, ht]
    | ok x =>
      have hlength : front.length + t.size = (front ++ t.values).length := by
        rw [List.length_append, length_values_of_ok ht]
      dsimp only
      rw [hlength, List.append_assoc, ihu (front ++ t.values) (by omega)]
      cases hu : u.evaluate with
      | error error => simp [values, evaluate, ht, hu, Except.toOption]
      | ok y =>
        -- Both operands have their values by now, the right one at the end.
        have hleft := getElem?_rootAt front u.values ht (by omega)
        have hright := getElem?_rootAt (front ++ t.values) [] hu (by omega)
        rw [List.append_nil, List.append_assoc] at hright
        have hresult : Node.result? (front ++ (t.values ++ u.values))
            ⟨.binary op (t.rootAt front.length) (u.rootAt (front ++ t.values).length), span⟩ =
              some (op.apply x y span) := by
          simp only [Node.result?, hleft, hright, Option.bind_some, Option.map_some]
        simp only [List.append_assoc, List.singleton_append, passOver, hresult, values, evaluate,
          ht, hu]
        cases op.apply x y span <;> simp [Except.toOption]

end SpanTree

/-! ### The pass over a parsed text -/

/-- **One pass over the nodes gives the result.**  As long as the nodes of a parsed text can be told
apart by their ids, which is so for a text whose positions fit into spans, they are those of its
tree in post-order, and the pass over them comes to each node after its operands.  If it ends at an
error that is what the evaluation gives, with the nodes before it reported; otherwise the evaluation
gives the value of the last node, with all nodes reported.  Each node is reported once, in the order
of the pass and with its value there. -/
theorem evaluate_eq_pass {source : String} {e : Expression} (hparse : (parse source).1 = .ok e) :
    (source.utf8ByteSize ≤ maxOffset → e.arena.size ≤ idCount) ∧
    (e.arena.size ≤ idCount →
      (∃ t : SpanTree, e.arena.nodes.toList = t.layout 0 ∧ e.arena.Unfolds e.root t.tree) ∧
      ∃ pass, e.arena.pass = some pass ∧
        match pass with
        | ⟨values, some error⟩ =>
          values.length < e.arena.size ∧
            ∀ events, e.evaluate events =
              (.error (.refused error),
                (events ++ (nodeReports 0 values).toArray).push (.evaluated (.error error)))
        | ⟨values, none⟩ =>
          values.length = e.arena.size ∧
            ∃ value, values.getLast? = some value ∧
              ∀ events, e.evaluate events =
                (.ok value,
                  (events ++ (nodeReports 0 values).toArray).push
                    (.evaluated (.ok value)))) := by
  refine ⟨size_le_of_parse hparse, fun hsize => ?_⟩
  obtain ⟨words, t, -, -, rfl⟩ := parse_eq_ok_iff.1 hparse
  rw [SpanTree.size_arena_expression] at hsize ⊢
  refine ⟨⟨t, rfl, SpanTree.unfolds_expression hsize⟩, ?_⟩
  have hpass := SpanTree.passOver_layout (t := t) [] (by simpa using hsize) []
  rw [List.append_nil, List.length_nil, List.nil_append] at hpass
  have hevaluate := SpanTree.evaluate_expression hsize
  cases ht : t.evaluate with
  | error error =>
    rw [ht] at hpass hevaluate
    exact ⟨_, hpass, SpanTree.length_values_lt ht, hevaluate⟩
  | ok value =>
    rw [ht] at hpass hevaluate
    obtain ⟨front, hvalues, -⟩ := SpanTree.values_of_ok ht
    refine ⟨_, hpass, SpanTree.length_values_of_ok ht, value, ?_, hevaluate⟩
    rw [hvalues, List.getLast?_concat]

/-- The first division fails, so neither the second one nor the sum is come to. -/
theorem evaluate_eq_pass_division :
    ∃ e, (parse "1/0+2/0").1 = .ok e ∧ e.arena.size = 7 ∧
      e.arena.pass =
        some ⟨[⟨0x3FF0000000000000⟩, ⟨0⟩], some (.divisionByZero ⟨1, 2⟩)⟩ ∧
      ∀ events, e.evaluate events =
        (.error (.refused (.divisionByZero ⟨1, 2⟩)),
          (events ++
            #[Event.nodeEvaluated ⟨0⟩ ⟨0x3FF0000000000000⟩, Event.nodeEvaluated ⟨1⟩ ⟨0⟩]).push
            (.evaluated (.error (.divisionByZero ⟨1, 2⟩)))) := by
  have hparse : (parse "1/0+2/0").1 = .ok (SpanTree.expression
      (.binary .add ⟨3, 4⟩
        (.binary .div ⟨1, 2⟩ (.literal ⟨0x3FF0000000000000⟩ ⟨0, 1⟩) (.literal ⟨0⟩ ⟨2, 3⟩))
        (.binary .div ⟨5, 6⟩ (.literal ⟨0x4000000000000000⟩ ⟨4, 5⟩) (.literal ⟨0⟩ ⟨6, 7⟩)))) := by
    decide +kernel
  obtain ⟨hids, hevaluates⟩ := evaluate_eq_pass hparse
  obtain ⟨-, pass, hpass, hevaluate⟩ := hevaluates (hids (by decide))
  obtain rfl : pass = ⟨[⟨0x3FF0000000000000⟩, ⟨0⟩], some (.divisionByZero ⟨1, 2⟩)⟩ :=
    Option.some.inj (hpass.symm.trans (by decide +kernel))
  exact ⟨_, hparse, rfl, hpass, hevaluate.2⟩

/-- With one node more than there are ids, the pass over a one with a minus sign ends with minus
one, and the evaluation gives the one, which is all that it comes to. -/
theorem evaluate_eq_pass_pastIds :
    ∃ e values, (parse (signedOne 4294967295)).1 = .ok e ∧ e.arena.size = 4294967297 ∧
      e.arena.pass = some ⟨values, none⟩ ∧ values.getLast? = some ⟨0xBFF0000000000000⟩ ∧
      values.length = e.arena.size ∧
      ∀ events, e.evaluate events =
        (.ok ⟨0x3FF0000000000000⟩,
          (events.push (.nodeEvaluated ⟨0⟩ ⟨0x3FF0000000000000⟩)).push
            (.evaluated (.ok ⟨0x3FF0000000000000⟩))) := by
  obtain ⟨t, hparse, hsize, hvalue, span, hnode⟩ := exists_parse_signedOne 4294967295
  have hwhole := size_signedOne hsize
  have hids : ([] : List Binary64).length + t.size ≤ idCount := by
    rw [hsize]
    decide
  refine ⟨_, t.values ++ [⟨0xBFF0000000000000⟩], hparse, ?_, ?_, List.getLast?_concat, ?_,
    fun events => ?_⟩
  · rw [SpanTree.size_arena_expression, hwhole]
    rfl
  · -- The operand has ids for all its nodes, so the pass comes to the sign with its value.
    have hpass := SpanTree.passOver_layout (t := t) [] hids [⟨.unary .neg (t.rootAt 0), ⟨0, 1⟩⟩]
    have hoperand := SpanTree.getElem?_rootAt [] [] hvalue hids
    rw [List.nil_append, List.append_nil, List.length_nil] at hoperand
    rw [hvalue] at hpass
    refine hpass.trans ?_
    rw [List.nil_append, passOver, Node.result?]
    dsimp only
    rw [hoperand]
    rfl
  · rw [SpanTree.size_arena_expression, List.length_append, SpanTree.length_values_of_ok hvalue,
      SpanTree.size, List.length_singleton]
  · rw [Expression.evaluate, Arena.evaluate, SpanTree.root_expression_of_size hwhole,
      Arena.walk_of_literal _ hnode]
    rfl

end Reckon
