/-
How the nodes of a parsed text hang together.

The nodes of a parsed text are one tree in post-order, and there is nothing beside the tree: the
nodes below a node are the ones right before it, as many as its operands have, and every node but
the last one is an operand once.

* `Arena.Contains.exists_subtree`: every id of a stretch that holds a tree is the root of a part of
  the tree, and is reached from the root of the whole;
* `Arena.Contains.reaches_iff`: the nodes below a root are those of its stretch;
* `SpanTree.operands_layout_perm`: the operands of the nodes of a tree are all its nodes but the
  root, each once;
* `parse_inPostOrder`: so it is with the nodes of a parsed text, whose literals moreover are finite
  and have no sign.
-/
import Mathlib.Data.List.Nodup
import Reckon.Proofs.Located

namespace Reckon

/-- The nodes that a node is made from, from left to right. -/
def Node.operands (node : Node) : List NodeId :=
  match node.kind with
  | .literal _ => []
  | .unary _ operand => [operand]
  | .binary _ left right => [left, right]

/-- The number of nodes. -/
def Tree.size : Tree → Nat
  | literal _ => 1
  | unary _ t => t.size + 1
  | binary _ t u => t.size + u.size + 1

theorem SpanTree.size_tree (t : SpanTree) : t.tree.size = t.size := by
  induction t with
  | literal value span => rfl
  | unary op span t ih => rw [tree, Tree.size, ih, size]
  | binary op span t u iht ihu => rw [tree, Tree.size, iht, ihu, size]

/-- Operands come right before what is made from them, the left one first, and every node is made
for the root and used once. -/
structure Expression.InPostOrder (e : Expression) : Prop where
  /-- The root is the last node. -/
  root_eq : e.root.index.toNat + 1 = e.arena.size
  operand_eq : ∀ id op operand span, e.arena.get? id = some ⟨.unary op operand, span⟩ →
    operand.index.toNat + 1 = id.index.toNat
  /-- The right operand comes right before the node, and the left one right before the nodes of the
  right one. -/
  operands_eq : ∀ id op left right span, e.arena.get? id = some ⟨.binary op left right, span⟩ →
    right.index.toNat + 1 = id.index.toNat ∧
      ∃ t, e.arena.Unfolds right t ∧ left.index.toNat + t.size + 1 = id.index.toNat
  /-- The nodes below a node, with itself, are as many as its tree has, with no gap between them. -/
  reaches_iff : ∀ id t, e.arena.Unfolds id t → ∀ below, e.arena.Reaches id below ↔
    id.index.toNat < below.index.toNat + t.size ∧ below.index.toNat ≤ id.index.toNat
  root_reaches : ∀ id node, e.arena.get? id = some node → e.arena.Reaches e.root id
  /-- Every node but the root is an operand of one node. -/
  existsUnique_parent : ∀ id node, e.arena.get? id = some node → id ≠ e.root →
    ∃! parent, ∃ node, e.arena.get? parent = some node ∧ id ∈ node.operands
  root_not_mem : ∀ id node, e.arena.get? id = some node → e.root ∉ node.operands

/-! ### Ids -/

namespace NodeId

theorem toNat_ofNat {n : Nat} (h : n < idCount) : (ofNat n).index.toNat = n := by
  rw [ofNat, UInt32.toNat_ofNat']
  exact Nat.mod_eq_of_lt h

theorem ofNat_toNat (id : NodeId) : ofNat id.index.toNat = id := by
  rw [ofNat, UInt32.ofNat_toNat]

theorem eq_of_toNat {id id' : NodeId} (h : id.index.toNat = id'.index.toNat) : id = id' := by
  rw [← ofNat_toNat id, h, ofNat_toNat]

end NodeId

theorem Arena.lt_size_of_get? {arena : Arena} {id : NodeId} {node : Node}
    (h : arena.get? id = some node) : id.index.toNat < arena.size :=
  (Array.getElem?_eq_some_iff.1 h).1

/-! ### The parts of a tree -/

namespace Arena.Contains

variable {arena : Arena} {base : Nat} {t : SpanTree}

theorem toNat_rootAt (h : arena.Contains base t) (hsize : arena.size ≤ idCount) :
    (t.rootAt base).index.toNat + 1 = base + t.size := by
  have hle := h.size_le
  have hpos := t.size_pos
  rw [SpanTree.rootAt, NodeId.toNat_ofNat (by omega)]
  omega

theorem rootAt_eq (h : arena.Contains base t) (hsize : arena.size ≤ idCount) {id : NodeId}
    (hid : id.index.toNat + 1 = base + t.size) : t.rootAt base = id := by
  have hroot := h.toNat_rootAt hsize
  exact NodeId.eq_of_toNat (by omega)

/-- Every id of the stretch is that of the root of a part of the tree. -/
theorem exists_subtree (h : arena.Contains base t) (hsize : arena.size ≤ idCount) {id : NodeId}
    (hlower : base ≤ id.index.toNat) (hupper : id.index.toNat < base + t.size) :
    (∃ base' u, arena.Contains base' u ∧ base' + u.size = id.index.toNat + 1) ∧
      arena.Reaches (t.rootAt base) id := by
  induction t generalizing base with
  | literal value span =>
    rw [SpanTree.size] at hupper
    have hid : id.index.toNat + 1 = base + 1 := by omega
    exact ⟨⟨base, _, h, hid.symm⟩, h.rootAt_eq hsize hid ▸ .self _⟩
  | unary op span t ih =>
    by_cases hid : id.index.toNat + 1 = base + (t.size + 1)
    · exact ⟨⟨base, _, h, hid.symm⟩, h.rootAt_eq hsize hid ▸ .self _⟩
    · rw [SpanTree.size] at hupper
      obtain ⟨hsubtree, hreaches⟩ := ih h.operand hlower (by omega)
      exact ⟨hsubtree, .operand (h.get?_rootAt hsize) hreaches⟩
  | binary op span t u iht ihu =>
    by_cases hid : id.index.toNat + 1 = base + (t.size + u.size + 1)
    · exact ⟨⟨base, _, h, hid.symm⟩, h.rootAt_eq hsize hid ▸ .self _⟩
    · rw [SpanTree.size] at hupper
      -- What is not the root is in the left operand, or behind it in the right one.
      rcases Nat.lt_or_ge id.index.toNat (base + t.size) with hleft | hright
      · obtain ⟨hsubtree, hreaches⟩ := iht h.left hlower hleft
        exact ⟨hsubtree, .left (h.get?_rootAt hsize) hreaches⟩
      · obtain ⟨hsubtree, hreaches⟩ := ihu h.right hright (by omega)
        exact ⟨hsubtree, .right (h.get?_rootAt hsize) hreaches⟩

/-- From the root of a tree nothing is reached but its own nodes. -/
theorem mem_of_reaches (h : arena.Contains base t) (hsize : arena.size ≤ idCount) {id : NodeId}
    (hreaches : arena.Reaches (t.rootAt base) id) :
    base ≤ id.index.toNat ∧ id.index.toNat < base + t.size := by
  induction t generalizing base with
  | literal value span =>
    have hroot := h.toNat_rootAt hsize
    have hnode := h.get?_rootAt hsize
    rw [SpanTree.size] at hroot ⊢
    cases hreaches with
    | self => omega
    | _ => simp_all [SpanTree.rootNode]
  | unary op span t ih =>
    have hroot := h.toNat_rootAt hsize
    have hnode := h.get?_rootAt hsize
    rw [SpanTree.size] at hroot ⊢
    cases hreaches with
    | self => omega
    | operand hnode' hbelow =>
      obtain ⟨⟨-, rfl⟩, -⟩ := by simpa [hnode, SpanTree.rootNode] using hnode'
      have := ih h.operand hbelow
      omega
    | _ => simp_all [SpanTree.rootNode]
  | binary op span t u iht ihu =>
    have hroot := h.toNat_rootAt hsize
    have hnode := h.get?_rootAt hsize
    rw [SpanTree.size] at hroot ⊢
    cases hreaches with
    | self => omega
    | left hnode' hbelow =>
      obtain ⟨⟨-, rfl, -⟩, -⟩ := by simpa [hnode, SpanTree.rootNode] using hnode'
      have := iht h.left hbelow
      omega
    | right hnode' hbelow =>
      obtain ⟨⟨-, -, rfl⟩, -⟩ := by simpa [hnode, SpanTree.rootNode] using hnode'
      have := ihu h.right hbelow
      omega
    | _ => simp_all [SpanTree.rootNode]

/-- The nodes below the root of a tree are those of its stretch. -/
theorem reaches_iff (h : arena.Contains base t) (hsize : arena.size ≤ idCount) {id : NodeId} :
    arena.Reaches (t.rootAt base) id ↔
      base ≤ id.index.toNat ∧ id.index.toNat < base + t.size :=
  ⟨h.mem_of_reaches hsize, fun hid => (h.exists_subtree hsize hid.1 hid.2).2⟩

end Arena.Contains

/-! ### Every node is used once -/

/-- The operands of the nodes of a tree are all its nodes but the root, each once. -/
theorem SpanTree.operands_layout_perm (base : Nat) (t : SpanTree) :
    ((t.layout base).flatMap Node.operands).Perm
      ((List.range' base (t.size - 1)).map NodeId.ofNat) := by
  -- With the root the nodes of an operand are a whole stretch.
  have hstretch (base : Nat) (t : SpanTree) :
      (List.range' base t.size).map NodeId.ofNat =
        (List.range' base (t.size - 1)).map NodeId.ofNat ++ [t.rootAt base] := by
    obtain ⟨n, hn⟩ := Nat.exists_eq_add_of_lt t.size_pos
    rw [hn, List.range'_concat, List.map_append, List.map_singleton, rootAt, hn]
    simp
  induction t generalizing base with
  | literal value span => exact .refl _
  | unary op span t ih =>
    rw [layout, List.flatMap_append, size, Nat.add_sub_cancel, hstretch]
    exact (ih base).append_right _
  | binary op span t u iht ihu =>
    have hoperands : (layout base (.binary op span t u)).flatMap Node.operands =
        (t.layout base).flatMap Node.operands ++
          ((u.layout (base + t.size)).flatMap Node.operands ++
            ([t.rootAt base] ++ [u.rootAt (base + t.size)])) := by
      rw [layout, List.flatMap_append, List.flatMap_append]
      rfl
    rw [hoperands, size, Nat.add_sub_cancel, ← List.range'_append_1, List.map_append, hstretch,
      hstretch, List.append_assoc]
    refine (iht base).append ?_
    rw [← List.append_assoc, ← List.append_assoc]
    refine (((ihu _).append_right _).trans List.perm_append_comm).append_right _

namespace Arena

variable {arena : Arena} {t : SpanTree}

theorem nodup_operands (hnodes : arena.nodes.toList = t.layout 0) (hsize : t.size ≤ idCount) :
    (arena.nodes.toList.flatMap Node.operands).Nodup := by
  rw [hnodes, (t.operands_layout_perm 0).nodup_iff]
  refine List.Nodup.map_on (fun m hm n hn h => ?_) List.nodup_range'
  -- Ids within bounds tell numbers apart.
  rw [List.mem_range'_1] at hm hn
  rw [← NodeId.toNat_ofNat (n := m) (by omega), h, NodeId.toNat_ofNat (by omega)]

theorem mem_operands_iff (hnodes : arena.nodes.toList = t.layout 0) (hsize : t.size ≤ idCount)
    {id : NodeId} :
    id ∈ arena.nodes.toList.flatMap Node.operands ↔ id.index.toNat + 1 < t.size := by
  rw [hnodes, (t.operands_layout_perm 0).mem_iff, List.mem_map]
  constructor
  · rintro ⟨n, hn, rfl⟩
    rw [List.mem_range'_1] at hn
    rw [NodeId.toNat_ofNat (by omega)]
    omega
  · intro hid
    exact ⟨_, List.mem_range'_1.2 ⟨Nat.zero_le _, by omega⟩, id.ofNat_toNat⟩

/-- Two nodes with an operand in common are one and the same. -/
theorem eq_of_mem_operands (hnodup : (arena.nodes.toList.flatMap Node.operands).Nodup)
    {id id' : NodeId} {node node' : Node} {operand : NodeId} (h : arena.get? id = some node)
    (h' : arena.get? id' = some node') (hmem : operand ∈ node.operands)
    (hmem' : operand ∈ node'.operands) : id = id' := by
  have hdisjoint := List.pairwise_iff_getElem.1 (List.nodup_flatMap.1 hnodup).2
  obtain ⟨hid, hnode⟩ := Array.getElem?_eq_some_iff.1 h
  obtain ⟨hid', hnode'⟩ := Array.getElem?_eq_some_iff.1 h'
  rw [← hnode] at hmem
  rw [← hnode'] at hmem'
  rcases Nat.lt_trichotomy id.index.toNat id'.index.toNat with hlt | heq | hlt
  · exact absurd hmem' (hdisjoint _ _ hid hid' hlt hmem)
  · exact NodeId.eq_of_toNat heq
  · exact absurd hmem (hdisjoint _ _ hid' hid hlt hmem')

end Arena

/-! ### Parsed texts -/

namespace SpanTree

variable {t : SpanTree}

/-- What stands under an id is the root of a part of the tree. -/
theorem exists_part (h : t.size ≤ idCount) {id : NodeId} {node : Node}
    (hnode : t.expression.arena.get? id = some node) :
    ∃ base u, t.expression.arena.Contains base u ∧ u.rootAt base = id ∧ u.rootNode base = node ∧
      base + u.size = id.index.toNat + 1 := by
  have hcontains := Arena.contains_expression t
  have hsize : t.expression.arena.size ≤ idCount := by rwa [size_arena_expression]
  have hlt := Arena.lt_size_of_get? hnode
  rw [size_arena_expression] at hlt
  rw [← Nat.zero_add t.size] at hlt
  obtain ⟨⟨base, u, hu, hid⟩, -⟩ := hcontains.exists_subtree hsize (Nat.zero_le _) hlt
  have hrootAt := hu.rootAt_eq hsize hid.symm
  have hget := hu.get?_rootAt hsize
  rw [hrootAt, hnode] at hget
  exact ⟨base, u, hu, hrootAt, (Option.some.inj hget).symm, hid⟩

/-- Every node but the root is an operand of one node. -/
theorem existsUnique_parent (h : t.size ≤ idCount) {id : NodeId}
    (hid : id.index.toNat + 1 < t.size) :
    ∃! parent, ∃ node, t.expression.arena.get? parent = some node ∧ id ∈ node.operands := by
  have hnodes : t.expression.arena.nodes.toList = t.layout 0 := rfl
  obtain ⟨node, hnode, hmem⟩ := List.mem_flatMap.1 ((Arena.mem_operands_iff hnodes h).2 hid)
  obtain ⟨n, hn⟩ := List.mem_iff_getElem?.1 hnode
  have hlength := (List.getElem?_eq_some_iff.1 hn).1
  rw [hnodes, length_layout] at hlength
  have hget : t.expression.arena.get? (.ofNat n) = some node := by
    rw [Arena.get?_ofNat (by omega), ← Array.getElem?_toList, hn]
  refine ⟨.ofNat n, ⟨node, hget, hmem⟩, ?_⟩
  rintro other ⟨node', hget', hmem'⟩
  exact Arena.eq_of_mem_operands (Arena.nodup_operands hnodes h) hget' hget hmem' hmem

/-- A tree in an arena of its own is in post-order. -/
theorem inPostOrder_expression (h : t.size ≤ idCount) : t.expression.InPostOrder := by
  have hcontains := Arena.contains_expression t
  have hsize : t.expression.arena.size ≤ idCount := by rwa [size_arena_expression]
  have hroot : t.expression.root.index.toNat + 1 = t.size := by
    have hrootAt := hcontains.toNat_rootAt hsize
    rwa [Nat.zero_add] at hrootAt
  have hlt {id : NodeId} {node : Node} (hnode : t.expression.arena.get? id = some node) :
      id.index.toNat < t.size := size_arena_expression t ▸ Arena.lt_size_of_get? hnode
  constructor
  case root_eq => rw [size_arena_expression, hroot]
  case operand_eq =>
    intro id op operand span hnode
    obtain ⟨base, u, hu, -, hrootNode, hid⟩ := exists_part h hnode
    cases u with
    | unary op' span' u =>
      obtain ⟨⟨-, rfl⟩, -⟩ := by simpa [rootNode] using hrootNode
      have := hu.operand.toNat_rootAt hsize
      rw [size] at hid
      omega
    | _ => simp [rootNode] at hrootNode
  case operands_eq =>
    intro id op left right span hnode
    obtain ⟨base, u, hu, -, hrootNode, hid⟩ := exists_part h hnode
    cases u with
    | binary op' span' u v =>
      obtain ⟨⟨-, rfl, rfl⟩, -⟩ := by simpa [rootNode] using hrootNode
      have hleft := hu.left.toNat_rootAt hsize
      have hright := hu.right.toNat_rootAt hsize
      rw [size] at hid
      refine ⟨by omega, v.tree, Arena.unfolds_of_contains hu.right hsize, ?_⟩
      rw [size_tree]
      omega
    | _ => simp [rootNode] at hrootNode
  case reaches_iff =>
    intro id u hunfolds below
    obtain ⟨node, hnode⟩ : ∃ node, t.expression.arena.get? id = some node := by
      cases hunfolds with
      | literal h | unary h | binary h => exact ⟨_, h⟩
    obtain ⟨base, v, hv, rfl, -, hid⟩ := exists_part h hnode
    rw [hv.reaches_iff hsize, hunfolds.unique (Arena.unfolds_of_contains hv hsize), size_tree]
    omega
  case root_reaches =>
    intro id node hnode
    have hid := hlt hnode
    exact (hcontains.reaches_iff hsize).2 ⟨Nat.zero_le _, by omega⟩
  case existsUnique_parent =>
    intro id node hnode hne
    have hid := hlt hnode
    have hother : id.index.toNat ≠ t.expression.root.index.toNat := fun heq =>
      hne (NodeId.eq_of_toNat heq)
    exact existsUnique_parent h (by omega)
  case root_not_mem =>
    intro id node hnode hmem
    have hmem' : t.expression.root ∈ t.expression.arena.nodes.toList.flatMap Node.operands :=
      List.mem_flatMap.2 ⟨node, Array.mem_toList_iff.2 (Array.mem_of_getElem? hnode), hmem⟩
    rw [Arena.mem_operands_iff rfl h] at hmem'
    omega

end SpanTree

/-- Literals of a text are finite and have no sign. -/
theorem literal_of_parse {source : String} {e : Expression} {value : Binary64} {span : Span}
    (hparse : (parse source).1 = .ok e) (h : ⟨.literal value, span⟩ ∈ e.arena.nodes) :
    value.isFinite = true ∧ value.isNegative = false := by
  obtain ⟨words, t, -, hreads, rfl⟩ := parse_eq_ok_iff.1 hparse
  have hmem : Node.token ⟨.literal value, span⟩ ∈ (t.layout 0).map Node.token :=
    List.mem_map_of_mem (Array.mem_toList_iff.2 h)
  rw [(t.token_layout_perm 0).mem_iff, hreads.inOrder] at hmem
  obtain ⟨front, w, back, -, hw⟩ := exists_of_mem_tokensAt (List.mem_filter.1 hmem).1
  have hkind : w.kind = .number value := (congrArg Token.kind hw).symm
  exact ⟨w.isFinite_of_kind hkind, w.isNegative_of_kind hkind⟩

/-- **A parsed text is one tree in post-order, and nothing more.**  The literals among its nodes are
finite and have no sign.  As long as its nodes can be told apart by their ids, which is so for a
text whose positions fit into spans, the root is the last node; an operand of a unary node and the
right one of a binary node come right before it, and the left one as much further before as the
right one has nodes; and every node is reached from the root and, the root apart, is an operand of
just one node. -/
theorem parse_inPostOrder {source : String} {e : Expression} (hparse : (parse source).1 = .ok e) :
    (∀ value span, ⟨.literal value, span⟩ ∈ e.arena.nodes →
      value.isFinite = true ∧ value.isNegative = false) ∧
    (source.utf8ByteSize ≤ maxOffset → e.arena.size ≤ idCount) ∧
    (e.arena.size ≤ idCount → e.InPostOrder) := by
  refine ⟨fun _ _ => literal_of_parse hparse, size_le_of_parse hparse, fun hsize => ?_⟩
  obtain ⟨words, t, -, -, rfl⟩ := parse_eq_ok_iff.1 hparse
  rw [SpanTree.size_arena_expression] at hsize
  exact SpanTree.inPostOrder_expression hsize

/-- A sign and a group on the left, and a group of three nodes on the right. -/
theorem parse_inPostOrder_groups :
    ∃ e, (parse "-(1+2)*(3-4)").1 = .ok e ∧ e.InPostOrder ∧
      e.arena.get? ⟨7⟩ = some ⟨.binary .mul ⟨3⟩ ⟨6⟩, ⟨6, 7⟩⟩ := by
  have hparse : (parse "-(1+2)*(3-4)").1 = .ok (SpanTree.expression
      (.binary .mul ⟨6, 7⟩
        (.unary .neg ⟨0, 1⟩
          (.binary .add ⟨3, 4⟩ (.literal ⟨0x3FF0000000000000⟩ ⟨2, 3⟩)
            (.literal ⟨0x4000000000000000⟩ ⟨4, 5⟩)))
        (.binary .sub ⟨9, 10⟩ (.literal ⟨0x4008000000000000⟩ ⟨8, 9⟩)
          (.literal ⟨0x4010000000000000⟩ ⟨10, 11⟩)))) := by decide +kernel
  obtain ⟨-, hsize, hpostOrder⟩ := parse_inPostOrder hparse
  exact ⟨_, hparse, hpostOrder (hsize (by decide)), by decide⟩

/-- With one node more than there are ids, the root has the id of the first node. -/
theorem parse_inPostOrder_pastIds :
    ∃ e, (parse (signedOne 4294967295)).1 = .ok e ∧ e.arena.size = 4294967297 ∧ e.root = ⟨0⟩ ∧
      ¬ e.InPostOrder := by
  obtain ⟨t, hparse, hsize, -⟩ := exists_parse_signedOne 4294967295
  have hroot := SpanTree.root_expression_of_size (size_signedOne hsize)
  have hnodes := (SpanTree.unary .neg ⟨0, 1⟩ t).size_arena_expression.trans (size_signedOne hsize)
  refine ⟨_, hparse, hnodes, hroot, fun hpostOrder => ?_⟩
  have hlast := hpostOrder.root_eq
  rw [hnodes, hroot] at hlast
  exact absurd hlast (by decide)

end Reckon
