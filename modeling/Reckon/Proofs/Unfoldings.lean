/-
What is below a node, in any arena.

The nodes of an arena need not be a tree: operands may be shared, come after their node, or not be
there at all.  An `Unfolding` has each node as often as a walk comes to it, and the ids that no node
has where it comes to them.

* `Arena.UnfoldsInto.unique`: there is at most one unfolding of an id;
* `Arena.exists_unfoldsInto`: there is one if no node below the id is below itself, and it is no
  deeper than there are nodes;
* `Arena.acyclic_of_rank`: that is so wherever operands have a lower rank than their node.
-/
import Mathlib.Data.Finset.Card
import Mathlib.Data.Finset.Range
import Reckon.Proofs.Operands

namespace Reckon

/-- What is below an id. -/
inductive Unfolding where
  /-- No node has the id. -/
  | missing (id : NodeId)
  | literal (id : NodeId) (value : Binary64)
  | unary (id : NodeId) (op : UnaryOp) (operand : Unfolding)
  | binary (id : NodeId) (op : BinaryOp) (span : Span) (left right : Unfolding)

/-- The number of nodes on the longest way down. -/
def Unfolding.height : Unfolding → Nat
  | missing _ => 0
  | literal _ _ => 1
  | unary _ _ t => t.height + 1
  | binary _ _ _ t u => max t.height u.height + 1

namespace Arena

/-- The unfolding is what is below the id. -/
inductive UnfoldsInto (arena : Arena) : NodeId → Unfolding → Prop where
  | missing {id : NodeId} (h : arena.get? id = none) : UnfoldsInto arena id (.missing id)
  | literal {id : NodeId} {value : Binary64} {span : Span}
      (h : arena.get? id = some ⟨.literal value, span⟩) : UnfoldsInto arena id (.literal id value)
  | unary {id operand : NodeId} {op : UnaryOp} {span : Span} {t : Unfolding}
      (h : arena.get? id = some ⟨.unary op operand, span⟩) (ht : UnfoldsInto arena operand t) :
      UnfoldsInto arena id (.unary id op t)
  | binary {id left right : NodeId} {op : BinaryOp} {span : Span} {t u : Unfolding}
      (h : arena.get? id = some ⟨.binary op left right, span⟩) (ht : UnfoldsInto arena left t)
      (hu : UnfoldsInto arena right u) : UnfoldsInto arena id (.binary id op span t u)

/-- No node below `id`, itself included, is below one of its operands. -/
def Acyclic (arena : Arena) (id : NodeId) : Prop :=
  ∀ below node operand, arena.Reaches id below → arena.get? below = some node →
    operand ∈ node.operands → ¬ arena.Reaches operand below

variable {arena : Arena} {id below operand : NodeId} {node : Node} {t u : Unfolding}

theorem UnfoldsInto.unique (ht : arena.UnfoldsInto id t) (hu : arena.UnfoldsInto id u) : t = u := by
  induction ht generalizing u with
  | missing h =>
    cases hu with
    | missing => rfl
    | _ h' => simp [h] at h'
  | literal h =>
    cases hu with
    | literal h' =>
      rw [h, Option.some.injEq, Node.mk.injEq, NodeKind.literal.injEq] at h'
      rw [h'.1]
    | _ h' => simp [h] at h'
  | unary h _ ih =>
    cases hu with
    | unary h' hu =>
      rw [h, Option.some.injEq, Node.mk.injEq, NodeKind.unary.injEq] at h'
      obtain ⟨⟨rfl, rfl⟩, -⟩ := h'
      rw [ih hu]
    | _ h' => simp [h] at h'
  | binary h _ _ iht ihu =>
    cases hu with
    | binary h' ht' hu' =>
      rw [h, Option.some.injEq, Node.mk.injEq, NodeKind.binary.injEq] at h'
      obtain ⟨⟨rfl, rfl, rfl⟩, rfl⟩ := h'
      rw [iht ht', ihu hu']
    | _ h' => simp [h] at h'

/-! ### Nodes below a node -/

theorem Reaches.trans {top : NodeId} (h : arena.Reaches top id) (hbelow : arena.Reaches id below) :
    arena.Reaches top below := by
  induction h with
  | self => exact hbelow
  | operand h _ ih => exact .operand h (ih hbelow)
  | left h _ ih => exact .left h (ih hbelow)
  | right h _ ih => exact .right h (ih hbelow)

theorem reaches_of_mem_operands (hnode : arena.get? id = some node)
    (hoperand : operand ∈ node.operands) : arena.Reaches id operand := by
  obtain ⟨kind, span⟩ := node
  cases kind with
  | literal value => exact absurd hoperand List.not_mem_nil
  | unary op operand' =>
    obtain rfl := List.mem_singleton.1 hoperand
    exact .operand hnode (.self _)
  | binary op left right =>
    rcases List.mem_pair.1 hoperand with rfl | rfl
    · exact .left hnode (.self _)
    · exact .right hnode (.self _)

/-- Below a node there is the node itself, and what is below its operands. -/
theorem reaches_iff_eq_or : arena.Reaches id below ↔ below = id ∨
    ∃ node, arena.get? id = some node ∧ ∃ operand ∈ node.operands, arena.Reaches operand below := by
  constructor
  · rintro (_ | ⟨h, hbelow⟩ | ⟨h, hbelow⟩ | ⟨h, hbelow⟩)
    · exact .inl rfl
    · exact .inr ⟨_, h, _, List.mem_singleton_self _, hbelow⟩
    · exact .inr ⟨_, h, _, List.mem_cons_self, hbelow⟩
    · exact .inr ⟨_, h, _, List.mem_cons_of_mem _ (List.mem_singleton_self _), hbelow⟩
  · rintro (rfl | ⟨node, hnode, operand, hoperand, hbelow⟩)
    · exact .self below
    · exact (reaches_of_mem_operands hnode hoperand).trans hbelow

theorem Acyclic.of_reaches (h : arena.Acyclic id) (hbelow : arena.Reaches id below) :
    arena.Acyclic below :=
  fun below' node operand hbelow' => h below' node operand (hbelow.trans hbelow')

/-- Where every operand has a lower rank than its node, no node is below itself. -/
theorem acyclic_of_rank (rank : Nat → Nat)
    (h : ∀ i (hi : i < arena.nodes.size), ∀ operand ∈ arena.nodes[i].operands,
      rank operand.index.toNat < rank i) (id : NodeId) : arena.Acyclic id := by
  have hoperand {id operand : NodeId} {node : Node} (hnode : arena.get? id = some node)
      (hmem : operand ∈ node.operands) : rank operand.index.toNat < rank id.index.toNat := by
    obtain ⟨hlt, rfl⟩ := Array.getElem?_eq_some_iff.1 hnode
    exact h _ hlt operand hmem
  have hbelow {id below : NodeId} (hreaches : arena.Reaches id below) :
      rank below.index.toNat ≤ rank id.index.toNat := by
    induction hreaches with
    | self => exact Nat.le_refl _
    | operand h _ ih => exact ih.trans (hoperand h (List.mem_singleton_self _)).le
    | left h _ ih => exact ih.trans (hoperand h List.mem_cons_self).le
    | right h _ ih =>
      exact ih.trans (hoperand h (List.mem_cons_of_mem _ (List.mem_singleton_self _))).le
  intro below node operand _ hnode hmem hback
  have hlt := hoperand hnode hmem
  have hle := hbelow hback
  omega

/-! ### How deep an unfolding is -/

open Classical in
/-- The places of the nodes below an id. -/
noncomputable def placesBelow (arena : Arena) (id : NodeId) : Finset Nat :=
  (Finset.range arena.size).filter fun i => ∃ below, arena.Reaches id below ∧ below.index.toNat = i

theorem mem_placesBelow {i : Nat} : i ∈ arena.placesBelow id ↔
    i < arena.size ∧ ∃ below, arena.Reaches id below ∧ below.index.toNat = i := by
  simp only [placesBelow, Finset.mem_filter, Finset.mem_range]

theorem card_placesBelow_le (arena : Arena) (id : NodeId) :
    (arena.placesBelow id).card ≤ arena.size := by
  have hsubset : arena.placesBelow id ⊆ Finset.range arena.size := by
    intro i hi
    exact Finset.mem_range.2 (mem_placesBelow.1 hi).1
  exact (Finset.card_le_card hsubset).trans (Finset.card_range _).le

/-- There are fewer nodes below an operand than below its node. -/
theorem Acyclic.card_placesBelow_lt (h : arena.Acyclic id) (hnode : arena.get? id = some node)
    (hoperand : operand ∈ node.operands) :
    (arena.placesBelow operand).card < (arena.placesBelow id).card := by
  refine Finset.card_lt_card (Finset.ssubset_iff_of_subset ?_ |>.2 ⟨id.index.toNat, ?_, ?_⟩)
  · intro i hi
    obtain ⟨hlt, below, hbelow, rfl⟩ := mem_placesBelow.1 hi
    exact mem_placesBelow.2
      ⟨hlt, below, (reaches_of_mem_operands hnode hoperand).trans hbelow, rfl⟩
  · exact mem_placesBelow.2 ⟨lt_size_of_get? hnode, id, .self id, rfl⟩
  · intro hmem
    obtain ⟨-, below, hbelow, hplace⟩ := mem_placesBelow.1 hmem
    obtain rfl := NodeId.eq_of_toNat hplace
    exact h below node operand (.self below) hnode hoperand hbelow

/-- What is below an id has an unfolding, no deeper than there are nodes below it. -/
theorem Acyclic.exists_unfoldsInto_of_card (h : arena.Acyclic id) {n : Nat}
    (hcard : (arena.placesBelow id).card ≤ n) :
    ∃ t, arena.UnfoldsInto id t ∧ t.height ≤ n := by
  -- On the number of nodes below: an operand has fewer.
  induction n generalizing id with
  | zero =>
    refine ⟨_, .missing ?_, Nat.le_refl 0⟩
    by_contra hsome
    obtain ⟨node, hnode⟩ := Option.ne_none_iff_exists'.1 hsome
    have hmem : id.index.toNat ∈ arena.placesBelow id :=
      mem_placesBelow.2 ⟨lt_size_of_get? hnode, id, .self id, rfl⟩
    exact absurd (Finset.card_pos.2 ⟨_, hmem⟩) (by omega)
  | succ n ih =>
    cases hnode : arena.get? id with
    | none => exact ⟨_, .missing hnode, Nat.zero_le _⟩
    | some node =>
      have hbelow {operand : NodeId} (hmem : operand ∈ node.operands) :
          ∃ t, arena.UnfoldsInto operand t ∧ t.height ≤ n := by
        have hlt := h.card_placesBelow_lt hnode hmem
        exact ih (h.of_reaches (reaches_of_mem_operands hnode hmem)) (by omega)
      obtain ⟨kind, span⟩ := node
      cases kind with
      | literal value => exact ⟨_, .literal hnode, Nat.le_add_left 1 n⟩
      | unary op operand =>
        obtain ⟨t, ht, hheight⟩ := hbelow (List.mem_singleton_self operand)
        exact ⟨_, .unary hnode ht, Nat.add_le_add_right hheight 1⟩
      | binary op left right =>
        obtain ⟨t, ht, htheight⟩ := hbelow List.mem_cons_self
        obtain ⟨u, hu, huheight⟩ :=
          hbelow (List.mem_cons_of_mem left (List.mem_singleton_self right))
        exact ⟨_, .binary hnode ht hu, Nat.add_le_add_right (Nat.max_le.2 ⟨htheight, huheight⟩) 1⟩

/-- What is below an id has an unfolding that a walk has depth enough for. -/
theorem Acyclic.exists_unfoldsInto (h : arena.Acyclic id) :
    ∃ t, arena.UnfoldsInto id t ∧ t.height ≤ arena.size :=
  h.exists_unfoldsInto_of_card (arena.card_placesBelow_le id)

end Arena

end Reckon
