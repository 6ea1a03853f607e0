/-
Nodes that are added later.

Nodes are added behind those that there are, and operands may come after their node.  So a node that
is added may be one that was missing below others.  But a walk that has not faulted has found all
that it came to, and finds it again; what else is below does not matter to it, be it there or not.

* `Arena.Extends`: an arena with nodes added; `extends_push` for one node, `extends_allocAll` for
  any number of them;
* `Arena.Extends.fold_eq`, `walk_eq`: any walk that does not fault stays the same;
* `Arena.allocAll_eq`: the ids of nodes are their places, one after the other;
* `allocation_preserves`: so nodes, texts and results stay what they were, and no id is given twice.
-/
import Mathlib.Data.List.Nodup
import Reckon.Proofs.FirstTrouble
import Reckon.Proofs.Walks

namespace Reckon

namespace Arena

/-- All nodes of the first arena are in the second one, under the same ids. -/
structure Extends (arena arena' : Arena) : Prop where
  size_le : arena.size ≤ arena'.size
  get?_eq : ∀ id node, arena.get? id = some node → arena'.get? id = some node

/-- Adds nodes one after another, and gives their ids. -/
def allocAll (arena : Arena) : List Node → List NodeId × Arena
  | [] => ([], arena)
  | node :: nodes =>
    let (id, arena) := arena.alloc node
    let (ids, arena) := arena.allocAll nodes
    (id :: ids, arena)

variable {arena arena' arena'' : Arena} {id : NodeId}

/-! ### Arenas with nodes added -/

theorem Extends.refl (arena : Arena) : arena.Extends arena :=
  ⟨Nat.le_refl _, fun _ _ h => h⟩

theorem Extends.trans (h : arena.Extends arena') (h' : arena'.Extends arena'') :
    arena.Extends arena'' :=
  ⟨h.size_le.trans h'.size_le, fun id node hnode => h'.get?_eq id node (h.get?_eq id node hnode)⟩

theorem extends_push (arena : Arena) (node : Node) : arena.Extends (arena.push node) where
  size_le := by
    rw [size_push]
    exact Nat.le_succ _
  get?_eq id node' hnode := (get?_push_of_lt (lt_size_of_get? hnode)).trans hnode

theorem extends_allocAll (arena : Arena) (nodes : List Node) :
    arena.Extends (arena.allocAll nodes).2 := by
  induction nodes generalizing arena with
  | nil => exact .refl arena
  | cons node nodes ih => exact (arena.extends_push node).trans (ih (arena.push node))

theorem Extends.get_eq (h : arena.Extends arena') {node : Node} (hnode : arena.get id = .ok node) :
    arena'.get id = .ok node := by
  rw [get, h.get?_eq id node (get?_of_get hnode)]

/-! ### Walks with nodes added -/

section
variable {σ β ε : Type} {visitor : Visitor σ β ε} {state state' : σ} {depth : Nat}
  {operand left right : NodeId} {span : Span} {interrupt : Interrupt ε} {x : β}

theorem fold_error_of_operand {op : UnaryOp} (hget : arena.get id = .ok ⟨.unary op operand, span⟩)
    (h : (arena.fold visitor depth operand (visitor.enterUnary op state)).1 = .error interrupt) :
    (arena.fold visitor (depth + 1) id state).1 = .error interrupt := by
  rw [Arena.fold.eq_def, hget]
  have hoperand : arena.fold visitor depth operand (visitor.enterUnary op state) =
      (.error interrupt, _) := Prod.ext h rfl
  dsimp only
  rw [hoperand]

theorem fold_error_of_left {op : BinaryOp} (hget : arena.get id = .ok ⟨.binary op left right, span⟩)
    (h : (arena.fold visitor depth left (visitor.enterBinary op state)).1 = .error interrupt) :
    (arena.fold visitor (depth + 1) id state).1 = .error interrupt := by
  rw [Arena.fold.eq_def, hget]
  have hleft : arena.fold visitor depth left (visitor.enterBinary op state) =
      (.error interrupt, _) := Prod.ext h rfl
  dsimp only
  rw [hleft]

theorem fold_error_of_right {op : BinaryOp}
    (hget : arena.get id = .ok ⟨.binary op left right, span⟩)
    (hleft : arena.fold visitor depth left (visitor.enterBinary op state) = (.ok x, state'))
    (h : (arena.fold visitor depth right (visitor.between op state')).1 = .error interrupt) :
    (arena.fold visitor (depth + 1) id state).1 = .error interrupt := by
  rw [Arena.fold.eq_def, hget]
  have hright : arena.fold visitor depth right (visitor.between op state') =
      (.error interrupt, _) := Prod.ext h rfl
  dsimp only
  rw [hleft]
  dsimp only
  rw [hright]

/-- A walk that does not fault is the same with nodes added, and with more depth to go down. -/
theorem Extends.fold_eq (h : arena.Extends arena') {depth' : Nat} (hdepth : depth ≤ depth')
    (hfault : ∀ fault, (arena.fold visitor depth id state).1 ≠ .error (.fault fault)) :
    arena'.fold visitor depth' id state = arena.fold visitor depth id state := by
  -- On the depth.  What is not visited does not matter, as the right operand where the left one is
  -- refused.
  induction depth generalizing depth' id state with
  | zero =>
    rw [Arena.fold.eq_def] at hfault
    cases hget : arena.get id with
    | error fault => simp [hget] at hfault
    | ok node => simp [hget] at hfault
  | succ depth ih =>
    obtain ⟨depth', rfl⟩ := Nat.exists_eq_add_of_le' (Nat.le_of_add_left_le hdepth)
    replace hdepth := Nat.le_of_add_le_add_right hdepth
    cases hget : arena.get id with
    | error fault =>
      rw [Arena.fold.eq_def] at hfault
      simp [hget] at hfault
    | ok node =>
      rw [Arena.fold.eq_def, h.get_eq hget, Arena.fold.eq_def arena, hget]
      obtain ⟨kind, span⟩ := node
      cases kind with
      | literal value => rfl
      | unary op operand =>
        dsimp only
        rw [ih hdepth fun fault herror => hfault fault (fold_error_of_operand hget herror)]
      | binary op left right =>
        dsimp only
        rw [ih hdepth fun fault herror => hfault fault (fold_error_of_left hget herror)]
        rcases hleft : arena.fold visitor depth left (visitor.enterBinary op state) with
          ⟨interrupt | x, state'⟩
        · rfl
        · dsimp only
          rw [ih hdepth fun fault herror => hfault fault (fold_error_of_right hget hleft herror)]

theorem Extends.walk_eq (h : arena.Extends arena')
    (hfault : ∀ fault, (arena.walk visitor id state).1 ≠ .error (.fault fault)) :
    arena'.walk visitor id state = arena.walk visitor id state := by
  rw [walk_eq_fold] at hfault
  rw [walk_eq_fold, walk_eq_fold]
  exact h.fold_eq h.size_le hfault

end

theorem Extends.sexpr_eq (h : arena.Extends arena') {text : String}
    (htext : arena.sexpr id = .ok text) : arena'.sexpr id = .ok text := by
  rw [sexpr] at htext ⊢
  rw [h.walk_eq fun fault herror => ?_]
  · exact htext
  · rcases hwalk : arena.walk Sexpr.writer id "" with ⟨result, written⟩
    rw [hwalk] at htext herror
    obtain rfl : result = .error (.fault fault) := herror
    exact absurd htext (by simp)

theorem Extends.evaluate_eq (h : arena.Extends arena') {events : Array Event}
    (hfault : ∀ fault, (arena.evaluate id events).1 ≠ .error (.fault fault)) :
    arena'.evaluate id events = arena.evaluate id events :=
  h.walk_eq hfault

/-! ### Ids of nodes that are added -/

section
variable {nodes : List Node}

theorem allocAll_eq (arena : Arena) (nodes : List Node) :
    arena.allocAll nodes = ((List.range' arena.size nodes.length).map .ofNat,
      ⟨arena.nodes ++ nodes.toArray⟩) := by
  induction nodes generalizing arena with
  | nil => simp [allocAll]
  | cons node nodes ih =>
    rw [allocAll, alloc]
    dsimp only
    rw [ih, size_push, List.length_cons, List.range'_succ, List.map_cons]
    simp [push, nextId]

theorem size_allocAll (arena : Arena) (nodes : List Node) :
    (arena.allocAll nodes).2.size = arena.size + nodes.length := by
  rw [allocAll_eq]
  simp [size]

theorem map_toNat_allocAll (h : arena.size + nodes.length ≤ idCount) :
    (arena.allocAll nodes).1.map (fun id => id.index.toNat) =
      List.range' arena.size nodes.length := by
  rw [allocAll_eq, List.map_map]
  refine (List.map_congr_left fun n hn => ?_).trans (List.map_id _)
  have hlt := (List.mem_range'_1.1 hn).2
  exact NodeId.toNat_ofNat (by omega)

theorem nodup_allocAll (h : arena.size + nodes.length ≤ idCount) :
    (arena.allocAll nodes).1.Nodup := by
  refine List.Nodup.of_map (fun id : NodeId => id.index.toNat) ?_
  rw [map_toNat_allocAll h]
  exact List.nodup_range'

theorem get?_eq_none_of_mem_allocAll (h : arena.size + nodes.length ≤ idCount)
    (hid : id ∈ (arena.allocAll nodes).1) : arena.get? id = none := by
  have hmem := List.mem_map_of_mem (f := fun id : NodeId => id.index.toNat) hid
  rw [map_toNat_allocAll h] at hmem
  exact Array.getElem?_eq_none (List.mem_range'_1.1 hmem).1

/-- Each node that is added is found under the id that it got. -/
theorem forall₂_allocAll (h : arena.size + nodes.length ≤ idCount) :
    List.Forall₂ (fun id node => (arena.allocAll nodes).2.get? id = some node)
      (arena.allocAll nodes).1 nodes := by
  induction nodes generalizing arena with
  | nil => exact .nil
  | cons node nodes ih =>
    rw [List.length_cons] at h
    have hfirst := get?_push_nextId node (show arena.size < idCount by omega)
    refine .cons ?_ (ih ?_)
    · exact ((arena.push node).extends_allocAll nodes).get?_eq _ _ hfirst
    · rw [size_push]
      omega

end

end Arena

/-- **Nodes that are added change nothing for those before them.**  When nodes are added to an
arena, with whatever operands, every node stays under its id.  An expression that could be written
has the same text.  One that could be worked out, to a result or to an operation that is refused,
comes to the same with the same reports, even if operands that it was not come to were missing and
now are there.  As long as there are no more nodes than ids, the id of each node is the number of
nodes before it.  So it is not that of another one, and the node is found under it. -/
theorem allocation_preserves (arena : Arena) (nodes : List Node) (ids : List NodeId)
    (arena' : Arena) (halloc : arena.allocAll nodes = (ids, arena')) :
    (∀ id node, arena.get id = .ok node → arena'.get id = .ok node) ∧
    (∀ id text, arena.sexpr id = .ok text → arena'.sexpr id = .ok text) ∧
    (∀ id events, (∀ fault, (arena.evaluate id events).1 ≠ .error (.fault fault)) →
      arena'.evaluate id events = arena.evaluate id events) ∧
    (arena'.size ≤ idCount →
      ids.map (fun id => id.index.toNat) = List.range' arena.size nodes.length ∧
      ids.Nodup ∧ (∀ id ∈ ids, arena.get? id = none) ∧
      List.Forall₂ (fun id node => arena'.get? id = some node) ids nodes) := by
  have hextends := arena.extends_allocAll nodes
  have hsize' := arena.size_allocAll nodes
  obtain rfl : (arena.allocAll nodes).1 = ids := congrArg Prod.fst halloc
  obtain rfl : (arena.allocAll nodes).2 = arena' := congrArg Prod.snd halloc
  refine ⟨fun id node => hextends.get_eq, fun id text => hextends.sexpr_eq,
    fun id events => hextends.evaluate_eq, fun hsize => ?_⟩
  rw [hsize'] at hsize
  exact ⟨Arena.map_toNat_allocAll hsize, Arena.nodup_allocAll hsize,
    fun id => Arena.get?_eq_none_of_mem_allocAll hsize, Arena.forall₂_allocAll hsize⟩

/-- A sum of a division by zero and of what is not there yet. -/
def unfinished : Arena :=
  ⟨#[⟨.literal ⟨0⟩, ⟨0, 1⟩⟩, ⟨.binary .div ⟨0⟩ ⟨0⟩, ⟨1, 2⟩⟩, ⟨.binary .add ⟨1⟩ ⟨3⟩, ⟨3, 4⟩⟩]⟩

/-- The operand on the right is added; still the division on the left fails before it.  The sum,
which could not be written before, now can; the quotient has the same text as before. -/
theorem allocation_preserves_unfinished :
    ∃ arena', unfinished.allocAll [⟨.literal ⟨0⟩, ⟨4, 5⟩⟩, ⟨.unary .neg ⟨2⟩, ⟨5, 6⟩⟩] =
        ([⟨3⟩, ⟨4⟩], arena') ∧
      unfinished.sexpr ⟨2⟩ = .error (.dangling ⟨3⟩ 3) ∧ arena'.sexpr ⟨2⟩ = .ok "(+ (/ 0 0) 0)" ∧
      arena'.sexpr ⟨1⟩ = .ok "(/ 0 0)" ∧
      arena'.evaluate ⟨2⟩ #[] = unfinished.evaluate ⟨2⟩ #[] ∧
      (arena'.evaluate ⟨2⟩ #[]).1 = .error (.refused (.divisionByZero ⟨1, 2⟩)) ∧
      arena'.get? ⟨4⟩ = some ⟨.unary .neg ⟨2⟩, ⟨5, 6⟩⟩ := by
  have hfails : (unfinished.evaluate ⟨2⟩ #[]).1 = .error (.refused (.divisionByZero ⟨1, 2⟩)) := by
    decide +kernel
  obtain ⟨-, htexts, hresults, hids⟩ := allocation_preserves unfinished
    [⟨.literal ⟨0⟩, ⟨4, 5⟩⟩, ⟨.unary .neg ⟨2⟩, ⟨5, 6⟩⟩] _ _ rfl
  obtain ⟨-, -, -, hfound⟩ := hids (by decide)
  have hsame := hresults ⟨2⟩ #[] fun fault hfault => absurd (hfails.symm.trans hfault) (by simp)
  refine ⟨_, rfl, by decide +kernel, by decide +kernel, htexts _ _ (by decide +kernel), hsame,
    ?_, ?_⟩
  · rw [hsame]
    exact hfails
  · exact (List.forall₂_cons.1 (List.forall₂_cons.1 hfound).2).1

end Reckon
