/-
What a walk establishes.

A walk carries a state and makes the result of a node out of those of its operands.  To know
something of all states and results of a walk it is enough to know it of each thing that a visitor
does: there is one case for each of these in `Visitor.Establishes`.

* `Visitor.Establishes.fold`, `.walk`: what each of them establishes, the walk does, even if it ends
  early.
-/
import Reckon.Expr.Walk

namespace Reckon

theorem Arena.get?_of_get {arena : Arena} {id : NodeId} {node : Node}
    (h : arena.get id = .ok node) : arena.get? id = some node := by
  rw [get] at h
  split at h
  · rename_i hnode
    rw [hnode, Except.ok.inj h]
  · exact absurd h (by simp)

variable {σ β ε : Type}

/-- Whatever the visitor does at the nodes of an arena, `P` is kept of the state, and a node has a
result with `Q` if its operands have such results. -/
structure Visitor.Establishes (visitor : Visitor σ β ε) (arena : Arena) (P : σ → Prop)
    (Q : NodeId → β → Prop) : Prop where
  literal : ∀ id value span state, arena.get? id = some ⟨.literal value, span⟩ → P state →
    Q id (visitor.literal id value state).1 ∧ P (visitor.literal id value state).2
  enterUnary : ∀ op state, P state → P (visitor.enterUnary op state)
  leaveUnary : ∀ id op operand span x state, arena.get? id = some ⟨.unary op operand, span⟩ →
    Q operand x → P state →
    Q id (visitor.leaveUnary id op x state).1 ∧ P (visitor.leaveUnary id op x state).2
  enterBinary : ∀ op state, P state → P (visitor.enterBinary op state)
  between : ∀ op state, P state → P (visitor.between op state)
  leaveBinary : ∀ id op left right span x y state,
    arena.get? id = some ⟨.binary op left right, span⟩ → Q left x → Q right y → P state →
    (∀ value, (visitor.leaveBinary id op span x y state).1 = .ok value → Q id value) ∧
      P (visitor.leaveBinary id op span x y state).2

namespace Visitor.Establishes

variable {visitor : Visitor σ β ε} {arena : Arena} {P : σ → Prop} {Q : NodeId → β → Prop}
  {state : σ}

theorem fold (h : visitor.Establishes arena P Q) (depth : Nat) (id : NodeId) (hstate : P state) :
    (∀ value, (arena.fold visitor depth id state).1 = .ok value → Q id value) ∧
      P (arena.fold visitor depth id state).2 := by
  induction depth generalizing id state with
  | zero =>
    rw [Arena.fold.eq_def]
    cases arena.get id <;> exact ⟨by simp, hstate⟩
  | succ depth ih =>
    rw [Arena.fold.eq_def]
    cases hget : arena.get id with
    | error fault => exact ⟨by simp, hstate⟩
    | ok node =>
      have hnode := Arena.get?_of_get hget
      obtain ⟨kind, span⟩ := node
      cases kind with
      | literal value =>
        obtain ⟨hresult, hstate'⟩ := h.literal id value span state hnode hstate
        exact ⟨fun _ heq => Except.ok.inj heq ▸ hresult, hstate'⟩
      | unary op operand =>
        obtain ⟨hoperand, hstate'⟩ := ih operand (h.enterUnary op state hstate)
        dsimp only
        generalize arena.fold visitor depth operand (visitor.enterUnary op state) = result
          at hoperand hstate' ⊢
        rcases result with ⟨_ | x, state'⟩
        · exact ⟨by simp, hstate'⟩
        · obtain ⟨hresult, hstate''⟩ :=
            h.leaveUnary id op operand span x state' hnode (hoperand x rfl) hstate'
          exact ⟨fun _ heq => Except.ok.inj heq ▸ hresult, hstate''⟩
      | binary op left right =>
        obtain ⟨hleft, hstate'⟩ := ih left (h.enterBinary op state hstate)
        dsimp only
        generalize arena.fold visitor depth left (visitor.enterBinary op state) = result
          at hleft hstate' ⊢
        rcases result with ⟨_ | x, state'⟩
        · exact ⟨by simp, hstate'⟩
        · obtain ⟨hright, hstate''⟩ := ih right (h.between op state' hstate')
          dsimp only
          generalize arena.fold visitor depth right (visitor.between op state') = result
            at hright hstate'' ⊢
          rcases result with ⟨_ | y, state''⟩
          · exact ⟨by simp, hstate''⟩
          · obtain ⟨hresult, hstate'''⟩ := h.leaveBinary id op left right span x y state'' hnode
              (hleft x rfl) (hright y rfl) hstate''
            dsimp only
            generalize visitor.leaveBinary id op span x y state'' = result at hresult hstate''' ⊢
            rcases result with ⟨_ | value, state'''⟩
            · exact ⟨by simp, hstate'''⟩
            · exact ⟨fun _ heq => Except.ok.inj heq ▸ hresult value rfl, hstate'''⟩

theorem walk (h : visitor.Establishes arena P Q) (id : NodeId) (hstate : P state) :
    (∀ value, (arena.walk visitor id state).1 = .ok value → Q id value) ∧
      P (arena.walk visitor id state).2 := by
  rw [Arena.walk_eq_fold]
  exact h.fold arena.size id hstate

end Visitor.Establishes

end Reckon
