/-
Results that are not finite.

A literal of an arena may be infinite or no number at all.  A sign in front of it makes no
difference to that, but an operation with such an operand is either refused or has a finite
result again.  So a result is not finite only where nothing but signs is in front of a literal that
is not.

* `Arena.LeadsToNonFinite`: signs, and then such a literal;
* `Arena.Acyclic.of_operands`: no node is below itself if this is so below its operands;
* `Arena.SignedLiteral.exists_evaluate`: signs and a literal have a result;
* `Eval.establishes_evaluator`: an evaluation keeps it that reports and results are finite but for
  the nodes that lead to a literal that is not;
* `nonFinite_iff`: so just these nodes have such results; those of texts do not.
-/
import Reckon.Proofs.FirstTrouble
import Reckon.Proofs.Reports
import Reckon.Proofs.Walks

namespace Reckon

namespace Arena

/-- The node is the literal, or has a sign in front of it, or more of them. -/
inductive SignedLiteral (arena : Arena) : NodeId → Binary64 → Prop where
  | literal {id : NodeId} {value : Binary64} {span : Span}
      (h : arena.get? id = some ⟨.literal value, span⟩) : SignedLiteral arena id value
  | unary {id operand : NodeId} {op : UnaryOp} {span : Span} {value : Binary64}
      (h : arena.get? id = some ⟨.unary op operand, span⟩)
      (hoperand : SignedLiteral arena operand value) : SignedLiteral arena id value

/-- Through signs only, if any, the node leads to a literal that is not finite. -/
def LeadsToNonFinite (arena : Arena) (id : NodeId) : Prop :=
  ∃ value, arena.SignedLiteral id value ∧ value.isFinite = false

variable {arena : Arena} {id operand left right : NodeId} {op : UnaryOp} {span : Span}
  {value : Binary64}

theorem leadsToNonFinite_literal (h : arena.get? id = some ⟨.literal value, span⟩) :
    arena.LeadsToNonFinite id ↔ value.isFinite = false := by
  constructor
  · rintro ⟨value', hsigned, hnot⟩
    cases hsigned with
    | literal h' =>
      rw [h, Option.some.injEq, Node.mk.injEq, NodeKind.literal.injEq] at h'
      rwa [h'.1]
    | unary h' => simp [h] at h'
  · exact fun hnot => ⟨value, .literal h, hnot⟩

theorem leadsToNonFinite_unary (h : arena.get? id = some ⟨.unary op operand, span⟩) :
    arena.LeadsToNonFinite id ↔ arena.LeadsToNonFinite operand := by
  constructor
  · rintro ⟨value, hsigned, hnot⟩
    cases hsigned with
    | literal h' => simp [h] at h'
    | unary h' hoperand =>
      rw [h, Option.some.injEq, Node.mk.injEq, NodeKind.unary.injEq] at h'
      obtain ⟨⟨rfl, rfl⟩, -⟩ := h'
      exact ⟨value, hoperand, hnot⟩
  · rintro ⟨value, hoperand, hnot⟩
    exact ⟨value, .unary h hoperand, hnot⟩

theorem not_leadsToNonFinite_binary {op : BinaryOp}
    (h : arena.get? id = some ⟨.binary op left right, span⟩) : ¬ arena.LeadsToNonFinite id := by
  rintro ⟨value, hsigned, -⟩
  cases hsigned with
  | literal h' => simp [h] at h'
  | unary h' => simp [h] at h'

theorem SignedLiteral.mem_nodes (h : arena.SignedLiteral id value) :
    ∃ span, ⟨.literal value, span⟩ ∈ arena.nodes := by
  induction h with
  | literal h => exact ⟨_, Array.mem_of_getElem? h⟩
  | unary _ _ ih => exact ih

/-! ### Signs and a literal have a result -/

/-- No node is below itself that has only operands below which no node is below itself. -/
theorem Acyclic.of_operands (h : ∀ node, arena.get? id = some node →
    ∀ operand ∈ node.operands, arena.Acyclic operand) : arena.Acyclic id := by
  intro below node operand hbelow hnode hmem hback
  rcases reaches_iff_eq_or.1 hbelow with rfl | ⟨node', hnode', operand', hmem', hbelow'⟩
  · -- The node itself would be below one of its operands, and below itself there.
    exact h node hnode operand hmem below node operand hback hnode hmem hback
  · exact h node' hnode' operand' hmem' below node operand hbelow' hnode hmem hback

theorem SignedLiteral.acyclic (h : arena.SignedLiteral id value) : arena.Acyclic id := by
  induction h with
  | literal h =>
    refine Acyclic.of_operands fun node hnode operand hmem => ?_
    obtain rfl := Option.some.inj (h.symm.trans hnode)
    exact absurd hmem List.not_mem_nil
  | unary h _ ih =>
    refine Acyclic.of_operands fun node hnode operand hmem => ?_
    obtain rfl := Option.some.inj (h.symm.trans hnode)
    obtain rfl := List.mem_singleton.1 hmem
    exact ih

/-- Behind signs and a literal there is no trouble. -/
theorem SignedLiteral.trouble?_eq_none (h : arena.SignedLiteral id value) {t : Unfolding}
    (ht : arena.UnfoldsInto id t) (size : Nat) : t.trouble? size = none := by
  induction h generalizing t with
  | literal h =>
    obtain rfl := ht.unique (.literal h)
    rfl
  | unary h _ ih =>
    cases ht with
    | unary h' ht =>
      rw [h, Option.some.injEq, Node.mk.injEq, NodeKind.unary.injEq] at h'
      obtain ⟨⟨rfl, rfl⟩, -⟩ := h'
      have hnone := ih ht
      exact hnone
    | _ h' => simp [h] at h'

theorem SignedLiteral.exists_evaluate (h : arena.SignedLiteral id value) (events : Array Event) :
    ∃ result, (arena.evaluate id events).1 = .ok result := by
  obtain ⟨t, ht, hheight⟩ := h.acyclic.exists_unfoldsInto
  have hends := endsWith_evaluate ht hheight events
  generalize (arena.evaluate id events).1 = result at hends
  cases hends with
  | trouble htrouble => simp [h.trouble?_eq_none ht] at htrouble
  | @value result => exact ⟨result, rfl⟩

/-! ### What an evaluation keeps -/

/-- Of every node that is reported, the value is finite unless the node leads to a literal that is
not. -/
def ReportsNonFinite (arena : Arena) (events : Array Event) : Prop :=
  ∀ id value, .nodeEvaluated id value ∈ events →
    (value.isFinite = false ↔ arena.LeadsToNonFinite id)

theorem ReportsNonFinite.push {events : Array Event} (h : arena.ReportsNonFinite events)
    (hvalue : value.isFinite = false ↔ arena.LeadsToNonFinite id) :
    arena.ReportsNonFinite (events.push (.nodeEvaluated id value)) := by
  intro id' value' hmem
  rcases Array.mem_push.1 hmem with hmem | heq
  · exact h id' value' hmem
  · obtain ⟨rfl, rfl⟩ := Event.nodeEvaluated.inj heq
    exact hvalue

end Arena

theorem Eval.establishes_evaluator (arena : Arena) :
    evaluator.Establishes arena arena.ReportsNonFinite fun id value =>
      value.isFinite = false ↔ arena.LeadsToNonFinite id where
  literal id value span events hnode hevents := by
    have hvalue := (Arena.leadsToNonFinite_literal hnode).symm
    exact ⟨hvalue, hevents.push hvalue⟩
  enterUnary _ _ hevents := hevents
  leaveUnary id op operand span x events hnode hx hevents := by
    have hvalue : (op.apply x).isFinite = false ↔ arena.LeadsToNonFinite id := by
      rw [UnaryOp.isFinite_apply, Arena.leadsToNonFinite_unary hnode]
      exact hx
    exact ⟨hvalue, hevents.push hvalue⟩
  enterBinary _ _ hevents := hevents
  between _ _ hevents := hevents
  leaveBinary id op left right span x y events hnode _ _ hevents := by
    -- Whatever the operands are, the result is finite, or there is none.
    have hvalue {value : Binary64} (h : op.apply x y span = .ok value) :
        value.isFinite = false ↔ arena.LeadsToNonFinite id := by
      have hfinite := (BinaryOp.apply_eq_ok_iff.1 h).2.2
      have hnot := Arena.not_leadsToNonFinite_binary hnode
      simp [hfinite, hnot]
    rw [evaluator]
    dsimp only
    cases happly : op.apply x y span with
    | error error => exact ⟨by simp, hevents⟩
    | ok value =>
      exact ⟨fun _ heq => Except.ok.inj heq ▸ hvalue happly, hevents.push (hvalue happly)⟩

namespace Arena

/-- A result is not finite just if the node leads to a literal that is not, and so it is with the
reports. -/
theorem evaluate_nonFinite (arena : Arena) (id : NodeId) {events : Array Event}
    (hevents : arena.ReportsNonFinite events) :
    (∀ value, (arena.evaluate id events).1 = .ok value →
      (value.isFinite = false ↔ arena.LeadsToNonFinite id)) ∧
    arena.ReportsNonFinite (arena.evaluate id events).2 :=
  (Eval.establishes_evaluator arena).walk id hevents

theorem reportsNonFinite_empty (arena : Arena) : arena.ReportsNonFinite #[] :=
  fun _ _ hmem => absurd hmem (by simp)

theorem isFinite_eq_false_iff {arena : Arena} {id : NodeId} {events : Array Event}
    {value : Binary64} (h : (arena.evaluate id events).1 = .ok value) :
    value.isFinite = false ↔ arena.LeadsToNonFinite id := by
  -- What has been reported before does not matter to the result.
  rw [evaluate_fst, ← arena.evaluate_fst id #[]] at h
  exact (arena.evaluate_nonFinite id arena.reportsNonFinite_empty).1 value h

end Arena

/-! ### Texts -/

section
variable {source : String} {e : Expression} {events : Array Event} {id : NodeId}
  {value : Binary64}

/-- All literals of a text are finite. -/
theorem not_leadsToNonFinite_of_parse (h : (parse source).1 = .ok e) (id : NodeId) :
    ¬ e.arena.LeadsToNonFinite id := by
  rintro ⟨value, hsigned, hnot⟩
  obtain ⟨span, hmem⟩ := hsigned.mem_nodes
  rw [(literal_of_parse h hmem).1] at hnot
  exact Bool.noConfusion hnot

theorem reportsNonFinite_of_parse (source : String) (arena : Arena) :
    arena.ReportsNonFinite (parse source).2 := by
  intro id value hmem
  cases ofParser_of_mem_parse hmem

theorem Expression.evaluate_eq_ok_iff :
    (e.evaluate events).1 = .ok value ↔ (e.arena.evaluate e.root events).1 = .ok value := by
  rw [Expression.evaluate_fst, Arena.evaluate_fst]

/-- The report of the result is not that of a node. -/
theorem Expression.mem_evaluate_iff : .nodeEvaluated id value ∈ (e.evaluate events).2 ↔
    .nodeEvaluated id value ∈ (e.arena.evaluate e.root events).2 := by
  rw [Expression.evaluate]
  rcases e.arena.evaluate e.root events with ⟨(fault | error) | value', events'⟩ <;> simp

/-- Nothing that is not finite comes out of a text, however long it is. -/
theorem finite_of_evaluate (source : String) :
    (∀ value, (evaluate source).1 = .ok value → value.isFinite = true) ∧
    ∀ id value, .nodeEvaluated id value ∈ (evaluate source).2 → value.isFinite = true := by
  have hreports := reportsNonFinite_of_parse source
  rw [evaluate]
  rcases hparse : parse source with ⟨error | e, events⟩
  · rw [hparse] at hreports
    refine ⟨by simp, fun id value hmem => ?_⟩
    have hparser : (Event.nodeEvaluated id value).OfParser :=
      ofParser_of_mem_parse (by rwa [hparse])
    cases hparser
  · have hfinite {id : NodeId} {value : Binary64}
        (h : value.isFinite = false ↔ e.arena.LeadsToNonFinite id) : value.isFinite = true := by
      have hnot : ¬ e.arena.LeadsToNonFinite id :=
        not_leadsToNonFinite_of_parse (congrArg Prod.fst hparse) id
      rwa [← h, Bool.not_eq_false] at hnot
    rw [hparse] at hreports
    refine ⟨fun value h => ?_, fun id value hmem => ?_⟩
    · replace h : (e.evaluate events).1.mapError Failure.ofInterrupt = .ok value := h
      cases hresult : (e.evaluate events).1 with
      | error interrupt => simp [hresult, Except.mapError] at h
      | ok value' =>
        rw [hresult] at h
        obtain rfl := Except.ok.inj h
        exact hfinite (Arena.isFinite_eq_false_iff (Expression.evaluate_eq_ok_iff.1 hresult))
    · have hmem' : .nodeEvaluated id value ∈ (e.evaluate events).2 := hmem
      rw [Expression.mem_evaluate_iff] at hmem'
      exact hfinite ((e.arena.evaluate_nonFinite e.root (hreports e.arena)).2 id value hmem')

end

/-- **Only signs let through what is not finite.**  An evaluation has a result that is not finite if
and only if the node leads, through signs only, to a literal that is not; there always is a result
then.  So an operation that succeeds has a finite result, whatever its operands are, and of all
nodes that are reported those with other values lead to such literals too.  The literals of texts
are finite, and with them all results and reports of a text. -/
theorem nonFinite_iff :
    (∀ (arena : Arena) (id : NodeId) (events : Array Event),
      (∃ value, (arena.evaluate id events).1 = .ok value ∧ value.isFinite = false) ↔
        arena.LeadsToNonFinite id) ∧
    (∀ (arena : Arena) (id left right : NodeId) (op : BinaryOp) (span : Span)
      (events : Array Event) (value : Binary64),
      arena.get? id = some ⟨.binary op left right, span⟩ →
      (arena.evaluate id events).1 = .ok value → value.isFinite = true) ∧
    (∀ (arena : Arena) (id below : NodeId) (value : Binary64),
      .nodeEvaluated below value ∈ (arena.evaluate id #[]).2 →
      (value.isFinite = false ↔ arena.LeadsToNonFinite below)) ∧
    ∀ source : String,
      (∀ value, (evaluate source).1 = .ok value → value.isFinite = true) ∧
      ∀ id value, .nodeEvaluated id value ∈ (evaluate source).2 → value.isFinite = true := by
  refine ⟨fun arena id events => ⟨?_, ?_⟩, ?_, ?_, finite_of_evaluate⟩
  · rintro ⟨value, hresult, hnot⟩
    exact (Arena.isFinite_eq_false_iff hresult).1 hnot
  · intro hleads
    have ⟨literal, hsigned, _⟩ := hleads
    obtain ⟨value, hresult⟩ := hsigned.exists_evaluate events
    exact ⟨value, hresult, (Arena.isFinite_eq_false_iff hresult).2 hleads⟩
  · intro arena id left right op span events value hnode hresult
    have hnot := Arena.not_leadsToNonFinite_binary hnode
    rwa [← Arena.isFinite_eq_false_iff hresult, Bool.not_eq_false] at hnot
  · intro arena id below value hmem
    exact (arena.evaluate_nonFinite id arena.reportsNonFinite_empty).2 below value hmem

/-- Infinity with a sign, by which one is divided, and to which one is added. -/
def infinite : Arena :=
  ⟨#[⟨.literal ⟨0x7FF0000000000000⟩, ⟨1, 2⟩⟩, ⟨.unary .neg ⟨0⟩, ⟨0, 1⟩⟩,
    ⟨.literal ⟨0x3FF0000000000000⟩, ⟨3, 4⟩⟩, ⟨.binary .div ⟨2⟩ ⟨1⟩, ⟨4, 5⟩⟩,
    ⟨.binary .add ⟨2⟩ ⟨1⟩, ⟨5, 6⟩⟩]⟩

/-- The sign lets infinity through; the quotient is a zero, though what it is divided by is reported
as infinite; the sum is refused. -/
theorem nonFinite_iff_infinite :
    (infinite.evaluate ⟨1⟩ #[]).1 = .ok ⟨0xFFF0000000000000⟩ ∧ infinite.LeadsToNonFinite ⟨1⟩ ∧
    (infinite.evaluate ⟨3⟩ #[]).1 = .ok ⟨0x8000000000000000⟩ ∧
    Binary64.isFinite ⟨0x8000000000000000⟩ = true ∧ ¬ infinite.LeadsToNonFinite ⟨3⟩ ∧
    .nodeEvaluated ⟨1⟩ ⟨0xFFF0000000000000⟩ ∈ (infinite.evaluate ⟨3⟩ #[]).2 ∧
    (infinite.evaluate ⟨4⟩ #[]).1 = .error (.refused (.overflow .add ⟨5, 6⟩)) ∧
    ∃ value, (evaluate "-2/3").1 = .ok value ∧ value.isFinite = true := by
  have hsign : (infinite.evaluate ⟨1⟩ #[]).1 = .ok ⟨0xFFF0000000000000⟩ := by decide +kernel
  have hquotient : (infinite.evaluate ⟨3⟩ #[]).1 = .ok ⟨0x8000000000000000⟩ := by decide +kernel
  have hreport : .nodeEvaluated ⟨1⟩ ⟨0xFFF0000000000000⟩ ∈ (infinite.evaluate ⟨3⟩ #[]).2 := by
    rw [Arena.evaluate, Arena.walk_eq_fold]
    exact Array.mem_of_getElem? (i := 2) rfl
  have htext : (evaluate "-2/3").1 = .ok ⟨0xBFE5555555555555⟩ := by decide +kernel
  obtain ⟨hresults, hbinary, hreports, htexts⟩ := nonFinite_iff
  have hfinite := hbinary _ _ _ _ _ _ _ _ rfl hquotient
  have hleads : infinite.LeadsToNonFinite ⟨1⟩ := (hreports _ _ _ _ hreport).1 rfl
  refine ⟨hsign, hleads, hquotient, hfinite, ?_, hreport, by decide +kernel, _, htext,
    (htexts _).1 _ htext⟩
  intro h
  obtain ⟨value, hresult, hnot⟩ := (hresults _ _ #[]).2 h
  obtain rfl := Except.ok.inj (hresult.symm.trans hquotient)
  exact Bool.noConfusion (hfinite.symm.trans hnot)

end Reckon
