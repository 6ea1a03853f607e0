/-
No text leads to a fault.

A walk over an arena faults at an id that the arena does not have, or if nodes are operands of each
other in a circle.  Neither can be in the arena of a parsed text: the operands of a node are among
the nodes before it.  This is so for texts of any length.  Ids are words, and when they run out
they begin again, but an id is never greater than the place of its node.

* `SpanTree.refersBack_layout`: the nodes of a tree have their operands before them;
* `Arena.fold_ne_fault`: a walk over such nodes goes to smaller and smaller ids, and ends;
* `Lexer.inPlace_after`: a lexer that has given some items stands between two characters;
* `faultless`: so no call of the program fails inside.
-/
import Reckon.Proofs.Evaluation
import Reckon.Proofs.Operands
import Reckon.Session.Process

namespace Reckon

/-! ### Nodes with their operands before them -/

/-- The operands of the nodes, of which the first one has the place `base`, all have ids below the
place of the node. -/
def RefersBack (base : Nat) (nodes : List Node) : Prop :=
  ∀ i node, nodes[i]? = some node → ∀ id ∈ node.operands, id.index.toNat < base + i

theorem refersBack_append {base : Nat} {front back : List Node} (hfront : RefersBack base front)
    (hback : RefersBack (base + front.length) back) : RefersBack base (front ++ back) := by
  intro i node hnode id hid
  rcases Nat.lt_or_ge i front.length with hi | hi
  · rw [List.getElem?_append_left hi] at hnode
    exact hfront i node hnode id hid
  · rw [List.getElem?_append_right hi] at hnode
    have hlt := hback _ node hnode id hid
    omega

theorem refersBack_singleton {base : Nat} {node : Node}
    (h : ∀ id ∈ node.operands, id.index.toNat < base) : RefersBack base [node] := by
  intro i node' hnode id hid
  obtain rfl : node' = node := List.mem_singleton.1 (List.mem_of_getElem? hnode)
  have hlt := h id hid
  omega

/-- An id is at most the place that it is made for. -/
theorem NodeId.toNat_ofNat_le (n : Nat) : (ofNat n).index.toNat ≤ n := by
  rw [ofNat, UInt32.toNat_ofNat']
  exact Nat.mod_le _ _

namespace SpanTree

/-- The id of a root is below the place after its tree. -/
theorem toNat_rootAt_lt (base : Nat) (t : SpanTree) :
    (t.rootAt base).index.toNat < base + t.size := by
  have hpos := t.size_pos
  have hle := NodeId.toNat_ofNat_le (base + t.size - 1)
  rw [rootAt]
  omega

theorem refersBack_layout (base : Nat) (t : SpanTree) : RefersBack base (t.layout base) := by
  induction t generalizing base with
  | literal value span =>
    exact refersBack_singleton fun id hid => absurd hid List.not_mem_nil
  | unary op span t ih =>
    refine refersBack_append (ih base) (refersBack_singleton fun id hid => ?_)
    obtain rfl := List.mem_singleton.1 hid
    rw [length_layout]
    exact t.toNat_rootAt_lt base
  | binary op span t u iht ihu =>
    rw [layout]
    refine refersBack_append (iht base) ?_
    rw [length_layout]
    refine refersBack_append (ihu _) (refersBack_singleton fun id hid => ?_)
    rw [length_layout]
    rcases List.mem_pair.1 hid with rfl | rfl
    · have hlt := t.toNat_rootAt_lt base
      omega
    · exact u.toNat_rootAt_lt _

theorem refersBack_expression (t : SpanTree) : RefersBack 0 t.expression.arena.nodes.toList :=
  t.refersBack_layout 0

end SpanTree

/-! ### Walks -/

namespace Arena

variable {σ β ε : Type} {arena : Arena} {id : NodeId}

theorem exists_get_of_lt (h : id.index.toNat < arena.size) :
    ∃ node, arena.get? id = some node ∧ arena.get id = .ok node := by
  have hnode : arena.get? id = some arena.nodes[id.index.toNat] := Array.getElem?_eq_getElem h
  refine ⟨_, hnode, ?_⟩
  rw [get, hnode]

theorem operand_lt_of_get? (harena : RefersBack 0 arena.nodes.toList) {node : Node}
    (hnode : arena.get? id = some node) {operand : NodeId} (h : operand ∈ node.operands) :
    operand.index.toNat < id.index.toNat := by
  have hlist : arena.nodes.toList[id.index.toNat]? = some node := by
    rw [Array.getElem?_toList]
    exact hnode
  have hlt := harena _ node hlist operand h
  omega

/-- A walk with enough depth for the id it begins with does not fault. -/
theorem fold_ne_fault (harena : RefersBack 0 arena.nodes.toList) (visitor : Visitor σ β ε)
    {depth : Nat} (hid : id.index.toNat < arena.size) (hdepth : id.index.toNat < depth) (state : σ)
    (fault : Fault) : (arena.fold visitor depth id state).1 ≠ .error (.fault fault) := by
  -- The ids go down with the depth, so there is always one more node, and depth left for it.
  induction depth generalizing id state with
  | zero => omega
  | succ depth ih =>
    obtain ⟨node, hnode, hget⟩ := exists_get_of_lt hid
    have hbelow {operand : NodeId} (h : operand ∈ node.operands) (state : σ) :
        (arena.fold visitor depth operand state).1 ≠ .error (.fault fault) := by
      have hlt := operand_lt_of_get? harena hnode h
      exact ih (by omega) (by omega) state
    obtain ⟨kind, span⟩ := node
    rw [Arena.fold.eq_def, hget]
    cases kind with
    | literal value => simp
    | unary op operand =>
      have hoperand := hbelow (List.mem_singleton_self operand) (visitor.enterUnary op state)
      dsimp only
      rcases hfold : arena.fold visitor depth operand (visitor.enterUnary op state) with
        ⟨_ | value, state⟩
      · rwa [hfold] at hoperand
      · simp
    | binary op left right =>
      have hleft := hbelow (List.mem_cons_self) (visitor.enterBinary op state)
      dsimp only
      rcases hfold : arena.fold visitor depth left (visitor.enterBinary op state) with
        ⟨_ | leftValue, state⟩
      · rwa [hfold] at hleft
      · have hright := hbelow (List.mem_cons_of_mem _ (List.mem_singleton_self right))
          (visitor.between op state)
        dsimp only
        rcases hfold : arena.fold visitor depth right (visitor.between op state) with
          ⟨_ | rightValue, state⟩
        · rwa [hfold] at hright
        · dsimp only
          rcases visitor.leaveBinary id op span leftValue rightValue state with
            ⟨_ | result, state⟩ <;> simp

/-- No walk comes to an id that the arena does not have. -/
theorem Reaches.lt_size (harena : RefersBack 0 arena.nodes.toList) {below : NodeId}
    (h : arena.Reaches id below) (hid : id.index.toNat < arena.size) :
    below.index.toNat < arena.size := by
  induction h with
  | self id => exact hid
  | operand hnode _ ih =>
    have hlt := operand_lt_of_get? harena hnode (List.mem_singleton_self _)
    exact ih (by omega)
  | left hnode _ ih =>
    have hlt := operand_lt_of_get? harena hnode List.mem_cons_self
    exact ih (by omega)
  | right hnode _ ih =>
    have hlt := operand_lt_of_get? harena hnode
      (List.mem_cons_of_mem _ (List.mem_singleton_self _))
    exact ih (by omega)

end Arena

section
variable {source : String} {e : Expression}

theorem root_lt_size_of_parse (h : (parse source).1 = .ok e) :
    RefersBack 0 e.arena.nodes.toList ∧ e.root.index.toNat < e.arena.size := by
  obtain ⟨words, t, -, -, rfl⟩ := parse_eq_ok_iff.1 h
  refine ⟨t.refersBack_expression, ?_⟩
  have hlt := t.toNat_rootAt_lt 0
  rw [SpanTree.size_arena_expression, ← Nat.zero_add t.size]
  exact hlt

/-- No walk over a parsed expression faults. -/
theorem walk_ne_fault {σ β ε : Type} (h : (parse source).1 = .ok e) (visitor : Visitor σ β ε)
    (state : σ) (fault : Fault) :
    (e.arena.walk visitor e.root state).1 ≠ .error (.fault fault) := by
  obtain ⟨harena, hroot⟩ := root_lt_size_of_parse h
  rw [Arena.walk_eq_fold]
  exact Arena.fold_ne_fault harena visitor hroot hroot state fault

theorem exists_sexpr_of_parse (h : (parse source).1 = .ok e) : ∃ text, e.sexpr = .ok text := by
  have hwalk := walk_ne_fault h Sexpr.writer ""
  rw [Expression.sexpr, Arena.sexpr]
  rcases hresult : e.arena.walk Sexpr.writer e.root "" with ⟨(fault | error) | ⟨⟩, text⟩
  · exact absurd (congrArg Prod.fst hresult) (hwalk fault)
  · exact error.elim
  · exact ⟨text, rfl⟩

/-- An evaluation of a parsed expression has a result, or an operation is refused. -/
theorem evaluate_of_parse (h : (parse source).1 = .ok e) (events : Array Event) :
    (∃ value, (e.evaluate events).1 = .ok value) ∨
      ∃ error, (e.evaluate events).1 = .error (.refused error) := by
  have hwalk := walk_ne_fault h Eval.evaluator events
  rw [Expression.evaluate, Arena.evaluate]
  rcases hresult : e.arena.walk Eval.evaluator e.root events with ⟨(fault | error) | value, events⟩
  · exact absurd (congrArg Prod.fst hresult) (hwalk fault)
  · exact .inr ⟨error, rfl⟩
  · exact .inl ⟨value, rfl⟩

theorem evaluate_ne_fault (source : String) (fault : Fault) :
    (evaluate source).1 ≠ .error (.fault fault) := by
  cases hparse : (parse source).1 with
  | error error =>
    rw [evaluate_of_parse_error hparse]
    simp
  | ok e =>
    rw [evaluate_of_parse_ok hparse]
    rcases evaluate_of_parse hparse (parse source).2 with ⟨value, hvalue⟩ | ⟨error, herror⟩
    · rw [hvalue]
      exact nofun
    · rw [herror]
      exact nofun

end

/-! ### The place of a lexer -/

/-- What is left of the text begins at the offset of the lexer. -/
def Lexer.InPlace (l : Lexer) : Prop :=
  ∃ front, l.source.toList = front ++ l.rest ∧ l.offset = Text.byteLength front

namespace Lexer

variable {l l' : Lexer} {item : Except LexError Token}

/-- What is left behind the blanks begins where the next item stands. -/
theorem InPlace.behind_blanks (h : l.InPlace) :
    ∃ front, l.source.toList = front ++ l.rest.dropWhile isBlank ∧
      l.offset + Text.byteLength (l.rest.takeWhile isBlank) = Text.byteLength front := by
  obtain ⟨front, htext, hoffset⟩ := h
  refine ⟨front ++ l.rest.takeWhile isBlank, ?_, ?_⟩
  · rw [List.append_assoc, List.takeWhile_append_dropWhile, htext]
  · rw [Text.byteLength_append, hoffset]

theorem InPlace.next (h : l.InPlace) (hnext : l.next = some (item, l')) : l'.InPlace := by
  rw [Lexer.next] at hnext
  split at hnext
  · exact absurd hnext (by simp)
  · obtain ⟨front, htext, hoffset⟩ := h.behind_blanks
    replace hnext := congrArg Prod.snd (Option.some.inj hnext)
    simp only [Lexer.item] at hnext
    split at hnext
    · rename_i x rest hmunch
      split at hnext
      · subst hnext
        refine ⟨front ++ x.text, ?_, ?_⟩
        · rw [List.append_assoc, Lexeme.text_append_of_munch hmunch, htext]
        · rw [Text.byteLength_append, ← hoffset]
      · subst hnext
        exact h
    · split at hnext <;> subst hnext <;> exact h

theorem source_of_after (n : Nat) : (l.after n).source = l.source := by
  induction n generalizing l with
  | zero => rfl
  | succ n ih =>
    rw [after]
    cases hnext : l.next with
    | none => rfl
    | some front =>
      obtain ⟨item, l'⟩ := front
      dsimp only
      rw [ih, source_of_next hnext]

theorem inPlace_after (source : String) (n : Nat) : ((start source).after n).InPlace := by
  suffices h : ∀ l : Lexer, l.InPlace → (l.after n).InPlace from
    h _ ⟨[], rfl, rfl⟩
  induction n with
  | zero => exact fun l hl => hl
  | succ n ih =>
    intro l hl
    rw [after]
    cases hnext : l.next with
    | none => exact hl
    | some front => exact ih _ (hl.next hnext)

/-- The text that an error is about begins between two characters, before the end of the text. -/
theorem InPlace.standsAt_of_error {error : LexError} (h : l.InPlace)
    (hnext : l.next = some (.error error, l')) :
    ∃ offset c, StandsAt l.source offset [c] ∧ error.pos = saturate offset ∧
      ∀ d pos, error = .unexpectedChar d pos → d = c := by
  obtain ⟨front, htext, hoffset⟩ := h.behind_blanks
  have hdrop := Text.dropBytes?_append front (l.rest.dropWhile isBlank)
  rw [← htext] at hdrop
  rw [Lexer.next] at hnext
  split at hnext
  · exact absurd hnext (by simp)
  · replace hnext := congrArg Prod.fst (Option.some.inj hnext)
    rw [hoffset, Lexer.item.eq_def] at hnext
    cases hrest : l.rest.dropWhile isBlank with
    | nil => simp [hrest, Lexeme.munch] at hnext
    | cons c cs =>
      rw [hrest] at hnext hdrop
      refine ⟨Text.byteLength front, c, ⟨cs, hdrop⟩, ?_⟩
      split at hnext
      · split at hnext
        · exact absurd hnext (by simp)
        · obtain rfl := Except.error.inj hnext
          exact ⟨rfl, fun d pos hd => absurd hd (by simp)⟩
      · obtain rfl := Except.error.inj hnext
        refine ⟨rfl, fun d pos hd => ?_⟩
        exact (LexError.unexpectedChar.inj hd).1.symm

end Lexer

/-! ### Calls -/

theorem Failure.status_ne_internal {failure : Failure} (h : ∀ fault, failure ≠ .fault fault) :
    failure.status ≠ .internal := by
  cases failure with
  | parse error => cases error <;> exact nofun
  | eval error => exact nofun
  | fault cause => exact absurd rfl (h cause)

theorem render_status_ne_internal (source : String) : (render source).1.status ≠ .internal := by
  rw [render]
  split
  · exact nofun
  · show (Outcome.ofResult (evaluate source).1).status ≠ .internal
    cases hresult : (evaluate source).1 with
    | ok value => exact nofun
    | error failure =>
      refine Failure.status_ne_internal ?_
      rintro fault rfl
      exact evaluate_ne_fault source fault hresult

theorem outcomeFor_status_ne_internal (argument : Option ByteArray) :
    (outcomeFor argument).1.status ≠ .internal := by
  cases argument with
  | none => exact nofun
  | some bytes =>
    rw [outcomeFor]
    cases String.fromUTF8? (CString.untilNul bytes) with
    | some source => exact render_status_ne_internal source
    | none => exact nofun

/-- A variable for the status never holds the number of a fault. -/
theorem Session.calculate_status_ne_internal (s : Session) (argument : Option ByteArray)
    (status : Option Nat) :
    (s.calculate argument status).2.1 ≠ some Status.internal.code := by
  have hstatus := outcomeFor_status_ne_internal argument
  show status.map (fun _ => (outcomeFor argument).1.status.code) ≠ some Status.internal.code
  intro hcode
  obtain ⟨-, -, hcode⟩ := Option.map_eq_some_iff.1 hcode
  cases hname : (outcomeFor argument).1.status with
  | internal => exact hstatus hname
  | ok | lexError | parseError | evalError | invalidInput => simp [hname, Status.code] at hcode

/-- **Nothing faults, whatever is asked.**  The nodes below the root of a parsed expression are all
in its arena, so that no walk over it comes to an id that the arena does not have: it can be
written with its grouping, and worked out to a result or to an operation that is refused.  The text
that an error of the lexer is about begins between two characters, with the character that is
named.  And no argument has the outcome of a fault.  All this holds for texts of any length. -/
theorem faultless :
    (∀ source e, (parse source).1 = .ok e →
      (∀ id, e.arena.Reaches e.root id → id.index.toNat < e.arena.size) ∧
      (∀ (σ β ε : Type) (visitor : Visitor σ β ε) (state : σ) (fault : Fault),
        (e.arena.walk visitor e.root state).1 ≠ .error (.fault fault)) ∧
      (∃ text, e.sexpr = .ok text) ∧
      ∀ events, (∃ value, (e.evaluate events).1 = .ok value) ∨
        ∃ error, (e.evaluate events).1 = .error (.refused error)) ∧
    (∀ source n error l, ((Lexer.start source).after n).next = some (.error error, l) →
      ∃ offset c, StandsAt source offset [c] ∧ error.pos = saturate offset ∧
        ∀ d pos, error = .unexpectedChar d pos → d = c) ∧
    ∀ argument, (outcomeFor argument).1.status ≠ .internal ∧
      ∀ (s : Session) (status : Option Nat),
        (s.calculate argument status).2.1 ≠ some Status.internal.code := by
  refine ⟨fun source e hparse => ?_, fun source n error l hnext => ?_, fun argument => ?_⟩
  · obtain ⟨harena, hroot⟩ := root_lt_size_of_parse hparse
    refine ⟨fun id hid => hid.lt_size harena hroot, fun σ β ε visitor state fault => ?_,
      exists_sexpr_of_parse hparse, evaluate_of_parse hparse⟩
    exact walk_ne_fault hparse visitor state fault
  · have herror := (Lexer.inPlace_after source n).standsAt_of_error hnext
    rwa [Lexer.source_of_after] at herror
  · exact ⟨outcomeFor_status_ne_internal argument,
      fun s status => s.calculate_status_ne_internal argument status⟩

/-- A division by zero is no fault; and of two bytes it is the first one where the character is. -/
theorem faultless_division :
    (∃ e, (parse "1/(2-2)").1 = .ok e ∧ (∃ text, e.sexpr = .ok text) ∧
      ∀ events, (∃ value, (e.evaluate events).1 = .ok value) ∨
        ∃ error, (e.evaluate events).1 = .error (.refused error)) ∧
    ∃ offset c, StandsAt "(é" offset [c] ∧ 1 = saturate offset ∧ 'é' = c := by
  have hparse : (parse "1/(2-2)").1 = .ok (SpanTree.expression
      (.binary .div ⟨1, 2⟩ (.literal ⟨0x3FF0000000000000⟩ ⟨0, 1⟩)
        (.binary .sub ⟨4, 5⟩ (.literal ⟨0x4000000000000000⟩ ⟨3, 4⟩)
          (.literal ⟨0x4000000000000000⟩ ⟨5, 6⟩)))) := by decide +kernel
  have hnext : ((Lexer.start "(é").after 1).next =
      some (.error (.unexpectedChar 'é' 1), ⟨"(é", ['é'], 1, true⟩) := by decide +kernel
  obtain ⟨hwalks, herrors, -⟩ := faultless
  obtain ⟨-, -, hsexpr, hevaluate⟩ := hwalks _ _ hparse
  obtain ⟨offset, c, hstands, hpos, hchar⟩ := herrors _ _ _ _ hnext
  exact ⟨⟨_, hparse, hsexpr, hevaluate⟩, offset, c, hstands, hpos, hchar _ _ rfl⟩

end Reckon
