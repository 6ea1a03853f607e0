/-
The parser as a reader of trees.

A parser keeps nodes where a reader keeps trees, and otherwise the two go through the same states:
`Reader.parser` is the parser that has, in its arena, the trees of a reader one after another in
post-order, those of the outermost group first.

* `Reader.step_of_move`, `step_of_result`, `step_of_reject`: a step of the parser is what the
  reader does with the current token;
* `Reader.run_eq_verdict`: so a run gives the verdict of the reader on the tokens and on the item
  after them, and reports the tokens in their order.
-/
import Reckon.Proofs.PostOrder
import Reckon.Proofs.Reader

namespace Reckon

/-! ### Waiting operands in an arena -/

namespace Pending

/-- The number of nodes of what waits for a right operand, if anything does. -/
def size : Option (Pending SpanTree) → Nat
  | none => 0
  | some p => p.left.size

/-- The nodes of what waits for a right operand, with the ids from `base` on. -/
def layout (base : Nat) : Option (Pending SpanTree) → List Node
  | none => []
  | some p => p.left.layout base

/-- The same with nodes for trees. -/
def place (base : Nat) : Option (Pending SpanTree) → Option (Pending NodeId)
  | none => none
  | some p => some ⟨p.left.rootAt base, p.op, p.span⟩

@[simp] theorem length_layout (base : Nat) (pending : Option (Pending SpanTree)) :
    (layout base pending).length = size pending := by
  cases pending with
  | none => rfl
  | some p => exact p.left.length_layout base

end Pending

namespace OpenGroup

def size (group : OpenGroup SpanTree) : Nat := Pending.size group.sum + Pending.size group.product

/-- The nodes of an open group, with the ids from `base` on. -/
def layout (base : Nat) (group : OpenGroup SpanTree) : List Node :=
  Pending.layout base group.sum ++ Pending.layout (base + Pending.size group.sum) group.product

/-- The same group with nodes for trees. -/
def place (base : Nat) (group : OpenGroup SpanTree) : OpenGroup NodeId :=
  ⟨Pending.place base group.sum, Pending.place (base + Pending.size group.sum) group.product,
    group.signs⟩

/-- The number of nodes of open groups. -/
def totalSize : List (OpenGroup SpanTree) → Nat
  | [] => 0
  | group :: outer => totalSize outer + group.size

/-- The nodes of open groups, those of the outermost group first. -/
def layoutAll : List (OpenGroup SpanTree) → List Node
  | [] => []
  | group :: outer => layoutAll outer ++ group.layout (totalSize outer)

/-- The same groups with nodes for trees. -/
def placeAll : List (OpenGroup SpanTree) → List (OpenGroup NodeId)
  | [] => []
  | group :: outer => group.place (totalSize outer) :: placeAll outer

@[simp] theorem length_layout (base : Nat) (group : OpenGroup SpanTree) :
    (group.layout base).length = group.size := by
  simp [layout, size]

@[simp] theorem length_layoutAll (groups : List (OpenGroup SpanTree)) :
    (layoutAll groups).length = totalSize groups := by
  induction groups with
  | nil => rfl
  | cons group outer ih => rw [layoutAll, List.length_append, ih, length_layout, totalSize]

end OpenGroup

open OpenGroup (layoutAll placeAll totalSize)

namespace Parser

theorem alloc_toArray (nodes : List Node) (node : Node) :
    Arena.alloc ⟨nodes.toArray⟩ node = (.ofNat nodes.length, ⟨(nodes ++ [node]).toArray⟩) := by
  simp [Arena.alloc, Arena.nextId, Arena.size, Arena.push]

/-- Signs are applied to the tree at the end of an arena. -/
theorem applySigns_layout (front : List Node) (signs : List (UnaryOp × Span)) (t : SpanTree) :
    applySigns signs (t.rootAt front.length) ⟨(front ++ t.layout front.length).toArray⟩ =
      ((SpanTree.signed signs t).rootAt front.length,
        ⟨(front ++ (SpanTree.signed signs t).layout front.length).toArray⟩) := by
  induction signs generalizing t with
  | nil => rfl
  | cons sign signs ih =>
    obtain ⟨op, span⟩ := sign
    have hroot : NodeId.ofNat (front ++ t.layout front.length).length =
        (SpanTree.unary op span t).rootAt front.length := by
      simp [SpanTree.rootAt, SpanTree.size]
    have hlayout : front ++ t.layout front.length ++ [⟨.unary op (t.rootAt front.length), span⟩] =
        front ++ (SpanTree.unary op span t).layout front.length := by
      rw [SpanTree.layout, List.append_assoc]
    rw [applySigns, alloc_toArray, hroot, hlayout]
    exact ih (.unary op span t)

/-- What waits for a right operand gets the tree at the end of an arena. -/
theorem applyPending_layout (front : List Node) (pending : Option (Pending SpanTree))
    (t : SpanTree) :
    applyPending (Pending.place front.length pending)
        (t.rootAt (front.length + Pending.size pending))
        ⟨(front ++ (Pending.layout front.length pending ++
          t.layout (front.length + Pending.size pending))).toArray⟩ =
      ((SpanTree.joined pending t).rootAt front.length,
        ⟨(front ++ (SpanTree.joined pending t).layout front.length).toArray⟩) := by
  cases pending with
  | none => rfl
  | some p =>
    obtain ⟨left, op, span⟩ := p
    have hroot : NodeId.ofNat (front ++ (left.layout front.length ++
        t.layout (front.length + left.size))).length =
        (SpanTree.binary op span left t).rootAt front.length := by
      simp [SpanTree.rootAt, SpanTree.size]
    simp only [Pending.place, applyPending, Pending.layout, Pending.size, alloc_toArray, hroot,
      SpanTree.joined, SpanTree.layout, List.append_assoc]

end Parser

/-! ### The parser of a reader -/

namespace Reader

/-- The nodes of all trees of a reader. -/
def nodes (r : Reader) : List Node :=
  match r.operand with
  | none => layoutAll (r.group :: r.outer)
  | some t => layoutAll (r.group :: r.outer) ++ t.layout (totalSize (r.group :: r.outer))

/-- The parser with the trees of a reader in its arena. -/
def parser (r : Reader) (cursor : Cursor) (events : Array Event) : Parser :=
  ⟨cursor, ⟨r.nodes.toArray⟩, r.operand.map (SpanTree.rootAt (totalSize (r.group :: r.outer))),
    r.group.place (totalSize r.outer), placeAll r.outer, events⟩

/-- After an operand nothing is left open in its product. -/
def Tidy (r : Reader) : Prop :=
  ∀ t, r.operand = some t → r.group.product = none ∧ r.group.signs = []

theorem tidy_start : start.Tidy := by
  intro t h
  exact absurd h (by simp [start])

theorem Move.tidy {r r' : Reader} {token : Token} (h : Move r token r') : r'.Tidy := by
  cases h with
  | number | closing => exact fun _ _ => ⟨rfl, rfl⟩
  | _ => exact fun _ h => absurd h (by simp)

/-- A factor at the end of the arena is completed as the reader completes it. -/
theorem completeFactor_place (cursor : Cursor) (events : Array Event) (operand : Option NodeId)
    (group : OpenGroup SpanTree) (outer : List (OpenGroup SpanTree)) (t : SpanTree) :
    Parser.completeFactor
        ⟨cursor, ⟨(layoutAll (group :: outer) ++
          t.layout (totalSize (group :: outer))).toArray⟩, operand,
          group.place (totalSize outer), placeAll outer, events⟩
        (t.rootAt (totalSize (group :: outer))) =
      (completeFactor group outer t).parser cursor events := by
  have hsigns := Parser.applySigns_layout (layoutAll (group :: outer)) group.signs t
  have hproduct := Parser.applyPending_layout
    (layoutAll outer ++ Pending.layout (totalSize outer) group.sum) group.product
    (SpanTree.signed group.signs t)
  have hsize : totalSize (group :: outer) =
      totalSize outer + Pending.size group.sum + Pending.size group.product := by
    rw [totalSize, OpenGroup.size, Nat.add_assoc]
  have hnodes : layoutAll (group :: outer) =
      layoutAll outer ++ Pending.layout (totalSize outer) group.sum ++
        Pending.layout (totalSize outer + Pending.size group.sum) group.product := by
    rw [layoutAll, OpenGroup.layout, List.append_assoc]
  rw [OpenGroup.length_layoutAll] at hsigns
  rw [List.length_append, OpenGroup.length_layoutAll, Pending.length_layout, ← List.append_assoc,
    ← hnodes, ← hsize] at hproduct
  rw [Parser.completeFactor]
  simp only [OpenGroup.place, hsigns, hproduct]
  simp [parser, completeFactor, nodes, layoutAll, totalSize, OpenGroup.layout, OpenGroup.size,
    OpenGroup.place, Pending.layout, Pending.size, Pending.place]

/-- What waits for a right operand in a sum gets the operand at the end of the arena. -/
theorem joinSum_place (sum : Option (Pending SpanTree)) (outer : List (OpenGroup SpanTree))
    (t : SpanTree) :
    Parser.applyPending (Pending.place (totalSize outer) sum)
        (t.rootAt (totalSize (⟨sum, none, []⟩ :: outer)))
        ⟨(layoutAll (⟨sum, none, []⟩ :: outer) ++
          t.layout (totalSize (⟨sum, none, []⟩ :: outer))).toArray⟩ =
      ((SpanTree.joined sum t).rootAt (totalSize outer),
        ⟨(layoutAll outer ++ (SpanTree.joined sum t).layout (totalSize outer)).toArray⟩) := by
  have h := Parser.applyPending_layout (layoutAll outer) sum t
  rw [OpenGroup.length_layoutAll] at h
  rw [layoutAll, OpenGroup.layout, Pending.layout, List.append_nil, List.append_assoc]
  exact h

/-! ### Steps -/

/-- The report that a parenthesis is opened, where the token is one. -/
def announced (events : Array Event) (token : Token) : Array Event :=
  if token.kind = .symbol .openParen then events.push (.groupOpened token.span.start) else events

/-- The parser after a token that leads to `r`, or the error behind it. -/
def stepTo (r : Reader) (cursor : Cursor) (events : Array Event) : Parser.Step :=
  match cursor.advance with
  | .error error => .done (.error (.lex error)) (announced events cursor.current)
  | .ok next =>
    .next (r.parser next ((announced events cursor.current).push (.advanced cursor.current)))

/-- Taking in a token leads to `r` if the change made after it does. -/
theorem take_eq_stepTo {p : Parser} {change : Parser → Parser} {r : Reader}
    {events : Array Event} (hevents : p.events = announced events p.cursor.current)
    (h : ∀ next events, change { p with cursor := next, events } = r.parser next events) :
    p.take change = r.stepTo p.cursor events := by
  rw [Parser.take, stepTo, ← hevents]
  cases p.cursor.advance with
  | error error => rfl
  | ok next => exact congrArg Parser.Step.next (h next _)

section
variable (lexer : Lexer) (events : Array Event) (outer : List (OpenGroup SpanTree)) (span : Span)

theorem step_number (group : OpenGroup SpanTree) (value : Binary64) :
    (parser ⟨none, group, outer⟩ ⟨lexer, ⟨.number value, span⟩⟩ events).step =
      (completeFactor group outer (.literal value span)).stepTo ⟨lexer, ⟨.number value, span⟩⟩
        events := by
  show (parser ⟨none, group, outer⟩ ⟨lexer, ⟨.number value, span⟩⟩ events).take
    (fun q => q.completeNumber value span) = _
  refine take_eq_stepTo rfl fun next events => ?_
  rw [← completeFactor_place next events none]
  simp only [Parser.completeNumber, parser, nodes, Option.map_none, Parser.alloc_toArray,
    OpenGroup.length_layoutAll]
  rfl

theorem step_sign (group : OpenGroup SpanTree) (op : UnaryOp) :
    (parser ⟨none, group, outer⟩ ⟨lexer, ⟨.symbol op.sign, span⟩⟩ events).step =
      stepTo ⟨none, ⟨group.sum, group.product, (op, span) :: group.signs⟩, outer⟩
        ⟨lexer, ⟨.symbol op.sign, span⟩⟩ events := by
  have hstep : (parser ⟨none, group, outer⟩ ⟨lexer, ⟨.symbol op.sign, span⟩⟩ events).step =
      (parser ⟨none, group, outer⟩ ⟨lexer, ⟨.symbol op.sign, span⟩⟩ events).takeSign op := by
    cases op <;> rfl
  rw [hstep, Parser.takeSign]
  exact take_eq_stepTo (by cases op <;> rfl) fun next events => rfl

theorem step_opening (group : OpenGroup SpanTree) :
    (parser ⟨none, group, outer⟩ ⟨lexer, ⟨.symbol .openParen, span⟩⟩ events).step =
      stepTo ⟨none, .empty, group :: outer⟩ ⟨lexer, ⟨.symbol .openParen, span⟩⟩ events := by
  show (parser ⟨none, group, outer⟩ ⟨lexer, ⟨.symbol .openParen, span⟩⟩ events).takeOpen = _
  rw [Parser.takeOpen]
  refine take_eq_stepTo rfl fun next events => ?_
  simp [parser, nodes, layoutAll, totalSize, placeAll, OpenGroup.layout, OpenGroup.place,
    OpenGroup.empty, Pending.layout, Pending.place]

/-- The operand waits as the left one of a product: its nodes stay where they are. -/
theorem step_factorOp (sum : Option (Pending SpanTree)) (t : SpanTree) {op : BinaryOp}
    (hop : op.rank = .product) :
    (parser ⟨some t, ⟨sum, none, []⟩, outer⟩ ⟨lexer, ⟨.symbol op.sign, span⟩⟩ events).step =
      stepTo ⟨none, ⟨sum, some ⟨t, op, span⟩, []⟩, outer⟩ ⟨lexer, ⟨.symbol op.sign, span⟩⟩
        events := by
  have hstep : (parser ⟨some t, ⟨sum, none, []⟩, outer⟩ ⟨lexer, ⟨.symbol op.sign, span⟩⟩
      events).step =
      (parser ⟨some t, ⟨sum, none, []⟩, outer⟩ ⟨lexer, ⟨.symbol op.sign, span⟩⟩
        events).takeFactorOp (t.rootAt (totalSize (⟨sum, none, []⟩ :: outer))) op := by
    cases op <;> simp only [BinaryOp.rank, reduceCtorEq] at hop <;> rfl
  rw [hstep, Parser.takeFactorOp]
  refine take_eq_stepTo (by cases op <;> rfl) fun next events => ?_
  simp [parser, nodes, layoutAll, totalSize, OpenGroup.layout, OpenGroup.place, OpenGroup.size,
    Pending.layout, Pending.place, Pending.size]

/-- The sum before the operator is completed first, and then waits as the left operand. -/
theorem step_termOp (sum : Option (Pending SpanTree)) (t : SpanTree) {op : BinaryOp}
    (hop : op.rank = .sum) :
    (parser ⟨some t, ⟨sum, none, []⟩, outer⟩ ⟨lexer, ⟨.symbol op.sign, span⟩⟩ events).step =
      stepTo ⟨none, ⟨some ⟨.joined sum t, op, span⟩, none, []⟩, outer⟩
        ⟨lexer, ⟨.symbol op.sign, span⟩⟩ events := by
  have hsum := joinSum_place sum outer t
  have hstep : (parser ⟨some t, ⟨sum, none, []⟩, outer⟩ ⟨lexer, ⟨.symbol op.sign, span⟩⟩
      events).step =
      (parser ⟨some t, ⟨sum, none, []⟩, outer⟩ ⟨lexer, ⟨.symbol op.sign, span⟩⟩
        events).takeTermOp (t.rootAt (totalSize (⟨sum, none, []⟩ :: outer))) op := by
    cases op <;> simp only [BinaryOp.rank, reduceCtorEq] at hop <;> rfl
  rw [hstep, Parser.takeTermOp]
  simp only [parser, nodes, OpenGroup.place, hsum]
  refine take_eq_stepTo (by cases op <;> rfl) fun next events => ?_
  simp [parser, nodes, layoutAll, totalSize, OpenGroup.layout, OpenGroup.place, OpenGroup.size,
    Pending.layout, Pending.place, Pending.size]

/-- The sum in the parentheses is completed, and is a factor of the group around them. -/
theorem step_closing (sum : Option (Pending SpanTree)) (t : SpanTree)
    (group : OpenGroup SpanTree) :
    (parser ⟨some t, ⟨sum, none, []⟩, group :: outer⟩ ⟨lexer, ⟨.symbol .closeParen, span⟩⟩
      events).step =
      (completeFactor group outer (.joined sum t)).stepTo ⟨lexer, ⟨.symbol .closeParen, span⟩⟩
        events := by
  have hsum := joinSum_place sum (group :: outer) t
  show Parser.takeClose (parser ⟨some t, ⟨sum, none, []⟩, group :: outer⟩
    ⟨lexer, ⟨.symbol .closeParen, span⟩⟩ events) _ = _
  rw [Parser.takeClose]
  simp only [parser, nodes, OpenGroup.place, placeAll, hsum]
  refine take_eq_stepTo rfl fun next events => ?_
  exact completeFactor_place next events _ group outer (.joined sum t)

end

/-- A token that the reader takes in is taken in by the parser, with the same result. -/
theorem step_of_move {r r' : Reader} {cursor : Cursor} (events : Array Event) (hr : r.Tidy)
    (h : Move r cursor.current r') :
    (r.parser cursor events).step = r'.stepTo cursor events := by
  obtain ⟨lexer, token⟩ := cursor
  dsimp only at h
  cases h with
  | number value span => exact step_number lexer events _ span _ value
  | sign op span => exact step_sign lexer events _ span _ op
  | opening span => exact step_opening lexer events _ span _
  | @factorOp t group outer op hop span =>
    -- After an operand only a sum can be waiting.
    obtain ⟨sum, product, signs⟩ := group
    obtain ⟨rfl, rfl⟩ : product = none ∧ signs = [] := hr t rfl
    exact step_factorOp lexer events outer span sum t hop
  | @termOp t group outer op hop span =>
    obtain ⟨sum, product, signs⟩ := group
    obtain ⟨rfl, rfl⟩ : product = none ∧ signs = [] := hr t rfl
    exact step_termOp lexer events outer span sum t hop
  | @closing t inner group outer span =>
    obtain ⟨sum, product, signs⟩ := inner
    obtain ⟨rfl, rfl⟩ : product = none ∧ signs = [] := hr t rfl
    exact step_closing lexer events outer span sum t group

/-- At the end of the tokens the parser has what the reader has. -/
theorem step_of_result {r : Reader} {t : SpanTree} {cursor : Cursor} (events : Array Event)
    (hr : r.Tidy) (hkind : cursor.current.kind = .endOfInput) (h : r.result? = some t) :
    (r.parser cursor events).step =
      .done (.ok t.expression) (events.push (.parsed t.expression)) := by
  obtain ⟨lexer, ⟨kind, span⟩⟩ := cursor
  obtain ⟨operand, ⟨sum, product, signs⟩, outer⟩ := r
  dsimp only at hkind
  subst hkind
  cases operand with
  | none => exact nomatch h
  | some u =>
    cases outer with
    | cons group outer => exact nomatch h
    | nil =>
      obtain ⟨rfl, rfl⟩ : product = none ∧ signs = [] := hr u rfl
      obtain rfl := Option.some.inj h
      have hsum := joinSum_place sum [] u
      show Parser.finish (parser ⟨some u, ⟨sum, none, []⟩, []⟩ ⟨lexer, ⟨.endOfInput, span⟩⟩ events)
        _ = _
      simp only [Parser.finish, parser, nodes, OpenGroup.place, placeAll, hsum]
      rfl

/-- A token that the reader does not take in is rejected. -/
theorem step_of_reject {r : Reader} {cursor : Cursor} (events : Array Event)
    (h : r.read cursor.current = none)
    (hend : cursor.current.kind = .endOfInput → r.result? = none) :
    (r.parser cursor events).step = .done (.error cursor.unexpected) events := by
  obtain ⟨lexer, ⟨kind, span⟩⟩ := cursor
  obtain ⟨operand, group, outer⟩ := r
  dsimp only at hend
  cases operand with
  | none =>
    cases kind with
    | symbol sign =>
      cases sign with
      | plus | minus | openParen => exact nomatch h
      | _ => rfl
    | number value => exact nomatch h
    | endOfInput => rfl
  | some t =>
    cases kind with
    | symbol sign =>
      cases sign with
      | closeParen =>
        cases outer with
        | nil => rfl
        | cons group' outer => exact nomatch h
      | openParen => rfl
      | _ => exact nomatch h
    | number value => rfl
    | endOfInput =>
      cases outer with
      | nil => exact nomatch hend rfl
      | cons group' outer => rfl

end Reader

/-! ### Runs -/

namespace Lexer

theorem source_of_next {l l' : Lexer} {front : Except LexError Token}
    (h : l.next = some (front, l')) : l'.source = l.source := by
  rw [next] at h
  split at h
  · exact absurd h (by simp)
  · replace h := congrArg Prod.snd (Option.some.inj h)
    simp only [item] at h
    subst h
    split
    · split <;> rfl
    · split <;> rfl

/-- The first item to come is the next one. -/
theorem exists_next_of_items {l : Lexer} {front : Except LexError Token}
    {back : List (Except LexError Token)} (h : l.items = front :: back) :
    ∃ l', l.next = some (front, l') ∧ l'.items = back ∧ l'.source = l.source := by
  rw [items_eq] at h
  cases hnext : l.next with
  | none => simp [hnext] at h
  | some pair =>
    obtain ⟨first, l'⟩ := pair
    simp only [hnext, List.cons.injEq] at h
    obtain ⟨rfl, rfl⟩ := h
    exact ⟨l', rfl, rfl, source_of_next hnext⟩

end Lexer

namespace Cursor

theorem pull_of_items {l : Lexer} {token : Token} {items : List (Except LexError Token)}
    (h : l.items = .ok token :: items) :
    ∃ l', pull l = .ok ⟨l', token⟩ ∧ l'.items = items ∧ l'.source = l.source := by
  obtain ⟨l', hnext, hitems, hsource⟩ := Lexer.exists_next_of_items h
  exact ⟨l', by rw [pull, hnext], hitems, hsource⟩

theorem pull_of_error {l : Lexer} {error : LexError} {items : List (Except LexError Token)}
    (h : l.items = .error error :: items) : pull l = .error error := by
  obtain ⟨l', hnext, -⟩ := Lexer.exists_next_of_items h
  rw [pull, hnext]

end Cursor

namespace Parser

theorem run_of_next {p q : Parser} (h : p.step = .next q) : p.run = q.run := by
  rw [run]
  split
  · rename_i h'
    rw [Step.next.inj (h.symm.trans h')]
  · rename_i h'
    exact absurd (h.symm.trans h') (by simp)

theorem run_of_done {p : Parser} {result : Except ParseError Expression} {events : Array Event}
    (h : p.step = .done result events) : p.run = (result, events) := by
  rw [run]
  split
  · rename_i h'
    exact absurd (h.symm.trans h') (by simp)
  · rename_i h'
    obtain ⟨rfl, rfl⟩ := Step.done.inj (h.symm.trans h')
    rfl

end Parser

/-- The text of a token, taken from the source by its place. -/
def Token.textIn (source : String) (token : Token) : Option (List Char) :=
  Text.slice? source.toList token.span.start.toNat token.span.stop.toNat

theorem Cursor.unexpected_of_kind {c : Cursor} (h : c.current.kind ≠ .endOfInput) :
    c.unexpected = .unexpectedToken
      (String.ofList ((c.current.textIn c.lexer.source).getD [])) c.current.span := by
  rw [unexpected]
  cases hkind : c.current.kind <;> first | exact absurd hkind h | rfl

namespace Reader

/-- What a reader makes of tokens and of the item after them. -/
def verdict (source : String) (last : Except LexError Token) (r : Reader) :
    List Token → Except ParseError Expression
  | [] =>
    match last, r.result? with
    | .error error, _ => .error (.lex error)
    | .ok _, some t => .ok t.expression
    | .ok token, none => .error (.unexpectedEnd token.span.start)
  | token :: tokens =>
    match r.read token with
    | some r' => verdict source last r' tokens
    | none =>
      .error (.unexpectedToken (String.ofList ((token.textIn source).getD [])) token.span)

/-- What is reported on the way.  A token is reported when the item after it is known to be no
error. -/
def report (last : Except LexError Token) (r : Reader) : List Token → List Event
  | [] =>
    match last, r.result? with
    | .ok _, some t => [.parsed t.expression]
    | _, _ => []
  | token :: tokens =>
    match r.read token with
    | some r' =>
      (announced #[] token).toList ++
        match tokens, last with
        | [], .error _ => []
        | _, _ => .advanced token :: report last r' tokens
    | none => []

theorem report_of_ok {last : Except LexError Token} {r r' : Reader} {token next : Token}
    {tokens : List Token} {back : List (Except LexError Token)} (hread : r.read token = some r')
    (h : tokens.map .ok ++ [last] = .ok next :: back) :
    r.report last (token :: tokens) =
      (announced #[] token).toList ++ .advanced token :: r'.report last tokens := by
  rw [report, hread]
  cases tokens with
  | cons => rfl
  | nil =>
    obtain rfl := (List.cons.inj h).1
    rfl

theorem toList_announced (events : Array Event) (token : Token) :
    (announced events token).toList = events.toList ++ (announced #[] token).toList := by
  rw [announced, announced]
  split <;> simp

section
variable {source : String} {last : Except LexError Token} {tokens : List Token} {r r' : Reader}
  {cursor : Cursor}

/-- At the end token a run ends, with the result of the reader if there is one. -/
theorem run_at_end (hr : r.Tidy) (hkind : cursor.current.kind = .endOfInput)
    (events : Array Event) :
    (r.parser cursor events).run.1 = r.verdict source (.ok cursor.current) [] ∧
      (r.parser cursor events).run.2.toList =
        events.toList ++ r.report (.ok cursor.current) [] := by
  cases hresult : r.result? with
  | some t =>
    rw [Parser.run_of_done (step_of_result events hr hkind hresult)]
    simp [verdict, report, hresult]
  | none =>
    have hread : r.read cursor.current = none := by
      obtain ⟨lexer, ⟨kind, span⟩⟩ := cursor
      obtain rfl : kind = .endOfInput := hkind
      obtain ⟨operand, group, outer⟩ := r
      cases operand <;> rfl
    rw [Parser.run_of_done (step_of_reject events hread fun _ => hresult)]
    simp [verdict, report, hresult, Cursor.unexpected, hkind]

/-- At a token that does not fit a run ends. -/
theorem run_at_reject (hsource : cursor.lexer.source = source)
    (hkind : cursor.current.kind ≠ .endOfInput) (hread : r.read cursor.current = none)
    (events : Array Event) :
    (r.parser cursor events).run.1 = r.verdict source last (cursor.current :: tokens) ∧
      (r.parser cursor events).run.2.toList =
        events.toList ++ r.report last (cursor.current :: tokens) := by
  rw [Parser.run_of_done (step_of_reject events hread fun h => absurd h hkind)]
  simp [verdict, report, hread, Cursor.unexpected_of_kind hkind, hsource]

/-- A token that fits is taken in, but an error behind it ends the run. -/
theorem run_at_error {error : LexError} {items : List (Except LexError Token)} (hr : r.Tidy)
    (hkind : cursor.current.kind ≠ .endOfInput) (hread : r.read cursor.current = some r')
    (hitems : cursor.lexer.items = .error error :: items) (events : Array Event) :
    (r.parser cursor events).run.1 = r.verdict source (.error error) [cursor.current] ∧
      (r.parser cursor events).run.2.toList =
        events.toList ++ r.report (.error error) [cursor.current] := by
  have hstep := step_of_move events hr (read_eq_some_iff.1 hread)
  rw [stepTo, Cursor.advance, if_neg hkind, Cursor.pull_of_error hitems] at hstep
  rw [Parser.run_of_done hstep, toList_announced]
  simp [verdict, report, hread]

/-- After a token that fits a run goes on with the next one. -/
theorem run_at_token {next : Token} {items : List (Except LexError Token)} (hr : r.Tidy)
    (hkind : cursor.current.kind ≠ .endOfInput) (hread : r.read cursor.current = some r')
    (hitems : cursor.lexer.items = .ok next :: items) (events : Array Event) :
    ∃ lexer, lexer.items = items ∧ lexer.source = cursor.lexer.source ∧
      (r.parser cursor events).run =
        (r'.parser ⟨lexer, next⟩
          ((announced events cursor.current).push (.advanced cursor.current))).run := by
  obtain ⟨lexer, hpull, hlexer, hsource⟩ := Cursor.pull_of_items hitems
  have hstep := step_of_move events hr (read_eq_some_iff.1 hread)
  rw [stepTo, Cursor.advance, if_neg hkind, hpull] at hstep
  exact ⟨lexer, hlexer, hsource, Parser.run_of_next hstep⟩

/-- A run of the parser gives the verdict of the reader, and reports what there is to report. -/
theorem run_eq_verdict (hlast : ∀ token, last = .ok token → token.kind = .endOfInput)
    (htokens : ∀ token ∈ tokens, token.kind ≠ .endOfInput) (hr : r.Tidy)
    (hsource : cursor.lexer.source = source)
    (hitems : .ok cursor.current :: cursor.lexer.items = tokens.map .ok ++ [last])
    (events : Array Event) :
    (r.parser cursor events).run.1 = r.verdict source last tokens ∧
      (r.parser cursor events).run.2.toList = events.toList ++ r.report last tokens := by
  -- By the tokens still to come; the lexer gives them one at a time, one ahead of the parser.
  induction tokens generalizing r cursor events with
  | nil =>
    obtain ⟨rfl, -⟩ := List.cons.inj hitems
    exact run_at_end hr (hlast _ rfl) events
  | cons token tokens ih =>
    obtain ⟨htoken, hback⟩ := List.cons.inj hitems
    obtain rfl := Except.ok.inj htoken
    replace hback : cursor.lexer.items = tokens.map .ok ++ [last] := hback
    have hkind := htokens cursor.current (by simp)
    cases hread : r.read cursor.current with
    | none => exact run_at_reject hsource hkind hread events
    | some r' =>
      cases hnext : tokens.map Except.ok ++ [last] with
      | nil => exact absurd hnext (by simp)
      | cons front back =>
        rw [hnext] at hback
        cases front with
        | error error =>
          -- Only the last item can be an error.
          obtain ⟨rfl, rfl⟩ : tokens = [] ∧ last = .error error := by
            cases tokens with
            | nil => exact ⟨rfl, (List.cons.inj hnext).1⟩
            | cons _ _ => exact absurd hnext (by simp)
          exact run_at_error hr hkind hread hback events
        | ok token =>
          obtain ⟨lexer, hlexer, hsource', hrun⟩ := run_at_token hr hkind hread hback events
          let next : Cursor := ⟨lexer, token⟩
          have hitems' : .ok next.current :: next.lexer.items = tokens.map .ok ++ [last] := by
            rw [hlexer, hnext]
          obtain ⟨hverdict, hreport⟩ := ih (fun t ht => htokens t (by simp [ht]))
            (read_eq_some_iff.1 hread).tidy (hsource'.trans hsource) hitems'
            ((announced events cursor.current).push (.advanced cursor.current))
          rw [hrun]
          refine ⟨by rw [hverdict, verdict, hread], ?_⟩
          rw [hreport, Array.toList_push, toList_announced, report_of_ok hread hnext]
          simp

end

end Reader

end Reckon
