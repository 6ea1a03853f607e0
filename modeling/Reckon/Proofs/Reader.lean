/-
Reading tokens into trees.

A `Reader` goes through the same states as a parser, but an operand is a whole tree and there
is neither arena nor lexer: `read` takes in one token, and `result?` is the expression when the
tokens end.  It reads exactly what the grammar derives:

* `takes_of_derives`: whatever is derived on a rank is taken in there, whatever is open around
  it;
* `Holds.move`: what has been read at any time is what the open groups and the operand stand
  for;
* `readAll_eq_some_iff`: the tokens have a result if and only if they make up a sum, and then
  it is that sum;
* `Derives.unique`: no tokens make up two expressions.
-/
import Reckon.Expr.Parser
import Reckon.Proofs.Grammar

namespace Reckon

/-- The state of reading tokens into trees. -/
structure Reader where
  /-- The operand that was read last; none where one is needed. -/
  operand : Option SpanTree
  /-- The innermost open group. -/
  group : OpenGroup SpanTree
  /-- The groups around it, the innermost first. -/
  outer : List (OpenGroup SpanTree)

namespace SpanTree

/-- An operand with signs applied to it, the first of the list first. -/
def signed : List (UnaryOp × Span) → SpanTree → SpanTree
  | [], t => t
  | (op, span) :: signs, t => signed signs (.unary op span t)

/-- An operand, or the operation that waits for it as its right one. -/
def joined : Option (Pending SpanTree) → SpanTree → SpanTree
  | none, t => t
  | some ⟨left, op, span⟩, t => .binary op span left t

end SpanTree

namespace Reader

/-- Nothing has been read. -/
def start : Reader := ⟨none, .empty, []⟩

/-- A factor has been read, but for the signs before it. -/
def completeFactor (group : OpenGroup SpanTree) (outer : List (OpenGroup SpanTree))
    (t : SpanTree) : Reader :=
  ⟨some (.joined group.product (.signed group.signs t)), ⟨group.sum, none, []⟩, outer⟩

/-- Takes in a sign before a factor. -/
def takeSign (r : Reader) (op : UnaryOp) (span : Span) : Reader :=
  { r with group := { r.group with signs := (op, span) :: r.group.signs } }

/-- Takes in an operator of a product. -/
def takeFactorOp (r : Reader) (left : SpanTree) (op : BinaryOp) (span : Span) : Reader :=
  { r with operand := none, group := { r.group with product := some ⟨left, op, span⟩ } }

/-- Takes in an operator of a sum. -/
def takeTermOp (r : Reader) (operand : SpanTree) (op : BinaryOp) (span : Span) : Reader :=
  { r with
    operand := none
    group := { r.group with sum := some ⟨.joined r.group.sum operand, op, span⟩ } }

/-- Takes in a token; none if it does not fit. -/
def read (r : Reader) (token : Token) : Option Reader :=
  match r.operand, token.kind with
  | none, .number value => some (completeFactor r.group r.outer (.literal value token.span))
  | none, .symbol .minus => some (r.takeSign .neg token.span)
  | none, .symbol .plus => some (r.takeSign .plus token.span)
  | none, .symbol .openParen => some ⟨none, .empty, r.group :: r.outer⟩
  | none, _ => none
  | some operand, .symbol .star => some (r.takeFactorOp operand .mul token.span)
  | some operand, .symbol .slash => some (r.takeFactorOp operand .div token.span)
  | some operand, .symbol .plus => some (r.takeTermOp operand .add token.span)
  | some operand, .symbol .minus => some (r.takeTermOp operand .sub token.span)
  | some operand, .symbol .closeParen =>
    match r.outer with
    | [] => none
    | group :: outer => some (completeFactor group outer (.joined r.group.sum operand))
  | some _, _ => none

/-- The expression that has been read, if the tokens may end here. -/
def result? (r : Reader) : Option SpanTree :=
  match r.operand, r.outer with
  | some operand, [] => some (.joined r.group.sum operand)
  | _, _ => none

/-- Takes in one token after another. -/
def readTokens (r : Reader) (tokens : List Token) : Option Reader := tokens.foldlM read r

/-- The expression that the tokens make up. -/
def readAll (tokens : List Token) : Option SpanTree := (start.readTokens tokens).bind result?

theorem readTokens_append (r : Reader) (front back : List Token) :
    r.readTokens (front ++ back) = (r.readTokens front).bind (readTokens · back) :=
  List.foldlM_append

theorem readTokens_cons (r : Reader) (token : Token) (tokens : List Token) :
    r.readTokens (token :: tokens) = (r.read token).bind (readTokens · tokens) :=
  List.foldlM_cons

theorem readTokens_nil (r : Reader) : r.readTokens [] = some r := rfl

/-! ### What one token does -/

/-- One token is taken in.  Where an operand is needed that is a number, a sign or an opening
parenthesis, and after an operand it is an operator or the end of an open group. -/
inductive Move : Reader → Token → Reader → Prop where
  | number {group : OpenGroup SpanTree} {outer : List (OpenGroup SpanTree)} (value : Binary64)
      (span : Span) :
      Move ⟨none, group, outer⟩ ⟨.number value, span⟩
        (completeFactor group outer (.literal value span))
  | sign {group : OpenGroup SpanTree} {outer : List (OpenGroup SpanTree)} (op : UnaryOp)
      (span : Span) :
      Move ⟨none, group, outer⟩ ⟨.symbol op.sign, span⟩
        ⟨none, ⟨group.sum, group.product, (op, span) :: group.signs⟩, outer⟩
  | opening {group : OpenGroup SpanTree} {outer : List (OpenGroup SpanTree)} (span : Span) :
      Move ⟨none, group, outer⟩ ⟨.symbol .openParen, span⟩ ⟨none, .empty, group :: outer⟩
  | factorOp {t : SpanTree} {group : OpenGroup SpanTree} {outer : List (OpenGroup SpanTree)}
      (op : BinaryOp) (hop : op.rank = .product) (span : Span) :
      Move ⟨some t, group, outer⟩ ⟨.symbol op.sign, span⟩
        ⟨none, ⟨group.sum, some ⟨t, op, span⟩, group.signs⟩, outer⟩
  | termOp {t : SpanTree} {group : OpenGroup SpanTree} {outer : List (OpenGroup SpanTree)}
      (op : BinaryOp) (hop : op.rank = .sum) (span : Span) :
      Move ⟨some t, group, outer⟩ ⟨.symbol op.sign, span⟩
        ⟨none, ⟨some ⟨.joined group.sum t, op, span⟩, group.product, group.signs⟩, outer⟩
  | closing {t : SpanTree} {inner group : OpenGroup SpanTree}
      {outer : List (OpenGroup SpanTree)} (span : Span) :
      Move ⟨some t, inner, group :: outer⟩ ⟨.symbol .closeParen, span⟩
        (completeFactor group outer (.joined inner.sum t))

theorem Move.read {r r' : Reader} {token : Token} (h : Move r token r') :
    r.read token = some r' := by
  cases h with
  | number value span => rfl
  | sign op span => cases op <;> rfl
  | opening span => rfl
  | factorOp op hop span =>
    cases op <;> simp only [BinaryOp.rank, reduceCtorEq] at hop <;> rfl
  | termOp op hop span =>
    cases op <;> simp only [BinaryOp.rank, reduceCtorEq] at hop <;> rfl
  | closing span => rfl

theorem read_eq_some_iff {r r' : Reader} {token : Token} :
    r.read token = some r' ↔ Move r token r' := by
  refine ⟨fun h => ?_, Move.read⟩
  obtain ⟨operand, group, outer⟩ := r
  obtain ⟨kind, span⟩ := token
  cases operand with
  | none =>
    cases kind with
    | number value => exact Option.some.inj h ▸ .number value span
    | symbol sign =>
      cases sign with
      | minus => exact Option.some.inj h ▸ .sign .neg span
      | plus => exact Option.some.inj h ▸ .sign .plus span
      | openParen => exact Option.some.inj h ▸ .opening span
      | _ => exact nomatch h
    | endOfInput => exact nomatch h
  | some t =>
    cases kind with
    | symbol sign =>
      cases sign with
      | star => exact Option.some.inj h ▸ .factorOp .mul rfl span
      | slash => exact Option.some.inj h ▸ .factorOp .div rfl span
      | plus => exact Option.some.inj h ▸ .termOp .add rfl span
      | minus => exact Option.some.inj h ▸ .termOp .sub rfl span
      | closeParen =>
        cases outer with
        | nil => exact nomatch h
        | cons group' outer => exact Option.some.inj h ▸ .closing span
      | openParen => exact nomatch h
    | _ => exact nomatch h

/-! ### What is derived is taken in -/

/-- What a reader makes of tokens that make up the expression `t` on a rank, whatever is open
around them. -/
def Takes : Rank → List Token → Tree → Prop
  | .factor, tokens, t => ∀ group outer, ∃ u : SpanTree, u.tree = t ∧
      readTokens ⟨none, group, outer⟩ tokens = some (completeFactor group outer u)
  | .product, tokens, t => ∀ sum outer, ∃ u : SpanTree, u.tree = t ∧
      readTokens ⟨none, ⟨sum, none, []⟩, outer⟩ tokens = some ⟨some u, ⟨sum, none, []⟩, outer⟩
  | .sum, tokens, t => ∀ outer, ∃ sum, ∃ u : SpanTree, (SpanTree.joined sum u).tree = t ∧
      readTokens ⟨none, .empty, outer⟩ tokens = some ⟨some u, ⟨sum, none, []⟩, outer⟩

/-- Where the kinds of tokens split at an operator, the tokens do. -/
theorem exists_split_of_map_kind {tokens : List Token} {kinds kinds' : List TokenKind}
    {kind : TokenKind} (h : tokens.map Token.kind = kinds ++ kind :: kinds') :
    ∃ front span back, tokens = front ++ ⟨kind, span⟩ :: back ∧ front.map Token.kind = kinds ∧
      back.map Token.kind = kinds' := by
  obtain ⟨front, rest, rfl, hfront, hrest⟩ := List.map_eq_append_iff.1 h
  obtain ⟨⟨_, span⟩, back, rfl, rfl, hback⟩ := List.map_eq_cons_iff.1 hrest
  exact ⟨front, span, back, rfl, hfront, hback⟩

theorem takes_of_derives {rank : Rank} {kinds : List TokenKind} {t : Tree}
    (h : Derives rank kinds t) :
    ∀ {tokens : List Token}, tokens.map Token.kind = kinds → Takes rank tokens t := by
  -- On the derivation.  A chain grows at its right end, so that the operand on the left is complete
  -- when its operator is read.
  induction h with
  | number value =>
    intro tokens hkinds group outer
    obtain ⟨⟨_, span⟩, rfl, rfl⟩ := List.map_eq_singleton_iff.1 hkinds
    exact ⟨.literal value span, rfl, rfl⟩
  | prefixed op _ ih =>
    intro tokens hkinds group outer
    obtain ⟨⟨_, span⟩, rest, rfl, rfl, hrest⟩ := List.map_eq_cons_iff.1 hkinds
    obtain ⟨u, hu, hread⟩ := ih hrest ⟨group.sum, group.product, (op, span) :: group.signs⟩ outer
    refine ⟨.unary op span u, by rw [SpanTree.tree, hu], ?_⟩
    rw [readTokens_cons, (Move.sign op span).read, Option.bind_some, hread]
    rfl
  | group _ ih =>
    intro tokens hkinds group outer
    obtain ⟨⟨_, opening⟩, rest, rfl, rfl, hrest⟩ := List.map_eq_cons_iff.1 hkinds
    obtain ⟨inside, back, rfl, hinside, hback⟩ := List.map_eq_append_iff.1 hrest
    obtain ⟨⟨_, closing⟩, rfl, rfl⟩ := List.map_eq_singleton_iff.1 hback
    -- What is open outside waits while the sum inside is read.
    obtain ⟨sum, u, hu, hread⟩ := ih hinside (group :: outer)
    refine ⟨.joined sum u, hu, ?_⟩
    rw [readTokens_cons, (Move.opening opening).read, Option.bind_some, readTokens_append, hread,
      Option.bind_some, readTokens_cons, (Move.closing closing).read]
    rfl
  | productOfFactor _ ih =>
    intro tokens hkinds sum outer
    exact ih hkinds ⟨sum, none, []⟩ outer
  | productChain op hop _ _ iht ihu =>
    intro tokens hkinds sum outer
    obtain ⟨front, span, back, rfl, hfront, hback⟩ := exists_split_of_map_kind hkinds
    obtain ⟨t', ht', hreadt⟩ := iht hfront sum outer
    obtain ⟨u', hu', hreadu⟩ := ihu hback ⟨sum, some ⟨t', op, span⟩, []⟩ outer
    refine ⟨.binary op span t' u', by rw [SpanTree.tree, ht', hu'], ?_⟩
    rw [readTokens_append, hreadt, Option.bind_some, readTokens_cons,
      (Move.factorOp op hop span).read, Option.bind_some, hreadu]
    rfl
  | sumOfProduct _ ih =>
    intro tokens hkinds outer
    exact ⟨none, ih hkinds none outer⟩
  | sumChain op hop _ _ iht ihu =>
    intro tokens hkinds outer
    obtain ⟨front, span, back, rfl, hfront, hback⟩ := exists_split_of_map_kind hkinds
    obtain ⟨sum, t', ht', hreadt⟩ := iht hfront outer
    obtain ⟨u', hu', hreadu⟩ := ihu hback (some ⟨.joined sum t', op, span⟩) outer
    refine ⟨some ⟨.joined sum t', op, span⟩, u', by
      rw [SpanTree.joined, SpanTree.tree, ht', hu'], ?_⟩
    rw [readTokens_append, hreadt, Option.bind_some, readTokens_cons,
      (Move.termOp op hop span).read, Option.bind_some, hreadu]

/-- Tokens whose kinds are derived have a result, with the tree of the derivation. -/
theorem exists_readAll_of_derives {tokens : List Token} {t : Tree}
    (h : Derives .sum (tokens.map Token.kind) t) :
    ∃ u : SpanTree, u.tree = t ∧ readAll tokens = some u := by
  obtain ⟨sum, u, hu, hread⟩ := takes_of_derives h rfl []
  refine ⟨.joined sum u, hu, ?_⟩
  rw [readAll, start, hread]
  rfl

/-! ### What is taken in is derived -/

end Reader

/-- The tokens of what is open inside one pair of parentheses, where an operand is needed: a sum
and its operator, a product and its operator, signs. -/
inductive OpenGroup.Reads : OpenGroup SpanTree → List Token → Prop where
  | empty : Reads .empty []
  | sum {tokens : List Token} {t : SpanTree} {op : BinaryOp} (span : Span)
      (hop : op.rank = .sum) (h : Rank.sum.Reads tokens t) :
      Reads ⟨some ⟨t, op, span⟩, none, []⟩ (tokens ++ [⟨.symbol op.sign, span⟩])
  | product {front back : List Token} {sum : Option (Pending SpanTree)} {t : SpanTree}
      {op : BinaryOp} (span : Span) (hop : op.rank = .product)
      (hgroup : Reads ⟨sum, none, []⟩ front) (h : Rank.product.Reads back t) :
      Reads ⟨sum, some ⟨t, op, span⟩, []⟩ (front ++ (back ++ [⟨.symbol op.sign, span⟩]))
  | sign {tokens : List Token} {sum product : Option (Pending SpanTree)}
      {signs : List (UnaryOp × Span)} (op : UnaryOp) (span : Span)
      (h : Reads ⟨sum, product, signs⟩ tokens) :
      Reads ⟨sum, product, (op, span) :: signs⟩ (tokens ++ [⟨.symbol op.sign, span⟩])

/-- The tokens of open groups, each up to the parenthesis that opens the next one. -/
inductive OpenGroup.Surround : List (OpenGroup SpanTree) → List Token → Prop where
  | none : Surround [] []
  | enter {front back : List Token} {group : OpenGroup SpanTree}
      {outer : List (OpenGroup SpanTree)} {opening : Token} (houter : Surround outer front)
      (hgroup : Reads group back) (hopening : opening.kind = .symbol .openParen) :
      Surround (group :: outer) (front ++ (back ++ [opening]))

namespace OpenGroup

/-- A factor after an open group completes the product there. -/
theorem Reads.completeFactor {group : OpenGroup SpanTree} {tokens back : List Token}
    {t : SpanTree} (h : group.Reads tokens) (ht : Rank.factor.Reads back t) :
    ∃ front back', tokens ++ back = front ++ back' ∧ Reads ⟨group.sum, .none, []⟩ front ∧
      Rank.product.Reads back' (.joined group.product (.signed group.signs t)) := by
  induction h generalizing back t with
  | empty => exact ⟨[], back, rfl, .empty, ht.productOfFactor⟩
  | sum span hop h => exact ⟨_, back, rfl, .sum span hop h, ht.productOfFactor⟩
  | @product front _ _ _ op span hop hgroup h =>
    refine ⟨front, _, ?_, hgroup, .productChain hop span h ht⟩
    simp only [List.append_assoc, List.singleton_append]
  | sign op span h ih =>
    obtain ⟨front, back', htokens, hfront, hback⟩ := ih (ht.prefixed op span)
    refine ⟨front, back', ?_, hfront, hback⟩
    rw [List.append_assoc, List.singleton_append, htokens]

/-- A product after an open group completes the sum there. -/
theorem Reads.completeSum {sum : Option (Pending SpanTree)} {tokens back : List Token}
    {t : SpanTree} (h : Reads ⟨sum, .none, []⟩ tokens) (ht : Rank.product.Reads back t) :
    Rank.sum.Reads (tokens ++ back) (.joined sum t) := by
  cases h with
  | empty => exact ht.sumOfProduct
  | sum span hop h =>
    rw [List.append_assoc, List.singleton_append]
    exact .sumChain hop span h ht

end OpenGroup

namespace Reader

/-- The reader stands after the tokens. -/
inductive Holds : Reader → List Token → Prop where
  | needs {group : OpenGroup SpanTree} {outer : List (OpenGroup SpanTree)}
      {front back : List Token} (houter : OpenGroup.Surround outer front)
      (hgroup : OpenGroup.Reads group back) : Holds ⟨none, group, outer⟩ (front ++ back)
  | has {sum : Option (Pending SpanTree)} {t : SpanTree} {outer : List (OpenGroup SpanTree)}
      {front middle back : List Token} (houter : OpenGroup.Surround outer front)
      (hgroup : OpenGroup.Reads ⟨sum, none, []⟩ middle) (ht : Rank.product.Reads back t) :
      Holds ⟨some t, ⟨sum, none, []⟩, outer⟩ (front ++ (middle ++ back))

theorem holds_start : Holds start [] := .needs .none .empty

theorem holds_completeFactor {group : OpenGroup SpanTree} {outer : List (OpenGroup SpanTree)}
    {front tokens back : List Token} {t : SpanTree} (houter : OpenGroup.Surround outer front)
    (hgroup : OpenGroup.Reads group tokens) (ht : Rank.factor.Reads back t) :
    Holds (completeFactor group outer t) (front ++ (tokens ++ back)) := by
  obtain ⟨middle, back', htokens, hmiddle, hback⟩ := hgroup.completeFactor ht
  rw [htokens]
  exact .has houter hmiddle hback

/-- What has been read stays accounted for as tokens are taken in. -/
theorem Holds.move {r r' : Reader} {tokens : List Token} {token : Token} (h : Holds r tokens)
    (hmove : Move r token r') : Holds r' (tokens ++ [token]) := by
  cases h with
  | needs houter hgroup =>
    -- A number completes a factor, and with it the product that waits for it.
    rw [List.append_assoc]
    cases hmove with
    | number value span => exact holds_completeFactor houter hgroup (.number value span)
    | sign op span => exact .needs houter (.sign op span hgroup)
    | opening span => simpa using Holds.needs (.enter houter hgroup rfl) .empty
  | has houter hgroup ht =>
    rw [List.append_assoc]
    cases hmove with
    | factorOp op hop span =>
      rw [List.append_assoc]
      exact .needs houter (.product span hop hgroup ht)
    | termOp op hop span => exact .needs houter (.sum span hop (hgroup.completeSum ht))
    | closing span =>
      -- The parenthesis that opened the group is the last token outside.
      cases houter with
      | enter houter hgroup' hopening =>
        have hclosing : (⟨.symbol .closeParen, span⟩ : Token).kind = .symbol .closeParen := rfl
        have hfactor := (hgroup.completeSum ht).group hopening hclosing
        simpa using holds_completeFactor houter hgroup' hfactor

theorem Holds.readTokens {r r' : Reader} {tokens back : List Token} (h : Holds r tokens)
    (hread : r.readTokens back = some r') : Holds r' (tokens ++ back) := by
  induction back generalizing r tokens with
  | nil =>
    rw [readTokens_nil, Option.some_inj] at hread
    subst hread
    simpa using h
  | cons token back ih =>
    rw [readTokens_cons, Option.bind_eq_some_iff] at hread
    obtain ⟨r₁, hr₁, hread⟩ := hread
    simpa using ih (h.move (read_eq_some_iff.1 hr₁)) hread

/-- A result is the sum that all tokens make up. -/
theorem reads_of_readAll {tokens : List Token} {t : SpanTree} (h : readAll tokens = some t) :
    Rank.sum.Reads tokens t := by
  obtain ⟨r, hread, hresult⟩ := Option.bind_eq_some_iff.1 h
  -- A result needs an operand, and no open group around it.
  have hr : Holds r tokens := by simpa using holds_start.readTokens hread
  cases hr with
  | needs houter hgroup => simp [result?] at hresult
  | has houter hgroup ht =>
    cases houter with
    | none =>
      simp only [result?, Option.some_inj] at hresult
      subst hresult
      exact hgroup.completeSum ht
    | enter houter hgroup hopening => simp [result?] at hresult

theorem readAll_eq_some_iff {tokens : List Token} {t : SpanTree} :
    readAll tokens = some t ↔ Rank.sum.Reads tokens t := by
  refine ⟨reads_of_readAll, fun h => ?_⟩
  obtain ⟨u, hu, hread⟩ := exists_readAll_of_derives h.derives
  rw [hread,
    SpanTree.eq_of_tree_of_inOrder hu ((reads_of_readAll hread).inOrder.trans h.inOrder.symm)]

end Reader

/-- The grammar is not ambiguous: tokens make up at most one sum. -/
theorem Derives.unique {kinds : List TokenKind} {t u : Tree} (ht : Derives .sum kinds t)
    (hu : Derives .sum kinds u) : t = u := by
  -- Any places will do: the reader goes by the kinds of tokens alone.
  have hkinds : (kinds.map fun kind => (⟨kind, default⟩ : Token)).map Token.kind = kinds := by
    rw [List.map_map]
    exact List.map_id kinds
  rw [← hkinds] at ht hu
  obtain ⟨t', rfl, ht'⟩ := Reader.exists_readAll_of_derives ht
  obtain ⟨u', rfl, hu'⟩ := Reader.exists_readAll_of_derives hu
  rw [Option.some_inj.1 (ht'.symm.trans hu')]

end Reckon
