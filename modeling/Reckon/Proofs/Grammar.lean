/-
The grammar of expressions.

`Derives rank kinds t` says that tokens of the given kinds make up the expression `t` on one of
the three ranks:

    sum     := product (('+' | '-') product)*
    product := factor (('*' | '/') factor)*
    factor  := ('+' | '-') factor | number | '(' sum ')'

A chain of operators is built up from the left, one operand at a time: what stands before the last
operator of the chain is its left operand.  A group is the expression inside it.

The trees of the grammar have no places.  A `SpanTree` has them: it is what reading a text gives.

* `Rank.Reads.prefixed`, `group`, `sumChain`: the rules of the grammar on trees with places;
* `SpanTree.eq_of_tree_of_inOrder`: a tree with places is known by its tree and by its tokens
  from left to right.
-/
import Reckon.Operator
import Reckon.Token.Basic

namespace Reckon

/-- An expression, without the places of its parts. -/
inductive Tree where
  | literal (value : Binary64)
  | unary (op : UnaryOp) (operand : Tree)
  | binary (op : BinaryOp) (left right : Tree)
  deriving DecidableEq

/-- The ranks of the grammar, the one that binds least first. -/
inductive Rank where
  | sum
  | product
  | factor
  deriving DecidableEq

/-- The token of a binary operator. -/
def BinaryOp.sign : BinaryOp → Symbol
  | add => .plus
  | sub => .minus
  | mul => .star
  | div => .slash

/-- The rank whose chains a binary operator makes. -/
def BinaryOp.rank : BinaryOp → Rank
  | add | sub => .sum
  | mul | div => .product

/-- The token of a unary operator. -/
def UnaryOp.sign : UnaryOp → Symbol
  | neg => .minus
  | plus => .plus

/-- Tokens of these kinds make up the expression, on a rank of the grammar. -/
inductive Derives : Rank → List TokenKind → Tree → Prop where
  | number (value : Binary64) : Derives .factor [.number value] (.literal value)
  | prefixed {ks : List TokenKind} {t : Tree} (op : UnaryOp) (h : Derives .factor ks t) :
      Derives .factor (.symbol op.sign :: ks) (.unary op t)
  | group {ks : List TokenKind} {t : Tree} (h : Derives .sum ks t) :
      Derives .factor (.symbol .openParen :: (ks ++ [.symbol .closeParen])) t
  | productOfFactor {ks : List TokenKind} {t : Tree} (h : Derives .factor ks t) :
      Derives .product ks t
  | productChain {ks ls : List TokenKind} {t u : Tree} (op : BinaryOp) (hop : op.rank = .product)
      (ht : Derives .product ks t) (hu : Derives .factor ls u) :
      Derives .product (ks ++ .symbol op.sign :: ls) (.binary op t u)
  | sumOfProduct {ks : List TokenKind} {t : Tree} (h : Derives .product ks t) :
      Derives .sum ks t
  | sumChain {ks ls : List TokenKind} {t u : Tree} (op : BinaryOp) (hop : op.rank = .sum)
      (ht : Derives .sum ks t) (hu : Derives .product ls u) :
      Derives .sum (ks ++ .symbol op.sign :: ls) (.binary op t u)

/-! ### Trees with places -/

/-- An expression with the place of each literal and of each operator. -/
inductive SpanTree where
  | literal (value : Binary64) (span : Span)
  | unary (op : UnaryOp) (span : Span) (operand : SpanTree)
  | binary (op : BinaryOp) (span : Span) (left right : SpanTree)
  deriving DecidableEq

/-- Whether a token is a parenthesis, of either kind. -/
def Token.isParen (token : Token) : Bool :=
  token.kind == .symbol .openParen || token.kind == .symbol .closeParen

namespace SpanTree

/-- The expression without its places. -/
def tree : SpanTree → Tree
  | literal value _ => .literal value
  | unary op _ t => .unary op t.tree
  | binary op _ t u => .binary op t.tree u.tree

/-- The number of nodes. -/
def size : SpanTree → Nat
  | literal _ _ => 1
  | unary _ _ t => t.size + 1
  | binary _ _ t u => t.size + u.size + 1

/-- The literals and operators from left to right, as tokens. -/
def inOrder : SpanTree → List Token
  | literal value span => [⟨.number value, span⟩]
  | unary op span t => ⟨.symbol op.sign, span⟩ :: t.inOrder
  | binary op span t u => t.inOrder ++ ⟨.symbol op.sign, span⟩ :: u.inOrder

theorem size_pos (t : SpanTree) : 0 < t.size := by
  cases t <;> simp [size]

theorem length_inOrder (t : SpanTree) : t.inOrder.length = t.size := by
  induction t with
  | literal value span => rfl
  | unary op span t ih => rw [inOrder, size, List.length_cons, ih]
  | binary op span t u iht ihu =>
    rw [inOrder, size, List.length_append, List.length_cons, iht, ihu]
    omega

theorem size_eq_of_tree {t u : SpanTree} (h : t.tree = u.tree) : t.size = u.size := by
  induction t generalizing u with
  | literal value span =>
    cases u <;> simp only [tree, reduceCtorEq] at h
    rfl
  | unary op span t ih =>
    cases u <;> simp only [tree, reduceCtorEq] at h
    rw [size, size, ih (Tree.unary.inj h).2]
  | binary op span t u iht ihu =>
    cases u <;> simp only [tree, reduceCtorEq] at h
    obtain ⟨-, ht, hu⟩ := Tree.binary.inj h
    rw [size, size, iht ht, ihu hu]

/-- The tree says how the tokens are grouped, and the tokens say where they stand. -/
theorem eq_of_tree_of_inOrder {t u : SpanTree} (htree : t.tree = u.tree)
    (hinOrder : t.inOrder = u.inOrder) : t = u := by
  induction t generalizing u with
  | literal value span =>
    cases u <;> simp only [tree, reduceCtorEq] at htree
    simp_all [inOrder]
  | unary op span t ih =>
    cases u <;> simp only [tree, reduceCtorEq] at htree
    obtain ⟨rfl, ht⟩ := Tree.unary.inj htree
    obtain ⟨htoken, hrest⟩ := List.cons.inj hinOrder
    rw [ih ht hrest, (Token.mk.inj htoken).2]
  | binary op span t u iht ihu =>
    cases u <;> simp only [tree, reduceCtorEq] at htree
    obtain ⟨rfl, ht, hu⟩ := Tree.binary.inj htree
    -- The left operands have the same number of tokens, so the two lists split at the same place.
    have hlength := size_eq_of_tree ht
    rw [← length_inOrder, ← length_inOrder] at hlength
    obtain ⟨hleft, hright⟩ := List.append_inj hinOrder hlength
    obtain ⟨htoken, hright⟩ := List.cons.inj hright
    rw [iht ht hleft, ihu hu hright, (Token.mk.inj htoken).2]

end SpanTree

/-! ### Reading tokens -/

/-- The tokens make up the expression, on a rank of the grammar: their kinds derive it, and all of
them but the parentheses are in it, in their order and at their places. -/
structure Rank.Reads (rank : Rank) (tokens : List Token) (t : SpanTree) : Prop where
  derives : Derives rank (tokens.map Token.kind) t.tree
  inOrder : t.inOrder = tokens.filter fun token => !token.isParen

namespace Rank.Reads

variable {tokens front back : List Token} {t u : SpanTree}

theorem number (value : Binary64) (span : Span) :
    Rank.factor.Reads [⟨.number value, span⟩] (.literal value span) :=
  ⟨.number value, rfl⟩

theorem prefixed (op : UnaryOp) (span : Span) (h : Rank.factor.Reads tokens t) :
    Rank.factor.Reads (⟨.symbol op.sign, span⟩ :: tokens) (.unary op span t) := by
  refine ⟨.prefixed op h.derives, ?_⟩
  rw [SpanTree.inOrder, h.inOrder]
  cases op <;> rfl

theorem group {opening closing : Token} (ho : opening.kind = .symbol .openParen)
    (hc : closing.kind = .symbol .closeParen) (h : Rank.sum.Reads tokens t) :
    Rank.factor.Reads (opening :: (tokens ++ [closing])) t := by
  constructor
  · rw [List.map_cons, List.map_append, ho, List.map_singleton, hc]
    exact .group h.derives
  · simp [h.inOrder, Token.isParen, ho, hc]

theorem productOfFactor (h : Rank.factor.Reads tokens t) : Rank.product.Reads tokens t :=
  ⟨.productOfFactor h.derives, h.inOrder⟩

theorem sumOfProduct (h : Rank.product.Reads tokens t) : Rank.sum.Reads tokens t :=
  ⟨.sumOfProduct h.derives, h.inOrder⟩

/-- The places of a chain, on whichever rank. -/
theorem inOrder_chain {rank rank' : Rank} (op : BinaryOp) (span : Span)
    (ht : rank.Reads front t) (hu : rank'.Reads back u) :
    (SpanTree.binary op span t u).inOrder =
      (front ++ ⟨.symbol op.sign, span⟩ :: back).filter fun token => !token.isParen := by
  rw [SpanTree.inOrder, ht.inOrder, hu.inOrder, List.filter_append]
  cases op <;> rfl

theorem productChain {op : BinaryOp} (hop : op.rank = .product) (span : Span)
    (ht : Rank.product.Reads front t) (hu : Rank.factor.Reads back u) :
    Rank.product.Reads (front ++ ⟨.symbol op.sign, span⟩ :: back) (.binary op span t u) := by
  refine ⟨?_, inOrder_chain op span ht hu⟩
  rw [List.map_append, List.map_cons]
  exact .productChain op hop ht.derives hu.derives

theorem sumChain {op : BinaryOp} (hop : op.rank = .sum) (span : Span)
    (ht : Rank.sum.Reads front t) (hu : Rank.product.Reads back u) :
    Rank.sum.Reads (front ++ ⟨.symbol op.sign, span⟩ :: back) (.binary op span t u) := by
  refine ⟨?_, inOrder_chain op span ht hu⟩
  rw [List.map_append, List.map_cons]
  exact .sumChain op hop ht.derives hu.derives

/-- An operator between two factors, on whichever rank it is. -/
theorem chain (op : BinaryOp) (span : Span) (ht : Rank.factor.Reads front t)
    (hu : Rank.factor.Reads back u) :
    Rank.sum.Reads (front ++ ⟨.symbol op.sign, span⟩ :: back) (.binary op span t u) := by
  cases hop : op.rank with
  | sum => exact ht.productOfFactor.sumOfProduct.sumChain hop span hu.productOfFactor
  | product => exact (ht.productOfFactor.productChain hop span hu).sumOfProduct
  | factor => cases op <;> exact nomatch hop

/-- There is a token for each node, besides the parentheses. -/
theorem size_le {rank : Rank} (h : rank.Reads tokens t) : t.size ≤ tokens.length := by
  rw [← SpanTree.length_inOrder, h.inOrder]
  exact List.length_filter_le _ _

end Rank.Reads

end Reckon
