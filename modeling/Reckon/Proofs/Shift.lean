/-
Places further on in a text.

What stands `k` bytes further on in another text has its places shifted by `k`, and nothing else
about it changes: tokens keep their kinds, trees keep their shape and results, and errors their
cause.

* `tokensAt_add`: the tokens of words further on;
* `Rank.Reads.shift`: the tokens of a tree, shifted, are those of the shifted tree;
* `SpanTree.evaluate_shift`: the result of a shifted tree.
-/
import Reckon.Proofs.PostOrder
import Reckon.Proofs.Words
import Reckon.Calculator

namespace Reckon

/-! ### Shifted places -/

/-- A byte offset, `k` bytes further on. -/
def shiftOffset (k : Nat) (offset : UInt32) : UInt32 := saturate (offset.toNat + k)

/-- The stretch of text `k` bytes further on. -/
def Span.shift (k : Nat) (s : Span) : Span := ⟨shiftOffset k s.start, shiftOffset k s.stop⟩

def Token.shift (k : Nat) (token : Token) : Token := ⟨token.kind, token.span.shift k⟩

def LexError.shift (k : Nat) : LexError → LexError
  | unexpectedChar char pos => unexpectedChar char (shiftOffset k pos)
  | numberOutOfRange literal pos => numberOutOfRange literal (shiftOffset k pos)

def ParseError.shift (k : Nat) : ParseError → ParseError
  | unexpectedToken found span => unexpectedToken found (span.shift k)
  | unexpectedEnd pos => unexpectedEnd (shiftOffset k pos)
  | lex error => lex (error.shift k)

def EvalError.shift (k : Nat) : EvalError → EvalError
  | divisionByZero span => divisionByZero (span.shift k)
  | overflow op span => overflow op (span.shift k)

/-- The failure with all its positions `k` bytes further on. -/
def Failure.shift (k : Nat) : Failure → Failure
  | parse error => parse (error.shift k)
  | eval error => eval (error.shift k)
  | fault cause => fault cause

def SpanTree.shift (k : Nat) : SpanTree → SpanTree
  | literal value span => literal value (span.shift k)
  | unary op span t => unary op (span.shift k) (t.shift k)
  | binary op span t u => binary op (span.shift k) (t.shift k) (u.shift k)

theorem shiftOffset_saturate (k offset : Nat) :
    shiftOffset k (saturate offset) = saturate (offset + k) := by
  -- What is held at the largest offset once stays there.
  apply UInt32.toNat_inj.1
  rw [shiftOffset, toNat_saturate, toNat_saturate, toNat_saturate]
  omega

theorem shiftOffset_shiftOffset (j k : Nat) (offset : UInt32) :
    shiftOffset j (shiftOffset k offset) = shiftOffset (k + j) offset := by
  show shiftOffset j (saturate (offset.toNat + k)) = saturate (offset.toNat + (k + j))
  rw [shiftOffset_saturate, Nat.add_assoc]

theorem shiftOffset_zero (offset : UInt32) : shiftOffset 0 offset = offset := by
  apply UInt32.toNat_inj.1
  have hlt : offset.toNat < 4294967296 := offset.toNat_lt
  rw [shiftOffset, toNat_saturate, maxOffset]
  omega

namespace Span

theorem shift_ofRange (k start stop : Nat) :
    (ofRange start stop).shift k = ofRange (start + k) (stop + k) := by
  rw [shift, ofRange, ofRange, shiftOffset_saturate, shiftOffset_saturate]

theorem shift_shift (j k : Nat) (s : Span) : (s.shift k).shift j = s.shift (k + j) := by
  rw [shift, shift, shift, shiftOffset_shiftOffset, shiftOffset_shiftOffset]

theorem shift_zero (s : Span) : s.shift 0 = s := by
  rw [shift, shiftOffset_zero, shiftOffset_zero]

end Span

namespace SpanTree

theorem shift_shift (j k : Nat) (t : SpanTree) : (t.shift k).shift j = t.shift (k + j) := by
  induction t with
  | literal value span => rw [shift, shift, shift, Span.shift_shift]
  | unary op span t ih => rw [shift, shift, shift, Span.shift_shift, ih]
  | binary op span t u iht ihu => rw [shift, shift, shift, Span.shift_shift, iht, ihu]

theorem shift_zero (t : SpanTree) : t.shift 0 = t := by
  induction t with
  | literal value span => rw [shift, Span.shift_zero]
  | unary op span t ih => rw [shift, Span.shift_zero, ih]
  | binary op span t u iht ihu => rw [shift, Span.shift_zero, iht, ihu]

/-! ### What does not change -/

theorem tree_shift (k : Nat) (t : SpanTree) : (t.shift k).tree = t.tree := by
  induction t with
  | literal value span => rfl
  | unary op span t ih => rw [shift, tree, tree, ih]
  | binary op span t u iht ihu => rw [shift, tree, tree, iht, ihu]

theorem inOrder_shift (k : Nat) (t : SpanTree) :
    (t.shift k).inOrder = t.inOrder.map (Token.shift k) := by
  induction t with
  | literal value span => rfl
  | unary op span t ih =>
    rw [shift, inOrder, inOrder, ih]
    rfl
  | binary op span t u iht ihu =>
    rw [shift, inOrder, inOrder, iht, ihu, List.map_append]
    rfl

end SpanTree

/-- Tokens further on are the tokens of what is further on. -/
theorem Rank.Reads.shift {rank : Rank} {tokens : List Token} {t : SpanTree} (k : Nat)
    (h : rank.Reads tokens t) : rank.Reads (tokens.map (Token.shift k)) (t.shift k) := by
  constructor
  · rw [SpanTree.tree_shift, List.map_map]
    exact h.derives
  · rw [SpanTree.inOrder_shift, h.inOrder, List.filter_map]
    rfl

theorem tokensAt_add (k offset : Nat) (words : List Word) :
    tokensAt (offset + k) words = (tokensAt offset words).map (Token.shift k) := by
  induction words generalizing offset with
  | nil => rfl
  | cons w words ih =>
    have hgap : offset + k + Text.byteLength w.gap = offset + Text.byteLength w.gap + k :=
      Nat.add_right_comm offset k _
    have hlength : offset + k + w.length = offset + w.length + k := Nat.add_right_comm offset k _
    rw [tokensAt, tokensAt, List.map_cons, hlength, ih, Token.shift, Word.token, Word.token,
      Span.shift_ofRange, hgap, hlength]

/-! ### Results -/

theorem BinaryOp.apply_shift (op : BinaryOp) (x y : Binary64) (span : Span) (k : Nat) :
    op.apply x y (span.shift k) = (op.apply x y span).mapError (.shift k) := by
  unfold apply
  split
  · rfl
  · split <;> rfl

/-- The result does not depend on the place, but the place of an error does. -/
theorem SpanTree.evaluate_shift (k : Nat) (t : SpanTree) :
    (t.shift k).evaluate = t.evaluate.mapError (.shift k) := by
  induction t with
  | literal value span => rfl
  | unary op span t ih =>
    rw [shift, evaluate, evaluate, ih]
    cases t.evaluate <;> rfl
  | binary op span t u iht ihu =>
    rw [shift, evaluate, evaluate, iht, ihu]
    cases t.evaluate with
    | error error => rfl
    | ok x =>
      cases u.evaluate with
      | error error => rfl
      | ok y => exact op.apply_shift x y span k

end Reckon
