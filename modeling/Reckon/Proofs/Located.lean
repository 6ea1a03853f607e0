/-
What a failure points at.

A failure holds a position in the text, and at that position there is what is wrong: a character, a
number, a token, the sign of an operation, or the end of the text.  Positions are byte offsets, and
as long as those of a text fit into words none of them is cut short on the way from the text to its
tokens, to the nodes of its expression and to a failure.

* `covers_of_mem_items`: the span of a token covers its lexeme and nothing more;
* `eq_of_span_eq`: no two tokens have the same span;
* `SpanTree.token_layout_perm`: the nodes of a tree have the spans of its tokens, each one its own;
* `pointsInto_of_evaluate`: a failure points at what is wrong.
-/
import Reckon.Proofs.Evaluation
import Reckon.Proofs.FirstOffender
import Reckon.Proofs.Partition

namespace Reckon

/-! ### The spans of tokens -/

/-- The end token stands behind all of the text. -/
theorem covers_endToken {source : String} (hsize : source.utf8ByteSize ≤ maxOffset) :
    (endToken source).span.Covers source [] := by
  have hstart : (endToken source).span.start.toNat = source.utf8ByteSize :=
    toNat_saturate_of_le hsize
  have hdrop := Text.dropBytes?_append source.toList []
  rw [List.append_nil, Text.byteLength_toList, ← hstart] at hdrop
  exact ⟨⟨[], hdrop⟩, rfl⟩

/-- The span of a token covers its lexeme, and that of the end token covers nothing. -/
theorem covers_of_mem_items {source : String} {token : Token}
    (hsize : source.utf8ByteSize ≤ maxOffset) (h : .ok token ∈ (Lexer.start source).items) :
    token = endToken source ∧ token.span.Covers source [] ∨
      ∃ x : Lexeme, x.WellFormed ∧ x.kind? = some token.kind ∧
        token.span.Covers source x.text := by
  rcases exists_place_of_mem_items hsize h with rfl | ⟨front, ⟨p⟩⟩
  · exact .inl ⟨rfl, covers_endToken hsize⟩
  · exact .inr ⟨p.word.lexeme, p.word.wellFormed, p.kind?_lexeme, p.covers⟩

/-- A token that is a sign takes one byte, in which the sign is written. -/
theorem covers_of_symbol_mem_items {source : String} {sign : Symbol} {span : Span}
    (hsize : source.utf8ByteSize ≤ maxOffset)
    (h : .ok ⟨.symbol sign, span⟩ ∈ (Lexer.start source).items) :
    span.Covers source [sign.char] ∧ span.stop.toNat = span.start.toNat + 1 := by
  rcases covers_of_mem_items hsize h with ⟨hend, -⟩ | ⟨x, -, hkind, hcovers⟩
  · exact absurd (congrArg Token.kind hend) (by simp [endToken])
  · cases x with
    | number n => simp [Lexeme.kind?] at hkind
    | symbol sign' =>
      obtain rfl := TokenKind.symbol.inj (Option.some.inj hkind)
      refine ⟨hcovers, hcovers.stop_eq.trans ?_⟩
      cases sign' <;> rfl

/-- Of two tokens of a text the spans are different. -/
theorem pairwise_span_ne {source : String} (hsize : source.utf8ByteSize ≤ maxOffset) :
    (Lexer.start source).items.Pairwise fun x y =>
      ∀ a b, x = .ok a → y = .ok b → a.span ≠ b.span := by
  obtain ⟨words, last, hcuts⟩ := exists_cuts source
  have htiles := hcuts.tiles hsize
  rw [hcuts.items_start, List.pairwise_append, List.pairwise_map]
  refine ⟨htiles.ordered.imp_of_mem ?_, List.pairwise_singleton _ _, ?_⟩
  · rintro a b ha - hle _ _ ⟨⟩ ⟨⟩ hspan
    have hlt := htiles.start_lt_stop a ha
    rw [← hspan] at hle
    omega
  · -- The end token takes no bytes, so its span is that of no other.
    intro x hx y hy a b hxa hyb hspan
    obtain ⟨a', ha', rfl⟩ := List.mem_map.1 hx
    obtain rfl := Except.ok.inj hxa
    obtain rfl := hcuts.kind_last b (List.mem_singleton.1 hy ▸ hyb)
    have hlt := htiles.start_lt_stop a' ha'
    rw [hspan] at hlt
    exact absurd hlt (Nat.lt_irrefl _)

theorem eq_of_span_eq {source : String} (hsize : source.utf8ByteSize ≤ maxOffset) {i j : Nat}
    {a b : Token} (ha : (Lexer.start source).items[i]? = some (.ok a))
    (hb : (Lexer.start source).items[j]? = some (.ok b)) (hspan : a.span = b.span) : i = j := by
  have hne := List.pairwise_iff_getElem.1 (pairwise_span_ne hsize)
  obtain ⟨hi, hia⟩ := List.getElem?_eq_some_iff.1 ha
  obtain ⟨hj, hjb⟩ := List.getElem?_eq_some_iff.1 hb
  rcases Nat.lt_trichotomy i j with hlt | heq | hlt
  · exact absurd hspan (hne i j hi hj hlt a b hia hjb)
  · exact heq
  · exact absurd hspan.symm (hne j i hj hi hlt b a hjb hia)

/-! ### The nodes of an expression -/

/-- The token that a node is made for: its literal, or the sign of its operator. -/
def Node.token : Node → Token
  | ⟨.literal value, span⟩ => ⟨.number value, span⟩
  | ⟨.unary op _, span⟩ => ⟨.symbol op.sign, span⟩
  | ⟨.binary op _ _, span⟩ => ⟨.symbol op.sign, span⟩

/-- The nodes of a tree are made for its tokens, one for each. -/
theorem SpanTree.token_layout_perm (base : Nat) (t : SpanTree) :
    ((t.layout base).map Node.token).Perm t.inOrder := by
  induction t generalizing base with
  | literal value span => exact .refl _
  | unary op span t ih =>
    rw [layout, List.map_append, inOrder]
    exact (List.perm_append_singleton _ _).trans ((ih base).cons _)
  | binary op span t u iht ihu =>
    rw [layout, List.map_append, List.map_append, inOrder]
    exact (iht base).append ((List.perm_append_singleton _ _).trans ((ihu _).cons _))

/-- The nodes of an expression that a text stands for are made for the tokens of the text, one for
each but the parentheses and the end. -/
theorem token_nodes_perm {source : String} {e : Expression} (h : (parse source).1 = .ok e) :
    ∃ tokens, tokenize source = .ok tokens ∧
      (e.arena.nodes.toList.map Node.token).Perm
        (tokens.dropLast.filter fun token => !token.isParen) := by
  obtain ⟨words, t, hcuts, hreads, rfl⟩ := parse_eq_ok_iff.1 h
  refine ⟨_, tokenize_eq_ok_iff.2 ⟨words, hcuts, rfl⟩, ?_⟩
  rw [List.dropLast_concat, ← hreads.inOrder]
  exact t.token_layout_perm 0

theorem mem_items_of_get? {source : String} {e : Expression} {id : NodeId} {node : Node}
    (h : (parse source).1 = .ok e) (hnode : e.arena.get? id = some node) :
    .ok node.token ∈ (Lexer.start source).items := by
  obtain ⟨words, t, hcuts, hreads, rfl⟩ := parse_eq_ok_iff.1 h
  have hmem : node.token ∈ (t.layout 0).map Node.token :=
    List.mem_map_of_mem (Array.mem_toList_iff.2 (Array.mem_of_getElem? hnode))
  rw [(t.token_layout_perm 0).mem_iff, hreads.inOrder] at hmem
  rw [hcuts.items_start]
  exact List.mem_append_left _ (List.mem_map_of_mem (List.mem_filter.1 hmem).1)

/-! ### The operation that fails -/

/-- The operator of the operation that an error is about. -/
def EvalError.op : EvalError → BinaryOp
  | divisionByZero _ => .div
  | overflow op _ => op

theorem BinaryOp.op_and_span_of_apply {op : BinaryOp} {x y : Binary64} {span : Span}
    {error : EvalError} (h : op.apply x y span = .error error) :
    error.op = op ∧ error.span = span := by
  rcases apply_eq_error_iff.1 h with ⟨⟨rfl, -⟩, rfl⟩ | ⟨-, -, rfl⟩
  · exact ⟨rfl, rfl⟩
  · exact ⟨rfl, rfl⟩

/-- The second node is the first or below it. -/
inductive Arena.Reaches (arena : Arena) : NodeId → NodeId → Prop where
  | self (id : NodeId) : Reaches arena id id
  | operand {id operand below : NodeId} {op : UnaryOp} {span : Span}
      (h : arena.get? id = some ⟨.unary op operand, span⟩) (hbelow : Reaches arena operand below) :
      Reaches arena id below
  | left {id left right below : NodeId} {op : BinaryOp} {span : Span}
      (h : arena.get? id = some ⟨.binary op left right, span⟩)
      (hbelow : Reaches arena left below) : Reaches arena id below
  | right {id left right below : NodeId} {op : BinaryOp} {span : Span}
      (h : arena.get? id = some ⟨.binary op left right, span⟩)
      (hbelow : Reaches arena right below) : Reaches arena id below

/-- An error is that of an operation in the tree, with its operator and at its span. -/
theorem Arena.exists_node_of_evaluate {arena : Arena} {base : Nat} {t : SpanTree}
    {error : EvalError} (h : arena.Contains base t) (hsize : arena.size ≤ idCount)
    (herror : t.evaluate = .error error) :
    ∃ id left right, arena.Reaches (t.rootAt base) id ∧
      arena.get? id = some ⟨.binary error.op left right, error.span⟩ := by
  induction t generalizing base with
  | literal value span => exact absurd herror (by simp [SpanTree.evaluate])
  | unary op span t ih =>
    cases ht : t.evaluate with
    | error error' =>
      rw [SpanTree.evaluate, ht] at herror
      obtain rfl := Except.error.inj herror
      obtain ⟨id, left, right, hreaches, hnode⟩ := ih h.operand ht
      exact ⟨id, left, right, .operand (h.get?_rootAt hsize) hreaches, hnode⟩
    | ok x => simp [SpanTree.evaluate, ht, Except.map] at herror
  | binary op span t u iht ihu =>
    rw [SpanTree.evaluate] at herror
    cases ht : t.evaluate with
    | error error' =>
      rw [ht] at herror
      obtain rfl := Except.error.inj herror
      obtain ⟨id, left, right, hreaches, hnode⟩ := iht h.left ht
      exact ⟨id, left, right, .left (h.get?_rootAt hsize) hreaches, hnode⟩
    | ok x =>
      cases hu : u.evaluate with
      | error error' =>
        rw [ht, hu] at herror
        obtain rfl := Except.error.inj herror
        obtain ⟨id, left, right, hreaches, hnode⟩ := ihu h.right hu
        exact ⟨id, left, right, .right (h.get?_rootAt hsize) hreaches, hnode⟩
      | ok y =>
        -- Both operands have values, so it is the operation itself that fails.
        rw [ht, hu] at herror
        obtain ⟨rfl, rfl⟩ := BinaryOp.op_and_span_of_apply herror
        exact ⟨_, _, _, .self _, h.get?_rootAt hsize⟩

/-! ### Failures -/

/-- The span covers the sign of a binary operator, and in the expression that the text stands for
there is a node of that operator with the span. -/
structure OperationAt (source : String) (op : BinaryOp) (span : Span) : Prop where
  length_eq : span.stop.toNat = span.start.toNat + 1
  slice?_eq : Text.slice? source.toList span.start.toNat span.stop.toNat = some op.symbol.toList
  exists_node : ∃ e id left right, (parse source).1 = .ok e ∧ e.arena.Reaches e.root id ∧
    e.arena.get? id = some ⟨.binary op left right, span⟩

/-- What a failure points at in the text. -/
inductive Failure.PointsInto (source : String) : Failure → Prop where
  /-- The character stands where the failure says. -/
  | unexpectedChar {c : Char} {pos : UInt32} (hpos : StandsAt source pos.toNat [c]) :
      PointsInto source (.parse (.lex (.unexpectedChar c pos)))
  /-- From the position on there is the number. -/
  | numberOutOfRange {literal : String} {pos : UInt32} (hliteral : IsNumberText literal.toList)
      (hpos : StandsAt source pos.toNat literal.toList) :
      PointsInto source (.parse (.lex (.numberOutOfRange literal pos)))
  /-- What was found is the text at the span, and the span is that of just one token. -/
  | unexpectedToken {found : String} {span : Span} (hne : found ≠ "")
      (hfound : Text.slice? source.toList span.start.toNat span.stop.toNat = some found.toList)
      (hone : ∃! i : Nat, ∃ token,
        (Lexer.start source).items[i]? = some (.ok token) ∧ token.span = span) :
      PointsInto source (.parse (.unexpectedToken found span))
  /-- The position is that behind all of the text. -/
  | unexpectedEnd {pos : UInt32} (hpos : pos.toNat = source.utf8ByteSize) :
      PointsInto source (.parse (.unexpectedEnd pos))
  /-- The operation that fails is at the span. -/
  | eval {error : EvalError} (hspan : OperationAt source error.op error.span) :
      PointsInto source (.eval error)

section
variable {source : String} (hsize : source.utf8ByteSize ≤ maxOffset)
include hsize

theorem pointsInto_of_lex {error : LexError} (h : .error error ∈ (Lexer.start source).items) :
    Failure.PointsInto source (.parse (.lex error)) := by
  obtain ⟨words, last, hcuts⟩ := exists_cuts source
  rw [hcuts.items_start] at h
  obtain rfl : .error error = last := by simpa using h
  cases hcuts with
  | stuck htext hwords hrest =>
    cases hrest with
    | stray hgap hc hmunch =>
      exact .unexpectedChar ⟨_, (blankBetween_behind htext hgap hsize).2⟩
    | @outOfRange n cs hgap hn hstops hrange =>
      refine .numberOutOfRange ?_ ?_
      · exact isNumberText_iff.2 ⟨n, hn, String.toList_ofList.symm⟩
      · rw [String.toList_ofList]
        exact ⟨cs, (blankBetween_behind htext hgap hsize).2⟩

theorem pointsInto_of_token {token : Token} (h : .ok token ∈ (Lexer.start source).items) :
    Failure.PointsInto source (.parse (offence source (.ok token))) := by
  rcases covers_of_mem_items hsize h with ⟨rfl, hcovers⟩ | ⟨x, hx, hkind, hcovers⟩
  · exact .unexpectedEnd (toNat_saturate_of_le hsize)
  · have hend : token.kind ≠ .endOfInput := by
      intro hend
      exact x.kind?_ne_endOfInput (hend ▸ hkind)
    rw [offence, if_neg hend, Token.textIn, hcovers.slice?_eq]
    refine .unexpectedToken ?_ ?_ ?_
    · obtain ⟨c, cs, htext, -⟩ := Lexeme.head_text hx
      simp [htext]
    · rw [Option.getD_some, String.toList_ofList]
      exact hcovers.slice?_eq
    · obtain ⟨i, hi⟩ := List.mem_iff_getElem?.1 h
      refine ⟨i, ⟨token, hi, rfl⟩, ?_⟩
      rintro j ⟨token', hj, hspan⟩
      exact eq_of_span_eq hsize hj hi hspan

theorem pointsInto_of_evalError {words : List Word} {t : SpanTree} {error : EvalError}
    (hcuts : Cuts source words (.ok (endToken source)))
    (hreads : Rank.sum.Reads (tokensAt 0 words) t) (h : t.evaluate = .error error) :
    Failure.PointsInto source (.eval error) := by
  have hparse : (parse source).1 = .ok t.expression :=
    parse_eq_ok_iff.2 ⟨words, t, hcuts, hreads, rfl⟩
  obtain ⟨id, left, right, hreaches, hnode⟩ :=
    Arena.exists_node_of_evaluate (Arena.contains_expression t) (size_le_of_parse hparse hsize) h
  obtain ⟨hcovers, hlength⟩ := covers_of_symbol_mem_items hsize (mem_items_of_get? hparse hnode)
  have hsign : error.op.symbol.toList = [error.op.sign.char] := by
    cases error.op <;> rfl
  exact .eval ⟨hlength, hsign ▸ hcovers.slice?_eq, _, id, left, right, hparse, hreaches, hnode⟩

/-- A failure points at what is wrong. -/
theorem pointsInto_of_evaluate {failure : Failure} (h : (evaluate source).1 = .error failure) :
    failure.PointsInto source := by
  have hparse := parse_eq_offence source
  cases hfirst : Scan.start.firstOffender (Lexer.start source).items with
  | some offender =>
    rw [evaluate_of_parse_error (parse_eq_offence_of_some hfirst)] at h
    obtain rfl := Except.error.inj h
    have hmem := mem_of_firstOffender hfirst
    cases offender with
    | error error => exact pointsInto_of_lex hsize hmem
    | ok token => exact pointsInto_of_token hsize hmem
  | none =>
    rw [hfirst] at hparse
    obtain ⟨e, he⟩ := hparse
    obtain ⟨words, t, hcuts, hreads, -⟩ := parse_eq_ok_iff.1 he
    rw [evaluate_of_reads hcuts hsize hreads] at h
    cases ht : t.evaluate with
    | ok value => simp [ht, Except.mapError] at h
    | error error =>
      rw [ht] at h
      obtain rfl := Except.error.inj h
      exact pointsInto_of_evalError hsize hcuts hreads ht

end

/-- **Every failure points at what is wrong**, in a text whose positions fit into spans.  A failure
of the lexer or the parser points at the character, the number or the token that is at fault, or
behind the text; that of an operation points at the sign of the operator.  The span of each token
covers its lexeme exactly, so its text can always be taken and is empty for the end token only; and
the nodes of an expression have the spans of the tokens that they are made for. -/
theorem failures_pointInto (source : String) (hsize : source.utf8ByteSize ≤ maxOffset) :
    (∀ failure, (evaluate source).1 = .error failure → failure.PointsInto source) ∧
    (∀ token, .ok token ∈ (Lexer.start source).items →
      ∃ cs, token.span.Covers source cs ∧ token.textIn source = some cs ∧
        (cs = [] ↔ token.kind = .endOfInput)) ∧
    ∀ e, (parse source).1 = .ok e → ∃ tokens, tokenize source = .ok tokens ∧
      (e.arena.nodes.toList.map Node.token).Perm
        (tokens.dropLast.filter fun token => !token.isParen) := by
  refine ⟨fun _ => pointsInto_of_evaluate hsize, fun token htoken => ?_, fun _ => token_nodes_perm⟩
  rcases covers_of_mem_items hsize htoken with ⟨rfl, hcovers⟩ | ⟨x, hx, hkind, hcovers⟩
  · exact ⟨[], hcovers, hcovers.slice?_eq, by simp [endToken]⟩
  · refine ⟨x.text, hcovers, hcovers.slice?_eq, ?_⟩
    constructor
    · intro hempty
      exact absurd (hempty ▸ Lexeme.byteLength_text_pos hx) (Nat.lt_irrefl _)
    · intro hend
      exact absurd (hend ▸ hkind) x.kind?_ne_endOfInput

/-- Of three operators it is the divisor that is wrong which the failure points at. -/
theorem failures_pointInto_division :
    Failure.PointsInto "(8 - 8) * (3 / (2 - 2))" (.eval (.divisionByZero ⟨13, 14⟩)) :=
  (failures_pointInto "(8 - 8) * (3 / (2 - 2))" (by decide)).1 _ (by decide +kernel)

end Reckon
