/-
The parser reads the grammar.

* `Cuts.parse_eq`: what parsing gives is the verdict of the reader of trees on the tokens of the
  text and on the item after them;
* `parse_eq_ok_iff`: a text is parsed if and only if its tokens make up a sum, and the expression
  is the tree of that sum laid out in post-order;
* `parse_iff_derives`: so what is parsed is what the grammar derives, with the tree of the
  derivation, and no text has two trees.
-/
import Reckon.Proofs.ParserTrees
import Reckon.Proofs.TooLong

namespace Reckon

section
variable {source : String} {words : List Word} {last : Except LexError Token}

theorem kind_of_mem_tokensAt {offset : Nat} {token : Token} (h : token ∈ tokensAt offset words) :
    token.kind ≠ .endOfInput := by
  obtain ⟨front, w, back, -, rfl⟩ := exists_of_mem_tokensAt h
  exact w.kind_ne_endOfInput

theorem start_of_cursor {cursor : Cursor} (h : Cursor.start source = .ok cursor) :
    Parser.start source = .ok (Reader.start.parser cursor #[]) := by
  rw [Parser.start, h]
  rfl

theorem Cuts.parse_eq (h : Cuts source words last) :
    (parse source).1 = Reader.verdict source last .start (tokensAt 0 words) ∧
      (parse source).2.toList = Reader.report last .start (tokensAt 0 words) := by
  have hitems := h.items_start
  -- The first item is pulled before the parser starts.
  cases hfirst : (tokensAt 0 words).map Except.ok ++ [last] with
  | nil => exact absurd hfirst (by simp)
  | cons front back =>
    rw [hfirst] at hitems
    cases front with
    | error error =>
      -- There is no token at all: the parser is not even started.
      obtain ⟨hwords, rfl⟩ : tokensAt 0 words = [] ∧ last = .error error := by
        cases hwords : tokensAt 0 words with
        | nil =>
          rw [hwords] at hfirst
          exact ⟨rfl, (List.cons.inj hfirst).1⟩
        | cons => simp [hwords] at hfirst
      have hstart : Parser.start source = .error error := by
        rw [Parser.start, Cursor.start, Cursor.pull_of_error hitems]
        rfl
      rw [parse, hstart, hwords]
      exact ⟨rfl, rfl⟩
    | ok token =>
      obtain ⟨lexer, hpull, hlexer, hsource⟩ := Cursor.pull_of_items hitems
      rw [parse, start_of_cursor hpull]
      have hkind : ∀ token, last = .ok token → token.kind = .endOfInput := fun token hok =>
        h.kind_last token hok ▸ rfl
      have hback : .ok token :: lexer.items = (tokensAt 0 words).map .ok ++ [last] := by
        rw [hlexer, hfirst]
      exact Reader.run_eq_verdict hkind (fun _ => kind_of_mem_tokensAt) Reader.tidy_start hsource
        hback #[]

end

theorem verdict_eq_ok_iff {source : String} {last : Except LexError Token} {r : Reader}
    {tokens : List Token} {e : Expression} :
    r.verdict source last tokens = .ok e ↔
      (∃ token, last = .ok token) ∧
        ∃ t, (r.readTokens tokens).bind Reader.result? = some t ∧ e = t.expression := by
  induction tokens generalizing r with
  | nil =>
    rw [Reader.readTokens_nil, Option.bind_some, Reader.verdict.eq_def]
    cases last with
    | error error => simp
    | ok token => cases r.result? <;> simp [eq_comm]
  | cons token tokens ih =>
    rw [Reader.readTokens_cons, Reader.verdict]
    cases r.read token with
    | none => simp
    | some r' => exact ih

/-- A text is parsed if and only if its tokens make up a sum, and then the expression is that sum
laid out in post-order. -/
theorem parse_eq_ok_iff {source : String} {e : Expression} :
    (parse source).1 = .ok e ↔
      ∃ words t, Cuts source words (.ok (endToken source)) ∧
        Rank.sum.Reads (tokensAt 0 words) t ∧ e = t.expression := by
  constructor
  · intro h
    obtain ⟨words, last, hcuts⟩ := exists_cuts source
    rw [hcuts.parse_eq.1, verdict_eq_ok_iff] at h
    obtain ⟨⟨token, rfl⟩, t, hread, rfl⟩ := h
    exact ⟨words, t, hcuts.kind_last token rfl ▸ hcuts, Reader.reads_of_readAll hread, rfl⟩
  · rintro ⟨words, t, hcuts, hreads, rfl⟩
    rw [hcuts.parse_eq.1, verdict_eq_ok_iff]
    exact ⟨⟨_, rfl⟩, t, Reader.readAll_eq_some_iff.2 hreads, rfl⟩

/-- The nodes of a text whose positions fit into spans can all be told apart by their ids. -/
theorem size_le_of_cuts {source : String} {words : List Word} {last : Except LexError Token}
    {t : SpanTree} (hcuts : Cuts source words last) (hsize : source.utf8ByteSize ≤ maxOffset)
    (hreads : Rank.sum.Reads (tokensAt 0 words) t) : t.size ≤ idCount := by
  have htokens := hreads.size_le
  rw [length_tokensAt] at htokens
  calc t.size ≤ words.length := htokens
    _ ≤ Text.byteLength (writing words) := length_le_byteLength_writing words
    _ ≤ source.utf8ByteSize := hcuts.byteLength_le
    _ ≤ maxOffset := hsize
    _ ≤ idCount := by decide

theorem size_le_of_parse {source : String} {e : Expression} (hparse : (parse source).1 = .ok e)
    (hsize : source.utf8ByteSize ≤ maxOffset) : e.arena.size ≤ idCount := by
  obtain ⟨words, t, hcuts, hreads, rfl⟩ := parse_eq_ok_iff.1 hparse
  rw [SpanTree.size_arena_expression]
  exact size_le_of_cuts hcuts hsize hreads

/-- The text of many signs is parsed, whatever their number. -/
theorem exists_parse_signedOne (k : Nat) :
    ∃ t : SpanTree, (parse (signedOne k)).1 = .ok (SpanTree.unary .neg ⟨0, 1⟩ t).expression ∧
      t.size = k + 1 ∧ t.evaluate = .ok ⟨0x3FF0000000000000⟩ ∧
      ∃ span, (SpanTree.unary .neg ⟨0, 1⟩ t).expression.arena.get? ⟨0⟩ =
        some ⟨.literal ⟨0x3FF0000000000000⟩, span⟩ := by
  obtain ⟨t, hreads, ht⟩ := exists_reads_signedOne k
  exact ⟨t, parse_eq_ok_iff.2 ⟨_, _, cuts_signedOne k, hreads, rfl⟩, ht⟩

/-- What is derived is parsed, and the expression unfolds to the tree of the derivation as long as
its nodes can be told apart by their ids. -/
theorem exists_parse_of_derives {source : String} {tokens : List Token} {t : Tree}
    (htokens : tokenize source = .ok tokens)
    (h : Derives .sum (tokens.dropLast.map Token.kind) t) :
    ∃ e, (parse source).1 = .ok e ∧
      (e.arena.size ≤ idCount → e.arena.Unfolds e.root t) := by
  obtain ⟨words, hcuts, rfl⟩ := tokenize_eq_ok_iff.1 htokens
  rw [List.dropLast_concat] at h
  -- The tree of the derivation gets its places from the tokens.
  obtain ⟨u, rfl, hu⟩ := Reader.exists_readAll_of_derives h
  have hreads := Reader.reads_of_readAll hu
  refine ⟨u.expression, parse_eq_ok_iff.2 ⟨words, u, hcuts, hreads, rfl⟩, fun hsize => ?_⟩
  rw [SpanTree.size_arena_expression] at hsize
  exact SpanTree.unfolds_expression hsize

/-- **What is parsed is what the grammar derives.**  A text is accepted if and only if it has
tokens and they are derived as a sum; as long as its nodes can be told apart by their ids, which is
so for a text whose positions fit into spans, the expression unfolds to the tree of the derivation,
and to no other tree; and the grammar gives no tokens two trees. -/
theorem parse_iff_derives :
    (∀ source, (∃ e, (parse source).1 = .ok e) ↔
      ∃ tokens t, tokenize source = .ok tokens ∧
        Derives .sum (tokens.dropLast.map Token.kind) t) ∧
    (∀ source t, (∀ e, (parse source).1 = .ok e → e.arena.size ≤ idCount) →
      ((∃ e, (parse source).1 = .ok e ∧ e.arena.Unfolds e.root t) ↔
        ∃ tokens, tokenize source = .ok tokens ∧
          Derives .sum (tokens.dropLast.map Token.kind) t)) ∧
    (∀ source e, source.utf8ByteSize ≤ maxOffset → (parse source).1 = .ok e →
      e.arena.size ≤ idCount) ∧
    ∀ kinds t u, Derives .sum kinds t → Derives .sum kinds u → t = u := by
  refine ⟨fun source => ?_, fun source t hids => ?_,
    fun _ _ hsize hparse => size_le_of_parse hparse hsize, fun _ _ _ => Derives.unique⟩
  · constructor
    · rintro ⟨e, he⟩
      obtain ⟨words, t, hcuts, hreads, -⟩ := parse_eq_ok_iff.1 he
      refine ⟨_, t.tree, tokenize_eq_ok_iff.2 ⟨words, hcuts, rfl⟩, ?_⟩
      rw [List.dropLast_concat]
      exact hreads.derives
    · rintro ⟨tokens, t, htokens, ht⟩
      obtain ⟨e, he, -⟩ := exists_parse_of_derives htokens ht
      exact ⟨e, he⟩
  · constructor
    · rintro ⟨e, he, hunfolds⟩
      have hsize := hids e he
      obtain ⟨words, u, hcuts, hreads, rfl⟩ := parse_eq_ok_iff.1 he
      rw [SpanTree.size_arena_expression] at hsize
      have hu := SpanTree.unfolds_expression hsize
      refine ⟨_, tokenize_eq_ok_iff.2 ⟨words, hcuts, rfl⟩, ?_⟩
      rw [List.dropLast_concat, hunfolds.unique hu]
      exact hreads.derives
    · rintro ⟨tokens, htokens, ht⟩
      obtain ⟨e, he, hunfolds⟩ := exists_parse_of_derives htokens ht
      exact ⟨e, he, hunfolds (hids e he)⟩

/-- A sign in front of a factor binds more than a sum, and of two sums the first is taken first:
there is no other way to read the text. -/
theorem parse_iff_derives_chain :
    (∃ e, (parse "1-2+-1").1 = .ok e ∧
      e.arena.Unfolds e.root
        (.binary .add
          (.binary .sub (.literal ⟨0x3FF0000000000000⟩) (.literal ⟨0x4000000000000000⟩))
          (.unary .neg (.literal ⟨0x3FF0000000000000⟩)))) ∧
    ∀ t, Derives .sum [.number ⟨0x3FF0000000000000⟩, .symbol .minus, .number ⟨0x4000000000000000⟩,
        .symbol .plus, .symbol .minus, .number ⟨0x3FF0000000000000⟩] t →
      t = .binary .add
        (.binary .sub (.literal ⟨0x3FF0000000000000⟩) (.literal ⟨0x4000000000000000⟩))
        (.unary .neg (.literal ⟨0x3FF0000000000000⟩)) := by
  have hone := Derives.number ⟨0x3FF0000000000000⟩
  have htwo := Derives.number ⟨0x4000000000000000⟩
  have hdifference := Derives.sumChain .sub rfl hone.productOfFactor.sumOfProduct
    htwo.productOfFactor
  have hsum := Derives.sumChain .add rfl hdifference (hone.prefixed .neg).productOfFactor
  have htokens : tokenize "1-2+-1" = .ok
      [⟨.number ⟨0x3FF0000000000000⟩, ⟨0, 1⟩⟩, ⟨.symbol .minus, ⟨1, 2⟩⟩,
        ⟨.number ⟨0x4000000000000000⟩, ⟨2, 3⟩⟩, ⟨.symbol .plus, ⟨3, 4⟩⟩,
        ⟨.symbol .minus, ⟨4, 5⟩⟩, ⟨.number ⟨0x3FF0000000000000⟩, ⟨5, 6⟩⟩,
        ⟨.endOfInput, ⟨6, 6⟩⟩] := by decide +kernel
  obtain ⟨-, hunfolds, hids, hunique⟩ := parse_iff_derives
  refine ⟨(hunfolds "1-2+-1" _ fun e => hids "1-2+-1" e (by decide)).2 ⟨_, htokens, hsum⟩,
    fun t ht => ?_⟩
  exact hunique _ _ _ ht hsum

/-- With one node more than there are ids, a one with a sign is parsed into nodes that unfold to the
one, which the tokens do not derive. -/
theorem parse_iff_derives_pastIds :
    ¬ ((∃ e, (parse (signedOne 4294967295)).1 = .ok e ∧
          e.arena.Unfolds e.root (.literal ⟨0x3FF0000000000000⟩)) ↔
        ∃ tokens, tokenize (signedOne 4294967295) = .ok tokens ∧
          Derives .sum (tokens.dropLast.map Token.kind) (.literal ⟨0x3FF0000000000000⟩)) := by
  intro hiff
  obtain ⟨t, hreads, hsize, -, span, hnode⟩ := exists_reads_signedOne 4294967295
  have hcuts := cuts_signedOne 4294967295
  have hroot := SpanTree.root_expression_of_size (size_signedOne hsize)
  rw [← hroot] at hnode
  obtain ⟨tokens, htokens, hderives⟩ :=
    hiff.1 ⟨_, parse_eq_ok_iff.2 ⟨_, _, hcuts, hreads, rfl⟩, .literal hnode⟩
  -- The tokens derive the sign with its operand, and no other tree.
  rw [tokenize_eq_ok_iff.2 ⟨_, hcuts, rfl⟩] at htokens
  obtain rfl := Except.ok.inj htokens
  rw [List.dropLast_concat] at hderives
  exact absurd (hreads.derives.unique hderives) (by simp [SpanTree.tree])

end Reckon
