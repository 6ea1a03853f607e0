/-
The result of a text.

A text with a result is cut into words, the tokens of the words make up a tree, and the result of
the text is that of the tree.

* `evaluate_of_reads`: the result of a text is worked out on the tree of its tokens;
* `isFinite_of_evaluate`: what results is finite: literals are, signs change nothing about it, and
  operations whose result is not finite are refused.
-/
import Reckon.Calculator
import Reckon.Proofs.Nearest
import Reckon.Proofs.ParseGrammar

namespace Reckon

section
variable {source : String} {words : List Word} {t : SpanTree}

theorem evaluate_of_parse_error {error : ParseError} (h : (parse source).1 = .error error) :
    (evaluate source).1 = .error (.parse error) := by
  rw [evaluate]
  rcases hparse : parse source with ⟨error' | e, events⟩
  · rw [hparse] at h
    rw [Except.error.inj h]
  · simp [hparse] at h

theorem evaluate_of_parse_ok {e : Expression} (h : (parse source).1 = .ok e) :
    (evaluate source).1 = (e.evaluate (parse source).2).1.mapError .ofInterrupt := by
  rw [evaluate]
  rcases hparse : parse source with ⟨error | e', events⟩
  · simp [hparse] at h
  · rw [hparse] at h
    rw [Except.ok.inj h]

/-- The result of a text is that of the tree of its tokens. -/
theorem evaluate_of_reads (hcuts : Cuts source words (.ok (endToken source)))
    (hsize : source.utf8ByteSize ≤ maxOffset) (hreads : Rank.sum.Reads (tokensAt 0 words) t) :
    (evaluate source).1 = t.evaluate.mapError .eval := by
  have hparse : (parse source).1 = .ok t.expression :=
    parse_eq_ok_iff.2 ⟨words, t, hcuts, hreads, rfl⟩
  have hle := size_le_of_cuts hcuts hsize hreads
  rw [evaluate_of_parse_ok hparse, SpanTree.evaluate_expression hle]
  cases t.evaluate <;> rfl

/-- A text with a result has a tree with that result. -/
theorem exists_reads_of_evaluate {value : Binary64} (hsize : source.utf8ByteSize ≤ maxOffset)
    (h : (evaluate source).1 = .ok value) :
    ∃ words t, Rank.sum.Reads (tokensAt 0 words) t ∧ t.evaluate = .ok value := by
  cases hparse : (parse source).1 with
  | error error => simp [evaluate_of_parse_error hparse] at h
  | ok e =>
    obtain ⟨words, t, hcuts, hreads, -⟩ := parse_eq_ok_iff.1 hparse
    rw [evaluate_of_reads hcuts hsize hreads] at h
    refine ⟨words, t, hreads, ?_⟩
    cases ht : t.evaluate with
    | error error => simp [ht, Except.mapError] at h
    | ok value' =>
      rw [ht] at h
      exact congrArg Except.ok (Except.ok.inj h)

end

/-! ### Results are finite -/

theorem UnaryOp.isFinite_apply (op : UnaryOp) (x : Binary64) :
    (op.apply x).isFinite = x.isFinite := by
  cases op with
  | neg => exact Binary64.isFinite_neg x
  | plus => rfl

/-- Finite literals give a finite result, if any. -/
theorem SpanTree.isFinite_of_evaluate {t : SpanTree} {value : Binary64}
    (hliterals : ∀ x span, ⟨.number x, span⟩ ∈ t.inOrder → x.isFinite = true)
    (h : t.evaluate = .ok value) : value.isFinite = true := by
  induction t generalizing value with
  | literal x span =>
    obtain rfl := Except.ok.inj h
    exact hliterals x span (by simp [inOrder])
  | unary op span t ih =>
    cases ht : t.evaluate with
    | error error => simp [evaluate, ht, Except.map] at h
    | ok x =>
      rw [evaluate, ht] at h
      obtain rfl := Except.ok.inj h
      rw [UnaryOp.isFinite_apply]
      exact ih (fun y span hy => hliterals y span (List.mem_cons_of_mem _ hy)) ht
  | binary op span t u =>
    -- Operations with a result that is not finite are refused.
    cases ht : t.evaluate with
    | error error => simp [evaluate, ht] at h
    | ok x =>
      cases hu : u.evaluate with
      | error error => simp [evaluate, ht, hu] at h
      | ok y =>
        rw [evaluate, ht, hu] at h
        exact (BinaryOp.apply_eq_ok_iff.1 h).2.2

/-- A literal is the number nearest to a numeral. -/
theorem Word.exists_numeral_of_kind {w : Word} {x : Binary64} (h : w.kind = .number x) :
    ∃ n : Numeral, w.lexeme = .number n ∧ n.toBinary64? = some x := by
  have hkind := w.kind?_lexeme
  rw [h] at hkind
  cases hlexeme : w.lexeme with
  | symbol sign => simp [hlexeme, Lexeme.kind?] at hkind
  | number n =>
    rw [hlexeme, Lexeme.kind?, Option.map_eq_some_iff] at hkind
    obtain ⟨y, hy, hyx⟩ := hkind
    obtain rfl := TokenKind.number.inj hyx
    exact ⟨n, rfl, hy⟩

/-- A literal is in range. -/
theorem Word.isFinite_of_kind {w : Word} {x : Binary64} (h : w.kind = .number x) :
    x.isFinite = true := by
  obtain ⟨n, -, hx⟩ := w.exists_numeral_of_kind h
  exact Binary64.isFinite_of_ofRatio? hx

/-- A literal has no sign. -/
theorem Word.isNegative_of_kind {w : Word} {x : Binary64} (h : w.kind = .number x) :
    x.isNegative = false := by
  obtain ⟨n, -, hx⟩ := w.exists_numeral_of_kind h
  exact Binary64.isNegative_of_ofRatio? hx

theorem isFinite_of_evaluate {source : String} {value : Binary64}
    (hsize : source.utf8ByteSize ≤ maxOffset) (h : (evaluate source).1 = .ok value) :
    value.isFinite = true := by
  obtain ⟨words, t, hreads, ht⟩ := exists_reads_of_evaluate hsize h
  refine SpanTree.isFinite_of_evaluate (fun x span hx => ?_) ht
  rw [hreads.inOrder] at hx
  obtain ⟨front, w, back, -, hw⟩ := exists_of_mem_tokensAt (List.mem_filter.1 hx).1
  exact w.isFinite_of_kind (congrArg Token.kind hw).symm

end Reckon
