/-
The ways to an outcome.

A text is cut into tokens, the tokens are put together, and the expression is worked out; what goes
wrong first gives the outcome, and if nothing does it is the result.

* `ComesTo.eq_render`, `comesTo_render`: a text whose positions fit into spans comes to one outcome,
  in one of these ways;
* `ComesTo.status_eq_ok_iff`: a result is told from a failure by the text alone;
* `render_of_firstOffender`: no failure of an operation comes before one of the lexer or the parser.
-/
import Reckon.Proofs.FirstOffender
import Reckon.Proofs.ResultText

namespace Reckon

/-- The ways in which a text comes to an outcome. -/
inductive ComesTo (source : String) : Outcome → Prop where
  /-- There is a result; it is finite, and written in the form of results. -/
  | result {value : Binary64} (hvalue : (evaluate source).1 = .ok value)
      (hfinite : value.isFinite = true) (htext : IsResultText (resultText value).toList) :
      ComesTo source ⟨.ok, resultText value⟩
  /-- There is an error in the tokens. -/
  | lex {error : LexError} (hparse : (parse source).1 = .error (.lex error)) :
      ComesTo source (.failure .lexError error.message)
  /-- The tokens do not make up an expression. -/
  | parse {error : ParseError} (hparse : (parse source).1 = .error error)
      (hlex : ∀ lexError, error ≠ .lex lexError) :
      ComesTo source (.failure .parseError error.message)
  /-- The expression has no result. -/
  | eval {e : Expression} {error : EvalError} (hparse : (parse source).1 = .ok e)
      (heval : (e.evaluate #[]).1 = .error (.refused error)) :
      ComesTo source (.failure .evalError error.message)

/-! ### Results and failures told apart -/

theorem errorMark_isPrefix_failure (status : Status) (message : String) :
    Outcome.errorMark.toList <+: (Outcome.failure status message).text.toList := by
  rw [Outcome.failure, String.toList_append]
  exact List.prefix_append _ _

/-- No result begins like a failure. -/
theorem IsResultText.not_errorMark {cs : List Char} (h : IsResultText cs) :
    ¬ Outcome.errorMark.toList <+: cs := by
  obtain ⟨d, ds, rfl, hd⟩ := h.exists_head
  intro hprefix
  obtain ⟨rfl, -⟩ := List.cons_prefix_cons.1 hprefix
  rcases hd with hd | hd <;> exact absurd hd (by decide)

theorem ComesTo.status_eq_ok_iff {source : String} {outcome : Outcome}
    (h : ComesTo source outcome) :
    outcome.status = .ok ↔ ¬ Outcome.errorMark.toList <+: outcome.text.toList := by
  cases h with
  | result hvalue hfinite htext => exact ⟨fun _ => htext.not_errorMark, fun _ => rfl⟩
  | lex | parse | eval =>
    exact ⟨fun hstatus => absurd hstatus (by simp [Outcome.failure]),
      fun hmark => absurd (errorMark_isPrefix_failure _ _) hmark⟩

/-! ### One way for each text -/

section
variable {source : String} (hsize : source.utf8ByteSize ≤ maxOffset)
include hsize

theorem render_of_parse_error {error : ParseError} (h : (parse source).1 = .error error) :
    (render source).1 = .failure (Failure.parse error).status error.message := by
  rw [render_of_size hsize, evaluate_of_parse_error h]
  rfl

/-- What is wrong with the tokens, at the first item that does not fit, comes before anything that
is wrong with the operations. -/
theorem render_of_firstOffender {offender : Except LexError Token}
    (h : Scan.start.firstOffender (Lexer.start source).items = some offender) :
    (render source).1 =
      .failure (Failure.parse (offence source offender)).status
        (offence source offender).message :=
  render_of_parse_error hsize (parse_eq_offence_of_some h)

/-- The result of an expression that a text stands for is that of the text. -/
theorem render_of_parse_ok {e : Expression} (h : (parse source).1 = .ok e) :
    (render source).1 = .ofResult ((e.evaluate #[]).1.mapError .ofInterrupt) := by
  have hle := size_le_of_parse h hsize
  obtain ⟨words, t, -, -, rfl⟩ := parse_eq_ok_iff.1 h
  rw [SpanTree.size_arena_expression] at hle
  -- What has been reported before makes no difference to the result.
  rw [render_of_size hsize, evaluate_of_parse_ok h, SpanTree.evaluate_expression hle,
    SpanTree.evaluate_expression hle]

theorem ComesTo.eq_render {outcome : Outcome} (h : ComesTo source outcome) :
    outcome = (render source).1 := by
  cases h with
  | result hvalue =>
    rw [render_of_size hsize, hvalue]
    rfl
  | lex hparse => exact (render_of_parse_error hsize hparse).symm
  | @parse error hparse hlex =>
    rw [render_of_parse_error hsize hparse]
    cases error with
    | lex lexError => exact absurd rfl (hlex lexError)
    | unexpectedToken found span => rfl
    | unexpectedEnd pos => rfl
  | eval hparse heval =>
    rw [render_of_parse_ok hsize hparse, heval]
    rfl

theorem comesTo_render : ComesTo source (render source).1 := by
  cases hparse : (parse source).1 with
  | error error =>
    rw [render_of_parse_error hsize hparse]
    cases error with
    | lex lexError => exact .lex hparse
    | unexpectedToken found span => exact .parse hparse fun _ => by simp
    | unexpectedEnd pos => exact .parse hparse fun _ => by simp
  | ok e =>
    obtain ⟨words, t, hcuts, hreads, rfl⟩ := parse_eq_ok_iff.1 hparse
    have hresult := evaluate_of_reads hcuts hsize hreads
    have heval : (t.expression.evaluate #[]).1 = t.evaluate.mapError .refused := by
      rw [SpanTree.evaluate_expression (size_le_of_cuts hcuts hsize hreads)]
    rw [render_of_parse_ok hsize hparse, heval]
    cases ht : t.evaluate with
    | error error => exact .eval hparse (by rw [heval, ht]; rfl)
    | ok value =>
      rw [ht] at hresult
      have hfinite := isFinite_of_evaluate hsize hresult
      exact .result hresult hfinite (isResultText_resultText hfinite)

end

/-- **Every text comes to one outcome, in one way**, as long as its positions fit into spans.  It
has a finite result, written in the form of results; or there is an error in its tokens; or the
tokens do not make up an expression; or the expression has no result.  The status says which, and
with each but the first the text is the message of the error.  So a result is told from a failure by
its text, which does not begin with the mark of an error.  Whatever the operations before it are,
the first item that does not fit gives the outcome. -/
theorem render_eq_iff_comesTo {source : String} (hsize : source.utf8ByteSize ≤ maxOffset) :
    (∀ outcome, (render source).1 = outcome ↔ ComesTo source outcome) ∧
    ((render source).1.status = .ok ↔
      ¬ Outcome.errorMark.toList <+: (render source).1.text.toList) ∧
    ∀ offender, Scan.start.firstOffender (Lexer.start source).items = some offender →
      (render source).1 =
        .failure (Failure.parse (offence source offender)).status
          (offence source offender).message := by
  refine ⟨fun outcome => ⟨?_, fun h => (h.eq_render hsize).symm⟩,
    (comesTo_render hsize).status_eq_ok_iff, fun _ => render_of_firstOffender hsize⟩
  rintro rfl
  exact comesTo_render hsize

/-- The division by zero comes first in the text, but it is the parenthesis that does not fit. -/
theorem render_eq_iff_comesTo_division :
    ComesTo "1/0)" ⟨.parseError, "error: unexpected token `)` at position 3"⟩ ∧
      (render "1/0)").1 = .failure .parseError "unexpected token `)` at position 3" := by
  have hsize : "1/0)".utf8ByteSize ≤ maxOffset := by decide
  obtain ⟨hways, -, hfirst⟩ := render_eq_iff_comesTo hsize
  have hrender : (render "1/0)").1 = .failure .parseError "unexpected token `)` at position 3" :=
    (hfirst (.ok ⟨.symbol .closeParen, ⟨3, 4⟩⟩) (by decide +kernel)).trans (by decide +kernel)
  exact ⟨(hways _).1 (hrender.trans (by decide)), hrender⟩

end Reckon
