/-
Outcomes are printed on one line.

A result and a message consist of the plain characters from the space to the tilde.  The one
exception is the character that a message names because no token begins with it: if it is printable
it stands there as it is, and otherwise its code does.

* `EvalError.allPlain_message`, `ParseError.allPlain_unexpectedToken`, ..: plain messages;
* `plain_of_mem_render`: the characters of an outcome;
* `nul_not_mem_outcomeFor`: none of them is NUL, whatever the argument is.
-/
import Reckon.Proofs.Located
import Reckon.Proofs.Outcomes
import Reckon.Session.Process

namespace Reckon

/-- All characters of the text are plain. -/
def AllPlain (text : String) : Prop := ∀ c ∈ text.toList, Text.IsPlain c

instance (text : String) : Decidable (AllPlain text) :=
  List.decidableBAll _ text.toList

theorem allPlain_append {s t : String} : AllPlain (s ++ t) ↔ AllPlain s ∧ AllPlain t := by
  rw [AllPlain, String.toList_append, List.forall_mem_append]
  rfl

/-! ### Parts of messages -/

theorem isPlain_of_isDigit {c : Char} (h : c.isDigit = true) : Text.IsPlain c := by
  rw [Char.isDigit_iff_toNat] at h
  exact ⟨Nat.le_trans (by decide) h.1, Nat.lt_of_le_of_lt h.2 (by decide)⟩

theorem allPlain_repr (n : Nat) : AllPlain n.repr := by
  intro c hc
  rw [Nat.toList_repr] at hc
  exact isPlain_of_isDigit (Nat.isDigit_of_mem_toDigits (by decide) (by decide) hc)

theorem allPlain_symbol (op : BinaryOp) : AllPlain op.symbol := by
  cases op <;> decide

theorem IsNumberText.isPlain {cs : List Char} (h : IsNumberText cs) :
    ∀ c ∈ cs, Text.IsPlain c := by
  have hdigits {ds : List Char} (hds : ∀ c ∈ ds, c.isDigit = true) : ∀ c ∈ ds, Text.IsPlain c := by
    intro c hc
    exact isPlain_of_isDigit (hds c hc)
  cases h with
  | whole hds => exact hdigits hds
  | pointed hds _ hfs =>
    rw [List.forall_mem_append, List.forall_mem_cons]
    exact ⟨hdigits hds, by decide, hdigits hfs⟩
  | fraction hfs => exact List.forall_mem_cons.2 ⟨by decide, hdigits hfs⟩

theorem Lexeme.isPlain {x : Lexeme} (hx : x.WellFormed) : ∀ c ∈ x.text, Text.IsPlain c := by
  rcases isLexeme_iff.2 ⟨x, hx, rfl⟩ with ⟨sign, hsign⟩ | hnumber
  · rw [hsign, List.forall_mem_singleton]
    cases sign <;> decide
  · exact hnumber.isPlain

theorem IsResultText.isPlain {cs : List Char} (h : IsResultText cs) : ∀ c ∈ cs, Text.IsPlain c := by
  obtain ⟨-, sign, whole, places, rfl, hsign, hwhole, hplaces⟩ := h
  rw [List.forall_mem_append, List.forall_mem_append]
  refine ⟨?_, ?_, ?_⟩
  · rcases hsign with rfl | rfl
    · exact List.forall_mem_nil _
    · exact List.forall_mem_singleton.2 (by decide)
  · cases hwhole with
    | zero => exact List.forall_mem_singleton.2 (by decide)
    | positive hd _ hds =>
      intro c hc
      rcases List.mem_cons.1 hc with rfl | hc
      · exact isPlain_of_isDigit hd
      · exact isPlain_of_isDigit (hds c hc)
  · cases hplaces with
    | none => exact List.forall_mem_nil _
    | tenths hd =>
      rw [List.forall_mem_cons, List.forall_mem_singleton]
      exact ⟨by decide, isPlain_of_isDigit hd⟩
    | hundredths hc hd =>
      rw [List.forall_mem_cons, List.forall_mem_cons, List.forall_mem_singleton]
      exact ⟨by decide, isPlain_of_isDigit hc, isPlain_of_isDigit hd⟩

/-! ### Messages -/

theorem EvalError.allPlain_message (error : EvalError) : AllPlain error.message := by
  cases error with
  | divisionByZero span =>
    show AllPlain ("division by zero at position " ++ span.start.toNat.repr)
    rw [allPlain_append]
    exact ⟨by decide, allPlain_repr _⟩
  | overflow op span =>
    show AllPlain ("arithmetic overflow in `" ++ op.symbol ++ "` at position " ++
      span.start.toNat.repr)
    rw [allPlain_append, allPlain_append, allPlain_append]
    exact ⟨⟨⟨by decide, allPlain_symbol op⟩, by decide⟩, allPlain_repr _⟩

/-- A message is plain if what was found is. -/
theorem ParseError.allPlain_unexpectedToken {found : String} (span : Span) (h : AllPlain found) :
    AllPlain (unexpectedToken found span).message := by
  show AllPlain ("unexpected token `" ++ found ++ "` at position " ++ span.start.toNat.repr)
  rw [allPlain_append, allPlain_append, allPlain_append]
  exact ⟨⟨⟨by decide, h⟩, by decide⟩, allPlain_repr _⟩

theorem ParseError.allPlain_unexpectedEnd (pos : UInt32) :
    AllPlain (unexpectedEnd pos).message := by
  show AllPlain ("unexpected end of input at position " ++ pos.toNat.repr)
  rw [allPlain_append]
  exact ⟨by decide, allPlain_repr _⟩

theorem LexError.allPlain_numberOutOfRange {literal : String} (pos : UInt32)
    (h : AllPlain literal) : AllPlain (numberOutOfRange literal pos).message := by
  show AllPlain ("number literal `" ++ literal ++ "` at position " ++ pos.toNat.repr ++
    " is out of range")
  rw [allPlain_append, allPlain_append, allPlain_append, allPlain_append]
  exact ⟨⟨⟨⟨by decide, h⟩, by decide⟩, allPlain_repr _⟩, by decide⟩

/-- A message with a character that no token begins with is plain but for that character. -/
theorem LexError.plain_or_of_unexpectedChar {char c : Char} {pos : UInt32}
    (hc : c ∈ (unexpectedChar char pos).message.toList) :
    Text.IsPlain c ∨ c = char ∧ Text.isPrintable char = true := by
  have hbefore : AllPlain "unexpected character '" := by decide
  have hbehind : AllPlain "' at position " := by decide
  have hquotes : ∀ q ∈ Text.bothQuotes, Text.isPrintable q = true :=
    List.forall_mem_cons.2 ⟨by decide, List.forall_mem_singleton.2 (by decide)⟩
  replace hc : c ∈ ("unexpected character '" ++
    String.ofList (Text.escape Text.bothQuotes char) ++ "' at position " ++
    pos.toNat.repr).toList := hc
  rw [String.toList_append, String.toList_append, String.toList_append, List.mem_append,
    List.mem_append, List.mem_append] at hc
  rcases hc with ((hc | hc) | hc) | hc
  · exact .inl (hbefore c hc)
  · rw [String.toList_ofList] at hc
    exact Text.isPlain_or_of_mem_escape hquotes hc
  · exact .inl (hbehind c hc)
  · exact .inl (allPlain_repr _ c hc)

/-! ### Outcomes -/

section
variable {source : String}

/-- The message of an error is plain, but for a character that no token begins with. -/
theorem plain_of_mem_message {error : ParseError} {c : Char}
    (hsize : source.utf8ByteSize ≤ maxOffset) (h : (parse source).1 = .error error)
    (hc : c ∈ error.message.toList) :
    Text.IsPlain c ∨
      Text.isPrintable c = true ∧
        ∃ pos, (parse source).1 = .error (.lex (.unexpectedChar c pos)) := by
  obtain ⟨offender, hfirst, rfl⟩ := parse_eq_error_iff.1 h
  have hmem := mem_of_firstOffender hfirst
  cases offender with
  | error error =>
    cases pointsInto_of_lex hsize hmem with
    | unexpectedChar hpos =>
      rcases LexError.plain_or_of_unexpectedChar hc with hplain | ⟨rfl, hprintable⟩
      · exact .inl hplain
      · exact .inr ⟨hprintable, _, h⟩
    | numberOutOfRange hliteral hpos =>
      exact .inl (LexError.allPlain_numberOutOfRange _ hliteral.isPlain c hc)
  | ok token =>
    left
    rcases covers_of_mem_items hsize hmem with ⟨rfl, -⟩ | ⟨x, hx, hkind, hcovers⟩
    · exact ParseError.allPlain_unexpectedEnd _ c hc
    · have hend : token.kind ≠ .endOfInput := by
        intro hend
        exact x.kind?_ne_endOfInput (hend ▸ hkind)
      rw [offence, if_neg hend, Token.textIn, hcovers.slice?_eq, Option.getD_some] at hc
      refine ParseError.allPlain_unexpectedToken _ ?_ c hc
      rw [AllPlain, String.toList_ofList]
      exact x.isPlain hx

/-- An outcome is plain, but for a character that no token begins with. -/
theorem plain_of_mem_render {c : Char} (hc : c ∈ (render source).1.text.toList) :
    Text.IsPlain c ∨
      Text.isPrintable c = true ∧
        ∃ pos, (parse source).1 = .error (.lex (.unexpectedChar c pos)) := by
  have hmark : AllPlain Outcome.errorMark := by decide
  rcases Nat.lt_or_ge maxOffset source.utf8ByteSize with hlong | hsize
  · have htext : AllPlain (Outcome.failure .invalidInput "input is too long").text := by decide
    rw [render, if_pos hlong] at hc
    exact .inl (htext c hc)
  · have hcomes := comesTo_render hsize
    generalize (render source).1 = outcome at hc hcomes
    -- Behind the mark there is the message of an error of the text.
    have hmessage {status : Status} {message : String}
        (h : c ∈ (Outcome.failure status message).text.toList) :
        Text.IsPlain c ∨ c ∈ message.toList := by
      rw [Outcome.failure, String.toList_append, List.mem_append] at h
      exact h.imp_left (hmark c)
    cases hcomes with
    | result hvalue hfinite htext => exact .inl (htext.isPlain c hc)
    | lex hparse => exact (hmessage hc).elim .inl (plain_of_mem_message hsize hparse)
    | parse hparse => exact (hmessage hc).elim .inl (plain_of_mem_message hsize hparse)
    | @eval e error hparse heval =>
      exact .inl ((hmessage hc).elim id (error.allPlain_message c))

/-- There is no NUL character in an outcome. -/
theorem nul_not_mem_render : '\x00' ∉ (render source).1.text.toList := by
  intro hmem
  rcases plain_of_mem_render hmem with hplain | ⟨hprintable, -⟩
  · exact absurd hplain.1 (by decide)
  · exact absurd hprintable (by decide)

end

theorem nul_not_mem_outcomeFor (argument : Option ByteArray) :
    '\x00' ∉ (outcomeFor argument).1.text.toList := by
  cases argument with
  | none => decide
  | some bytes =>
    rw [outcomeFor]
    cases String.fromUTF8? (CString.untilNul bytes) with
    | some source => exact nul_not_mem_render
    | none =>
      have htext : '\x00' ∉ "error: input is not valid UTF-8".toList := by decide
      exact htext

end Reckon
