/-
Texts written word by word.

Words may be written one behind the other with any blanks between them, or none; only a number right
behind a number needs a blank in front, or the two would be read as one.

* `separate_of_isChain`: no word of such a text is read on into what follows it;
* `tokenize_writing`: the tokens of the text are those of the words, each at the place where its
  lexeme was written.
-/
import Mathlib.Data.List.Chain
import Reckon.Proofs.TooLong

namespace Reckon

namespace Word

/-- Whether the word is a number. -/
def isNumber (w : Word) : Bool :=
  match w.lexeme with
  | .symbol _ => false
  | .number _ => true

/-- Two words, one behind the other, are not two numbers without a blank between them. -/
def Apart (w w' : Word) : Prop := w.isNumber = true → w'.isNumber = true → w'.gap ≠ []

/-- A word is not read on into one that is apart from it. -/
theorem Apart.head_text {w w' : Word} (h : w.Apart w') (rest : List Char) :
    (w'.text ++ rest).head?.any w.lexeme.continuesWith = false := by
  rw [text]
  cases hgap : w'.gap with
  | cons c cs =>
    have hc : isBlank c = true := w'.isBlank_of_mem c (by simp [hgap])
    exact w.lexeme.continuesWith_of_isBlank hc
  | nil =>
    cases hx' : w'.lexeme with
    | symbol sign => exact w.lexeme.continuesWith_char sign
    | number n =>
      cases hx : w.lexeme with
      | symbol sign => exact Lexeme.any_continuesWith_symbol sign _
      | number m => exact absurd hgap (h (by simp [isNumber, hx]) (by simp [isNumber, hx']))

end Word

section
variable {words : List Word} {tail : List Char}

theorem head_blank (x : Lexeme) (htail : ∀ c ∈ tail, isBlank c = true) :
    tail.head?.any x.continuesWith = false := by
  cases tail with
  | nil => rfl
  | cons c tail => exact x.continuesWith_of_isBlank (htail c (by simp))

/-- Words that are apart from each other, with blanks behind them, are not read on. -/
theorem separate_of_isChain (hwords : words.IsChain Word.Apart)
    (htail : ∀ c ∈ tail, isBlank c = true) : Separate tail words := by
  induction words with
  | nil => trivial
  | cons w words ih =>
    refine ⟨?_, ih hwords.tail⟩
    cases words with
    | nil => exact head_blank w.lexeme htail
    | cons w' words =>
      rw [writing, List.flatMap_cons, List.append_assoc]
      exact hwords.rel.head_text _

/-- As many words as there are before a word, as many tokens are before its token. -/
theorem getElem?_tokensAt (front : List Word) (w : Word) (back : List Word) :
    (tokensAt 0 (front ++ w :: back))[front.length]? =
      some (w.token (Text.byteLength (writing front))) := by
  rw [tokensAt_append, Nat.zero_add,
    List.getElem?_append_right (Nat.le_of_eq (length_tokensAt 0 front)), length_tokensAt,
    Nat.sub_self]
  rfl

end

/-- **Cutting a text into tokens undoes writing it.**  Words that are apart from each other, with
blanks behind them, have one token each, in their order: the token has the kind of the word, and its
span is where the lexeme of the word is written.  Behind these there is the end token, at the end of
the text.  As long as positions fit into spans, the span is the part of the text that has the
lexeme. -/
theorem tokenize_writing {words : List Word} {tail : List Char}
    (hwords : words.IsChain Word.Apart) (htail : ∀ c ∈ tail, isBlank c = true) :
    tokenize (String.ofList (writing words ++ tail)) =
        .ok (tokensAt 0 words ++
          [⟨.endOfInput, .point (Text.byteLength (writing words ++ tail))⟩]) ∧
      (tokensAt 0 words).length = words.length ∧
      ∀ (front : List Word) (w : Word) (back : List Word), words = front ++ w :: back →
        ∃ token, (tokensAt 0 words)[front.length]? = some token ∧ token.kind = w.kind ∧
          token.span = .ofRange (Text.byteLength (writing front ++ w.gap))
            (Text.byteLength (writing front ++ w.gap ++ w.lexeme.text)) ∧
          (Text.byteLength (writing words ++ tail) ≤ maxOffset →
            Text.slice? (writing words ++ tail) token.span.start.toNat token.span.stop.toNat =
              some w.lexeme.text) := by
  have hseparate := separate_of_isChain hwords htail
  refine ⟨?_, length_tokensAt 0 words, ?_⟩
  · have hcuts := Cuts.finished (String.toList_ofList) hseparate htail
    have hend : endToken (String.ofList (writing words ++ tail)) =
        ⟨.endOfInput, .point (Text.byteLength (writing words ++ tail))⟩ := by
      rw [endToken, Text.byteLength_ofList]
    rw [hcuts.tokenize_eq, hend]
    rfl
  · rintro front w back rfl
    refine ⟨_, getElem?_tokensAt front w back, rfl, ?_, ?_⟩
    · rw [Word.token, Word.length, Text.byteLength_append, Text.byteLength_append,
        Text.byteLength_append, Nat.add_assoc]
    · intro hsize
      have hslice := Text.slice?_append (writing front ++ w.gap) w.lexeme.text
        (writing back ++ tail)
      simp only [writing_append, writing_cons, Text.byteLength_append] at hsize
      rw [Word.token, Word.length, Span.ofRange_start (by omega), Span.ofRange_stop (by omega)]
      simpa [Nat.add_assoc] using hslice

/-- A sign needs no blanks around it, not even behind a point; two numbers need one. -/
theorem tokenize_writing_points :
    tokenize "1.+.5 2\n" = .ok
      [⟨.number ⟨0x3FF0000000000000⟩, ⟨0, 2⟩⟩, ⟨.symbol .plus, ⟨2, 3⟩⟩,
        ⟨.number ⟨0x3FE0000000000000⟩, ⟨3, 5⟩⟩, ⟨.number ⟨0x4000000000000000⟩, ⟨6, 7⟩⟩,
        ⟨.endOfInput, ⟨8, 8⟩⟩] := by
  let one : Word := .numeral ⟨['1'], some []⟩ ⟨0x3FF0000000000000⟩
    ⟨List.forall_mem_singleton.2 rfl, List.cons_ne_nil _ _⟩ (by decide +kernel)
  let half : Word := .numeral ⟨[], some ['5']⟩ ⟨0x3FE0000000000000⟩
    ⟨List.forall_mem_singleton.2 rfl, List.cons_ne_nil _ _⟩ (by decide +kernel)
  let two : Word := ⟨[' '], .number ⟨['2'], none⟩, .number ⟨0x4000000000000000⟩,
    List.forall_mem_singleton.2 rfl, ⟨List.forall_mem_singleton.2 rfl, List.cons_ne_nil _ _⟩,
    by decide +kernel⟩
  have hwords : [one, .sign .plus, half, two].IsChain Word.Apart := by
    refine .cons_cons ?_ (.cons_cons ?_ (.cons_cons ?_ (.singleton two)))
    · exact fun _ h => absurd h (by decide)
    · exact fun h _ => absurd h (by decide)
    · exact fun _ _ => List.cons_ne_nil _ _
  have htail : ∀ c ∈ ['\n'], isBlank c = true := List.forall_mem_singleton.2 rfl
  exact (tokenize_writing hwords htail).1

/-- Behind too many blanks a number is written at other bytes than those of its span, and the text
has another length than the end token says. -/
theorem tokenize_writing_pastOffsets :
    [Word.oneBehind 4294967296].IsChain Word.Apart ∧
    Text.byteLength (Word.oneBehind 4294967296).gap = 4294967296 ∧
    Text.byteLength (writing [.oneBehind 4294967296]) = 4294967297 ∧
    tokenize (String.ofList (writing [.oneBehind 4294967296])) = .ok
      [⟨.number ⟨0x3FF0000000000000⟩, ⟨4294967295, 4294967295⟩⟩,
        ⟨.endOfInput, ⟨4294967295, 4294967295⟩⟩] := by
  have hsize := utf8ByteSize_farOne 4294967296
  have htokens := (cuts_farOne 4294967296).tokenize_eq
  rw [endToken_of_maxOffset_le (hsize ▸ by decide), tokensAt,
    Word.token_oneBehind_of_maxOffset_le (by decide)] at htokens
  rw [farOne, Text.byteLength_ofList] at hsize
  rw [writing_oneBehind]
  exact ⟨.singleton _, byteLength_blanks _, hsize, htokens⟩

end Reckon
