/-
Texts with more text behind them.

What a scan has taken in, it takes in again when more is written behind the text; so a text that
fails before its end fails at the same place with anything behind it.  Only its last lexeme may be
read on, which makes a number of a number, or one that is out of range.  A text that fails at its
end is short of an operand or of parentheses, and these can be written behind it.

* `exists_stopsBefore_of_parse`, `StopsBefore.exists_parse_error`: a text that fails before its end
  does so at what is not taken in, and there it always fails;
* `StopsBefore.append`: what is not taken in stays so with more behind it;
* `StopsBefore.atLastPoint`, `ParseError.AtLastPoint.pos_eq`: the one exception is a point at the
  very end;
* `exists_suffix_of_move_endOfInput`: what is missing at an end that does not fit can be written
  behind it;
* `parse_append`: so a failing text can be completed if it fails at its end, and not otherwise.
-/
import Mathlib.Data.List.Basic
import Reckon.Proofs.FirstOffender
import Reckon.Proofs.ReadOn

namespace Reckon

/-! ### Text that is not taken in -/

namespace Scan

variable {s : Scan}

/-- One number is as good as another. -/
theorem move_number (s : Scan) (x y : Binary64) : s.move (.number x) = s.move (.number y) := by
  obtain ⟨needed, depth⟩ := s
  cases needed <;> cases depth <;> rfl

/-- As many parentheses as are open can be closed. -/
theorem moves_closeParen (depth : Nat) :
    moves ⟨false, depth⟩ (List.replicate depth (.symbol .closeParen)) = some ⟨false, 0⟩ := by
  induction depth with
  | zero => rfl
  | succ depth ih =>
    rw [List.replicate_succ, moves_cons]
    exact ih

/-- The text begins with no token that is taken in. -/
def Refuses (s : Scan) (cs : List Char) : Prop :=
  ∀ x rest kind, Lexeme.munch cs = some (x, rest) → x.kind? = some kind → s.move kind = none

/-- With more text behind it, it still does not, unless all of it was a point. -/
theorem Refuses.append {c : Char} {cs : List Char} (h : s.Refuses (c :: cs))
    (hpoint : c = '.' → cs ≠ []) (more : List Char) : s.Refuses (c :: cs ++ more) := by
  intro x rest kind hmunch hkind
  obtain ⟨y, rest', kind', hbefore, hkind', rfl | ⟨u, v, rfl, rfl⟩⟩ :=
    Lexeme.exists_munch_of_append hmunch hkind hpoint
  · exact h y rest' _ hbefore hkind'
  · rw [s.move_number v u]
    exact h y rest' _ hbefore hkind'

/-- The first item of such a text does not fit, and the failure is where the text begins. -/
theorem Refuses.firstOffender_items {c : Char} {gap cs : List Char} (h : s.Refuses (c :: cs))
    (hgap : ∀ d ∈ gap, isBlank d = true) (hc : isBlank c = false) (source : String)
    (offset : Nat) :
    ∃ offender,
      s.firstOffender (Lexer.items ⟨source, gap ++ c :: cs, offset, false⟩) = some offender ∧
      (offence source offender).pos = saturate (offset + Text.byteLength gap) := by
  have hhead : (c :: cs).head?.any isBlank = false := hc
  have hnext := Lexer.next_behind (l := ⟨source, gap ++ c :: cs, offset, false⟩) rfl rfl hgap hhead
  rw [Lexer.items_eq, hnext, Lexer.item]
  dsimp only
  cases hmunch : Lexeme.munch (c :: cs) with
  | none => exact ⟨_, rfl, rfl⟩
  | some read =>
    obtain ⟨x, rest⟩ := read
    dsimp only
    cases hkind : x.kind? with
    | none => exact ⟨_, rfl, rfl⟩
    | some kind =>
      have hmove := h _ _ _ hmunch hkind
      have hend : kind ≠ .endOfInput := by
        rintro rfl
        exact x.kind?_ne_endOfInput hkind
      refine ⟨_, firstOffender_of_move_eq_none hmove, ?_⟩
      rw [offence, if_neg hend]
      rfl

end Scan

/-! ### Where parsing stops -/

/-- Parsing stops between the two texts: the first one is words that are taken in, and blanks; the
second one begins with no blank, and with nothing that is taken in. -/
inductive StopsBefore : List Char → List Char → Prop where
  | intro {words : List Word} {gap cs : List Char} {c : Char} {s : Scan}
      (hwords : Separate (gap ++ c :: cs) words) (hgap : ∀ d ∈ gap, isBlank d = true)
      (hc : isBlank c = false) (hmoves : Scan.start.moves (words.map Word.kind) = some s)
      (hrefuses : s.Refuses (c :: cs)) : StopsBefore (writing words ++ gap) (c :: cs)

namespace StopsBefore

variable {source : String} {front rest : List Char}

theorem append (h : StopsBefore front rest) (hpoint : rest ≠ ['.']) (more : List Char) :
    StopsBefore front (rest ++ more) := by
  cases h with
  | @intro words gap cs c s hwords hgap hc hmoves hrefuses =>
    refine .intro (hwords.imp fun x hx => ?_) hgap hc hmoves (hrefuses.append ?_ more)
    · -- The first character behind the words is the same.
      cases gap <;> exact hx
    · rintro rfl rfl
      exact hpoint rfl

/-- Where a text stops being taken in it fails. -/
theorem exists_parse_error (h : StopsBefore front rest) (htext : source.toList = front ++ rest) :
    ∃ error, (parse source).1 = .error error ∧
      error.pos = saturate (Text.byteLength front) := by
  cases h with
  | @intro words gap cs c s hwords hgap hc hmoves hrefuses =>
    obtain ⟨offender, hoffender, hpos⟩ :=
      hrefuses.firstOffender_items hgap hc source (Text.byteLength (writing words))
    rw [← map_kind_tokensAt 0] at hmoves
    have hfirst : Scan.start.firstOffender (Lexer.start source).items = some offender := by
      rw [Lexer.start, htext, List.append_assoc, Lexer.items_writing source 0 hwords,
        Scan.firstOffender_append hmoves, Nat.zero_add, hoffender]
    exact ⟨_, parse_eq_offence_of_some hfirst, by rw [hpos, Text.byteLength_append]⟩

/-- A text stops being taken in before a word that does not fit. -/
theorem of_word {before behind : List Word} {w : Word} {s : Scan}
    (hwords : Separate rest (before ++ w :: behind))
    (hmoves : Scan.start.moves (before.map Word.kind) = some s) (hnone : s.move w.kind = none) :
    StopsBefore (writing before ++ w.gap) (w.lexeme.text ++ (writing behind ++ rest)) := by
  obtain ⟨hbefore, hstops, -⟩ := separate_append.1 hwords
  have hmunch := Lexeme.munch_text_append w.wellFormed hstops
  obtain ⟨c, cs, hlexeme, hc⟩ := Lexeme.head_text w.wellFormed
  rw [writing_cons, List.append_assoc, List.append_assoc] at hbefore
  rw [hlexeme, List.cons_append] at hbefore hmunch ⊢
  refine .intro hbefore w.isBlank_of_mem hc hmoves fun x rest' kind hx hkind => ?_
  obtain ⟨rfl, -⟩ := Prod.mk.inj (Option.some.inj (hmunch.symm.trans hx))
  obtain rfl := Option.some.inj (w.kind?_lexeme.symm.trans hkind)
  exact hnone

/-- A text stops being taken in before an obstacle. -/
theorem of_stuck {words : List Word} {gap : List Char} {obstacle : Obstacle} {s : Scan}
    (hwords : Separate rest words) (hmoves : Scan.start.moves (words.map Word.kind) = some s)
    (hrest : Stuck gap obstacle rest) :
    ∃ cs, rest = gap ++ cs ∧ StopsBefore (writing words ++ gap) cs := by
  cases hrest with
  | stray hgap hc hmunch =>
    refine ⟨_, rfl, .intro hwords hgap hc hmoves fun x rest' kind hx _ => ?_⟩
    exact absurd (hmunch.symm.trans hx) (by simp)
  | @outOfRange n cs hgap hn hstops hrange =>
    have hmunch := Lexeme.munch_text_append (x := .number n) hn hstops
    obtain ⟨c, tail, hlexeme, hc⟩ := Lexeme.head_text (x := .number n) hn
    rw [Lexeme.text] at hlexeme hmunch
    rw [hlexeme, List.cons_append] at hmunch hwords
    refine ⟨n.text ++ cs, rfl, ?_⟩
    rw [hlexeme, List.cons_append]
    refine .intro hwords hgap hc hmoves fun x rest' kind hx hkind => ?_
    obtain ⟨rfl, -⟩ := Prod.mk.inj (Option.some.inj (hmunch.symm.trans hx))
    exact absurd (hkind.symm.trans (Lexeme.kind?_eq_none_of_range hrange)) (by simp)

end StopsBefore

section
variable {source : String} {error : ParseError}

/-- A text that fails, but not at its end, stops being taken in somewhere. -/
theorem exists_stopsBefore_of_parse (h : (parse source).1 = .error error)
    (hend : ∀ pos, error ≠ .unexpectedEnd pos) :
    ∃ front rest, source.toList = front ++ rest ∧ StopsBefore front rest := by
  obtain ⟨words, hfails⟩ := exists_failsAfter h
  cases hfails with
  | word htext hwords hmoves hnone =>
    refine ⟨_, _, ?_, .of_word hwords hmoves hnone⟩
    rw [htext, writing_append, writing_cons]
    simp only [List.append_assoc]
  | obstacle htext hwords hmoves hrest =>
    obtain ⟨cs, rfl, hstops⟩ := StopsBefore.of_stuck hwords hmoves hrest
    exact ⟨_, _, by rw [htext, List.append_assoc], hstops⟩
  | ending => exact absurd rfl (hend _)

/-! ### A point at the end -/

/-- The error is that of a point at the end of the text, with nothing but tokens before it, and so
an error at the last byte (`pos_eq`). -/
def ParseError.AtLastPoint (source : String) (error : ParseError) : Prop :=
  (∃ pos, error = .lex (.unexpectedChar '.' pos)) ∧
    ∃ front tokens, source = front ++ "." ∧ tokenize front = .ok tokens

-- With digits behind it the point belongs to a number.
example : (parse "1+.").1 = .error (.lex (.unexpectedChar '.' 2)) ∧
    (parse "1+.5").1.isOk = true := by decide +kernel

/-- A text of which all is taken in but a point at its end fails at the point. -/
theorem StopsBefore.atLastPoint {front : List Char} (h : StopsBefore front ['.'])
    (htext : source.toList = front ++ ['.']) (hparse : (parse source).1 = .error error) :
    error.AtLastPoint source := by
  generalize hrest : ['.'] = rest at h
  cases h with
  | @intro words gap cs c s hwords hgap hc hmoves hrefuses =>
    obtain ⟨rfl, rfl⟩ := List.cons.inj hrest
    have hstuck : Stuck gap (.stray '.') (gap ++ ['.']) := .stray hgap hc rfl
    have hcuts : Cuts source words _ := .stuck (by rw [htext, List.append_assoc]) hwords hstuck
    rw [← map_kind_tokensAt 0] at hmoves
    have hfirst : Scan.start.firstOffender (Lexer.start source).items =
        some (.error (.unexpectedChar '.'
          (saturate (Text.byteLength (writing words) + Text.byteLength gap)))) := by
      rw [hcuts.items_start, Scan.firstOffender_append hmoves]
      rfl
    obtain rfl := Except.error.inj (hparse.symm.trans (parse_eq_offence_of_some hfirst))
    -- Without the point the blanks before it are the last of the text.
    have hfront : Separate gap words := hwords.imp fun x hx => by
      cases gap with
      | nil => rfl
      | cons d gap => exact hx
    refine ⟨⟨_, rfl⟩, String.ofList (writing words ++ gap), _, ?_,
      tokenize_eq_ok_iff.2 ⟨words, .finished String.toList_ofList hfront hgap, rfl⟩⟩
    rw [← String.toList_inj, htext, String.toList_append, String.toList_ofList]
    rfl

/-- Such an error is at the last byte of the text. -/
theorem ParseError.AtLastPoint.pos_eq (h : error.AtLastPoint source)
    (hparse : (parse source).1 = .error error) :
    error.pos = saturate (source.utf8ByteSize - 1) := by
  obtain ⟨⟨pos, rfl⟩, front, tokens, rfl, htokens⟩ := h
  obtain ⟨words, hfails⟩ := exists_failsAfter hparse
  generalize hlex : LexError.unexpectedChar '.' pos = lexError at hfails
  cases hfails with
  | @obstacle rest gap obstacle s htext hwords hmoves hrest =>
    cases hrest with
    | outOfRange => simp [Obstacle.error] at hlex
    | @stray c cs hgap hc hmunch =>
      obtain ⟨rfl, rfl⟩ := LexError.unexpectedChar.inj hlex
      rw [String.toList_append] at htext
      rcases List.eq_nil_or_concat' cs with rfl | ⟨cs, d, rfl⟩
      · have hlength : (front ++ ".").utf8ByteSize =
            Text.byteLength (writing words) + Text.byteLength gap + 1 := by
          rw [← Text.byteLength_toList, String.toList_append, htext, Text.byteLength_append,
            Text.byteLength_append, ← Nat.add_assoc]
          rfl
        rw [hlength, Nat.add_sub_cancel]
        rfl
      · -- Otherwise the point would be an obstacle for what is before the last character, too.
        have hsplit : writing words ++ (gap ++ '.' :: (cs ++ [d])) =
            writing words ++ (gap ++ '.' :: cs) ++ [d] := by simp
        have hfront := (List.append_inj' (htext.trans hsplit) rfl).1
        have hcuts : Cuts front words _ := .stuck hfront
          (hwords.imp fun x hx => by cases gap <;> exact hx)
          (.stray hgap hc (Lexeme.munch_eq_none_of_append hmunch))
        rw [hcuts.tokenize_eq] at htokens
        exact absurd htokens (by simp [Except.map])

/-- A text that fails, but neither at its end nor at a point there, fails at the same place with
anything behind it. -/
theorem exists_error_append (h : (parse source).1 = .error error)
    (hend : ∀ pos, error ≠ .unexpectedEnd pos) (hpoint : ¬ error.AtLastPoint source)
    (more : String) :
    ∃ error', (parse (source ++ more)).1 = .error error' ∧ error'.pos = error.pos := by
  obtain ⟨front, rest, htext, hstops⟩ := exists_stopsBefore_of_parse h hend
  have hne : rest ≠ ['.'] := by
    rintro rfl
    exact hpoint (hstops.atLastPoint htext h)
  have htext' : (source ++ more).toList = front ++ (rest ++ more.toList) := by
    rw [String.toList_append, htext, List.append_assoc]
  obtain ⟨error', herror', hpos'⟩ := (hstops.append hne more.toList).exists_parse_error htext'
  obtain ⟨error₀, herror, hpos⟩ := hstops.exists_parse_error htext
  obtain rfl := Except.error.inj (herror.symm.trans h)
  exact ⟨error', herror', hpos'.trans hpos.symm⟩

end

/-! ### Ends with something missing -/

section
variable {source : String} {words : List Word} {rest : List Char} {s : Scan}

/-- A text all of which is taken in is parsed. -/
theorem exists_parse_of_moves (hcuts : Cuts source words (.ok (endToken source)))
    (hmoves : Scan.start.moves (words.map Word.kind) = some ⟨false, 0⟩) :
    ∃ e, (parse source).1 = .ok e := by
  rw [← map_kind_tokensAt 0] at hmoves
  have hfirst : Scan.start.firstOffender (Lexer.start source).items = none := by
    rw [hcuts.items_start, Scan.firstOffender_append hmoves]
    rfl
  have hparse := parse_eq_offence source
  rwa [hfirst] at hparse

/-- The word, and behind it so many parentheses that close groups. -/
def Word.closed (w : Word) (depth : Nat) : List Word :=
  w :: List.replicate depth (.sign .closeParen)

theorem Word.separate_closed (w : Word) (depth : Nat) : Separate [] (w.closed depth) := by
  have hclosing (n : Nat) : Separate [] (List.replicate n (.sign .closeParen)) := by
    induction n with
    | zero => trivial
    | succ n ih => exact ⟨Lexeme.any_continuesWith_symbol .closeParen _, ih⟩
  refine ⟨?_, hclosing depth⟩
  rw [List.append_nil]
  cases depth with
  | zero => rfl
  | succ depth => exact w.lexeme.continuesWith_char .closeParen

/-- A word after which only groups are open can be closed. -/
theorem Word.moves_closed {w : Word} {depth : Nat} (h : s.move w.kind = some ⟨false, depth⟩) :
    s.moves ((w.closed depth).map Word.kind) = some ⟨false, 0⟩ := by
  have hkinds : (List.replicate depth (Word.sign .closeParen)).map Word.kind =
      List.replicate depth (.symbol .closeParen) := List.map_replicate
  rw [closed, List.map_cons, hkinds, Scan.moves_cons, h]
  exact Scan.moves_closeParen depth

/-- Where the end does not fit an operand is needed or a group is open: there is a word for it. -/
theorem Scan.exists_word_of_move_endOfInput (h : s.move .endOfInput = none) {gap : List Char}
    (hgap : ∀ c ∈ gap, isBlank c = true) :
    ∃ (w : Word) (depth : Nat), w.gap = gap ∧ s.move w.kind = some ⟨false, depth⟩ := by
  obtain ⟨needed, depth⟩ := s
  cases needed with
  | true =>
    have hn : (⟨['0'], none⟩ : Numeral).WellFormed :=
      ⟨List.forall_mem_singleton.2 rfl, List.cons_ne_nil _ _⟩
    have hvalue : (⟨['0'], none⟩ : Numeral).toBinary64? = some ⟨0⟩ := by decide +kernel
    refine ⟨⟨gap, .number ⟨['0'], none⟩, .number ⟨0⟩, hgap, hn, ?_⟩, depth, rfl, rfl⟩
    rw [Lexeme.kind?, hvalue]
    rfl
  | false =>
    cases depth with
    | zero => exact absurd h (by simp [move])
    | succ depth => exact ⟨.signAfter gap hgap .closeParen, depth, rfl, rfl⟩

/-- A text at whose end something is missing can be completed: an operand is written behind it if
one is needed, and then the parentheses that close the open groups. -/
theorem exists_suffix_of_move_endOfInput (htext : source.toList = writing words ++ rest)
    (hwords : Separate rest words) (hrest : ∀ c ∈ rest, isBlank c = true)
    (hmoves : Scan.start.moves (words.map Word.kind) = some s) (hend : s.move .endOfInput = none) :
    ∃ suffix e, (parse (source ++ suffix)).1 = .ok e := by
  have hgap : ∀ c ∈ rest ++ [' '], isBlank c = true :=
    List.forall_mem_append.2 ⟨hrest, List.forall_mem_singleton.2 rfl⟩
  obtain ⟨w, depth, hw, hmove⟩ := Scan.exists_word_of_move_endOfInput hend hgap
  obtain ⟨suffix, hwriting⟩ : ∃ suffix, writing (w.closed depth) = rest ++ ' ' :: suffix := by
    rw [Word.closed, writing_cons, hw, List.append_assoc]
    exact ⟨_, rfl⟩
  have htext' : (source ++ String.ofList (' ' :: suffix)).toList =
      writing (words ++ w.closed depth) ++ [] := by
    rw [String.toList_append, htext, String.toList_ofList, List.append_nil, writing_append,
      hwriting, List.append_assoc]
  have hseparate : Separate [] (words ++ w.closed depth) := by
    refine separate_append.2 ⟨hwords.imp fun x _ => ?_, w.separate_closed depth⟩
    -- There is a blank behind the words, which no lexeme is read on into.
    rw [hwriting, List.append_nil]
    cases rest with
    | nil => exact x.continuesWith_of_isBlank rfl
    | cons c rest => exact x.continuesWith_of_isBlank (hrest c (by simp))
  refine ⟨String.ofList (' ' :: suffix),
    exists_parse_of_moves (.finished htext' hseparate isBlank_of_mem_nil) ?_⟩
  rw [List.map_append, Scan.moves_append, hmoves]
  exact Word.moves_closed hmove

end

/-- A text that fails at its end can be completed. -/
theorem exists_suffix_of_unexpectedEnd {source : String} {pos : UInt32}
    (h : (parse source).1 = .error (.unexpectedEnd pos)) :
    ∃ suffix e, (parse (source ++ suffix)).1 = .ok e := by
  obtain ⟨words, hfails⟩ := exists_failsAfter h
  cases hfails with
  | ending htext hwords hmoves hrest hend =>
    exact exists_suffix_of_move_endOfInput htext hwords hrest hmoves hend

/-- **Only a text that fails at its end can be completed.**  If more is needed where the text ends,
something can be written behind it with which it is parsed.  With any other failure, a point at the
very end apart, it fails whatever is written behind it, and at the same place.  A point at the very
end is an error at the last byte. -/
theorem parse_append {source : String} {error : ParseError} (h : (parse source).1 = .error error) :
    ((∃ pos, error = .unexpectedEnd pos) → ∃ suffix e, (parse (source ++ suffix)).1 = .ok e) ∧
    ((∀ pos, error ≠ .unexpectedEnd pos) → ¬ error.AtLastPoint source →
      ∀ suffix, ∃ error', (parse (source ++ suffix)).1 = .error error' ∧
        error'.pos = error.pos) ∧
    (error.AtLastPoint source → error.pos = saturate (source.utf8ByteSize - 1)) := by
  refine ⟨?_, exists_error_append h, fun hpoint => hpoint.pos_eq h⟩
  rintro ⟨pos, rfl⟩
  exact exists_suffix_of_unexpectedEnd h

/-- The first text lacks an operand and a parenthesis; in the second one a number is behind another,
and that the number may go on does not help; the third one ends with a point. -/
theorem parse_append_group :
    (∃ suffix e, (parse ("2*(" ++ suffix)).1 = .ok e) ∧
      (∀ suffix, ∃ error, (parse ("(1 2" ++ suffix)).1 = .error error ∧ error.pos = 3) ∧
      ∃ error, (parse "1+.").1 = .error error ∧ error.pos = 2 := by
  have hopen : (parse "2*(").1 = .error (.unexpectedEnd 3) := by decide +kernel
  have hnumber : (parse "(1 2").1 = .error (.unexpectedToken "2" ⟨3, 4⟩) := by decide +kernel
  have hpoint : (parse "1+.").1 = .error (.lex (.unexpectedChar '.' 2)) := by decide +kernel
  have htokens : tokenize "1+" = .ok [⟨.number ⟨0x3FF0000000000000⟩, ⟨0, 1⟩⟩,
      ⟨.symbol .plus, ⟨1, 2⟩⟩, ⟨.endOfInput, ⟨2, 2⟩⟩] := by decide +kernel
  refine ⟨(parse_append hopen).1 ⟨3, rfl⟩, (parse_append hnumber).2.1 (by simp) ?_,
    _, hpoint, (parse_append hpoint).2.2 ⟨⟨2, rfl⟩, "1+", _, by decide, htokens⟩⟩
  rintro ⟨⟨pos, hpos⟩, -⟩
  exact absurd hpos (by simp)

end Reckon
