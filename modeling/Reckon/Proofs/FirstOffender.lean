/-
Where parsing fails.

To find out where a text goes wrong no trees are needed, and no groups: a `Scan` knows only whether
an operand is needed and how many parentheses are open.  It goes over the items of a text, and the
first one that it does not take in is the one that parsing fails at.  What comes after that item
does not matter.

* `Reader.move_scan`: a reader takes in what the scan of it takes in;
* `parse_eq_offence`: a text is parsed if the scan takes in all its items, and otherwise parsing
  fails at the first that it does not take in;
* `exists_failsAfter`: then all words before that item are taken in, and it is the token of a word,
  what is no token, or the end.
-/
import Reckon.Proofs.ParseGrammar
import Reckon.Proofs.Partition

namespace Reckon

/-- What decides which token may come next. -/
structure Scan where
  /-- Whether an operand is needed; an operator or an end is expected otherwise. -/
  needed : Bool
  /-- The number of open groups. -/
  depth : Nat
  deriving DecidableEq

namespace Scan

/-- Before the first token. -/
def start : Scan := ⟨true, 0⟩

/-- Takes in a token; none if it does not fit.  The end token fits after an operand where no group
is open. -/
def move : Scan → TokenKind → Option Scan
  | ⟨true, depth⟩, .number _ => some ⟨false, depth⟩
  | ⟨true, depth⟩, .symbol .plus => some ⟨true, depth⟩
  | ⟨true, depth⟩, .symbol .minus => some ⟨true, depth⟩
  | ⟨true, depth⟩, .symbol .openParen => some ⟨true, depth + 1⟩
  | ⟨true, _⟩, _ => none
  | ⟨false, depth⟩, .symbol .plus => some ⟨true, depth⟩
  | ⟨false, depth⟩, .symbol .minus => some ⟨true, depth⟩
  | ⟨false, depth⟩, .symbol .star => some ⟨true, depth⟩
  | ⟨false, depth⟩, .symbol .slash => some ⟨true, depth⟩
  | ⟨false, depth + 1⟩, .symbol .closeParen => some ⟨false, depth⟩
  | ⟨false, 0⟩, .endOfInput => some ⟨false, 0⟩
  | ⟨false, _⟩, _ => none

/-- The first item that does not fit: a token that is not taken in, or an error. -/
def firstOffender (s : Scan) : List (Except LexError Token) → Option (Except LexError Token)
  | [] => none
  | .error error :: _ => some (.error error)
  | .ok token :: items =>
    match s.move token.kind with
    | some s' => firstOffender s' items
    | none => some (.ok token)

end Scan

/-- The failure at an item that does not fit. -/
def offence (source : String) : Except LexError Token → ParseError
  | .error error => .lex error
  | .ok token =>
    if token.kind = .endOfInput then .unexpectedEnd (saturate source.utf8ByteSize)
    else .unexpectedToken (String.ofList ((token.textIn source).getD [])) token.span

namespace Reader

/-- All that a reader goes by when it takes in a token or does not. -/
def scan (r : Reader) : Scan := ⟨r.operand.isNone, r.outer.length⟩

theorem Move.move_scan {r r' : Reader} {token : Token} (h : Move r token r') :
    r.scan.move token.kind = some r'.scan := by
  cases h with
  | number value span => rfl
  | sign op span => cases op <;> rfl
  | opening span => rfl
  | factorOp op hop span => cases op <;> simp only [BinaryOp.rank, reduceCtorEq] at hop <;> rfl
  | termOp op hop span => cases op <;> simp only [BinaryOp.rank, reduceCtorEq] at hop <;> rfl
  | closing span => rfl

theorem move_scan_eq_none {r : Reader} {token : Token} (h : r.read token = none)
    (hend : token.kind ≠ .endOfInput) : r.scan.move token.kind = none := by
  obtain ⟨operand, group, outer⟩ := r
  obtain ⟨kind, span⟩ := token
  cases operand with
  | none =>
    cases kind with
    | number value => exact nomatch h
    | symbol sign =>
      cases sign with
      | plus | minus | openParen => exact nomatch h
      | star | slash | closeParen => rfl
    | endOfInput => exact absurd rfl hend
  | some t =>
    cases kind with
    | number value => cases outer <;> rfl
    | symbol sign =>
      cases sign with
      | closeParen =>
        cases outer with
        | nil => rfl
        | cons group' outer => exact nomatch h
      | openParen => cases outer <;> rfl
      | plus | minus | star | slash => exact nomatch h
    | endOfInput => exact absurd rfl hend

/-- A reader takes in the tokens that the scan of it takes in. -/
theorem move_scan (r : Reader) {token : Token} (hend : token.kind ≠ .endOfInput) :
    r.scan.move token.kind = (r.read token).map scan := by
  cases hread : r.read token with
  | none => exact move_scan_eq_none hread hend
  | some r' => exact (read_eq_some_iff.1 hread).move_scan

/-- The end fits where there is a result. -/
theorem move_scan_endOfInput (r : Reader) :
    r.scan.move .endOfInput = r.result?.map fun _ => r.scan := by
  obtain ⟨operand, group, outer⟩ := r
  cases operand <;> cases outer <;> rfl

/-- The verdict on tokens without an end token among them, and on the item after them. -/
theorem verdict_eq_offence {source : String} {last : Except LexError Token} {tokens : List Token}
    (hlast : ∀ token, last = .ok token → token = endToken source)
    (htokens : ∀ token ∈ tokens, token.kind ≠ .endOfInput) (r : Reader) :
    match r.scan.firstOffender (tokens.map .ok ++ [last]) with
    | none => ∃ e, r.verdict source last tokens = .ok e
    | some offender => r.verdict source last tokens = .error (offence source offender) := by
  -- The scan goes along with the reader, token by token.
  induction tokens generalizing r with
  | nil =>
    cases last with
    | error error => rfl
    | ok token =>
      obtain rfl := hlast token rfl
      have hmove : r.scan.move (endToken source).kind = r.result?.map fun _ => r.scan :=
        r.move_scan_endOfInput
      rw [List.map_nil, List.nil_append, Scan.firstOffender, hmove, verdict.eq_def]
      cases r.result? with
      | none => rfl
      | some t => exact ⟨_, rfl⟩
  | cons token tokens ih =>
    have hend := htokens token (by simp)
    rw [List.map_cons, List.cons_append]
    cases hread : r.read token with
    | none =>
      simp only [Scan.firstOffender, r.move_scan hend, hread, Option.map_none, verdict, offence,
        if_neg hend]
    | some r' =>
      simp only [Scan.firstOffender, r.move_scan hend, hread, Option.map_some, verdict]
      exact ih (fun token h => htokens token (by simp [h])) r'

end Reader

/-- A text is given up before its first token if and only if its first item is an error. -/
theorem start_eq_error_iff {source : String} {error : LexError} :
    Parser.start source = .error error ↔
      (Lexer.start source).items.head? = some (.error error) := by
  obtain ⟨words, last, hcuts⟩ := exists_cuts source
  cases hitems : (Lexer.start source).items with
  | nil => exact absurd (hcuts.items_start.symm.trans hitems) (by simp)
  | cons front items =>
    cases front with
    | error error' =>
      rw [Parser.start, Cursor.start, Cursor.pull_of_error hitems]
      simp [Except.map]
    | ok token =>
      obtain ⟨lexer, hpull, -⟩ := Cursor.pull_of_items hitems
      rw [start_of_cursor hpull]
      simp

theorem mem_of_firstOffender {s : Scan} {items : List (Except LexError Token)}
    {offender : Except LexError Token} (h : s.firstOffender items = some offender) :
    offender ∈ items := by
  fun_induction Scan.firstOffender s items with
  | case1 => exact nomatch h
  | case2 s error items => simp [Option.some.inj h]
  | case3 s token items s' hmove ih => exact List.mem_cons_of_mem _ (ih h)
  | case4 s token items hmove => simp [Option.some.inj h]

/-- At the place of a token of the text its lexeme is written. -/
theorem exists_textIn_of_mem_items {source : String} {token : Token}
    (hsize : source.utf8ByteSize ≤ maxOffset) (h : .ok token ∈ (Lexer.start source).items)
    (hend : token.kind ≠ .endOfInput) :
    ∃ x : Lexeme, x.kind? = some token.kind ∧ token.textIn source = some x.text := by
  rcases exists_place_of_mem_items hsize h with rfl | ⟨front, ⟨p⟩⟩
  · exact absurd rfl hend
  · exact ⟨p.word.lexeme, p.kind?_lexeme, p.covers.slice?_eq⟩

theorem offence_eq_lex_iff {source : String} {offender : Except LexError Token}
    {error : LexError} : offence source offender = .lex error ↔ offender = .error error := by
  cases offender with
  | error error' => simp [offence]
  | ok token =>
    simp only [offence, reduceCtorEq, iff_false]
    split <;> exact nofun

/-- A text is parsed if the scan takes in all its items, and otherwise parsing fails at the first
that it does not take in. -/
theorem parse_eq_offence (source : String) :
    match Scan.start.firstOffender (Lexer.start source).items with
    | none => ∃ e, (parse source).1 = .ok e
    | some offender => (parse source).1 = .error (offence source offender) := by
  obtain ⟨words, last, hcuts⟩ := exists_cuts source
  rw [hcuts.items_start, hcuts.parse_eq.1]
  exact Reader.verdict_eq_offence hcuts.kind_last (fun _ => kind_of_mem_tokensAt) .start

theorem parse_eq_offence_of_some {source : String} {offender : Except LexError Token}
    (h : Scan.start.firstOffender (Lexer.start source).items = some offender) :
    (parse source).1 = .error (offence source offender) := by
  have hparse := parse_eq_offence source
  rwa [h] at hparse

theorem parse_eq_error_iff {source : String} {error : ParseError} :
    (parse source).1 = .error error ↔
      ∃ offender, Scan.start.firstOffender (Lexer.start source).items = some offender ∧
        offence source offender = error := by
  constructor
  · intro h
    have hparse := parse_eq_offence source
    cases hfirst : Scan.start.firstOffender (Lexer.start source).items with
    | none =>
      rw [hfirst, h] at hparse
      exact absurd hparse (by simp)
    | some offender =>
      exact ⟨offender, rfl, Except.error.inj ((parse_eq_offence_of_some hfirst).symm.trans h)⟩
  · rintro ⟨offender, hfirst, rfl⟩
    exact parse_eq_offence_of_some hfirst

/-- An error of the lexer is reported if and only if it is the first offender: one behind a token
that does not fit is not. -/
theorem parse_eq_lex_iff {source : String} {error : LexError} :
    (parse source).1 = .error (.lex error) ↔
      Scan.start.firstOffender (Lexer.start source).items = some (.error error) := by
  rw [parse_eq_error_iff]
  constructor
  · rintro ⟨offender, hfirst, hoffence⟩
    rw [hfirst, offence_eq_lex_iff.1 hoffence]
  · exact fun hfirst => ⟨_, hfirst, rfl⟩

/-- In a text of blanks an operand is needed where it ends. -/
theorem parse_blanks (k : Nat) :
    (parse (String.ofList (blanks k))).1 = .error (.unexpectedEnd (saturate k)) := by
  have hfirst : Scan.start.firstOffender (Lexer.start (String.ofList (blanks k))).items =
      some (.ok (endToken (String.ofList (blanks k)))) := by
    rw [(cuts_blanks k).items_start]
    rfl
  have hend : (endToken (String.ofList (blanks k))).kind = .endOfInput := rfl
  rw [parse_eq_offence_of_some hfirst, offence, if_pos hend, utf8ByteSize_blanks]

/-- Of two numbers the second one does not fit.  It is not found in the text if it stands too far
behind the first one. -/
theorem parse_onesApart {k : Nat} (h : maxOffset ≤ k) :
    (parse (onesApart k)).1 = .error (.unexpectedToken "" ⟨4294967295, 4294967295⟩) := by
  have hitems := (cuts_onesApart (Nat.lt_of_lt_of_le (by decide) h)).items_start
  rw [tokensAt, tokensAt, tokensAt, Word.token_oneBehind_of_maxOffset_le h] at hitems
  have hfirst : Scan.start.firstOffender (Lexer.start (onesApart k)).items =
      some (.ok ⟨.number ⟨0x3FF0000000000000⟩, ⟨4294967295, 4294967295⟩⟩) := by
    rw [hitems]
    rfl
  rw [parse_eq_offence_of_some hfirst, offence, if_neg (by simp), Token.textIn,
    Text.getD_slice?_self]

/-! ### Scans over many tokens -/

namespace Scan

variable {s s' : Scan}

/-- Takes in one token after another. -/
def moves (s : Scan) (kinds : List TokenKind) : Option Scan := kinds.foldlM move s

theorem moves_cons (s : Scan) (kind : TokenKind) (kinds : List TokenKind) :
    s.moves (kind :: kinds) = (s.move kind).bind (moves · kinds) := List.foldlM_cons

theorem moves_append (s : Scan) (front back : List TokenKind) :
    s.moves (front ++ back) = (s.moves front).bind (moves · back) := List.foldlM_append

theorem firstOffender_of_move_eq_none {token : Token} {items : List (Except LexError Token)}
    (h : s.move token.kind = none) : s.firstOffender (.ok token :: items) = some (.ok token) := by
  simp only [firstOffender, h]

/-- Behind tokens that are taken in the scan goes on. -/
theorem firstOffender_append {tokens : List Token} {items : List (Except LexError Token)}
    (h : s.moves (tokens.map Token.kind) = some s') :
    s.firstOffender (tokens.map .ok ++ items) = s'.firstOffender items := by
  induction tokens generalizing s with
  | nil =>
    obtain rfl := Option.some.inj h
    rfl
  | cons token tokens ih =>
    rw [List.map_cons, moves_cons] at h
    cases hmove : s.move token.kind with
    | none => simp [hmove] at h
    | some s₁ =>
      rw [hmove] at h
      simp only [List.map_cons, List.cons_append, firstOffender, hmove]
      exact ih h

/-- The first offender is the token of a word, all words before it being taken in, or is found
behind all the words. -/
theorem firstOffender_tokensAt {words : List Word} {offset : Nat}
    {items : List (Except LexError Token)} {offender : Except LexError Token}
    (h : s.firstOffender ((tokensAt offset words).map .ok ++ items) = some offender) :
    (∃ front w back s', words = front ++ w :: back ∧ s.moves (front.map Word.kind) = some s' ∧
      s'.move w.kind = none ∧
      offender = .ok (w.token (offset + Text.byteLength (writing front)))) ∨
    ∃ s', s.moves (words.map Word.kind) = some s' ∧ s'.firstOffender items = some offender := by
  induction words generalizing s offset with
  | nil => exact .inr ⟨s, rfl, h⟩
  | cons w words ih =>
    have hkind : (w.token offset).kind = w.kind := rfl
    rw [tokensAt, List.map_cons, List.cons_append, firstOffender, hkind] at h
    cases hmove : s.move w.kind with
    | none =>
      rw [hmove] at h
      exact .inl ⟨[], w, words, s, rfl, rfl, hmove, (Option.some.inj h).symm⟩
    | some s₁ =>
      rw [hmove] at h
      rcases ih h with ⟨front, w', back, s', rfl, hmoves, hnone, rfl⟩ | ⟨s', hmoves, hitems⟩
      · refine .inl ⟨w :: front, w', back, s', rfl, ?_, hnone, ?_⟩
        · rw [List.map_cons, moves_cons, hmove]
          exact hmoves
        · rw [byteLength_writing_cons, Nat.add_assoc]
      · refine .inr ⟨s', ?_, hitems⟩
        rw [List.map_cons, moves_cons, hmove]
        exact hmoves

end Scan

/-! ### The words before a failure -/

/-- All the words at the beginning of the text are taken in, and behind them the text fails with the
error: at a word that does not fit, at an obstacle, or at its end. -/
inductive FailsAfter (source : String) (words : List Word) : ParseError → Prop where
  | word {w : Word} {behind : List Word} {rest : List Char} {s : Scan}
      (htext : source.toList = writing (words ++ w :: behind) ++ rest)
      (hwords : Separate rest (words ++ w :: behind))
      (hmoves : Scan.start.moves (words.map Word.kind) = some s) (hnone : s.move w.kind = none) :
      FailsAfter source words
        (.unexpectedToken
          (String.ofList (((w.token (Text.byteLength (writing words))).textIn source).getD []))
          (w.token (Text.byteLength (writing words))).span)
  | obstacle {rest gap : List Char} {obstacle : Obstacle} {s : Scan}
      (htext : source.toList = writing words ++ rest) (hwords : Separate rest words)
      (hmoves : Scan.start.moves (words.map Word.kind) = some s)
      (hrest : Stuck gap obstacle rest) :
      FailsAfter source words
        (.lex (obstacle.error (Text.byteLength (writing words) + Text.byteLength gap)))
  | ending {rest : List Char} {s : Scan} (htext : source.toList = writing words ++ rest)
      (hwords : Separate rest words) (hmoves : Scan.start.moves (words.map Word.kind) = some s)
      (hrest : ∀ c ∈ rest, isBlank c = true) (hend : s.move .endOfInput = none) :
      FailsAfter source words (.unexpectedEnd (saturate source.utf8ByteSize))

theorem exists_failsAfter {source : String} {error : ParseError}
    (h : (parse source).1 = .error error) : ∃ words, FailsAfter source words error := by
  obtain ⟨offender, hfirst, rfl⟩ := parse_eq_error_iff.1 h
  obtain ⟨words, last, hcuts⟩ := exists_cuts source
  rw [hcuts.items_start] at hfirst
  rcases Scan.firstOffender_tokensAt hfirst with
    ⟨before, w, behind, s, rfl, hmoves, hnone, rfl⟩ | ⟨s, hmoves, hlast⟩
  · obtain ⟨rest, htext, hwords⟩ := hcuts.exists_text
    have hend : (w.token (0 + Text.byteLength (writing before))).kind ≠ .endOfInput :=
      w.kind_ne_endOfInput
    rw [offence, if_neg hend, Nat.zero_add]
    exact ⟨before, .word htext hwords hmoves hnone⟩
  · obtain rfl := List.mem_singleton.1 (mem_of_firstOffender hlast)
    cases hcuts with
    | stuck htext hwords hrest => exact ⟨words, .obstacle htext hwords hmoves hrest⟩
    | finished htext hwords hrest =>
      refine ⟨words, .ending htext hwords hmoves hrest ?_⟩
      cases hmove : s.move .endOfInput with
      | none => rfl
      | some s' => simp [Scan.firstOffender, endToken, hmove] at hlast

/-! ### Parsing -/

/-- **Parsing fails at the first item that does not fit**, and nowhere else.  An error of the lexer
is reported if and only if it is that item, and before any parsing if it is the first of all.  As
long as positions fit into spans, a token that does not fit is reported with the lexeme that
stands in the text. -/
theorem parse_fails_at_firstOffender :
    (∀ source,
      match Scan.start.firstOffender (Lexer.start source).items with
      | none => ∃ e, (parse source).1 = .ok e
      | some offender => (parse source).1 = .error (offence source offender)) ∧
    (∀ source error, (parse source).1 = .error (.lex error) ↔
      Scan.start.firstOffender (Lexer.start source).items = some (.error error)) ∧
    (∀ source error, Parser.start source = .error error ↔
      (Lexer.start source).items.head? = some (.error error)) ∧
    ∀ source token, source.utf8ByteSize ≤ maxOffset →
      Scan.start.firstOffender (Lexer.start source).items = some (.ok token) →
      token.kind ≠ .endOfInput →
      ∃ x : Lexeme, x.kind? = some token.kind ∧ token.textIn source = some x.text ∧
        (parse source).1 = .error (.unexpectedToken (String.ofList x.text) token.span) := by
  refine ⟨parse_eq_offence, fun _ _ => parse_eq_lex_iff, fun _ _ => start_eq_error_iff, ?_⟩
  intro source token hsize hfirst hend
  obtain ⟨x, hkind, htext⟩ :=
    exists_textIn_of_mem_items hsize (mem_of_firstOffender hfirst) hend
  refine ⟨x, hkind, htext, ?_⟩
  rw [parse_eq_offence_of_some hfirst, offence, if_neg hend, htext]
  rfl

/-- The second number does not fit; what is no token at all stands behind it. -/
theorem parse_fails_at_firstOffender_number :
    ∃ x : Lexeme, x.kind? = some (.number ⟨0x4000000000000000⟩) ∧
      Text.slice? "(1 2) $".toList 3 4 = some x.text ∧
      (parse "(1 2) $").1 = .error (.unexpectedToken (String.ofList x.text) ⟨3, 4⟩) :=
  parse_fails_at_firstOffender.2.2.2 "(1 2) $" ⟨.number ⟨0x4000000000000000⟩, ⟨3, 4⟩⟩
    (by decide) (by decide +kernel) (by decide)

/-- In a text of too many blanks the end is not where it should be, and a number behind so many of
them is not found. -/
theorem parse_fails_at_firstOffender_pastOffsets :
    (String.ofList (blanks 4294967296)).utf8ByteSize = 4294967296 ∧
    (parse (String.ofList (blanks 4294967296))).1 = .error (.unexpectedEnd 4294967295) ∧
    (onesApart 4294967296).toList = '1' :: (blanks 4294967296 ++ ['1']) ∧
    (parse (onesApart 4294967296)).1 =
      .error (.unexpectedToken "" ⟨4294967295, 4294967295⟩) := by
  refine ⟨utf8ByteSize_blanks _, ?_, String.toList_ofList, parse_onesApart (by decide)⟩
  rw [parse_blanks, saturate_of_maxOffset_le (by decide)]

end Reckon
