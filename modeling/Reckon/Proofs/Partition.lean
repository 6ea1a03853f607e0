/-
What a text is cut into.

`Lexer.Parts` says, with no lexer, which items a text has: after blanks there is the longest lexeme,
and so on behind it; or the text ends; or there is a character that no lexeme begins with, or a
number that is too large, and nothing comes behind that.

* `Lexer.items_eq_iff_parts`: these are the items that the lexer gives;
* `Lexer.answer_eq`: it gives them one call at a time, and nothing in any later call;
* `Cuts.tiles`: as long as positions fit into spans, the tokens cover the text from left to right,
  each exactly its lexeme, and between them there are blanks only.
-/
import Reckon.Proofs.Longest
import Reckon.Proofs.TooLong

namespace Reckon

namespace Lexer

/-- The items of a text of `size` bytes from byte `offset` on, where `text` is what is left. -/
inductive Parts (size : Nat) : Nat → List Char → List (Except LexError Token) → Prop where
  | token {offset : Nat} {gap rest : List Char} {x : Lexeme} {kind : TokenKind}
      {items : List (Except LexError Token)} (hgap : ∀ c ∈ gap, isBlank c = true)
      (hx : x.LongestIn (x.text ++ rest)) (hkind : x.kind? = some kind)
      (hitems : Parts size (offset + Text.byteLength gap + Text.byteLength x.text) rest items) :
      Parts size offset (gap ++ (x.text ++ rest))
        (.ok ⟨kind, .ofRange (offset + Text.byteLength gap)
          (offset + Text.byteLength gap + Text.byteLength x.text)⟩ :: items)
  | endOfInput {offset : Nat} {gap : List Char} (hgap : ∀ c ∈ gap, isBlank c = true) :
      Parts size offset gap [.ok ⟨.endOfInput, .point size⟩]
  | unexpectedChar {offset : Nat} {gap rest : List Char} {c : Char}
      (hgap : ∀ c ∈ gap, isBlank c = true) (hc : isBlank c = false)
      (hnone : ∀ p, IsLexeme p → ¬ p <+: c :: rest) :
      Parts size offset (gap ++ c :: rest)
        [.error (.unexpectedChar c (saturate (offset + Text.byteLength gap)))]
  | numberOutOfRange {offset : Nat} {gap rest : List Char} {n : Numeral}
      (hgap : ∀ c ∈ gap, isBlank c = true) (hn : (Lexeme.number n).LongestIn (n.text ++ rest))
      (hrange : n.toBinary64? = none) :
      Parts size offset (gap ++ (n.text ++ rest))
        [.error (.numberOutOfRange (String.ofList n.text)
          (saturate (offset + Text.byteLength gap)))]

/-- The lexer gives what a text is cut into. -/
theorem items_of_parts {source : String} {offset : Nat} {text : List Char}
    {items : List (Except LexError Token)}
    (h : Parts source.utf8ByteSize offset text items) :
    Lexer.items ⟨source, text, offset, false⟩ = items := by
  induction h with
  | @token offset gap rest x kind items hgap hx hkind _ ih =>
    have hnext := next_word source offset ⟨gap, x, kind, hgap, hx.wellFormed, hkind⟩
      hx.stops
    rw [items_eq, hnext]
    simp only [Word.token, Word.length, ← Nat.add_assoc, ih]
  | endOfInput hgap => exact items_blank source _ hgap
  | unexpectedChar hgap hc hnone =>
    exact items_of_stuck source _ (.stray hgap hc (Lexeme.munch_eq_none_iff.2 hnone))
  | numberOutOfRange hgap hn hrange =>
    exact items_of_stuck source _ (.outOfRange hgap hn.wellFormed hn.stops hrange)

/-- Behind words a text is cut as what is left there. -/
theorem parts_writing {size offset : Nat} {words : List Word} {rest : List Char}
    {items : List (Except LexError Token)} (hwords : Separate rest words)
    (h : Parts size (offset + Text.byteLength (writing words)) rest items) :
    Parts size offset (writing words ++ rest) ((tokensAt offset words).map .ok ++ items) := by
  induction words generalizing offset with
  | nil => exact h
  | cons w words ih =>
    rw [byteLength_writing_cons, ← Nat.add_assoc] at h
    have hrest := ih hwords.2 h
    rw [Word.length, ← Nat.add_assoc] at hrest
    have hparts := Parts.token w.isBlank_of_mem (Lexeme.longestIn_of_stops w.wellFormed hwords.1)
      w.kind?_lexeme hrest
    simpa [tokensAt, Word.token, Word.length, Nat.add_assoc] using hparts

/-- Every text is cut into some items. -/
theorem exists_parts (source : String) :
    ∃ items, Parts source.utf8ByteSize 0 source.toList items := by
  obtain ⟨words, rest, htext, hwords, hrest⟩ := exists_writing source.toList
  rw [htext]
  rcases hrest with hrest | ⟨gap, obstacle, hrest⟩
  · exact ⟨_, parts_writing hwords (.endOfInput hrest)⟩
  · cases hrest with
    | stray hgap hc hmunch =>
      exact ⟨_, parts_writing hwords (.unexpectedChar hgap hc (Lexeme.munch_eq_none_iff.1 hmunch))⟩
    | outOfRange hgap hn hstops hrange =>
      have hlongest := Lexeme.longestIn_of_stops (x := .number _) hn hstops
      exact ⟨_, parts_writing hwords (.numberOutOfRange hgap hlongest hrange)⟩

theorem items_eq_iff_parts {source : String} {items : List (Except LexError Token)} :
    (Lexer.start source).items = items ↔ Parts source.utf8ByteSize 0 source.toList items := by
  constructor
  · rintro rfl
    obtain ⟨items, hparts⟩ := exists_parts source
    rwa [show (Lexer.start source).items = items from items_of_parts hparts]
  · exact items_of_parts

/-! ### One call at a time -/

/-- The lexer after some calls of `next`. -/
def after (l : Lexer) : Nat → Lexer
  | 0 => l
  | n + 1 =>
    match l.next with
    | some (_, l') => l'.after n
    | none => l

/-- What the call of `next` after `n` others gives. -/
def answer (l : Lexer) (n : Nat) : Option (Except LexError Token) := (l.after n).next.map Prod.fst

/-- The calls give the items one by one, and then nothing. -/
theorem answer_eq (l : Lexer) (n : Nat) : l.answer n = l.items[n]? := by
  induction n generalizing l with
  | zero =>
    rw [items_eq, answer, after]
    cases l.next with
    | none => rfl
    | some front => rfl
  | succ n ih =>
    rw [items_eq, answer, after]
    cases hnext : l.next with
    | none => simp [hnext]
    | some front => exact ih front.2

end Lexer

/-! ### Where the items stand -/

/-- At byte `pos` of the text, which is no place inside a character, there are these characters. -/
def StandsAt (source : String) (pos : Nat) (cs : List Char) : Prop :=
  ∃ back, Text.dropBytes? source.toList pos = some (cs ++ back)

/-- The span covers these characters of the text and nothing more. -/
structure Span.Covers (source : String) (span : Span) (cs : List Char) : Prop where
  standsAt : StandsAt source span.start.toNat cs
  stop_eq : span.stop.toNat = span.start.toNat + Text.byteLength cs

theorem Span.Covers.slice?_eq {source : String} {span : Span} {cs : List Char}
    (h : span.Covers source cs) :
    Text.slice? source.toList span.start.toNat span.stop.toNat = some cs := by
  obtain ⟨⟨back, hdrop⟩, hstop⟩ := h
  rw [Text.slice?, hstop, if_pos (Nat.le_add_right _ _), hdrop, Option.bind_some,
    Nat.add_sub_cancel_left, Text.takeBytes?_append]

/-- Where the last of the tokens ends; the beginning of the text, where there is none. -/
def tokensEnd (tokens : List Token) : Nat :=
  (tokens.getLast?.map fun token => token.span.stop.toNat).getD 0

/-- Between two positions there are blanks only. -/
def BlankBetween (source : String) (start stop : Nat) : Prop :=
  ∃ gap, Text.slice? source.toList start stop = some gap ∧ ∀ c ∈ gap, isBlank c = true

/-- The tokens, with blanks between them, cover the text from left to right up to the last item. -/
structure Tiles (source : String) (tokens : List Token) (last : Except LexError Token) : Prop where
  start_lt_stop : ∀ token ∈ tokens, token.span.start.toNat < token.span.stop.toNat
  ordered : tokens.Pairwise fun a b => a.span.stop.toNat ≤ b.span.start.toNat
  /-- At the place of a token there is a lexeme of its kind, and no longer one begins there. -/
  lexeme : ∀ token ∈ tokens, ∃ (x : Lexeme) (remaining : List Char),
    Text.slice? source.toList token.span.start.toNat token.span.stop.toNat = some x.text ∧
      x.kind? = some token.kind ∧
      Text.dropBytes? source.toList token.span.start.toNat = some remaining ∧
      x.LongestIn remaining
  gap : ∀ front token back, tokens = front ++ token :: back →
    BlankBetween source (tokensEnd front) token.span.start.toNat
  last : match last with
    | .ok token =>
      token.kind = .endOfInput ∧ token.span.start.toNat = source.utf8ByteSize ∧
        token.span.stop.toNat = source.utf8ByteSize ∧
        BlankBetween source (tokensEnd tokens) source.utf8ByteSize
    | .error error =>
      BlankBetween source (tokensEnd tokens) error.pos.toNat ∧
        ∃ remaining, Text.dropBytes? source.toList error.pos.toNat = some remaining ∧
          match error with
          | .unexpectedChar c _ =>
            remaining.head? = some c ∧ isBlank c = false ∧ ∀ p, IsLexeme p → ¬ p <+: remaining
          | .numberOutOfRange literal _ =>
            ∃ n : Numeral, literal = String.ofList n.text ∧
              (Lexeme.number n).LongestIn remaining ∧ n.toBinary64? = none

/-- What stands around a token that comes after the tokens of `front`. -/
structure Place (source : String) (front : List Token) (token : Token) where
  before : List Char
  word : Word
  rest : List Char
  text : source.toList = before ++ (word.gap ++ (word.lexeme.text ++ rest))
  longest : word.lexeme.LongestIn (word.lexeme.text ++ rest)
  kind : token.kind = word.kind
  tokensEnd_front : tokensEnd front = Text.byteLength before
  start : token.span.start.toNat = Text.byteLength before + Text.byteLength word.gap
  stop : token.span.stop.toNat =
    Text.byteLength before + Text.byteLength word.gap + Text.byteLength word.lexeme.text

namespace Place

variable {source : String} {front : List Token} {token : Token}

theorem kind?_lexeme (p : Place source front token) : p.word.lexeme.kind? = some token.kind :=
  p.kind ▸ p.word.kind?_lexeme

theorem start_lt_stop (p : Place source front token) :
    token.span.start.toNat < token.span.stop.toNat := by
  have hpos := Lexeme.byteLength_text_pos p.word.wellFormed
  rw [p.start, p.stop]
  omega

theorem dropBytes?_eq (p : Place source front token) :
    Text.dropBytes? source.toList token.span.start.toNat =
      some (p.word.lexeme.text ++ p.rest) := by
  have h := Text.dropBytes?_append (p.before ++ p.word.gap) (p.word.lexeme.text ++ p.rest)
  rw [p.start, p.text]
  simpa using h

theorem covers (p : Place source front token) : token.span.Covers source p.word.lexeme.text :=
  ⟨⟨p.rest, p.dropBytes?_eq⟩, by rw [p.start, p.stop]⟩

theorem blankBetween (p : Place source front token) :
    BlankBetween source (tokensEnd front) token.span.start.toNat := by
  have h := Text.slice?_append p.before p.word.gap (p.word.lexeme.text ++ p.rest)
  refine ⟨p.word.gap, ?_, p.word.isBlank_of_mem⟩
  rw [p.tokensEnd_front, p.start, p.text]
  simpa using h

end Place

section
variable {source : String} {words : List Word} {last : Except LexError Token}

theorem tokensEnd_tokensAt (hsize : Text.byteLength (writing words) ≤ maxOffset) :
    tokensEnd (tokensAt 0 words) = Text.byteLength (writing words) := by
  rcases List.eq_nil_or_concat words with rfl | ⟨front, w, hwords⟩
  · rfl
  · rw [List.concat_eq_append] at hwords
    subst hwords
    have hlength : Text.byteLength (writing (front ++ [w])) =
        Text.byteLength (writing front) + w.length := by
      rw [writing_append, Text.byteLength_append, byteLength_writing_cons]
      rfl
    rw [hlength] at hsize ⊢
    rw [tokensAt_append, Nat.zero_add, tokensAt, tokensAt, tokensEnd, List.getLast?_concat]
    exact Span.ofRange_stop hsize

/-- A token of a text whose positions fit into spans stands at the place of its word. -/
theorem Cuts.nonempty_place (h : Cuts source words last) (hsize : source.utf8ByteSize ≤ maxOffset)
    {front back : List Token} {token : Token}
    (htokens : tokensAt 0 words = front ++ token :: back) :
    Nonempty (Place source front token) := by
  obtain ⟨before, w, behind, rfl, rfl, rfl⟩ := exists_of_tokensAt_eq_append htokens
  have hle := h.byteLength_le
  rw [writing_append, Text.byteLength_append, byteLength_writing_cons, Word.length] at hle
  obtain ⟨rest, htext, hwords⟩ := h.exists_text
  rw [Nat.zero_add]
  exact ⟨{
    before := writing before
    word := w
    rest := writing behind ++ rest
    text := by simp [htext]
    longest := Lexeme.longestIn_of_stops w.wellFormed (separate_append.1 hwords).2.1
    kind := rfl
    tokensEnd_front := tokensEnd_tokensAt (by omega)
    start := Span.ofRange_start (by omega)
    stop := by
      rw [Word.token, Word.length, ← Nat.add_assoc]
      exact Span.ofRange_stop (by omega) }⟩

/-- A token of a text is the end token or stands at the place of a word. -/
theorem exists_place_of_mem_items {token : Token} (hsize : source.utf8ByteSize ≤ maxOffset)
    (h : .ok token ∈ (Lexer.start source).items) :
    token = endToken source ∨ ∃ front, Nonempty (Place source front token) := by
  obtain ⟨words, last, hcuts⟩ := exists_cuts source
  rw [hcuts.items_start, List.mem_append, List.mem_singleton] at h
  rcases h with h | h
  · obtain ⟨token', htoken', heq⟩ := List.mem_map.1 h
    obtain rfl := Except.ok.inj heq
    obtain ⟨front, back, htokens⟩ := List.append_of_mem htoken'
    exact .inr ⟨front, hcuts.nonempty_place hsize htokens⟩
  · exact .inl (hcuts.kind_last token h.symm)

theorem le_start_of_mem_tokensAt {offset : Nat} {token : Token}
    (hsize : offset + Text.byteLength (writing words) ≤ maxOffset)
    (h : token ∈ tokensAt offset words) : offset ≤ token.span.start.toNat := by
  obtain ⟨front, w, back, rfl, rfl⟩ := exists_of_mem_tokensAt h
  rw [writing_append, Text.byteLength_append, byteLength_writing_cons, Word.length] at hsize
  rw [Word.token, Span.ofRange_start (by omega)]
  omega

theorem pairwise_tokensAt {offset : Nat}
    (hsize : offset + Text.byteLength (writing words) ≤ maxOffset) :
    (tokensAt offset words).Pairwise fun a b => a.span.stop.toNat ≤ b.span.start.toNat := by
  induction words generalizing offset with
  | nil => exact .nil
  | cons w words ih =>
    rw [byteLength_writing_cons, ← Nat.add_assoc] at hsize
    refine .cons (fun token htoken => ?_) (ih hsize)
    have hstop : (w.token offset).span.stop.toNat = offset + w.length :=
      Span.ofRange_stop (by omega)
    rw [hstop]
    exact le_start_of_mem_tokensAt hsize htoken

/-- Behind the words there are blanks up to the position of an error, which is held exactly. -/
theorem blankBetween_behind {gap remaining : List Char}
    (htext : source.toList = writing words ++ (gap ++ remaining))
    (hgap : ∀ c ∈ gap, isBlank c = true) (hsize : source.utf8ByteSize ≤ maxOffset) :
    BlankBetween source (Text.byteLength (writing words))
        (saturate (Text.byteLength (writing words) + Text.byteLength gap)).toNat ∧
      Text.dropBytes? source.toList
          (saturate (Text.byteLength (writing words) + Text.byteLength gap)).toNat =
        some remaining := by
  have hslice := Text.slice?_append (writing words) gap remaining
  have hdrop := Text.dropBytes?_append (writing words ++ gap) remaining
  rw [← Text.byteLength_toList, htext, Text.byteLength_append, Text.byteLength_append] at hsize
  rw [toNat_saturate_of_le (by omega), htext]
  refine ⟨⟨gap, ?_, hgap⟩, ?_⟩
  · simpa [htext] using hslice
  · simpa using hdrop

/-- The tokens of a text whose positions fit into spans cover it up to its last item. -/
theorem Cuts.tiles (h : Cuts source words last) (hsize : source.utf8ByteSize ≤ maxOffset) :
    Tiles source (tokensAt 0 words) last := by
  have hle := h.byteLength_le
  have hend : tokensEnd (tokensAt 0 words) = Text.byteLength (writing words) :=
    tokensEnd_tokensAt (by omega)
  refine ⟨?_, pairwise_tokensAt (by omega), ?_, ?_, ?_⟩
  · intro token htoken
    obtain ⟨front, back, htokens⟩ := List.append_of_mem htoken
    obtain ⟨p⟩ := h.nonempty_place hsize htokens
    exact p.start_lt_stop
  · intro token htoken
    obtain ⟨front, back, htokens⟩ := List.append_of_mem htoken
    obtain ⟨p⟩ := h.nonempty_place hsize htokens
    exact ⟨p.word.lexeme, _, p.covers.slice?_eq, p.kind?_lexeme, p.dropBytes?_eq, p.longest⟩
  · intro front token back htokens
    obtain ⟨p⟩ := h.nonempty_place hsize htokens
    exact p.blankBetween
  · rw [hend]
    cases h with
    | @finished rest htext hwords hrest =>
      have hlength : source.utf8ByteSize =
          Text.byteLength (writing words) + Text.byteLength rest := by
        rw [← Text.byteLength_toList, htext, Text.byteLength_append]
      have hslice := Text.slice?_append (writing words) rest []
      rw [List.append_nil, ← htext, ← hlength] at hslice
      exact ⟨rfl, Span.ofRange_start hsize, Span.ofRange_stop hsize, rest, hslice, hrest⟩
    | stuck htext hwords hrest =>
      cases hrest with
      | @stray c cs hgap hc hmunch =>
        obtain ⟨hblank, hdrop⟩ := blankBetween_behind htext hgap hsize
        exact ⟨hblank, _, hdrop, rfl, hc, Lexeme.munch_eq_none_iff.1 hmunch⟩
      | @outOfRange n cs hgap hn hstops hrange =>
        obtain ⟨hblank, hdrop⟩ := blankBetween_behind htext hgap hsize
        have hlongest := Lexeme.longestIn_of_stops (x := .number n) hn hstops
        exact ⟨hblank, _, hdrop, n, rfl, hlongest, hrange⟩

end

/-- **A text is cut into lexemes, each as long as possible.**  The items of the lexer are those that
the text is cut into, with nothing lost and nothing beside them, and the calls of the lexer give
them one by one and then nothing.  As long as positions fit into spans, the tokens stand one behind
the other, each at the longest lexeme that begins there, with blanks between them; and behind blanks
there is the end of the text, or what no lexeme begins with, or a number that is out of range. -/
theorem items_partition :
    (∀ source items, (Lexer.start source).items = items ↔
      Lexer.Parts source.utf8ByteSize 0 source.toList items) ∧
    (∀ source n, (Lexer.start source).answer n = (Lexer.start source).items[n]?) ∧
    ∀ source, source.utf8ByteSize ≤ maxOffset →
      ∃ tokens last, (Lexer.start source).items = tokens.map .ok ++ [last] ∧
        Tiles source tokens last := by
  refine ⟨fun _ _ => Lexer.items_eq_iff_parts, fun _ => Lexer.answer_eq _, ?_⟩
  intro source hsize
  obtain ⟨words, last, hcuts⟩ := exists_cuts source
  exact ⟨tokensAt 0 words, last, hcuts.items_start, hcuts.tiles hsize⟩

/-- A second point belongs to a numeral of its own, and a point by itself to none. -/
theorem items_partition_points :
    (Lexer.start "1.2.3 .").items =
      [.ok ⟨.number ⟨0x3FF3333333333333⟩, ⟨0, 3⟩⟩, .ok ⟨.number ⟨0x3FD3333333333333⟩, ⟨3, 5⟩⟩,
        .error (.unexpectedChar '.' 6)] ∧
    Tiles "1.2.3 ."
      [⟨.number ⟨0x3FF3333333333333⟩, ⟨0, 3⟩⟩, ⟨.number ⟨0x3FD3333333333333⟩, ⟨3, 5⟩⟩]
      (.error (.unexpectedChar '.' 6)) := by
  have hpoints : (Lexer.start "1.2.3 .").items =
      [⟨.number ⟨0x3FF3333333333333⟩, ⟨0, 3⟩⟩, ⟨.number ⟨0x3FD3333333333333⟩, ⟨3, 5⟩⟩].map .ok ++
        [.error (.unexpectedChar '.' 6)] := by decide +kernel
  obtain ⟨tokens, last, hitems, htiles⟩ := items_partition.2.2 "1.2.3 ." (by decide)
  obtain ⟨htokens, hlast⟩ := List.append_inj' (hitems.symm.trans hpoints) rfl
  obtain rfl := (List.map_inj_right fun _ _ => Except.ok.inj).1 htokens
  obtain rfl := (List.cons.inj hlast).1
  exact ⟨hpoints, htiles⟩

/-- Behind too many blanks the span of a number is empty, and the end is not where it should be. -/
theorem items_partition_pastOffsets :
    (farOne 4294967296).utf8ByteSize = 4294967297 ∧
    (Lexer.start (farOne 4294967296)).items =
      [.ok ⟨.number ⟨0x3FF0000000000000⟩, ⟨4294967295, 4294967295⟩⟩,
        .ok ⟨.endOfInput, ⟨4294967295, 4294967295⟩⟩] ∧
    ¬ ∃ tokens last, (Lexer.start (farOne 4294967296)).items = tokens.map .ok ++ [last] ∧
      Tiles (farOne 4294967296) tokens last := by
  have hsize := utf8ByteSize_farOne 4294967296
  have hitems := (cuts_farOne 4294967296).items_start
  rw [endToken_of_maxOffset_le (hsize ▸ by decide), tokensAt,
    Word.token_oneBehind_of_maxOffset_le (by decide)] at hitems
  refine ⟨hsize, hitems, ?_⟩
  rintro ⟨tokens, last, hsplit, htiles⟩
  obtain ⟨htokens, -⟩ := List.append_inj' (hitems.symm.trans hsplit) rfl
  obtain rfl := (List.map_inj_right fun _ _ => Except.ok.inj).1 htokens
  exact absurd (htiles.start_lt_stop _ List.mem_cons_self) (by decide)

end Reckon
