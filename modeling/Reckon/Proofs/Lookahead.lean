/-
The token that is looked at, and the lexer behind it.

A cursor in a text stands at a word, with the lexer right behind it, or at the end, with the lexer
exhausted.  A reading takes in only the words, so it asks a lexer for an item only as long as there
is one, and never again after the end or an error.

* `Cursor.StandsAfter.advance`: from a word the cursor goes on to the next one, or to the end;
* `Descent.kept_looks`: the lexers that are asked come one from another, each by a token;
* `never_past_end`: so nothing is read past the end of a text.
-/
import Mathlib.Data.List.Chain
import Reckon.Proofs.Progress

namespace Reckon

/-! ### Where a cursor stands -/

/-- A text is a row of words and a rest, where they stop: blanks, or an obstacle behind them. -/
structure Written (source : String) (words : List Word) (rest : List Char) : Prop where
  text : source.toList = writing words ++ rest
  separate : Separate rest words
  stops : (∀ c ∈ rest, isBlank c = true) ∨ ∃ gap obstacle, Stuck gap obstacle rest

theorem exists_written (source : String) : ∃ words rest, Written source words rest := by
  obtain ⟨words, rest, htext, hseparate, hstops⟩ := exists_writing source.toList
  exact ⟨words, rest, htext, hseparate, hstops⟩

/-- A cursor stands in a text behind the tokens `taken`, and its token begins at byte `start`. -/
inductive Cursor.StandsAfter (source : String) : Cursor → List Token → Nat → Prop where
  | word {front back : List Word} {w : Word} {rest : List Char}
      (h : Written source (front ++ w :: back) rest) :
      StandsAfter source
        ⟨⟨source, writing back ++ rest, Text.byteLength (writing front) + w.length, false⟩,
          w.token (Text.byteLength (writing front))⟩
        (tokensAt 0 front) (Text.byteLength (writing front) + Text.byteLength w.gap)
  | endOfInput {words : List Word} {rest : List Char} {lexer : Lexer}
      (h : Written source words rest) (hlexer : lexer.exhausted = true) :
      StandsAfter source ⟨lexer, endToken source⟩ (tokensAt 0 words) source.utf8ByteSize

namespace Cursor

variable {source : String} {c c' : Cursor} {taken : List Token} {start : Nat}

theorem next_of_pull {l : Lexer} (hopen : l.exhausted = false) (h : pull l = .ok c) :
    l.next = some (.ok c.current, c.lexer) := by
  rw [pull] at h
  split at h
  · rename_i token lexer hnext
    obtain rfl := Except.ok.inj h
    exact hnext
  · exact absurd h (by simp)
  · rename_i hnext
    simp [Lexer.next, hopen] at hnext

/-- Behind some words there is a word, or the end, or an obstacle. -/
theorem standsAfter_of_pull (front : List Word) {back : List Word} {rest : List Char}
    (hwritten : Written source (front ++ back) rest)
    (h : pull ⟨source, writing back ++ rest, Text.byteLength (writing front), false⟩ = .ok c) :
    ∃ start, c.StandsAfter source (tokensAt 0 front) start := by
  have hnext := next_of_pull rfl h
  cases back with
  | cons w back =>
    have hseparate := (separate_append.1 hwritten.separate).2
    rw [writing_cons, List.append_assoc, List.append_assoc,
      Lexer.next_word source _ w hseparate.1] at hnext
    obtain ⟨hcurrent, hlexer⟩ := Prod.mk.inj (Option.some.inj hnext)
    obtain ⟨lexer, current⟩ := c
    obtain rfl := Except.ok.inj hcurrent
    obtain rfl := hlexer
    exact ⟨_, .word hwritten⟩
  | nil =>
    rw [List.append_nil] at hwritten
    rw [writing_nil, List.nil_append] at hnext
    rcases hwritten.stops with hblank | ⟨gap, obstacle, hstuck⟩
    · have hend := Lexer.next_behind
        (l := ⟨source, rest, Text.byteLength (writing front), false⟩) rfl
        (List.append_nil rest).symm hblank rfl
      obtain ⟨hcurrent, hlexer⟩ := Prod.mk.inj (Option.some.inj (hnext.symm.trans hend))
      obtain ⟨lexer, current⟩ := c
      obtain rfl := Except.ok.inj hcurrent
      obtain rfl := hlexer
      exact ⟨_, .endOfInput hwritten rfl⟩
    · rw [Lexer.next_of_stuck source _ hstuck] at hnext
      exact absurd hnext (by simp)

theorem standsAfter_start (h : Cursor.start source = .ok c) :
    ∃ start, c.StandsAfter source [] start := by
  obtain ⟨words, rest, hwritten⟩ := exists_written source
  rw [Cursor.start, Lexer.start, hwritten.text] at h
  exact standsAfter_of_pull [] hwritten h

/-- At the end, and only there, the lexer is exhausted. -/
theorem StandsAfter.kind_iff (h : c.StandsAfter source taken start) :
    c.current.kind = .endOfInput ↔ c.lexer.exhausted = true := by
  cases h with
  | @word _ _ w _ h => exact ⟨fun hend => absurd hend w.kind_ne_endOfInput, fun h => by simp at h⟩
  | endOfInput h hlexer => exact ⟨fun _ => hlexer, fun _ => rfl⟩

theorem StandsAfter.exhausted_eq_false (h : c.StandsAfter source taken start)
    (hend : c.current.kind ≠ .endOfInput) : c.lexer.exhausted = false :=
  Bool.eq_false_iff.2 (mt h.kind_iff.2 hend)

/-- From a word the cursor goes on to what comes behind it. -/
theorem StandsAfter.advance (h : c.StandsAfter source taken start)
    (hend : c.current.kind ≠ .endOfInput) (hadvance : c.advance = .ok c') :
    ∃ start', c'.StandsAfter source (taken ++ [c.current]) start' := by
  rw [Cursor.advance, if_neg hend] at hadvance
  cases h with
  | @word front back w rest h =>
    have hlength : Text.byteLength (writing (front ++ [w])) =
        Text.byteLength (writing front) + w.length := by
      rw [writing_append, Text.byteLength_append, byteLength_writing_cons, writing_nil]
      rfl
    have htokens : tokensAt 0 (front ++ [w]) =
        tokensAt 0 front ++ [w.token (Text.byteLength (writing front))] := by
      rw [tokensAt_append, Nat.zero_add]
      rfl
    rw [← hlength] at hadvance
    rw [← htokens]
    rw [← List.singleton_append, ← List.append_assoc] at h
    exact standsAfter_of_pull (front ++ [w]) h hadvance
  | endOfInput h hlexer => exact absurd rfl hend

end Cursor

/-! ### What a descent asks for -/

/-- Lexers that were asked for an item, the last one first: from the beginning of the text, each
was what came behind a word that the one before it gave, and each had something to give. -/
structure AskedInTurn (source : String) (asked : List Lexer) : Prop where
  first : asked.getLast? = some (.start source)
  turn : asked.IsChain fun l' l =>
    ∃ token, token.kind ≠ .endOfInput ∧ l.next = some (.ok token, l')
  next_ne_none : ∀ l ∈ asked, l.next ≠ none

/-- A point where the cursor stands in the text; a token that is taken in is not the end. -/
structure Moment.StandsIn (source : String) (m : Moment) : Prop where
  stands : ∃ start, m.cursor.StandsAfter source m.taken start
  kind_ne : m.act = .advance → m.cursor.current.kind ≠ .endOfInput

namespace Descent

variable {source : String} {d : Descent}

/-- The cursor stands in the text, its token is what the last lexer gave that was asked, and so it
has been all the way. -/
structure Looks (source : String) (d : Descent) : Prop where
  stands : ∃ start, d.cursor.StandsAfter source d.taken start
  asked : AskedInTurn source d.asked
  answer : ∃ l, d.asked.head? = some l ∧ l.next = some (.ok d.cursor.current, d.cursor.lexer)
  past : ∀ m ∈ d.past, m.StandsIn source

/-- What is left of that where the text is given up. -/
structure Looked (source : String) (d : Descent) : Prop where
  asked : AskedInTurn source d.asked
  past : ∀ m ∈ d.past, m.StandsIn source

theorem Looks.looked (h : d.Looks source) : d.Looked source := ⟨h.asked, h.past⟩

theorem Looks.mark (h : d.Looks source) (act : Act)
    (hact : act = .advance → d.cursor.current.kind ≠ .endOfInput) : (d.mark act).Looks source where
  stands := h.stands
  asked := h.asked
  answer := h.answer
  past := List.forall_mem_cons.2 ⟨⟨h.stands, hact⟩, h.past⟩

/-- From a word the lexer behind it may be asked. -/
theorem Looks.askedInTurn (h : d.Looks source) (hend : d.cursor.current.kind ≠ .endOfInput) :
    AskedInTurn source d.askLexer.asked := by
  obtain ⟨start, hstands⟩ := h.stands
  obtain ⟨l, hhead, hnext⟩ := h.answer
  obtain ⟨older, holder⟩ := List.head?_eq_some_iff.1 hhead
  have hasked := h.asked
  rw [holder] at hasked
  rw [askLexer, holder]
  refine ⟨?_, ?_, ?_⟩
  · rw [List.getLast?_cons_cons]
    exact hasked.first
  · exact List.isChain_cons_cons.2 ⟨⟨_, hend, hnext⟩, hasked.turn⟩
  · refine List.forall_mem_cons.2 ⟨?_, hasked.next_ne_none⟩
    simp [Lexer.next, hstands.exhausted_eq_false hend]

theorem looks_start (hstart : start source = .ok d) : d.Looks source := by
  obtain ⟨cursor, hcursor, rfl⟩ := exists_of_start hstart
  have hnext := Cursor.next_of_pull rfl hcursor
  refine ⟨Cursor.standsAfter_start hcursor, ⟨rfl, .singleton _, ?_⟩, ⟨_, rfl, hnext⟩,
    fun _ h => absurd h List.not_mem_nil⟩
  exact fun l hl => by simp [List.mem_singleton.1 hl, hnext]

/-- A descent asks for an item only where there is one. -/
theorem kept_looks (source : String) :
    Kept (fun _ => Looks source) (fun _ => Looks source) (Looked source) where
  enter hact h := h.mark _ fun hadvance => by simp [hadvance, Act.isEntry] at hact
  relax h := h
  report _ h := ⟨h.stands, h.asked, h.answer, h.past⟩
  take {_ d cursor} hend hadvance h := by
    have hmark := h.mark .advance fun _ => hend
    obtain ⟨start, hstands⟩ := h.stands
    have hpull := hadvance
    rw [Cursor.advance, if_neg hend] at hpull
    have hnext := Cursor.next_of_pull (hstands.exhausted_eq_false hend) hpull
    exact ⟨hstands.advance hend hadvance, hmark.askedInTurn hend, ⟨_, rfl, hnext⟩, hmark.past⟩
  stick hend _ h := by
    have hmark := h.mark .advance fun _ => hend
    exact ⟨hmark.askedInTurn hend, hmark.past⟩
  reject h := (h.mark .reject fun hadvance => by simp at hadvance).looked
  store node h := by
    have hmark := h.mark (.alloc node) fun hadvance => by simp at hadvance
    exact ⟨hmark.stands, hmark.asked, hmark.answer, hmark.past⟩

end Descent

/-- In a course the lexers are asked in turn, and the cursor stands in the text. -/
theorem looked_of_course {budget : Nat} {source : String} {c : Course}
    (h : course budget source = some c) :
    AskedInTurn source c.asked.reverse ∧ ∀ m ∈ c.past, m.StandsIn source := by
  cases hstart : Descent.start source with
  | error error =>
    obtain ⟨hasked, hpast⟩ := course_of_error hstart h
    rw [hasked, hpast]
    refine ⟨⟨rfl, .singleton _, ?_⟩, fun _ h => absurd h List.not_mem_nil⟩
    exact fun l hl => by simp [List.mem_singleton.1 hl, Lexer.next, Lexer.start]
  | ok d =>
    obtain ⟨d', hlooked, hasked, hpast⟩ := (Descent.kept_looks source).course
      (fun h => h.mark .finish fun hadvance => by simp at hadvance) Descent.Looks.looked hstart
      (Descent.looks_start hstart) h
    rw [hasked, hpast, List.reverse_reverse]
    exact ⟨hlooked.asked, fun m hm => hlooked.past m (List.mem_reverse.1 hm)⟩

/-! ### The points of a run -/

namespace Reader

/-- A token that is taken in is not the end. -/
theorem Move.kind_ne_endOfInput {r r' : Reader} {token : Token} (h : Move r token r') :
    token.kind ≠ .endOfInput := by
  cases h <;> simp

/-- A parser goes on only where the reader takes in the token. -/
theorem exists_of_step {r : Reader} {cursor : Cursor} {events : Array Event} {q : Parser}
    (hr : r.Tidy) (h : (r.parser cursor events).step = .next q) :
    ∃ r' next events', Move r cursor.current r' ∧ cursor.advance = .ok next ∧
      q = r'.parser next events' := by
  cases hread : r.read cursor.current with
  | some r' =>
    have hmove := read_eq_some_iff.1 hread
    rw [step_of_move events hr hmove, stepTo] at h
    cases hadvance : cursor.advance with
    | error error => simp [hadvance] at h
    | ok next =>
      rw [hadvance] at h
      exact ⟨r', next, _, hmove, rfl, (Parser.Step.next.inj h).symm⟩
  | none =>
    cases hresult : r.result? with
    | none => simp [step_of_reject events hread fun _ => hresult] at h
    | some t =>
      by_cases hend : cursor.current.kind = .endOfInput
      · simp [step_of_result events hr hend hresult] at h
      · simp [step_of_reject events hread fun hkind => absurd hkind hend] at h

end Reader

/-- Where a run of the parser stands, there is a reader that has taken in the same tokens. -/
theorem Parser.Reached.exists_reader {source : String} {taken : List Token} {p : Parser}
    (h : Parser.Reached source taken p) :
    ∃ (r : Reader) (events : Array Event) (start : Nat), r.Tidy ∧ r.Holds taken ∧
      p = r.parser p.cursor events ∧ p.cursor.StandsAfter source taken start := by
  induction h with
  | start h =>
    obtain ⟨cursor, hcursor, rfl⟩ := exists_of_start h
    obtain ⟨start, hstands⟩ := Cursor.standsAfter_start hcursor
    exact ⟨.start, #[], start, Reader.tidy_start, Reader.holds_start, rfl, hstands⟩
  | @step taken p q hp h ih =>
    obtain ⟨r, events, start, htidy, hholds, hparser, hstands⟩ := ih
    rw [hparser] at h
    obtain ⟨r', next, events', hmove, hadvance, rfl⟩ := Reader.exists_of_step htidy h
    obtain ⟨start', hstands'⟩ := hstands.advance hmove.kind_ne_endOfInput hadvance
    exact ⟨r', events', start', hmove.tidy, hholds.move hmove, rfl, hstands'⟩

/-- At the end a parser does not take in a token. -/
theorem Parser.step_of_endOfInput {p : Parser} (h : p.cursor.current.kind = .endOfInput) :
    p.step = p.reject ∨ ∃ operand, p.step = p.finish operand := by
  obtain ⟨⟨lexer, kind, span⟩, arena, operand, group, outer, events⟩ := p
  obtain rfl : kind = .endOfInput := h
  cases operand with
  | none => exact .inl rfl
  | some operand => exact .inr ⟨operand, rfl⟩

/-- **Nothing is read past the end of a text.**  A lexer is asked for an item only if it has one,
and not behind the end or an error: each lexer but the first is what came behind a word that the
lexer asked before it gave.  At every point the current token is the end if and only if the lexer is
exhausted, and then no token is taken in. -/
theorem never_past_end (source : String) :
    (∃ c, (∀ budget, source.utf8ByteSize + 2 ≤ budget → course budget source = some c) ∧
      (c.result, c.events) = parse source ∧
      c.asked.head? = some (.start source) ∧
      c.asked.IsChain (fun l l' =>
        ∃ token, token.kind ≠ .endOfInput ∧ l.next = some (.ok token, l')) ∧
      (∀ l ∈ c.asked, l.next ≠ none) ∧
      ∀ m ∈ c.past,
        (m.cursor.current.kind = .endOfInput ↔ m.cursor.lexer.exhausted = true) ∧
        (m.act = .advance → m.cursor.current.kind ≠ .endOfInput)) ∧
    ∀ taken p, Parser.Reached source taken p →
      (p.cursor.current.kind = .endOfInput ↔ p.cursor.lexer.exhausted = true) ∧
      (p.cursor.current.kind = .endOfInput →
        p.step = p.reject ∨ ∃ operand, p.step = p.finish operand) ∧
      (p.cursor.current.kind ≠ .endOfInput → p.cursor.lexer.next ≠ none) := by
  constructor
  · obtain ⟨c, hc, hparse⟩ := exists_course source
    obtain ⟨hasked, hpast⟩ := looked_of_course (hc _ (Nat.le_refl _))
    refine ⟨c, hc, hparse, ?_, ?_, ?_, fun m hm => ?_⟩
    · rw [← List.getLast?_reverse]
      exact hasked.first
    · exact List.isChain_reverse.1 hasked.turn
    · exact fun l hl => hasked.next_ne_none l (List.mem_reverse.2 hl)
    · obtain ⟨start, hstands⟩ := (hpast m hm).stands
      exact ⟨hstands.kind_iff, (hpast m hm).kind_ne⟩
  · intro taken p hp
    obtain ⟨r, events, start, -, -, -, hstands⟩ := hp.exists_reader
    refine ⟨hstands.kind_iff, Parser.step_of_endOfInput, fun hend => ?_⟩
    simp [Lexer.next, hstands.exhausted_eq_false hend]

/-- In `(1` the lexer is asked three times, the last time for the end; in an empty text that is the
first time. -/
theorem never_past_end_open :
    (∃ c, course 4 "(1" = some c ∧ c.asked.length = 3 ∧ (∀ l ∈ c.asked, l.next ≠ none) ∧
      c.asked.IsChain (fun l l' =>
        ∃ token, token.kind ≠ .endOfInput ∧ l.next = some (.ok token, l'))) ∧
    (∃ p, Parser.Reached "(1" [] p ∧ p.cursor.lexer.next ≠ none) ∧
    ∃ p, Parser.Reached "" [] p ∧ (p.step = p.reject ∨ ∃ operand, p.step = p.finish operand) := by
  have hlength : (course 4 "(1").map (fun c => c.asked.length) = some 3 := by decide +kernel
  have hopen : Cursor.start "(1" =
      .ok ⟨⟨"(1", ['1'], 1, false⟩, ⟨.symbol .openParen, ⟨0, 1⟩⟩⟩ := by decide +kernel
  have hempty : Cursor.start "" = .ok ⟨⟨"", [], 0, true⟩, ⟨.endOfInput, ⟨0, 0⟩⟩⟩ := by
    decide +kernel
  obtain ⟨⟨c, hc, -, -, hturn, hnext, -⟩, hruns⟩ := never_past_end "(1"
  refine ⟨?_, ?_, ?_⟩
  · have hcourse := hc 4 (by decide +kernel)
    rw [hcourse] at hlength
    exact ⟨c, hcourse, Option.some.inj hlength, hnext, hturn⟩
  · have hstart := Parser.start_of_cursor hopen
    exact ⟨_, .start hstart, (hruns _ _ (.start hstart)).2.2 (by simp)⟩
  · have hstart := Parser.start_of_cursor hempty
    exact ⟨_, .start hstart, ((never_past_end "").2 _ _ (.start hstart)).2.1 rfl⟩

end Reckon
