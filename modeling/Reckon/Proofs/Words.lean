/-
A text as words.

A `Word` is a lexeme that stands for a token, and the blanks in front of it.  Every text is a row of
words and a rest, and the rest is blank or begins, after blanks, with something that is no
token.  Where a word begins in the text decides about its token's place and about nothing else.

* `exists_cuts`: every text can be cut into words;
* `Cuts.items_start`: the items of a text are the tokens of its words, and one item after them;
* `exists_of_tokensAt_eq_append`: a token is that of a word, with as much in front of it.
-/
import Mathlib.Data.List.TakeWhile
import Reckon.Proofs.Munch
import Reckon.Token.Lexer

namespace Reckon

theorem isBlank_of_mem_nil : ∀ c ∈ ([] : List Char), isBlank c = true := fun _ h =>
  absurd h List.not_mem_nil

/-- A lexeme that stands for a token, and the blanks in front of it. -/
structure Word where
  gap : List Char
  lexeme : Lexeme
  kind : TokenKind
  isBlank_of_mem : ∀ c ∈ gap, isBlank c = true
  wellFormed : lexeme.WellFormed
  kind?_lexeme : lexeme.kind? = some kind

namespace Word

/-- The word as it is written. -/
def text (w : Word) : List Char := w.gap ++ w.lexeme.text

/-- Bytes that the word takes. -/
def length (w : Word) : Nat := Text.byteLength w.gap + Text.byteLength w.lexeme.text

/-- The token of the word, where the word begins at byte `offset`. -/
def token (w : Word) (offset : Nat) : Token :=
  ⟨w.kind, .ofRange (offset + Text.byteLength w.gap) (offset + w.length)⟩

/-- A sign with blanks in front of it. -/
def signAfter (gap : List Char) (hgap : ∀ c ∈ gap, isBlank c = true) (s : Symbol) : Word :=
  ⟨gap, .symbol s, .symbol s, hgap, trivial, rfl⟩

/-- A sign with no blanks in front of it. -/
def sign (s : Symbol) : Word := signAfter [] isBlank_of_mem_nil s

/-- A numeral that is in range, with no blanks in front of it. -/
def numeral (n : Numeral) (value : Binary64) (hn : n.WellFormed)
    (hvalue : n.toBinary64? = some value) : Word :=
  ⟨[], .number n, .number value, isBlank_of_mem_nil, hn,
    Option.map_eq_some_iff.2 ⟨value, hvalue, rfl⟩⟩

end Word

/-- Words as they are written, one after another. -/
def writing (words : List Word) : List Char := words.flatMap Word.text

/-- The tokens of words, the first of which begins at byte `offset`. -/
def tokensAt (offset : Nat) : List Word → List Token
  | [] => []
  | w :: words => w.token offset :: tokensAt (offset + w.length) words

/-- No word could be read on into what follows it, the text `rest` being after the last one. -/
def Separate (rest : List Char) : List Word → Prop
  | [] => True
  | w :: words =>
    (writing words ++ rest).head?.any w.lexeme.continuesWith = false ∧ Separate rest words

section
variable {rest : List Char} {words : List Word}

@[simp] theorem writing_nil : writing [] = [] := rfl

@[simp] theorem writing_cons (w : Word) (words : List Word) :
    writing (w :: words) = w.gap ++ (w.lexeme.text ++ writing words) := by
  rw [writing, List.flatMap_cons, Word.text, List.append_assoc]
  rfl

@[simp] theorem writing_append (front back : List Word) :
    writing (front ++ back) = writing front ++ writing back := List.flatMap_append

theorem byteLength_writing_cons (w : Word) (words : List Word) :
    Text.byteLength (writing (w :: words)) = w.length + Text.byteLength (writing words) := by
  simp [Word.length, Nat.add_assoc]

theorem tokensAt_append (offset : Nat) (front back : List Word) :
    tokensAt offset (front ++ back) =
      tokensAt offset front ++ tokensAt (offset + Text.byteLength (writing front)) back := by
  induction front generalizing offset with
  | nil => rfl
  | cons w front ih =>
    rw [List.cons_append, tokensAt, ih, tokensAt, List.cons_append, byteLength_writing_cons,
      Nat.add_assoc]

theorem length_tokensAt (offset : Nat) (words : List Word) :
    (tokensAt offset words).length = words.length := by
  induction words generalizing offset with
  | nil => rfl
  | cons w words ih => rw [tokensAt, List.length_cons, List.length_cons, ih]

theorem map_kind_tokensAt (offset : Nat) (words : List Word) :
    (tokensAt offset words).map Token.kind = words.map Word.kind := by
  induction words generalizing offset with
  | nil => rfl
  | cons w words ih =>
    rw [tokensAt, List.map_cons, List.map_cons, ih]
    rfl

/-- A sign takes one byte. -/
theorem tokensAt_sign (offset : Nat) (s : Symbol) (words : List Word) :
    tokensAt offset (.sign s :: words) =
      ⟨.symbol s, .ofRange offset (offset + 1)⟩ :: tokensAt (offset + 1) words := by
  cases s <;> rfl

/-- No lexeme stands for the end of the text. -/
theorem Lexeme.kind?_ne_endOfInput (x : Lexeme) : x.kind? ≠ some .endOfInput := by
  cases x <;> simp [kind?]

theorem Word.kind_ne_endOfInput (w : Word) : w.kind ≠ .endOfInput := by
  intro hend
  exact w.lexeme.kind?_ne_endOfInput (hend ▸ w.kind?_lexeme)

theorem Lexeme.byteLength_text_pos {x : Lexeme} (hx : x.WellFormed) :
    0 < Text.byteLength x.text := by
  obtain ⟨c, cs, htext, -⟩ := head_text hx
  have hpos := c.utf8Size_pos
  rw [htext, Text.byteLength_cons]
  omega

theorem Word.length_pos (w : Word) : 0 < w.length :=
  Nat.lt_of_lt_of_le (Lexeme.byteLength_text_pos w.wellFormed) (Nat.le_add_left _ _)

/-- There are no more words than bytes. -/
theorem length_le_byteLength_writing (words : List Word) :
    words.length ≤ Text.byteLength (writing words) := by
  induction words with
  | nil => exact Nat.zero_le _
  | cons w words ih =>
    have := w.length_pos
    rw [byteLength_writing_cons, List.length_cons]
    omega

end

/-! ### Words in front of others -/

section
variable {rest tail : List Char} {words front back : List Word}

/-- Whether the last word ends is up to the first character behind it. -/
theorem Separate.imp (h : Separate rest words)
    (hrest : ∀ x : Lexeme, rest.head?.any x.continuesWith = false →
      tail.head?.any x.continuesWith = false) : Separate tail words := by
  induction words with
  | nil => trivial
  | cons w words ih =>
    refine ⟨?_, ih h.2⟩
    have hhead := h.1
    cases hwords : writing words with
    | nil =>
      rw [hwords] at hhead
      exact hrest _ hhead
    | cons c cs =>
      rw [hwords] at hhead
      exact hhead

theorem separate_append :
    Separate tail (front ++ back) ↔ Separate (writing back ++ tail) front ∧ Separate tail back := by
  induction front with
  | nil => simp [Separate]
  | cons w front ih =>
    rw [List.cons_append, Separate, Separate, ih, writing_append, List.append_assoc, and_assoc]

end

/-! ### Words one at a time -/

namespace Lexer

theorem item_of_kind?_eq_some (l : Lexer) (offset : Nat) {x : Lexeme} {cs rest : List Char}
    {kind : TokenKind} (h : Lexeme.munch cs = some (x, rest)) (hkind : x.kind? = some kind) :
    l.item offset cs =
      (.ok ⟨kind, .ofRange offset (offset + Text.byteLength x.text)⟩,
        { l with rest, offset := offset + Text.byteLength x.text }) := by
  simp only [item, h, hkind]

theorem item_of_kind?_eq_none (l : Lexer) (offset : Nat) {x : Lexeme} {cs rest : List Char}
    (h : Lexeme.munch cs = some (x, rest)) (hkind : x.kind? = none) :
    l.item offset cs =
      (.error (.numberOutOfRange (String.ofList x.text) (saturate offset)), l.finish) := by
  simp only [item, h, hkind]

/-- Blanks are passed over, up to the text behind them. -/
theorem next_behind {l : Lexer} {gap cs : List Char} (hopen : l.exhausted = false)
    (hrest : l.rest = gap ++ cs) (hgap : ∀ c ∈ gap, isBlank c = true)
    (hhead : cs.head?.any isBlank = false) :
    l.next = some (l.item (l.offset + Text.byteLength gap) cs) := by
  obtain ⟨htake, hdrop⟩ := takeWhile_append_of_head hgap hhead
  rw [next, hopen, if_neg Bool.false_ne_true, hrest, htake, hdrop]

/-- A lexeme does not begin with a blank, so the blanks end in front of it. -/
theorem next_lexeme {l : Lexer} {x : Lexeme} {gap rest : List Char} (hopen : l.exhausted = false)
    (hrest : l.rest = gap ++ (x.text ++ rest)) (hgap : ∀ c ∈ gap, isBlank c = true)
    (hx : x.WellFormed) :
    l.next = some (l.item (l.offset + Text.byteLength gap) (x.text ++ rest)) := by
  obtain ⟨c, cs, htext, hc⟩ := Lexeme.head_text hx
  exact next_behind hopen hrest hgap (by simp [htext, hc])

/-- A word in front is the next item. -/
theorem next_word (source : String) (offset : Nat) (w : Word) {rest : List Char}
    (hrest : rest.head?.any w.lexeme.continuesWith = false) :
    next ⟨source, w.gap ++ (w.lexeme.text ++ rest), offset, false⟩ =
      some (.ok (w.token offset), ⟨source, rest, offset + w.length, false⟩) := by
  have hlength : offset + Text.byteLength w.gap + Text.byteLength w.lexeme.text =
      offset + w.length := by rw [Word.length, Nat.add_assoc]
  rw [next_lexeme rfl rfl w.isBlank_of_mem w.wellFormed,
    item_of_kind?_eq_some _ _ (Lexeme.munch_text_append w.wellFormed hrest) w.kind?_lexeme, hlength]
  rfl

/-- Words in front are the next items, whatever comes after them. -/
theorem items_writing (source : String) (offset : Nat) {words : List Word} {rest : List Char}
    (h : Separate rest words) :
    items ⟨source, writing words ++ rest, offset, false⟩ =
      (tokensAt offset words).map .ok ++
        items ⟨source, rest, offset + Text.byteLength (writing words), false⟩ := by
  induction words generalizing offset with
  | nil => rfl
  | cons w words ih =>
    have hnext := next_word source offset w h.1
    rw [items_eq, writing_cons, List.append_assoc, List.append_assoc, hnext]
    simp only [tokensAt, List.map_cons, List.cons_append, ih _ h.2, Nat.add_assoc,
      Text.byteLength_append, Word.length]

/-- Blanks at the end give the end token. -/
theorem items_blank (source : String) (offset : Nat) {rest : List Char}
    (h : ∀ c ∈ rest, isBlank c = true) :
    items ⟨source, rest, offset, false⟩ = [.ok ⟨.endOfInput, .point source.utf8ByteSize⟩] := by
  have hnext := next_behind (l := ⟨source, rest, offset, false⟩) rfl (List.append_nil rest).symm h
    rfl
  have hlast : items ⟨source, rest, offset, true⟩ = [] := by rw [items_eq]; rfl
  rw [items_eq, hnext]
  show _ :: items ⟨source, rest, offset, true⟩ = _
  rw [hlast]

end Lexer

/-! ### Where the words stop -/

/-- What no token begins with, or what is too large for one. -/
inductive Obstacle where
  | stray (char : Char)
  | outOfRange (numeral : Numeral)

/-- The error for an obstacle at byte `offset`. -/
def Obstacle.error (offset : Nat) : Obstacle → LexError
  | stray char => .unexpectedChar char (saturate offset)
  | outOfRange n => .numberOutOfRange (String.ofList n.text) (saturate offset)

/-- After blanks the text begins with an obstacle. -/
inductive Stuck (gap : List Char) : Obstacle → List Char → Prop where
  | stray {c : Char} {cs : List Char} (hgap : ∀ d ∈ gap, isBlank d = true)
      (hc : isBlank c = false) (hmunch : Lexeme.munch (c :: cs) = none) :
      Stuck gap (.stray c) (gap ++ c :: cs)
  | outOfRange {n : Numeral} {cs : List Char} (hgap : ∀ d ∈ gap, isBlank d = true)
      (hn : n.WellFormed) (hstops : cs.head?.any n.continuesWith = false)
      (hrange : n.toBinary64? = none) : Stuck gap (.outOfRange n) (gap ++ (n.text ++ cs))

theorem Lexeme.kind?_eq_none_of_range {n : Numeral} (h : n.toBinary64? = none) :
    (number n).kind? = none := by
  rw [kind?, h]
  rfl

namespace Lexer

theorem next_of_stuck (source : String) (offset : Nat) {gap rest : List Char}
    {obstacle : Obstacle} (h : Stuck gap obstacle rest) :
    next ⟨source, rest, offset, false⟩ =
      some (.error (obstacle.error (offset + Text.byteLength gap)),
        finish ⟨source, rest, offset, false⟩) := by
  cases h with
  | @stray c cs hgap hc hmunch =>
    have hhead : (c :: cs).head?.any isBlank = false := hc
    refine (next_behind rfl rfl hgap hhead).trans ?_
    simp only [item, hmunch, Obstacle.error]
  | @outOfRange n cs hgap hn hstops hrange =>
    have hmunch := Lexeme.munch_text_append (x := .number n) hn hstops
    exact (next_lexeme (x := .number n) rfl rfl hgap hn).trans
      (congrArg some (item_of_kind?_eq_none _ _ hmunch (Lexeme.kind?_eq_none_of_range hrange)))

/-- At an obstacle there is an error and nothing after it. -/
theorem items_of_stuck (source : String) (offset : Nat) {gap rest : List Char}
    {obstacle : Obstacle} (h : Stuck gap obstacle rest) :
    items ⟨source, rest, offset, false⟩ =
      [.error (obstacle.error (offset + Text.byteLength gap))] := by
  have hlast : items (finish ⟨source, rest, offset, false⟩) = [] := by rw [items_eq]; rfl
  rw [items_eq, next_of_stuck source offset h]
  simp only [hlast]

end Lexer

/-! ### Cutting a text into words -/

/-- Every text is a row of words, and after them blanks or an obstacle. -/
theorem exists_writing (cs : List Char) :
    ∃ words rest, cs = writing words ++ rest ∧ Separate rest words ∧
      ((∀ c ∈ rest, isBlank c = true) ∨ ∃ gap obstacle, Stuck gap obstacle rest) := by
  -- By the length of the text: each word that is cut off leaves a shorter one.
  induction hn : cs.length using Nat.strongRecOn generalizing cs with
  | ind n ih =>
    subst hn
    have hcs := List.takeWhile_append_dropWhile (p := isBlank) (l := cs)
    have hgap : ∀ c ∈ cs.takeWhile isBlank, isBlank c = true := fun c => List.mem_takeWhile_imp
    cases hd : cs.dropWhile isBlank with
    | nil => exact ⟨[], cs, rfl, trivial, .inl (List.dropWhile_eq_nil_iff.1 hd)⟩
    | cons c tail =>
      have hc : isBlank c = false := by simpa [hd] using head_dropWhile isBlank cs
      rw [hd] at hcs
      cases hmunch : Lexeme.munch (c :: tail) with
      | none =>
        have hstuck := Stuck.stray hgap hc hmunch
        exact ⟨[], cs, rfl, trivial, .inr ⟨_, _, hcs ▸ hstuck⟩⟩
      | some front =>
        obtain ⟨x, after⟩ := front
        obtain ⟨htext, hx, hstops⟩ := Lexeme.munch_eq_some_iff.1 hmunch
        cases hkind : x.kind? with
        | none =>
          -- Only a numeral can be out of range.
          cases x with
          | symbol sign => simp [Lexeme.kind?] at hkind
          | number n =>
            rw [htext] at hcs
            have hrange : n.toBinary64? = none := by simpa [Lexeme.kind?] using hkind
            have hstuck := Stuck.outOfRange hgap hx hstops hrange
            exact ⟨[], cs, rfl, trivial, .inr ⟨_, _, hcs ▸ hstuck⟩⟩
        | some kind =>
          have hlt := Lexeme.length_lt_of_munch hmunch
          have hle : (c :: tail).length ≤ cs.length :=
            hd ▸ (List.dropWhile_sublist isBlank).length_le
          obtain ⟨words, rest, hafter, hseparate, hrest⟩ := ih after.length (by omega) after rfl
          refine ⟨⟨_, x, kind, hgap, hx, hkind⟩ :: words, rest, ?_, ⟨hafter ▸ hstops, hseparate⟩,
            hrest⟩
          rw [writing_cons, List.append_assoc, List.append_assoc, ← hafter, ← htext]
          exact hcs.symm

/-- The end token of a text. -/
def endToken (source : String) : Token := ⟨.endOfInput, .point source.utf8ByteSize⟩

/-- A text is a row of words, and `last` is the item after their tokens. -/
inductive Cuts (source : String) (words : List Word) : Except LexError Token → Prop where
  | finished {rest : List Char} (htext : source.toList = writing words ++ rest)
      (hwords : Separate rest words) (hrest : ∀ c ∈ rest, isBlank c = true) :
      Cuts source words (.ok (endToken source))
  | stuck {rest gap : List Char} {obstacle : Obstacle}
      (htext : source.toList = writing words ++ rest) (hwords : Separate rest words)
      (hrest : Stuck gap obstacle rest) :
      Cuts source words
        (.error (obstacle.error (Text.byteLength (writing words) + Text.byteLength gap)))

/-- Words with nothing after them, written out. -/
theorem cuts_ofList {words : List Word} (h : Separate [] words) :
    Cuts (String.ofList (writing words)) words (.ok (endToken (String.ofList (writing words)))) :=
  .finished (by rw [String.toList_ofList, List.append_nil]) h isBlank_of_mem_nil

theorem exists_cuts (source : String) : ∃ words last, Cuts source words last := by
  obtain ⟨words, rest, htext, hwords, hrest | ⟨gap, obstacle, hrest⟩⟩ :=
    exists_writing source.toList
  · exact ⟨words, _, .finished htext hwords hrest⟩
  · exact ⟨words, _, .stuck htext hwords hrest⟩

section
variable {source : String} {words : List Word} {last : Except LexError Token}

theorem Cuts.exists_text (h : Cuts source words last) :
    ∃ rest, source.toList = writing words ++ rest ∧ Separate rest words := by
  cases h with
  | finished htext hwords _ => exact ⟨_, htext, hwords⟩
  | stuck htext hwords _ => exact ⟨_, htext, hwords⟩

theorem Cuts.byteLength_le (h : Cuts source words last) :
    Text.byteLength (writing words) ≤ source.utf8ByteSize := by
  obtain ⟨rest, htext, -⟩ := h.exists_text
  rw [← Text.byteLength_toList, htext, Text.byteLength_append]
  exact Nat.le_add_right _ _

theorem Cuts.kind_last (h : Cuts source words last) :
    ∀ token, last = .ok token → token = endToken source := by
  cases h with
  | finished => exact fun token h => (Except.ok.inj h).symm
  | stuck => exact fun token h => nomatch h

/-- The items of a text are the tokens of its words and the last item. -/
theorem Cuts.items_start (h : Cuts source words last) :
    (Lexer.start source).items = (tokensAt 0 words).map .ok ++ [last] := by
  cases h with
  | finished htext hwords hrest =>
    rw [Lexer.start, htext, Lexer.items_writing source 0 hwords, Lexer.items_blank source _ hrest,
      endToken]
  | stuck htext hwords hrest =>
    rw [Lexer.start, htext, Lexer.items_writing source 0 hwords,
      Lexer.items_of_stuck source _ hrest, Nat.zero_add]

theorem mapM_id_append (tokens : List Token) (items : List (Except LexError Token)) :
    (tokens.map Except.ok ++ items).mapM id = (items.mapM id).map (tokens ++ ·) := by
  induction tokens with
  | nil => cases h : items.mapM id <;> simp [h, Except.map]
  | cons token tokens ih =>
    rw [List.map_cons, List.cons_append, List.mapM_cons, ih]
    cases items.mapM id <;> rfl

theorem Cuts.tokenize_eq (h : Cuts source words last) :
    tokenize source = last.map fun token => tokensAt 0 words ++ [token] := by
  rw [tokenize, h.items_start, mapM_id_append]
  cases last <;> rfl

/-- A text has tokens if and only if it is cut up to its end, and then they are those of its words
and the end token. -/
theorem tokenize_eq_ok_iff {source : String} {tokens : List Token} :
    tokenize source = .ok tokens ↔
      ∃ words, Cuts source words (.ok (endToken source)) ∧
        tokens = tokensAt 0 words ++ [endToken source] := by
  constructor
  · intro h
    obtain ⟨words, last, hcuts⟩ := exists_cuts source
    rw [hcuts.tokenize_eq] at h
    cases hcuts with
    | finished htext hwords hrest =>
      exact ⟨words, .finished htext hwords hrest, (Except.ok.inj h).symm⟩
    | stuck htext hwords hrest => exact absurd h (by simp [Except.map])
  · rintro ⟨words, hcuts, rfl⟩
    rw [hcuts.tokenize_eq]
    rfl

/-! ### The word of a token -/

/-- Where the tokens of words are split, the words are. -/
theorem exists_of_tokensAt_eq_append {token : Token} {offset : Nat} {front back : List Token}
    (h : tokensAt offset words = front ++ token :: back) :
    ∃ before w behind, words = before ++ w :: behind ∧ front = tokensAt offset before ∧
      token = w.token (offset + Text.byteLength (writing before)) := by
  induction front generalizing offset words with
  | nil =>
    cases words with
    | nil => exact absurd h (by simp [tokensAt])
    | cons w words => exact ⟨[], w, words, rfl, rfl, (List.cons.inj h).1.symm⟩
  | cons first front ih =>
    cases words with
    | nil => exact absurd h (by simp [tokensAt])
    | cons w words =>
      obtain ⟨rfl, hrest⟩ := List.cons.inj h
      obtain ⟨before, w', behind, rfl, rfl, rfl⟩ := ih hrest
      refine ⟨w :: before, w', behind, rfl, rfl, ?_⟩
      rw [byteLength_writing_cons, Nat.add_assoc]

theorem exists_of_mem_tokensAt {token : Token} {offset : Nat}
    (h : token ∈ tokensAt offset words) :
    ∃ front w back, words = front ++ w :: back ∧
      token = w.token (offset + Text.byteLength (writing front)) := by
  obtain ⟨front, back, htokens⟩ := List.append_of_mem h
  obtain ⟨before, w, behind, hwords, -, htoken⟩ := exists_of_tokensAt_eq_append htokens
  exact ⟨before, w, behind, hwords, htoken⟩

end

end Reckon
