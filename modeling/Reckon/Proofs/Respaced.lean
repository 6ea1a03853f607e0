/-
Blanks have no meaning.

A text is a row of lexemes with blanks in front of each and behind the last.  Another text with the
same lexemes may have other blanks.  Its lexemes then stand somewhere else, and everything else is
the same: which tokens it has, whether it is parsed and into which nodes, and what the result is or
what is wrong.  A failure points at the same lexeme in both texts.

* `Writes.items`: the items of a text are those of its lexemes, wherever they stand;
* `parse_alike`: both texts are parsed, into the same nodes, or parsing fails at the same lexeme;
* `evaluate_respaced`: both texts have the same result, or the same failure at the same lexeme.
-/
import Reckon.Proofs.Alike
import Reckon.Proofs.Faultless
import Reckon.Proofs.Spaced

namespace Reckon

/-! ### Texts with any blanks -/

/-- From byte `offset` on, the text is the lexemes with blanks in front of each and behind the last,
and the lexemes stand at the spans.  Between two numbers there is a blank. -/
inductive Writes : Nat → List Lexeme → List Span → List Char → Prop where
  | blank {offset : Nat} {gap : List Char} (hgap : ∀ c ∈ gap, isBlank c = true) :
      Writes offset [] [] gap
  | lexeme {offset : Nat} {gap rest : List Char} {x : Lexeme} {xs : List Lexeme}
      {spans : List Span} (hgap : ∀ c ∈ gap, isBlank c = true) (hx : x.WellFormed)
      (hapart : ∀ n m, x = .number n → xs.head? = some (.number m) →
        rest.head?.any isBlank = true)
      (hrest : Writes (offset + Text.byteLength gap + Text.byteLength x.text) xs spans rest) :
      Writes offset (x :: xs)
        (.ofRange (offset + Text.byteLength gap)
          (offset + Text.byteLength gap + Text.byteLength x.text) :: spans)
        (gap ++ (x.text ++ rest))

/-- The lexeme is the text at the span, as long as the positions of the text fit into spans. -/
def Lexeme.WrittenAt (source : String) (x : Lexeme) (span : Span) : Prop :=
  source.utf8ByteSize ≤ maxOffset →
    Text.slice? source.toList span.start.toNat span.stop.toNat = some x.text

/-- The items of a text with these lexemes at these spans. -/
def itemsOf (source : String) : List Lexeme → List Span → List (Except LexError Token)
  | x :: xs, span :: spans =>
    match x.kind? with
    | some kind => .ok ⟨kind, span⟩ :: itemsOf source xs spans
    | none => [.error (.numberOutOfRange (String.ofList x.text) span.start)]
  | _, _ => [.ok (endToken source)]

namespace Writes

variable {offset : Nat} {xs : List Lexeme} {spans : List Span} {cs : List Char}

theorem length_eq (h : Writes offset xs spans cs) : spans.length = xs.length := by
  induction h with
  | blank hgap => rfl
  | lexeme hgap hx hapart hrest ih => rw [List.length_cons, List.length_cons, ih]

/-- A lexeme is not read on into what is written behind it. -/
theorem stops {x : Lexeme} (h : Writes offset xs spans cs)
    (hapart : ∀ n m, x = .number n → xs.head? = some (.number m) → cs.head?.any isBlank = true) :
    cs.head?.any x.continuesWith = false := by
  cases h with
  | blank hgap => exact head_blank x hgap
  | @lexeme _ gap rest y _ _ hgap hy _ _ =>
    cases gap with
    | cons c gap => exact x.continuesWith_of_isBlank (hgap c List.mem_cons_self)
    | nil =>
      cases y with
      | symbol sign => exact x.continuesWith_char sign
      | number m =>
        cases x with
        | symbol sign => exact Lexeme.any_continuesWith_symbol sign _
        | number n =>
          -- A number does not begin with a blank, and two numbers have one between them.
          obtain ⟨c, tail, htext, hc⟩ := Lexeme.head_text hy
          have hblank := hapart n m rfl rfl
          simp [htext, hc] at hblank

/-- The items of a text are those of its lexemes. -/
theorem items (source : String) (h : Writes offset xs spans cs) :
    Lexer.items ⟨source, cs, offset, false⟩ = itemsOf source xs spans := by
  induction h with
  | blank hgap => exact Lexer.items_blank source _ hgap
  | @lexeme offset gap rest x xs spans hgap hx hapart hrest ih =>
    have hstops := hrest.stops hapart
    rw [itemsOf]
    cases hkind : x.kind? with
    | some kind =>
      have hnext := Lexer.next_word source offset ⟨gap, x, kind, hgap, hx, hkind⟩ hstops
      rw [Word.token, Word.length, ← Nat.add_assoc] at hnext
      dsimp only at hnext ⊢
      rw [Lexer.items_eq, hnext, ← ih]
    | none =>
      -- Only a numeral can be out of range.
      cases x with
      | symbol sign => simp [Lexeme.kind?] at hkind
      | number n =>
        have hrange : n.toBinary64? = none := by simpa [Lexeme.kind?] using hkind
        exact Lexer.items_of_stuck source offset (.outOfRange hgap hx hstops hrange)

theorem writtenAt {source : String} (h : Writes offset xs spans cs) {front : List Char}
    (htext : source.toList = front ++ cs) (hoffset : offset = Text.byteLength front) {i : Nat}
    {x : Lexeme} {span : Span} (hx : xs[i]? = some x) (hspan : spans[i]? = some span) :
    x.WrittenAt source span := by
  intro hsize
  induction h generalizing front i with
  | blank hgap => simp at hx
  | @lexeme offset gap rest y ys spans hgap hy hapart hrest ih =>
    have hfront : source.toList = front ++ gap ++ y.text ++ rest := by simp [htext]
    cases i with
    | zero =>
      obtain rfl := Option.some.inj hx
      obtain rfl := Option.some.inj hspan
      rw [← Text.byteLength_toList, hfront, Text.byteLength_append, Text.byteLength_append,
        Text.byteLength_append] at hsize
      have hslice := Text.slice?_append (front ++ gap) y.text rest
      rw [Text.byteLength_append, ← hfront, ← hoffset] at hslice
      rwa [Span.ofRange_start (by omega), Span.ofRange_stop (by omega)]
    | succ i =>
      refine ih hfront ?_ hx hspan
      rw [hoffset, Text.byteLength_append, Text.byteLength_append]

end Writes

/-! ### The same lexeme in two texts -/

/-- The spans are those of one lexeme, by its number in the row. -/
def Counterparts (xs : List Lexeme) (spans spans' : List Span) (x : Lexeme) (span span' : Span) :
    Prop :=
  ∃ i : Nat, xs[i]? = some x ∧ spans[i]? = some span ∧ spans'[i]? = some span'

/-- The tokens are those of one lexeme. -/
def Token.Alike (P : Lexeme → Span → Span → Prop) (token token' : Token) : Prop :=
  token.kind = token'.kind ∧ ∃ x : Lexeme, x.kind? = some token.kind ∧ P x token.span token'.span

/-- The items are those of one lexeme, or those at the ends of the texts. -/
inductive ItemsAlike (P : Lexeme → Span → Span → Prop) (source source' : String) :
    Except LexError Token → Except LexError Token → Prop where
  | token {token token' : Token} (h : token.Alike P token') :
      ItemsAlike P source source' (.ok token) (.ok token')
  | ending : ItemsAlike P source source' (.ok (endToken source)) (.ok (endToken source'))
  | outOfRange {x : Lexeme} {span span' : Span} (h : P x span span') :
      ItemsAlike P source source' (.error (.numberOutOfRange (String.ofList x.text) span.start))
        (.error (.numberOutOfRange (String.ofList x.text) span'.start))

/-- The errors have the same cause, at the same lexeme or at the ends of the texts. -/
inductive ParseError.Alike (P : Lexeme → Span → Span → Prop) (source source' : String) :
    ParseError → ParseError → Prop where
  | unexpectedToken {x : Lexeme} {found found' : String} {span span' : Span} (h : P x span span')
      (hfound : source.utf8ByteSize ≤ maxOffset → found = String.ofList x.text)
      (hfound' : source'.utf8ByteSize ≤ maxOffset → found' = String.ofList x.text) :
      Alike P source source' (.unexpectedToken found span) (.unexpectedToken found' span')
  | unexpectedEnd :
      Alike P source source' (.unexpectedEnd (saturate source.utf8ByteSize))
        (.unexpectedEnd (saturate source'.utf8ByteSize))
  | numberOutOfRange {x : Lexeme} {span span' : Span} (h : P x span span') :
      Alike P source source' (.lex (.numberOutOfRange (String.ofList x.text) span.start))
        (.lex (.numberOutOfRange (String.ofList x.text) span'.start))

/-- The failures have the same cause, at the same lexeme or at the ends of the texts. -/
inductive Failure.Alike (P : Lexeme → Span → Span → Prop) (source source' : String) :
    Failure → Failure → Prop where
  | parse {error error' : ParseError} (h : error.Alike P source source' error') :
      Alike P source source' (.parse error) (.parse error')
  | eval {error error' : EvalError} (h : error.Alike (Token.Alike P) error') :
      Alike P source source' (.eval error) (.eval error')

theorem Failure.Alike.status_eq {P : Lexeme → Span → Span → Prop} {source source' : String}
    {failure failure' : Failure} (h : failure.Alike P source source' failure') :
    failure.status = failure'.status := by
  cases h with
  | parse h => cases h <;> rfl
  | eval h => rfl

section
variable {P Q : Lexeme → Span → Span → Prop} {source source' : String}

theorem ItemsAlike.imp {item item' : Except LexError Token}
    (hPQ : ∀ x span span', P x span span' → Q x span span')
    (h : ItemsAlike P source source' item item') : ItemsAlike Q source source' item item' := by
  cases h with
  | token h =>
    obtain ⟨hkind, x, hx, hP⟩ := h
    exact .token ⟨hkind, x, hx, hPQ _ _ _ hP⟩
  | ending => exact .ending
  | outOfRange h => exact .outOfRange (hPQ _ _ _ h)

theorem itemsOf_alike {xs : List Lexeme} {spans spans' : List Span}
    (hlength : spans.length = xs.length) (hlength' : spans'.length = xs.length) :
    List.Forall₂ (ItemsAlike (Counterparts xs spans spans') source source')
      (itemsOf source xs spans) (itemsOf source' xs spans') := by
  induction xs generalizing spans spans' with
  | nil => exact .cons .ending .nil
  | cons x xs ih =>
    obtain ⟨span, spans, rfl⟩ := List.exists_cons_of_length_eq_add_one hlength
    obtain ⟨span', spans', rfl⟩ := List.exists_cons_of_length_eq_add_one hlength'
    have hfirst : Counterparts (x :: xs) (span :: spans) (span' :: spans') x span span' :=
      ⟨0, rfl, rfl, rfl⟩
    have hrest := ih (Nat.succ.inj hlength) (Nat.succ.inj hlength')
    rw [itemsOf, itemsOf]
    cases hkind : x.kind? with
    | none => exact .cons (.outOfRange hfirst) .nil
    | some kind =>
      refine .cons (.token ⟨rfl, x, hkind, hfirst⟩) (hrest.imp fun item item' hitem => ?_)
      refine hitem.imp ?_
      rintro y span span' ⟨i, hx, hspan, hspan'⟩
      exact ⟨i + 1, hx, hspan, hspan'⟩

/-! ### Parsing -/

/-- A scan takes in the same items of both texts. -/
theorem Scan.firstOffender_alike {items items' : List (Except LexError Token)} (s : Scan)
    (h : List.Forall₂ (ItemsAlike P source source') items items') :
    Option.Rel (ItemsAlike P source source') (s.firstOffender items) (s.firstOffender items') := by
  induction h generalizing s with
  | nil => exact .none
  | cons hitem _ ih =>
    -- A scan goes by the kinds of tokens, which are the same.
    cases hitem with
    | token htoken =>
      rw [firstOffender, firstOffender, ← htoken.1]
      cases s.move _ with
      | none => exact .some (.token htoken)
      | some s' => exact ih s'
    | ending =>
      have hkind : (endToken source').kind = (endToken source).kind := rfl
      rw [firstOffender, firstOffender, hkind]
      cases s.move _ with
      | none => exact .some ItemsAlike.ending
      | some s' => exact ih s'
    | outOfRange h => exact .some (.outOfRange h)

theorem offence_alike {item item' : Except LexError Token}
    (htext : ∀ x span span', P x span span' →
      x.WrittenAt source span ∧ x.WrittenAt source' span')
    (h : ItemsAlike P source source' item item') :
    (offence source item).Alike P source source' (offence source' item') := by
  cases h with
  | @token token token' htoken =>
    obtain ⟨hkind, x, hx, hP⟩ := htoken
    have hend : token.kind ≠ .endOfInput := by
      intro hend
      exact x.kind?_ne_endOfInput (hend ▸ hx)
    obtain ⟨hfound, hfound'⟩ := htext _ _ _ hP
    rw [offence, if_neg hend, offence, if_neg (hkind ▸ hend)]
    refine .unexpectedToken hP (fun hsize => ?_) (fun hsize => ?_)
    · rw [Token.textIn, hfound hsize, Option.getD_some]
    · rw [Token.textIn, hfound' hsize, Option.getD_some]
  | ending => exact .unexpectedEnd
  | outOfRange h => exact .numberOutOfRange h

/-- The words of both texts are the same, but for their places. -/
theorem tokens_alike {tokens tokens' : List Token} {last last' : Except LexError Token}
    (hend : ∀ token ∈ tokens, token.kind ≠ .endOfInput)
    (h : List.Forall₂ (ItemsAlike P source source') (tokens.map .ok ++ [last])
      (tokens'.map .ok ++ [last'])) : List.Forall₂ (Token.Alike P) tokens tokens' := by
  have hlength : tokens'.length = tokens.length := by
    have hlength := h.length_eq
    simp only [List.length_append, List.length_map, List.length_singleton] at hlength
    omega
  have htokens := List.forall₂_take tokens.length h
  rw [List.take_left' (List.length_map _), List.take_left' ((List.length_map _).trans hlength),
    List.forall₂_map_left_iff, List.forall₂_map_right_iff] at htokens
  refine ((List.forall₂_and_left _ _).2 ⟨hend, htokens⟩).imp ?_
  rintro token token' ⟨hopen, hitem⟩
  cases hitem with
  | token htoken => exact htoken
  | ending => exact absurd rfl hopen

theorem map_kind_of_alike {tokens tokens' : List Token}
    (h : List.Forall₂ (Token.Alike P) tokens tokens') :
    tokens.map Token.kind = tokens'.map Token.kind := by
  induction h with
  | nil => rfl
  | cons htoken _ ih => rw [List.map_cons, List.map_cons, htoken.1, ih]

/-- Tokens that are alike make up trees that are alike. -/
theorem Rank.Reads.alike {tokens tokens' : List Token} {t t' : SpanTree}
    (htokens : List.Forall₂ (Token.Alike P) tokens tokens') (h : Rank.sum.Reads tokens t)
    (h' : Rank.sum.Reads tokens' t') :
    t.tree = t'.tree ∧ List.Forall₂ (Token.Alike P) t.inOrder t'.inOrder := by
  constructor
  · have hderives := h'.derives
    rw [← map_kind_of_alike htokens] at hderives
    exact h.derives.unique hderives
  · rw [h.inOrder, h'.inOrder]
    refine List.rel_filter ?_ htokens
    rintro token token' ⟨hkind, -⟩
    simp only [Token.isParen, hkind]

/-- Texts whose items are alike are parsed alike. -/
theorem parse_alike
    (hitems : List.Forall₂ (ItemsAlike P source source') (Lexer.start source).items
      (Lexer.start source').items)
    (htext : ∀ x span span', P x span span' →
      x.WrittenAt source span ∧ x.WrittenAt source' span') :
    Both (ParseError.Alike P source source') (Expression.Alike (Token.Alike P)) (parse source).1
      (parse source').1 := by
  have hparse := parse_eq_offence source
  have hparse' := parse_eq_offence source'
  have hfirst := Scan.start.firstOffender_alike hitems
  generalize Scan.start.firstOffender (Lexer.start source).items = offender at hfirst hparse
  generalize Scan.start.firstOffender (Lexer.start source').items = offender' at hfirst hparse'
  cases hfirst with
  | some hoffender =>
    rw [hparse, hparse']
    exact .error (offence_alike htext hoffender)
  | none =>
    obtain ⟨e, he⟩ := hparse
    obtain ⟨e', he'⟩ := hparse'
    rw [he, he']
    obtain ⟨words, t, hcuts, hreads, rfl⟩ := parse_eq_ok_iff.1 he
    obtain ⟨words', t', hcuts', hreads', rfl⟩ := parse_eq_ok_iff.1 he'
    rw [hcuts.items_start, hcuts'.items_start] at hitems
    have htokens := tokens_alike (fun _ => kind_of_mem_tokensAt) hitems
    obtain ⟨htree, hinOrder⟩ := Rank.Reads.alike htokens hreads hreads'
    exact .ok (SpanTree.alike_expression htree hinOrder)

/-- Texts that are parsed alike are evaluated alike. -/
theorem evaluate_alike
    (h : Both (ParseError.Alike P source source') (Expression.Alike (Token.Alike P))
      (parse source).1 (parse source').1) :
    Both (Failure.Alike P source source') Eq (evaluate source).1 (evaluate source').1 := by
  rcases h.cases with ⟨e, e', he, he', halike⟩ | ⟨error, error', he, he', halike⟩
  · have hresult := halike.evaluate (parse source).2 (parse source').2
    rw [evaluate_of_parse_ok he, evaluate_of_parse_ok he']
    -- What is parsed has a result, or an operation is refused; there are no faults.
    rcases evaluate_of_parse he (parse source).2 with ⟨value, hvalue⟩ | ⟨error, herror⟩
    · rw [hvalue] at hresult ⊢
      generalize (e'.evaluate (parse source').2).1 = result at hresult
      cases hresult with
      | ok hvalue => exact .ok hvalue
    · rw [herror] at hresult ⊢
      generalize (e'.evaluate (parse source').2).1 = result at hresult
      cases hresult with
      | error hinterrupt =>
        cases hinterrupt with
        | refused herror => exact .error (.eval herror)
  · rw [evaluate_of_parse_error he, evaluate_of_parse_error he']
    exact .error (.parse halike)

end

/-- **Blanks have no meaning.**  Two texts with the same lexemes, however many blanks are between
them, are both parsed, into the same nodes but for the spans, which are those of the same lexemes;
or parsing fails for the same cause, at the same lexeme or at the end of both.  They both have the
same result, or a failure with the same cause and status: an operation fails at the same sign, and
what is found where it does not fit is the text of the same lexeme, as long as the positions of the
text fit into spans. -/
theorem evaluate_respaced {source source' : String} {xs : List Lexeme} {spans spans' : List Span}
    (h : Writes 0 xs spans source.toList) (h' : Writes 0 xs spans' source'.toList) :
    Both
      (fun failure failure' =>
        failure.Alike (Counterparts xs spans spans') source source' failure' ∧
          failure.status = failure'.status)
      Eq (evaluate source).1 (evaluate source').1 ∧
    Both (ParseError.Alike (Counterparts xs spans spans') source source')
      (Expression.Alike (Token.Alike (Counterparts xs spans spans'))) (parse source).1
      (parse source').1 := by
  have hitems : List.Forall₂ (ItemsAlike (Counterparts xs spans spans') source source')
      (Lexer.start source).items (Lexer.start source').items := by
    rw [Lexer.start, Lexer.start, h.items source, h'.items source']
    exact itemsOf_alike h.length_eq h'.length_eq
  have hparse := parse_alike hitems fun x span span' hcounterparts => by
    obtain ⟨i, hx, hspan, hspan'⟩ := hcounterparts
    exact ⟨h.writtenAt (List.nil_append _).symm Text.byteLength_nil.symm hx hspan,
      h'.writtenAt (List.nil_append _).symm Text.byteLength_nil.symm hx hspan'⟩
  refine ⟨(evaluate_alike hparse).imp fun failure failure' hfailure => ?_, hparse⟩
  exact ⟨hfailure, hfailure.status_eq⟩

/-- The divisor is zero in both texts, and the second sign of division is where that text has it. -/
theorem evaluate_respaced_division :
    (evaluate "1/ 0").1 = .error (.eval (.divisionByZero ⟨1, 2⟩)) ∧
      (evaluate "\t1 /0").1 = .error (.eval (.divisionByZero ⟨3, 4⟩)) := by
  let one : Lexeme := .number ⟨['1'], none⟩
  let zero : Lexeme := .number ⟨['0'], none⟩
  have hone : one.WellFormed := ⟨List.forall_mem_singleton.2 rfl, List.cons_ne_nil _ _⟩
  have hzero : zero.WellFormed := ⟨List.forall_mem_singleton.2 rfl, List.cons_ne_nil _ _⟩
  have hspace : ∀ c ∈ [' '], isBlank c = true := List.forall_mem_singleton.2 rfl
  have htab : ∀ c ∈ ['\t'], isBlank c = true := List.forall_mem_singleton.2 rfl
  have h : Writes 0 [one, .symbol .slash, zero] [⟨0, 1⟩, ⟨1, 2⟩, ⟨3, 4⟩] "1/ 0".toList :=
    @Writes.lexeme 0 [] "/ 0".toList one _ _ isBlank_of_mem_nil hone nofun
      (@Writes.lexeme 1 [] " 0".toList (.symbol .slash) _ _ isBlank_of_mem_nil trivial nofun
        (@Writes.lexeme 2 [' '] [] zero _ _ hspace hzero nofun (.blank isBlank_of_mem_nil)))
  have h' : Writes 0 [one, .symbol .slash, zero] [⟨1, 2⟩, ⟨3, 4⟩, ⟨4, 5⟩] "\t1 /0".toList :=
    @Writes.lexeme 0 ['\t'] " /0".toList one _ _ htab hone nofun
      (@Writes.lexeme 2 [' '] "0".toList (.symbol .slash) _ _ hspace trivial nofun
        (@Writes.lexeme 4 [] [] zero _ _ isBlank_of_mem_nil hzero nofun
          (.blank isBlank_of_mem_nil)))
  have hfirst : (evaluate "1/ 0").1 = .error (.eval (.divisionByZero ⟨1, 2⟩)) := by decide +kernel
  refine ⟨hfirst, ?_⟩
  have hboth := (evaluate_respaced h h').1
  rw [hfirst] at hboth
  obtain ⟨_, _, hvalue, -⟩ | ⟨failure, failure', hfailure, hresult, halike, -⟩ := hboth.cases
  · exact nomatch hvalue
  · obtain rfl := Except.error.inj hfailure
    cases halike with
    | eval halike =>
      cases halike with
      | @divisionByZero _ span' hsign =>
        obtain ⟨-, x, -, i, -, hspan, hspan'⟩ := hsign
        -- Of the three spans of the first text only the second is that of the sign.
        match i with
        | 0 => exact absurd hspan (by decide)
        | 1 =>
          obtain rfl : ⟨3, 4⟩ = span' := Option.some.inj hspan'
          exact hresult
        | 2 => exact absurd hspan (by decide)
        | i + 3 => exact nomatch hspan

/-- Two ones with blanks between them are the same two lexemes, however many blanks there are. -/
theorem exists_writes_onesApart {k : Nat} (h : 0 < k) :
    ∃ spans, Writes 0 [.number ⟨['1'], none⟩, .number ⟨['1'], none⟩] spans
      (onesApart k).toList := by
  obtain ⟨k, rfl⟩ := Nat.exists_eq_succ_of_ne_zero (Nat.ne_of_gt h)
  have hsecond := @Writes.lexeme (0 + 0 + 1) (blanks (k + 1)) [] _ [] [] isBlank_of_mem_blanks
    Word.wellFormed_one (by simp) (.blank isBlank_of_mem_nil)
  have hfirst := @Writes.lexeme 0 [] _ _ _ _ isBlank_of_mem_nil Word.wellFormed_one
    (fun _ _ _ _ => rfl) hsecond
  rw [onesApart, String.toList_ofList]
  exact ⟨_, hfirst⟩

/-- The second of two numbers does not fit.  Behind one blank it is found in the text; behind too
many blanks nothing is found there. -/
theorem evaluate_respaced_pastOffsets :
    (∃ xs spans spans', Writes 0 xs spans "1 1".toList ∧
      Writes 0 xs spans' (onesApart 4294967296).toList) ∧
    (evaluate "1 1").1 = .error (.parse (.unexpectedToken "1" ⟨2, 3⟩)) ∧
    (evaluate (onesApart 4294967296)).1 =
      .error (.parse (.unexpectedToken "" ⟨4294967295, 4294967295⟩)) := by
  obtain ⟨spans, h⟩ := exists_writes_onesApart (k := 1) (by decide)
  obtain ⟨spans', h'⟩ := exists_writes_onesApart (k := 4294967296) (by decide)
  refine ⟨⟨_, spans, spans', h, h'⟩, by decide +kernel, ?_⟩
  exact evaluate_of_parse_error (parse_onesApart (by decide))

end Reckon
