/-
What is reported while a text is parsed.

The reports follow the tokens, in whatever groups these stand: an opening parenthesis is announced,
and then every token is reported as taken in.  That is done when the item behind the token is known
to be a token, so of the last token before an error there is no more than the announcement.

* `Reader.report_append`: the reports of tokens that are taken in, with any others behind them;
* `ofParser_of_mem_parse`: nothing is reported but tokens, parentheses and the expression;
* `exists_stopsAt`: every text has an item that parsing stops at;
* `parse_reports`: the reports up to that item, and the one of the expression if it is the end.
-/
import Reckon.Proofs.Faultless

namespace Reckon

/-- What is reported of a token before the item behind it is read. -/
def Token.announcement (token : Token) : List Event :=
  if token.kind = .symbol .openParen then [.groupOpened token.span.start] else []

/-- What is reported of a token that is taken in. -/
def Token.reports (token : Token) : List Event := token.announcement ++ [.advanced token]

/-- What is reported of tokens that are taken in, up to the item behind them. -/
def reportsBefore (taken : List Token) : Except LexError Token → List Event
  | .ok _ => taken.flatMap Token.reports
  | .error _ =>
    taken.dropLast.flatMap Token.reports ++ taken.getLast?.toList.flatMap Token.announcement

/-- What a parser reports: a token, a parenthesis, or the expression. -/
inductive Event.OfParser : Event → Prop where
  | advanced (token : Token) : OfParser (.advanced token)
  | groupOpened (pos : UInt32) : OfParser (.groupOpened pos)
  | parsed (e : Expression) : OfParser (.parsed e)

/-! ### Where parsing stops -/

/-- A scan ends at the item: it is an error, the end, or a token that does not fit. -/
def Scan.EndsAt (s : Scan) : Except LexError Token → Prop
  | .error _ => True
  | .ok token => token.kind = .endOfInput ∨ s.move token.kind = none

/-- Parsing stops at the item: all tokens before it are taken in, and there the scan of them
ends. -/
structure StopsAt (source : String) (taken : List Token) (item : Except LexError Token)
    (behind : List (Except LexError Token)) : Prop where
  items_eq : (Lexer.start source).items = taken.map .ok ++ item :: behind
  exists_endsAt : ∃ s, Scan.start.moves (taken.map Token.kind) = some s ∧ s.EndsAt item

theorem Scan.exists_endsAt {last : Except LexError Token}
    (hlast : ∀ token, last = .ok token → token.kind = .endOfInput) (s : Scan)
    (tokens : List Token) :
    ∃ (taken : List Token) (item : Except LexError Token) (behind : List (Except LexError Token))
        (s' : Scan), tokens.map .ok ++ [last] = taken.map .ok ++ item :: behind ∧
      s.moves (taken.map Token.kind) = some s' ∧ s'.EndsAt item := by
  induction tokens generalizing s with
  | nil =>
    refine ⟨[], last, [], s, rfl, rfl, ?_⟩
    cases last with
    | error error => trivial
    | ok token => exact .inl (hlast token rfl)
  | cons token tokens ih =>
    cases hmove : s.move token.kind with
    | none => exact ⟨[], .ok token, _, s, rfl, rfl, .inr hmove⟩
    | some s₁ =>
      obtain ⟨taken, item, behind, s', hitems, hmoves, hends⟩ := ih s₁
      refine ⟨token :: taken, item, behind, s', congrArg (List.cons _) hitems, ?_, hends⟩
      rw [List.map_cons, moves_cons, hmove]
      exact hmoves

theorem exists_stopsAt (source : String) :
    ∃ taken item behind, StopsAt source taken item behind := by
  obtain ⟨words, last, hcuts⟩ := exists_cuts source
  have hlast : ∀ token, last = .ok token → token.kind = .endOfInput := by
    intro token htoken
    rw [hcuts.kind_last token htoken]
    rfl
  obtain ⟨taken, item, behind, s, hitems, hmoves, hends⟩ :=
    Scan.start.exists_endsAt hlast (tokensAt 0 words)
  exact ⟨taken, item, behind, hcuts.items_start.trans hitems, s, hmoves, hends⟩

/-- The item is the last one, behind all tokens, or one of the tokens. -/
theorem split_items {tokens taken : List Token} {last item : Except LexError Token}
    {behind : List (Except LexError Token)}
    (h : tokens.map .ok ++ [last] = taken.map .ok ++ item :: behind) :
    tokens = taken ∧ last = item ∧ behind = [] ∨
      ∃ token back, tokens = taken ++ token :: back ∧ item = .ok token := by
  induction taken generalizing tokens with
  | nil =>
    cases tokens with
    | nil =>
      obtain ⟨hlast, hbehind⟩ := List.cons.inj h
      exact .inl ⟨rfl, hlast, hbehind.symm⟩
    | cons token tokens => exact .inr ⟨token, tokens, rfl, (List.cons.inj h).1.symm⟩
  | cons first taken ih =>
    cases tokens with
    | nil => simp at h
    | cons token tokens =>
      obtain ⟨htoken, hrest⟩ := List.cons.inj h
      obtain rfl := Except.ok.inj htoken
      rcases ih hrest with ⟨rfl, hlast⟩ | ⟨next, back, rfl, hitem⟩
      · exact .inl ⟨rfl, hlast⟩
      · exact .inr ⟨next, back, rfl, hitem⟩

namespace Reader

variable {r r' : Reader} {tokens taken back : List Token} {last : Except LexError Token}

/-- A reader takes in the tokens that the scan of it takes in. -/
theorem moves_scan (htokens : ∀ token ∈ tokens, token.kind ≠ .endOfInput) :
    r.scan.moves (tokens.map Token.kind) = (r.readTokens tokens).map scan := by
  induction tokens generalizing r with
  | nil => rfl
  | cons token tokens ih =>
    rw [List.map_cons, Scan.moves_cons, readTokens_cons, r.move_scan (htokens token (by simp))]
    cases r.read token with
    | none => rfl
    | some r₁ => exact ih fun token' htoken' => htokens token' (by simp [htoken'])

/-! ### Reports of tokens -/

theorem toList_announced_empty (token : Token) :
    (announced #[] token).toList = token.announcement := by
  rw [announced, Token.announcement]
  split <;> rfl

/-- Tokens that are taken in are reported one after another, if a token comes behind them. -/
theorem report_append {next : Token} {items : List (Except LexError Token)}
    (hread : r.readTokens taken = some r')
    (hnext : back.map .ok ++ [last] = .ok next :: items) :
    r.report last (taken ++ back) = taken.flatMap Token.reports ++ r'.report last back := by
  induction taken generalizing r with
  | nil =>
    obtain rfl := Option.some.inj hread
    rfl
  | cons token taken ih =>
    rw [readTokens_cons] at hread
    cases hfirst : r.read token with
    | none => simp [hfirst] at hread
    | some r₁ =>
      rw [hfirst] at hread
      -- Behind the token there is another of these tokens, or the one that is given.
      have htoken : ∃ token' items',
          (taken ++ back).map .ok ++ [last] = .ok token' :: items' := by
        cases taken with
        | nil => exact ⟨next, items, hnext⟩
        | cons token' taken => exact ⟨token', _, rfl⟩
      obtain ⟨token', items', hitems⟩ := htoken
      rw [List.cons_append, report_of_ok hfirst hitems, ih hread, toList_announced_empty,
        List.flatMap_cons, Token.reports]
      simp

/-- At the end the expression is reported, if there is one. -/
theorem report_of_end {token : Token} (hread : r.readTokens taken = some r') :
    r.report (.ok token) taken = taken.flatMap Token.reports ++
      (r'.result?.map fun t => Event.parsed t.expression).toList := by
  have hreport : r.report (.ok token) (taken ++ []) =
      taken.flatMap Token.reports ++ r'.report (.ok token) [] := report_append hread rfl
  rw [List.append_nil] at hreport
  rw [hreport, report.eq_def]
  cases r'.result? <;> rfl

/-- Of the token before an error there is only the announcement. -/
theorem report_of_error {error : LexError} (hread : r.readTokens taken = some r') :
    r.report (.error error) taken = reportsBefore taken (.error error) := by
  rcases List.eq_nil_or_concat' taken with rfl | ⟨front, token, rfl⟩
  · rfl
  · rw [readTokens_append] at hread
    obtain ⟨r₁, hfront, htoken⟩ := Option.bind_eq_some_iff.1 hread
    obtain ⟨r₂, hlast, -⟩ := Option.bind_eq_some_iff.1 ((readTokens_cons ..).symm.trans htoken)
    have hnext : [token].map Except.ok ++ [.error error] = .ok token :: [.error error] := rfl
    rw [report_append hfront hnext, report, hlast, toList_announced_empty, reportsBefore,
      List.dropLast_concat, List.getLast?_concat]
    simp

theorem ofParser_of_mem_report {e : Event} (h : e ∈ r.report last tokens) : e.OfParser := by
  induction tokens generalizing r with
  | nil =>
    rw [report.eq_def] at h
    dsimp only at h
    split at h
    · obtain rfl := List.mem_singleton.1 h
      exact .parsed _
    · exact absurd h List.not_mem_nil
  | cons token tokens ih =>
    rw [report] at h
    split at h
    · rename_i r' _
      rcases List.mem_append.1 h with h | h
      · rw [toList_announced_empty, Token.announcement] at h
        split at h
        · obtain rfl := List.mem_singleton.1 h
          exact .groupOpened _
        · exact absurd h List.not_mem_nil
      · split at h
        · exact absurd h List.not_mem_nil
        · rcases List.mem_cons.1 h with rfl | h
          · exact .advanced token
          · exact ih h
    · exact absurd h List.not_mem_nil

end Reader

/-! ### Reports of a text -/

theorem ofParser_of_mem_parse {source : String} {e : Event} (h : e ∈ (parse source).2) :
    e.OfParser := by
  obtain ⟨words, last, hcuts⟩ := exists_cuts source
  rw [← Array.mem_toList_iff, hcuts.parse_eq.2] at h
  exact Reader.ofParser_of_mem_report h

section
variable {source : String} {words : List Word} {taken : List Token}
  {last item : Except LexError Token} {behind : List (Except LexError Token)} {s : Scan}

/-- What a scan takes in of the tokens of words, a reader of trees does. -/
theorem exists_readTokens (htaken : ∀ token ∈ taken, token ∈ tokensAt 0 words)
    (hmoves : Scan.start.moves (taken.map Token.kind) = some s) :
    ∃ r, Reader.start.readTokens taken = some r ∧ r.scan = s := by
  have hscan : (Reader.start.readTokens taken).map Reader.scan = some s :=
    (Reader.moves_scan fun token h => kind_of_mem_tokensAt (htaken token h)).symm.trans hmoves
  exact Option.map_eq_some_iff.1 hscan

/-- Where parsing stops at an item that does not fit it fails, and reports nothing behind it. -/
theorem Cuts.parse_of_offender (hcuts : Cuts source words last)
    (hitems : (tokensAt 0 words).map .ok ++ [last] = taken.map .ok ++ item :: behind)
    (hmoves : Scan.start.moves (taken.map Token.kind) = some s)
    (hoffends : ∀ token, item = .ok token → s.move token.kind = none) :
    (parse source).1 = .error (offence source item) ∧
      (parse source).2.toList = reportsBefore taken item := by
  constructor
  · refine parse_eq_offence_of_some ?_
    rw [hcuts.items_start, hitems, Scan.firstOffender_append hmoves]
    cases item with
    | error error => rfl
    | ok token => exact Scan.firstOffender_of_move_eq_none (hoffends token rfl)
  · have htaken : ∀ token ∈ taken, token ∈ tokensAt 0 words := by
      rcases split_items hitems with ⟨rfl, -⟩ | ⟨token, back, htokens, -⟩
      · exact fun _ => id
      · exact fun token' htoken' => htokens ▸ List.mem_append_left _ htoken'
    obtain ⟨r, hread, rfl⟩ := exists_readTokens htaken hmoves
    rw [hcuts.parse_eq.2]
    rcases split_items hitems with ⟨rfl, rfl, -⟩ | ⟨token, back, htokens, rfl⟩
    · cases last with
      | error error => exact Reader.report_of_error hread
      | ok token =>
        -- It is the end that does not fit, so there is no expression to report.
        obtain rfl := hcuts.kind_last token rfl
        have hend : r.scan.move .endOfInput = none := hoffends _ rfl
        rw [r.move_scan_endOfInput, Option.map_eq_none_iff] at hend
        rw [Reader.report_of_end hread, hend, reportsBefore]
        exact List.append_nil _
    · have hmem : token ∈ tokensAt 0 words := by
        rw [htokens]
        exact List.mem_append_right _ List.mem_cons_self
      have hkind : token.kind ≠ .endOfInput := kind_of_mem_tokensAt hmem
      have hnext : (token :: back).map Except.ok ++ [last] =
          .ok token :: (back.map Except.ok ++ [last]) := rfl
      have hnone := hoffends token rfl
      rw [r.move_scan hkind, Option.map_eq_none_iff] at hnone
      rw [htokens, Reader.report_append hread hnext, Reader.report, hnone,
        reportsBefore, List.append_nil]

/-- Where parsing stops at the end, and that fits, the expression is reported last. -/
theorem Cuts.parse_of_end {s' : Scan} (hcuts : Cuts source words (.ok (endToken source)))
    (hmoves : Scan.start.moves ((tokensAt 0 words).map Token.kind) = some s)
    (hend : s.move .endOfInput = some s') :
    ∃ e, (parse source).1 = .ok e ∧
      (parse source).2.toList = (tokensAt 0 words).flatMap Token.reports ++ [.parsed e] ∧
      e.arena.size = (tokensAt 0 words).countP fun token => !token.isParen := by
  obtain ⟨r, hread, rfl⟩ := exists_readTokens (fun _ => id) hmoves
  rw [r.move_scan_endOfInput] at hend
  obtain ⟨t, hresult, -⟩ := Option.map_eq_some_iff.1 hend
  have hall : Reader.readAll (tokensAt 0 words) = some t :=
    Option.bind_eq_some_iff.2 ⟨r, hread, hresult⟩
  have hreads := Reader.reads_of_readAll hall
  refine ⟨t.expression, parse_eq_ok_iff.2 ⟨words, t, hcuts, hreads, rfl⟩, ?_, ?_⟩
  · rw [hcuts.parse_eq.2, Reader.report_of_end hread, hresult]
    rfl
  · rw [SpanTree.size_arena_expression, ← SpanTree.length_inOrder, hreads.inOrder,
      List.countP_eq_length_filter]

end

/-- The report of an expression that a text stands for says how many nodes it has, and shows it with
its grouping written out. -/
theorem fields_parsed {source : String} {e : Expression} (h : (parse source).1 = .ok e) :
    ∃ text, e.sexpr = .ok text ∧
      (Event.parsed e).fields = [("nodes", .natural e.arena.size), ("tree", .plain text)] := by
  obtain ⟨text, htext⟩ := exists_sexpr_of_parse h
  refine ⟨text, htext, ?_⟩
  rw [Event.fields, htext]
  rfl

/-- **The reports of a parse follow the tokens.**  There is an item that parsing stops at.  All
tokens before it are reported, each in its turn, with an announcement before it if it is an opening
parenthesis; but if the item is an error, then of the token before it there is no more than the
announcement.  If the item is the end, and the text is parsed, then the expression is reported
last, with as many nodes as there are tokens other than parentheses.  Otherwise parsing fails at the
item, and nothing else is reported. -/
theorem parse_reports (source : String) :
    (∃ taken item behind, StopsAt source taken item behind) ∧
    ∀ taken item behind, StopsAt source taken item behind →
      match (parse source).1 with
      | .ok e =>
        item = .ok (endToken source) ∧ behind = [] ∧
          (parse source).2.toList = taken.flatMap Token.reports ++ [.parsed e] ∧
          ∃ text, e.sexpr = .ok text ∧
            (Event.parsed e).fields =
              [("nodes", .natural (taken.countP fun token => !token.isParen)),
                ("tree", .plain text)]
      | .error error =>
        error = offence source item ∧ (parse source).2.toList = reportsBefore taken item := by
  refine ⟨exists_stopsAt source, fun taken item behind ⟨hitems, s, hmoves, hends⟩ => ?_⟩
  obtain ⟨words, last, hcuts⟩ := exists_cuts source
  rw [hcuts.items_start] at hitems
  by_cases hoffends : ∀ token, item = .ok token → s.move token.kind = none
  · obtain ⟨hparse, hreports⟩ := hcuts.parse_of_offender hitems hmoves hoffends
    rw [hparse]
    exact ⟨rfl, hreports⟩
  · push Not at hoffends
    obtain ⟨token, rfl, hfits⟩ := hoffends
    -- A token that fits, and where the scan ends all the same, is the end.
    have hkind : token.kind = .endOfInput := hends.resolve_right hfits
    rcases split_items hitems with ⟨rfl, rfl, rfl⟩ | ⟨token', back, htokens, htoken'⟩
    · obtain rfl := hcuts.kind_last token rfl
      obtain ⟨s', hend⟩ := Option.ne_none_iff_exists'.1 hfits
      obtain ⟨e, hparse, hreports, hsize⟩ := hcuts.parse_of_end hmoves hend
      obtain ⟨text, htext, hfields⟩ := fields_parsed hparse
      rw [hparse]
      exact ⟨rfl, rfl, hreports, text, htext, hsize ▸ hfields⟩
    · obtain rfl := Except.ok.inj htoken'
      have hmem : token ∈ tokensAt 0 words := by simp [htokens]
      exact absurd hkind (kind_of_mem_tokensAt hmem)

/-- Behind the second parenthesis there is no token, so it is announced and not taken in; and the
report of an expression comes behind those of its tokens. -/
theorem parse_reports_stray :
    (parse "(($").2.toList =
        [.groupOpened 0, .advanced ⟨.symbol .openParen, ⟨0, 1⟩⟩, .groupOpened 1] ∧
    ∃ e, (parse "-(2)").1 = .ok e ∧
      (parse "-(2)").2.toList =
        [.advanced ⟨.symbol .minus, ⟨0, 1⟩⟩, .groupOpened 1,
          .advanced ⟨.symbol .openParen, ⟨1, 2⟩⟩,
          .advanced ⟨.number ⟨0x4000000000000000⟩, ⟨2, 3⟩⟩,
          .advanced ⟨.symbol .closeParen, ⟨3, 4⟩⟩, .parsed e] ∧
      (Event.parsed e).fields = [("nodes", .natural 2), ("tree", .plain "(- 2)")] := by
  have hstray : StopsAt "(($"
      [⟨.symbol .openParen, ⟨0, 1⟩⟩, ⟨.symbol .openParen, ⟨1, 2⟩⟩]
      (.error (.unexpectedChar '$' 2)) [] :=
    ⟨by decide +kernel, ⟨true, 2⟩, by decide, trivial⟩
  have hgroup : StopsAt "-(2)"
      [⟨.symbol .minus, ⟨0, 1⟩⟩, ⟨.symbol .openParen, ⟨1, 2⟩⟩,
        ⟨.number ⟨0x4000000000000000⟩, ⟨2, 3⟩⟩, ⟨.symbol .closeParen, ⟨3, 4⟩⟩]
      (.ok (endToken "-(2)")) [] :=
    ⟨by decide +kernel, ⟨false, 0⟩, by decide, .inl rfl⟩
  have hfails : (parse "(($").1 = .error (.lex (.unexpectedChar '$' 2)) := by decide +kernel
  have hparse : (parse "-(2)").1 = .ok (SpanTree.expression
      (.unary .neg ⟨0, 1⟩ (.literal ⟨0x4000000000000000⟩ ⟨2, 3⟩))) := by decide +kernel
  have hstrayReports := (parse_reports "(($").2 _ _ _ hstray
  have hgroupReports := (parse_reports "-(2)").2 _ _ _ hgroup
  rw [hfails] at hstrayReports
  rw [hparse] at hgroupReports
  obtain ⟨-, -, hreports, text, htext, hfields⟩ := hgroupReports
  obtain rfl : text = "(- 2)" := Except.ok.inj (htext.symm.trans (by decide +kernel))
  exact ⟨hstrayReports.2, _, hparse, hreports, hfields⟩

end Reckon
