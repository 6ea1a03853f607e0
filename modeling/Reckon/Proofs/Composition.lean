/-
Texts put together from texts.

Between parentheses a text that can be parsed means what it means by itself, whatever stands around
it: no lexeme of it runs into what follows, no operator outside takes part of it, and the places
of its errors move with it.

* `Phrase.separate_enclosed`, `reads_enclosed`: the words and the tree of a text in parentheses;
* `evaluate_composed`: the results of texts in parentheses, with signs and operators between them.
-/
import Reckon.Proofs.Evaluation
import Reckon.Proofs.Shift

namespace Reckon

/-! ### Words next to each other -/

/-- A sign, after the blanks that stand behind the words, does not change where the words end. -/
theorem Separate.append_sign {rest tail : List Char} {words back : List Word}
    (h : Separate rest words) (hrest : ∀ c ∈ rest, isBlank c = true) (s : Symbol)
    (hback : Separate tail back) :
    Separate tail (words ++ .signAfter rest hrest s :: back) := by
  have htext : writing (.signAfter rest hrest s :: back) ++ tail =
      rest ++ s.char :: (writing back ++ tail) := by
    simp [Word.signAfter, Lexeme.text]
  refine separate_append.2 ⟨h.imp fun x hx => ?_, Lexeme.any_continuesWith_symbol s _, hback⟩
  -- Before the sign there stands what stood behind the words already, or nothing.
  rw [htext]
  exact any_head?_append hx (x.continuesWith_char s)

/-! ### Phrases -/

/-- How a text is parsed as the tree `t`: its words and the blanks behind them. -/
structure Phrase (source : String) (t : SpanTree) where
  words : List Word
  rest : List Char
  text : source.toList = writing words ++ rest
  separate : Separate rest words
  isBlank_of_mem : ∀ c ∈ rest, isBlank c = true
  reads : Rank.sum.Reads (tokensAt 0 words) t

theorem exists_phrase {source : String} {e : Expression} (h : (parse source).1 = .ok e) :
    ∃ t, Nonempty (Phrase source t) := by
  obtain ⟨words, t, hcuts, hreads, -⟩ := parse_eq_ok_iff.1 h
  cases hcuts with
  | finished htext hwords hrest => exact ⟨t, ⟨words, _, htext, hwords, hrest, hreads⟩⟩

namespace Phrase

variable {source : String} {t : SpanTree}

/-- Words that make up a sum, with nothing behind them. -/
def ofWords (words : List Word) (htext : source.toList = writing words)
    (hwords : Separate [] words) (hreads : Rank.sum.Reads (tokensAt 0 words) t) :
    Phrase source t :=
  ⟨words, [], htext.trans (List.append_nil _).symm, hwords, isBlank_of_mem_nil, hreads⟩

theorem evaluate_eq (p : Phrase source t) (hsize : source.utf8ByteSize ≤ maxOffset) :
    (evaluate source).1 = t.evaluate.mapError .eval :=
  evaluate_of_reads (.finished p.text p.separate p.isBlank_of_mem) hsize p.reads

/-! ### In parentheses -/

/-- The words of the text in parentheses. -/
def enclosed (p : Phrase source t) : List Word :=
  .sign .openParen :: (p.words ++ [.signAfter p.rest p.isBlank_of_mem .closeParen])

theorem writing_enclosed (p : Phrase source t) :
    writing p.enclosed = '(' :: (source.toList ++ [')']) := by
  simp [enclosed, Word.sign, Word.signAfter, Lexeme.text, Symbol.char, p.text]

theorem byteLength_enclosed (p : Phrase source t) :
    Text.byteLength (writing p.enclosed) = source.utf8ByteSize + 2 := by
  have hopening : '('.utf8Size = 1 := rfl
  have hclosing : ')'.utf8Size = 1 := rfl
  rw [writing_enclosed, Text.byteLength_cons, Text.byteLength_append, Text.byteLength_toList,
    Text.byteLength_cons, Text.byteLength_nil, hopening, hclosing]
  omega

/-- Words in parentheses do not run into each other, and not into what follows. -/
theorem separate_enclosed (p : Phrase source t) {tail : List Char} {back : List Word}
    (h : Separate tail back) : Separate tail (p.enclosed ++ back) := by
  rw [enclosed, List.cons_append, List.append_assoc]
  refine ⟨Lexeme.any_continuesWith_symbol .openParen _, ?_⟩
  exact p.separate.append_sign p.isBlank_of_mem .closeParen h

theorem separate_enclosed_nil (p : Phrase source t) : Separate [] p.enclosed := by
  have h := p.separate_enclosed (show Separate [] [] from trivial)
  rwa [List.append_nil] at h

/-- In parentheses the text is a factor, wherever it stands. -/
theorem reads_enclosed (p : Phrase source t) (offset : Nat) :
    Rank.factor.Reads (tokensAt offset p.enclosed) (t.shift (offset + 1)) := by
  have hinside : tokensAt (offset + 1) p.words =
      (tokensAt 0 p.words).map (Token.shift (offset + 1)) := by
    rw [← tokensAt_add, Nat.zero_add]
  have hreads := p.reads.shift (offset + 1)
  rw [← hinside] at hreads
  rw [enclosed, tokensAt_sign, tokensAt_append]
  exact hreads.group rfl rfl

theorem text_group (p : Phrase source t) :
    ("(" ++ source ++ ")").toList = writing p.enclosed := by
  rw [p.writing_enclosed, String.toList_append, String.toList_append]
  rfl

theorem text_signed (op : UnaryOp) (p : Phrase source t) :
    (op.symbol ++ "(" ++ source ++ ")").toList = writing (.sign op.sign :: p.enclosed) := by
  rw [writing_cons, p.writing_enclosed, String.toList_append, String.toList_append,
    String.toList_append]
  cases op <;> rfl

theorem reads_signed (op : UnaryOp) (p : Phrase source t) :
    Rank.sum.Reads (tokensAt 0 (.sign op.sign :: p.enclosed))
      (.unary op (.ofRange 0 1) (t.shift 2)) := by
  rw [tokensAt_sign]
  exact ((p.reads_enclosed 1).prefixed op (.ofRange 0 1)).productOfFactor.sumOfProduct

section
variable {source' : String} {u : SpanTree}

theorem text_joined (op : BinaryOp) (p : Phrase source t) (q : Phrase source' u) :
    ("(" ++ source ++ ")" ++ op.symbol ++ "(" ++ source' ++ ")").toList =
      writing (p.enclosed ++ .sign op.sign :: q.enclosed) := by
  rw [writing_append, writing_cons, p.writing_enclosed, q.writing_enclosed]
  simp only [String.toList_append]
  cases op <;> simp [Word.sign, Word.signAfter, Lexeme.text, BinaryOp.sign, BinaryOp.symbol,
    Symbol.char]

theorem reads_joined (op : BinaryOp) (p : Phrase source t) (q : Phrase source' u) :
    Rank.sum.Reads (tokensAt 0 (p.enclosed ++ .sign op.sign :: q.enclosed))
      (.binary op (.ofRange (source.utf8ByteSize + 2) (source.utf8ByteSize + 3)) (t.shift 1)
        (u.shift (source.utf8ByteSize + 4))) := by
  rw [tokensAt_append, p.byteLength_enclosed, Nat.zero_add, tokensAt_sign]
  exact (p.reads_enclosed 0).chain op (.ofRange _ _) (q.reads_enclosed _)

end

/-- The text in parentheses. -/
def group (p : Phrase source t) : Phrase ("(" ++ source ++ ")") (t.shift 1) :=
  ofWords p.enclosed p.text_group p.separate_enclosed_nil
    (p.reads_enclosed 0).productOfFactor.sumOfProduct

/-- The text in parentheses, with a sign in front. -/
def signed (op : UnaryOp) (p : Phrase source t) :
    Phrase (op.symbol ++ "(" ++ source ++ ")") (.unary op (.ofRange 0 1) (t.shift 2)) :=
  ofWords (.sign op.sign :: p.enclosed) (p.text_signed op)
    ⟨Lexeme.any_continuesWith_symbol op.sign _, p.separate_enclosed_nil⟩ (p.reads_signed op)

/-- Two texts in parentheses, with an operator between them. -/
def joined {source' : String} {u : SpanTree} (op : BinaryOp) (p : Phrase source t)
    (q : Phrase source' u) :
    Phrase ("(" ++ source ++ ")" ++ op.symbol ++ "(" ++ source' ++ ")")
      (.binary op (.ofRange (source.utf8ByteSize + 2) (source.utf8ByteSize + 3)) (t.shift 1)
        (u.shift (source.utf8ByteSize + 4))) :=
  ofWords (p.enclosed ++ .sign op.sign :: q.enclosed) (p.text_joined op q)
    (p.separate_enclosed ⟨Lexeme.any_continuesWith_symbol op.sign _, q.separate_enclosed_nil⟩)
    (p.reads_joined op q)

end Phrase

/-! ### Results -/

/-- A text in `k` pairs of parentheses. -/
def grouped (k : Nat) (source : String) : String :=
  String.ofList (List.replicate k '(' ++ source.toList ++ List.replicate k ')')

theorem grouped_zero (source : String) : grouped 0 source = source := by
  simp [grouped]

theorem grouped_succ (k : Nat) (source : String) :
    grouped (k + 1) source = "(" ++ grouped k source ++ ")" := by
  apply String.toList_injective
  rw [String.toList_append, String.toList_append, grouped, grouped, String.toList_ofList,
    String.toList_ofList, List.replicate_succ, List.replicate_succ' (a := ')')]
  simp

theorem byteLength_grouped (k : Nat) (source : String) :
    (grouped k source).utf8ByteSize = source.utf8ByteSize + 2 * k := by
  induction k with
  | zero => rw [grouped_zero, Nat.mul_zero, Nat.add_zero]
  | succ k ih =>
    have hopening : "(".utf8ByteSize = 1 := rfl
    have hclosing : ")".utf8ByteSize = 1 := rfl
    rw [grouped_succ, String.utf8ByteSize_append, String.utf8ByteSize_append, ih, hopening,
      hclosing]
    omega

theorem Phrase.nonempty_grouped {source : String} {t : SpanTree} (p : Phrase source t) (k : Nat) :
    Nonempty (Phrase (grouped k source) (t.shift k)) := by
  induction k with
  | zero =>
    rw [grouped_zero, SpanTree.shift_zero]
    exact ⟨p⟩
  | succ k ih =>
    obtain ⟨q⟩ := ih
    rw [grouped_succ, ← SpanTree.shift_shift]
    exact ⟨q.group⟩

theorem byteLength_signed (op : UnaryOp) (source : String) :
    (op.symbol ++ "(" ++ source ++ ")").utf8ByteSize = source.utf8ByteSize + 3 := by
  have hopening : "(".utf8ByteSize = 1 := rfl
  have hclosing : ")".utf8ByteSize = 1 := rfl
  have hsymbol : op.symbol.utf8ByteSize = 1 := by cases op <;> rfl
  simp only [String.utf8ByteSize_append, hopening, hclosing, hsymbol]
  omega

theorem byteLength_joined (op : BinaryOp) (a b : String) :
    ("(" ++ a ++ ")" ++ op.symbol ++ "(" ++ b ++ ")").utf8ByteSize =
      a.utf8ByteSize + b.utf8ByteSize + 5 := by
  have hopening : "(".utf8ByteSize = 1 := rfl
  have hclosing : ")".utf8ByteSize = 1 := rfl
  have hsymbol : op.symbol.utf8ByteSize = 1 := by cases op <;> rfl
  simp only [String.utf8ByteSize_append, hopening, hclosing, hsymbol]
  omega

/-- **Results are put together from results.**  A text that can be parsed has, in `k` pairs of
parentheses, the same result or the same error `k` bytes further on; a sign in front of it is
applied to its result; and an operator between two of them is applied to both results, if neither
has an error, that of the first one coming first. -/
theorem evaluate_composed {a : String} (ha : ∃ e, (parse a).1 = .ok e) :
    (∀ k, a.utf8ByteSize + 2 * k ≤ maxOffset →
      (evaluate (grouped k a)).1 = (evaluate a).1.mapError (.shift k)) ∧
    (∀ op : UnaryOp, a.utf8ByteSize + 3 ≤ maxOffset →
      (evaluate (op.symbol ++ "(" ++ a ++ ")")).1 =
        ((evaluate a).1.mapError (.shift 2)).map op.apply) ∧
    ∀ (op : BinaryOp) (b : String), (∃ e, (parse b).1 = .ok e) →
      a.utf8ByteSize + b.utf8ByteSize + 5 ≤ maxOffset →
      (evaluate ("(" ++ a ++ ")" ++ op.symbol ++ "(" ++ b ++ ")")).1 =
        match (evaluate a).1, (evaluate b).1 with
        | .error failure, _ => .error (failure.shift 1)
        | .ok _, .error failure => .error (failure.shift (a.utf8ByteSize + 4))
        | .ok x, .ok y =>
          (op.apply x y (.ofRange (a.utf8ByteSize + 2) (a.utf8ByteSize + 3))).mapError .eval := by
  obtain ⟨e, he⟩ := ha
  obtain ⟨t, ⟨p⟩⟩ := exists_phrase he
  -- Each composed text is a phrase with a composed tree; trees are worked out by recursion.
  refine ⟨fun k hsize => ?_, fun op hsize => ?_, fun op b hb hsize => ?_⟩
  · obtain ⟨q⟩ := p.nonempty_grouped k
    rw [q.evaluate_eq (by rw [byteLength_grouped]; exact hsize), p.evaluate_eq (by omega),
      SpanTree.evaluate_shift]
    cases t.evaluate <;> rfl
  · rw [(p.signed op).evaluate_eq (by rw [byteLength_signed]; exact hsize),
      p.evaluate_eq (by omega), SpanTree.evaluate, SpanTree.evaluate_shift]
    cases t.evaluate <;> rfl
  · obtain ⟨e', he'⟩ := hb
    obtain ⟨u, ⟨q⟩⟩ := exists_phrase he'
    rw [(p.joined op q).evaluate_eq (by rw [byteLength_joined]; exact hsize),
      p.evaluate_eq (by omega), q.evaluate_eq (by omega), SpanTree.evaluate,
      SpanTree.evaluate_shift, SpanTree.evaluate_shift]
    cases t.evaluate with
    | error error => rfl
    | ok x => cases u.evaluate <;> rfl

/-- The error of the first operand comes before that of the second. -/
theorem evaluate_composed_division :
    (evaluate (grouped 2 "1/0")).1 = .error (.eval (.divisionByZero ⟨3, 4⟩)) ∧
    (evaluate "-(1/0)").1 = .error (.eval (.divisionByZero ⟨3, 4⟩)) ∧
    (evaluate "(1/0)*(2/0)").1 = .error (.eval (.divisionByZero ⟨2, 3⟩)) := by
  have hparse : ∃ e, (parse "1/0").1 = .ok e := by
    refine ⟨SpanTree.expression (.binary .div ⟨1, 2⟩ (.literal ⟨0x3FF0000000000000⟩ ⟨0, 1⟩)
      (.literal ⟨0⟩ ⟨2, 3⟩)), ?_⟩
    decide +kernel
  have hparse' : ∃ e, (parse "2/0").1 = .ok e := by
    refine ⟨SpanTree.expression (.binary .div ⟨1, 2⟩ (.literal ⟨0x4000000000000000⟩ ⟨0, 1⟩)
      (.literal ⟨0⟩ ⟨2, 3⟩)), ?_⟩
    decide +kernel
  have hvalue : (evaluate "1/0").1 = .error (.eval (.divisionByZero ⟨1, 2⟩)) := by decide +kernel
  obtain ⟨hgrouped, hsigned, hjoined⟩ := evaluate_composed hparse
  refine ⟨(hgrouped 2 (by decide)).trans ?_, (hsigned .neg (by decide)).trans ?_,
    (hjoined .mul "2/0" hparse' (by decide)).trans ?_⟩
  · rw [hvalue]
    decide
  · rw [hvalue]
    decide
  · rw [hvalue]
    decide

end Reckon
