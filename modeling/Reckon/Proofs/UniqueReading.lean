/-
Written expressions have one reading.

A written expression is a number, or an operator and its operands between parentheses.  The signs of
the operators do not tell whether there are one or two operands, and a number may begin with such a
sign itself.  But a number has no blank and no parenthesis in it, so where it ends is seen from what
is behind it; and what is behind an operand is a blank or a parenthesis.

* `Binary64.text_plain_injective`: different numbers are written differently;
* `Tree.eq_of_text_append`: of two trees with the same text in front of something, the trees are
  the same, and so is what is behind them;
* `Arena.exists_unfolds_of_sexpr`: what is written is the text of the tree below the id;
* `sexpr_eq_iff`: so trees are known by their texts.
-/
import Reckon.Proofs.Faultless
import Reckon.Proofs.ReadBack
import Reckon.Proofs.Walks

namespace Reckon

/-! ### Numbers -/

namespace Binary64

variable {x y : Binary64}

/-- The digits of a number begin with a digit or a point, those of an infinity with a letter. -/
theorem head_plainDigits (x : Binary64) : ∃ c cs, x.plainDigits = c :: cs ∧
    if x.isFinite then c.isDigit = true ∨ c = '.' else c = 'i' := by
  unfold plainDigits
  split
  · exact Numeral.head_text x.wellFormed_plainNumeral
  · exact ⟨'i', _, rfl, rfl⟩

theorem magnitude_eq_of_plainDigits (hx : x.isNaN = false) (hy : y.isNaN = false)
    (h : x.plainDigits = y.plainDigits) : x.magnitude = y.magnitude := by
  obtain ⟨c, cs, hxhead, hxc⟩ := x.head_plainDigits
  obtain ⟨d, ds, hyhead, hyd⟩ := y.head_plainDigits
  obtain ⟨rfl, rfl⟩ := List.cons.inj (hxhead.symm.trans (h.trans hyhead))
  have hi : ¬('i'.isDigit = true ∨ 'i' = '.') := by decide
  cases hxfinite : x.isFinite <;> cases hyfinite : y.isFinite <;> rw [hxfinite] at hxc <;>
    rw [hyfinite] at hyd
  case true.true =>
    -- The digits are those of one numeral, which is read as the magnitude.
    rw [plainDigits_of_isFinite hxfinite, plainDigits_of_isFinite hyfinite] at h
    have hnumeral := Lexeme.eq_of_text_eq (x := .number _) (y := .number _)
      x.wellFormed_plainNumeral y.wellFormed_plainNumeral h
    have hread := toBinary64?_plainNumeral hxfinite
    rw [Lexeme.number.inj hnumeral, toBinary64?_plainNumeral hyfinite] at hread
    have hlt (z : Binary64) : z.magnitude < signBit := Nat.mod_lt _ (by decide)
    rw [← magnitude_ofMagnitude (hlt x), ← Option.some.inj hread, magnitude_ofMagnitude (hlt y)]
  case false.false =>
    have hinfinite {z : Binary64} (hnan : z.isNaN = false) (hz : z.isFinite = false) :
        z.magnitude = infinityMagnitude :=
      Nat.le_antisymm (Nat.le_of_not_lt (of_decide_eq_false hnan))
        (Nat.le_of_not_lt (of_decide_eq_false hz))
    rw [hinfinite hx hxfinite, hinfinite hy hyfinite]
  case true.false => exact absurd (hyd ▸ hxc) hi
  case false.true => exact absurd (hxc ▸ hyd) hi

/-- They begin neither with a sign nor as what stands for no number. -/
theorem plainDigits_ne {c : Char} (hc : c = '-' ∨ c = 'N') (cs : List Char) :
    x.plainDigits ≠ c :: cs := by
  obtain ⟨d, ds, hdigits, hd⟩ := x.head_plainDigits
  rw [hdigits]
  intro heq
  obtain rfl := (List.cons.inj heq).1
  have hne : ¬(d.isDigit = true ∨ d = '.') ∧ d ≠ 'i' := by
    rcases hc with rfl | rfl <;> decide
  split at hd
  · exact hne.1 hd
  · exact hne.2 hd

theorem toList_text_plain (hx : x.isNaN = false) :
    (x.text .plain).toList = if x.isNegative then '-' :: x.plainDigits else x.plainDigits := by
  rw [text_plain hx, String.toList_ofList]

theorem text_plain_of_isNaN (hx : x.isNaN = true) : x.text .plain = "NaN" := by
  rw [text, if_pos hx]

/-- Different numbers are written differently, and no number as what is none. -/
theorem text_plain_injective (hx : x.isNaN = false) (h : x.text .plain = y.text .plain) :
    x = y := by
  have hxtext := toList_text_plain hx
  have hy : y.isNaN = false := by
    by_contra hy
    rw [h, text_plain_of_isNaN (Bool.eq_true_of_not_eq_false hy)] at hxtext
    split at hxtext
    · exact absurd (List.cons.inj hxtext).1 (by decide)
    · exact plainDigits_ne (by decide) _ hxtext.symm
  rw [h, toList_text_plain hy] at hxtext
  cases hxsign : x.isNegative <;> cases hysign : y.isNegative <;> rw [hxsign, hysign] at hxtext
  case false.false =>
    exact eq_of_magnitude_eq (hxsign.trans hysign.symm)
      (magnitude_eq_of_plainDigits hx hy hxtext.symm)
  case true.true =>
    exact eq_of_magnitude_eq (hxsign.trans hysign.symm)
      (magnitude_eq_of_plainDigits hx hy (List.cons.inj hxtext).2.symm)
  case false.true => exact absurd hxtext.symm (plainDigits_ne (by decide) _)
  case true.false => exact absurd hxtext (plainDigits_ne (by decide) _)

end Binary64

/-! ### Where a number ends -/

/-- Whether a character is none of those that a number is written with. -/
def isDelimiter (c : Char) : Bool := c == ' ' || c == '(' || c == ')'

theorem Numeral.isDelimiter_of_mem_text {n : Numeral} (hn : n.WellFormed) {c : Char}
    (hc : c ∈ n.text) : isDelimiter c = false := by
  have hdigit {c : Char} (h : c.isDigit = true) : isDelimiter c = false := by
    rw [isDelimiter]
    simp only [Bool.or_eq_false_iff, beq_eq_false_iff_ne]
    refine ⟨⟨?_, ?_⟩, ?_⟩ <;> (rintro rfl; simp at h)
  obtain ⟨whole, fraction⟩ := n
  have hwhole : ∀ c ∈ whole, c.isDigit = true := fun c hc => hn.1 c (List.mem_append_left _ hc)
  cases fraction with
  | none => exact hdigit (hwhole c hc)
  | some digits =>
    rcases List.mem_append.1 hc with hc | hc
    · exact hdigit (hwhole c hc)
    · rcases List.mem_cons.1 hc with rfl | hc
      · decide
      · exact hdigit (hn.1 c (List.mem_append_right _ hc))

/-- There is no delimiter in a number, nor in what stands for none. -/
theorem Binary64.isDelimiter_of_mem_text (x : Binary64) {c : Char}
    (hc : c ∈ (x.text .plain).toList) : isDelimiter c = false := by
  have hdigits : ∀ c ∈ x.plainDigits, isDelimiter c = false := by
    unfold plainDigits
    split
    · exact fun c => Numeral.isDelimiter_of_mem_text x.wellFormed_plainNumeral
    · simp [isDelimiter]
  have hnone : ∀ c ∈ "NaN".toList, isDelimiter c = false := by
    simp [isDelimiter]
  cases hnan : x.isNaN with
  | true =>
    rw [text_plain_of_isNaN hnan] at hc
    exact hnone c hc
  | false =>
    rw [toList_text_plain hnan] at hc
    split at hc
    · rcases List.mem_cons.1 hc with rfl | hc
      · decide
      · exact hdigits c hc
    · exact hdigits c hc

/-- Something is written of every number. -/
theorem Binary64.exists_head_text (x : Binary64) : ∃ c cs, (x.text .plain).toList = c :: cs := by
  cases hnan : x.isNaN with
  | true => exact ⟨'N', _, by rw [text_plain_of_isNaN hnan]; rfl⟩
  | false =>
    rw [toList_text_plain hnan]
    split
    · exact ⟨'-', _, rfl⟩
    · obtain ⟨c, cs, hhead, -⟩ := x.head_plainDigits
      exact ⟨c, cs, hhead⟩

/-- Numbers in front of delimiters, or of nothing, are told apart from what is behind them. -/
theorem Binary64.text_plain_append {x y : Binary64} {rest rest' : List Char}
    (hrest : rest.head?.all isDelimiter = true) (hrest' : rest'.head?.all isDelimiter = true)
    (h : (x.text .plain).toList ++ rest = (y.text .plain).toList ++ rest') :
    x.text .plain = y.text .plain ∧ rest = rest' := by
  have hcut (z : Binary64) {tail : List Char} (htail : tail.head?.all isDelimiter = true) :
      ((z.text .plain).toList ++ tail).takeWhile (!isDelimiter ·) = (z.text .plain).toList ∧
        ((z.text .plain).toList ++ tail).dropWhile (!isDelimiter ·) = tail := by
    refine takeWhile_append_of_head (fun c hc => ?_) ?_
    · rw [z.isDelimiter_of_mem_text hc, Bool.not_false]
    · cases tail with
      | nil => rfl
      | cons c tail =>
        rw [List.head?_cons, Option.all_some] at htail
        rw [List.head?_cons, Option.any_some, htail, Bool.not_true]
  obtain ⟨hx, hxrest⟩ := hcut x hrest
  obtain ⟨hy, hyrest⟩ := hcut y hrest'
  rw [h, hy] at hx
  rw [h, hyrest] at hxrest
  exact ⟨(String.toList_inj.1 hx).symm, hxrest.symm⟩

/-! ### Trees -/

namespace Tree

/-- The tree as it is written, its grouping written out. -/
def text : Tree → String
  | literal value => value.text .plain
  | unary op t => "(" ++ op.symbol ++ " " ++ t.text ++ ")"
  | binary op t u => "(" ++ op.symbol ++ " " ++ t.text ++ " " ++ u.text ++ ")"

/-- No literal is a NaN. -/
def NaNFree : Tree → Prop
  | literal value => value.isNaN = false
  | unary _ t => t.NaNFree
  | binary _ t u => t.NaNFree ∧ u.NaNFree

variable {t u : Tree} {rest rest' : List Char}

theorem toList_text_unary (op : UnaryOp) (t : Tree) (rest : List Char) :
    (unary op t).text.toList ++ rest =
      '(' :: op.sign.char :: ' ' :: (t.text.toList ++ ')' :: rest) := by
  have hsymbol : op.symbol.toList = [op.sign.char] := by
    cases op <;> rfl
  simp [text, hsymbol]

theorem toList_text_binary (op : BinaryOp) (t u : Tree) (rest : List Char) :
    (binary op t u).text.toList ++ rest =
      '(' :: op.sign.char :: ' ' :: (t.text.toList ++ ' ' :: (u.text.toList ++ ')' :: rest)) := by
  have hsymbol : op.symbol.toList = [op.sign.char] := by
    cases op <;> rfl
  simp [text, hsymbol]

/-- A literal does not begin with a parenthesis. -/
theorem text_literal_append_ne (value : Binary64) (cs : List Char) :
    (literal value).text.toList ++ rest ≠ '(' :: cs := by
  obtain ⟨c, cs', hhead⟩ := value.exists_head_text
  have hc := value.isDelimiter_of_mem_text (hhead ▸ List.mem_cons_self)
  rw [text, hhead, List.cons_append]
  intro h
  obtain rfl := (List.cons.inj h).1
  exact absurd hc (by decide)

theorem unarySign_injective {op op' : UnaryOp} (h : op.sign.char = op'.sign.char) : op = op' := by
  revert h
  cases op <;> cases op' <;> decide

theorem binarySign_injective {op op' : BinaryOp} (h : op.sign.char = op'.sign.char) :
    op = op' := by
  revert h
  cases op <;> cases op' <;> decide

/-- **A tree ends where its text ends.**  Of two trees that are written in front of delimiters, or
of nothing, the trees are the same if all of the text is. -/
theorem eq_of_text_append (ht : t.NaNFree) (hrest : rest.head?.all isDelimiter = true)
    (hrest' : rest'.head?.all isDelimiter = true)
    (h : t.text.toList ++ rest = u.text.toList ++ rest') : t = u ∧ rest = rest' := by
  -- On the first tree, with whatever is behind it: behind a left operand there is the right one.
  have hclosing (cs : List Char) : (')' :: cs).head?.all isDelimiter = true := rfl
  have hblank (cs : List Char) : (' ' :: cs).head?.all isDelimiter = true := rfl
  induction t generalizing u rest rest' with
  | literal x =>
    cases u with
    | literal y =>
      obtain ⟨htext, hback⟩ := Binary64.text_plain_append hrest hrest' h
      exact ⟨congrArg literal (Binary64.text_plain_injective ht htext), hback⟩
    | unary op' t' => exact absurd (h.trans (toList_text_unary _ _ _)) (text_literal_append_ne _ _)
    | binary op' t' u' =>
      exact absurd (h.trans (toList_text_binary _ _ _ _)) (text_literal_append_ne _ _)
  | unary op t ih =>
    rw [toList_text_unary] at h
    cases u with
    | literal y => exact absurd h.symm (text_literal_append_ne _ _)
    | unary op' t' =>
      rw [toList_text_unary, List.cons.injEq, List.cons.injEq, List.cons.injEq] at h
      obtain ⟨-, hsign, -, h⟩ := h
      obtain ⟨rfl, hback⟩ := ih ht (hclosing _) (hclosing _) h
      obtain rfl := unarySign_injective hsign
      exact ⟨rfl, (List.cons.inj hback).2⟩
    | binary op' t' u' =>
      -- Behind one operand there is a parenthesis, and behind the other one a blank.
      rw [toList_text_binary, List.cons.injEq, List.cons.injEq, List.cons.injEq] at h
      obtain ⟨-, hback⟩ := ih ht (hclosing _) (hblank _) h.2.2.2
      exact absurd (List.cons.inj hback).1 (by decide)
  | binary op t u iht ihu =>
    rw [toList_text_binary] at h
    cases u with
    | literal y => exact absurd h.symm (text_literal_append_ne _ _)
    | unary op' t' =>
      rw [toList_text_unary, List.cons.injEq, List.cons.injEq, List.cons.injEq] at h
      obtain ⟨-, hback⟩ := iht ht.1 (hblank _) (hclosing _) h.2.2.2
      exact absurd (List.cons.inj hback).1 (by decide)
    | binary op' t' u' =>
      rw [toList_text_binary, List.cons.injEq, List.cons.injEq, List.cons.injEq] at h
      obtain ⟨-, hsign, -, h⟩ := h
      obtain ⟨rfl, hback⟩ := iht ht.1 (hblank _) (hblank _) h
      obtain ⟨rfl, hback'⟩ := ihu ht.2 (hclosing _) (hclosing _) (List.cons.inj hback).2
      obtain rfl := binarySign_injective hsign
      exact ⟨rfl, (List.cons.inj hback').2⟩

theorem eq_of_text_eq (ht : t.NaNFree) (h : t.text = u.text) : t = u :=
  (eq_of_text_append ht rfl rfl (congrArg (·.toList ++ []) h)).1

end Tree

/-! ### Nodes -/

namespace Arena

variable {arena arena' : Arena} {id id' : NodeId} {t u : Tree}

/-- What a walk has written when it ends well is the text of a tree. -/
theorem exists_unfolds_of_fold {depth : Nat} {front text : String}
    (h : arena.fold Sexpr.writer depth id front = (.ok (), text)) :
    ∃ t, arena.Unfolds id t ∧ text = front ++ t.text := by
  induction depth generalizing id front text with
  | zero =>
    rw [Arena.fold.eq_def] at h
    cases hget : arena.get id <;> simp [hget] at h
  | succ depth ih =>
    rw [Arena.fold.eq_def] at h
    cases hget : arena.get id with
    | error fault => simp [hget] at h
    | ok node =>
      have hnode := get?_of_get hget
      obtain ⟨kind, span⟩ := node
      rw [hget] at h
      cases kind with
      | literal value => exact ⟨_, .literal hnode, (Prod.mk.inj h).2.symm⟩
      | unary op operand =>
        dsimp only at h
        rcases hfold : arena.fold Sexpr.writer depth operand (Sexpr.writer.enterUnary op front) with
          ⟨_ | ⟨⟩, written⟩
        · simp [hfold] at h
        · rw [hfold] at h
          obtain ⟨t, ht, rfl⟩ := ih hfold
          refine ⟨_, .unary hnode ht, ?_⟩
          rw [← (Prod.mk.inj h).2]
          simp only [Sexpr.writer, Tree.text, String.append_assoc]
      | binary op left right =>
        dsimp only at h
        rcases hfold : arena.fold Sexpr.writer depth left (Sexpr.writer.enterBinary op front) with
          ⟨_ | ⟨⟩, written⟩
        · simp [hfold] at h
        · rw [hfold] at h
          obtain ⟨t, ht, rfl⟩ := ih hfold
          dsimp only at h
          rcases hfold' : arena.fold Sexpr.writer depth right (Sexpr.writer.between op
              (Sexpr.writer.enterBinary op front ++ t.text)) with ⟨_ | ⟨⟩, written⟩
          · simp [hfold'] at h
          · rw [hfold'] at h
            obtain ⟨u, hu, rfl⟩ := ih hfold'
            refine ⟨_, .binary hnode ht hu, ?_⟩
            rw [← (Prod.mk.inj h).2]
            simp only [Sexpr.writer, Tree.text, String.append_assoc]

theorem exists_unfolds_of_sexpr {text : String} (h : arena.sexpr id = .ok text) :
    ∃ t, arena.Unfolds id t ∧ text = t.text := by
  rw [sexpr, walk_eq_fold] at h
  rcases hfold : arena.fold Sexpr.writer arena.size id "" with ⟨(fault | error) | ⟨⟩, written⟩
  · simp [hfold] at h
  · exact error.elim
  · rw [hfold] at h
    obtain ⟨t, ht, rfl⟩ := exists_unfolds_of_fold hfold
    exact ⟨t, ht, (Except.ok.inj h).symm.trans String.empty_append⟩

theorem text_of_sexpr {text : String} (h : arena.sexpr id = .ok text) (ht : arena.Unfolds id t) :
    text = t.text := by
  obtain ⟨u, hu, rfl⟩ := exists_unfolds_of_sexpr h
  rw [ht.unique hu]

theorem Unfolds.nanFree (h : arena.Unfolds id t)
    (hliterals : ∀ value span, ⟨.literal value, span⟩ ∈ arena.nodes → value.isNaN = false) :
    t.NaNFree := by
  induction h with
  | literal h => exact hliterals _ _ (Array.mem_of_getElem? h)
  | unary _ _ ih => exact ih
  | binary _ _ _ iht ihu => exact ⟨iht, ihu⟩

end Arena

/-- **Trees are known by their texts.**  If there is a text of an id, there is just one tree below
the id.  If there are texts of two ids, of any arenas, and there is no NaN in the tree below the
first one, then the texts are the same if and only if the trees are.  In particular so it is with
texts that are parsed, of the expressions of which there always are texts: these are the same if
and only if the expressions are, apart from the places of their nodes. -/
theorem sexpr_eq_iff :
    (∀ (arena : Arena) (id : NodeId) (text : String), arena.sexpr id = .ok text →
      ∃! t, arena.Unfolds id t) ∧
    (∀ (arena arena' : Arena) (id id' : NodeId) (text text' : String) (t u : Tree),
      arena.sexpr id = .ok text → arena'.sexpr id' = .ok text' → arena.Unfolds id t →
      arena'.Unfolds id' u → t.NaNFree → (text = text' ↔ t = u)) ∧
    ∀ (source source' : String) (e e' : Expression), (parse source).1 = .ok e →
      (parse source').1 = .ok e' → (∃ text, e.sexpr = .ok text) ∧
      (e.sexpr = e'.sexpr ↔ ∃ t, e.arena.Unfolds e.root t ∧ e'.arena.Unfolds e'.root t) := by
  refine ⟨fun arena id text h => ?_, ?_, ?_⟩
  · obtain ⟨t, ht, -⟩ := Arena.exists_unfolds_of_sexpr h
    exact ⟨t, ht, fun u hu => hu.unique ht⟩
  · rintro arena arena' id id' text text' t u h h' ht hu hnan
    rw [Arena.text_of_sexpr h ht, Arena.text_of_sexpr h' hu]
    exact ⟨Tree.eq_of_text_eq hnan, congrArg _⟩
  · rintro source source' e e' hparse hparse'
    obtain ⟨text, h⟩ := exists_sexpr_of_parse hparse
    obtain ⟨text', h'⟩ := exists_sexpr_of_parse hparse'
    obtain ⟨t, ht, rfl⟩ := Arena.exists_unfolds_of_sexpr h
    obtain ⟨u, hu, rfl⟩ := Arena.exists_unfolds_of_sexpr h'
    have hnan : t.NaNFree := ht.nanFree fun value span hmem =>
      Binary64.isNaN_eq_false_of_isFinite (literal_of_parse hparse hmem).1
    refine ⟨⟨_, h⟩, ?_⟩
    rw [h, h', Except.ok.injEq]
    constructor
    · intro htext
      obtain rfl := Tree.eq_of_text_eq hnan htext
      exact ⟨t, ht, hu⟩
    · rintro ⟨v, hv, hv'⟩
      rw [ht.unique hv, hu.unique hv']

/-- One node that is both operands of a sum. -/
def shared : Arena := ⟨#[⟨.literal ⟨0x3FF0000000000000⟩, ⟨0, 1⟩⟩, ⟨.binary .add ⟨0⟩ ⟨0⟩, ⟨1, 2⟩⟩]⟩

/-- A sum with one node for both operands, and sums with two: the texts are the same, and so are the
trees. -/
theorem sexpr_eq_iff_shared :
    ∃ e e' t, (parse "1+1").1 = .ok e ∧ (parse "(1)+(1)").1 = .ok e' ∧
      e.sexpr = .ok "(+ 1 1)" ∧ e'.sexpr = .ok "(+ 1 1)" ∧ shared.sexpr ⟨1⟩ = .ok "(+ 1 1)" ∧
      e.arena ≠ shared ∧ shared.Unfolds ⟨1⟩ t ∧ e.arena.Unfolds e.root t ∧
      e'.arena.Unfolds e'.root t := by
  obtain ⟨e, hparse, htext, hshared⟩ :
      ∃ e, (parse "1+1").1 = .ok e ∧ e.sexpr = .ok "(+ 1 1)" ∧ e.arena ≠ shared :=
    ⟨SpanTree.expression (.binary .add ⟨1, 2⟩ (.literal ⟨0x3FF0000000000000⟩ ⟨0, 1⟩)
      (.literal ⟨0x3FF0000000000000⟩ ⟨2, 3⟩)), by decide +kernel, by decide +kernel, by decide⟩
  obtain ⟨e', hparse', htext'⟩ :
      ∃ e', (parse "(1)+(1)").1 = .ok e' ∧ e'.sexpr = .ok "(+ 1 1)" :=
    ⟨SpanTree.expression (.binary .add ⟨3, 4⟩ (.literal ⟨0x3FF0000000000000⟩ ⟨1, 2⟩)
      (.literal ⟨0x3FF0000000000000⟩ ⟨5, 6⟩)), by decide +kernel, by decide +kernel⟩
  have hwritten : shared.sexpr ⟨1⟩ = .ok "(+ 1 1)" := by decide +kernel
  have ht : shared.Unfolds ⟨1⟩
      (.binary .add (.literal ⟨0x3FF0000000000000⟩) (.literal ⟨0x3FF0000000000000⟩)) :=
    .binary rfl (.literal rfl) (.literal rfl)
  obtain ⟨htree, htrees, hsources⟩ := sexpr_eq_iff
  obtain ⟨u, hu, hunique⟩ := htree _ _ _ htext
  obtain rfl := (htrees _ _ _ _ _ _ _ _ hwritten htext ht hu ⟨rfl, rfl⟩).1 rfl
  obtain ⟨v, hv, hv'⟩ := (hsources _ _ _ _ hparse hparse').2.1 (htext.trans htext'.symm)
  obtain rfl := hunique v hv
  exact ⟨e, e', _, hparse, hparse', htext, htext', hwritten, hshared, ht, hu, hv'⟩

end Reckon
