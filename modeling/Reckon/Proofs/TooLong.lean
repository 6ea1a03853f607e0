/-
Texts that are too long.

Offsets and ids are 32-bit words, which suffice as long as a text is not too long.  An offset that
is too large is held at the largest word, so behind that many blanks all offsets are the same.  Ids
begin again from zero, so where there is one node more than there are ids, the last node has the id
of the first one.

* `ofRange_of_maxOffset_le`: a span so far behind is empty, whatever stands there;
* `cuts_onesApart`: a one, and another one that stands so far behind it as one likes;
* `exists_reads_signedOne`: a one with as many signs as one likes in front of it;
* `SpanTree.root_expression_of_size`: with one node more than there are ids, the root is taken for
  the first node.
-/
import Reckon.Proofs.PostOrder
import Reckon.Proofs.Words

namespace Reckon

/-! ### Too many bytes -/

/-- From the largest word on all offsets are held at it. -/
theorem saturate_of_maxOffset_le {offset : Nat} (h : maxOffset ≤ offset) :
    saturate offset = 4294967295 := by
  rw [saturate, Nat.min_eq_right h]
  rfl

/-- A span that begins there is empty, and is the same for all that stands there. -/
theorem ofRange_of_maxOffset_le {start stop : Nat} (hstart : maxOffset ≤ start)
    (hstop : start ≤ stop) : Span.ofRange start stop = ⟨4294967295, 4294967295⟩ := by
  rw [Span.ofRange, saturate_of_maxOffset_le hstart,
    saturate_of_maxOffset_le (Nat.le_trans hstart hstop)]

/-- In an empty part of a text there is nothing. -/
theorem Text.getD_slice?_self (cs : List Char) (n : Nat) : (slice? cs n n).getD [] = [] := by
  rw [slice?, if_pos (Nat.le_refl n), Nat.sub_self]
  cases dropBytes? cs n with
  | none => rfl
  | some rest => cases rest <;> rfl

/-- So many blanks. -/
def blanks (k : Nat) : List Char := List.replicate k ' '

theorem isBlank_of_mem_blanks {k : Nat} : ∀ c ∈ blanks k, isBlank c = true := by
  intro c hc
  rw [List.eq_of_mem_replicate hc]
  rfl

theorem byteLength_blanks (k : Nat) : Text.byteLength (blanks k) = k := by
  induction k with
  | zero => rfl
  | succ k ih =>
    rw [blanks, List.replicate_succ, Text.byteLength_cons, ← blanks, ih, Nat.add_comm]
    rfl

namespace Word

theorem wellFormed_one : (Lexeme.number ⟨['1'], none⟩).WellFormed :=
  ⟨List.forall_mem_singleton.2 rfl, List.cons_ne_nil _ _⟩

theorem kind?_one :
    (Lexeme.number ⟨['1'], none⟩).kind? = some (.number ⟨0x3FF0000000000000⟩) := by
  decide +kernel

/-- A one behind so many blanks. -/
def oneBehind (k : Nat) : Word :=
  ⟨blanks k, .number ⟨['1'], none⟩, .number ⟨0x3FF0000000000000⟩, isBlank_of_mem_blanks,
    wellFormed_one, kind?_one⟩

theorem length_oneBehind (k : Nat) : (oneBehind k).length = k + 1 :=
  congrArg (· + 1) (byteLength_blanks k)

/-- Its token stands behind the blanks. -/
theorem token_oneBehind (k offset : Nat) :
    (oneBehind k).token offset =
      ⟨.number ⟨0x3FF0000000000000⟩, .ofRange (offset + k) (offset + (k + 1))⟩ := by
  rw [token, length_oneBehind, oneBehind, byteLength_blanks]

end Word

/-- A one behind so many blanks, as it is written. -/
def farOne (k : Nat) : String := String.ofList (blanks k ++ ['1'])

/-- A one, so many blanks, and another one. -/
def onesApart (k : Nat) : String := String.ofList ('1' :: (blanks k ++ ['1']))

theorem utf8ByteSize_blanks (k : Nat) : (String.ofList (blanks k)).utf8ByteSize = k := by
  rw [Text.byteLength_ofList, byteLength_blanks]

theorem utf8ByteSize_farOne (k : Nat) : (farOne k).utf8ByteSize = k + 1 := by
  rw [farOne, Text.byteLength_ofList, Text.byteLength_append, byteLength_blanks]
  rfl

theorem cuts_blanks (k : Nat) :
    Cuts (String.ofList (blanks k)) [] (.ok (endToken (String.ofList (blanks k)))) :=
  .finished String.toList_ofList trivial isBlank_of_mem_blanks

theorem writing_oneBehind (k : Nat) : writing [.oneBehind k] = blanks k ++ ['1'] := by
  rw [writing_cons, writing_nil, List.append_nil]
  rfl

theorem cuts_farOne (k : Nat) :
    Cuts (farOne k) [.oneBehind k] (.ok (endToken (farOne k))) := by
  rw [farOne, ← writing_oneBehind]
  exact cuts_ofList ⟨rfl, trivial⟩

theorem cuts_onesApart {k : Nat} (h : 0 < k) :
    Cuts (onesApart k) [.oneBehind 0, .oneBehind k] (.ok (endToken (onesApart k))) := by
  obtain ⟨k, rfl⟩ := Nat.exists_eq_succ_of_ne_zero (Nat.ne_of_gt h)
  have hwriting :
      writing [.oneBehind 0, .oneBehind (k + 1)] = '1' :: (blanks (k + 1) ++ ['1']) := by
    rw [writing_cons, writing_oneBehind]
    rfl
  rw [onesApart, ← hwriting]
  exact cuts_ofList ⟨rfl, rfl, trivial⟩

/-- The end of a text that is too long. -/
theorem endToken_of_maxOffset_le {source : String} (h : maxOffset ≤ source.utf8ByteSize) :
    endToken source = ⟨.endOfInput, ⟨4294967295, 4294967295⟩⟩ := by
  rw [endToken, Span.point, ofRange_of_maxOffset_le h (Nat.le_refl _)]

/-- Behind so many blanks a token has no place of its own. -/
theorem Word.token_oneBehind_of_maxOffset_le {k : Nat} (h : maxOffset ≤ k) (offset : Nat) :
    (oneBehind k).token offset = ⟨.number ⟨0x3FF0000000000000⟩, ⟨4294967295, 4294967295⟩⟩ := by
  rw [token_oneBehind, ofRange_of_maxOffset_le (by omega) (by omega)]

/-! ### Too many nodes -/

/-- A minus, so many plus signs, and a one. -/
def signedOne (k : Nat) : String := String.ofList ('-' :: (List.replicate k '+' ++ ['1']))

/-- Its words. -/
def signedOneWords (k : Nat) : List Word :=
  .sign .minus :: (List.replicate k (.sign .plus) ++ [.oneBehind 0])

theorem separate_signs (k : Nat) :
    Separate [] (List.replicate k (.sign .plus) ++ [.oneBehind 0]) := by
  induction k with
  | zero => exact ⟨rfl, trivial⟩
  | succ k ih => exact ⟨Lexeme.any_continuesWith_symbol .plus _, ih⟩

theorem writing_signs (k : Nat) :
    writing (List.replicate k (.sign .plus) ++ [.oneBehind 0]) = List.replicate k '+' ++ ['1'] := by
  induction k with
  | zero => rfl
  | succ k ih =>
    rw [List.replicate_succ, List.cons_append, writing_cons, ih]
    rfl

theorem cuts_signedOne (k : Nat) :
    Cuts (signedOne k) (signedOneWords k) (.ok (endToken (signedOne k))) := by
  have hwriting : writing (signedOneWords k) = '-' :: (List.replicate k '+' ++ ['1']) := by
    rw [signedOneWords, writing_cons, writing_signs]
    rfl
  rw [signedOne, ← hwriting]
  exact cuts_ofList ⟨Lexeme.any_continuesWith_symbol .minus _, separate_signs k⟩

/-- A plus sign changes nothing, so with any number of them a one stays a one. -/
theorem exists_reads_signs (k offset : Nat) :
    ∃ t : SpanTree, Rank.factor.Reads
        (tokensAt offset (List.replicate k (.sign .plus) ++ [.oneBehind 0])) t ∧
      t.size = k + 1 ∧ t.evaluate = .ok ⟨0x3FF0000000000000⟩ ∧
      ∃ span back, t.layout 0 = ⟨.literal ⟨0x3FF0000000000000⟩, span⟩ :: back := by
  induction k generalizing offset with
  | zero => exact ⟨.literal _ _, .number _ _, rfl, rfl, _, _, rfl⟩
  | succ k ih =>
    obtain ⟨t, hreads, hsize, hvalue, span, back, hlayout⟩ := ih (offset + 1)
    refine ⟨.unary .plus (.ofRange offset (offset + 1)) t, ?_, ?_, ?_, span, ?_⟩
    · rw [List.replicate_succ, List.cons_append, tokensAt_sign]
      exact hreads.prefixed .plus _
    · rw [SpanTree.size, hsize]
    · rw [SpanTree.evaluate, hvalue]
      rfl
    · rw [SpanTree.layout, hlayout]
      exact ⟨_, rfl⟩

/-- The ids have come round once, and the root has that of the first node. -/
theorem SpanTree.root_expression_of_size {t : SpanTree} (h : t.size = idCount + 1) :
    t.expression.root = ⟨0⟩ := by
  rw [expression, rootAt, h]
  rfl

/-- The tree of the text is a minus before a tree that comes to one. -/
theorem exists_reads_signedOne (k : Nat) :
    ∃ t : SpanTree, Rank.sum.Reads (tokensAt 0 (signedOneWords k)) (.unary .neg ⟨0, 1⟩ t) ∧
      t.size = k + 1 ∧ t.evaluate = .ok ⟨0x3FF0000000000000⟩ ∧
      ∃ span, (SpanTree.unary .neg ⟨0, 1⟩ t).expression.arena.get? ⟨0⟩ =
        some ⟨.literal ⟨0x3FF0000000000000⟩, span⟩ := by
  obtain ⟨t, hreads, hsize, hvalue, span, back, hlayout⟩ := exists_reads_signs k 1
  refine ⟨t, ?_, hsize, hvalue, span, ?_⟩
  · rw [signedOneWords, tokensAt_sign]
    exact (hreads.prefixed .neg ⟨0, 1⟩).productOfFactor.sumOfProduct
  · rw [Arena.get?, SpanTree.expression, SpanTree.layout, hlayout]
    rfl

/-- With so many signs there is one node more than there are ids. -/
theorem size_signedOne {t : SpanTree} (h : t.size = 4294967295 + 1) :
    (SpanTree.unary .neg ⟨0, 1⟩ t).size = idCount + 1 := by
  rw [SpanTree.size, h]
  rfl

end Reckon
