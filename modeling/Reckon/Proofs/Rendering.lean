/-
Results as texts.

The outcome of a text that has a result is the result rounded to hundredths.  That outcome is
a text again, a numeral with or without a sign in front, and it has a result of its own.

* `evaluate_numeral`, `evaluate_signed_numeral`: the results of such texts;
* `render_render`: they have the same outcome.
-/
import Reckon.Proofs.Evaluation
import Reckon.Proofs.Hundredths

namespace Reckon

/-! ### Numerals as texts -/

section
variable {n : Numeral} {value : Binary64}

theorem evaluate_numeral (hn : n.WellFormed) (hvalue : n.toBinary64? = some value)
    (hsize : (String.ofList n.text).utf8ByteSize ≤ maxOffset) :
    (evaluate (String.ofList n.text)).1 = .ok value := by
  have hcuts := cuts_ofList (show Separate [] [Word.numeral n value hn hvalue] from ⟨rfl, trivial⟩)
  have htext : writing [Word.numeral n value hn hvalue] = n.text := List.append_nil _
  rw [htext] at hcuts
  have hreads := Rank.Reads.number value
    (.ofRange 0 (0 + (Word.numeral n value hn hvalue).length))
  exact evaluate_of_reads hcuts hsize hreads.productOfFactor.sumOfProduct

theorem evaluate_signed_numeral (hn : n.WellFormed) (hvalue : n.toBinary64? = some value)
    (hsize : (String.ofList ('-' :: n.text)).utf8ByteSize ≤ maxOffset) :
    (evaluate (String.ofList ('-' :: n.text))).1 = .ok (-value) := by
  have hcuts := cuts_ofList
    (show Separate [] [Word.sign .minus, Word.numeral n value hn hvalue] from
      ⟨Lexeme.any_continuesWith_symbol _ _, rfl, trivial⟩)
  have htext : writing [Word.sign .minus, Word.numeral n value hn hvalue] = '-' :: n.text :=
    congrArg (List.cons '-') (List.append_nil _)
  rw [htext] at hcuts
  have hreads := (Rank.Reads.number value
    (.ofRange 1 (1 + (Word.numeral n value hn hvalue).length))).prefixed .neg (.ofRange 0 1)
  exact evaluate_of_reads hcuts hsize hreads.productOfFactor.sumOfProduct

end

/-! ### Outcomes -/

theorem Failure.status_ne_ok (failure : Failure) : failure.status ≠ .ok := by
  cases failure with
  | parse error => cases error <;> exact nofun
  | eval error => exact nofun
  | fault cause => exact nofun

theorem render_of_size {source : String} (h : source.utf8ByteSize ≤ maxOffset) :
    (render source).1 = .ofResult (evaluate source).1 := by
  rw [render, if_neg (Nat.not_lt.2 h)]

/-- Only a text with a result has a good outcome, and then its outcome is the result. -/
theorem render_status_eq_ok_iff {source : String} :
    (render source).1.status = .ok ↔
      source.utf8ByteSize ≤ maxOffset ∧ ∃ value, (evaluate source).1 = .ok value := by
  by_cases hsize : source.utf8ByteSize ≤ maxOffset
  · rw [render_of_size hsize]
    cases (evaluate source).1 with
    | ok value => simp [hsize, Outcome.ofResult, Outcome.success]
    | error failure => simp [Outcome.ofResult, Outcome.failure, failure.status_ne_ok]
  · rw [render, if_pos (Nat.lt_of_not_le hsize)]
    simp [hsize, Outcome.failure]

/-! ### The text of a result -/

/-- So many hundredths as they are written. -/
def hundredthsNumeral (n : Nat) : Numeral := (Decimal.ofHundredths n).toNumeral

theorem Binary64.isNaN_eq_false_of_isFinite {x : Binary64} (h : x.isFinite = true) :
    x.isNaN = false := by
  have hlt : x.magnitude < infinityMagnitude := of_decide_eq_true h
  exact decide_eq_false (Nat.not_lt_of_lt hlt)

theorem resultText_of_isFinite {x : Binary64} (h : x.isFinite = true) :
    resultText x =
      if x.isNegative && x.hundredths != 0 then
        String.ofList ('-' :: (hundredthsNumeral x.hundredths).text)
      else String.ofList (hundredthsNumeral x.hundredths).text := by
  have hnan := Binary64.isNaN_eq_false_of_isFinite h
  have hminus : ∀ cs, "-" ++ String.ofList cs = String.ofList ('-' :: cs) := fun cs =>
    String.ofList_append.symm
  simp only [resultText, hnan, h, Bool.not_true, Bool.false_eq_true, if_false, hminus]
  rfl

theorem byteLength_le (cs : List Char) : Text.byteLength cs ≤ 4 * cs.length := by
  induction cs with
  | nil => exact Nat.le_refl _
  | cons c cs ih =>
    have := c.utf8Size_le_four
    rw [Text.byteLength_cons, List.length_cons]
    omega

/-- The text of a result is short. -/
theorem size_hundredthsNumeral {x : Binary64} (h : x.isFinite = true) :
    (String.ofList ('-' :: (hundredthsNumeral x.hundredths).text)).utf8ByteSize ≤ maxOffset := by
  obtain ⟨k, hpos, hk, hlt⟩ := Binary64.exists_hundredths_lt
  have hlength := Decimal.length_text_ofHundredths_le hpos (hlt x h)
  have hle := byteLength_le ('-' :: (hundredthsNumeral x.hundredths).text)
  rw [List.length_cons, hundredthsNumeral] at hle
  rw [Text.byteLength_ofList, hundredthsNumeral, maxOffset]
  omega

/-- The hundredths of a result are read as a number with the same hundredths. -/
theorem exists_toBinary64?_hundredthsNumeral {x : Binary64} (h : x.isFinite = true) :
    ∃ y, (hundredthsNumeral x.hundredths).toBinary64? = some y ∧ y.isFinite = true ∧
      y.isNegative = false ∧ y.hundredths = x.hundredths := by
  obtain ⟨hlt, hround⟩ := Binary64.hundredths_nearestMagnitude h
  have hsign : Binary64.nearestMagnitude x.hundredths 100 < Binary64.signBit :=
    hlt.trans (by decide)
  have hread : (hundredthsNumeral x.hundredths).toBinary64? =
      some (.ofMagnitude (Binary64.nearestMagnitude x.hundredths 100)) := by
    rw [hundredthsNumeral, Decimal.toBinary64?_toNumeral, Decimal.toBinary64?_ofHundredths]
    exact Binary64.ofRatio?_eq_some_iff.2 ⟨hlt, rfl⟩
  refine ⟨_, hread, Binary64.isFinite_of_ofRatio? hread, Binary64.isNegative_ofMagnitude hsign, ?_⟩
  rw [Binary64.hundredths, Binary64.units, Binary64.magnitude_ofMagnitude hsign, hround]

/-- The text of a result has a result with the same text. -/
theorem exists_evaluate_resultText {x : Binary64} (h : x.isFinite = true) :
    (resultText x).utf8ByteSize ≤ maxOffset ∧
      ∃ y, (evaluate (resultText x)).1 = .ok y ∧ resultText y = resultText x := by
  obtain ⟨y, hread, hfinite, hsign, hhundredths⟩ := exists_toBinary64?_hundredthsNumeral h
  have hn : (hundredthsNumeral x.hundredths).WellFormed := Decimal.wellFormed_toNumeral _
  have hsize := size_hundredthsNumeral h
  -- A sign in front is read as an operator, which gives the number its sign back.
  by_cases hminus : (x.isNegative && x.hundredths != 0) = true
  · have htext : resultText x = String.ofList ('-' :: (hundredthsNumeral x.hundredths).text) := by
      rw [resultText_of_isFinite h, if_pos hminus]
    rw [htext]
    refine ⟨hsize, -y, evaluate_signed_numeral hn hread hsize, ?_⟩
    have hnonzero := (Bool.and_eq_true_iff.1 hminus).2
    have hfinite' : (-y).isFinite = true := (Binary64.isFinite_neg y).trans hfinite
    rw [resultText_of_isFinite hfinite', Binary64.isNegative_neg, Binary64.hundredths_neg, hsign,
      hhundredths, hnonzero]
    rfl
  · have htext : resultText x = String.ofList (hundredthsNumeral x.hundredths).text := by
      rw [resultText_of_isFinite h, if_neg hminus]
    have hsize' :
        (String.ofList (hundredthsNumeral x.hundredths).text).utf8ByteSize ≤ maxOffset := by
      rw [Text.byteLength_ofList, Text.byteLength_cons] at hsize
      rw [Text.byteLength_ofList]
      omega
    rw [htext]
    refine ⟨hsize', y, evaluate_numeral hn hread hsize', ?_⟩
    rw [resultText_of_isFinite hfinite, hsign, hhundredths]
    rfl

/-- **A result is its own result.**  The outcome of a text with a result, taken as a text, has the
same outcome. -/
theorem render_render {source : String} (h : (render source).1.status = .ok) :
    (render (render source).1.text).1 = ⟨.ok, (render source).1.text⟩ := by
  obtain ⟨hsize, value, hvalue⟩ := render_status_eq_ok_iff.1 h
  have hrender : (render source).1.text = resultText value := by
    rw [render_of_size hsize, hvalue]
    rfl
  obtain ⟨hsize', y, hy, htext⟩ := exists_evaluate_resultText (isFinite_of_evaluate hsize hvalue)
  rw [hrender, render_of_size hsize', hy]
  exact congrArg (Outcome.mk .ok) htext

/-- A third has no exact decimal. -/
theorem render_render_third :
    (render "-1/3").1.status = .ok ∧
      (render (render "-1/3").1.text).1 = ⟨.ok, (render "-1/3").1.text⟩ :=
  have h : (render "-1/3").1.status = .ok := by decide +kernel
  ⟨h, render_render h⟩

end Reckon
