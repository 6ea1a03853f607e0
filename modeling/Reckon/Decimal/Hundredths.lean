/-
Results, rounded to hundredths.

A result is rounded from its exact value to at most two places, a half going to the even
neighbour, and written in full without trailing zeros: `2290.28`, `0.5`, `14`.  What rounds to
zero is `0`, never `-0`.

`resultText` goes by the number of hundredths, and writes no place that is not needed.
`trimmedText` writes both places first, and takes away from that text what is not needed.

* `canonical_places`: the places that are left end in no zero.
-/
import Reckon.Decimal.Basic
import Reckon.Rounding

namespace Reckon

namespace Binary64

/-- The number of hundredths nearest to a finite number's distance from zero. -/
def hundredths (x : Binary64) : Nat := roundHalfEven (100 * x.units) unitsPerOne

end Binary64

namespace Decimal

/-- So many hundredths, with no more places than are needed. -/
def ofHundredths (n : Nat) : Decimal :=
  if n % 100 = 0 then ⟨n / 100, 0⟩
  else if n % 10 = 0 then ⟨n / 10, -1⟩
  else ⟨n, -2⟩

theorem canonical_places (n : Nat) :
    (ofHundredths n).exponent = 0 ∨ (ofHundredths n).coefficient % 10 ≠ 0 := by
  unfold ofHundredths
  split
  · exact .inl rfl
  · split
    · exact .inr (by simp only; omega)
    · exact .inr (by assumption)

end Decimal

/-- The text of a result. -/
def resultText (x : Binary64) : String :=
  if x.isNaN then "NaN"
  else if !x.isFinite then if x.isNegative then "-inf" else "inf"
  else
    let n := x.hundredths
    let digits := String.ofList (Decimal.ofHundredths n).toNumeral.text
    if x.isNegative && n != 0 then "-" ++ digits else digits

-- An eighth and three eighths are half way between two hundredths.
example : resultText ⟨0x3FC0000000000000⟩ = "0.12" := by decide +kernel
example : resultText ⟨0x3FD8000000000000⟩ = "0.38" := by decide +kernel
example : resultText ⟨0xBFE0000000000000⟩ = "-0.5" := by decide +kernel
example : resultText ⟨0x8000000000000001⟩ = "0" := by decide +kernel

/-! ### The same by steps -/

/-- A number with two places; zero may have a sign, as in `-0.00`. -/
def twoPlaceText (x : Binary64) : List Char :=
  if x.isNaN then "NaN".toList
  else
    let distance := if x.isFinite then (⟨x.hundredths, -2⟩ : Decimal).toNumeral.text
      else "inf".toList
    if x.isNegative then '-' :: distance else distance

/-- A text without a character at its end, however often it stands there. -/
def trimEnd (c : Char) (text : List Char) : List Char := (text.reverse.dropWhile (· == c)).reverse

/-- The text of a result by steps: with two places; without the zeros at the end and then without
the point, if there is one; and without the sign of zero. -/
def trimmedText (x : Binary64) : String :=
  let text := twoPlaceText x
  let kept := if text.contains '.' then trimEnd '.' (trimEnd '0' text) else text
  String.ofList (if kept = ['-', '0'] then kept.tail else kept)

end Reckon
