/-
The text of a double-precision number.

Two layouts are in use, both over the shortest digits that read back:

* `Layout.plain` writes every number out in full, and a whole one without a point:
  `14`, `0.1`, `1000000000000000000000`;
* `Layout.logged` keeps `.0` on a whole number and turns to an exponent for numbers below
  `1e-4` and from `1e16` on: `14.0`, `1e16`, `1.5e-5`.

A negative number, minus zero included, has a `-` in front.  What is not finite is `inf`, `-inf`
or `NaN`.
-/
import Reckon.Decimal.Shortest

namespace Reckon

/-- How the digits of a number are set out. -/
structure Layout where
  /-- The exponents of the leading digit, first and last, for which a number is written out in full;
  all of them when absent. -/
  inFull : Option (Int × Int)
  /-- What follows a whole number written out in full. -/
  wholeSuffix : String

namespace Layout

/-- Every number in full, nothing after a whole one. -/
def plain : Layout := ⟨none, ""⟩

/-- In full from `1e-4` to below `1e16`, with `.0` after a whole number. -/
def logged : Layout := ⟨some (-4, 15), ".0"⟩

/-- Whether a decimal is written out in full. -/
def writesInFull (layout : Layout) (d : Decimal) : Bool :=
  match layout.inFull with
  | none => true
  | some (first, last) =>
    d.coefficient == 0 || (decide (first ≤ d.leadingExponent) && decide (d.leadingExponent ≤ last))

end Layout

namespace Decimal

/-- A whole number, negative ones with a `-`. -/
def signedText (n : Int) : String := if n < 0 then "-" ++ n.natAbs.repr else n.natAbs.repr

/-- One digit, the others after a point, and the exponent of ten: `1.5e-5`. -/
def scientificText (d : Decimal) : String :=
  let digits := match Nat.toDigits 10 d.coefficient with
    | first :: [] => [first]
    | first :: rest => first :: '.' :: rest
    | [] => []
  String.ofList digits ++ "e" ++ signedText d.leadingExponent

/-- The decimal in a layout. -/
def layOut (layout : Layout) (d : Decimal) : String :=
  if layout.writesInFull d then
    let numeral := d.toNumeral
    String.ofList numeral.text ++ if numeral.fraction.isNone then layout.wholeSuffix else ""
  else d.scientificText

end Decimal

/-- The text of a number: the digits that read back, in a layout. -/
def Binary64.text (layout : Layout) (x : Binary64) : String :=
  if x.isNaN then "NaN"
  else
    let digits := if x.isFinite then (Decimal.shortest x).layOut layout else "inf"
    if x.isNegative then "-" ++ digits else digits

section
open Binary64

-- Twenty-one and a half, a whole number, 1e16 and 1.5e-5 in both layouts.
example : text .plain ⟨0x4035800000000000⟩ = "21.5" := by decide +kernel
example : text .logged ⟨0x4035800000000000⟩ = "21.5" := by decide +kernel
example : text .plain ⟨0x402C000000000000⟩ = "14" := by decide +kernel
example : text .logged ⟨0x402C000000000000⟩ = "14.0" := by decide +kernel
example : text .plain ⟨0x4341C37937E08000⟩ = "10000000000000000" := by decide +kernel
example : text .logged ⟨0x4341C37937E08000⟩ = "1e16" := by decide +kernel
example : text .plain ⟨0x3EEF75104D551D69⟩ = "0.000015" := by decide +kernel
example : text .logged ⟨0x3EEF75104D551D69⟩ = "1.5e-5" := by decide +kernel

-- Of two equally near decimals the larger one: the number is 795832361611743.25.
example : text .plain ⟨0x43069E7149B78EFA⟩ = "795832361611743.3" := by decide +kernel

end

end Reckon
