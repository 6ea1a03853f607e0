/-
Decimal numbers and the numerals that write them.

A `Decimal` is `coefficient * 10 ^ exponent`.  `toNumeral` writes one out in full, without an
exponent: the whole part with no leading zeros, and a point only where there are places after
it.
-/
import Reckon.Numeral

namespace Reckon

/-- The number `coefficient * 10 ^ exponent`. -/
structure Decimal where
  coefficient : Nat
  exponent : Int
  deriving DecidableEq

namespace Decimal

/-- The decimal as a quotient of natural numbers: the upper one. -/
def numerator (d : Decimal) : Nat := d.coefficient * Nat.pow 10 d.exponent.toNat

/-- The decimal as a quotient of natural numbers: the lower one. -/
def denominator (d : Decimal) : Nat := Nat.pow 10 (-d.exponent).toNat

/-- The double-precision number nearest to the decimal, if it is in range. -/
def toBinary64? (d : Decimal) : Option Binary64 := Binary64.ofRatio? d.numerator d.denominator

/-- The exponent of the leading digit. -/
def leadingExponent (d : Decimal) : Int :=
  d.exponent + ((Nat.toDigits 10 d.coefficient).length - 1 : Nat)

/-- The decimal written out in full, with the digits after the point that its exponent asks for. -/
def toNumeral (d : Decimal) : Numeral :=
  match d.exponent with
  | .ofNat zeros => ⟨Nat.toDigits 10 (d.coefficient * Nat.pow 10 zeros), none⟩
  | .negSucc n =>
    let unit := Nat.pow 10 (n + 1)
    ⟨Nat.toDigits 10 (d.coefficient / unit),
      some ((Nat.toDigits 10 (d.coefficient % unit)).leftpad (n + 1) '0')⟩

end Decimal

end Reckon
