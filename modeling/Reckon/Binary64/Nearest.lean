/-
The double-precision number nearest to a quotient.

`ofRatio? num den` is the number nearest to `num / den`, of two equally near the one with
the even pattern; there is none when the quotient rounds beyond the largest finite number.

Scaled to units of `2 ^ -1074` the quotient has some number of binary digits.  All but the
leading fifty-three are dropped by one rounding, and since the patterns of consecutive numbers are
consecutive, the rounded digits and the count of dropped ones add up to the pattern; a carry
into a further digit lands on the next exponent by itself.
-/
import Reckon.Rounding
import Reckon.Binary64.Basic

namespace Reckon.Binary64

/-- The magnitude of the number nearest to `num / den`, with no bound on the exponent. -/
def nearestMagnitude (num den : Nat) : Nat :=
  let scaled := num * unitsPerOne
  let dropped := (scaled / den).log2 - 52
  dropped * leadingOne + roundHalfEven scaled (den * Nat.pow 2 dropped)

/-- The finite number nearest to `num / den`, if the quotient is in range. -/
def ofRatio? (num den : Nat) : Option Binary64 :=
  let m := nearestMagnitude num den
  if m < infinityMagnitude then some (ofMagnitude m) else none

theorem ofRatio?_eq_none_iff {num den : Nat} :
    ofRatio? num den = none ↔ infinityMagnitude ≤ nearestMagnitude num den := by
  simp [ofRatio?]

end Reckon.Binary64
