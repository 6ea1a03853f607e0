/-
Double-precision numbers by their bits.

A `Binary64` is the 64-bit pattern of an IEEE 754 binary64 number: a sign bit, eleven
bits of exponent and fifty-two of fraction.  Two patterns are equal only if all their bits are, so
zero and minus zero differ and a NaN equals itself.

The pattern without its sign is the `magnitude`.  Every finite magnitude is a whole number of
`units` of `2 ^ -1074`, the least positive number, and larger patterns stand for larger numbers:

* `units_strictMono`: `m < n → unitsOfMagnitude m < unitsOfMagnitude n`.

The four operations of arithmetic are those of the machine.
-/

namespace Reckon

/-- A double-precision number, as its bit pattern. -/
structure Binary64 where
  bits : UInt64
  deriving DecidableEq, Inhabited

namespace Binary64

/-! ### Sign and magnitude -/

/-- The sign bit by itself. -/
def signBit : Nat := 0x8000000000000000

/-- The pattern without its sign bit. -/
def magnitude (x : Binary64) : Nat := x.bits.toNat % signBit

/-- Whether the sign bit is set. -/
def isNegative (x : Binary64) : Bool := decide (signBit ≤ x.bits.toNat)

/-- The magnitude of the infinities; finite ones are below it, those of NaNs above. -/
def infinityMagnitude : Nat := 0x7FF0000000000000

def isFinite (x : Binary64) : Bool := decide (x.magnitude < infinityMagnitude)

def isNaN (x : Binary64) : Bool := decide (infinityMagnitude < x.magnitude)

/-- Whether `x` is zero, of either sign. -/
def isZero (x : Binary64) : Bool := decide (x.magnitude = 0)

/-- The number with no sign bit and the magnitude `m`. -/
def ofMagnitude (m : Nat) : Binary64 := ⟨UInt64.ofNat m⟩

/-- Units of `2 ^ -1074` to one. -/
def unitsPerOne : Nat := Nat.pow 2 1074

/-- The one in front of the fraction, which is not written; also the step from one exponent to
the next. -/
def leadingOne : Nat := 0x10000000000000

/-- What a finite magnitude amounts to, in units of `2 ^ -1074`: the fraction itself where the
exponent field is zero, else the fraction with its leading one, doubled with each step of the
exponent. -/
def unitsOfMagnitude (m : Nat) : Nat :=
  if m < leadingOne then m
  else (leadingOne + m % leadingOne) * Nat.pow 2 (m / leadingOne - 1)

/-- The distance of a finite number from zero, in units of `2 ^ -1074`. -/
def units (x : Binary64) : Nat := unitsOfMagnitude x.magnitude

theorem unitsOfMagnitude_lt_succ (m : Nat) : unitsOfMagnitude m < unitsOfMagnitude (m + 1) := by
  have hpow (k : Nat) : 0 < Nat.pow 2 k := Nat.two_pow_pos k
  have hdouble (k : Nat) : Nat.pow 2 (k + 1) = Nat.pow 2 k * 2 := rfl
  unfold unitsOfMagnitude leadingOne
  by_cases hm : m + 1 < 0x10000000000000
  · rw [if_pos (by omega), if_pos hm]
    omega
  · rw [if_neg hm]
    by_cases hs : m < 0x10000000000000
    · -- From the largest fraction with exponent field zero to the first with field one.
      obtain rfl : m = 0xFFFFFFFFFFFFF := by omega
      decide
    · rw [if_neg hs]
      by_cases hc : (m + 1) % 0x10000000000000 = 0
      · -- The fraction is full: the next exponent begins.
        have hmod : m % 0x10000000000000 = 0xFFFFFFFFFFFFF := by omega
        have hdiv : (m + 1) / 0x10000000000000 - 1 = (m / 0x10000000000000 - 1) + 1 := by omega
        have hpos := hpow (m / 0x10000000000000 - 1)
        rw [hc, hmod, hdiv, hdouble]
        omega
      · have hmod : (m + 1) % 0x10000000000000 = m % 0x10000000000000 + 1 := by omega
        have hdiv : (m + 1) / 0x10000000000000 = m / 0x10000000000000 := by omega
        rw [hmod, hdiv]
        exact Nat.mul_lt_mul_of_pos_right (by omega) (hpow _)

/-- Larger magnitudes stand for larger numbers. -/
theorem units_strictMono {m n : Nat} (h : m < n) : unitsOfMagnitude m < unitsOfMagnitude n := by
  induction n with
  | zero => omega
  | succ n ih =>
    have := unitsOfMagnitude_lt_succ n
    rcases Nat.lt_or_eq_of_le (Nat.le_of_lt_succ h) with hlt | rfl
    · exact Nat.lt_trans (ih hlt) this
    · exact this

/-! ### Arithmetic -/

def toFloat (x : Binary64) : Float := Float.ofBits x.bits

def ofFloat (x : Float) : Binary64 := ⟨x.toBits⟩

/-- The number with the opposite sign bit. -/
def neg (x : Binary64) : Binary64 := ⟨x.bits ^^^ 0x8000000000000000⟩

instance : Neg Binary64 := ⟨neg⟩
instance : Add Binary64 := ⟨fun x y => ofFloat (x.toFloat + y.toFloat)⟩
instance : Sub Binary64 := ⟨fun x y => ofFloat (x.toFloat - y.toFloat)⟩
instance : Mul Binary64 := ⟨fun x y => ofFloat (x.toFloat * y.toFloat)⟩
instance : Div Binary64 := ⟨fun x y => ofFloat (x.toFloat / y.toFloat)⟩

end Binary64

end Reckon
