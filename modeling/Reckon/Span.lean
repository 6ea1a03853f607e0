/-
Source positions.

A `Span` is a stretch of an expression's text, given by the byte offsets of its two
ends.  Offsets are 32-bit words; `Span.ofRange` takes offsets of any size and holds
those that do not fit at the largest word:

* `ofRange_start`, `ofRange_stop`: an offset that fits is kept as it is.
-/

namespace Reckon

/-- The text from byte `start` up to, not including, byte `stop`. -/
structure Span where
  start : UInt32
  stop : UInt32
  deriving DecidableEq, Inhabited

/-- The largest byte offset that a span can hold. -/
def maxOffset : Nat := 4294967295

/-- A byte offset as a word; one that does not fit becomes the largest word. -/
def saturate (offset : Nat) : UInt32 := UInt32.ofNat (min offset maxOffset)

theorem toNat_saturate (offset : Nat) : (saturate offset).toNat = min offset maxOffset := by
  rw [saturate, UInt32.toNat_ofNat', Nat.mod_eq_of_lt]
  exact Nat.lt_of_le_of_lt (Nat.min_le_right _ _) (by decide)

theorem toNat_saturate_of_le {offset : Nat} (h : offset ≤ maxOffset) :
    (saturate offset).toNat = offset := by
  rw [toNat_saturate, Nat.min_eq_left h]

namespace Span

/-- The span between two byte offsets. -/
def ofRange (start stop : Nat) : Span := ⟨saturate start, saturate stop⟩

/-- The empty span at a byte offset. -/
def point (offset : Nat) : Span := ofRange offset offset

theorem ofRange_start {start stop : Nat} (h : start ≤ maxOffset) :
    (ofRange start stop).start.toNat = start := toNat_saturate_of_le h

theorem ofRange_stop {start stop : Nat} (h : stop ≤ maxOffset) :
    (ofRange start stop).stop.toNat = stop := toNat_saturate_of_le h

/-- The two offsets, as `start..stop`. -/
def text (s : Span) : String := s.start.toNat.repr ++ ".." ++ s.stop.toNat.repr

end Span

end Reckon
