/-
Texts and their UTF-8 bytes.

Positions in a text are counted in bytes of its UTF-8 form.  Here are the length of a text in
bytes, the part of a text between two positions, and the length of the valid part of a byte
string:

* `byteLength_append`, `byteLength_toList`: lengths add up, and the length of a string is the
  number of its bytes;
* `dropBytes?_append`, `takeBytes?_append`: at the end of a first part a text splits into it and
  the rest.
-/

namespace Reckon.Text

/-- Bytes that a text takes. -/
def byteLength (cs : List Char) : Nat := cs.foldr (fun c n => c.utf8Size + n) 0

@[simp] theorem byteLength_nil : byteLength [] = 0 := rfl

@[simp] theorem byteLength_cons (c : Char) (cs : List Char) :
    byteLength (c :: cs) = c.utf8Size + byteLength cs := rfl

@[simp] theorem byteLength_append (cs ds : List Char) :
    byteLength (cs ++ ds) = byteLength cs + byteLength ds := by
  induction cs with
  | nil => simp
  | cons c cs ih => rw [List.cons_append, byteLength_cons, byteLength_cons, ih, Nat.add_assoc]

theorem byteLength_ofList (cs : List Char) :
    (String.ofList cs).utf8ByteSize = byteLength cs := by
  induction cs with
  | nil => rfl
  | cons c cs ih =>
    rw [byteLength_cons, ← ih, ← String.utf8ByteSize_singleton, ← String.utf8ByteSize_append,
      String.singleton_eq_ofList, ← String.ofList_append]
    rfl

theorem byteLength_toList (s : String) : byteLength s.toList = s.utf8ByteSize := by
  rw [← byteLength_ofList, String.ofList_toList]

theorem length_le_byteLength (cs : List Char) : cs.length ≤ byteLength cs := by
  induction cs with
  | nil => simp
  | cons c cs ih =>
    have := c.utf8Size_pos
    simp only [List.length_cons, byteLength_cons]
    omega

/-! ### Parts of a text -/

/-- The text from byte `n` on; none if `n` is inside a character or beyond the end. -/
def dropBytes? : List Char → Nat → Option (List Char)
  | cs, 0 => some cs
  | [], _ + 1 => none
  | c :: cs, n + 1 => if c.utf8Size ≤ n + 1 then dropBytes? cs (n + 1 - c.utf8Size) else none

/-- The text up to byte `n`, after `front`, which is in reverse; none if `n` is inside a
character or beyond the end. -/
def takeBytesOnto? (front : List Char) : List Char → Nat → Option (List Char)
  | _, 0 => some front.reverse
  | [], _ + 1 => none
  | c :: cs, n + 1 =>
    if c.utf8Size ≤ n + 1 then takeBytesOnto? (c :: front) cs (n + 1 - c.utf8Size) else none

/-- The text up to byte `n`; none if `n` is inside a character or beyond the end. -/
def takeBytes? (cs : List Char) (n : Nat) : Option (List Char) := takeBytesOnto? [] cs n

/-- The text from byte `start` up to byte `stop`; none if one of them is inside a character or
beyond the end, or `stop` is before `start`. -/
def slice? (cs : List Char) (start stop : Nat) : Option (List Char) :=
  if start ≤ stop then (dropBytes? cs start).bind (takeBytes? · (stop - start)) else none

theorem dropBytes?_cons (c : Char) (cs : List Char) (n : Nat) :
    dropBytes? (c :: cs) (c.utf8Size + n) = dropBytes? cs n := by
  have := c.utf8Size_pos
  obtain ⟨k, hk⟩ : ∃ k, c.utf8Size + n = k + 1 := ⟨c.utf8Size + n - 1, by omega⟩
  rw [hk, dropBytes?, if_pos (by omega)]
  congr 1
  omega

theorem dropBytes?_append (cs ds : List Char) :
    dropBytes? (cs ++ ds) (byteLength cs) = some ds := by
  induction cs with
  | nil => cases ds <;> rfl
  | cons c cs ih => rw [List.cons_append, byteLength_cons, dropBytes?_cons, ih]

theorem takeBytesOnto?_cons (front : List Char) (c : Char) (cs : List Char) (n : Nat) :
    takeBytesOnto? front (c :: cs) (c.utf8Size + n) = takeBytesOnto? (c :: front) cs n := by
  have := c.utf8Size_pos
  obtain ⟨k, hk⟩ : ∃ k, c.utf8Size + n = k + 1 := ⟨c.utf8Size + n - 1, by omega⟩
  rw [hk, takeBytesOnto?, if_pos (by omega)]
  congr 1
  omega

theorem takeBytesOnto?_append (front cs ds : List Char) :
    takeBytesOnto? front (cs ++ ds) (byteLength cs) = some (front.reverse ++ cs) := by
  induction cs generalizing front with
  | nil => cases ds <;> simp [takeBytesOnto?]
  | cons c cs ih => rw [List.cons_append, byteLength_cons, takeBytesOnto?_cons, ih]; simp

theorem takeBytes?_append (cs ds : List Char) :
    takeBytes? (cs ++ ds) (byteLength cs) = some cs := takeBytesOnto?_append [] cs ds

/-- The middle one of three parts lies between the positions where it begins and ends. -/
theorem slice?_append (cs ds es : List Char) :
    slice? (cs ++ ds ++ es) (byteLength cs) (byteLength cs + byteLength ds) = some ds := by
  rw [slice?, if_pos (by omega), List.append_assoc, dropBytes?_append, Option.bind_some,
    Nat.add_sub_cancel_left, takeBytes?_append]

/-! ### Byte strings -/

/-- The position of the first byte from `offset` on that does not begin a well-formed
character. -/
def validUpTo (bytes : ByteArray) (offset : Nat) : Nat :=
  match h : bytes.utf8DecodeChar? offset with
  | none => offset
  | some c =>
    have : offset < bytes.size :=
      ByteArray.lt_size_of_isSome_utf8DecodeChar? (Option.isSome_iff_exists.2 ⟨c, h⟩)
    validUpTo bytes (offset + c.utf8Size)
termination_by bytes.size - offset
decreasing_by
  have := c.utf8Size_pos
  omega

end Reckon.Text
