/-
Byte strings and the texts in them.

A byte string may end before its first NUL byte, and what is before that may be a text or not.

* `fromUTF8?_eq_some_iff`: the text of a byte string is the one that it is the UTF-8 form of;
* `isValidUpTo_validUpTo`: where a byte string stops being a text;
* `upToNul_iff`: what is before the first NUL byte;
* `CString.read_eq_some_iff`: what is read is the text that is there;
* `CString.read_terminate`: a text without NUL characters is read back as it was written.
-/
import Reckon.Session.CString

namespace Reckon

/-! ### Bytes -/

theorem toList_loop_eq (bytes : ByteArray) (i : Nat) (done : List UInt8) :
    ByteArray.toList.loop bytes i done = done.reverse ++ bytes.data.toList.drop i := by
  fun_induction ByteArray.toList.loop bytes i done with
  | case1 i done hi ih =>
    have hlength : i < bytes.data.toList.length := by simpa using hi
    have hget : bytes.get! i = bytes.data.toList[i] := by simp [ByteArray.get!, hi]
    rw [ih, List.drop_eq_getElem_cons hlength, hget, List.reverse_cons, List.append_assoc]
    rfl
  | case2 i done hi =>
    rw [List.drop_eq_nil_of_le (by simpa using Nat.le_of_not_lt hi), List.append_nil]

theorem toList_eq_data (bytes : ByteArray) : bytes.toList = bytes.data.toList := by
  rw [ByteArray.toList, toList_loop_eq]
  rfl

theorem toList_toByteArray (l : List UInt8) : l.toByteArray.toList = l := by
  rw [toList_eq_data, List.toList_data_toByteArray]

theorem toByteArray_toList (bytes : ByteArray) : bytes.toList.toByteArray = bytes := by
  apply ByteArray.ext
  rw [List.data_toByteArray, toList_eq_data]

/-! ### Texts -/

theorem fromUTF8?_eq_some_iff {bytes : ByteArray} {text : String} :
    String.fromUTF8? bytes = some text ↔ text.toUTF8 = bytes := by
  rw [String.toUTF8_eq_toByteArray]
  constructor
  · intro h
    rw [String.fromUTF8?] at h
    split at h
    · obtain rfl := Option.some.inj h
      rfl
    · exact nomatch h
  · rintro rfl
    rw [String.fromUTF8?, dif_pos text.isValidUTF8]
    rfl

theorem isValidUTF8_iff {bytes : ByteArray} :
    bytes.IsValidUTF8 ↔ ∃ text : String, text.toUTF8 = bytes := by
  constructor
  · intro h
    exact ⟨String.fromUTF8 bytes h, rfl⟩
  · rintro ⟨text, rfl⟩
    exact text.isValidUTF8

theorem fromUTF8?_eq_none_iff {bytes : ByteArray} :
    String.fromUTF8? bytes = none ↔ ∀ text : String, text.toUTF8 ≠ bytes := by
  rw [← not_exists, ← isValidUTF8_iff, String.fromUTF8?]
  split <;> simp [*]

/-- The first `n` bytes are a text, and with no more bytes they are. -/
structure IsValidUpTo (bytes : ByteArray) (n : Nat) : Prop where
  le_size : n ≤ bytes.size
  exists_text : ∃ front : String, front.toUTF8 = bytes.extract 0 n
  longest : ∀ m (front : String), m ≤ bytes.size → front.toUTF8 = bytes.extract 0 m → m ≤ n

namespace Text

variable {bytes : ByteArray} {offset : Nat} {c : Char}

/-- The bytes of a character that is decoded. -/
theorem extract_of_utf8DecodeChar? (h : bytes.utf8DecodeChar? offset = some c) :
    bytes.extract offset (offset + c.utf8Size) = [c].utf8Encode := by
  have hle := ByteArray.le_size_of_utf8DecodeChar?_eq_some h
  rw [ByteArray.utf8DecodeChar?_eq_utf8DecodeChar?_extract] at h
  have hbytes := String.toByteArray_utf8EncodeChar_of_utf8DecodeChar?_eq_some h
  rw [ByteArray.extract_extract, Nat.min_eq_left hle] at hbytes
  rw [List.utf8Encode_singleton, hbytes, Nat.add_zero]

/-- From a character that is decoded on, bytes are a text if and only if those behind it are. -/
theorem isValidUTF8_extract_iff {stop : Nat} (h : bytes.utf8DecodeChar? offset = some c)
    (hstop : offset + c.utf8Size ≤ stop) :
    (bytes.extract offset stop).IsValidUTF8 ↔
      (bytes.extract (offset + c.utf8Size) stop).IsValidUTF8 := by
  rw [ByteArray.extract_eq_extract_append_extract _ (Nat.le_add_right offset c.utf8Size) hstop,
    extract_of_utf8DecodeChar? h, ByteArray.isValidUTF8_utf8Encode_singleton_append_iff]

/-- Bytes that are a text begin with a character, if there are any. -/
theorem exists_utf8DecodeChar? {stop : Nat} (hlt : offset < stop) (hstop : stop ≤ bytes.size)
    (h : (bytes.extract offset stop).IsValidUTF8) :
    ∃ c, bytes.utf8DecodeChar? offset = some c ∧ offset + c.utf8Size ≤ stop := by
  obtain ⟨cs, hcs⟩ := h
  have hsize := congrArg ByteArray.size hcs
  cases cs with
  | nil =>
    rw [ByteArray.size_extract, List.utf8Encode_nil, ByteArray.size_empty] at hsize
    omega
  | cons c cs =>
    have hdecode : (bytes.extract offset stop).utf8DecodeChar? 0 = some c := by
      rw [hcs, List.utf8DecodeChar?_utf8Encode_cons]
    have hle := ByteArray.le_size_of_utf8DecodeChar?_eq_some hdecode
    rw [ByteArray.size_extract] at hle
    refine ⟨c, ?_, by omega⟩
    rw [ByteArray.utf8DecodeChar?_eq_utf8DecodeChar?_extract,
      ByteArray.extract_eq_extract_append_extract stop (Nat.le_of_lt hlt) hstop]
    exact ByteArray.utf8DecodeChar?_append_eq_some hdecode _

/-- The bytes up to where a byte string stops being a text are a text. -/
theorem isValidUTF8_validUpTo (h : offset ≤ bytes.size) :
    offset ≤ validUpTo bytes offset ∧ validUpTo bytes offset ≤ bytes.size ∧
      (bytes.extract offset (validUpTo bytes offset)).IsValidUTF8 := by
  fun_induction validUpTo bytes offset with
  | case1 offset hnone => simpa using h
  | case2 offset c hc hlt ih =>
    obtain ⟨hle, hsize, hvalid⟩ := ih (ByteArray.le_size_of_utf8DecodeChar?_eq_some hc)
    exact ⟨Nat.le_of_add_right_le hle, hsize, (isValidUTF8_extract_iff hc hle).2 hvalid⟩

/-- No more bytes are a text than those up to there. -/
theorem le_validUpTo {stop : Nat} (hle : offset ≤ stop) (hstop : stop ≤ bytes.size)
    (h : (bytes.extract offset stop).IsValidUTF8) : stop ≤ validUpTo bytes offset := by
  fun_induction validUpTo bytes offset with
  | case1 offset hnone =>
    rcases Nat.lt_or_ge offset stop with hlt | hge
    · obtain ⟨c, hc, -⟩ := exists_utf8DecodeChar? hlt hstop h
      exact nomatch hnone.symm.trans hc
    · exact hge
  | case2 offset c hc _ ih =>
    rcases Nat.eq_or_lt_of_le hle with rfl | hlt
    · have hnext := isValidUTF8_validUpTo (ByteArray.le_size_of_utf8DecodeChar?_eq_some hc)
      omega
    · obtain ⟨d, hd, hdstop⟩ := exists_utf8DecodeChar? hlt hstop h
      obtain rfl := Option.some.inj (hc.symm.trans hd)
      exact ih hdstop ((isValidUTF8_extract_iff hc hdstop).1 h)

theorem isValidUpTo_validUpTo (bytes : ByteArray) : IsValidUpTo bytes (validUpTo bytes 0) := by
  obtain ⟨-, hsize, hvalid⟩ := isValidUTF8_validUpTo (Nat.zero_le bytes.size)
  refine ⟨hsize, isValidUTF8_iff.1 hvalid, fun m front hm hfront => ?_⟩
  exact le_validUpTo (Nat.zero_le m) hm (isValidUTF8_iff.2 ⟨front, hfront⟩)

end Text

/-! ### Up to the first NUL byte -/

/-- The bytes are those before the first NUL byte, where one is put behind all of them. -/
def UpToNul (bytes front : ByteArray) : Prop :=
  0 ∉ front.toList ∧ ∃ back, bytes.toList ++ [0] = front.toList ++ 0 :: back

theorem takeWhile_eq_iff {l front : List UInt8} :
    l.takeWhile (· ≠ 0) = front ↔ 0 ∉ front ∧ ∃ back, l ++ [0] = front ++ 0 :: back := by
  induction l generalizing front with
  | nil =>
    constructor
    · rintro rfl
      exact ⟨List.not_mem_nil, [], rfl⟩
    · rintro ⟨-, back, h⟩
      cases front with
      | nil => rfl
      | cons b front => simp at h
  | cons b l ih =>
    by_cases hb : b = 0
    · subst hb
      cases front with
      | nil => exact ⟨fun _ => ⟨List.not_mem_nil, l ++ [0], rfl⟩, fun _ => rfl⟩
      | cons c front =>
        -- Such a front would begin with the NUL byte itself.
        refine ⟨fun h => absurd h (by simp), fun ⟨hnot, back, hback⟩ => ?_⟩
        exact absurd (List.cons.inj hback).1 (List.ne_of_not_mem_cons hnot)
    · rw [List.takeWhile_cons_of_pos (by simpa using hb)]
      cases front with
      | nil => simp [hb]
      | cons c front =>
        rw [List.cons.injEq, ih]
        constructor
        · rintro ⟨rfl, hnot, back, hback⟩
          refine ⟨List.not_mem_cons_of_ne_of_not_mem (Ne.symm hb) hnot, back, ?_⟩
          rw [List.cons_append, hback, List.cons_append]
        · rintro ⟨hnot, back, hback⟩
          obtain ⟨rfl, hrest⟩ := List.cons.inj hback
          exact ⟨rfl, fun hmem => hnot (List.mem_cons_of_mem _ hmem), back, hrest⟩

theorem upToNul_iff {bytes front : ByteArray} :
    UpToNul bytes front ↔ CString.untilNul bytes = front := by
  rw [UpToNul, ← takeWhile_eq_iff, CString.untilNul]
  constructor
  · intro h
    rw [h, toByteArray_toList]
  · rintro rfl
    rw [toList_toByteArray]

namespace CString

/-- What is read is the text before the first NUL byte. -/
theorem read_eq_some_iff {bytes : ByteArray} {text : String} :
    read bytes = some text ↔ UpToNul bytes text.toUTF8 := by
  rw [read, fromUTF8?_eq_some_iff, upToNul_iff]
  exact eq_comm

/-- Nothing is read where no text is before the first NUL byte. -/
theorem read_eq_none_iff {bytes front : ByteArray} (h : UpToNul bytes front) :
    read bytes = none ↔ ∀ text : String, text.toUTF8 ≠ front := by
  rw [read, upToNul_iff.1 h, fromUTF8?_eq_none_iff]

theorem toUInt8_ne_zero {n : Nat} (h : n % 256 ≠ 0) : UInt8.ofNat n ≠ 0 := by
  intro hzero
  have hmod := congrArg UInt8.toNat hzero
  rw [UInt8.toNat_ofNat'] at hmod
  exact h hmod

/-- Only the NUL character has a NUL byte in its UTF-8 form. -/
theorem zero_not_mem_utf8EncodeChar {c : Char} (hc : c ≠ '\x00') :
    0 ∉ String.utf8EncodeChar c := by
  have hval : c.val.toNat ≠ 0 := by
    intro hzero
    exact hc (Char.ext (UInt32.toNat_inj.1 hzero))
  intro hmem
  rw [String.utf8EncodeChar.eq_def] at hmem
  dsimp only at hmem
  -- Bytes of a character that takes more than one all have their upper bit.
  split at hmem
  · exact toUInt8_ne_zero (by omega) (List.mem_singleton.1 hmem).symm
  split at hmem
  · simp only [List.mem_cons, List.not_mem_nil, or_false] at hmem
    rcases hmem with h | h <;> exact toUInt8_ne_zero (by omega) h.symm
  split at hmem
  · simp only [List.mem_cons, List.not_mem_nil, or_false] at hmem
    rcases hmem with h | h | h <;> exact toUInt8_ne_zero (by omega) h.symm
  · simp only [List.mem_cons, List.not_mem_nil, or_false] at hmem
    rcases hmem with h | h | h | h <;> exact toUInt8_ne_zero (by omega) h.symm

theorem zero_not_mem_toUTF8 {text : String} (h : '\x00' ∉ text.toList) :
    0 ∉ text.toUTF8.toList := by
  rw [String.toUTF8_eq_toByteArray, ← String.utf8Encode_toList, List.utf8Encode,
    toList_toByteArray]
  intro hmem
  obtain ⟨c, hc, hzero⟩ := List.mem_flatMap.1 hmem
  refine zero_not_mem_utf8EncodeChar ?_ hzero
  rintro rfl
  exact h hc

/-- From a text without NUL characters nothing is taken out. -/
theorem terminate_eq {text : String} (h : '\x00' ∉ text.toList) :
    terminate text = text.toUTF8.push 0 := by
  have hfilter : text.toList.filter (· ≠ '\x00') = text.toList := by
    refine List.filter_eq_self.2 fun c hc => decide_eq_true ?_
    rintro rfl
    exact h hc
  rw [terminate, hfilter, String.ofList_toList]

theorem read_terminate {text : String} (h : '\x00' ∉ text.toList) :
    read (terminate text) = some text := by
  rw [read_eq_some_iff, terminate_eq h]
  refine ⟨zero_not_mem_toUTF8 h, [0], ?_⟩
  rw [toList_eq_data, toList_eq_data, ByteArray.data_push, Array.toList_push, List.append_assoc]
  rfl

end CString

end Reckon
