/-
Texts as byte strings that end with a NUL byte.

A byte string ends before its first NUL byte, whatever follows; so a text is written without its
NUL characters.
-/
import Reckon.Text.Utf8

namespace Reckon.CString

/-- The bytes before the first NUL byte; all of them if there is none. -/
def untilNul (bytes : ByteArray) : ByteArray := (bytes.toList.takeWhile (· ≠ 0)).toByteArray

/-- The bytes of a text, without NUL characters, and a NUL byte. -/
def terminate (text : String) : ByteArray :=
  (String.ofList (text.toList.filter (· ≠ '\x00'))).toUTF8.push 0

/-- The text up to the first NUL byte, if it is well-formed. -/
def read (bytes : ByteArray) : Option String := String.fromUTF8? (untilNul bytes)

end Reckon.CString
