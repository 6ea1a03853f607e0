/-
Filters as they are written.

The filter of a log is read by the library that writes the log, and not by the process.  Here is one
way to read it: directives with commas between them, each a level for all events, `target=level`
for the events of a target, or a target alone, which shows all of them.  A filter with no directive
shows errors.  A library may read more texts than these as filters.
-/
import Reckon.Log.Library
import Reckon.Text.Alphanumeric
import Reckon.Text.Space

namespace Reckon

namespace Threshold

/-- The thresholds by the number of levels that they show. -/
def ofDetail? : Nat → Option Threshold
  | 0 => some none
  | 1 => some (some .error)
  | 2 => some (some .warn)
  | 3 => some (some .info)
  | 4 => some (some .debug)
  | 5 => some (some .trace)
  | _ => none

/-- The threshold with a name, in small letters. -/
def ofName? (name : List Char) : Option Threshold :=
  match String.ofList name with
  | "off" => some none
  | "error" => some (some .error)
  | "warn" => some (some .warn)
  | "info" => some (some .info)
  | "debug" => some (some .debug)
  | "trace" => some (some .trace)
  | _ => none

/-- A number without a sign, or with a plus sign in front. -/
def readDetail? (text : List Char) : Option Nat :=
  let digits := match text with
    | '+' :: digits => digits
    | digits => digits
  if digits = [] ∨ ¬digits.all Char.isDigit then none else some (Nat.ofDigitChars 10 digits 0)

/-- The threshold that a text gives by number or by name, in letters of either case. -/
def read? (text : List Char) : Option Threshold :=
  ((readDetail? text).bind ofDetail?).or (ofName? (text.map Char.toLower))

end Threshold

namespace Directive

/-- Whether a directive can begin with the character. -/
def canStart (c : Char) : Bool := c == '-' || c == ':' || c == '_' || Text.isAlphanumeric c

/-- Reads a directive.  White space at its ends does not count when its parts are looked for, but
stays with them: the parts are cut from the whole piece, at the place of the first `=` counted
from where the white space in front ends.  Conditions in brackets are not understood. -/
def read? (piece : List Char) : Option Directive :=
  match Text.trim piece with
  | [] => none
  | c :: cs =>
    let target := (c :: cs).takeWhile (· != '=')
    if !canStart c || target.contains '[' then none
    else if target = c :: cs then
      match Threshold.read? piece with
      | some threshold => some ⟨none, threshold⟩
      | none => some ⟨some piece, some .trace⟩
    else
      let place := Text.byteLength target
      match Text.takeBytes? piece place, Text.dropBytes? piece (place + 1) with
      | some target, some [] => some ⟨some target, some .trace⟩
      | some target, some level => (Threshold.read? level).map (⟨some target, ·⟩)
      | _, _ => none

end Directive

namespace Filter

/-- Cuts a text at its commas; what was read of the piece so far is in reverse. -/
def pieces (piece : List Char) : List Char → List (List Char)
  | [] => [piece.reverse]
  | c :: cs => if c = ',' then piece.reverse :: pieces [] cs else pieces (c :: piece) cs

/-- Reads a filter. -/
def read? (text : String) : Option Filter :=
  match (pieces [] text.toList).filter (· ≠ []) with
  | [] => some ⟨[⟨none, some .error⟩]⟩
  | pieces => (pieces.mapM Directive.read?).map Filter.mk

example : (read? "calc_parse=trace,info").map (·.directives) =
    some [⟨some "calc_parse".toList, some .trace⟩, ⟨none, some .info⟩] := by decide +kernel
example : (read? "calc_parse=loud").isNone = true := by decide +kernel

end Filter

/-- A library that reads filters in this way, and writes no times. -/
def LogLibrary.plain : LogLibrary := ⟨Filter.read?, fun _ => ""⟩

end Reckon
