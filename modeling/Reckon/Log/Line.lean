/-
The line of a log that shows an event.

The level stands first, set to the right in five columns, then the target, the message, and each
field with its name: `DEBUG calc_parse: parsed expression nodes=1 tree=1`.  In front of all this the
log has the time, which is not the event's.
-/
import Reckon.Event

namespace Reckon

/-- A text set to the right in five columns. -/
def inFiveColumns (text : String) : String := String.ofList (text.toList.leftpad 5 ' ')

/-- The fields of an event, each with a blank in front. -/
def fieldsText (fields : List (String × FieldValue)) : String :=
  fields.foldl (fun text field => text ++ " " ++ field.1 ++ "=" ++ field.2.logText) ""

/-- The line that shows an event, without the time in front of it. -/
def Event.line (e : Event) : String :=
  inFiveColumns e.level.name ++ " " ++ e.target ++ ": " ++ e.message ++ fieldsText e.fields

example : (Event.advanced ⟨.symbol .plus, .ofRange 4 5⟩).line =
    "TRACE calc_parse::cursor: advance consumed=\"`+`\" at=4" := by decide +kernel

end Reckon
