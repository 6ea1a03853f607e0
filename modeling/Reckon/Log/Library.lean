/-
The library that writes the log.

What counts as the text of a filter, and which time stands in front of a line, is up to the library
that a process has for its log.  A `LogLibrary` is any such library.
-/
import Reckon.Log.Filter

namespace Reckon

/-- What a process takes from the library that writes its log. -/
structure LogLibrary where
  /-- The filter that a text stands for, if it is the text of one. -/
  readFilter : String → Option Filter
  /-- What is written in front of a line, by the number of the line: the time, and a blank. -/
  stamp : Nat → String

end Reckon
