/-
The process of the program.

The program has a log of its own kind: `Session.fresh` is its process at the beginning.
-/
import Reckon.Log.Directives
import Reckon.Session.Process

namespace Reckon

/-- The process of the program, in which nothing has happened. -/
def Session.fresh : Session := start .plain

end Reckon
