import Mooring.Text.Blank
import Mooring.Text.Search

set_option autoImplicit false

/-!
# Logging

The form of log lines, and which parts of the program write them.
-/

namespace Mooring

/-- The form of log lines. -/
inductive LogFormat where
  | text
  | json
  deriving DecidableEq, Repr

namespace LogFormat

/-- The format of a name: JSON in any case is JSON, anything else is text. -/
def ofName (name : String) : LogFormat :=
  if Text.eqIgnoringAsciiCase (Text.trimmed name) "json" then json else text

/-- The name of a format. -/
def name : LogFormat → String
  | text => "Text"
  | json => "Json"

end LogFormat

/-- The parts of the program that write log lines. -/
def logTargets : List String :=
  ["berth", "berth_core"]

/-- What enables a level for the parts of the program. -/
def logDirectives (level : String) : String :=
  ",".intercalate (logTargets.map fun target => target ++ "=" ++ level)

end Mooring
