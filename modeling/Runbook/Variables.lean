import Runbook.Json.Reader
import Runbook.OrderedMap

/-!
# Variables

The variables of a run are texts in order of first assignment.  A structured
value is held as its JSON text and read again when it is needed.
-/

namespace Runbook

/-- Variables by name, first assigned first. -/
abbrev Variables := OrderedMap String

namespace Variables

/-- Store a JSON value as its compact text; a string is stored as it is. -/
def insertJson (bindings : Variables) (name : String) (value : Json) :
    Variables :=
  bindings.insert name value.storedText

def getJson? (bindings : Variables) (name : String) : Option Json :=
  (bindings.get? name).bind Json.read?

end Variables

end Runbook
