import Crosswalk.Text.Blank
import Crosswalk.Text.Case

/-!
# Failure policies

What a batch does when a record fails.
-/

set_option autoImplicit false

namespace Crosswalk

inductive FailurePolicy where
  /-- Take no record after the first that fails. -/
  | halt
  /-- Take every record. -/
  | collect
  deriving DecidableEq, Repr

namespace FailurePolicy

def text : FailurePolicy → String
  | .halt => "halt"
  | .collect => "collect"

/-- The names under which the policies are known. -/
def names : List (String × FailurePolicy) :=
  [("halt", .halt), ("halt_on_first_error", .halt), ("collect", .collect),
    ("collect_errors", .collect)]

/-- The form in which a name is looked up: without blanks around it, in lower case, and with
underscores for hyphens. -/
def normalize (s : String) : String :=
  String.ofList ((Text.lowercase (Text.trim s.toList)).map fun c => if c = '-' then '_' else c)

/-- The policy that a text names. -/
def ofText? (s : String) : Option FailurePolicy :=
  names.lookup (normalize s)

/-- The complaint about a text that names no policy. -/
def unknownMessage (s : String) : String :=
  "unknown failure policy '" ++ s ++ "' (expected 'halt' or 'collect')"

end FailurePolicy

end Crosswalk
