import Crosswalk.Json.Writer
import Crosswalk.Yaml.Writer

/-!
# Output formats

The forms in which results are printed.  The form for people falls back to pretty JSON where a
value has no form of its own.
-/

set_option autoImplicit false

namespace Crosswalk

inductive OutputFormat where
  | human
  | json
  | yaml
  | jsonPretty
  deriving DecidableEq, Repr

namespace OutputFormat

def all : List OutputFormat :=
  [.human, .json, .yaml, .jsonPretty]

def name : OutputFormat → String
  | .human => "human"
  | .json => "json"
  | .yaml => "yaml"
  | .jsonPretty => "json-pretty"

def ofName? (name : String) : Option OutputFormat :=
  all.find? fun format => format.name == name

/-- The text of a value. -/
def write (format : OutputFormat) (value : Json) : String :=
  match format with
  | .json => value.compact
  | .yaml => Yaml.write value
  | .human | .jsonPretty => value.pretty

end OutputFormat

end Crosswalk
