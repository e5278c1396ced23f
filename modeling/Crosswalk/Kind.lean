import Crosswalk.Json.Basic
import Crosswalk.Text.Blank
import Crosswalk.Text.Case

/-!
# Kinds of values

The six kinds that a field can declare, with the keyword that writes each, the keywords that read
as it, and its name in messages.  Null has no kind.
-/

set_option autoImplicit false

namespace Crosswalk

inductive Kind where
  | string
  | float
  | integer
  | boolean
  | list
  | mapping
  deriving DecidableEq, Repr

namespace Kind

def all : List Kind :=
  [.string, .float, .integer, .boolean, .list, .mapping]

/-- The keyword that a catalog is written with. -/
def keyword : Kind → String
  | .string => "str"
  | .float => "float"
  | .integer => "int"
  | .boolean => "bool"
  | .list => "list"
  | .mapping => "dict"

/-- The name in messages. -/
def name : Kind → String
  | .string => "string"
  | .float => "float"
  | .integer => "integer"
  | .boolean => "boolean"
  | .list => "list"
  | .mapping => "mapping"

/-- Every keyword that a catalog may use. -/
def keywords : List (String × Kind) :=
  [("str", .string), ("string", .string),
    ("float", .float), ("float64", .float), ("double", .float), ("number", .float),
    ("int", .integer), ("int64", .integer), ("integer", .integer),
    ("bool", .boolean), ("boolean", .boolean),
    ("list", .list), ("array", .list),
    ("dict", .mapping), ("object", .mapping), ("mapping", .mapping), ("map", .mapping)]

/-- The form in which a keyword is looked up: without blanks around it and in lower case. -/
def normalize (s : String) : String :=
  String.ofList (Text.lowercaseAscii (Text.trim s.toList))

/-- The kind that a keyword names. -/
def ofKeyword? (s : String) : Option Kind :=
  keywords.lookup (normalize s)

/-- The kind of a value.  A number is a float if its text has a fraction or an exponent. -/
def of : Json → Option Kind
  | .null => none
  | .bool _ => some .boolean
  | .number (.float _) => some .float
  | .number (.integer _ _) => some .integer
  | .string _ => some .string
  | .array _ => some .list
  | .object _ => some .mapping

/-- The kind of a value in messages. -/
def describe (value : Json) : String :=
  match of value with
  | some kind => kind.name
  | none => "null"

end Kind

end Crosswalk
