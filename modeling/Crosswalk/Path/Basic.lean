import Crosswalk.Json.Basic

/-!
# Field paths

A path leads from a record to one value inside it, by member names and list positions.  A step
that does not fit the value it meets leads nowhere; that is an absence and no error.
-/

set_option autoImplicit false

namespace Crosswalk

/-- One step into a value. -/
inductive Step where
  | key (name : String)
  | index (position : Nat)
  deriving DecidableEq, Repr

/-- A path with the text it was written as. -/
structure Path where
  text : String
  steps : List Step
  deriving DecidableEq, Repr

namespace Step

/-- The value one step away. -/
def next? : Step → Json → Option Json
  | .key name, .object members => members.lookup name
  | .index position, .array items => items[position]?
  | _, _ => none

end Step

namespace Path

/-- The value that a list of steps leads to. -/
def follow? : List Step → Json → Option Json
  | [], value => some value
  | step :: rest, value => (step.next? value).bind (follow? rest)

/-- The value that the path leads to. -/
def resolve? (path : Path) (record : Json) : Option Json :=
  follow? path.steps record

end Path

end Crosswalk
