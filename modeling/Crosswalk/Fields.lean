/-!
# Named fields in order

Named values in the order in which their names first came.  Writing a name again replaces its
value and keeps its place.
-/

set_option autoImplicit false

namespace Crosswalk

universe u

/-- Values by name, in the order of first writing. -/
abbrev Fields (α : Type u) :=
  List (String × α)

namespace Fields

variable {α : Type u}

/-- The value under a name. -/
def get? (fields : Fields α) (name : String) : Option α :=
  fields.lookup name

/-- Write a value: in the place of the old one, or else at the end. -/
def insert (name : String) (value : α) : Fields α → Fields α
  | [] => [(name, value)]
  | (other, old) :: rest =>
    if other = name then (other, value) :: rest else (other, old) :: insert name value rest

/-- Write the entries one after another. -/
def ofEntries (entries : List (String × α)) : Fields α :=
  entries.foldl (fun fields entry => insert entry.1 entry.2 fields) []

def names (fields : Fields α) : List String :=
  fields.map Prod.fst

end Fields

end Crosswalk
