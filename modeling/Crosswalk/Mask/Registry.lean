import Crosswalk.Mask.BuiltIn
import Crosswalk.Text.Quoted

/-!
# Registries of masks

Masks by name, in the order of the names.  A mask registered again replaces the old one.
-/

set_option autoImplicit false

namespace Crosswalk

/-- Masks by name; the names ascend. -/
structure Registry where
  masks : List (String × Mask)

namespace Registry

def empty : Registry :=
  ⟨[]⟩

/-- Put a mask in the place of its name. -/
def place (name : String) (mask : Mask) : List (String × Mask) → List (String × Mask)
  | [] => [(name, mask)]
  | (other, old) :: rest =>
    if name = other then (name, mask) :: rest
    else if name < other then (name, mask) :: (other, old) :: rest
    else (other, old) :: place name mask rest

def register (registry : Registry) (name : String) (mask : Mask) : Registry :=
  ⟨place name mask registry.masks⟩

def builtIn : Registry :=
  empty.register "CLEAN_STRING" Mask.cleanString
    |>.register "CAPITAL_LETTER" Mask.capitalLetter
    |>.register "UPPER_CASE" Mask.upperCase
    |>.register "TRIM" Mask.trim

def get? (registry : Registry) (name : String) : Option Mask :=
  registry.masks.lookup name

def contains (registry : Registry) (name : String) : Bool :=
  (registry.get? name).isSome

/-- The text under a mask; `none` if there is no such mask. -/
def masked? (registry : Registry) (name : String) (text : String) : Option String :=
  (registry.get? name).map fun mask => mask text

def names (registry : Registry) : List String :=
  registry.masks.map Prod.fst

def size (registry : Registry) : Nat :=
  registry.masks.length

/-- The names in one line, for diagnostics. -/
def describe (registry : Registry) : String :=
  "TransformRegistry \x7b masks: [" ++ ", ".intercalate (registry.names.map Text.quoted)
    ++ "] \x7d"

end Registry

end Crosswalk
