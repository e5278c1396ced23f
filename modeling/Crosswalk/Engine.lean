import Crosswalk.Catalog.Basic

/-!
# Transforming records

Every link of a catalog, taken alone, gives one field of the output or an error.  A record is
transformed by its links in order: the first error is the error of the record, and without one
the fields are written one after another, so that a field keeps the place of its first link and
the value of its last.
-/

set_option autoImplicit false

namespace Crosswalk

/-- When the links of a catalog are checked: before any record, or as records come to them. -/
inductive LinkValidation where
  | eager
  | lazy
  deriving DecidableEq, Repr

/-- A transformed record. -/
abbrev Record :=
  Fields Json

/-- A catalog with its masks, ready to transform records. -/
structure Engine where
  catalog : Catalog
  registry : Registry
  validation : LinkValidation
  /-- The paths of the source fields. -/
  paths : List (EntryId × Path)

/-- What one link contributes to the output of a record. -/
structure Assignment where
  link : Link
  source : SourceField
  destination : DestinationField
  value : Json
  /-- The source has no value, and the value is the default of the destination. -/
  defaulted : Bool

namespace Engine

/-- The paths of fields, by the identifiers of the fields. -/
def compilePaths (fields : List SourceField) : Except Error (List (EntryId × Path)) :=
  fields.mapM fun field => do
    let path ← readPath field.path
    pure (field.id, path)

/-- An engine for a catalog.  With eager validation every link has to pass first. -/
def build (catalog : Catalog) (registry : Registry) (validation : LinkValidation) :
    Except Error Engine := do
  match validation with
  | .eager => catalog.checkLinks registry
  | .lazy => pure ()
  let paths ← compilePaths catalog.sources.entries
  pure ⟨catalog, registry, validation, paths⟩

def links (engine : Engine) : List Link :=
  engine.catalog.links.entries

/-- The path of a source field. -/
def pathOf (engine : Engine) (field : SourceField) : Except Error Path :=
  match engine.paths.lookup field.id with
  | some path => .ok path
  | none => .error (.catalog (.uncompiledPath field.id field.name))

/-- The value of a source field in a record, if the record has one that is not null.  A required
field has to be there, null or not, and a value has to be of the declared kind. -/
def sourceValue (path : Path) (field : SourceField) (record : Json) :
    Except Error (Option Json) :=
  match path.resolve? record with
  | none =>
    if field.required then .error (.missingField field.name field.path) else .ok none
  | some value =>
    if value.isNull then
      .ok none
    else if Kind.of value = some field.kind then
      .ok (some value)
    else
      .error (.mismatch (.ofValue field.name field.kind value))

/-- The value that a destination field takes.  The default stands in for a missing value, and the
mask is for values that are there; only text can have one. -/
def destinationValue (field : DestinationField) (mask : Option Mask) (value : Option Json) :
    Except Error Json :=
  match value with
  | none => field.convertedDefault
  | some value => do
    let converted ← (Coercion.convert field.name field.kind value).mapError Error.mismatch
    match mask, converted with
    | none, converted => pure converted
    | some mask, .string text => pure (.string (mask text))
    | some _, other => throw (.mismatch (.ofValue field.name .string other))

/-- What a link contributes, taken alone. -/
def assign (engine : Engine) (record : Json) (link : Link) : Except Error Assignment := do
  let source ← engine.catalog.sourceOf link
  let destination ← engine.catalog.destinationOf link
  let path ← engine.pathOf source
  let value ← sourceValue path source record
  let mask ← engine.catalog.maskOf engine.registry link
  let stored ← destinationValue destination mask value
  pure ⟨link, source, destination, stored, value.isNone⟩

/-- The output of a record. -/
def transform (engine : Engine) (record : Json) : Except Error Record := do
  let assignments ← engine.links.mapM (engine.assign record)
  pure (Fields.ofEntries (assignments.map fun a => (a.destination.name, a.value)))

/-- The contributions of the links up to the first that fails. -/
def assignments (engine : Engine) (record : Json) : List Assignment :=
  go engine.links
where
  go : List Link → List Assignment
    | [] => []
    | link :: rest =>
      match engine.assign record link with
      | .ok assignment => assignment :: go rest
      | .error _ => []

/-- The names of the output fields, in the order in which records carry them. -/
def outputFields (engine : Engine) : List String :=
  (engine.links.filterMap fun link =>
    (engine.catalog.destinations.byId? link.destination).map DestinationField.name).foldl
      (fun names name => if names.contains name then names else names ++ [name]) []

end Engine

end Crosswalk
