import Crosswalk.Catalog.Table
import Crosswalk.Mask.Registry

/-!
# Mapping catalogs

A catalog is four tables: the fields of input records, the fields of output records, the uses of
masks, and the links that bind them.  Its paths are well formed and its defaults fit their fields.
Whether its links refer to entries and masks that exist is a separate check.
-/

set_option autoImplicit false

namespace Crosswalk

/-- The entries of a catalog, unchecked. -/
structure Document where
  sources : List SourceField
  destinations : List DestinationField
  maskUses : List MaskUse
  links : List Link
  deriving DecidableEq

namespace Error

/-- A fault of a path, with the expression that has it. -/
def ofPath (path : String) (fault : PathFault) : Error :=
  .invalidPath path fault

end Error

/-- The path of a field, read from its expression. -/
def readPath (path : String) : Except Error Path :=
  (Path.parse path).mapError (Error.ofPath path)

/-- The default of a field in the kind of the field.  One that does not fit is a fault of the
catalog, not of a record. -/
def DestinationField.convertedDefault (field : DestinationField) : Except Error Json :=
  (Coercion.convertDefault field.name field.kind field.default).mapError fun mismatch =>
    .catalog (.badDefault field.kind field.default mismatch)

/-- The error of a computation, if it has one. -/
def fault? {α : Type} : Except Error α → Option Error
  | .ok _ => none
  | .error e => some e

def SourceField.fault? (field : SourceField) : Option Error :=
  Crosswalk.fault? (readPath field.path)

def DestinationField.fault? (field : DestinationField) : Option Error :=
  (Crosswalk.fault? (readPath field.path)).or (Crosswalk.fault? field.convertedDefault)

/-- The first field with a path that is no path or a default that does not fit. -/
def fieldFault? (sources : List SourceField) (destinations : List DestinationField) :
    Option Error :=
  (sources.findSome? SourceField.fault?).or (destinations.findSome? DestinationField.fault?)

structure Catalog where
  sources : Table SourceField
  destinations : Table DestinationField
  maskUses : Table MaskUse
  links : Table Link
  sound : fieldFault? sources.entries destinations.entries = none

/-- The sizes of the tables of a catalog. -/
structure CatalogSummary where
  sources : Nat
  requiredSources : Nat
  destinations : Nat
  maskUses : Nat
  links : Nat
  deriving DecidableEq, Repr

namespace Catalog

/-- A table, with its fault as an error. -/
def table {α : Type} [Entry α] (entries : List α) : Except Error (Table α) :=
  (Table.ofList entries).mapError .catalog

/-- The catalog of a document.  The tables are checked one after another, then the fields. -/
def ofDocument (document : Document) : Except Error Catalog := do
  let sources ← table document.sources
  let destinations ← table document.destinations
  let maskUses ← table document.maskUses
  let links ← table document.links
  match h : fieldFault? sources.entries destinations.entries with
  | none => pure ⟨sources, destinations, maskUses, links, h⟩
  | some e => throw e

def toDocument (catalog : Catalog) : Document :=
  ⟨catalog.sources.entries, catalog.destinations.entries, catalog.maskUses.entries,
    catalog.links.entries⟩

def summary (catalog : Catalog) : CatalogSummary where
  sources := catalog.sources.size
  requiredSources := (catalog.sources.entries.filter SourceField.required).length
  destinations := catalog.destinations.size
  maskUses := catalog.maskUses.size
  links := catalog.links.size

/-! ## What a link refers to -/

def sourceOf (catalog : Catalog) (link : Link) : Except Error SourceField :=
  match catalog.sources.byId? link.source with
  | some field => .ok field
  | none => .error (.catalog (.unknownSource link.id link.source))

def destinationOf (catalog : Catalog) (link : Link) : Except Error DestinationField :=
  match catalog.destinations.byId? link.destination with
  | some field => .ok field
  | none => .error (.catalog (.unknownDestination link.id link.destination))

/-- The use of a mask by a link, if it has one. -/
def maskUseOf (catalog : Catalog) (link : Link) : Except Error (Option MaskUse) :=
  match link.maskUse with
  | none => .ok none
  | some id =>
    match catalog.maskUses.byId? id with
    | some use => .ok (some use)
    | none => .error (.catalog (.unknownMaskUse link.id id))

/-- The mask of a link, if it has one. -/
def maskOf (catalog : Catalog) (registry : Registry) (link : Link) :
    Except Error (Option Mask) := do
  match ← catalog.maskUseOf link with
  | none => pure none
  | some use =>
    match registry.get? use.mask with
    | some mask => pure (some mask)
    | none => throw (.unknownMask use.mask registry.names)

/-- Whether everything that a link refers to exists. -/
def checkLink (catalog : Catalog) (registry : Registry) (link : Link) : Except Error Unit := do
  let _ ← catalog.sourceOf link
  let _ ← catalog.destinationOf link
  let _ ← catalog.maskOf registry link
  pure ()

/-- The error of the first link that refers to something that does not exist. -/
def checkLinks (catalog : Catalog) (registry : Registry) : Except Error Unit :=
  catalog.links.entries.forM (catalog.checkLink registry)

/-- The links that pass the check, up to the first that does not. -/
def checkedLinks (catalog : Catalog) (registry : Registry) : List Link :=
  catalog.links.entries.takeWhile fun link => (catalog.checkLink registry link).isOk

/-- The links into a destination that is among those seen or that an earlier link has. -/
def repeated (seen : List EntryId) : List Link → List Link
  | [] => []
  | link :: rest =>
    if seen.contains link.destination then
      link :: repeated seen rest
    else
      repeated (link.destination :: seen) rest

/-- The links that overwrite the value of an earlier one, as far as the check comes. -/
def overwritingLinks (catalog : Catalog) (registry : Registry) : List Link :=
  repeated [] (catalog.checkedLinks registry)

end Catalog

end Crosswalk
