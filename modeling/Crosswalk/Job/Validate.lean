import Crosswalk.Job.Basic

/-!
# Checking a catalog

A catalog is loaded and all its links are checked.  A catalog that passes is described: its sizes,
and what each link reads, writes and applies.
-/

set_option autoImplicit false

namespace Crosswalk

namespace Catalog

/-- What a link reads, and what it writes of which kind, and under which mask.  A hash mark stands
before an identifier that refers to nothing. -/
def linkRow (catalog : Catalog) (link : Link) : List String :=
  let unknown (id : EntryId) : String := "#" ++ toString id.toNat
  let source :=
    match catalog.sourceOf link with
    | .ok field => field.name ++ " (" ++ field.path ++ ")"
    | .error _ => unknown link.source
  let (destination, kind) :=
    match catalog.destinationOf link with
    | .ok field => (field.name, field.kind.name)
    | .error _ => (unknown link.destination, "?")
  let mask :=
    match catalog.maskUseOf link with
    | .ok (some use) => use.mask
    | .ok none => "-"
    | .error _ => "?"
  [toString link.id.toNat, source, destination, kind, mask]

def linkHeaders : List String :=
  ["Link", "Source", "Destination", "Type", "Mask"]

end Catalog

namespace Job

/-- The description of a valid catalog as data. -/
def validationJson (path : String) (engine : Engine) : Json :=
  .object
    [("valid", .bool true), ("catalog", .string path),
      ("summary", engine.catalog.summary.toJson),
      ("output_fields", .array (engine.outputFields.map .string))]

/-- The description of a valid catalog for people. -/
def validationItems (catalog : Catalog) : List Printed :=
  [.success "✓ Catalog is valid", .heading "Tables", .catalogSummary catalog.summary,
    .heading "Mapping Links",
    .table Catalog.linkHeaders (catalog.links.entries.map catalog.linkRow)]

def validate (session : Session) (path : String) : Job Unit :=
  timed "validate_command" do
    print session [.info ("Validating catalog: " ++ path)]
    let catalog ← loadCatalog path
    let engine ← buildEngine catalog .eager
    report [.catalogValidated engine.links.length]
    print session
      (if session.console.format = .human then validationItems engine.catalog
      else [.data (validationJson path engine)])

end Job

end Crosswalk
