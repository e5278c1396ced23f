import Crosswalk.Catalog.Entry
import Crosswalk.Decoding.Decoder
import Crosswalk.Path.Parser

/-!
# Errors

Why a catalog is refused and why a record fails.  Errors of the record level concern one record;
errors of the catalog level would fail every record alike.
-/

set_option autoImplicit false

namespace Crosswalk

/-- The ways in which a catalog is broken. -/
inductive CatalogFault where
  | unknownKind (keyword : String)
  | duplicateId (table : TableName) (id : EntryId)
  | duplicateName (table : TableName) (id : EntryId) (name : String)
  | unknownSource (link : EntryId) (source : EntryId)
  | unknownDestination (link : EntryId) (destination : EntryId)
  | unknownMaskUse (link : EntryId) (maskUse : EntryId)
  | uncompiledPath (source : EntryId) (name : String)
  /-- A default that its field cannot hold. -/
  | badDefault (kind : Kind) (default : Json) (mismatch : Mismatch)
  | malformed (reason : String)
  /-- A fault in other words, maybe of one entry of a table.  Whoever uses the library can state
  faults of a catalog that the library itself does not look for. -/
  | stated (message : String) (entry : Option (String × Nat))
  deriving DecidableEq

namespace CatalogFault

def message : CatalogFault → String
  | .unknownKind keyword =>
    "unknown type keyword '" ++ keyword ++ "' (expected one of: "
      ++ ", ".intercalate (Kind.all.map Kind.keyword) ++ ")"
  | .duplicateId table id =>
    "duplicate id " ++ toString id.toNat ++ " in " ++ table.text ++ " table"
  | .duplicateName table _ name =>
    "duplicate field name '" ++ name ++ "' in " ++ table.text ++ " table"
  | .unknownSource link source =>
    "mapping link " ++ toString link.toNat ++ " references unknown source field id "
      ++ toString source.toNat
  | .unknownDestination link destination =>
    "mapping link " ++ toString link.toNat ++ " references unknown destination field id "
      ++ toString destination.toNat
  | .unknownMaskUse link maskUse =>
    "mapping link " ++ toString link.toNat ++ " references unknown transform id "
      ++ toString maskUse.toNat
  | .uncompiledPath _ name => "source field '" ++ name ++ "' has no compiled path"
  | .badDefault kind default mismatch =>
    "default value " ++ default.compact ++ " of destination field '" ++ mismatch.field
      ++ "' cannot be converted to " ++ kind.name ++ ": " ++ mismatch.message
  | .malformed reason => "malformed catalog document: " ++ reason
  | .stated message _ => message

/-- An entry of a table, as messages name it. -/
def entryText (table : String) (id : Nat) : String :=
  table ++ "#" ++ toString id

/-- What the fault is about, if it is about one thing. -/
def entity? : CatalogFault → Option String
  | .unknownKind _ => none
  | .duplicateId table id => some (entryText table.text id.toNat)
  | .duplicateName table id _ => some (entryText table.text id.toNat)
  | .unknownSource link _ => some (entryText TableName.mapping.text link.toNat)
  | .unknownDestination link _ => some (entryText TableName.mapping.text link.toNat)
  | .unknownMaskUse link _ => some (entryText TableName.mapping.text link.toNat)
  | .uncompiledPath source _ => some (entryText TableName.source.text source.toNat)
  | .badDefault _ _ mismatch => some mismatch.field
  | .malformed _ => none
  | .stated _ entry => entry.map fun (table, id) => entryText table id

end CatalogFault

/-- Everything that can go wrong between a catalog's text and an output record. -/
inductive Error where
  | catalog (fault : CatalogFault)
  | missingField (field : String) (path : String)
  | mismatch (cause : Mismatch)
  | unknownMask (mask : String) (available : List String)
  | invalidPath (path : String) (fault : PathFault)
  | json (cause : DecodeError)
  | yaml (cause : DecodeError)
  | io (message : String)
  deriving DecidableEq

namespace Error

def message : Error → String
  | .catalog fault => "Catalog error: " ++ fault.message
  | .missingField field path =>
    "Missing required field: '" ++ field ++ "' is not present in the input record (path "
      ++ path ++ ")"
  | .mismatch cause => cause.message
  | .unknownMask mask available =>
    "Unknown transform mask '" ++ mask ++ "'; select one of the available masks: "
      ++ ", ".intercalate available
  | .invalidPath path fault => "Invalid path expression '" ++ path ++ "': " ++ fault.message
  | .json cause => "JSON error: " ++ cause.message
  | .yaml cause => "YAML error: " ++ cause.message
  | .io message => "IO error: " ++ message

/-- The short name of the class of the error. -/
def className : Error → String
  | .catalog _ => "catalog"
  | .missingField _ _ => "missing_required_field"
  | .mismatch _ => "type_mismatch"
  | .unknownMask _ _ => "unknown_transform"
  | .invalidPath _ _ => "invalid_path"
  | .json _ => "json"
  | .yaml _ => "yaml"
  | .io _ => "io"

/-- The error concerns one record only. -/
def isRecordLevel : Error → Bool
  | .missingField _ _ | .mismatch _ => true
  | _ => false

/-- The error lies in the catalog or the registry and fails every record. -/
def isCatalogLevel : Error → Bool
  | .catalog _ | .unknownMask _ _ | .invalidPath _ _ => true
  | _ => false

end Error

/-- The kind that a keyword names. -/
def Kind.ofKeyword (s : String) : Except CatalogFault Kind :=
  match Kind.ofKeyword? s with
  | some kind => .ok kind
  | none => .error (.unknownKind (Kind.normalize s))

end Crosswalk
