import Crosswalk.Coercion

/-!
# Catalog entries

The four sorts of entries of a catalog.  Every entry has an identifier; fields are known by their
name as well, and masks by the mask that they name.
-/

set_option autoImplicit false

namespace Crosswalk

/-- Identifier of an entry in its table. -/
abbrev EntryId :=
  UInt64

/-- A field of the input records. -/
structure SourceField where
  id : EntryId
  name : String
  /-- The expression for the path to the value. -/
  path : String
  kind : Kind
  required : Bool
  deriving DecidableEq

/-- A field of the output records, which are flat: the path is for information only. -/
structure DestinationField where
  id : EntryId
  name : String
  path : String
  kind : Kind
  default : Json
  deriving DecidableEq

/-- A use of a mask. -/
structure MaskUse where
  id : EntryId
  mask : String
  deriving DecidableEq

/-- A rule: the value of a source field, under a mask or not, goes into a destination field. -/
structure Link where
  id : EntryId
  source : EntryId
  destination : EntryId
  maskUse : Option EntryId
  deriving DecidableEq

/-- The path expression of a member at the top of a record. -/
def memberPath (name : String) : String :=
  "$." ++ name

namespace SourceField

/-- A field that is read from the member of its name. -/
def ofName (id : EntryId) (name : String) (kind : Kind) (required : Bool) : SourceField :=
  ⟨id, name, memberPath name, kind, required⟩

def withPath (field : SourceField) (path : String) : SourceField :=
  { field with path }

end SourceField

/-- A field that is written to the member of its name. -/
def DestinationField.ofName (id : EntryId) (name : String) (kind : Kind) (default : Json) :
    DestinationField :=
  ⟨id, name, memberPath name, kind, default⟩

namespace Link

/-- A rule without a mask. -/
def plain (id source destination : EntryId) : Link :=
  ⟨id, source, destination, none⟩

def withMask (link : Link) (maskUse : EntryId) : Link :=
  { link with maskUse := some maskUse }

end Link

/-- The four tables of a catalog. -/
inductive TableName where
  | source
  | destination
  | transform
  | mapping
  deriving DecidableEq, Repr

def TableName.text : TableName → String
  | .source => "source"
  | .destination => "destination"
  | .transform => "transform"
  | .mapping => "mapping"

/-- What can be kept in a table of a catalog. -/
class Entry (α : Type) where
  table : TableName
  /-- Whether no two entries may share what they are known by. -/
  uniqueField : Bool
  id : α → EntryId
  /-- What the entry is known by apart from its identifier. -/
  field? : α → Option String

instance : Entry SourceField where
  table := .source
  uniqueField := true
  id := SourceField.id
  field? field := some field.name

instance : Entry DestinationField where
  table := .destination
  uniqueField := true
  id := DestinationField.id
  field? field := some field.name

instance : Entry MaskUse where
  table := .transform
  uniqueField := false
  id := MaskUse.id
  field? use := some use.mask

instance : Entry Link where
  table := .mapping
  uniqueField := false
  id := Link.id
  field? _ := none

end Crosswalk
