import Crosswalk.Catalog.Basic
import Crosswalk.Json.Parse

/-!
# Catalog documents

The written form of catalogs.  Fields that may be left out are the flag of a source field, the
default of a destination field, the mask of a link and the list of masks; unknown fields are
passed over.  A link without a mask is written without the field.
-/

set_option autoImplicit false

namespace Crosswalk

def Kind.decoder : Decoder Kind :=
  fun rules o =>
    match Decoder.text rules o with
    | .error e => .error e
    | .ok s =>
      match Kind.ofKeyword s with
      | .ok kind => .ok kind
      | .error fault => .error (.refused (Error.catalog fault).message)

namespace SourceField

def shape : RecordShape where
  title := "SourceFieldDef"
  fieldNames :=
    ["id", "source_field_name", "source_field_mapping", "source_field_type", "is_required"]

def decoder : Decoder SourceField :=
  shape.decode fun parts rules =>
    SourceField.mk
      <$> shape.required parts rules 0 "id" Decoder.word
      <*> shape.required parts rules 1 "source_field_name" Decoder.text
      <*> shape.required parts rules 2 "source_field_mapping" Decoder.text
      <*> shape.required parts rules 3 "source_field_type" Kind.decoder
      <*> RecordShape.defaulted parts rules 4 "is_required" Decoder.flag false

def toJson (field : SourceField) : Json :=
  .object
    [("id", .ofUInt64 field.id),
      ("source_field_name", .string field.name),
      ("source_field_mapping", .string field.path),
      ("source_field_type", .string field.kind.keyword),
      ("is_required", .bool field.required)]

end SourceField

namespace DestinationField

def shape : RecordShape where
  title := "DestinationFieldDef"
  fieldNames :=
    ["id", "destination_field_name", "destination_field_mapping", "destination_field_type",
      "default_value"]

def decoder : Decoder DestinationField :=
  shape.decode fun parts rules =>
    DestinationField.mk
      <$> shape.required parts rules 0 "id" Decoder.word
      <*> shape.required parts rules 1 "destination_field_name" Decoder.text
      <*> shape.required parts rules 2 "destination_field_mapping" Decoder.text
      <*> shape.required parts rules 3 "destination_field_type" Kind.decoder
      <*> RecordShape.defaulted parts rules 4 "default_value" Decoder.any .null

def toJson (field : DestinationField) : Json :=
  .object
    [("id", .ofUInt64 field.id),
      ("destination_field_name", .string field.name),
      ("destination_field_mapping", .string field.path),
      ("destination_field_type", .string field.kind.keyword),
      ("default_value", field.default)]

end DestinationField

namespace MaskUse

def shape : RecordShape where
  title := "TransformDef"
  fieldNames := ["id", "transform_mask"]

def decoder : Decoder MaskUse :=
  shape.decode fun parts rules =>
    MaskUse.mk
      <$> shape.required parts rules 0 "id" Decoder.word
      <*> shape.required parts rules 1 "transform_mask" Decoder.text

def toJson (use : MaskUse) : Json :=
  .object [("id", .ofUInt64 use.id), ("transform_mask", .string use.mask)]

end MaskUse

namespace Link

def shape : RecordShape where
  title := "MappingLink"
  fieldNames := ["id", "mapping_source", "mapping_destination", "mapping_transform"]

def decoder : Decoder Link :=
  shape.decode fun parts rules =>
    Link.mk
      <$> shape.required parts rules 0 "id" Decoder.word
      <*> shape.required parts rules 1 "mapping_source" Decoder.word
      <*> shape.required parts rules 2 "mapping_destination" Decoder.word
      <*> RecordShape.defaulted parts rules 3 "mapping_transform" (Decoder.option Decoder.word)
        none

def toJson (link : Link) : Json :=
  .object
    ([("id", .ofUInt64 link.id),
      ("mapping_source", .ofUInt64 link.source),
      ("mapping_destination", .ofUInt64 link.destination)]
      ++ (link.maskUse.map fun id => ("mapping_transform", Json.ofUInt64 id)).toList)

end Link

namespace Document

def shape : RecordShape where
  title := "CatalogDocument"
  fieldNames := ["source", "destination", "transform", "mapping"]

def decoder : Decoder Document :=
  shape.decode fun parts rules =>
    Document.mk
      <$> shape.required parts rules 0 "source" (Decoder.list SourceField.decoder)
      <*> shape.required parts rules 1 "destination" (Decoder.list DestinationField.decoder)
      <*> RecordShape.defaulted parts rules 2 "transform" (Decoder.list MaskUse.decoder) []
      <*> shape.required parts rules 3 "mapping" (Decoder.list Link.decoder)

def toJson (document : Document) : Json :=
  .object
    [("source", .array (document.sources.map SourceField.toJson)),
      ("destination", .array (document.destinations.map DestinationField.toJson)),
      ("transform", .array (document.maskUses.map MaskUse.toJson)),
      ("mapping", .array (document.links.map Link.toJson))]

end Document

namespace Catalog

/-- The catalog of a JSON text. -/
def ofJson (text : String) : Except Error Catalog :=
  match Json.decodeText Document.decoder text with
  | .ok document => ofDocument document
  | .error e => .error (.catalog (.malformed e.message))

end Catalog

end Crosswalk
