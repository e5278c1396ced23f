import Crosswalk.Catalog.Codec
import Crosswalk.Files.Tree
import Crosswalk.Yaml.Parse

/-!
# Catalog files

A catalog is written as JSON, or as YAML if the extension of its file says so.
-/

set_option autoImplicit false

namespace Crosswalk

inductive CatalogFormat where
  | json
  | yaml
  deriving DecidableEq, Repr

/-- The format that the extension of a path stands for. -/
def CatalogFormat.ofPath (path : String) : CatalogFormat :=
  match Files.extension? path with
  | some "yaml" | some "yml" => .yaml
  | _ => .json

namespace Catalog

/-- The catalog of a YAML text. -/
def ofYaml (text : String) : Except Error Catalog :=
  match Yaml.decodeText Document.decoder text with
  | .ok document => ofDocument document
  | .error e => .error (.catalog (.malformed e.message))

/-- The catalog of a text. -/
def ofText (format : CatalogFormat) (text : String) : Except Error Catalog :=
  match format with
  | .json => ofJson text
  | .yaml => ofYaml text

/-- The text of a catalog file. -/
def readText (tree : Files.Tree) (path : String) : Except Error String :=
  (tree.read path).mapError fun e =>
    .io ("failed to read catalog " ++ path ++ ": " ++ e.message)

end Catalog

end Crosswalk
