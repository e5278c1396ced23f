import Crosswalk.Decoding.Decoder
import Crosswalk.Yaml.Reader

/-!
# Values of YAML texts

A text that breaks the rules of YAML is refused without a reason or a place.  What decoders object
to is told in the same words as for JSON.
-/

set_option autoImplicit false

namespace Crosswalk.Yaml

/-- Lists and maps may be nested in each other up to this depth. -/
def nestingLimit : Nat :=
  128

/-- Decode a text that is one document. -/
def decodeText {α : Type} (decode : Decoder α) (s : String) : Except DecodeError α :=
  match outline? s with
  | some o => decode ⟨nestingLimit, .never, .never⟩ o
  | none => .error (.refused "not a YAML document")

/-- The value of a YAML text. -/
def parse (s : String) : Except DecodeError Json :=
  decodeText Decoder.any s

end Crosswalk.Yaml
