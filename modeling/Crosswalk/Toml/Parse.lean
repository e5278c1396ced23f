import Crosswalk.Decoding.Decoder
import Crosswalk.Toml.Reader

/-!
# Values of TOML texts
-/

set_option autoImplicit false

namespace Crosswalk.Toml

/-- Decode a text that is one document, whose nesting is no deeper than the text is long. -/
def decodeText {α : Type} (decode : Decoder α) (s : String) : Except DecodeError α :=
  match outline? s with
  | some o => decode ⟨s.length + 1, .withEmpty, .leading⟩ o
  | none => .error (.refused "not a TOML document")

end Crosswalk.Toml
