import Crosswalk.Decoding.Decoder
import Crosswalk.Json.Reader

/-!
# Values of JSON texts

A text holds one value and nothing else.
-/

set_option autoImplicit false

namespace Crosswalk.Json

/-- Lists and objects may be nested in each other up to this depth. -/
def nestingLimit : Nat :=
  127

/-- Decode a text that holds one value and nothing else. -/
def decodeText {α : Type} (decode : Decoder α) (s : String) : Except DecodeError α :=
  let (o, more) := outline s.toList
  match decode ⟨nestingLimit, .withNull, .exact⟩ o with
  | .error e => .error e
  | .ok value => if more then .error (.unreadable .trailingCharacters) else .ok value

/-- The value of a JSON text. -/
def parse (s : String) : Except DecodeError Json :=
  decodeText Decoder.any s

end Crosswalk.Json
