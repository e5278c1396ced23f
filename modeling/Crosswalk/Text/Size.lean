/-!
# The size of text

The number of bytes that characters take in UTF-8.
-/

set_option autoImplicit false

namespace Crosswalk.Text

def byteLength : List Char → Nat
  | [] => 0
  | c :: rest => c.utf8Size + byteLength rest

end Crosswalk.Text
