/-!
# Integers of 64 bits

The limits of what 64 bits hold, with a sign and without.
-/

set_option autoImplicit false

namespace Crosswalk

/-- `2 ^ 64`, which is too great for 64 bits by one. -/
abbrev wordLimit : Nat :=
  0x10000000000000000

/-- `2 ^ 63`, which is too great for 64 bits with a sign by one. -/
abbrev signedWordLimit : Nat :=
  0x8000000000000000

/-- What 64 bits hold with a sign. -/
def fitsSignedWord (n : Int) : Bool :=
  -(signedWordLimit : Int) ≤ n && n < signedWordLimit

/-- The nearest integer that 64 bits hold with a sign. -/
def cutToSignedWord (n : Int) : Int :=
  max (-(signedWordLimit : Int)) (min n (signedWordLimit - 1))

end Crosswalk
