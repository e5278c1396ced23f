/-!
# Binary floating-point numbers

A finite binary64 value is a sign, a significand of at most 53 bits and a power of two, in the
one form that is canonical for its magnitude.  All operations are exact integer arithmetic
followed by one rounding to nearest, ties to even.
-/

set_option autoImplicit false

namespace Crosswalk

/-- `2 ^ k`. -/
def twoTo (k : Nat) : Nat :=
  Nat.pow 2 k

/-- `10 ^ k`. -/
def tenTo (k : Nat) : Nat :=
  Nat.pow 10 k

/-- `2 ^ 52`, the least significand that fills its bits. -/
abbrev leastFull : Nat :=
  0x10000000000000

/-- `2 ^ 53`, too great for a significand by one. -/
abbrev significandLimit : Nat :=
  0x20000000000000

/-- The significand fills its 53 bits, or the exponent is the least one. -/
def CanonicalBinary64 (significand : Nat) (exponent : Int) : Prop :=
  significand < significandLimit ∧ -1074 ≤ exponent ∧ exponent ≤ 971 ∧
    (leastFull ≤ significand ∨ exponent = -1074)

instance (significand : Nat) (exponent : Int) :
    Decidable (CanonicalBinary64 significand exponent) :=
  inferInstanceAs (Decidable (_ ∧ _))

/-- A finite binary64 value: `significand * 2 ^ exponent`, with a sign that zero has too. -/
structure Binary64 where
  negative : Bool
  significand : Nat
  exponent : Int
  canonical : CanonicalBinary64 significand exponent
  deriving DecidableEq

namespace Binary64

def zero (negative : Bool) : Binary64 :=
  ⟨negative, 0, -1074, by decide⟩

instance : Inhabited Binary64 :=
  ⟨zero false⟩

def isZero (x : Binary64) : Bool :=
  x.significand == 0

/-- The value with the parts given, if they are canonical. -/
def ofParts? (negative : Bool) (significand : Nat) (exponent : Int) : Option Binary64 :=
  if h : CanonicalBinary64 significand exponent then
    some ⟨negative, significand, exponent, h⟩
  else
    none

/-- The nearest natural number to a quotient; a tie goes to the even one. -/
def roundQuotient (num den : Nat) : Nat :=
  let below := num / den
  let rest := num % den
  if 2 * rest < den ∨ (2 * rest = den ∧ below % 2 = 0) then below else below + 1

/-- The greatest `k` with `2 ^ k ≤ num / den`, for positive `num` and `den`. -/
def floorLog2 (num den : Nat) : Int :=
  let estimate : Int := (num.log2 : Int) - (den.log2 : Int)
  if den * twoTo estimate.toNat ≤ num * twoTo (-estimate).toNat then estimate else estimate - 1

/-- The binary64 value nearest to a quotient, ties to even; `none` if it lies beyond the greatest
finite value. -/
def round? (negative : Bool) (num den : Nat) : Option Binary64 :=
  if num = 0 then
    some (zero negative)
  else
    let exponent := max (-1074) (floorLog2 num den - 52)
    let significand :=
      roundQuotient (num * twoTo (-exponent).toNat) (den * twoTo exponent.toNat)
    if significand = significandLimit then
      ofParts? negative leastFull (exponent + 1)
    else
      ofParts? negative significand exponent

/-- Numerator and denominator of the magnitude. -/
def fraction (x : Binary64) : Nat × Nat :=
  (x.significand * twoTo x.exponent.toNat, twoTo (-x.exponent).toNat)

def neg (x : Binary64) : Binary64 :=
  { x with negative := !x.negative }

def mul? (x y : Binary64) : Option Binary64 :=
  round? (x.negative != y.negative)
    (x.fraction.1 * y.fraction.1) (x.fraction.2 * y.fraction.2)

/-- Quotient of a value by one that is not zero. -/
def div? (x y : Binary64) : Option Binary64 :=
  round? (x.negative != y.negative)
    (x.fraction.1 * y.fraction.2) (x.fraction.2 * y.fraction.1)

/-- The nearest value to an integer. -/
def ofInt? (n : Int) : Option Binary64 :=
  round? (n < 0) n.natAbs 1

/-- The numerator with the sign of the value. -/
def numerator (x : Binary64) : Int :=
  if x.negative then -(x.fraction.1 : Int) else x.fraction.1

/-! Values are compared, so that the two zeros are equal. -/

def lt (x y : Binary64) : Bool :=
  x.numerator * y.fraction.2 < y.numerator * x.fraction.2

def le (x y : Binary64) : Bool :=
  x.numerator * y.fraction.2 ≤ y.numerator * x.fraction.2

def equals (x y : Binary64) : Bool :=
  x.numerator * y.fraction.2 == y.numerator * x.fraction.2

/-- The value has no fraction. -/
def isWhole (x : Binary64) : Bool :=
  x.fraction.1 % x.fraction.2 == 0

/-- The integer that the value is without its fraction. -/
def truncate (x : Binary64) : Int :=
  let size := x.fraction.1 / x.fraction.2
  if x.negative then -(size : Int) else size

/-- The integer that the value is, if it is one. -/
def toInt? (x : Binary64) : Option Int :=
  if x.isWhole then some x.truncate else none

/-- The value nearest to `digits * 10 ^ power`; `none` if it lies beyond the greatest finite
value.  Magnitudes that are out of reach either way are told by their number of digits. -/
def ofDecimal? (negative : Bool) (digits : Nat) (power : Int) : Option Binary64 :=
  if digits = 0 then
    some (zero negative)
  else
    let places : Int := (Nat.toDigits 10 digits).length
    if 400 < places + power then
      none
    else if places + power < -400 then
      some (zero negative)
    else
      round? negative (digits * tenTo power.toNat) (tenTo (-power).toNat)

end Binary64

end Crosswalk
