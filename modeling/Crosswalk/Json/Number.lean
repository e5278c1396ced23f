import Crosswalk.Number.Shortest
import Crosswalk.Number.Word

/-!
# JSON numbers

A number is an integer of 64 bits, with or without a sign, or a finite binary64 value; which of
the two it is shows in its text.  A number token without fraction and exponent is an integer if
it fits, except `-0`.  Any other token is read in two roundings: first its leading digits as far
as 64 bits hold them, then their product or quotient with a power of ten.
-/

set_option autoImplicit false

namespace Crosswalk

/-- What a signed or an unsigned integer of 64 bits can hold. -/
def FitsWord (n : Int) : Prop :=
  -(signedWordLimit : Int) ≤ n ∧ n < wordLimit

instance (n : Int) : Decidable (FitsWord n) :=
  inferInstanceAs (Decidable (_ ∧ _))

inductive Number where
  | integer (value : Int) (fits : FitsWord value)
  | float (value : Binary64)
  deriving DecidableEq

namespace Number

instance : Inhabited Number :=
  ⟨.integer 0 (by decide)⟩

/-- The integer as a number, if it fits. -/
def ofInt? (n : Int) : Option Number :=
  if h : FitsWord n then some (.integer n h) else none

def ofUInt64 (n : UInt64) : Number :=
  .integer n.toNat ⟨by omega, by have := n.toNat_lt; unfold wordLimit; omega⟩

/-- A count; one that takes more than 64 bits is written as the greatest number of them. -/
def ofNat (n : Nat) : Number :=
  if h : FitsWord n then .integer n h else .integer (wordLimit - 1 : Nat) (by decide)

/-- The integer that the number is, if it is written as one and 64 bits hold it with a sign. -/
def signedWord? : Number → Option Int
  | .integer n _ => if n < signedWordLimit then some n else none
  | .float _ => none

/-- The number as a float; an integer is rounded to the nearest one. -/
def toFloat? : Number → Option Binary64
  | .integer n _ => Binary64.ofInt? n
  | .float x => some x

/-- Floats are written with a sign in every exponent. -/
def layout : Binary64.Layout where
  plusSign := ['+']

def text : Number → List Char
  | .integer value _ => (toString value).toList
  | .float value => value.toText layout

end Number

/-- A number as it stands in a text: the digits of its three parts. -/
structure NumberToken where
  negative : Bool
  whole : List Char
  fraction : Option (List Char)
  /-- Whether the exponent has a minus sign, and its digits. -/
  exponent : Option (Bool × List Char)

namespace NumberToken

/-- Append digits to a significand as far as 64 bits hold it; the digits left are returned. -/
def gather : Nat → List Char → Nat × List Char
  | significand, [] => (significand, [])
  | significand, c :: rest =>
    let next := significand * 10 + (c.toNat - '0'.toNat)
    if next < wordLimit then gather next rest else (significand, c :: rest)

/-- The power of ten nearest to `10 ^ k`. -/
def powerOfTen? (k : Nat) : Option Binary64 :=
  Binary64.ofDecimal? false 1 k

/-- The greatest power of ten that a binary64 value reaches. -/
def greatestPower : Nat :=
  308

/-- Divide by `10 ^ k`, by the greatest power of ten at a time until the rest fits or nothing is
left.  The first argument bounds the number of divisions. -/
def scaleDown : Nat → Binary64 → Nat → Option Binary64
  | 0, x, _ => some x
  | bound + 1, x, k =>
    if k ≤ greatestPower then
      (powerOfTen? k).bind x.div?
    else if x.isZero then
      some x
    else
      ((powerOfTen? greatestPower).bind x.div?).bind fun smaller =>
        scaleDown bound smaller (k - greatestPower)

/-- The product of a significand and a power of ten, either rounded; `none` beyond the greatest
finite value. -/
def scale (significand : Nat) (power : Int) : Option Binary64 :=
  match Binary64.ofInt? significand with
  | none => none
  | some x =>
    if power < 0 then
      scaleDown (power.natAbs / greatestPower + 1) x power.natAbs
    else if power ≤ greatestPower then
      (powerOfTen? power.toNat).bind x.mul?
    else if x.isZero then
      some x
    else
      none

/-- The number that a token stands for; `none` if it is out of range. -/
def value? (token : NumberToken) : Option Number :=
  let (significand, left) := gather 0 token.whole
  let signed (x : Binary64) : Number := .float (if token.negative then x.neg else x)
  match token.fraction, token.exponent with
  | none, none =>
    let integer? :=
      if left = [] then
        if token.negative then
          if significand = 0 ∨ signedWordLimit < significand then none
          else Number.ofInt? (-(significand : Int))
        else
          Number.ofInt? significand
      else
        none
    match integer? with
    | some number => some number
    | none => (scale significand left.length).map signed
  | fraction, exponent =>
    let digits := fraction.getD []
    let (significand, unread) := gather significand digits
    let written : Int :=
      match exponent with
      | none => 0
      | some (minus, digits) =>
        let size : Int := Nat.ofDigitChars 10 digits 0
        if minus then -size else size
    let power := left.length - ((digits.length : Int) - unread.length) + written
    (scale significand power).map signed

end NumberToken

end Crosswalk
