import Crosswalk.Number.Binary64

/-!
# The fewest digits of a binary64 value

A decimal reads back to a value iff it lies between the midpoints to the two neighbours, the
midpoints themselves included when the significand is even.  For one digit, two digits and so on
up to seventeen the two decimals around the value are tried; the first that reads back is taken,
of two the nearer, and at a tie the one with the even last digit.
-/

set_option autoImplicit false

namespace Crosswalk

/-- `digits * 10 ^ power`. -/
structure Decimal where
  digits : Nat
  power : Int
  deriving DecidableEq, Repr

namespace Decimal

/-- Number of decimal digits; zero has none. -/
def length (n : Nat) : Nat :=
  if n = 0 then 0 else (Nat.toDigits 10 n).length

/-- Move trailing zeros of the digits into the power, at most `fuel` of them. -/
def dropZeros : Nat → Decimal → Decimal
  | 0, x => x
  | fuel + 1, x =>
    if x.digits % 10 = 0 ∧ x.digits ≠ 0 then
      dropZeros fuel ⟨x.digits / 10, x.power + 1⟩
    else
      x

end Decimal

namespace Binary64

/-- The interval of numbers that round to a value, in units of a quarter of its last place: the
lower end, the value and the upper end. -/
structure Neighbourhood where
  low : Nat
  middle : Nat
  high : Nat
  endsIncluded : Bool

def neighbourhood (x : Binary64) : Neighbourhood where
  low := 4 * x.significand - (if x.significand = leastFull ∧ -1074 < x.exponent then 1 else 2)
  middle := 4 * x.significand
  high := 4 * x.significand + 2
  endsIncluded := x.significand % 2 = 0

/-- The number of digits before the decimal point of a quotient; minus the number of zeros after
it when the quotient is below one. -/
def decimalScale (num den : Nat) : Int :=
  if den ≤ num then
    Decimal.length (num / den)
  else
    1 - (Decimal.length ((den - 1) / num) : Int)

/-- The decimal with its last digit at `10 ^ power` that reads back to the value, if there is
one. -/
def onGrid? (x : Binary64) (power : Int) : Option Decimal :=
  let near := x.neighbourhood
  let up := twoTo (x.exponent - 2).toNat * tenTo (-power).toNat
  let unit := twoTo (2 - x.exponent).toNat * tenTo power.toNat
  let readsBack (digits : Nat) : Bool :=
    if near.endsIncluded then
      near.low * up ≤ digits * unit && digits * unit ≤ near.high * up
    else
      near.low * up < digits * unit && digits * unit < near.high * up
  let below := near.middle * up / unit
  let above := below + 1
  match readsBack below, readsBack above with
  | true, false => some ⟨below, power⟩
  | false, true => some ⟨above, power⟩
  | true, true =>
    let twice := 2 * (near.middle * up)
    let middle := (below + above) * unit
    if twice < middle ∨ (twice = middle ∧ below % 2 = 0) then
      some ⟨below, power⟩
    else
      some ⟨above, power⟩
  | false, false => none

/-- The fewest digits that read back to a value that is not zero.  Seventeen always do. -/
def shortest (x : Binary64) : Decimal :=
  let scale := decimalScale x.fraction.1 x.fraction.2
  match (List.range 17).findSome? fun n => x.onGrid? (scale - (n + 1 : Nat)) with
  | some decimal => decimal.dropZeros 20
  | none => ⟨x.fraction.1, 0⟩

/-- How a float is laid out as text. -/
structure Layout where
  /-- What stands between the exponent mark and an exponent that is not negative. -/
  plusSign : List Char

/-- The text of a float: positional with at least one digit after the point when the first digit
stands between the fifth place after the point and the sixteenth before it, with an exponent
otherwise. -/
def toText (layout : Layout) (x : Binary64) : List Char :=
  let sign := if x.negative then ['-'] else []
  if x.isZero then
    sign ++ ['0', '.', '0']
  else
    let decimal := x.shortest
    let digits := Nat.toDigits 10 decimal.digits
    let leading : Int := digits.length + decimal.power - 1
    if -5 ≤ leading ∧ leading ≤ 15 then
      if 0 ≤ decimal.power then
        sign ++ digits ++ List.replicate decimal.power.toNat '0' ++ ['.', '0']
      else if 0 ≤ leading then
        sign ++ digits.take (leading.toNat + 1) ++ ['.'] ++ digits.drop (leading.toNat + 1)
      else
        sign ++ ['0', '.'] ++ List.replicate (-leading - 1).toNat '0' ++ digits
    else
      let mark :=
        if 0 ≤ leading then
          ['e'] ++ layout.plusSign ++ Nat.toDigits 10 leading.toNat
        else
          ['e', '-'] ++ Nat.toDigits 10 (-leading).toNat
      match digits with
      | [only] => sign ++ [only] ++ mark
      | first :: rest => sign ++ [first, '.'] ++ rest ++ mark
      | [] => sign ++ mark

end Binary64

end Crosswalk
