import Crosswalk.Json.Writer
import Crosswalk.Kind

/-!
# Conversion between kinds

A value is converted only when nothing is lost: an integer becomes a float if some float has
exactly its value, a float becomes an integer if it has no fraction and fits 64 bits with a sign,
and text has to spell a value of the kind.  Decimal text is rounded to the nearest float.
-/

set_option autoImplicit false

namespace Crosswalk

/-- A value that a field cannot hold: the kind wanted, the kind found and the value's text. -/
structure Mismatch where
  field : String
  expected : Kind
  found : String
  value : String
  deriving DecidableEq, Repr

namespace Mismatch

/-- The mismatch of a value with the kind of a field. -/
def ofValue (field : String) (expected : Kind) (value : Json) : Mismatch :=
  ⟨field, expected, Kind.describe value, value.compact⟩

def message (m : Mismatch) : String :=
  "Type mismatch for field '" ++ m.field ++ "': expected " ++ m.expected.name ++ ", found "
    ++ m.found ++ " (value: " ++ m.value ++ ")"

end Mismatch

namespace Coercion

/-! ## Numbers in text -/

/-- A sign, and the characters after it. -/
def splitSign : List Char → Bool × List Char
  | '+' :: rest => (false, rest)
  | '-' :: rest => (true, rest)
  | rest => (false, rest)

/-- The integer that text spells: digits after an optional sign. -/
def readInteger? (cs : List Char) : Option Int :=
  let (negative, digits) := splitSign cs
  if digits.isEmpty || !digits.all Char.isDigit then
    none
  else
    let magnitude : Int := Nat.ofDigitChars 10 digits 0
    let value := if negative then -magnitude else magnitude
    if fitsSignedWord value then some value else none

/-- The exponent at the end of a decimal: nothing, or a mark, an optional sign and digits. -/
def readPower? : List Char → Option Int
  | [] => some 0
  | mark :: rest =>
    if mark = 'e' || mark = 'E' then
      let (negative, digits) := splitSign rest
      if digits.isEmpty || !digits.all Char.isDigit then
        none
      else
        let size : Int := Nat.ofDigitChars 10 digits 0
        some (if negative then -size else size)
    else
      none

/-- The float nearest to the decimal that text spells.  Either part of the digits may be empty,
not both.  A decimal beyond the greatest float spells none, and neither do words such as `inf`. -/
def readFloat? (cs : List Char) : Option Binary64 :=
  let (negative, cs) := splitSign cs
  let whole := cs.takeWhile Char.isDigit
  let rest := cs.dropWhile Char.isDigit
  let (fraction, rest) :=
    match rest with
    | '.' :: rest => (rest.takeWhile Char.isDigit, rest.dropWhile Char.isDigit)
    | rest => ([], rest)
  if whole.isEmpty && fraction.isEmpty then
    none
  else
    (readPower? rest).bind fun power =>
      Binary64.ofDecimal? negative (Nat.ofDigitChars 10 (whole ++ fraction) 0)
        (power - fraction.length)

/-! ## Conversion to each kind -/

def toText : Json → String
  | .null => ""
  | .string s => s
  | value => value.compact

/-- The float with exactly the value of an integer. -/
def exactFloat? (n : Int) : Option Binary64 :=
  (Binary64.ofInt? n).filter fun x => x.toInt? == some n

def one : Binary64 :=
  ⟨false, leastFull, -52, by decide⟩

def toFloat? : Json → Option Binary64
  | .number (.integer n _) => exactFloat? n
  | .number (.float x) => some x
  | .string s => readFloat? (Text.trim s.toList)
  | .bool b => some (if b then one else Binary64.zero false)
  | _ => none

/-- The integer that a float is, if 64 bits hold it with a sign.  The greatest integer that they
hold is no float, so as one it is rounded up to the first that they do not hold. -/
def wordOfFloat? (x : Binary64) : Option Int := do
  let least ← Binary64.ofInt? (-(signedWordLimit : Int))
  let greatest ← Binary64.ofInt? (signedWordLimit - 1)
  if !x.isWhole || x.lt least || greatest.le x then
    none
  else
    some (cutToSignedWord x.truncate)

def wordOfNumber? (v : Number) : Option Int :=
  match v.signedWord? with
  | some n => some n
  | none => v.toFloat?.bind wordOfFloat?

def toInteger? : Json → Option Int
  | .number v => wordOfNumber? v
  | .string s => readInteger? (Text.trim s.toList)
  | .bool b => some (if b then 1 else 0)
  | _ => none

/-- The truth value of a float: that of one or of zero. -/
def flagOfFloat? (x : Binary64) : Option Bool :=
  if x.equals one then some true else if x.equals (Binary64.zero false) then some false else none

/-- The words for the two truth values. -/
def flagWords : List (String × Bool) :=
  [("true", true), ("yes", true), ("1", true), ("on", true),
    ("false", false), ("no", false), ("0", false), ("off", false)]

def toFlag? : Json → Option Bool
  | .bool b => some b
  | .string s => flagWords.lookup (String.ofList (Text.lowercase (Text.trim s.toList)))
  | .number v => v.toFloat?.bind flagOfFloat?
  | _ => none

def toList? : Json → Option Json
  | .array items => some (.array items)
  | _ => none

def toMapping? : Json → Option Json
  | .object members => some (.object members)
  | _ => none

/-- The value in another kind, if nothing is lost. -/
def convert? (kind : Kind) (value : Json) : Option Json :=
  match kind with
  | .string => some (.string (toText value))
  | .float => (toFloat? value).map fun x => .number (.float x)
  | .integer => ((toInteger? value).bind Number.ofInt?).map .number
  | .boolean => (toFlag? value).map .bool
  | .list => toList? value
  | .mapping => toMapping? value

/-- The value in the kind of a field. -/
def convert (field : String) (kind : Kind) (value : Json) : Except Mismatch Json :=
  match convert? kind value with
  | some converted => .ok converted
  | none => .error (.ofValue field kind value)

/-- A default in the kind of its field.  Null stays null. -/
def convertDefault (field : String) (kind : Kind) (default : Json) : Except Mismatch Json :=
  if default.isNull then .ok .null else convert field kind default

end Coercion

end Crosswalk
