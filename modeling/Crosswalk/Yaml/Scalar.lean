import Crosswalk.Coercion
import Crosswalk.Decoding.Outline

/-!
# Plain scalars

What text without quotation marks means in YAML: null, a truth value, an integer in one of four
bases, a float, or the text itself.  Digits after a leading zero are text.
-/

set_option autoImplicit false

namespace Crosswalk.Yaml

def nullWords : List String :=
  ["", "~", "null", "Null", "NULL"]

def flagWords : List (String × Bool) :=
  [("true", true), ("True", true), ("TRUE", true), ("false", false), ("False", false),
    ("FALSE", false)]

/-- The words for infinities and for what is not a number, which have no JSON value. -/
def endlessWords : List String :=
  [".inf", ".Inf", ".INF", "+.inf", "+.Inf", "+.INF", "-.inf", "-.Inf", "-.INF", ".nan", ".NaN",
    ".NAN"]

/-- The value of a digit in any base up to sixteen. -/
def digitValue? (c : Char) : Option Nat :=
  if '0' ≤ c ∧ c ≤ '9' then some (c.toNat - '0'.toNat)
  else if 'a' ≤ c ∧ c ≤ 'f' then some (c.toNat - 'a'.toNat + 10)
  else if 'A' ≤ c ∧ c ≤ 'F' then some (c.toNat - 'A'.toNat + 10)
  else none

/-- The number that digits in a base spell, continuing a number. -/
def digitsFrom? (base : Nat) : Nat → List Char → Option Nat
  | value, [] => some value
  | value, c :: rest =>
    match digitValue? c with
    | some digit => if digit < base then digitsFrom? base (value * base + digit) rest else none
    | none => none

/-- The number that one or more digits in a base spell. -/
def digits? (base : Nat) (cs : List Char) : Option Nat :=
  if cs.isEmpty then none else digitsFrom? base 0 cs

/-- Several digits of which the first is a zero, after an optional sign. -/
def hasLeadingZero (cs : List Char) : Bool :=
  match (Coercion.splitSign cs).2 with
  | '0' :: c :: rest => (c :: rest).all Char.isDigit
  | _ => false

/-- The integer that a text spells. -/
def integer? (cs : List Char) : Option Int :=
  let (negative, body) := Coercion.splitSign cs
  let magnitude? :=
    match body with
    | '0' :: 'x' :: rest => digits? 16 rest
    | '0' :: 'o' :: rest => digits? 8 rest
    | '0' :: 'b' :: rest => digits? 2 rest
    | body => if hasLeadingZero body then none else digits? 10 body
  magnitude?.map fun magnitude => if negative then -(magnitude : Int) else magnitude

/-- The float that a text spells. -/
def float? (cs : List Char) : Option Binary64 :=
  match cs with
  | '+' :: '+' :: _ | '+' :: '-' :: _ => none
  | cs => if hasLeadingZero cs then none else Coercion.readFloat? cs

/-- What 128 bits hold, with a sign or without. -/
def isLongInteger (n : Int) : Bool :=
  -0x80000000000000000000000000000000 ≤ n && n < 0x100000000000000000000000000000000

/-- The value that a plain scalar means which is not null.  Integers between 64 and 128 bits have
none; greater ones are read as floats. -/
def valueMeant (s : String) : Except Fault Json :=
  let cs := s.toList
  if endlessWords.contains s then .ok .null
  else
    match flagWords.lookup s with
    | some b => .ok (.bool b)
    | none =>
      let float :=
        match float? cs with
        | some x => .ok (.number (.float x))
        | none => .ok (.string s)
      match integer? cs with
      | some n =>
        match Number.ofInt? n with
        | some n => .ok (.number n)
        | none =>
          if isLongInteger n then .error .numberOutOfRange else float
      | none => float

/-- The value that a plain scalar means, if it is not null. -/
def meaning (s : String) : Option (Except Fault Json) :=
  if nullWords.contains s then none else some (valueMeant s)

/-- Whether a plain scalar means its own text. -/
def meansItself (s : String) : Bool :=
  match meaning s with
  | some (.ok (.string _)) => true
  | _ => false

end Crosswalk.Yaml
