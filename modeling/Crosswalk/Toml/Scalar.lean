import Crosswalk.Coercion
import Crosswalk.Decoding.Outline

/-!
# Words of TOML

The values that are written without quotation marks and brackets: truth values, integers in four
bases, floats, dates and times.  Digits may be grouped by single underscores.
-/

set_option autoImplicit false

namespace Crosswalk.Toml

/-- The characters that words are made of. -/
def isWordChar (c : Char) : Bool :=
  c.isAlphanum || c = '_' || c = '+' || c = '-' || c = '.' || c = ':'

/-- Digits with their underscores taken out; every underscore has digits on both sides. -/
def ungroup? (isDigit : Char → Bool) : List Char → Option (List Char)
  | [] => none
  | [c] => if isDigit c then some [c] else none
  | c :: '_' :: rest =>
    if isDigit c then (ungroup? isDigit rest).map (c :: ·) else none
  | c :: next :: rest =>
    if isDigit c then (ungroup? isDigit (next :: rest)).map (c :: ·) else none

def isHexDigit (c : Char) : Bool :=
  c.isDigit || ('a' ≤ c && c ≤ 'f') || ('A' ≤ c && c ≤ 'F')

def isOctalDigit (c : Char) : Bool :=
  '0' ≤ c && c ≤ '7'

def isBinaryDigit (c : Char) : Bool :=
  c = '0' || c = '1'

def digitValue (c : Char) : Nat :=
  if c.isDigit then c.toNat - '0'.toNat else c.toLower.toNat - 'a'.toNat + 10

def digitsValue (base : Nat) (digits : List Char) : Nat :=
  digits.foldl (fun n c => n * base + digitValue c) 0

def isGroupedDigit (c : Char) : Bool :=
  c.isDigit || c = '_'

/-- Several digits do not start with a zero. -/
def hasPlainStart : List Char → Bool
  | '0' :: _ :: _ => false
  | _ => true

/-- The integer that a word spells; one of 64 bits with a sign. -/
def integer? (cs : List Char) : Option Int :=
  let based (base : Nat) (isDigit : Char → Bool) (cs : List Char) : Option Int :=
    (ungroup? isDigit cs).map fun digits => (digitsValue base digits : Int)
  let n? :=
    match cs with
    | '0' :: 'x' :: rest => based 16 isHexDigit rest
    | '0' :: 'o' :: rest => based 8 isOctalDigit rest
    | '0' :: 'b' :: rest => based 2 isBinaryDigit rest
    | cs =>
      let (negative, body) := Coercion.splitSign cs
      if hasPlainStart body then
        (based 10 Char.isDigit body).map fun n => if negative then -n else n
      else
        none
  n?.filter fitsSignedWord

/-- The float that a word spells: a fraction, an exponent or both after the whole part.  The
infinities and what is not a number are floats without a JSON number. -/
def float? (cs : List Char) : Option (Except Fault Number) :=
  let body := (Coercion.splitSign cs).2
  if body == ['i', 'n', 'f'] || body == ['n', 'a', 'n'] then
    some (.error .numberOutOfRange)
  else
    let whole := body.takeWhile isGroupedDigit
    let rest := body.drop whole.length
    let (fraction, rest) :=
      match rest with
      | '.' :: rest =>
        let digits := rest.takeWhile isGroupedDigit
        (some digits, rest.drop digits.length)
      | rest => (none, rest)
    let exponent :=
      match rest with
      | 'e' :: rest | 'E' :: rest => some (Coercion.splitSign rest).2
      | _ => none
    let grouped (digits : List Char) : Bool :=
      (ungroup? Char.isDigit digits).isSome
    if grouped whole && hasPlainStart whole && fraction.all grouped && exponent.all grouped
        && (fraction.isSome || exponent.isSome) && (rest.isEmpty || exponent.isSome) then
      match Coercion.readFloat? (cs.filter (· != '_')) with
      | some x => some (.ok (.float x))
      | none => some (.error .numberOutOfRange)
    else
      none

/-- A number of exactly two digits within bounds. -/
def twoDigits? (low high : Nat) : List Char → Option (List Char)
  | a :: b :: rest =>
    let n := digitValue a * 10 + digitValue b
    if a.isDigit && b.isDigit && low ≤ n && n ≤ high then some rest else none
  | _ => none

def expect? (c : Char) : List Char → Option (List Char)
  | d :: rest => if d = c then some rest else none
  | [] => none

def isLeapYear (year : Nat) : Bool :=
  year % 4 = 0 && (year % 100 != 0 || year % 400 = 0)

def daysInMonth (year month : Nat) : Nat :=
  if month = 2 then (if isLeapYear year then 29 else 28)
  else if month = 4 || month = 6 || month = 9 || month = 11 then 30
  else 31

/-- What follows a date. -/
def date? (cs : List Char) : Option (List Char) := do
  let year := cs.take 4
  if year.length = 4 && year.all Char.isDigit then
    let rest ← expect? '-' (cs.drop 4)
    let month := digitsValue 10 (rest.take 2)
    let rest ← twoDigits? 1 12 rest
    let rest ← expect? '-' rest
    twoDigits? 1 (daysInMonth (digitsValue 10 year) month) rest
  else
    none

/-- What follows a time of day. -/
def time? (cs : List Char) : Option (List Char) := do
  let rest ← twoDigits? 0 23 cs
  let rest ← expect? ':' rest
  let rest ← twoDigits? 0 59 rest
  let rest ← expect? ':' rest
  let rest ← twoDigits? 0 60 rest
  match rest with
  | '.' :: digits =>
    if digits.head?.any Char.isDigit then some (digits.dropWhile Char.isDigit) else none
  | rest => some rest

/-- What follows the distance from universal time. -/
def offset? (cs : List Char) : Option (List Char) :=
  match cs with
  | 'Z' :: rest | 'z' :: rest => some rest
  | '+' :: rest | '-' :: rest => do
    let rest ← twoDigits? 0 23 rest
    let rest ← expect? ':' rest
    twoDigits? 0 59 rest
  | rest => some rest

/-- A date, a time, or both with the letter T or a space between them. -/
def isDateTime (cs : List Char) : Bool :=
  match date? cs with
  | some [] => true
  | some (separator :: rest) =>
    (separator = 'T' || separator = 't' || separator = ' ')
      && ((time? rest).bind offset?) == some []
  | none => time? cs == some []

/-- Dates and times are no value of any setting; they stand for a record of their own kind. -/
def dateTimeOutline (cs : List Char) : Outline :=
  .object [(.ok "date-time", .string (.ok (String.ofList cs)))] .bracket

/-- The value of a word. -/
def word? (cs : List Char) : Option Outline :=
  if cs == ['t', 'r', 'u', 'e'] then some (.bool true)
  else if cs == ['f', 'a', 'l', 's', 'e'] then some (.bool false)
  else
    match (integer? cs).bind Number.ofInt?, float? cs with
    | some n, _ => some (.number (.ok n))
    | none, some x => some (.number x)
    | none, none => if isDateTime cs then some (dateTimeOutline cs) else none

end Crosswalk.Toml
