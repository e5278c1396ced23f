/-!
# Points in time

Seconds and nanoseconds since the start of 1970 in universal time.  They are written as date and
time of day, with as many groups of three fractional digits as are needed.
-/

set_option autoImplicit false

namespace Crosswalk

structure Timestamp where
  /-- Whole seconds, negative before 1970. -/
  seconds : Int
  nanoseconds : Nat
  deriving DecidableEq, Repr

namespace Timestamp

def secondsPerDay : Nat :=
  86400

/-- The number of days from the start of 1970 to a day of the calendar.  Years are counted from
March, so that a leap day is the last day of its year. -/
def daysFromDate (year : Int) (month day : Nat) : Int :=
  let y := if month ≤ 2 then year - 1 else year
  let era := y / 400
  let yearOfEra := y - era * 400
  let monthFromMarch : Int := (month + 9) % 12
  let dayOfYear := (153 * monthFromMarch + 2) / 5 + day - 1
  let dayOfEra := yearOfEra * 365 + yearOfEra / 4 - yearOfEra / 100 + dayOfYear
  era * 146097 + dayOfEra - 719468

/-- The day of the calendar that is a number of days after the start of 1970: year, month, day. -/
def dateFromDays (days : Int) : Int × Nat × Nat :=
  let z := days + 719468
  let era := z / 146097
  let dayOfEra := z - era * 146097
  let yearOfEra := (dayOfEra - dayOfEra / 1460 + dayOfEra / 36524 - dayOfEra / 146096) / 365
  let dayOfYear := dayOfEra - (365 * yearOfEra + yearOfEra / 4 - yearOfEra / 100)
  let monthFromMarch := (5 * dayOfYear + 2) / 153
  let day := dayOfYear - (153 * monthFromMarch + 2) / 5 + 1
  let month := if monthFromMarch < 10 then monthFromMarch + 3 else monthFromMarch - 9
  let year := yearOfEra + era * 400 + if month ≤ 2 then 1 else 0
  (year, month.toNat, day.toNat)

/-! ## Writing -/

/-- A number with zeros before it up to a width. -/
def padded (width n : Nat) : String :=
  let digits := (toString n).toList
  String.ofList (List.replicate (width - digits.length) '0' ++ digits)

/-- Years beyond four digits have a sign. -/
def yearText (year : Int) : String :=
  if 0 ≤ year ∧ year ≤ 9999 then padded 4 year.toNat
  else if year < 0 then "-" ++ padded 4 year.natAbs
  else "+" ++ toString year

def fractionText (nanoseconds : Nat) : String :=
  if nanoseconds = 0 then ""
  else if nanoseconds % 1000000 = 0 then "." ++ padded 3 (nanoseconds / 1000000)
  else if nanoseconds % 1000 = 0 then "." ++ padded 6 (nanoseconds / 1000)
  else "." ++ padded 9 nanoseconds

/-- Date and time of day, without the zone. -/
def dateTimeText (t : Timestamp) : String :=
  let days := t.seconds / secondsPerDay
  let second := (t.seconds - days * secondsPerDay).toNat
  let (year, month, day) := dateFromDays days
  yearText year ++ "-" ++ padded 2 month ++ "-" ++ padded 2 day ++ "T"
    ++ padded 2 (second / 3600) ++ ":" ++ padded 2 (second / 60 % 60) ++ ":"
    ++ padded 2 (second % 60) ++ fractionText t.nanoseconds

/-- The form for readers, with the zone as a distance. -/
def humanText (t : Timestamp) : String :=
  t.dateTimeText ++ "+00:00"

/-- The form for data. -/
def text (t : Timestamp) : String :=
  t.dateTimeText ++ "Z"

/-! ## Reading -/

/-- The number that exactly the given count of digits spells, and the rest. -/
def readDigits (count : Nat) (cs : List Char) : Option (Nat × List Char) :=
  let digits := cs.take count
  if digits.length = count && digits.all Char.isDigit then
    some (Nat.ofDigitChars 10 digits 0, cs.drop count)
  else
    none

def readChar (choices : List Char) : List Char → Option (List Char)
  | c :: rest => if choices.contains c then some rest else none
  | [] => none

/-- Nanoseconds from the digits after a point; digits beyond the ninth are dropped. -/
def readFraction (cs : List Char) : Option (Nat × List Char) :=
  match cs with
  | '.' :: rest =>
    let digits := rest.takeWhile Char.isDigit
    if digits.isEmpty then
      none
    else
      let nine := (digits ++ List.replicate 9 '0').take 9
      some (Nat.ofDigitChars 10 nine 0, rest.drop digits.length)
  | cs => some (0, cs)

/-- The distance of a zone from universal time, in seconds. -/
def readZone (cs : List Char) : Option Int :=
  match cs with
  | ['Z'] | ['z'] => some 0
  | sign :: rest => do
    let (hours, rest) ← readDigits 2 rest
    let rest ← readChar [':'] rest
    let (minutes, rest) ← readDigits 2 rest
    let size : Int := hours * 3600 + minutes * 60
    if rest.isEmpty && hours < 24 && minutes < 60 then
      if sign = '+' then some size else if sign = '-' then some (-size) else none
    else
      none
  | [] => none

/-- The point in time that a date, a time of day and a zone name. -/
def ofText? (s : String) : Option Timestamp := do
  let (year, rest) ← readDigits 4 s.toList
  let (month, rest) ← readDigits 2 (← readChar ['-'] rest)
  let (day, rest) ← readDigits 2 (← readChar ['-'] rest)
  let (hour, rest) ← readDigits 2 (← readChar ['T', 't', ' '] rest)
  let (minute, rest) ← readDigits 2 (← readChar [':'] rest)
  let (second, rest) ← readDigits 2 (← readChar [':'] rest)
  let (nanoseconds, rest) ← readFraction rest
  let zone ← readZone rest
  let days := daysFromDate year month day
  if dateFromDays days = ((year : Int), month, day) ∧ hour < 24 ∧ minute < 60 ∧ second < 60 then
    let ofDay : Int := hour * 3600 + minute * 60 + second
    some ⟨days * secondsPerDay + ofDay - zone, nanoseconds⟩
  else
    none

end Timestamp

end Crosswalk
