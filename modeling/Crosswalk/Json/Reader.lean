import Crosswalk.Decoding.Outline
import Crosswalk.Text.Size

/-!
# Reading JSON text

A reader of JSON that turns every text into an outline.  It goes on past numbers out of range and
unpaired surrogates, which are faults only where their value is wanted, and ends at the first
character that no JSON text has in its place.
-/

set_option autoImplicit false

namespace Crosswalk.Json

/-- Blanks between tokens. -/
def isSpace (c : Char) : Bool :=
  c = ' ' || c = '\n' || c = '\t' || c = '\r'

def skipSpace (cs : List Char) : List Char :=
  cs.dropWhile isSpace

/-! ## Words and numbers -/

/-- The text after a word. -/
def readWord : List Char → List Char → Except Stop (List Char)
  | [], cs => .ok cs
  | _ :: _, [] => .error (.plain .endInValue)
  | expected :: word, c :: cs =>
    if expected = c then readWord word cs else .error (.plain .expectedWord)

/-- The stop of a number that lacks a digit before the given text. -/
def missingDigit (rest : List Char) : Stop :=
  match rest with
  | [] => ⟨.endInValue, .invalidNumber⟩
  | _ :: _ => .plain .invalidNumber

/-- The digits of the whole part; only a lone zero starts with a zero. -/
def readWhole (cs : List Char) : Except Stop (List Char × List Char) :=
  let digits := cs.takeWhile Char.isDigit
  let rest := cs.dropWhile Char.isDigit
  match digits with
  | [] => .error (missingDigit cs)
  | '0' :: _ :: _ => .error (.plain .invalidNumber)
  | digits => .ok (digits, rest)

def readFraction (cs : List Char) : Except Stop (Option (List Char) × List Char) :=
  match cs with
  | '.' :: rest =>
    match rest.takeWhile Char.isDigit with
    | [] => .error (missingDigit rest)
    | digits => .ok (some digits, rest.dropWhile Char.isDigit)
  | rest => .ok (none, rest)

/-- An optional sign, and whether it is a minus. -/
def readSign (cs : List Char) : Bool × List Char :=
  match cs with
  | '+' :: rest => (false, rest)
  | '-' :: rest => (true, rest)
  | rest => (false, rest)

def readExponent (cs : List Char) : Except Stop (Option (Bool × List Char) × List Char) :=
  let read (rest : List Char) :=
    let (minus, rest) := readSign rest
    match rest.takeWhile Char.isDigit with
    | [] => .error (missingDigit rest)
    | digits => .ok (some (minus, digits), rest.dropWhile Char.isDigit)
  match cs with
  | 'e' :: rest => read rest
  | 'E' :: rest => read rest
  | rest => .ok (none, rest)

/-- A number token and the text after it. -/
def readNumber (cs : List Char) : Except Stop (NumberToken × List Char) := do
  let (negative, cs) :=
    match cs with
    | '-' :: rest => (true, rest)
    | rest => (false, rest)
  let (whole, cs) ← readWhole cs
  let (fraction, cs) ← readFraction cs
  let (exponent, cs) ← readExponent cs
  pure (⟨negative, whole, fraction, exponent⟩, cs)

/-! ## Strings -/

/-- What has been read of a string: its characters, latest first, a high surrogate that waits for
its low one, and the first fault of its value. -/
structure StringState where
  chars : List Char
  high : Option Nat
  fault : Option Fault

namespace StringState

def empty : StringState :=
  ⟨[], none, none⟩

/-- Note a fault; an earlier one stays. -/
def note (state : StringState) (fault : Fault) : StringState :=
  { state with fault := state.fault.or (some fault) }

/-- Something other than an escaped code unit comes next. -/
def settle (state : StringState) : StringState :=
  match state.high with
  | some _ => { state.note .unfinishedSurrogate with high := none }
  | none => state

def push (state : StringState) (c : Char) : StringState :=
  { state with chars := c :: state.chars }

/-- Take an escaped code unit of 16 bits. -/
def unit (state : StringState) (n : Nat) : StringState :=
  let low := 0xDC00 ≤ n && n ≤ 0xDFFF
  match state.high with
  | some high =>
    if low then
      { state with
        chars := Char.ofNat (0x10000 + (high - 0xD800) * 0x400 + (n - 0xDC00)) :: state.chars
        high := none }
    else
      { state.note .loneSurrogate with high := none }
  | none =>
    if low then
      state.note .loneSurrogate
    else if 0xD800 ≤ n && n ≤ 0xDBFF then
      { state with high := some n }
    else
      state.push (Char.ofNat n)

/-- The stop for a fault that is met next. -/
def stop (state : StringState) (fault : Fault) : Stop :=
  ⟨state.fault.getD fault, fault⟩

def value (state : StringState) : Except Fault String :=
  match state.fault with
  | some fault => .error fault
  | none => .ok (String.ofList state.chars.reverse)

end StringState

/-- The character that a letter stands for after a backslash. -/
def shortEscape? (c : Char) : Option Char :=
  if c = '"' then some '"'
  else if c = '\\' then some '\\'
  else if c = '/' then some '/'
  else if c = 'b' then some '\x08'
  else if c = 'f' then some '\x0c'
  else if c = 'n' then some '\n'
  else if c = 'r' then some '\r'
  else if c = 't' then some '\t'
  else none

def hexValue? (c : Char) : Option Nat :=
  if '0' ≤ c ∧ c ≤ '9' then some (c.toNat - '0'.toNat)
  else if 'a' ≤ c ∧ c ≤ 'f' then some (c.toNat - 'a'.toNat + 10)
  else if 'A' ≤ c ∧ c ≤ 'F' then some (c.toNat - 'A'.toNat + 10)
  else none

/-- The code unit that four hexadecimal digits stand for. -/
def codeUnit? (a b c d : Char) : Option Nat := do
  let a ← hexValue? a
  let b ← hexValue? b
  let c ← hexValue? c
  let d ← hexValue? d
  pure (((a * 16 + b) * 16 + c) * 16 + d)

/-- The fault of an escape that four hexadecimal digits do not follow. -/
def hexFault (rest : List Char) : Fault :=
  if Text.byteLength (rest.take 4) < 4 then .endInString else .invalidEscape

/-- The rest of a string whose opening quotation mark has been read, and the text after it. -/
def readString (state : StringState) :
    List Char → Except Stop (Except Fault String × List Char)
  | [] => .error (state.stop .endInString)
  | '"' :: rest => .ok (state.settle.value, rest)
  | ['\\'] => .error (state.stop .endInString)
  | '\\' :: 'u' :: a :: b :: c :: d :: rest =>
    match codeUnit? a b c d with
    | some n => readString (state.unit n) rest
    | none => .error (state.stop (hexFault (a :: b :: c :: d :: rest)))
  | '\\' :: c :: rest =>
    if c = 'u' then
      .error (state.stop (hexFault rest))
    else
      match shortEscape? c with
      | some meant => readString (state.settle.push meant) rest
      | none => .error (state.settle.stop .invalidEscape)
  | c :: rest =>
    if c.toNat < 0x20 then
      .error (state.settle.stop .controlCharacter)
    else
      readString (state.settle.push c) rest

/-! ## Values -/

/-- A read value, and the text after it unless reading has stopped. -/
abbrev Scan (α : Type) :=
  α × Option (List Char)

/-- The value a word stands for, if the word is there. -/
def scanWord (word : List Char) (value : Outline) (cs : List Char) : Scan Outline :=
  match readWord word cs with
  | .ok rest => (value, some rest)
  | .error stop => (.cut stop, none)

def scanNumber (cs : List Char) : Scan Outline :=
  match readNumber cs with
  | .ok (token, rest) =>
    match token.value? with
    | some n => (.number (.ok n), some rest)
    | none => (.number (.error .numberOutOfRange), some rest)
  | .error stop => (.cut stop, none)

def scanString (cs : List Char) : Scan Outline :=
  match readString .empty cs with
  | .ok (text, rest) => (.string text, some rest)
  | .error stop => (.cut stop, none)

mutual

/-- The outline of one value at the start of a text, reading at most `fuel` deep. -/
def scanValue : Nat → List Char → Scan Outline
  | 0, _ => (.cut (.plain .endInValue), none)
  | fuel + 1, cs =>
    match skipSpace cs with
    | [] => (.cut (.plain .endInValue), none)
    | c :: rest =>
      if c = '"' then scanString rest
      else if c = '[' then
        let (items, closing, rest) := scanItems fuel true rest
        (.array items closing, rest)
      else if c = '\x7b' then
        let (members, closing, rest) := scanMembers fuel true rest
        (.object members closing, rest)
      else if c = 'n' then scanWord ['u', 'l', 'l'] .null rest
      else if c = 't' then scanWord ['r', 'u', 'e'] (.bool true) rest
      else if c = 'f' then scanWord ['a', 'l', 's', 'e'] (.bool false) rest
      else if c = '-' || c.isDigit then scanNumber (c :: rest)
      else (.cut (.plain .expectedValue), none)

/-- The items of a list up to its end; `first` holds before the first of them. -/
def scanItems : Nat → Bool → List Char → List Outline × Closing × Option (List Char)
  | 0, _, _ => ([], .stopped (.plain .endInList) .endInList, none)
  | fuel + 1, first, cs =>
    let item (cs : List Char) :=
      match scanValue fuel cs with
      | (value, none) => ([value], .bracket, none)
      | (value, some rest) =>
        let (items, closing, rest) := scanItems fuel false rest
        (value :: items, closing, rest)
    match skipSpace cs with
    | [] => ([], .stopped (.plain .endInList) .endInList, none)
    | c :: rest =>
      if c = ']' then ([], .bracket, some rest)
      else if first then item (c :: rest)
      else if c = ',' then
        match skipSpace rest with
        | [] => ([], .stopped (.plain .endInValue) .trailingCharacters, none)
        | next :: rest =>
          if next = ']' then
            ([], .stopped ⟨.trailingComma, .expectedValue⟩ .trailingComma, none)
          else
            item (next :: rest)
      else
        ([], .stopped (.plain .expectedListEnd) .trailingCharacters, none)

/-- The members of an object up to its end; `first` holds before the first of them. -/
def scanMembers :
    Nat → Bool → List Char → List (Except Fault String × Outline) × Closing × Option (List Char)
  | 0, _, _ => ([], .stopped (.plain .endInObject) .endInObject, none)
  | fuel + 1, first, cs =>
    let halt (stop : Stop) :
        List (Except Fault String × Outline) × Closing × Option (List Char) :=
      ([], .stopped stop stop.wanted, none)
    let member (cs : List Char) :=
      match readString .empty cs with
      | .error stop => halt stop
      | .ok (key, rest) =>
        match skipSpace rest with
        | [] => ([(key, .cut (.plain .endInObject))], .bracket, none)
        | c :: rest =>
          if c = ':' then
            match scanValue fuel rest with
            | (value, none) => ([(key, value)], .bracket, none)
            | (value, some rest) =>
              let (members, closing, rest) := scanMembers fuel false rest
              ((key, value) :: members, closing, rest)
          else
            ([(key, .cut (.plain .expectedColon))], .bracket, none)
    match skipSpace cs with
    | [] => halt (.plain .endInObject)
    | c :: rest =>
      if c = '\x7d' then ([], .bracket, some rest)
      else if first then
        if c = '"' then member rest else halt (.plain .keyNotString)
      else if c = ',' then
        match skipSpace rest with
        | [] => halt ⟨.endInValue, .endInObject⟩
        | next :: rest =>
          if next = '"' then member rest
          else if next = '\x7d' then halt ⟨.trailingComma, .keyNotString⟩
          else halt (.plain .keyNotString)
      else
        halt (.plain .expectedObjectEnd)

end

/-- The outline of a text's first value, and whether more than blanks follows it. -/
def outline (cs : List Char) : Outline × Bool :=
  match scanValue (2 * cs.length + 2) cs with
  | (value, none) => (value, false)
  | (value, some rest) => (value, !(skipSpace rest).isEmpty)

end Crosswalk.Json
