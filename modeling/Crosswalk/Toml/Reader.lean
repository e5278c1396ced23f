import Crosswalk.Toml.Scalar
import Crosswalk.Toml.Table

/-!
# Reading TOML

A document is a table, written line by line: a key and its value, a header in brackets, a comment
or nothing.  A text that breaks the rules has no outline at all.
-/

set_option autoImplicit false

namespace Crosswalk.Toml

/-- Arrays and inline tables are nested less deeply than this, and keys have fewer names. -/
def nestingLimit : Nat :=
  80

/-! ## Blanks -/

def isBlank (c : Char) : Bool :=
  c = ' ' || c = '\t'

def skipBlanks (cs : List Char) : List Char :=
  cs.dropWhile isBlank

/-- Tabs, and all that is not a control character, may stand in a text as they are. -/
def isTextChar (c : Char) : Bool :=
  c = '\t' || (0x20 ≤ c.toNat && c.toNat != 0x7F)

/-- What follows a line break. -/
def lineBreak? : List Char → Option (List Char)
  | '\n' :: rest => some rest
  | '\r' :: '\n' :: rest => some rest
  | _ => none

/-- A comment, if there is one, up to the end of the line. -/
def skipComment (cs : List Char) : List Char :=
  match cs with
  | '#' :: rest => rest.dropWhile isTextChar
  | cs => cs

/-- Blanks, comments and line breaks; `fuel` bounds the number of lines. -/
def skipLines : Nat → List Char → List Char
  | 0, cs => cs
  | fuel + 1, cs =>
    let cs := skipComment (skipBlanks cs)
    match lineBreak? cs with
    | some rest => skipLines fuel rest
    | none => cs

/-! ## Texts -/

def shortEscapes : List (Char × Char) :=
  [('b', '\x08'), ('t', '\t'), ('n', '\n'), ('f', '\x0c'), ('r', '\r'), ('"', '"'), ('\\', '\\')]

/-- The character for exactly the given count of hexadecimal digits, and the rest. -/
def readHex (count : Nat) (cs : List Char) : Option (Char × List Char) :=
  let digits := cs.take count
  let n := digitsValue 16 digits
  if digits.length = count && digits.all isHexDigit && n.isValidChar then
    some (Char.ofNat n, cs.drop count)
  else
    none

/-- The character after a backslash, and the rest. -/
def readEscape : List Char → Option (Char × List Char)
  | 'u' :: rest => readHex 4 rest
  | 'U' :: rest => readHex 8 rest
  | c :: rest => (shortEscapes.lookup c).map fun meant => (meant, rest)
  | [] => none

/-- A text on one line up to its quotation mark; backslashes are escapes in double quotation
marks only.  `fuel` bounds the number of characters. -/
def readLine (quote : Char) : Nat → List Char → Option (List Char × List Char)
  | 0, _ => none
  | fuel + 1, cs =>
    match cs with
    | [] => none
    | c :: rest =>
      if c = quote then
        some ([], rest)
      else if c = '\\' && quote = '"' then do
        let (meant, rest) ← readEscape rest
        let (more, rest) ← readLine quote fuel rest
        return (meant :: more, rest)
      else if isTextChar c then
        (readLine quote fuel rest).map fun (more, rest) => (c :: more, rest)
      else
        none

/-- Blanks and line breaks after a backslash at the end of a line; `fuel` bounds their number. -/
def skipJoint : Nat → List Char → List Char
  | 0, cs => cs
  | fuel + 1, cs =>
    match lineBreak? (skipBlanks cs) with
    | some rest => skipJoint fuel rest
    | none => skipBlanks cs

/-- A text on several lines up to three quotation marks, before which one or two more may belong
to the text.  `fuel` bounds the number of characters. -/
def readLines (quote : Char) : Nat → List Char → Option (List Char × List Char)
  | 0, _ => none
  | fuel + 1, cs =>
    let plain (c : Char) (rest : List Char) :=
      (readLines quote fuel rest).map fun (more, rest) => (c :: more, rest)
    match cs with
    | [] => none
    | c :: rest =>
      if c = quote then
        let marks := cs.takeWhile (· = quote)
        if marks.length < 3 then
          plain c rest
        else if marks.length ≤ 5 then
          some (marks.drop 3, cs.drop marks.length)
        else
          none
      else if c = '\\' && quote = '"' then
        if (lineBreak? (skipBlanks rest)).isSome then
          readLines quote fuel (skipJoint rest.length rest)
        else do
          let (meant, rest) ← readEscape rest
          let (more, rest) ← readLines quote fuel rest
          return (meant :: more, rest)
      else
        match lineBreak? cs with
        | some rest => plain '\n' rest
        | none => if isTextChar c then plain c rest else none

/-- A text at its first quotation mark, and the rest. -/
def readText (cs : List Char) : Option (List Char × List Char) :=
  match cs with
  | [] => none
  | quote :: rest =>
    if rest.take 2 == [quote, quote] then
      let body := rest.drop 2
      readLines quote (body.length + 1) ((lineBreak? body).getD body)
    else
      readLine quote (rest.length + 1) rest

/-! ## Keys -/

def isBareKeyChar (c : Char) : Bool :=
  c.isAlphanum || c = '_' || c = '-'

/-- One name of a key, and the rest. -/
def readName (cs : List Char) : Option (String × List Char) :=
  match cs with
  | '"' :: rest => (readLine '"' (rest.length + 1) rest).map fun (s, rest) => (String.ofList s, rest)
  | '\'' :: rest =>
    (readLine '\'' (rest.length + 1) rest).map fun (s, rest) => (String.ofList s, rest)
  | cs =>
    let name := cs.takeWhile isBareKeyChar
    if name.isEmpty then none else some (String.ofList name, cs.drop name.length)

/-- A key with or without dots: the names before the last, the last, and the rest after blanks.
`fuel` bounds the number of names. -/
def readKey : Nat → List Char → Option (List String × String × List Char)
  | 0, _ => none
  | fuel + 1, cs => do
    let (name, rest) ← readName (skipBlanks cs)
    match skipBlanks rest with
    | '.' :: rest =>
      let (path, last, rest) ← readKey fuel rest
      return (name :: path, last, rest)
    | rest => return ([], name, rest)

/-! ## Values -/

/-- The word at the start of a text; a date may be followed by a space and a time. -/
def readWord (cs : List Char) : List Char :=
  let word := cs.takeWhile isWordChar
  match date? word, cs.drop word.length with
  | some [], ' ' :: rest =>
    let time := rest.takeWhile isWordChar
    if (twoDigits? 0 23 time).isSome then word ++ ' ' :: time else word
  | _, _ => word

mutual

/-- A value inside as many arrays and inline tables as `depth` says. -/
def readValue (depth : Nat) : Nat → List Char → Option (Outline × List Char)
  | 0, _ => none
  | fuel + 1, cs =>
    match cs with
    | '"' :: _ | '\'' :: _ =>
      (readText cs).map fun (s, rest) => (.string (.ok (String.ofList s)), rest)
    | '[' :: rest =>
      if nestingLimit ≤ depth + 1 then none
      else (readItems (depth + 1) fuel rest).map fun (items, rest) => (.array items .bracket, rest)
    | '\x7b' :: rest => do
      if nestingLimit ≤ depth + 1 then
        none
      match skipBlanks rest with
      | '\x7d' :: rest => return (.object [] .bracket, rest)
      | rest =>
        let (members, rest) ← readMembers (depth + 1) fuel [] rest
        return (members.toOutline, rest)
    | cs =>
      let word := readWord cs
      (word? word).map fun value => (value, cs.drop word.length)

/-- The items of an array up to its bracket. -/
def readItems (depth : Nat) : Nat → List Char → Option (List Outline × List Char)
  | 0, _ => none
  | fuel + 1, cs =>
    match skipLines (cs.length + 1) cs with
    | ']' :: rest => some ([], rest)
    | cs => do
      let (item, rest) ← readValue depth fuel cs
      match skipLines (rest.length + 1) rest with
      | ',' :: rest =>
        let (items, rest) ← readItems depth fuel rest
        return (item :: items, rest)
      | ']' :: rest => return ([item], rest)
      | _ => none

/-- The members of an inline table up to its brace, which stands on the same line. -/
def readMembers (depth : Nat) : Nat → Members → List Char → Option (Members × List Char)
  | 0, _, _ => none
  | fuel + 1, members, cs => do
    let (path, key, rest) ← readKey (nestingLimit - 1) cs
    let rest ← expect? '=' rest
    let (value, rest) ← readValue depth fuel (skipBlanks rest)
    let members ← assign path key value .stated members
    match skipBlanks rest with
    | ',' :: rest => readMembers depth fuel members rest
    | '\x7d' :: rest => return (members, rest)
    | _ => none

end

/-! ## Documents -/

/-- What has been read of a document: the whole table, and the path of the open one. -/
structure Draft where
  root : Members
  place : List String

/-- The rest after the end of a line. -/
def lineEnd? (cs : List Char) : Option (List Char) :=
  match skipComment (skipBlanks cs) with
  | [] => some []
  | cs => lineBreak? cs

/-- A header in one pair of brackets or two. -/
def readHeader (draft : Draft) (cs : List Char) : Option (Draft × List Char) := do
  let (double, cs) :=
    match cs with
    | '[' :: rest => (true, rest)
    | rest => (false, rest)
  let (path, key, rest) ← readKey (nestingLimit - 1) cs
  let rest ← expect? ']' rest
  let rest ← if double then expect? ']' rest else some rest
  let root ←
    if double then openNext path key draft.root else openTable path key draft.root
  return (⟨root, path ++ [key]⟩, rest)

/-- A key and its value, in the open table. -/
def readEntry (draft : Draft) (cs : List Char) : Option (Draft × List Char) := do
  let (path, key, rest) ← readKey (nestingLimit - 1) cs
  let rest ← expect? '=' rest
  let rest := skipBlanks rest
  let (value, rest) ← readValue 0 (2 * rest.length + 2) rest
  let root ← update false (assign path key value) draft.place .stated draft.root
  return (⟨root, draft.place⟩, rest)

/-- The lines of a document; `fuel` bounds their number. -/
def readDocument : Nat → Draft → List Char → Option Members
  | 0, _, _ => none
  | fuel + 1, draft, cs =>
    match skipLines (cs.length + 1) cs with
    | [] => some draft.root
    | '[' :: rest => do
      let (draft, rest) ← readHeader draft rest
      readDocument fuel draft (← lineEnd? rest)
    | cs => do
      let (draft, rest) ← readEntry draft cs
      readDocument fuel draft (← lineEnd? rest)

/-- The outline of a document. -/
def outline? (s : String) : Option Outline :=
  let cs := s.toList
  let cs := if cs.head? = some '\ufeff' then cs.tail else cs
  (readDocument (cs.length + 1) ⟨[], []⟩ cs).map Members.toOutline

end Crosswalk.Toml
