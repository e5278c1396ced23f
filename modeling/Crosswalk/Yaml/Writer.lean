import Crosswalk.Yaml.Scalar

/-!
# YAML text

Values are written in block style with an indentation of two; only empty containers take brackets.
A list that is the value of a key stands as deep as the key.  Text is plain where a reader finds
the same text again, in single quotation marks where it would read as another value, a block where
it has line feeds, and in double quotation marks where nothing else can hold it.
-/

set_option autoImplicit false

namespace Crosswalk.Yaml

/-! ## The style of a text -/

inductive Style where
  | plain
  | singleQuoted
  | doubleQuoted
  | literal
  deriving DecidableEq, Repr

def isBreak (c : Char) : Bool :=
  c = '\n' || c = '\r' || c = '\x85' || c = '\u2028' || c = '\u2029'

/-- Blanks, breaks and the ends of the text. -/
def isEdge (c : Option Char) : Bool :=
  match c with
  | none => true
  | some c => c = ' ' || c = '\t' || isBreak c

/-- The characters that may stand unescaped in a text. -/
def isPrintable (c : Char) : Bool :=
  let n := c.toNat
  c = '\n' || (0x20 ≤ n && n ≤ 0x7E) || (0xA0 ≤ n && n ≤ 0xFFFD && c != '\uFEFF')
    || 0x10000 ≤ n

/-- The characters that have a meaning of their own at the start of a scalar. -/
def leadingIndicators : List Char :=
  ['#', ',', '[', ']', '\x7b', '\x7d', '&', '*', '!', '|', '>', '\'', '"', '%', '@', '`']

/-- Whether some character would end or start something in the middle of a plain scalar.  The
arguments are the character before the text and the text. -/
def hasIndicator : Option Char → List Char → Bool
  | _, [] => false
  | before, c :: rest =>
    (c = ':' && isEdge rest.head?) || (c = '#' && isEdge before) || hasIndicator (some c) rest

/-- Whether a character would be taken for something else at the start of a plain scalar. -/
def startsWithIndicator : List Char → Bool
  | [] => false
  | c :: rest =>
    leadingIndicators.contains c || ((c = '?' || c = ':' || c = '-') && isEdge rest.head?)

/-- Whether two neighbours satisfy a condition. -/
def anyPair (p : Char → Char → Bool) : List Char → Bool
  | c :: d :: rest => p c d || anyPair p (d :: rest)
  | _ => false

/-- What the styles demand of a text. -/
structure Analysis where
  multiline : Bool
  plainAllowed : Bool
  singleAllowed : Bool
  blockAllowed : Bool

def analyze (cs : List Char) : Analysis :=
  let marker := cs.take 3 == ['-', '-', '-'] || cs.take 3 == ['.', '.', '.']
  let breaks := cs.any isBreak
  let special := cs.any fun c => !isPrintable c
  let spaceBreak := anyPair (fun c d => c = ' ' && isBreak d) cs
  let breakSpace := anyPair (fun c d => isBreak c && d = ' ') cs
  let ragged (c : Option Char) := c.any fun c => c = ' ' || isBreak c
  { multiline := breaks
    plainAllowed :=
      !(marker || breaks || special || spaceBreak || breakSpace || ragged cs.head?
        || ragged cs.getLast? || startsWithIndicator cs || hasIndicator none cs)
    singleAllowed := !(special || spaceBreak || breakSpace)
    blockAllowed := !(special || spaceBreak || cs.getLast? = some ' ') && !cs.isEmpty }

/-- The style of a text.  A key on one line cannot be a block or go over several lines. -/
def styleOf (inKey : Bool) (s : String) : Style :=
  let cs := s.toList
  let analysis := analyze cs
  let quoted := if analysis.singleAllowed then Style.singleQuoted else .doubleQuoted
  if inKey && analysis.multiline then .doubleQuoted
  else if cs.contains '\n' then
    if analysis.blockAllowed then .literal else .doubleQuoted
  else if !meansItself s || hasLeadingZero cs then quoted
  else if analysis.plainAllowed then .plain
  else quoted

/-! ## Texts -/

def hexUpper (n : Nat) : Char :=
  if n < 10 then Char.ofNat ('0'.toNat + n) else Char.ofNat ('A'.toNat + (n - 10))

/-- The last digits of a number in hexadecimal, as many as asked for. -/
def hexPadded : Nat → Nat → List Char
  | 0, _ => []
  | count + 1, n => hexPadded count (n / 16) ++ [hexUpper (n % 16)]

/-- The escapes of one letter. -/
def shortEscapes : List (Char × Char) :=
  [('\x00', '0'), ('\x07', 'a'), ('\x08', 'b'), ('\t', 't'), ('\n', 'n'), ('\x0b', 'v'),
    ('\x0c', 'f'), ('\r', 'r'), ('\x1b', 'e'), ('"', '"'), ('\\', '\\'), ('\x85', 'N'),
    ('\xa0', '_'), ('\u2028', 'L'), ('\u2029', 'P')]

def doubleQuotedChar (c : Char) : List Char :=
  if isPrintable c && !isBreak c && c != '"' && c != '\\' then
    [c]
  else
    match shortEscapes.lookup c with
    | some letter => ['\\', letter]
    | none =>
      let n := c.toNat
      if n ≤ 0xFF then ['\\', 'x'] ++ hexPadded 2 n
      else if n ≤ 0xFFFF then ['\\', 'u'] ++ hexPadded 4 n
      else ['\\', 'U'] ++ hexPadded 8 n

def spaces (n : Nat) : List Char :=
  List.replicate n ' '

/-- The inside of a text in single quotation marks.  A break inside is written as it is, and the
text after it is indented. -/
def singleQuotedChars (indent : Nat) (afterBreak : Bool) : List Char → List Char
  | [] => if afterBreak then spaces indent else []
  | c :: rest =>
    if isBreak c then
      c :: singleQuotedChars indent true rest
    else
      (if afterBreak then spaces indent else [])
        ++ (if c = '\'' then ['\'', '\''] else [c]) ++ singleQuotedChars indent false rest

/-- The lines of a block, each with its indentation unless it is empty. -/
def literalChars (indent : Nat) (afterBreak : Bool) : List Char → List Char
  | [] => []
  | c :: rest =>
    if isBreak c then
      c :: literalChars indent true rest
    else
      (if afterBreak then spaces indent else []) ++ c :: literalChars indent false rest

/-- How a block tells the number of line feeds at its end. -/
def chomping (cs : List Char) : List Char :=
  match cs.reverse with
  | [] => ['-']
  | last :: before =>
    if !isBreak last then ['-']
    else
      match before with
      | [] => ['+']
      | c :: _ => if isBreak c then ['+'] else []

/-- A block of text.  Its first line is told apart from its indentation where it starts with a
space or is empty. -/
def literalText (indent : Nat) (cs : List Char) : List Char :=
  let hint :=
    match cs with
    | c :: _ => if c = ' ' || isBreak c then ['2'] else []
    | [] => []
  '|' :: hint ++ chomping cs ++ ['\n'] ++ literalChars indent true cs

/-- A text in its style; `indent` is the depth of further lines. -/
def scalarText (inKey : Bool) (indent : Nat) (s : String) : List Char :=
  let cs := s.toList
  match styleOf inKey s with
  | .plain => cs
  | .singleQuoted => '\'' :: singleQuotedChars indent false cs ++ ['\'']
  | .doubleQuoted => '"' :: cs.flatMap doubleQuotedChar ++ ['"']
  | .literal => literalText indent cs

/-! ## Values -/

/-- Exponents that are not negative have no sign. -/
def layout : Binary64.Layout where
  plusSign := []

def numberText : Number → List Char
  | .integer n fits => (Number.integer n fits).text
  | .float x => x.toText layout

/-- Whether a key fits on one line with its value. -/
def isSimpleKey (key : String) : Bool :=
  key.utf8ByteSize ≤ 128 && !key.toList.any isBreak

/-- A text has come to the start of a line. -/
def endsInBreak (text : List Char) : Bool :=
  text.getLast?.any isBreak

/-- A new line after what has been written, unless that has just begun one.  Nothing comes before
the first item or member. -/
def newLine (indent : Nat) (before : Option (List Char)) : List Char :=
  match before with
  | none => []
  | some text => if endsInBreak text then spaces indent else '\n' :: spaces indent

mutual

/-- A value that starts where a line has got to: after a dash, or at the start of the text.  Its
further lines are `indent` deep. -/
def inlineText (indent : Nat) : Json → List Char
  | .null => ['n', 'u', 'l', 'l']
  | .bool b => Json.boolText b
  | .number n => numberText n
  | .string s => scalarText false indent s
  | .array [] => ['[', ']']
  | .array (item :: rest) => itemsText indent none (item :: rest)
  | .object [] => ['\x7b', '\x7d']
  | .object (member :: rest) => membersText indent none (member :: rest)

/-- Items, of which the first dash stands where the line has got to. -/
def itemsText (indent : Nat) (before : Option (List Char)) : List Json → List Char
  | [] => []
  | item :: rest =>
    let text := newLine indent before ++ '-' :: ' ' :: inlineText (indent + 2) item
    text ++ itemsText indent (some text) rest

/-- Keys and their values.  A key that is too long for one line takes a mark of its own. -/
def membersText (indent : Nat) (before : Option (List Char)) :
    List (String × Json) → List Char
  | [] => []
  | (key, value) :: rest =>
    let member :=
      if isSimpleKey key then
        scalarText true (indent + 2) key ++ ':' :: valueText indent value
      else
        let keyText := '?' :: ' ' :: scalarText false (indent + 2) key
        keyText ++ newLine indent (some keyText) ++ ':' :: ' ' :: inlineText (indent + 2) value
    let text := newLine indent before ++ member
    text ++ membersText indent (some text) rest

/-- The value of a key that stands `indent` deep. -/
def valueText (indent : Nat) : Json → List Char
  | .null => [' ', 'n', 'u', 'l', 'l']
  | .bool b => ' ' :: Json.boolText b
  | .number n => ' ' :: numberText n
  | .string s => ' ' :: scalarText false (indent + 2) s
  | .array [] => [' ', '[', ']']
  | .array (item :: rest) => '\n' :: spaces indent ++ itemsText indent none (item :: rest)
  | .object [] => [' ', '\x7b', '\x7d']
  | .object (member :: rest) =>
    '\n' :: spaces (indent + 2) ++ membersText (indent + 2) none (member :: rest)

end

/-- The text of a value, which ends with a line break. -/
def write (value : Json) : String :=
  let text :=
    match value with
    | .string s => scalarText false 2 s
    | value => inlineText 0 value
  String.ofList (text ++ if endsInBreak text then [] else ['\n'])

end Crosswalk.Yaml
