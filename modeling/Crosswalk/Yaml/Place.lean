import Crosswalk.Decoding.Outline

/-!
# Places in a YAML text

What is left of a text, and where in its line the rest starts.  Structure hangs on columns, so
every step over characters counts them.  Blanks, comments and line breaks between tokens are
passed over in one step; a tab that would count as indentation stops it, and no token starts with
a tab.
-/

set_option autoImplicit false

namespace Crosswalk.Yaml

/-- Spaces and tabs. -/
def isBlank (c : Char) : Bool :=
  c = ' ' || c = '\t'

/-- The characters that break a line: a line feed and the two Unicode separators. -/
def endsLine (c : Char) : Bool :=
  c = '\n' || c = '\u2028' || c = '\u2029'

/-- Blanks, breaks and the end of the text. -/
def endsToken (c : Option Char) : Bool :=
  match c with
  | none => true
  | some c => isBlank c || endsLine c

/-- Line breaks that have no meaning of their own become line feeds. -/
def normalizeBreaks : List Char → List Char
  | [] => []
  | '\r' :: '\n' :: rest => '\n' :: normalizeBreaks rest
  | '\r' :: rest => '\n' :: normalizeBreaks rest
  | '\x85' :: rest => '\n' :: normalizeBreaks rest
  | c :: rest => c :: normalizeBreaks rest

/-- The characters that may stand in a text at all. -/
def isAllowed (c : Char) : Bool :=
  let n := c.toNat
  n = 0x09 || n = 0x0A || n = 0x0D || (0x20 ≤ n && n ≤ 0x7E) || n = 0x85
    || (0xA0 ≤ n && n ≤ 0xFFFD) || 0x10000 ≤ n

/-- A place in a text. -/
structure Place where
  rest : List Char
  column : Nat
  /-- The number of lines before. -/
  line : Nat
  /-- A list or a map in block style may start here: nothing but indentation and signs of
  structure stands before on the line. -/
  fresh : Bool
  /-- The values that names have been given to. -/
  anchors : List (String × Outline)

namespace Place

def start (cs : List Char) : Place :=
  ⟨cs, 0, 0, true, []⟩

/-- The place after some characters of the line; no block may start there. -/
def past (place : Place) (passed : List Char) (rest : List Char) : Place :=
  { place with rest, column := place.column + passed.length, fresh := false }

/-- The place after some characters on the line. -/
def drop (place : Place) (count : Nat) : Place :=
  place.past (place.rest.take count) (place.rest.drop count)

/-- A sign that structures a block: another may follow on its line. -/
def pastSign (place : Place) : Place :=
  { place.drop 1 with fresh := true }

def head? (place : Place) : Option Char :=
  place.rest.head?

/-- A character that stands for itself only where a token may end after it. -/
def atSign (place : Place) (sign : Char) : Bool :=
  place.head? = some sign && endsToken place.rest.tail.head?

/-- Three dashes or dots at the start of a line, which end a document. -/
def atMarker (place : Place) : Bool :=
  place.column = 0
    && (place.rest.take 3 == ['-', '-', '-'] || place.rest.take 3 == ['.', '.', '.'])
    && endsToken (place.rest.drop 3).head?

/-- Nothing more belongs to the document. -/
def ended (place : Place) : Bool :=
  place.rest.isEmpty || place.atMarker

def bind (place : Place) (name : String) (value : Outline) : Place :=
  { place with anchors := (name, value) :: place.anchors }

/-- Blanks on the line. -/
def skipBlanks (place : Place) : Place :=
  let blanks := place.rest.takeWhile isBlank
  { place with rest := place.rest.drop blanks.length, column := place.column + blanks.length }

/-- The start of the next line. -/
def nextLine (place : Place) (rest : List Char) : Place :=
  { place with rest, column := 0, line := place.line + 1, fresh := true }

/-- Blanks, comments and line breaks from a place on; `comment` holds inside a comment.  A byte
order mark may start a line, of which it takes a column. -/
def skipFrom (flow comment : Bool) (place : Place) : List Char → Place
  | [] => { place with rest := [] }
  | c :: rest =>
    if endsLine c then
      skipFrom flow false (place.nextLine rest) rest
    else if c = '\ufeff' && place.column = 0 then
      skipFrom flow comment { place with column := 1 } rest
    else if comment || c = ' ' || (c = '\t' && (flow || !place.fresh)) then
      skipFrom flow comment { place with column := place.column + 1 } rest
    else if c = '#' then
      skipFrom flow true { place with column := place.column + 1 } rest
    else
      { place with rest := c :: rest }

/-- The next token, on this line or a later one. -/
def skip (flow : Bool) (place : Place) : Place :=
  skipFrom flow false place place.rest

end Place

end Crosswalk.Yaml
