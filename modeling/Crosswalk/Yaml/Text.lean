import Crosswalk.Yaml.Place

/-!
# Texts in YAML

The four ways to write a text: plain, in single or double quotation marks, and as a block.  In the
first three a line break is folded: one alone is a space, and of several the first is dropped.
A block keeps its line breaks, or folds those between lines that do not start with a blank.
-/

set_option autoImplicit false

namespace Crosswalk.Yaml

/-! ## Folding -/

/-- Blanks and line breaks inside a text: the blanks before the first break, the breaks, and where
the text goes on. -/
structure Gap where
  blanks : List Char
  breaks : List Char
  place : Place
  /-- Some line is indented by a tab where it has to have spaces. -/
  tabbed : Bool

namespace Gap

/-- The gap that starts with the given characters; `floor` is the least indentation. -/
def scan (floor : Nat) (gap : Gap) : List Char → Gap
  | [] => { gap with place := { gap.place with rest := [] } }
  | c :: rest =>
    let place := gap.place
    if endsLine c then
      scan floor { gap with breaks := gap.breaks ++ [c], place := place.nextLine rest } rest
    else if isBlank c then
      scan floor
        { gap with
          blanks := if gap.breaks.isEmpty then gap.blanks ++ [c] else gap.blanks
          tabbed :=
            gap.tabbed || (c = '\t' && !gap.breaks.isEmpty && place.column < floor)
          place := { place with column := place.column + 1 } } rest
    else
      { gap with place := { place with rest := c :: rest } }

/-- The gap at a place. -/
def read (floor : Nat) (place : Place) : Gap :=
  scan floor ⟨[], [], place, false⟩ place.rest

/-- The characters that a gap stands for.  Only a line feed is folded. -/
def folded (gap : Gap) : List Char :=
  match gap.breaks with
  | [] => gap.blanks
  | ['\n'] => [' ']
  | '\n' :: rest => rest
  | breaks => breaks

end Gap

/-! ## Plain text -/

/-- Signs that end a plain text inside brackets. -/
def flowSigns : List Char :=
  [',', '[', ']', '\x7b', '\x7d']

/-- The characters that no plain text starts with. -/
def reservedStarts : List Char :=
  [',', '[', ']', '\x7b', '\x7d', '#', '&', '*', '!', '|', '>', '\'', '"', '%', '@', '`']

/-- Whether a plain text can start with these characters. -/
def startsPlain (flow : Bool) : List Char → Bool
  | [] => false
  | c :: rest =>
    if endsToken (some c) || reservedStarts.contains c then false
    else if c = '-' then !endsToken rest.head?
    else if c = '?' || c = ':' then !flow && !endsToken rest.head?
    else true

/-- The characters of a plain text up to a blank or to a sign that ends it, and the rest.  Inside
brackets a colon before a sign is a mistake. -/
def plainChunk (flow : Bool) : List Char → Option (List Char × List Char)
  | [] => some ([], [])
  | c :: rest =>
    if endsToken (some c) || (c = ':' && endsToken rest.head?) then some ([], c :: rest)
    else if flow && c = ':' && rest.head?.any fun d => d = '?' || flowSigns.contains d then none
    else if flow && flowSigns.contains c then some ([], c :: rest)
    else (plainChunk flow rest).map fun (chunk, left) => (c :: chunk, left)

/-- A plain text from one of its chunks on; `fuel` bounds the number of chunks. -/
def plainFrom (flow : Bool) (floor : Nat) : Nat → Place → Option (List Char × Place)
  | 0, _ => none
  | fuel + 1, place => do
    if place.atMarker || place.head? = some '#' then
      return ([], place)
    let (chunk, rest) ← plainChunk flow place.rest
    if chunk.isEmpty then
      return ([], place)
    let after := place.past chunk rest
    if !endsToken after.head? || rest.isEmpty then
      return (chunk, after)
    let gap := Gap.read floor after
    if gap.tabbed then
      none
    else if !flow && gap.place.column < floor then
      return (chunk, gap.place)
    else
      let (more, last) ← plainFrom flow floor fuel gap.place
      return (if more.isEmpty then chunk else chunk ++ gap.folded ++ more, last)

def plainText (flow : Bool) (floor : Nat) (place : Place) : Option (List Char × Place) :=
  if startsPlain flow place.rest then
    plainFrom flow floor (place.rest.length + 1) place
  else
    none

/-! ## Text in quotation marks -/

def escapes : List (Char × Char) :=
  [('0', '\x00'), ('a', '\x07'), ('b', '\x08'), ('t', '\t'), ('\t', '\t'), ('n', '\n'),
    ('v', '\x0b'), ('f', '\x0c'), ('r', '\r'), ('e', '\x1b'), (' ', ' '), ('"', '"'), ('/', '/'),
    ('\\', '\\'), ('N', '\x85'), ('_', '\xa0'), ('L', '\u2028'), ('P', '\u2029')]

/-- The number of hexadecimal digits that follow a letter. -/
def escapeDigits? (c : Char) : Option Nat :=
  [('x', 2), ('u', 4), ('U', 8)].lookup c

def hexDigit? (c : Char) : Option Nat :=
  if '0' ≤ c ∧ c ≤ '9' then some (c.toNat - '0'.toNat)
  else if 'a' ≤ c ∧ c ≤ 'f' then some (c.toNat - 'a'.toNat + 10)
  else if 'A' ≤ c ∧ c ≤ 'F' then some (c.toNat - 'A'.toNat + 10)
  else none

/-- The number that exactly the given count of hexadecimal digits spells, and the rest. -/
def hexNumber? : Nat → Nat → List Char → Option Nat
  | 0, value, _ => some value
  | _ + 1, _, [] => none
  | count + 1, value, c :: rest =>
    (hexDigit? c).bind fun digit => hexNumber? count (value * 16 + digit) rest

/-- The character that an escape stands for, and how many characters follow the backslash.  The
argument is what follows it. -/
def escaped? (cs : List Char) : Option (Char × Nat) :=
  match cs with
  | [] => none
  | c :: rest =>
    match escapes.lookup c, escapeDigits? c with
    | some meant, _ => some (meant, 1)
    | none, some count =>
      (hexNumber? count 0 rest).bind fun n =>
        if n.isValidChar then some (Char.ofNat n, count + 1) else none
    | none, none => none

/-- A text in quotation marks whose opening mark has been read; `fuel` bounds the number of
characters. -/
def quotedFrom (double : Bool) : Nat → Place → Option (List Char × Place)
  | 0, _ => none
  | fuel + 1, place => do
    if place.ended then
      none
    else if endsToken place.head? then
      let gap := Gap.read 0 place
      let (more, last) ← quotedFrom double fuel gap.place
      return (gap.folded ++ more, last)
    else
      match double, place.rest with
      | false, '\'' :: '\'' :: _ =>
        let (more, last) ← quotedFrom double fuel (place.drop 2)
        return ('\'' :: more, last)
      | false, '\'' :: _ => return ([], place.drop 1)
      | true, '"' :: _ => return ([], place.drop 1)
      | true, '\\' :: rest =>
        if rest.head?.any endsLine then
          let gap := Gap.read 0 (place.drop 1)
          let (more, last) ← quotedFrom double fuel gap.place
          return (gap.breaks.tail ++ more, last)
        else
          let (meant, count) ← escaped? rest
          let (more, last) ← quotedFrom double fuel (place.drop (count + 1))
          return (meant :: more, last)
      | _, c :: _ =>
        let (more, last) ← quotedFrom double fuel (place.drop 1)
        return (c :: more, last)
      | _, [] => none

def quotedText (double : Bool) (place : Place) : Option (List Char × Place) :=
  quotedFrom double (place.rest.length + 1) (place.drop 1)

/-! ## Blocks of text -/

/-- What becomes of the line breaks at the end of a block. -/
inductive Chomping where
  | strip
  | clip
  | keep
  deriving DecidableEq, Repr

/-- The marks after the sign of a block, in any order: the chomping and the indentation beyond
that of the enclosing structure. -/
def blockMarks : List Char → Option (Chomping × Option Nat × List Char)
  | '-' :: rest => indented .strip rest
  | '+' :: rest => indented .keep rest
  | c :: rest =>
    match indentation? c with
    | some none => none
    | some (some n) =>
      match rest with
      | '-' :: rest => some (.strip, some n, rest)
      | '+' :: rest => some (.keep, some n, rest)
      | rest => some (.clip, some n, rest)
    | none => some (.clip, none, c :: rest)
  | [] => some (.clip, none, [])
where
  /-- A digit, of which zero is a mistake. -/
  indentation? (c : Char) : Option (Option Nat) :=
    if c = '0' then some none
    else if c.isDigit then some (some (c.toNat - '0'.toNat))
    else none
  indented (chomping : Chomping) : List Char → Option (Chomping × Option Nat × List Char)
    | c :: rest =>
      match indentation? c with
      | some none => none
      | some (some n) => some (chomping, some n, rest)
      | none => some (chomping, none, c :: rest)
    | [] => some (chomping, none, [])

/-- Lines of nothing but indentation. -/
structure EmptyLines where
  breaks : List Char
  /-- The widest of them, the start of the next line included. -/
  widest : Nat
  place : Place

/-- Pass over empty lines; with a known indentation a line goes no further than that. -/
def emptyLines (indent : Option Nat) (seen : EmptyLines) : List Char → Option EmptyLines
  | [] => some { seen with place := { seen.place with rest := [] } }
  | c :: rest =>
    let place := seen.place
    let within := indent.all fun n => place.column < n
    if endsLine c then
      emptyLines indent { seen with breaks := seen.breaks ++ [c], place := place.nextLine rest } rest
    else if c = ' ' && within then
      emptyLines indent
        { seen with
          widest := max seen.widest (place.column + 1)
          place := { place with column := place.column + 1 } } rest
    else if c = '\t' && within then
      none
    else
      some { seen with place := { place with rest := c :: rest } }

/-- The lines of a block so far: the text, a break that waits to be folded or kept, whether the
line before it started with a blank, and the breaks of the empty lines after it. -/
structure BlockLines where
  text : List Char
  waiting : Option Char
  raggedBefore : Bool
  breaks : List Char
  place : Place

/-- Read the lines of a block; `fuel` bounds their number. -/
def blockLines (folded : Bool) (indent : Nat) : Nat → BlockLines → Option BlockLines
  | 0, _ => none
  | fuel + 1, lines =>
    let place := lines.place
    if place.column != indent || place.rest.isEmpty then
      some lines
    else
      let line := place.rest.takeWhile fun c => !endsLine c
      let ragged := line.head?.any isBlank
      let joint :=
        if folded && lines.waiting = some '\n' && !lines.raggedBefore && !ragged then
          if lines.breaks.isEmpty then [' '] else []
        else lines.waiting.toList
      let text := lines.text ++ joint ++ lines.breaks ++ line
      match place.rest.drop line.length with
      | [] => some ⟨text, none, ragged, [], place.past line []⟩
      | c :: rest =>
        (emptyLines (some indent) ⟨[], 0, place.nextLine rest⟩ rest).bind fun empty =>
          blockLines folded indent fuel ⟨text, some c, ragged, empty.breaks, empty.place⟩

/-- A block of text at its sign.  Its indentation is told by a mark or by its first line. -/
def blockText (folded : Bool) (floor : Nat) (place : Place) : Option (List Char × Place) := do
  let (chomping, mark, rest) ← blockMarks place.rest.tail
  let rest := rest.dropWhile isBlank
  let rest := if rest.head? = some '#' then rest.dropWhile fun c => !endsLine c else rest
  let body ←
    match rest with
    | [] => some []
    | c :: rest => if endsLine c then some rest else none
  let known := mark.map fun n => floor - 1 + n
  let empty ← emptyLines known ⟨[], 0, place.nextLine body⟩ body
  let indent := known.getD (max 1 (max floor empty.widest))
  let lines ←
    blockLines folded indent (body.length + 1) ⟨[], none, false, empty.breaks, empty.place⟩
  let last := lines.waiting.toList
  let ending :=
    match chomping with
    | .strip => []
    | .clip => last
    | .keep => last ++ lines.breaks
  return (lines.text ++ ending, { lines.place with fresh := true })

end Crosswalk.Yaml
