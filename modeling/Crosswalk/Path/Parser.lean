import Crosswalk.Path.Basic
import Crosswalk.Number.Word
import Crosswalk.Text.Blank
import Crosswalk.Text.Size

/-!
# Path expressions

A path expression is a root marker and any number of steps: a dot and a name, or brackets around
a quoted name or an index.  Blanks may stand around steps and inside brackets.  Positions in
faults count bytes from the start of the expression.
-/

set_option autoImplicit false

namespace Crosswalk

/-- What a path expression needs at a place where it has something else. -/
inductive Wanted where
  | root
  | step
  | fieldName
  | selector
  | closingBracket
  deriving DecidableEq, Repr

def Wanted.complaint : Wanted → String
  | .root => "Path must start with the root marker"
  | .step => "Unexpected character after segment"
  | .fieldName => "Expected a field name after '.'"
  | .selector => "Invalid bracket selector"
  | .closingBracket => "Unclosed bracket selector"

/-- The things that would have been accepted. -/
def Wanted.choices : Wanted → List String
  | .root => ["$"]
  | .step => [".", "["]
  | .fieldName => ["field name"]
  | .selector => ["quoted name", "index"]
  | .closingBracket => ["]"]

/-- The ways in which a text fails to be a path expression. -/
inductive PathFault where
  | empty
  | unexpected (wanted : Wanted) (position : Nat) (found : Option Char)
  | unterminatedString (position : Nat)
  | unterminatedEscape (position : Nat)
  | indexOutOfRange (digits : String) (position : Nat)
  | unsupported (feature : String)
  deriving DecidableEq, Repr

namespace PathFault

/-- The byte at which the fault lies; an unsupported feature has no place. -/
def position? : PathFault → Option Nat
  | .empty => some 0
  | .unexpected _ position _ => some position
  | .unterminatedString position => some position
  | .unterminatedEscape position => some position
  | .indexOutOfRange _ position => some position
  | .unsupported _ => none

def parseError (position : Nat) (complaint : String) : String :=
  "Parse error at position " ++ toString position ++ ": " ++ complaint

def message : PathFault → String
  | .empty => parseError 0 "Empty path expression"
  | .unexpected wanted position found =>
    "Syntax error at position " ++ toString position ++ ": " ++ wanted.complaint
      ++ " (expected " ++ " or ".intercalate wanted.choices ++ ", found '"
      ++ (match found with
        | some c => c.toString
        | none => "EOF")
      ++ "')"
  | .unterminatedString position => parseError position "Unterminated string"
  | .unterminatedEscape position => parseError position "Unterminated escape sequence"
  | .indexOutOfRange digits position =>
    parseError position ("Index out of range: " ++ digits)
  | .unsupported feature => "Unsupported path feature: " ++ feature

end PathFault

namespace Path

/-- Whether a character belongs to the name that a dot introduces. -/
def isNameChar (c : Char) : Bool :=
  !(c = '.' || c = '[' || Text.isBlank c)

/-- The fault of meeting the wrong character, or the end, in front of the unread text. -/
def unexpected (total : Nat) (wanted : Wanted) (unread : List Char) : PathFault :=
  .unexpected wanted (total - Text.byteLength unread) unread.head?

/-- A step after its dot, and the unread text. -/
def parseDot (total : Nat) (cs : List Char) : Except PathFault (Step × List Char) :=
  match cs with
  | '.' :: _ => .error (.unsupported "recursive descent (..)")
  | '*' :: _ => .error (.unsupported "wildcard (*)")
  | cs =>
    match cs.takeWhile isNameChar with
    | [] => .error (unexpected total .fieldName cs)
    | name => .ok (.key (String.ofList name), cs.dropWhile isNameChar)

/-- A quoted name after its opening quotation mark, which stood at `start`, and the unread
text.  A backslash takes the character after it as it is. -/
def parseQuoted (total start : Nat) (quote : Char) :
    List Char → Except PathFault (List Char × List Char)
  | [] => .error (.unterminatedString start)
  | ['\\'] => .error (.unterminatedEscape total)
  | '\\' :: c :: rest => do
    let (name, unread) ← parseQuoted total start quote rest
    pure (c :: name, unread)
  | c :: rest =>
    if c = quote then
      .ok ([], rest)
    else do
      let (name, unread) ← parseQuoted total start quote rest
      pure (c :: name, unread)

/-- An index, and the unread text. -/
def parseIndex (total : Nat) (cs : List Char) : Except PathFault (Nat × List Char) :=
  let digits := cs.takeWhile Char.isDigit
  let position := Nat.ofDigitChars 10 digits 0
  if position < wordLimit then
    .ok (position, cs.dropWhile Char.isDigit)
  else
    .error (.indexOutOfRange (String.ofList digits) (total - Text.byteLength cs))

/-- The selector at the start of a text, and the unread text. -/
def parseSelector (total : Nat) (cs : List Char) : Except PathFault (Step × List Char) :=
  match cs with
  | [] => .error (unexpected total .selector [])
  | c :: rest =>
    if c = '\'' || c = '"' then do
      let (name, unread) ← parseQuoted total (total - Text.byteLength cs) c rest
      pure (.key (String.ofList name), unread)
    else if c.isDigit then do
      let (position, unread) ← parseIndex total cs
      pure (.index position, unread)
    else if c = '*' then .error (.unsupported "wildcard ([*])")
    else if c = '?' then .error (.unsupported "filter expression")
    else if c = '-' then .error (.unsupported "negative index")
    else if c = ':' then .error (.unsupported "array slice")
    else .error (unexpected total .selector cs)

/-- A step after its opening bracket, and the unread text. -/
def parseBracket (total : Nat) (cs : List Char) : Except PathFault (Step × List Char) := do
  let (step, unread) ← parseSelector total (Text.trimStart cs)
  match Text.trimStart unread with
  | ']' :: rest => pure (step, rest)
  | ':' :: _ => throw (.unsupported "array slice")
  | ',' :: _ => throw (.unsupported "union selector")
  | unread => throw (unexpected total .closingBracket unread)

/-- The steps up to the end of a text, at most `fuel` of them. -/
def parseSteps (total : Nat) : Nat → List Char → Except PathFault (List Step)
  | 0, _ => .ok []
  | fuel + 1, cs =>
    match Text.trimStart cs with
    | [] => .ok []
    | '.' :: rest => do
      let (step, unread) ← parseDot total rest
      let steps ← parseSteps total fuel unread
      pure (step :: steps)
    | '[' :: rest => do
      let (step, unread) ← parseBracket total rest
      let steps ← parseSteps total fuel unread
      pure (step :: steps)
    | unread => .error (unexpected total .step unread)

/-- The steps of an expression.  Each takes at least one character. -/
def parseChars (cs : List Char) : Except PathFault (List Step) :=
  let total := Text.byteLength cs
  match Text.trimStart cs with
  | [] => .error .empty
  | '$' :: rest => parseSteps total (rest.length + 1) rest
  | unread => .error (unexpected total .root unread)

/-- The path that an expression stands for. -/
def parse (s : String) : Except PathFault Path := do
  let steps ← parseChars s.toList
  pure ⟨String.ofList (Text.trim s.toList), steps⟩

end Path

end Crosswalk
