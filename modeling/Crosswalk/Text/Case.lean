import Crosswalk.Text.CaseTable

/-!
# Upper and lower case

Full case mapping of text.  A capital sigma is the only letter whose lower case depends on its
neighbours: it takes the final form at the end of a word, that is after a cased letter and not
before one, when the characters that case ignores are passed over on either side.
-/

set_option autoImplicit false

namespace Crosswalk.Text

/-- The image of a code point on the first run that holds it. -/
def runImage (runs : List CaseRun) (c : Char) : Char :=
  match runs.findSome? fun run => run.image? c.toNat with
  | some point => Char.ofNat point
  | none => c

/-- The listed expansion of a character, or else its image on a run. -/
def caseImage (expansions : List (Nat × List Nat)) (runs : List CaseRun) (c : Char) : List Char :=
  match expansions.lookup c.toNat with
  | some points => points.map Char.ofNat
  | none => [runImage runs c]

/-- The lower case of a character that stands alone. -/
def lowerChar (c : Char) : List Char :=
  caseImage lowerExpansions lowerRuns c

def upperChar (c : Char) : List Char :=
  caseImage upperExpansions upperRuns c

def isCased (c : Char) : Bool :=
  casedPoints.contains c

def isCaseIgnorable (c : Char) : Bool :=
  caseIgnorablePoints.contains c

/-- Whether the first character that case does not ignore is cased. -/
def meetsCased (cs : List Char) : Bool :=
  (cs.find? fun c => !isCaseIgnorable c).any isCased

/-- The lower case of a character between the characters before it, nearest first, and those
after it. -/
def lowerCharBetween (before : List Char) (c : Char) (after : List Char) : List Char :=
  if c = 'Σ' then
    [if meetsCased before && !meetsCased after then 'ς' else 'σ']
  else
    lowerChar c

/-- Lower case of the characters that follow `before`, which is kept nearest first. -/
def lowercaseAfter (before : List Char) : List Char → List Char
  | [] => []
  | c :: rest => lowerCharBetween before c rest ++ lowercaseAfter (c :: before) rest

def lowercase (cs : List Char) : List Char :=
  lowercaseAfter [] cs

def uppercase (cs : List Char) : List Char :=
  cs.flatMap upperChar

/-- Lower case of the letters `A` to `Z` alone. -/
def lowercaseAscii (cs : List Char) : List Char :=
  cs.map Char.toLower

end Crosswalk.Text
