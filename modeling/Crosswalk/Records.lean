import Crosswalk.Files.Name
import Crosswalk.Json.Parse
import Crosswalk.Kind
import Crosswalk.Yaml.Parse
import Crosswalk.Yaml.Writer

/-!
# Lists of records as text

Records are written as a JSON array, as JSON Lines, one value a line, or as a YAML list; the
extension of a file tells which.  A single object stands for a list of one record, and blank lines
between JSON Lines are passed over.
-/

set_option autoImplicit false

namespace Crosswalk.Records

/-- The forms of a list of records. -/
inductive Format where
  | json
  | jsonLines
  | yaml
  deriving DecidableEq, Repr

/-- The form that the extension of a path stands for. -/
def Format.ofPath (path : String) : Format :=
  match Files.extension? path with
  | some "jsonl" | some "ndjson" => .jsonLines
  | some "yaml" | some "yml" => .yaml
  | _ => .json

/-- Why a text holds no records. -/
inductive Fault where
  | unreadable (cause : DecodeError)
  /-- The line of JSON Lines at fault, counted from one. -/
  | line (number : Nat) (cause : DecodeError)
  | notRecords (kind : String)
  deriving DecidableEq

def Fault.message : Fault → String
  | .unreadable cause => cause.message
  | .line number cause => "line " ++ toString number ++ ": " ++ cause.message
  | .notRecords kind =>
    "expected a list of records or a single record, found " ++ kind

/-- The records that a value holds. -/
def ofValue : Json → Except Fault (List Json)
  | .array items => .ok items
  | .object members => .ok [.object members]
  | other => .error (.notRecords (Kind.describe other))

/-- The records of a JSON text. -/
def ofJson (text : String) : Except Fault (List Json) :=
  match Json.parse text with
  | .ok value => ofValue value
  | .error e => .error (.unreadable e)

/-- The lines of a text without their ends, a line feed with or without a carriage return before
it.  A line feed at the end starts no further line. -/
def lines : List Char → List (List Char)
  | [] => []
  | '\n' :: rest => [] :: lines rest
  | '\r' :: '\n' :: rest => [] :: lines rest
  | c :: rest =>
    match lines rest with
    | [] => [[c]]
    | line :: others => (c :: line) :: others

/-- The records on lines of which the first has the given number. -/
def ofLines : Nat → List (List Char) → Except Fault (List Json)
  | _, [] => .ok []
  | number, line :: rest =>
    if (Text.trim line).isEmpty then
      ofLines (number + 1) rest
    else
      match Json.parse (String.ofList line) with
      | .error e => .error (.line number e)
      | .ok value => do
        let values ← ofLines (number + 1) rest
        pure (value :: values)

/-- The records of JSON Lines. -/
def ofJsonLines (text : String) : Except Fault (List Json) :=
  ofLines 1 (lines text.toList)

/-- The records of a YAML text. -/
def ofYaml (text : String) : Except Fault (List Json) :=
  match Yaml.parse text with
  | .ok value => ofValue value
  | .error e => .error (.unreadable e)

/-- The records of a text. -/
def ofText (format : Format) (text : String) : Except Fault (List Json) :=
  match format with
  | .json => ofJson text
  | .jsonLines => ofJsonLines text
  | .yaml => ofYaml text

/-- JSON Lines: every value on a line of its own. -/
def toJsonLines (records : List Json) : String :=
  String.ofList (records.flatMap fun record => record.compactChars ++ ['\n'])

/-- A JSON array in the pretty form. -/
def toJson (records : List Json) : String :=
  (Json.array records).pretty

/-- The text of records. -/
def toText (format : Format) (records : List Json) : String :=
  match format with
  | .json => toJson records
  | .jsonLines => toJsonLines records
  | .yaml => Yaml.write (.array records)

end Crosswalk.Records
