import Crosswalk.Decoding.Outline
import Crosswalk.Json.Writer
import Crosswalk.Text.Quoted

/-!
# Decoders

Decoders turn the outline of a text into typed values.  A record is an object with known names or
a list of its fields in order; of several faults the one that stands first in the text is
reported, and a missing field after all others.
-/

set_option autoImplicit false

namespace Crosswalk

/-- What stood where something else was expected. -/
inductive Found where
  | null
  | bool (value : Bool)
  | number (value : Number)
  | string (value : String)
  | map
  | sequence
  deriving DecidableEq

def Found.describe : Found → String
  | .null => "null"
  | .bool b => "boolean `" ++ String.ofList (Json.boolText b) ++ "`"
  | .number (.integer n fits) =>
    "integer `" ++ String.ofList (Number.integer n fits).text ++ "`"
  | .number (.float x) => "floating point `" ++ String.ofList (Number.float x).text ++ "`"
  | .string s => "string " ++ Text.quoted s
  | .map => "map"
  | .sequence => "sequence"

/-- The ways in which a text fails to be a value of the wanted type. -/
inductive DecodeError where
  | unreadable (fault : Fault)
  | wrongType (found : Found) (expected : String)
  | wrongValue (found : Found) (expected : String)
  | wrongLength (length : Nat) (expected : String)
  | missingField (name : String)
  | duplicateField (name : String)
  | unknownVariant (given : String) (known : List String)
  /-- A value of the right shape that its type does not admit. -/
  | refused (reason : String)
  deriving DecidableEq

/-- The names between back quotes, as a choice. -/
def oneOf : List String → String
  | [only] => "`" ++ only ++ "`"
  | [one, other] => "`" ++ one ++ "` or `" ++ other ++ "`"
  | names => "one of " ++ ", ".intercalate (names.map fun name => "`" ++ name ++ "`")

def DecodeError.message : DecodeError → String
  | .unreadable fault => fault.message
  | .wrongType found expected =>
    "invalid type: " ++ found.describe ++ ", expected " ++ expected
  | .wrongValue found expected =>
    "invalid value: " ++ found.describe ++ ", expected " ++ expected
  | .wrongLength length expected =>
    "invalid length " ++ toString length ++ ", expected " ++ expected
  | .missingField name => "missing field `" ++ name ++ "`"
  | .duplicateField name => "duplicate field `" ++ name ++ "`"
  | .unknownVariant given known =>
    "unknown variant `" ++ given ++ "`, expected " ++ oneOf known
  | .refused reason => reason

/-- How one of several names may be written as an object that has it as its only member. -/
inductive ChoiceForm where
  | never
  | withNull
  /-- With an empty list or an empty object. -/
  | withEmpty
  deriving DecidableEq, Repr

/-- Whether a record may be written as the list of its fields in order. -/
inductive ListForm where
  | never
  | exact
  /-- What follows the fields is passed over. -/
  | leading
  deriving DecidableEq, Repr

/-- The rules of a format that decoders go by. -/
structure DecodingRules where
  /-- The number of containers that may still be nested in each other; one more is refused. -/
  room : Nat
  choice : ChoiceForm
  listed : ListForm
  deriving DecidableEq, Repr

/-- The rules inside a container. -/
def DecodingRules.within (rules : DecodingRules) : DecodingRules :=
  { rules with room := rules.room - 1 }

/-- Reads a value. -/
abbrev Decoder (α : Type) :=
  DecodingRules → Outline → Except DecodeError α

/-- What an outline is, for a message. -/
def Outline.found : Outline → Except DecodeError Found
  | .plain text _ => .ok (.string text)
  | .null => .ok .null
  | .bool b => .ok (.bool b)
  | .number (.ok n) => .ok (.number n)
  | .number (.error fault) => .error (.unreadable fault)
  | .string (.ok s) => .ok (.string s)
  | .string (.error fault) => .error (.unreadable fault)
  | .array _ _ => .ok .sequence
  | .object _ _ => .ok .map
  | .cut stop => .error (.unreadable stop.wanted)

/-- The error for an outline that is not of the expected type. -/
def Outline.wrong {α : Type} (expected : String) (o : Outline) : Except DecodeError α :=
  match o.found with
  | .ok f => .error (.wrongType f expected)
  | .error e => .error e

/-- The end of a list or object in which more could have stood. -/
def Closing.check (closing : Closing) : Except DecodeError Unit :=
  match closing with
  | .stopped stop _ => .error (.unreadable stop.wanted)
  | _ => .ok ()

namespace Decoder

def text : Decoder String
  | _, .string (.ok s) => .ok s
  | _, .plain s _ => .ok s
  | _, o => o.wrong "a string"

def flag : Decoder Bool
  | _, .bool b => .ok b
  | _, .plain _ (some (.ok (.bool b))) => .ok b
  | _, o => o.wrong "a boolean"

/-- An integer from zero up; the name of its type stands in the message.  Without quotation marks it
has no minus sign, even if it is zero. -/
def natural (expected : String) : Decoder Nat
  | _, .number (.ok (.integer n fits)) =>
    if n < 0 then .error (.wrongValue (.number (.integer n fits)) expected) else .ok n.toNat
  | _, .plain text (some (.ok (.number (.integer n fits)))) =>
    if n < 0 || text.startsWith "-" then
      .error (.wrongValue (.number (.integer n fits)) expected)
    else
      .ok n.toNat
  | _, o => o.wrong expected

def word : Decoder UInt64 :=
  fun rules o => (natural "u64" rules o).map UInt64.ofNat

/-- A value, or null where there is none.  A value that only reads as null is one. -/
def option {α : Type} (decode : Decoder α) : Decoder (Option α)
  | _, .null | _, .plain _ none => .ok none
  | rules, o => (decode rules o).map some

def items {α : Type} (decode : Decoder α) (rules : DecodingRules) :
    List Outline → Except DecodeError (List α)
  | [] => .ok []
  | o :: rest => do
    let value ← decode rules o
    let values ← items decode rules rest
    pure (value :: values)

def list {α : Type} (decode : Decoder α) : Decoder (List α)
  | rules, .array os closing => do
    if rules.room = 0 then throw (.unreadable .nestedTooDeep)
    let values ← items decode rules.within os
    closing.check
    pure values
  | _, .plain "" _ => .ok []
  | _, o => o.wrong "a sequence"

/-- Check what stands beside a name that has been chosen as the member of an object. -/
def beside (form : ChoiceForm) (content : Outline) : Except DecodeError Unit :=
  match form, content with
  | .withNull, .null | .withEmpty, .array [] _ | .withEmpty, .object [] _ => .ok ()
  | _, content => content.wrong "unit"

/-- One of several names, or an object with such a name as its only member. -/
def variant {α : Type} (known : List (String × α)) : Decoder α :=
  let named (name : String) : Except DecodeError α :=
    match known.lookup name with
    | some value => .ok value
    | none => .error (.unknownVariant name (known.map Prod.fst))
  fun rules o =>
    match o with
    | .string (.ok name) | .plain name _ => named name
    | .object [(.ok name, content)] _ => do
      let value ← named name
      beside rules.choice content
      pure value
    | .object _ _ => .error (.wrongValue .map "map with a single key")
    | o => o.wrong "string or map"

mutual

/-- Any value. -/
def any (rules : DecodingRules) : Outline → Except DecodeError Json
  | .null => .ok .null
  | .bool b => .ok (.bool b)
  | .number (.ok n) => .ok (.number n)
  | .number (.error fault) => .error (.unreadable fault)
  | .string (.ok s) => .ok (.string s)
  | .string (.error fault) => .error (.unreadable fault)
  | .plain _ none => .ok .null
  | .plain _ (some (.ok meaning)) => .ok meaning
  | .plain _ (some (.error fault)) => .error (.unreadable fault)
  | .array os closing => do
    if rules.room = 0 then throw (.unreadable .nestedTooDeep)
    let values ← anyItems rules.within os
    closing.check
    pure (.array values)
  | .object members closing => do
    if rules.room = 0 then throw (.unreadable .nestedTooDeep)
    let entries ← anyMembers rules.within members
    closing.check
    pure (.object (Fields.ofEntries entries))
  | .cut stop => .error (.unreadable stop.wanted)

def anyItems (rules : DecodingRules) : List Outline → Except DecodeError (List Json)
  | [] => .ok []
  | o :: rest => do
    let value ← any rules o
    let values ← anyItems rules rest
    pure (value :: values)

def anyMembers (rules : DecodingRules) :
    List (Except Fault String × Outline) → Except DecodeError (List (String × Json))
  | [] => .ok []
  | (.error fault, _) :: _ => .error (.unreadable fault)
  | (.ok key, o) :: rest => do
    let value ← any rules o
    let entries ← anyMembers rules rest
    pure ((key, value) :: entries)

end

mutual

/-- Pass over a value. -/
def skip : Outline → Except DecodeError Unit
  | .array os closing => do
    skipItems os
    skipClosing closing
  | .object members closing => do
    skipMembers members
    skipClosing closing
  | .cut stop => .error (.unreadable stop.skipped)
  | _ => .ok ()

def skipItems : List Outline → Except DecodeError Unit
  | [] => .ok ()
  | o :: rest => do
    skip o
    skipItems rest

def skipMembers : List (Except Fault String × Outline) → Except DecodeError Unit
  | [] => .ok ()
  | (_, o) :: rest => do
    skip o
    skipMembers rest

def skipClosing : Closing → Except DecodeError Unit
  | .stopped stop _ => .error (.unreadable stop.skipped)
  | _ => .ok ()

end

end Decoder

/-! ## Records -/

/-- A value, or the first fault and its place among the fields of a record. -/
inductive Assembled (α : Type) where
  | value (content : α)
  | fault (place : Nat) (error : DecodeError)

namespace Assembled

/-- Of two faults the one in the earlier place is kept; at one place, the first. -/
def seq {α : Type} {β : Type} : Assembled (α → β) → Assembled α → Assembled β
  | .value f, .value a => .value (f a)
  | .value _, .fault place error => .fault place error
  | .fault place error, .value _ => .fault place error
  | .fault place error, .fault other later =>
    if other < place then .fault other later else .fault place error

instance : Applicative Assembled where
  pure := .value
  seq f a := seq f (a ())

/-- The outcome of decoding what stands at a place. -/
def atPlace {α : Type} (place : Nat) : Except DecodeError α → Assembled α
  | .ok a => .value a
  | .error e => .fault place e

def result {α : Type} : Assembled α → Except DecodeError α
  | .value a => .ok a
  | .fault _ e => .error e

end Assembled

/-- The fields of a record, as a list in order or as members by name. -/
inductive Parts where
  | items (list : List Outline) (closing : Closing)
  | members (list : List (Except Fault String × Outline)) (closing : Closing)

namespace Parts

/-- The first member with a name, and its place. -/
def find? (name : String) :
    Nat → List (Except Fault String × Outline) → Option (Nat × Outline)
  | _, [] => none
  | place, (.ok key, o) :: rest =>
    if key = name then some (place, o) else find? name (place + 1) rest
  | place, (.error _, _) :: rest => find? name (place + 1) rest

/-- A field, by its place in order and its name. -/
def field {α : Type} (parts : Parts) (rules : DecodingRules) (index : Nat) (name : String) (decode : Decoder α)
    (absent : Assembled α) : Assembled α :=
  match parts with
  | .items list _ =>
    match list[index]? with
    | some o => .atPlace index (decode rules o)
    | none => absent
  | .members list _ =>
    match find? name 0 list with
    | some (place, o) => .atPlace place (decode rules o)
    | none => absent

/-- The fault of a field that is not there; `expected` tells of the whole record. -/
def missing {α : Type} (parts : Parts) (expected : String) (index : Nat) (name : String) :
    Assembled α :=
  match parts with
  | .items _ _ => .fault index (.wrongLength index expected)
  | .members list _ => .fault (list.length + 1) (.missingField name)

/-- Members that repeat a known name or hold a fault.  Unknown names are passed over. -/
def checkMembers (known : List String) (closing : Closing) :
    Nat → List String → List (Except Fault String × Outline) → Assembled Unit
  | place, _, [] => .atPlace place closing.check
  | place, _, (.error fault, _) :: _ => .fault place (.unreadable fault)
  | place, seen, (.ok key, o) :: rest =>
    if known.contains key then
      if seen.contains key then
        .fault place (.duplicateField key)
      else
        checkMembers known closing (place + 1) (key :: seen) rest
    else
      match Decoder.skip o with
      | .ok () => checkMembers known closing (place + 1) seen rest
      | .error e => .fault place e

/-- A list that stops early or holds more than the fields. -/
def checkItems (count : Nat) (list : List Outline) (closing : Closing) : Assembled Unit :=
  if count < list.length then
    match closing with
    | .complete => .fault count (.wrongLength list.length "fewer elements in array")
    | _ => .fault count (.unreadable .trailingCharacters)
  else
    match closing with
    | .stopped stop full =>
      if list.length < count then
        .fault list.length (.unreadable stop.wanted)
      else
        .fault count (.unreadable full)
    | _ => .value ()

def check (known : List String) : Parts → Assembled Unit
  | .items list closing => checkItems known.length list closing
  | .members list closing => checkMembers known closing 0 [] list

end Parts

/-- The description of a record type: its name in messages, and the names of its fields. -/
structure RecordShape where
  title : String
  fieldNames : List String

namespace RecordShape

/-- What a list of too few fields lacks to be the record. -/
def withLength (shape : RecordShape) : String :=
  let count := shape.fieldNames.length
  "struct " ++ shape.title ++ " with " ++ toString count
    ++ (if count = 1 then " element" else " elements")

/-- Decode a record whose fields are assembled from its parts. -/
def decode {α : Type} (shape : RecordShape) (assemble : Parts → DecodingRules → Assembled α) :
    Decoder α :=
  fun rules o =>
    let record (parts : Parts) : Except DecodeError α :=
      if rules.room = 0 then
        .error (.unreadable .nestedTooDeep)
      else
        let checked := Functor.map (fun (_ : Unit) (a : α) => a) (parts.check shape.fieldNames)
        (Assembled.seq checked (assemble parts rules.within)).result
    match o with
    | .array list closing =>
      match rules.listed with
      | .never => o.wrong ("struct " ++ shape.title)
      | .exact => record (.items list closing)
      | .leading => record (.items (list.take shape.fieldNames.length) closing)
    | .object list closing => record (.members list closing)
    | .plain "" _ => record (.members [] .bracket)
    | o => o.wrong ("struct " ++ shape.title)

/-- A field that must be there. -/
def required {α : Type} (shape : RecordShape) (parts : Parts) (rules : DecodingRules) (index : Nat)
    (name : String) (decode : Decoder α) : Assembled α :=
  parts.field rules index name decode (parts.missing shape.withLength index name)

/-- A field that may be left out. -/
def defaulted {α : Type} (parts : Parts) (rules : DecodingRules) (index : Nat) (name : String)
    (decode : Decoder α) (default : α) : Assembled α :=
  parts.field rules index name decode (.value default)

end RecordShape

mutual

/-- The number of containers that are nested in each other. -/
def Json.height : Json → Nat
  | .array items => itemsHeight items + 1
  | .object members => membersHeight members + 1
  | _ => 0

def itemsHeight : List Json → Nat
  | [] => 0
  | item :: rest => max item.height (itemsHeight rest)

def membersHeight : List (String × Json) → Nat
  | [] => 0
  | (_, value) :: rest => max value.height (membersHeight rest)

end

/-- Decode a value that is at hand, however deeply it is nested. -/
def decodeValue {α : Type} (decode : Decoder α) (value : Json) : Except DecodeError α :=
  decode ⟨value.height, .withNull, .exact⟩ value.toOutline

end Crosswalk
