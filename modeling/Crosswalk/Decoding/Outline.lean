import Crosswalk.Json.Basic

/-!
# Outlines

The outline of a text is what can be read of it up to the first place where it stops to be well
formed.  Decoders walk the outline in the order of the text, so whatever they object to early wins
over a mistake that stands later.  How a mistake is described depends on whether the value was
wanted or only passed over.
-/

set_option autoImplicit false

namespace Crosswalk

/-- The ways in which a text fails to be JSON. -/
inductive Fault where
  | endInValue
  | endInList
  | endInObject
  | endInString
  | expectedValue
  | expectedWord
  | expectedColon
  | expectedListEnd
  | expectedObjectEnd
  | keyNotString
  | invalidNumber
  | numberOutOfRange
  | trailingComma
  | trailingCharacters
  | invalidEscape
  | unfinishedSurrogate
  | loneSurrogate
  | controlCharacter
  | nestedTooDeep
  deriving DecidableEq, Repr

def Fault.message : Fault → String
  | .endInValue => "EOF while parsing a value"
  | .endInList => "EOF while parsing a list"
  | .endInObject => "EOF while parsing an object"
  | .endInString => "EOF while parsing a string"
  | .expectedValue => "expected value"
  | .expectedWord => "expected ident"
  | .expectedColon => "expected `:`"
  | .expectedListEnd => "expected `,` or `]`"
  | .expectedObjectEnd => "expected `,` or `\x7d`"
  | .keyNotString => "key must be a string"
  | .invalidNumber => "invalid number"
  | .numberOutOfRange => "number out of range"
  | .trailingComma => "trailing comma"
  | .trailingCharacters => "trailing characters"
  | .invalidEscape => "invalid escape"
  | .unfinishedSurrogate => "unexpected end of hex escape"
  | .loneSurrogate => "lone leading surrogate in hex escape"
  | .controlCharacter => "control character (\\u0000-\\u001F) found while parsing a string"
  | .nestedTooDeep => "recursion limit exceeded"

/-- A place where a text stops to be JSON: the fault when the value there is wanted, and when it
is passed over. -/
structure Stop where
  wanted : Fault
  skipped : Fault
  deriving DecidableEq, Repr

/-- A stop that is described in one way. -/
def Stop.plain (fault : Fault) : Stop :=
  ⟨fault, fault⟩

/-- How a list or an object ends. -/
inductive Closing where
  /-- With its bracket. -/
  | bracket
  /-- All entries were known beforehand; there was no text. -/
  | complete
  /-- It does not.  The second fault is that of a list in which nothing more may stand. -/
  | stopped (stop : Stop) (full : Fault)
  deriving DecidableEq, Repr

/-- What a text says, in the order of the text.  Numbers and strings that have the right form and
stand for no value hold their fault. -/
inductive Outline where
  | null
  | bool (value : Bool)
  | number (value : Except Fault Number)
  | string (value : Except Fault String)
  | array (items : List Outline) (closing : Closing)
  | object (members : List (Except Fault String × Outline)) (closing : Closing)
  /-- Text without quotation marks, which is itself where text is wanted and elsewhere means a
  value, or that there is none. -/
  | plain (text : String) (meaning : Option (Except Fault Json))
  /-- No value could be read. -/
  | cut (stop : Stop)

mutual

/-- The outline of a value that is at hand. -/
def Json.toOutline : Json → Outline
  | .null => .null
  | .bool b => .bool b
  | .number n => .number (.ok n)
  | .string s => .string (.ok s)
  | .array items => .array (itemOutlines items) .complete
  | .object members => .object (memberOutlines members) .complete

def itemOutlines : List Json → List Outline
  | [] => []
  | item :: rest => item.toOutline :: itemOutlines rest

def memberOutlines : List (String × Json) → List (Except Fault String × Outline)
  | [] => []
  | (key, value) :: rest => (.ok key, value.toOutline) :: memberOutlines rest

end

end Crosswalk
