import Crosswalk.Text.Unprintable

/-!
# Quoted text

Text between double quotation marks in which every character is visible: the usual short escapes,
and the code point in braces for whatever has no visible form of its own.
-/

set_option autoImplicit false

namespace Crosswalk.Text

/-- The digits of a code point in lower-case hexadecimal. -/
def hexDigits (n : Nat) : List Char :=
  Nat.toDigits 16 n

/-- Whether quoted text spells the character by its code point. -/
def needsCodePoint (c : Char) : Bool :=
  graphemeExtenders.contains c || hangulFillers.contains c || unprintablePoints.contains c

/-- The characters that stand for one character in quoted text. -/
def quotedChar (c : Char) : List Char :=
  if c = '\x00' then ['\\', '0']
  else if c = '\t' then ['\\', 't']
  else if c = '\n' then ['\\', 'n']
  else if c = '\r' then ['\\', 'r']
  else if c = '"' then ['\\', '"']
  else if c = '\\' then ['\\', '\\']
  else if needsCodePoint c then ['\\', 'u', '\x7b'] ++ hexDigits c.toNat ++ ['\x7d']
  else [c]

/-- The text between quotation marks. -/
def quoted (s : String) : String :=
  String.ofList ('"' :: s.toList.flatMap quotedChar ++ ['"'])

end Crosswalk.Text
