import Crosswalk.Text.Alphabetic
import Crosswalk.Text.Blank
import Crosswalk.Text.Case

/-!
# The built-in masks

A mask is a function on text.  The built-in ones trim the text and change the case of its letters;
applying one again changes nothing.
-/

set_option autoImplicit false

namespace Crosswalk

/-- A function that tidies a text. -/
abbrev Mask :=
  String → String

namespace Mask

/-- The letters with a title case of their own, which stand for two letters at once. -/
def digraphs : List (Char × Char) :=
  [('Ǆ', 'ǅ'), ('ǅ', 'ǅ'), ('ǆ', 'ǅ'), ('Ǉ', 'ǈ'), ('ǈ', 'ǈ'), ('ǉ', 'ǈ'),
    ('Ǌ', 'ǋ'), ('ǋ', 'ǋ'), ('ǌ', 'ǋ'), ('Ǳ', 'ǲ'), ('ǲ', 'ǲ'), ('ǳ', 'ǲ')]

/-- The letters that have an upper case and no title case. -/
def untitled : Text.CodePointSet :=
  [(0x10D0, 0x10FA), (0x10FD, 0x10FF)]

/-- The title case of a character: the first character of its upper case, and the rest of it in
lower case. -/
def titleChar (c : Char) : List Char :=
  match digraphs.lookup c with
  | some titled => [titled]
  | none =>
    if untitled.contains c then
      [c]
    else
      match Text.upperChar c with
      | first :: rest => first :: rest.flatMap Text.lowerChar
      | [] => []

/-- Title case of a text of which the first word may have begun already.  A word starts at a
letter after anything but a letter or a combining mark. -/
def titleCharsFrom (inWord : Bool) : List Char → List Char
  | [] => []
  | c :: rest =>
    if Text.isLetter c then
      (if inWord then Text.lowerChar c else titleChar c) ++ titleCharsFrom true rest
    else
      c :: titleCharsFrom (inWord && Text.isCombiningMark c) rest

def titleChars (cs : List Char) : List Char :=
  titleCharsFrom false cs

def cleanChars (cs : List Char) : List Char :=
  Text.lowercase (Text.trim cs)

/-- A mask from a function on characters. -/
def ofChars (f : List Char → List Char) : Mask :=
  fun s => String.ofList (f s.toList)

/-- The first letter of every word in title case, and the other letters in lower case. -/
def titleCase : Mask :=
  ofChars titleChars

/-- Without blanks around, in lower case. -/
def cleanString : Mask :=
  ofChars cleanChars

/-- Without blanks around, every word capitalized. -/
def capitalLetter : Mask :=
  ofChars fun cs => titleChars (cleanChars cs)

/-- Without blanks around, in upper case. -/
def upperCase : Mask :=
  ofChars fun cs => Text.uppercase (Text.trim cs)

/-- Without blanks around. -/
def trim : Mask :=
  ofChars Text.trim

end Mask

end Crosswalk
