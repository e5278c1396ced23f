import Crosswalk.Yaml.Scalar
import Crosswalk.Yaml.Text

/-!
# Reading YAML

A text holds one document.  Lists and maps are told by signs and indentation or by brackets;
a value may be given a name and stand again under it.  A text that breaks the rules has no
outline at all.
-/

set_option autoImplicit false

namespace Crosswalk.Yaml

/-- What an empty place stands for. -/
def emptyScalar : Outline :=
  .plain "" none

/-- A scalar as a key is its text; no other value is one. -/
def keyText : Outline → Except Fault String
  | .plain text _ => .ok text
  | .string s => s
  | _ => .error .keyNotString

def plainOutline (cs : List Char) : Outline :=
  let s := String.ofList cs
  .plain s (meaning s)

def quotedOutline (cs : List Char) : Outline :=
  .string (.ok (String.ofList cs))

/-! ## Names -/

def isNameChar (c : Char) : Bool :=
  c.isAlphanum || c = '_' || c = '-'

/-- The name after an ampersand or an asterisk. -/
def readName (place : Place) : Option (String × Place) :=
  let name := place.rest.tail.takeWhile isNameChar
  let after := place.drop (name.length + 1)
  if name.isEmpty then none
  else if endsToken after.head?
      || after.head?.any (['?', ':', ',', ']', '\x7d', '%', '@', '`'].contains ·) then
    some (String.ofList name, after)
  else
    none

/-- The value under a name. -/
def readAlias (place : Place) : Option (Outline × Place) := do
  let (name, after) ← readName place
  let value ← after.anchors.lookup name
  return (value, after)

/-! ## Values in brackets -/

/-- The greatest length of a key that no mark announces. -/
def keyLimit : Nat :=
  1024

/-- The place after the colon that makes what stands between two places a key. -/
def pastColon? (flow : Bool) (first last : Place) : Option Place :=
  let colon := last.skipBlanks
  let isColon := if flow then colon.head? = some ':' else colon.atSign ':'
  if isColon && first.line = colon.line && colon.column ≤ first.column + keyLimit then
    some (colon.drop 1)
  else
    none

mutual

/-- A value inside brackets, at its first token; `floor` is the least indentation of the block
around the brackets. -/
def flowValue (floor : Nat) : Nat → Place → Option (Outline × Place)
  | 0, _ => none
  | fuel + 1, place =>
    if place.ended then
      none
    else
      match place.head? with
      | some '[' => do
        let (items, last) ← flowItems floor fuel (place.drop 1)
        return (.array items .bracket, last)
      | some '\x7b' => do
        let (members, last) ← flowMembers floor fuel (place.drop 1)
        return (.object members .bracket, last)
      | some '\'' => (quotedText false place).map fun (cs, last) => (quotedOutline cs, last)
      | some '"' => (quotedText true place).map fun (cs, last) => (quotedOutline cs, last)
      | some '*' => readAlias place
      | some '&' => do
        let (name, after) ← readName place
        let next := after.skip true
        let (value, last) ←
          match next.head? with
          | some ':' => some (emptyScalar, after)
          | some '&' | some '*' => none
          | _ => flowOrEmpty floor fuel next
        return (value, last.bind name value)
      | _ => (plainText true floor place).map fun (cs, last) => (plainOutline cs, last)

/-- A value inside brackets, or nothing before the sign that ends it. -/
def flowOrEmpty (floor : Nat) : Nat → Place → Option (Outline × Place)
  | 0, _ => none
  | fuel + 1, place =>
    match place.head? with
    | some ',' | some ']' | some '\x7d' => some (emptyScalar, place)
    | _ => flowValue floor fuel place

/-- What stands after a colon inside brackets, if there is one. -/
def flowContent (floor : Nat) : Nat → Place → Option (Outline × Place)
  | 0, _ => none
  | fuel + 1, place =>
    let next := place.skip true
    if next.head? = some ':' then
      flowOrEmpty floor fuel ((next.drop 1).skip true)
    else
      some (emptyScalar, place)

/-- A key and its value inside brackets, at the first token.  A question mark announces the key;
otherwise the colon has to stand on the same line.  The value is missing where there is no
colon.  In a list a question mark without a key takes the sign after it along. -/
def flowMember (floor : Nat) (inList : Bool) :
    Nat → Place → Option (Outline × Option Outline × Place)
  | 0, _ => none
  | fuel + 1, place =>
    if place.head? = some '?' then do
      let next := (place.drop 1).skip true
      let (key, last) ←
        if inList && next.head?.any [':', ',', ']'].contains then
          some (emptyScalar, next.drop 1)
        else if next.head? = some ':' then some (emptyScalar, next)
        else flowOrEmpty floor fuel next
      let (content, last) ← flowContent floor fuel last
      return (key, some content, last)
    else do
      let (key, last) ← flowValue floor fuel place
      match pastColon? true place last with
      | none => return (key, none, last)
      | some after =>
        let (content, last) ← flowOrEmpty floor fuel (after.skip true)
        return (key, some content, last)

/-- The items of a list up to its bracket.  An item may be a map of one member. -/
def flowItems (floor : Nat) : Nat → Place → Option (List Outline × Place)
  | 0, _ => none
  | fuel + 1, place => do
    let first := place.skip true
    if first.head? = some ']' then
      return ([], first.drop 1)
    let (key, content, last) ← flowMember floor true fuel first
    let item :=
      match content with
      | none => key
      | some content => Outline.object [(keyText key, content)] .bracket
    let next := last.skip true
    match next.head? with
    | some ',' =>
      let (items, last) ← flowItems floor fuel (next.drop 1)
      return (item :: items, last)
    | some ']' => return ([item], next.drop 1)
    | _ => none

/-- The members of a map up to its bracket.  A key without a colon has no value. -/
def flowMembers (floor : Nat) :
    Nat → Place → Option (List (Except Fault String × Outline) × Place)
  | 0, _ => none
  | fuel + 1, place => do
    let first := place.skip true
    if first.head? = some '\x7d' then
      return ([], first.drop 1)
    let (key, content, last) ← flowMember floor false fuel first
    let member := (keyText key, content.getD emptyScalar)
    let next := last.skip true
    match next.head? with
    | some ',' =>
      let (members, last) ← flowMembers floor fuel (next.drop 1)
      return (member :: members, last)
    | some '\x7d' => return ([member], next.drop 1)
    | _ => none

end

/-! ## Values in blocks -/

/-- A value that starts and may end on one line, and so may be a key: anything but a list or a map
in block style.  `floor` is the least indentation of its further lines. -/
def leaf (floor : Nat) (place : Place) : Option (Outline × Place) :=
  match place.head? with
  | some '|' => (blockText false floor place).map fun (cs, last) => (quotedOutline cs, last)
  | some '>' => (blockText true floor place).map fun (cs, last) => (quotedOutline cs, last)
  | some '\'' | some '"' | some '[' | some '\x7b' | some '*' =>
    flowValue floor (4 * place.rest.length + 4) place
  | _ => (plainText false floor place).map fun (cs, last) => (plainOutline cs, last)

/-- A leaf with or without a name.  A value that has a name and nothing else is a key. -/
def namedLeaf (floor : Nat) (place : Place) : Option (Outline × Place) :=
  if place.head? = some '&' then do
    let (name, after) ← readName place
    let next := after.skipBlanks
    let (value, last) ←
      if next.atSign ':' then some (emptyScalar, after)
      else if next.head? = some '*' then none
      else leaf floor next
    return (value, last.bind name value)
  else
    leaf floor place

/-- Nothing but blanks and a comment stands on the rest of the line. -/
def lineEnds (place : Place) : Bool :=
  let place := place.skipBlanks
  place.rest.isEmpty || place.head?.any endsLine || place.head? = some '#'

mutual

/-- A value at its first token.  Where `named` holds, it has got a name already. -/
def blockValue : Nat → Nat → Bool → Bool → Place → Option (Outline × Place)
  | 0, _, _, _, _ => none
  | fuel + 1, floor, listed, named, place =>
    if place.atSign '-' then
      if place.fresh then do
        let (items, last) ← blockItems fuel place.column place
        return (.array items .bracket, last)
      else
        none
    else if place.atSign '?' then
      if place.fresh then do
        let (members, last) ← blockMembers fuel place.column place
        return (.object members .bracket, last)
      else
        none
    else
      let ownName :=
        if place.head? = some '&' && !named then
          (readName place).filter fun (_, after) => lineEnds after
        else
          none
      match ownName with
      | some (name, after) => do
        let (value, last) ← blockContent fuel floor listed true after
        return (value, last.bind name value)
      | none => do
        let (value, last) ← namedLeaf floor place
        if place.fresh && (pastColon? false place last).isSome then
          let (members, last) ← blockMembers fuel place.column place
          return (.object members .bracket, last)
        else if named && (place.head? = some '&' || place.head? = some '*') then
          none
        else
          return (value, last)

/-- What stands after a sign or a name, if anything: on the same line, or indented on later ones.
Where `listed` holds, a list need not be indented, and a block of text never needs to. -/
def blockContent : Nat → Nat → Bool → Bool → Place → Option (Outline × Place)
  | 0, _, _, _, _ => none
  | fuel + 1, floor, listed, named, place =>
    let next := place.skip false
    if next.ended then
      some (emptyScalar, next)
    else if next.line = place.line || floor ≤ next.column
        || (next.column + 1 = floor && (next.head? = some '|' || next.head? = some '>')) then
      blockValue fuel floor listed named next
    else if listed && next.column + 1 = floor && next.atSign '-' then do
      let (items, last) ← blockItems fuel next.column next
      return (.array items .bracket, last)
    else
      some (emptyScalar, next)

/-- The items of a list whose dashes stand in a column. -/
def blockItems : Nat → Nat → Place → Option (List Outline × Place)
  | 0, _, _ => none
  | fuel + 1, column, place => do
    let (item, last) ← blockContent fuel (column + 1) false false place.pastSign
    let next := last.skip false
    if next.ended || next.column < column then
      return ([item], next)
    else if !next.fresh || next.column != column then
      none
    else if next.atSign '-' then
      let (items, last) ← blockItems fuel column next
      return (item :: items, last)
    else
      return ([item], next)

/-- The members of a map whose keys stand in a column. -/
def blockMembers :
    Nat → Nat → Place → Option (List (Except Fault String × Outline) × Place)
  | 0, _, _ => none
  | fuel + 1, column, place => do
    let floor := column + 1
    let (key, content, last) ←
      if place.atSign '?' then do
        let (key, last) ← blockContent fuel floor true false place.pastSign
        let next := last.skip false
        if next.fresh && next.column = column && next.atSign ':' then
          let (content, last) ← blockContent fuel floor true false next.pastSign
          some (key, content, last)
        else
          some (key, emptyScalar, next)
      else do
        let (key, last) ← namedLeaf floor place
        let after ← pastColon? false place last
        let (content, last) ← blockContent fuel floor true false after
        some (key, content, last)
    let member := (keyText key, content)
    let next := last.skip false
    if next.ended || next.column < column then
      return ([member], next)
    else if !next.fresh || next.column != column then
      none
    else
      let (members, last) ← blockMembers fuel column next
      return (member :: members, last)

end

/-! ## Documents -/

/-- The end of a text after its document. -/
def atEnd (place : Place) : Bool :=
  let next := place.skip false
  next.rest.isEmpty
    || (next.atMarker && next.head? = some '.' && endOnly next.rest.length (next.drop 3))
where
  /-- Nothing but further marks of an end. -/
  endOnly : Nat → Place → Bool
    | 0, _ => false
    | fuel + 1, place =>
      let next := place.skip false
      next.rest.isEmpty
        || (next.atMarker && next.head? = some '.' && endOnly fuel (next.drop 3))

/-- The outline of a text that is one document. -/
def outline? (s : String) : Option Outline := do
  let cs := s.toList
  if !cs.all isAllowed then
    none
  else
    let first := (Place.start (normalizeBreaks cs)).skip false
    if first.rest.isEmpty then
      some emptyScalar
    else if first.atMarker && first.head? != some '-' then
      none
    else
      let place := if first.atMarker then first.drop 3 else first
      let (value, last) ← blockContent (4 * cs.length + 4) 0 false false place
      if atEnd last then some value else none

end Crosswalk.Yaml
