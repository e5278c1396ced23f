import Crosswalk.Decoding.Outline
import Crosswalk.Fields

/-!
# Tables of a TOML document

A document builds one table, part by part: headers open tables, and keys with dots reach into
tables.  What has been stated once stays as it is.  A header may open a table that was only
implied by a header before; keys with dots may only extend tables that such keys have made.
-/

set_option autoImplicit false

namespace Crosswalk.Toml

/-- How a table came to be. -/
inductive Origin where
  /-- A header names a table inside it. -/
  | implied
  /-- A key with dots reaches through it. -/
  | dotted
  /-- A header names it. -/
  | stated
  deriving DecidableEq, Repr

inductive Item where
  /-- A value that nothing can be added to. -/
  | value (content : Outline)
  | table (origin : Origin) (members : List (String × Item))
  /-- Tables under one header, of which the last is open. -/
  | tables (list : List (List (String × Item)))

abbrev Members :=
  List (String × Item)

mutual

def Item.toOutline : Item → Outline
  | .value content => content
  | .table _ members => .object (memberOutlines members) .bracket
  | .tables list => .array (tableOutlines list) .bracket

def memberOutlines : List (String × Item) → List (Except Fault String × Outline)
  | [] => []
  | (key, item) :: rest => (.ok key, item.toOutline) :: memberOutlines rest

def tableOutlines : List (List (String × Item)) → List Outline
  | [] => []
  | members :: rest => .object (memberOutlines members) .bracket :: tableOutlines rest

end

def Members.toOutline (members : Members) : Outline :=
  .object (memberOutlines members) .bracket

/-- Change the table that a path leads to.  Tables that are missing on the way are made; a path of
a dotted key may not lead through a table that a header states. -/
def update (dotted : Bool) (change : Origin → Members → Option Members) :
    List String → Origin → Members → Option Members
  | [], origin, members => change origin members
  | key :: path, _, members =>
    let within (origin : Origin) (inner : Members) : Option Members :=
      update dotted change path origin inner
    match Fields.get? members key with
    | none =>
      let origin := if dotted then Origin.dotted else .implied
      (within origin []).map fun inner => Fields.insert key (.table origin inner) members
    | some (.table origin inner) =>
      if dotted && origin == .stated then none
      else (within origin inner).map fun inner => Fields.insert key (.table origin inner) members
    | some (.tables list) =>
      match list.getLast? with
      | none => none
      | some inner =>
        (within .stated inner).map fun inner =>
          Fields.insert key (.tables (list.dropLast ++ [inner])) members
    | some (.value _) => none

/-- Give a value to a key that may have dots: the names before the last one, and the last one. -/
def assign (path : List String) (key : String) (value : Outline) (origin : Origin)
    (members : Members) : Option Members :=
  update true
    (fun origin members =>
      if (!path.isEmpty && origin != .dotted) || (Fields.get? members key).isSome then none
      else some (members ++ [(key, .value value)]))
    path origin members

/-- Open the table that a header names. -/
def openTable (path : List String) (key : String) (root : Members) : Option Members :=
  update false
    (fun _ members =>
      match Fields.get? members key with
      | none => some (members ++ [(key, .table .stated [])])
      | some (.table .implied inner) => some (Fields.insert key (.table .stated inner) members)
      | some _ => none)
    path .stated root

/-- Open a further table of the list that a header in double brackets names. -/
def openNext (path : List String) (key : String) (root : Members) : Option Members :=
  update false
    (fun _ members =>
      match Fields.get? members key with
      | none => some (members ++ [(key, .tables [[]])])
      | some (.tables list) => some (Fields.insert key (.tables (list ++ [[]])) members)
      | some _ => none)
    path .stated root

end Crosswalk.Toml
