import Crosswalk.Error
import Crosswalk.Fields

/-!
# Tables of entries

A table is a list of entries of which no two share an identifier and, for the fields of records,
no two share a name.  One pass over the list enters the place of each entry in an index and reports
the first entry that repeats an earlier one.  Entries are looked up through the index.
-/

set_option autoImplicit false

namespace Crosswalk

variable {α : Type} [Entry α]

/-- The places of entries in a list, of each name in ascending order. -/
structure Index where
  ids : List (EntryId × Nat)
  names : Fields (List Nat)
  deriving DecidableEq, Repr

namespace Index

def empty : Index :=
  ⟨[], []⟩

def place? (index : Index) (id : EntryId) : Option Nat :=
  index.ids.lookup id

def places (index : Index) (name : String) : List Nat :=
  (Fields.get? index.names name).getD []

/-- Enter the place of an entry.  A repeated identifier is reported before a repeated name. -/
def enter (index : Index) (place : Nat) (entry : α) : Except CatalogFault Index :=
  if (index.place? (Entry.id entry)).isSome then
    .error (.duplicateId (Entry.table α) (Entry.id entry))
  else
    let ids := (Entry.id entry, place) :: index.ids
    match Entry.field? entry with
    | none => .ok ⟨ids, index.names⟩
    | some name =>
      let before := index.places name
      if Entry.uniqueField α && !before.isEmpty then
        .error (.duplicateName (Entry.table α) (Entry.id entry) name)
      else
        .ok ⟨ids, Fields.insert name (before ++ [place]) index.names⟩

/-- Enter the places of entries that stand one after another, the first of them at `place`. -/
def enterFrom (index : Index) (place : Nat) : List α → Except CatalogFault Index
  | [] => .ok index
  | entry :: rest =>
    match index.enter place entry with
    | .ok next => next.enterFrom (place + 1) rest
    | .error fault => .error fault

def ofEntries (entries : List α) : Except CatalogFault Index :=
  empty.enterFrom 0 entries

end Index

/-- Entries in order, none of which repeats another, and their index. -/
structure Table (α : Type) [Entry α] where
  entries : List α
  {index : Index}
  indexed : Index.ofEntries entries = .ok index

namespace Table

def ofList (entries : List α) : Except CatalogFault (Table α) :=
  match h : Index.ofEntries entries with
  | .ok _ => .ok ⟨entries, h⟩
  | .error fault => .error fault

instance : Inhabited (Table α) :=
  ⟨⟨[], rfl⟩⟩

def size (table : Table α) : Nat :=
  table.entries.length

def byId? (table : Table α) (id : EntryId) : Option α :=
  (table.index.place? id).bind fun place => table.entries[place]?

/-- The first entry that is known by a name. -/
def byField? (table : Table α) (name : String) : Option α :=
  (table.index.places name).head?.bind fun place => table.entries[place]?

/-- Every entry that is known by a name, in order. -/
def allByField (table : Table α) (name : String) : List α :=
  (table.index.places name).filterMap fun place => table.entries[place]?

end Table

end Crosswalk
