import Crosswalk.Files.Name

/-!
# File trees

Directories and files, with a working directory from which relative paths start.  A file holds a
text, or bytes that are the text of nothing and cannot be read.  A path is followed piece by piece;
every piece but the last has to lead to a directory.  Operations give a new tree or the error of the
first thing that is in the way.
-/

set_option autoImplicit false

namespace Crosswalk.Files

inductive FileError where
  | notFound
  | alreadyExists
  | notDirectory
  | isDirectory
  | notText
  deriving DecidableEq, Repr

def FileError.message : FileError → String
  | .notFound => "No such file or directory (os error 2)"
  | .alreadyExists => "File exists (os error 17)"
  | .notDirectory => "Not a directory (os error 20)"
  | .isDirectory => "Is a directory (os error 21)"
  | .notText => "stream did not contain valid UTF-8"

inductive Node where
  | file (text : String)
  /-- A file whose bytes are not those of a text. -/
  | binary (bytes : List UInt8)
  | directory (entries : List (String × Node))

/-- The names that lead from the root to a node. -/
abbrev Location :=
  List String

namespace Node

def at? : Node → Location → Option Node
  | node, [] => some node
  | .file _, _ :: _ | .binary _, _ :: _ => none
  | .directory entries, name :: rest =>
    match entries.lookup name with
    | some node => at? node rest
    | none => none

/-- Set the entry of a name, at the end if the name is new. -/
def setEntry (name : String) (node : Node) : List (String × Node) → List (String × Node)
  | [] => [(name, node)]
  | (other, old) :: rest =>
    if other = name then (name, node) :: rest else (other, old) :: setEntry name node rest

/-- Put a node at a location whose directories are there. -/
def put (new : Node) : Location → Node → Node
  | [], _ => new
  | _ :: _, .file text => .file text
  | _ :: _, .binary bytes => .binary bytes
  | name :: rest, .directory entries =>
    match rest, entries.lookup name with
    | [], _ => .directory (setEntry name new entries)
    | rest, some node => .directory (setEntry name (put new rest node) entries)
    | _ :: _, none => .directory entries

mutual

/-- The files of text below a node, each with its location. -/
def files (location : Location) : Node → List (Location × String)
  | .file text => [(location, text)]
  | .binary _ => []
  | .directory entries => entryFiles location entries

def entryFiles (location : Location) : List (String × Node) → List (Location × String)
  | [] => []
  | (name, node) :: rest => files (location ++ [name]) node ++ entryFiles location rest

end

end Node

structure Tree where
  root : Node
  workingDirectory : Location

namespace Tree

/-- Nothing but a working directory of the given name under the root. -/
def ofDirectory (name : String) : Tree :=
  ⟨.directory [(name, .directory [])], [name]⟩

def node? (tree : Tree) (location : Location) : Option Node :=
  tree.root.at? location

/-- Where a piece of a path leads from a location. -/
def step (tree : Tree) (location : Location) (piece : String) : Except FileError Location :=
  match tree.node? location with
  | none => .error .notFound
  | some (.file _) | some (.binary _) => .error .notDirectory
  | some (.directory entries) =>
    if piece = "." then .ok location
    else if piece = ".." then .ok location.dropLast
    else if (entries.lookup piece).isSome then .ok (location ++ [piece])
    else .error .notFound

/-- Where the first piece of a path starts. -/
def origin (tree : Tree) (path : String) : Location :=
  if isAbsolute path then [] else tree.workingDirectory

def follow (tree : Tree) (location : Location) (pieces : List String) :
    Except FileError Location :=
  pieces.foldlM tree.step location

/-- The location that a path leads to. -/
def resolve (tree : Tree) (path : String) : Except FileError Location :=
  if path.isEmpty then
    .error .notFound
  else
    tree.follow (tree.origin path) (pieces path ++ if endsWithSlash path then ["."] else [])

def contains (tree : Tree) (path : String) : Bool :=
  (tree.resolve path).isOk

def isDirectory (tree : Tree) (path : String) : Bool :=
  match tree.resolve path with
  | .error _ => false
  | .ok location =>
    match tree.node? location with
    | some (.directory _) => true
    | _ => false

/-- The text of the file at a path. -/
def read (tree : Tree) (path : String) : Except FileError String := do
  let location ← tree.resolve path
  match tree.node? location with
  | some (.file text) => .ok text
  | some (.binary _) => .error .notText
  | some (.directory _) => .error .isDirectory
  | none => .error .notFound

/-- The directory that a path with a last piece is in, and that piece. -/
def resolveParent (tree : Tree) (path : String) : Except FileError (Location × String) :=
  match (pieces path).getLast? with
  | none => .error (if isAbsolute path then .isDirectory else .notFound)
  | some name => do
    let location ← tree.follow (tree.origin path) (pieces path).dropLast
    match tree.node? location with
    | some (.directory _) => .ok (location, name)
    | some (.file _) | some (.binary _) => .error .notDirectory
    | none => .error .notFound

/-- Where a file can be written under a path: in place of one that is there, or anew. -/
def writable (tree : Tree) (path : String) : Except FileError Location := do
  let (location, name) ← tree.resolveParent path
  if name = "." || name = ".." || endsWithSlash path then
    .error .isDirectory
  else
    match tree.node? (location ++ [name]) with
    | some (.directory _) => .error .isDirectory
    | _ => .ok (location ++ [name])

/-- Write a file, whatever it held before.  The directory has to be there. -/
def write (tree : Tree) (path text : String) : Except FileError Tree := do
  let location ← tree.writable path
  .ok { tree with root := Node.put (.file text) location tree.root }

/-- Add to the end of a file, which may be new.  Bytes that are no text do not become one. -/
def append (tree : Tree) (path text : String) : Except FileError Tree := do
  let location ← tree.writable path
  let node :=
    match tree.node? location with
    | some (.file old) => .file (old ++ text)
    | some (.binary bytes) => .binary (bytes ++ text.toUTF8.toList)
    | _ => .file text
  .ok { tree with root := Node.put node location tree.root }

/-- Make one directory. -/
def makeDirectory (tree : Tree) (path : String) : Except FileError Tree := do
  match tree.resolveParent path with
  | .error .isDirectory => .error .alreadyExists
  | .error e => .error e
  | .ok (location, name) =>
    if name = "." || name = ".." || (tree.node? (location ++ [name])).isSome then
      .error .alreadyExists
    else
      .ok { tree with root := Node.put (.directory []) (location ++ [name]) tree.root }

/-- Make a directory and those that it is to be in; `fuel` bounds their number. -/
def makeDirectoriesFrom : Nat → Tree → String → Except FileError Tree
  | 0, tree, _ => .ok tree
  | fuel + 1, tree, path =>
    if path.isEmpty then
      .ok tree
    else
      let settle (tree : Tree) (e : FileError) : Except FileError Tree :=
        if tree.isDirectory path then .ok tree else .error e
      match tree.makeDirectory path with
      | .ok tree => .ok tree
      | .error .notFound =>
        match parent? path with
        | none => .error .notFound
        | some directory =>
          match makeDirectoriesFrom fuel tree directory with
          | .error e => .error e
          | .ok tree =>
            match tree.makeDirectory path with
            | .ok tree => .ok tree
            | .error e => settle tree e
      | .error e => settle tree e

/-- Make a directory and all that it is to be in, as far as they are missing. -/
def makeDirectories (tree : Tree) (path : String) : Except FileError Tree :=
  makeDirectoriesFrom ((parts path).length + 1) tree path

/-- Write a file, and make its directory first if that is missing. -/
def save (tree : Tree) (path text : String) : Except FileError Tree := do
  let tree ←
    match parent? path with
    | some directory => tree.makeDirectories directory
    | none => .ok tree
  tree.write path text

/-- The files of text below the working directory, each with its path from there. -/
def files (tree : Tree) : List (String × String) :=
  match tree.node? tree.workingDirectory with
  | some node => (node.files []).map fun (location, text) => ("/".intercalate location, text)
  | none => []

end Tree

end Crosswalk.Files
