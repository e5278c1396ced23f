/-!
# File names

What a path says as text, whether or not a file is there.  Slashes in a row count as one, and a
single dot means nothing except at the start of a relative path.  The extension of a name is what
follows its last dot, unless that dot is its first character.
-/

set_option autoImplicit false

namespace Crosswalk.Files

/-- The pieces of a text between slashes, of which there is one more than slashes. -/
def splitSlashes : List Char → List (List Char)
  | [] => [[]]
  | c :: rest =>
    if c = '/' then [] :: splitSlashes rest
    else
      match splitSlashes rest with
      | [] => [[c]]
      | piece :: others => (c :: piece) :: others

/-- The pieces of a path that are not empty. -/
def pieces (path : String) : List String :=
  ((splitSlashes path.toList).filter fun piece => !piece.isEmpty).map String.ofList

def isAbsolute (path : String) : Bool :=
  path.toList.head? = some '/'

/-- A path that ends with a slash can only name a directory. -/
def endsWithSlash (path : String) : Bool :=
  path.toList.getLast? = some '/'

/-- The pieces of a path that tell it apart from others: a path and the same path with further
slashes or inner dots have the same. -/
def parts (path : String) : List String :=
  match pieces path with
  | "." :: rest =>
    let inner := rest.filter (· != ".")
    if isAbsolute path then inner else "." :: inner
  | all => all.filter (· != ".")

/-- Whether two texts are spellings of one path. -/
def samePath (path other : String) : Bool :=
  isAbsolute path == isAbsolute other && parts path == parts other

/-- The path of the directory that holds what a path names; a lone name has an empty one, and the
root has none. -/
def parent? (path : String) : Option String :=
  match parts path with
  | [] => none
  | all =>
    let directory := "/".intercalate all.dropLast
    some (if isAbsolute path then "/" ++ directory else directory)

/-- The name at the end of a path, if it is one. -/
def fileName? (path : String) : Option String :=
  (parts path).getLast?.filter fun name => name != "." && name != ".."

/-- What follows the last dot of a name, if there is something before that dot. -/
def extensionOf? (name : List Char) : Option (List Char) :=
  let after := name.reverse.takeWhile (· != '.')
  match name.reverse.drop after.length with
  | '.' :: _ :: _ => some after.reverse
  | _ => none

/-- The extension of the name at the end of a path. -/
def extension? (path : String) : Option String :=
  ((fileName? path).bind fun name => extensionOf? name.toList).map String.ofList

end Crosswalk.Files
