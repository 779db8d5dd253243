import DomainForge.Text.Split

/-!
# Paths

Paths are texts whose parts stand between slashes. Empty parts and single dots
say nothing, except for a dot that stands in front of everything.
-/

namespace DomainForge.Path

/-- Whether a path starts at the root. -/
def isAbsolute (path : List Char) : Bool :=
  path.head? == some '/'

/-- Whether a path starts with a single dot. -/
def startsHere : List Char → Bool
  | ['.'] => true
  | '.' :: '/' :: _ => true
  | _ => false

/-- The parts of a path. -/
def parts (path : String) : List String :=
  Text.fields (· == '/') path

/-- A path below a directory. An absolute path is kept as it is. -/
def join (directory path : String) : String :=
  if isAbsolute path.toList then path
  else if directory = "" ∨ directory.toList.getLast? = some '/' then directory ++ path
  else directory ++ "/" ++ path

/-- Whether a part says nothing. -/
def isIdle (part : List Char) : Bool :=
  part == [] || part == ['.']

/-- Parts without those at the end that say nothing. -/
def dropIdle (parts : List (List Char)) : List (List Char) :=
  (parts.reverse.dropWhile isIdle).reverse

/-- Parts put together with slashes between them. -/
def joinParts : List (List Char) → List Char
  | [] => []
  | [part] => part
  | part :: rest => part ++ '/' :: joinParts rest

/-- The directory above what the parts lead to, from a start. -/
def above? (start : List Char) (parts : List (List Char)) : Option (List Char) :=
  match dropIdle parts with
  | [] => none
  | found => some (start ++ joinParts (dropIdle found.dropLast))

/-- The directory in which a path lies: none for the root and for the empty
path, and the empty path for a path of a single part. -/
def parent? (path : String) : Option String :=
  let path := path.toList
  let found :=
    if isAbsolute path then above? ['/'] (Text.splitWhere (· == '/') (path.drop 1))
    else if startsHere path then
      (above? ['.'] (Text.splitWhere (· == '/') (path.drop 1))).or (some [])
    else above? [] (Text.splitWhere (· == '/') path)
  found.map String.ofList

end DomainForge.Path
