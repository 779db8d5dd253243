import DomainForge.Files.Disk
import DomainForge.Text.Span

/-!
# Trees of files

A disk as a value: directories and files by their place, which is the list of
names from the root. Paths are followed part by part, so that every part but
the last must be a directory that is there.
-/

namespace DomainForge

/-- What stands at a place. -/
inductive FileEntry where
  | file (content : String)
  | directory
deriving Repr, DecidableEq, Inhabited

/-- The places of a disk below its root, and the directory at which relative
paths start. -/
structure FileTree where
  entries : List (List String × FileEntry) := []
  current : List String := []
deriving Repr, DecidableEq, Inhabited

namespace FileTree

/-- The number of bytes that a name may have. -/
def nameLimit : Nat := 255

/-- Whether something can be called by a name. -/
def isName (name : String) : Bool :=
  Text.byteLength name.toList ≤ nameLimit

/-- Whether a text can be a path at all: it is not empty and has no NUL. -/
def isPath (path : String) : Bool :=
  path ≠ "" && path.toList.all (· ≠ '\x00')

/-- What stands at a place. The root is always there. -/
def entry? (tree : FileTree) (place : List String) : Option FileEntry :=
  if place = [] then some .directory else tree.entries.lookup place

/-- Whether a place is a directory. -/
def isDirectory (tree : FileTree) (place : List String) : Bool :=
  tree.entry? place == some .directory

/-- Puts something at a place. -/
def put (tree : FileTree) (place : List String) (entry : FileEntry) : FileTree :=
  { tree with entries := (place, entry) :: tree.entries.filter (·.1 ≠ place) }

/-- The place at which a path starts. -/
def start (tree : FileTree) (path : String) : List String :=
  if Path.isAbsolute path.toList then [] else tree.current

/-- The place that a part leads to. There may be nothing at it. -/
def follow (place : List String) (part : String) : List String :=
  if part = "" ∨ part = "." then place
  else if part = ".." then place.dropLast
  else place ++ [part]

/-- The place that parts lead to, if there is something at it. -/
def walk (tree : FileTree) (place : List String) : List String → Option (List String)
  | [] => if (tree.entry? place).isSome then some place else none
  | part :: rest => if tree.isDirectory place then tree.walk (follow place part) rest else none

/-- The place of a path, if there is something at it. -/
def place? (tree : FileTree) (path : String) : Option (List String) :=
  if isPath path then tree.walk (tree.start path) (Path.parts path) else none

/-- Whether there is a file or a directory. -/
def isPresent (tree : FileTree) (path : String) : Bool :=
  (tree.place? path).isSome

/-- The text of a file. -/
def read? (tree : FileTree) (path : String) : Option String :=
  match (tree.place? path).bind tree.entry? with
  | some (.file content) => some content
  | _ => none

/-- Creates the directories that parts lead through, and tells whether all are
there. Those before a failure stay. -/
def makeAlong (tree : FileTree) (place : List String) : List String → FileTree × Bool
  | [] => (tree, tree.isDirectory place)
  | part :: rest =>
    let next := follow place part
    match tree.entry? next with
    | some .directory => tree.makeAlong next rest
    | some (.file _) => (tree, false)
    | none =>
      if isName part then (tree.put next .directory).makeAlong next rest else (tree, false)

/-- Creates a directory and those above it. The empty path stands for the
directory at which paths start. -/
def makeDirectories (tree : FileTree) (path : String) : FileTree × Bool :=
  if path = "" then (tree, true)
  else if isPath path then tree.makeAlong (tree.start path) (Path.parts path)
  else (tree, false)

/-- The place at which a file of a path would be written. -/
def target? (tree : FileTree) (path : String) : Option (List String) :=
  let parts := Path.parts path
  let name := parts.getLast?.getD ""
  if !isPath path || name = "" || name = "." || name = ".." || !isName name then none
  else
    match tree.walk (tree.start path) parts.dropLast with
    | none => none
    | some place =>
      if tree.isDirectory place && !tree.isDirectory (place ++ [name]) then some (place ++ [name])
      else none

/-- Writes a file. -/
def write (tree : FileTree) (path content : String) : FileTree × Bool :=
  match tree.target? path with
  | some place => (tree.put place (.file content), true)
  | none => (tree, false)

/-- A change of a tree as a step that tells whether it succeeded. -/
def changing (change : FileTree → FileTree × Bool) : StateM FileTree Bool :=
  modifyGet fun tree => (change tree).swap

/-- A tree of files as a disk. -/
def disk : Disk (StateM FileTree) where
  read? path := return (← get).read? path
  isPresent path := return (← get).isPresent path
  makeDirectories path := changing (·.makeDirectories path)
  write path content := changing (·.write path content)

/-! ## Listing -/

/-- Whether a place has something below it. -/
def isOccupied (tree : FileTree) (place : List String) : Bool :=
  tree.entries.any fun (other, _) => place.isPrefixOf other && other != place

/-- How a place below a directory is listed: a file with its content, and an
empty directory with a slash at the end. -/
def listed? (tree : FileTree) (directory : List String) :
    List String × FileEntry → Option (String × Option String)
  | (place, entry) =>
    if !directory.isPrefixOf place || place == directory then none
    else
      let shown := Text.joinWith "/" (place.drop directory.length)
      match entry with
      | .file content => some (shown, some content)
      | .directory => if tree.isOccupied place then none else some (shown ++ "/", none)

/-- The files and empty directories below a directory, sorted. -/
def listing (tree : FileTree) (directory : List String) : List (String × Option String) :=
  (tree.entries.filterMap (tree.listed? directory)).mergeSort fun a b => decide (a.1 ≤ b.1)

end FileTree

end DomainForge
