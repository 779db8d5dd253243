import DomainForge.Files.Path
import DomainForge.Generation

/-!
# Writing files

What generation needs of a disk, and how files are written with it. The disk
is a parameter: the program runs with the one of the machine, and what it does
can be studied with a tree of files held as a value.
-/

namespace DomainForge

/-- The operations of a disk. -/
structure Disk (m : Type → Type) where
  /-- The text of a file, unless it cannot be read. -/
  read? : String → m (Option String)
  /-- Whether there is a file or a directory. -/
  isPresent : String → m Bool
  /-- Creates a directory and those above it, and tells whether it is there. -/
  makeDirectories : String → m Bool
  /-- Writes a file, and tells whether it could. -/
  write : String → String → m Bool

/-- What to do with files that are there already. -/
inductive WriteRule where
  | overwrite
  | skipExisting
deriving Repr, DecidableEq, Inhabited

/-- Why a file could not be written. -/
inductive WriteError where
  | directory (path : String)
  | file (path : String)
deriving Repr, DecidableEq

/-- The wording of a write error. -/
def WriteError.message : WriteError → String
  | directory path => s!"failed to create directory {path}"
  | file path => s!"failed to write {path}"

/-- What happened to a file. -/
inductive WriteResult where
  | written
  | skipped
deriving Repr, DecidableEq, Inhabited

/-- The spelling of a result. -/
def WriteResult.spelling : WriteResult → String
  | written => "written"
  | skipped => "skipped"

/-- The files of a run, by what happened to them. -/
structure WriteSummary where
  written : List String := []
  skipped : List String := []
deriving Repr, DecidableEq, Inhabited

/-- Puts a file in front of those that came after it. -/
def WriteSummary.note (summary : WriteSummary) (path : String) : WriteResult → WriteSummary
  | .written => { summary with written := path :: summary.written }
  | .skipped => { summary with skipped := path :: summary.skipped }

/-- Why a run wrote nothing, or not everything. -/
inductive OutputError where
  | generation (fault : GenerationError)
  | write (fault : WriteError)
deriving Repr, DecidableEq

/-- The wording of an output error. -/
def OutputError.message : OutputError → String
  | generation fault => fault.message
  | write fault => fault.message

namespace Disk

variable {m : Type → Type} [Monad m]

/-- Whether a file is to be left alone. -/
def leaves (disk : Disk m) (rule : WriteRule) (path : String) : m Bool :=
  match rule with
  | .overwrite => pure false
  | .skipExisting => disk.isPresent path

/-- Creates the directory of a file. -/
def makeParent (disk : Disk m) (path : String) : m (Except WriteError Unit) := do
  match Path.parent? path with
  | none => pure (.ok ())
  | some parent =>
    let made ← disk.makeDirectories parent
    pure (if made then .ok () else .error (.directory parent))

/-- Writes a file and creates its directory. -/
def create (disk : Disk m) (path content : String) : m (Except WriteError Unit) := do
  match ← disk.makeParent path with
  | .error fault => pure (.error fault)
  | .ok () =>
    let done ← disk.write path content
    pure (if done then .ok () else .error (.file path))

/-- Writes a file, unless the rule leaves it alone. -/
def writeFile (disk : Disk m) (rule : WriteRule) (path content : String) :
    m (Except WriteError WriteResult) := do
  if ← disk.leaves rule path then pure (.ok .skipped)
  else
    let made ← disk.create path content
    pure (made.map fun _ => .written)

/-- Writes files below a directory in order. The first that fails ends the run,
and those before it stay. -/
def writeFiles (disk : Disk m) (rule : WriteRule) (directory : String) :
    List OutputFile → m (Except WriteError WriteSummary)
  | [] => pure (.ok {})
  | file :: files => do
    match ← disk.writeFile rule (Path.join directory file.path) file.content with
    | .error fault => pure (.error fault)
    | .ok result =>
      let rest ← writeFiles disk rule directory files
      pure (rest.map fun summary => summary.note file.path result)

/-- Writes all that has been planned below a directory. Every file is generated
before the first is written. -/
def writeOutput (disk : Disk m) (rule : WriteRule) (directory : String) (found : Preparation) :
    m (Except OutputError WriteSummary) := do
  match found.files with
  | .error fault => pure (.error (.generation fault))
  | .ok files =>
    let summary ← disk.writeFiles rule directory files
    pure (summary.mapError .write)

end Disk

end DomainForge
