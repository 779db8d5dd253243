import DomainForge.CommandLine.Run

/-!
# The program

Runs the command line on the disk of the machine.
-/

namespace DomainForge

/-- Whether an action ends without an error. -/
def succeeds {α : Type} (action : IO α) : IO Bool := do
  try
    let _ ← action
    pure true
  catch _ => pure false

/-- The disk of the machine. -/
def machineDisk : Disk IO where
  read? path := do
    try
      return some (← IO.FS.readFile path)
    catch _ => return none
  isPresent path := succeeds (IO.FS.realPath path)
  makeDirectories path := if path = "" then pure true else succeeds (IO.FS.createDirAll path)
  write path content := succeeds (IO.FS.writeFile path content)

/-- Prints lines. -/
def printLines (stream : IO.FS.Stream) (lines : List String) : IO Unit :=
  stream.putStr (Text.unlines lines)

end DomainForge

/-- Runs the program. -/
def main (arguments : List String) : IO UInt32 := do
  let outcome ← DomainForge.machineDisk.run arguments
  DomainForge.printLines (← IO.getStderr) outcome.diagnostics
  DomainForge.printLines (← IO.getStdout) outcome.output
  return outcome.exitCode.toUInt32
