import DomainForge.CommandLine.Arguments
import DomainForge.Data.Json
import DomainForge.Data.Toml.Reader
import DomainForge.Files.Disk
import DomainForge.Model.Data
import DomainForge.Pattern.Language
import DomainForge.Report
import DomainForge.Settings.Load
import DomainForge.Source.Parser

/-!
# Running commands

Commands run on a disk and end with an exit code and the lines that they
print. Settings are loaded before the model is read, so a fault in the settings
is reported even if there is no model. The format of settings files and the
language of patterns are parameters like the disk; a program gets TOML and
regular expressions.
-/

namespace DomainForge.CommandLine

/-- How a command ended. -/
structure CommandResult where
  exitCode : Nat := 0
  output : List String := []
  /-- The lines beside the output: diagnostics and faults. -/
  diagnostics : List String := []
deriving Repr, DecidableEq, Inhabited

namespace CommandResult

/-- The exit code of a command that failed. -/
def failureCode : Nat := 1

/-- The exit code of arguments that cannot be read. -/
def usageCode : Nat := 2

/-- A command that failed. -/
def failed (message : String) : CommandResult :=
  { exitCode := failureCode, diagnostics := [s!"Error: {message}"] }

/-- A command that ended with a report. -/
def ofReport (report : Report) : CommandResult :=
  { output := report.output, diagnostics := report.diagnostics }

end CommandResult

/-- The name and version of the program. -/
def versionLine : String := "cmlgen 0.3.0"

/-- How the program is used. -/
def usageLines : List String :=
  ["Generate PHP domain classes from CML models", "",
    "Usage: cmlgen [OPTIONS] <COMMAND>", "", "Commands:",
    "  generate     Generate PHP classes from a CML model",
    "  check        Validate a model and configuration without generating code",
    "  parse        Print the parsed model",
    "  completions  Generate shell completions"]

/-- The words that a shell can complete. -/
def completionLine (shell : Shell) : String :=
  let words := Text.joinWith " " (CommandName.choices.map CommandName.spelling)
  match shell with
  | .bash | .zsh => s!"complete -W '{words}' cmlgen"
  | .fish => s!"complete -c cmlgen -f -a '{words}'"
  | .elvish => s!"set edit:completion:arg-completer[cmlgen] = \x7b|@_| put {words} \x7d"
  | .powershell =>
    "Register-ArgumentCompleter -Native -CommandName cmlgen " ++
      s!"-ScriptBlock \x7b '{words}' -split ' ' \x7d"

/-! ## Settings -/

/-- Puts the choices of the command line in the place of those of the file. -/
def Overrides.apply (overrides : Overrides) (settings : Settings) : Settings :=
  { settings with
    framework := overrides.framework.getD settings.framework
    phpVersion := overrides.phpVersion.getD settings.phpVersion
    directoryStructure := overrides.layout.getD settings.directoryStructure
    rootNamespace := overrides.rootNamespace.getD settings.rootNamespace }

/-- Applies the choices of the command line. A namespace given there makes the
settings be validated again. -/
def Overrides.finish (overrides : Overrides) (settings : Settings) : Except LoadError Settings :=
  let chosen := overrides.apply settings
  match overrides.rootNamespace with
  | none => .ok chosen
  | some name => chosen.validate s!"--namespace \"{name}\"" "<command line>"

end DomainForge.CommandLine

namespace DomainForge.Disk

open CommandLine

variable {m : Type → Type} [Monad m]

/-- Loads settings from a file. -/
def loadSettings [DocumentFormat] (disk : Disk m) (path : String) :
    m (Except LoadError Settings) := do
  match ← disk.read? path with
  | none => pure (.error (.unreadable path))
  | some text => pure (Settings.load text path)

/-- The settings file in use: the one that is asked for, or else the usual one
if it is there. -/
def settingsPath? (disk : Disk m) (overrides : Overrides) : m (Option String) := do
  match overrides.settingsPath with
  | some path => pure (some path)
  | none =>
    let present ← disk.isPresent settingsFileName
    pure (if present then some settingsFileName else none)

/-- The settings of a run. -/
def chooseSettings [DocumentFormat] (disk : Disk m) (overrides : Overrides) :
    m (Except LoadError Settings) := do
  match ← disk.settingsPath? overrides with
  | none => pure (overrides.finish {})
  | some path =>
    match ← disk.loadSettings path with
    | .error fault => pure (.error fault)
    | .ok settings => pure (overrides.finish settings)

/-- The wording for a model that cannot be read. -/
def unreadableModel (path : String) : String :=
  s!"failed to read '{path}'"

/-- Reads a model from a file. -/
def loadModel (disk : Disk m) (path : String) : m (Except String Model) := do
  match ← disk.read? path with
  | none => pure (.error (unreadableModel path))
  | some text => pure (.ok (Source.parse text))

section Commands

variable [DocumentFormat] [PatternLanguage]

/-- Loads settings and a model, and prepares the model. -/
def prepareModel (disk : Disk m) (path : String) (overrides : Overrides) :
    m (Except String Preparation) := do
  match ← disk.chooseSettings overrides with
  | .error fault => pure (.error fault.message)
  | .ok settings =>
    match ← disk.loadModel path with
    | .error fault => pure (.error fault)
    | .ok model => pure ((prepare model settings).mapError PipelineError.message)

/-! ## Commands -/

/-- Checks a model. -/
def check (disk : Disk m) (path : String) (overrides : Overrides) : m CommandResult := do
  match ← disk.prepareModel path overrides with
  | .error message => pure (.failed message)
  | .ok found =>
    let result : CheckResult :=
      { modelPath := path
        settingsPath := ← disk.settingsPath? overrides
        diagnostics := found.diagnostics
        counts := .ofModel found.model }
    let outcome := CommandResult.ofReport (.ofCheck result)
    pure { outcome with exitCode := if result.isValid then 0 else CommandResult.failureCode }

/-- The warnings of a run, unless they are not wanted. -/
def warningLines (quiet : Bool) (found : Preparation) : List String :=
  if quiet then []
  else (Diagnostic.warnings found.diagnostics).map fun warning => " WARN " ++ warning.message ++
    match warning.location with
    | some location => s!" (at {location})"
    | none => ""

/-- Shows the files of a run. -/
def preview (found : Preparation) : CommandResult :=
  match found.files with
  | .error fault => .failed fault.message
  | .ok files => .ofReport (.ofPreview files)

/-- Generates the classes of a model. -/
def generate (disk : Disk m) (quiet : Bool) (path : String) (overrides : Overrides)
    (output : String) (dryRun skipExisting : Bool) : m CommandResult := do
  match ← disk.prepareModel path overrides with
  | .error message => pure (.failed message)
  | .ok found =>
    let log := warningLines quiet found
    if dryRun then
      let outcome := preview found
      pure { outcome with diagnostics := log ++ outcome.diagnostics }
    else
      let rule := if skipExisting then WriteRule.skipExisting else .overwrite
      match ← disk.writeOutput rule output found with
      | .error fault => pure (.failed fault.message)
      | .ok summary =>
        let report := Report.ofGeneration output summary.written summary.skipped
          (Diagnostic.warnings found.diagnostics).length
        pure { CommandResult.ofReport report with diagnostics := log ++ report.diagnostics }

/-- Prints a model. -/
def printModel (disk : Disk m) (path : String) (json : Bool) : m CommandResult := do
  match ← disk.loadModel path with
  | .error message => pure (.failed message)
  | .ok model =>
    pure (if json then { output := [model.toDatum.toIndentedJson] } else .ofReport (.ofModel model))

/-- Runs a command. -/
def runCommand (disk : Disk m) (invocation : Invocation) : m CommandResult :=
  match invocation.command with
  | .generate model overrides output dryRun skipExisting =>
    disk.generate invocation.quiet model overrides output dryRun skipExisting
  | .check model overrides => disk.check model overrides
  | .parse model json => disk.printModel model json
  | .completions shell => pure { output := [completionLine shell] }

/-- Runs the program with its arguments. -/
def run (disk : Disk m) (arguments : List String) : m CommandResult :=
  match readArguments arguments with
  | .ok invocation => disk.runCommand invocation
  | .error .version => pure { output := [versionLine] }
  | .error .help => pure { output := usageLines }
  | .error (.fault fault) =>
    pure { exitCode := CommandResult.usageCode, diagnostics := [s!"error: {fault.message}"] }

end Commands

end DomainForge.Disk
