import DomainForge.Settings.Options

/-!
# Arguments

The arguments of the command line: which commands there are, which options
each of them has, and how they are read. Arguments are read from left to
right, and the first thing that ends the reading counts: a fault, or a request
for help or for the version.
-/

namespace DomainForge.CommandLine

/-- What the settings file is, and what the command line puts in its place. -/
structure Overrides where
  settingsPath : Option String := none
  framework : Option Framework := none
  phpVersion : Option PhpVersion := none
  layout : Option DirectoryStructure := none
  rootNamespace : Option String := none
deriving Repr, DecidableEq, Inhabited

/-- The shells for which words can be completed. -/
inductive Shell where
  | bash
  | elvish
  | fish
  | powershell
  | zsh
deriving Repr, DecidableEq, Inhabited

namespace Shell

/-- All shells. -/
def choices : List Shell := [bash, elvish, fish, powershell, zsh]

/-- The spelling of a shell. -/
def spelling : Shell → String
  | bash => "bash"
  | elvish => "elvish"
  | fish => "fish"
  | powershell => "powershell"
  | zsh => "zsh"

/-- Reads the name of a shell. -/
def read? (given : String) : Option Shell :=
  choices.find? (·.spelling == given)

end Shell

/-- A command with its arguments. -/
inductive Command where
  | generate (model : String) (overrides : Overrides) (output : String)
      (dryRun skipExisting : Bool)
  | check (model : String) (overrides : Overrides)
  | parse (model : String) (json : Bool)
  | completions (shell : Shell)
deriving Repr, DecidableEq

/-- Why arguments cannot be read. -/
inductive UsageError where
  | noCommand
  | unknownCommand (given : String)
  | unknownOption (given : String)
  | unexpectedArgument (given : String)
  | unexpectedValue (option : String)
  | missingValue (option : String)
  | badValue (option given : String)
  | repeated (option : String)
  | missingArgument (name : String)
deriving Repr, DecidableEq

/-- The wording of a usage error. -/
def UsageError.message : UsageError → String
  | noCommand => "a command is required"
  | unknownCommand given => s!"unrecognized command '{given}'"
  | unknownOption given => s!"unexpected option '{given}'"
  | unexpectedArgument given => s!"unexpected argument '{given}'"
  | unexpectedValue option => s!"option '{option}' takes no value"
  | missingValue option => s!"option '{option}' needs a value"
  | badValue option given => s!"invalid value '{given}' for '{option}'"
  | repeated option => s!"'{option}' cannot be used more than once"
  | missingArgument name => s!"the argument <{name}> is missing"

/-- What ends the reading of arguments early. -/
inductive Stop where
  | fault (error : UsageError)
  | help
  | version
deriving Repr, DecidableEq

/-! ## Options -/

/-- What an option does. -/
inductive OptionAction where
  /-- Counts how often it is given. -/
  | count
  /-- Is given at most once. -/
  | flag
  /-- Has a value, which must be accepted. -/
  | value (accepts : String → Bool)
  | help
  | version

/-- An option: its name, the letter that stands for it, and what it does. -/
structure OptionSpec where
  name : String
  letter : Option Char := none
  action : OptionAction

namespace OptionSpec

/-- An option as it is shown. -/
def shown (spec : OptionSpec) : String :=
  "--" ++ spec.name

/-- Whether an option has a value. -/
def takesValue (spec : OptionSpec) : Bool :=
  match spec.action with
  | .value _ => true
  | _ => false

end OptionSpec

/-- Whether a text can be the path of something. -/
def isGiven (text : String) : Bool :=
  text ≠ ""

/-- The options that stand before and after the name of a command. -/
def sharedOptions : List OptionSpec :=
  [{ name := "verbose", letter := some 'v', action := .count },
    { name := "quiet", letter := some 'q', action := .flag },
    { name := "help", letter := some 'h', action := .help }]

/-- The options that stand before the name of a command. -/
def leadingOptions : List OptionSpec :=
  sharedOptions ++ [{ name := "version", letter := some 'V', action := .version }]

/-- The options that choose settings. -/
def settingsOptions : List OptionSpec :=
  [{ name := "config", letter := some 'c', action := .value isGiven },
    { name := "framework", action := .value fun text => (Framework.read text).isOk },
    { name := "php-version", action := .value fun text => (PhpVersion.read text).isOk },
    { name := "layout", action := .value fun text => (DirectoryStructure.read text).isOk },
    { name := "namespace", action := .value fun _ => true }]

/-- The commands by name. -/
inductive CommandName where
  | generate
  | check
  | parse
  | completions
deriving Repr, DecidableEq, Inhabited

namespace CommandName

/-- All commands. -/
def choices : List CommandName := [generate, check, parse, completions]

/-- The spelling of a command. -/
def spelling : CommandName → String
  | generate => "generate"
  | check => "check"
  | parse => "parse"
  | completions => "completions"

/-- Reads the name of a command. -/
def read? (given : String) : Option CommandName :=
  choices.find? (·.spelling == given)

/-- The options of a command. -/
def options : CommandName → List OptionSpec
  | generate =>
    settingsOptions ++
      [{ name := "output", letter := some 'o', action := .value isGiven },
        { name := "dry-run", action := .flag },
        { name := "skip-existing", action := .flag }] ++ sharedOptions
  | check => settingsOptions ++ sharedOptions
  | parse => { name := "json", action := .flag } :: sharedOptions
  | completions => sharedOptions

/-- What the argument of a command is called. -/
def argument : CommandName → String
  | completions => "SHELL"
  | _ => "MODEL"

/-- Whether a text can be the argument of a command. -/
def accepts : CommandName → String → Bool
  | completions, text => (Shell.read? text).isSome
  | _, text => isGiven text

end CommandName

/-! ## Reading -/

/-- What has been read so far. -/
structure Reading where
  /-- The options given, with their values. -/
  given : List (String × String) := []
  /-- The argument that is no option. -/
  argument : Option String := none
  /-- The option that waits for its value. -/
  waiting : Option OptionSpec := none
  /-- Whether options have ended. -/
  ended : Bool := false

namespace Reading

/-- Whether an option has been given. -/
def has (reading : Reading) (name : String) : Bool :=
  reading.given.any (·.1 == name)

/-- The value of an option. -/
def value? (reading : Reading) (name : String) : Option String :=
  reading.given.lookup name

/-- Notes an option, which must not be given twice. -/
def note (reading : Reading) (spec : OptionSpec) (value : String) : Except Stop Reading :=
  if reading.has spec.name then .error (.fault (.repeated spec.shown))
  else .ok { reading with given := (spec.name, value) :: reading.given, waiting := none }

/-- Takes the value of an option. -/
def take (reading : Reading) (spec : OptionSpec) (value : String) : Except Stop Reading :=
  match spec.action with
  | .value accepts =>
    if accepts value then reading.note spec value
    else .error (.fault (.badValue spec.shown value))
  | _ => .error (.fault (.unexpectedValue spec.shown))

/-- Takes an option that has no value with it. -/
def meet (reading : Reading) (spec : OptionSpec) : Except Stop Reading :=
  match spec.action with
  | .count => .ok reading
  | .flag => reading.note spec ""
  | .value _ => .ok { reading with waiting := some spec }
  | .help => .error .help
  | .version => .error .version

/-- Takes an option that is written by its name. -/
def takeNamed (reading : Reading) (options : List OptionSpec) (text : List Char) :
    Except Stop Reading :=
  let name := String.ofList (text.takeWhile (· != '='))
  match options.find? (·.name == name) with
  | none => .error (.fault (.unknownOption ("--" ++ name)))
  | some spec =>
    match text.dropWhile (· != '=') with
    | _ :: value => reading.take spec (String.ofList value)
    | [] => reading.meet spec

/-- A value that stands right behind a letter, with or without an equals sign. -/
def attached : List Char → String
  | '=' :: value => String.ofList value
  | value => String.ofList value

/-- Takes options that are written by their letters. The first that has a value
takes what stands behind it. -/
def takeLetters (reading : Reading) (options : List OptionSpec) :
    List Char → Except Stop Reading
  | [] => .ok reading
  | letter :: rest =>
    match options.find? (·.letter == some letter) with
    | none => .error (.fault (.unknownOption ("-" ++ String.ofList [letter])))
    | some spec =>
      if spec.takesValue then
        if rest.isEmpty then reading.meet spec else reading.take spec (attached rest)
      else
        match reading.meet spec with
        | .error stop => .error stop
        | .ok reading => reading.takeLetters options rest

/-- Takes an argument that is no option. -/
def takeArgument (reading : Reading) (accepts : String → Bool) (name text : String) :
    Except Stop Reading :=
  if reading.argument.isSome then .error (.fault (.unexpectedArgument text))
  else if accepts text then .ok { reading with argument := some text }
  else .error (.fault (.badValue name text))

/-- Refuses to go on while an option waits for its value. -/
def settled (reading : Reading) : Except Stop Reading :=
  match reading.waiting with
  | some spec => .error (.fault (.missingValue spec.shown))
  | none => .ok reading

/-- Takes the next argument of a command. A single dash is no option, and two
dashes end the options. -/
def step (command : CommandName) (reading : Reading) (text : String) : Except Stop Reading :=
  let plain : Except Stop Reading :=
    match reading.waiting with
    | some spec => reading.take spec text
    | none => reading.takeArgument command.accepts command.argument text
  if reading.ended then
    reading.settled.bind fun reading => reading.takeArgument command.accepts command.argument text
  else
    match text.toList with
    | ['-', '-'] => .ok { reading with ended := true }
    | '-' :: '-' :: name =>
      reading.settled.bind fun reading => reading.takeNamed command.options name
    | ['-'] => plain
    | '-' :: letters =>
      reading.settled.bind fun reading => reading.takeLetters command.options letters
    | _ => plain

/-- Reads all arguments of a command. -/
def steps (command : CommandName) (reading : Reading) : List String → Except Stop Reading
  | [] => reading.settled
  | text :: rest => (reading.step command text).bind fun reading => reading.steps command rest

/-- The settings that the options choose. -/
def overrides (reading : Reading) : Overrides :=
  { settingsPath := reading.value? "config"
    framework := (reading.value? "framework").bind fun text => (Framework.read text).toOption
    phpVersion := (reading.value? "php-version").bind fun text => (PhpVersion.read text).toOption
    layout := (reading.value? "layout").bind fun text => (DirectoryStructure.read text).toOption
    rootNamespace := reading.value? "namespace" }

/-- The command that has been read. -/
def command? (reading : Reading) (argument : String) : CommandName → Option Command
  | .generate =>
    some (.generate argument reading.overrides ((reading.value? "output").getD ".")
      (reading.has "dry-run") (reading.has "skip-existing"))
  | .check => some (.check argument reading.overrides)
  | .parse => some (.parse argument (reading.has "json"))
  | .completions => (Shell.read? argument).map .completions

/-- The command that has been read, or what is missing of it. -/
def finish (reading : Reading) (command : CommandName) : Except Stop Command :=
  match reading.argument.bind fun argument => reading.command? argument command with
  | some found => .ok found
  | none => .error (.fault (.missingArgument command.argument))

end Reading

/-- A command, and whether warnings are wanted with it. -/
structure Invocation where
  command : Command
  quiet : Bool
deriving Repr, DecidableEq

/-- Reads what stands behind the name of a command. -/
def readCommand (command : CommandName) (quiet : Bool) (arguments : List String) :
    Except Stop Invocation := do
  let reading ← Reading.steps command {} arguments
  let found ← reading.finish command
  return { command := found, quiet := quiet || reading.has "quiet" }

/-- Reads arguments from the options in front of a command on. -/
def readFrom (reading : Reading) : List String → Except Stop Invocation
  | [] => .error (.fault .noCommand)
  | text :: rest =>
    match CommandName.read? text with
    | some command => readCommand command (reading.has "quiet") rest
    | none =>
      if text = "help" then .error .help
      else
        match text.toList with
        | ['-', '-'] => .error (.fault .noCommand)
        | '-' :: '-' :: name =>
          (reading.takeNamed leadingOptions name).bind fun reading => readFrom reading rest
        | ['-'] => .error (.fault (.unknownCommand text))
        | '-' :: letters =>
          (reading.takeLetters leadingOptions letters).bind fun reading => readFrom reading rest
        | _ => .error (.fault (.unknownCommand text))

/-- Reads the arguments of the command line. -/
def readArguments (arguments : List String) : Except Stop Invocation :=
  readFrom {} arguments

end DomainForge.CommandLine
