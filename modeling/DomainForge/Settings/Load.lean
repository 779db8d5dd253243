import DomainForge.Data.Datum
import DomainForge.Settings.Schema
import DomainForge.Settings.Validation

/-!
# Loading settings

Settings are loaded from the text of a settings file: the text must be a
document, the document must fit the schema, and the settings must be valid.
The faults come in this order.
-/

namespace DomainForge

/-- The name of the settings file. -/
def settingsFileName : String := "cmlgen.toml"

/-- Why settings could not be loaded. -/
inductive LoadError where
  /-- The file could not be read. -/
  | unreadable (path : String)
  /-- The text is no document. -/
  | noDocument
  | schema (fault : SchemaError)
  /-- The settings are not valid. The source and its name are kept, so that
  the place of the fault can be shown. -/
  | invalid (fault : SettingsFault) (source fileName : String)
deriving Repr

namespace LoadError

/-- The wording of a load error. -/
def message : LoadError → String
  | unreadable path => s!"failed to read '{path}'"
  | noDocument => "failed to parse cmlgen.toml"
  | schema _ => "failed to parse cmlgen.toml"
  | invalid fault _ _ => fault.message

/-- The code under which a load error is known. -/
def code : LoadError → String
  | unreadable _ => "cmlgen::io"
  | noDocument => "cmlgen::parse_error"
  | schema _ => "cmlgen::parse_error"
  | invalid (.badNamespace _ _) _ _ => "cmlgen::invalid_namespace"
  | invalid _ _ _ => "cmlgen::validation_error"

/-- How to put it right, if there is something to say. -/
def help? : LoadError → Option String
  | unreadable _ => some "create a cmlgen.toml file or pass its path with --config"
  | noDocument => none
  | schema _ => none
  | invalid fault _ _ => fault.help?

end LoadError

namespace Settings

/-- Accepts settings only if they are valid. -/
def validate (settings : Settings) (source fileName : String) : Except LoadError Settings :=
  match settings.fault? with
  | some fault => .error (.invalid fault source fileName)
  | none => .ok settings

/-- Loads settings from the text of a settings file. -/
def load [DocumentFormat] (source fileName : String) : Except LoadError Settings :=
  match DocumentFormat.parse? source with
  | none => .error .noDocument
  | some found =>
    match ofDatum .toml found with
    | .error fault => .error (.schema fault)
    | .ok settings => settings.validate source fileName

end Settings

end DomainForge
