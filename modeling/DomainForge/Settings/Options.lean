import DomainForge.Model
import DomainForge.Text.Blank
import DomainForge.Text.Casing

/-!
# Enumerated options

The options whose values are words. Each has one spelling in settings files;
on the command line a few more spellings are understood, in any case.
-/

namespace DomainForge

/-- The flavour of the generated classes. -/
inductive Framework where
  | plain
  | laravel
  | doctrine
deriving Repr, DecidableEq, Inhabited

/-- The PHP version that the generated classes are written for. -/
inductive PhpVersion where
  | v80
  | v81
  | v82
  | v83
deriving Repr, DecidableEq, Inhabited

/-- The visibility of the generated properties. -/
inductive PropertyVisibility where
  | isPublic
  | isPrivate
deriving Repr, DecidableEq, Inhabited

/-- Which properties become constructor parameters. -/
inductive ConstructorPolicy where
  | none
  /-- Those that are not nullable. -/
  | required
  | all
deriving Repr, DecidableEq, Inhabited

/-- Where files are placed, and whether namespaces follow directories. -/
inductive DirectoryStructure where
  | flat
  | byContext
  | byAggregate
  /-- By aggregate, with namespaces that follow the directories. -/
  | psr4
deriving Repr, DecidableEq, Inhabited

/-- A spelling that names no value of an option. -/
inductive OptionError where
  | framework (given : String)
  | phpVersion (given : String)
  | directoryStructure (given : String)
  | unitKind (given : String)
deriving Repr, DecidableEq

/-- The wording of an option error. -/
def OptionError.message : OptionError → String
  | framework given => s!"unknown framework '{given}', expected 'plain', 'laravel' or 'doctrine'"
  | phpVersion given =>
    s!"unsupported PHP version '{given}', expected one of 8.0, 8.1, 8.2, 8.3"
  | directoryStructure given =>
    s!"unknown directory structure '{given}', " ++
      "expected 'flat', 'by-context', 'by-aggregate' or 'psr4'"
  | unitKind given => s!"unknown unit kind '{given}', expected 'enum', 'valueobject' or 'entity'"

namespace UnitKind

/-- All kinds, in the order in which they are listed. -/
def choices : List UnitKind := [enumeration, valueObject, entity]

/-- The spelling of a kind. -/
def spelling : UnitKind → String
  | enumeration => "enum"
  | valueObject => "valueobject"
  | entity => "entity"

/-- The folder for the files of a kind. -/
def folder : UnitKind → String
  | enumeration => "Enum"
  | valueObject => "ValueObject"
  | entity => "Entity"

/-- Reads a kind in any case. -/
def read (given : String) : Except OptionError UnitKind :=
  match Text.lowercase given with
  | "enum" => .ok enumeration
  | "valueobject" | "value-object" | "value_object" => .ok valueObject
  | "entity" => .ok entity
  | _ => .error (.unitKind given)

end UnitKind

namespace Framework

/-- All frameworks, in the order in which they are listed. -/
def choices : List Framework := [plain, laravel, doctrine]

/-- The spelling of a framework. -/
def spelling : Framework → String
  | plain => "plain"
  | laravel => "laravel"
  | doctrine => "doctrine"

/-- Reads a framework in any case. -/
def read (given : String) : Except OptionError Framework :=
  match Text.lowercase given with
  | "plain" | "php" => .ok plain
  | "laravel" | "eloquent" => .ok laravel
  | "doctrine" => .ok doctrine
  | _ => .error (.framework given)

end Framework

namespace PhpVersion

/-- All versions, the oldest first. -/
def choices : List PhpVersion := [v80, v81, v82, v83]

/-- The spelling of a version. -/
def spelling : PhpVersion → String
  | v80 => "8.0"
  | v81 => "8.1"
  | v82 => "8.2"
  | v83 => "8.3"

/-- Reads a version, with or without its dot and with blanks around it. -/
def read (given : String) : Except OptionError PhpVersion :=
  match Text.trimmed given with
  | "8.0" | "80" => .ok v80
  | "8.1" | "81" => .ok v81
  | "8.2" | "82" => .ok v82
  | "8.3" | "83" => .ok v83
  | _ => .error (.phpVersion given)

/-- Whether single properties can be readonly. -/
def hasReadonlyProperties : PhpVersion → Bool
  | v80 => false
  | _ => true

/-- Whether whole classes can be readonly. -/
def hasReadonlyClasses : PhpVersion → Bool
  | v80 | v81 => false
  | _ => true

end PhpVersion

namespace PropertyVisibility

/-- Both visibilities, in the order in which they are listed. -/
def choices : List PropertyVisibility := [isPublic, isPrivate]

/-- The spelling of a visibility. -/
def spelling : PropertyVisibility → String
  | isPublic => "public"
  | isPrivate => "private"

end PropertyVisibility

namespace ConstructorPolicy

/-- All policies, in the order in which they are listed. -/
def choices : List ConstructorPolicy := [none, required, all]

/-- The spelling of a policy. -/
def spelling : ConstructorPolicy → String
  | none => "none"
  | required => "required"
  | all => "all"

/-- Whether a property becomes a parameter, given whether it is nullable. -/
def includes : ConstructorPolicy → Bool → Bool
  | none, _ => false
  | required, nullable => !nullable
  | all, _ => true

end ConstructorPolicy

namespace DirectoryStructure

/-- All structures, in the order in which they are listed. -/
def choices : List DirectoryStructure := [flat, byContext, byAggregate, psr4]

/-- The spelling of a structure. -/
def spelling : DirectoryStructure → String
  | flat => "flat"
  | byContext => "by-context"
  | byAggregate => "by-aggregate"
  | psr4 => "psr4"

/-- Reads a structure in any case, with dashes or underscores. -/
def read (given : String) : Except OptionError DirectoryStructure :=
  match String.ofList ((Text.lower given.toList).map fun c => if c = '_' then '-' else c) with
  | "flat" => .ok flat
  | "by-context" | "context" => .ok byContext
  | "by-aggregate" | "aggregate" => .ok byAggregate
  | "psr4" | "psr-4" => .ok psr4
  | _ => .error (.directoryStructure given)

end DirectoryStructure

end DomainForge
