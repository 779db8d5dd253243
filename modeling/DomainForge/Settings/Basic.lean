import DomainForge.Settings.Options
import DomainForge.Text.Split

/-!
# Settings

Everything that can be chosen about the generated code. Each choice has a
default, so that an empty settings file is a complete one.
-/

namespace DomainForge

/-- Choices that matter for Doctrine only. -/
structure DoctrineOptions where
  /-- Mapping attributes are written. -/
  attributes : Bool := true
  /-- Collections of entities get a comment that names the elements. -/
  collectionDocblocks : Bool := true
  /-- Arrays get a comment that names the elements. -/
  arrayDocblocks : Bool := true
deriving Repr, DecidableEq, Inhabited

/-- Sends the units whose name matches a pattern to a subfolder. -/
structure PathRule where
  pattern : String
  /-- Only units of this kind are sent there. -/
  kind : Option UnitKind := none
  subfolder : String := ""
  /-- The first match of this pattern is removed from the name. -/
  strip : Option String := none
deriving Repr, DecidableEq, Inhabited

/-- The namespace of generated classes if none is chosen. -/
def defaultNamespace : String := "App\\Models"

/-- All choices about the generated code. -/
structure Settings where
  framework : Framework := .plain
  phpVersion : PhpVersion := .v82
  /-- The namespace in front of all others, divided by backslashes. -/
  rootNamespace : String := defaultNamespace
  propertyVisibility : PropertyVisibility := .isPrivate
  getters : Bool := true
  setters : Bool := true
  constructor : ConstructorPolicy := .all
  /-- Properties are declared in the constructor's parameters. -/
  constructorPromotion : Bool := false
  readonlyValueObjects : Bool := false
  directoryStructure : DirectoryStructure := .flat
  /-- Files are put into a folder named for the kind of their unit. -/
  groupByType : Bool := false
  doctrine : DoctrineOptions := {}
  /-- Of the rules that match, the first counts. -/
  pathRules : List PathRule := []
deriving Repr, DecidableEq, Inhabited

/-- The backslash, which divides namespaces. -/
def isBackslash (c : Char) : Bool :=
  c == '\\'

/-- The parts of a subfolder: between slashes and backslashes, trimmed, and
only those that are not empty. -/
def PathRule.segments (rule : PathRule) : List String :=
  let pieces := Text.splitWhere (fun c => c == '/' || isBackslash c) rule.subfolder.toList
  ((pieces.map Text.trim).filter (!·.isEmpty)).map String.ofList

/-- A namespace without the backslashes at its ends. -/
def trimNamespace (name : String) : String :=
  String.ofList (Text.trimWhere isBackslash name.toList)

namespace Settings

/-- The namespace in front of all others, without backslashes at its ends. -/
def namespaceStem (settings : Settings) : String :=
  trimNamespace settings.rootNamespace

/-- Whether value objects are readonly: the version must know of it too. -/
def readonlyActive (settings : Settings) : Bool :=
  settings.readonlyValueObjects && settings.phpVersion.hasReadonlyProperties

end Settings

end DomainForge
