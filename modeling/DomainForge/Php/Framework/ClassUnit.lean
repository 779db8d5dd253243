import DomainForge.Php.Declaration
import DomainForge.Php.Reference
import DomainForge.Settings.Basic

/-!
# Units that become classes

What is known about an entity or value object while its class is assembled,
and the decisions that do not depend on the framework.
-/

namespace DomainForge.Php

/-- How a class is made readonly. -/
inductive ReadonlyMode where
  | off
  /-- Every property is readonly. -/
  | properties
  /-- The class as a whole is readonly. -/
  | wholeClass
deriving Repr, DecidableEq, Inhabited

namespace ReadonlyMode

/-- How value objects are made readonly. -/
def ofSettings (settings : Settings) : ReadonlyMode :=
  if !settings.readonlyActive then off
  else if settings.phpVersion.hasReadonlyClasses then wholeClass
  else properties

/-- Whether anything is readonly. -/
def isActive : ReadonlyMode → Bool
  | off => false
  | _ => true

end ReadonlyMode

/-- A unit whose class is being assembled. -/
structure ClassUnit where
  kind : UnitKind
  /-- The name of the class. -/
  name : String
  context : String
  aggregate : String
  properties : List Property
  isAggregateRoot : Bool := false
  readonlyMode : ReadonlyMode := .off
  settings : Settings
deriving Repr, DecidableEq, Inhabited

namespace ClassUnit

/-- Whether a unit is an entity. -/
def isEntity (unit : ClassUnit) : Bool :=
  unit.kind == .entity

/-- Whether the model declares a property with a name. -/
def declares (unit : ClassUnit) (name : String) : Bool :=
  unit.properties.any (·.name == name)

/-- Which properties become parameters. A readonly class takes them all, since
they cannot be set later. -/
def constructorPolicy (unit : ClassUnit) : ConstructorPolicy :=
  if unit.readonlyMode.isActive then .all else unit.settings.constructor

/-- Whether properties can be set later. -/
def hasSetters (unit : ClassUnit) : Bool :=
  unit.settings.setters && !unit.readonlyMode.isActive

end ClassUnit

/-- A property that is declared in the class. -/
structure Member where
  property : ResolvedProperty
  decl : PropertyDecl
deriving Repr, DecidableEq, Inhabited

/-- The name of a member. -/
def Member.name (member : Member) : String :=
  member.property.name

/-- A symbol to be imported, with another name if it is to have one. -/
structure Import where
  namespaceName : String
  symbol : String
  newName : Option String := none
deriving Repr, DecidableEq, Inhabited

/-- Adds a symbol to imports. -/
def Import.addTo (found : Import) (imports : Imports) : Imports :=
  match found.newName with
  | none => imports.add found.namespaceName found.symbol
  | some newName => imports.addAliased found.namespaceName found.symbol newName

/-- Adds symbols to imports in order. -/
def addImports (imports : Imports) (found : List Import) : Imports :=
  found.foldl (fun imports symbol => symbol.addTo imports) imports

/-- The statement that sets a property from the parameter of its name. -/
def assignment (name : String) : String :=
  s!"$this->{name} = ${name};"

end DomainForge.Php
