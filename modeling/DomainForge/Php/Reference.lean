import DomainForge.Imports
import DomainForge.Php.TypeName
import DomainForge.Registry

/-!
# References to other units

A property may refer to another generated unit by its name. In the same
namespace the short name is written; a unit of another namespace is imported,
unless its short name is taken already, by the class itself or by another
import, in which case its full name is written.
-/

namespace DomainForge.Php

/-- A property whose type has been looked up among the generated units. -/
structure ResolvedProperty where
  property : Property
  /-- The name to be written for the type, or for that of the elements. -/
  reference : String
  /-- The kind of unit that the type refers to. -/
  target : Option UnitKind
deriving Repr, DecidableEq, Inhabited

namespace ResolvedProperty

/-- The name of a property. -/
def name (resolved : ResolvedProperty) : String :=
  resolved.property.name

/-- Whether a property points at an entity, by its mark or by its type. -/
def isAssociation (resolved : ResolvedProperty) : Bool :=
  resolved.property.isRelation || resolved.target == some .entity

/-- Whether a property holds several values. -/
def isCollection (resolved : ResolvedProperty) : Bool :=
  resolved.property.isCollection

/-- Whether a property may be null. -/
def isNullable (resolved : ResolvedProperty) : Bool :=
  resolved.property.nullable

/-- Whether a property refers to an enumeration, by its mark or by its type. -/
def isEnum (resolved : ResolvedProperty) : Bool :=
  resolved.property.isEnum || resolved.target == some .enumeration

/-- Whether a property refers to a value object. -/
def isValueObject (resolved : ResolvedProperty) : Bool :=
  resolved.target == some .valueObject

/-- What the type depends on besides its name. -/
def flags (resolved : ResolvedProperty) : TypeFlags :=
  { nullable := resolved.isNullable
    collection := resolved.isCollection
    association := resolved.isAssociation }

end ResolvedProperty

/-- The references of one class: where the class stands, and what it has
imported so far. -/
structure References where
  registry : Registry
  context : String
  aggregate : String
  /-- The namespace of the class. -/
  namespaceName : String
  className : String
  /-- The short names that are imported, with their namespaces. -/
  imported : List (String × String) := []
  imports : Imports := {}

namespace References

/-- Whether a short name is taken by the class or by another import. -/
def clashes (references : References) (name namespaceName : String) : Bool :=
  name == references.className ||
    (references.imported.lookup name).any (· != namespaceName)

/-- The full name of a symbol, from the root of all namespaces. -/
def fullName (namespaceName name : String) : String :=
  if namespaceName = "" then "\\" ++ name else "\\" ++ namespaceName ++ "\\" ++ name

/-- Imports a unit of another namespace. -/
def importUnit (references : References) (info : UnitInfo) : References :=
  { references with
    imported := (info.finalName, info.namespaceName) :: references.imported
    imports := references.imports.add info.namespaceName info.finalName }

/-- The name to be written for a unit, and the imports after it. -/
def refer (references : References) (info : UnitInfo) : String × References :=
  if info.namespaceName = references.namespaceName then (info.finalName, references)
  else if info.namespaceName = "" ∨ references.clashes info.finalName info.namespaceName then
    (fullName info.namespaceName info.finalName, references)
  else (info.finalName, references.importUnit info)

/-- The unit that a type name refers to. Primitives refer to none. -/
def target? (references : References) (type : String) : Option UnitInfo :=
  if type = "" ∨ (primitive? type).isSome then none
  else references.registry.lookup? type references.context references.aggregate

/-- Looks up the type of a property. -/
def resolve (references : References) (property : Property) : ResolvedProperty × References :=
  let type := Text.trimmed property.type
  match references.target? type with
  | none => ({ property, reference := type, target := none }, references)
  | some info =>
    let (reference, references) := references.refer info
    ({ property, reference, target := some info.kind }, references)

/-- Looks up the types of properties in order. -/
def resolveAll (references : References) : List Property → List ResolvedProperty × References
  | [] => ([], references)
  | property :: rest =>
    let (resolved, references) := references.resolve property
    let (others, references) := references.resolveAll rest
    (resolved :: others, references)

end References

end DomainForge.Php
