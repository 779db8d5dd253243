import DomainForge.Naming
import DomainForge.Php.Framework.ClassUnit
import DomainForge.Text.Split

/-!
# Doctrine

Entities and value objects are mapped by attributes. Collections of entities
have a type of their own and are created in the constructor, as are the other
collections of an entity.
-/

namespace DomainForge.Php.Doctrine

/-- The mapping attributes, under their usual short name. -/
def mappingImport : Import :=
  { namespaceName := "Doctrine\\ORM", symbol := "Mapping", newName := some "ORM" }

/-- The names of the column types. -/
def typesImport : Import :=
  { namespaceName := "Doctrine\\DBAL\\Types", symbol := "Types" }

/-- The type of collections of entities, and the class that they are made of. -/
def collectionImports : List Import :=
  [{ namespaceName := "Doctrine\\Common\\Collections", symbol := "Collection" },
    { namespaceName := "Doctrine\\Common\\Collections", symbol := "ArrayCollection" }]

/-- Whether a property is a collection of entities in an entity. -/
def isEntityCollection (unit : ClassUnit) (property : ResolvedProperty) : Bool :=
  unit.isEntity && property.isCollection && property.isAssociation

/-- Whether a property is created in the constructor. -/
def isCreated (unit : ClassUnit) (property : ResolvedProperty) : Bool :=
  unit.isEntity && property.isCollection

/-- How a property is stored. -/
inductive Mapping where
  | oneToMany
  | manyToOne
  | embedded
  | enumColumn
  /-- A list of values in one column. -/
  | json
  /-- A column, with a type if the value is a primitive. -/
  | column (storage : Option String)
  /-- An entity inside a value object, which cannot be stored. -/
  | unmapped
deriving Repr, DecidableEq

/-- How a property of a unit is stored. -/
def mappingOf (unit : ClassUnit) (property : ResolvedProperty) : Mapping :=
  if property.isCollection then
    if property.isAssociation && unit.isEntity then .oneToMany else .json
  else if property.isAssociation then
    if unit.isEntity then .manyToOne else .unmapped
  else if property.isEnum then .enumColumn
  else if property.isValueObject then .embedded
  else .column ((primitive? property.reference).map (·.storage))

namespace Mapping

/-- The name of the attribute. -/
def attribute? : Mapping → Option String
  | oneToMany => some "OneToMany"
  | manyToOne => some "ManyToOne"
  | embedded => some "Embedded"
  | enumColumn => some "Column"
  | json => some "Column"
  | column _ => some "Column"
  | unmapped => none

/-- The arguments of the attribute that do not depend on null. -/
def arguments (unit : ClassUnit) (property : ResolvedProperty) : Mapping → List String
  | oneToMany =>
    [s!"targetEntity: {property.reference}::class", s!"mappedBy: '{Naming.camelCase unit.name}'"]
  | manyToOne => [s!"targetEntity: {property.reference}::class"]
  | embedded => [s!"class: {property.reference}::class"]
  | enumColumn => [s!"enumType: {property.reference}::class"]
  | json => ["type: Types::JSON"]
  | column (some storage) => [s!"type: Types::{storage}"]
  | column none => []
  | unmapped => []

/-- Whether the attribute names a column type. -/
def namesType : Mapping → Bool
  | json => true
  | column storage => storage.isSome
  | _ => false

end Mapping

/-- An attribute with its arguments. -/
def renderAttribute (name : String) (arguments : List String) : String :=
  let shown := if arguments.isEmpty then "" else "(" ++ Text.joinWith ", " arguments ++ ")"
  "#[ORM\\" ++ name ++ shown ++ "]"

/-- The attribute of a property. -/
def propertyAttribute? (unit : ClassUnit) (property : ResolvedProperty) : Option String :=
  let mapping := mappingOf unit property
  mapping.attribute?.map fun name =>
    renderAttribute name (mapping.arguments unit property ++
      if name = "Column" ∧ property.isNullable then ["nullable: true"] else [])

/-- The comment above a property: the type of the elements of a collection. -/
def propertyDoc (unit : ClassUnit) (property : ResolvedProperty) : List String :=
  let options := unit.settings.doctrine
  if isEntityCollection unit property then
    if options.collectionDocblocks then [s!"@var Collection<int, {property.reference}>"] else []
  else if property.isCollection && options.arrayDocblocks then
    [s!"@var array<int, {scalarType property.reference}>"]
  else []

/-- The imports that a property needs. -/
def propertyImports (unit : ClassUnit) (property : ResolvedProperty) : List Import :=
  (if isEntityCollection unit property then collectionImports else []) ++
    if unit.settings.doctrine.attributes && (mappingOf unit property).namesType then
      [typesImport]
    else []

/-- Whether an identifier is added to a unit: entities have one, unless the
model declares it. -/
def addsId (unit : ClassUnit) : Bool :=
  unit.settings.doctrine.attributes && unit.isEntity && !unit.declares "id"

/-- The identifier of an entity. -/
def idProperty : PropertyDecl :=
  { name := "id"
    type := "?int"
    visibility := .isPrivate
    default := some "null"
    attributes := [renderAttribute "Id" [], renderAttribute "GeneratedValue" [],
      renderAttribute "Column" []] }

/-- The method that reads the identifier. -/
def idGetter : MethodDecl :=
  { name := "getId", returns := some "?int", body := ["return $this->id;"] }

/-- The attribute of a class. -/
def classAttribute (unit : ClassUnit) : String :=
  renderAttribute (if unit.isEntity then "Entity" else "Embeddable") []

/-- The statement that creates a collection. -/
def creation (unit : ClassUnit) (property : ResolvedProperty) : String :=
  let value := if isEntityCollection unit property then "new ArrayCollection()" else "[]"
  s!"$this->{property.name} = {value};"

end DomainForge.Php.Doctrine
