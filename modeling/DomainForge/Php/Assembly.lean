import DomainForge.Naming
import DomainForge.Php.Framework
import DomainForge.Php.Render
import DomainForge.Plan

/-!
# Assembling classes and enumerations

A unit's class is put together from its properties: each is looked up, typed
and declared, taken into the constructor, and given its accessors. The result
is a file as a value, which is written afterwards.
-/

namespace DomainForge

open Php

/-! ## Constructors -/

/-- Whether a property becomes a constructor parameter. -/
def Framework.isParam (framework : Framework) (unit : ClassUnit) (property : ResolvedProperty) :
    Bool :=
  framework.allowsParam unit property && unit.constructorPolicy.includes property.isNullable

namespace Php

/-- The parameter of a member. A promoted one declares the property, which then
has no default. -/
def paramOf (unit : ClassUnit) (member : Member) : ConstructorParam :=
  if unit.settings.constructorPromotion then .promoted { member.decl with default := none }
  else .plain { name := member.name, type := member.decl.type }

/-- The statements of a constructor for a member. -/
def statementsOf (framework : Framework) (unit : ClassUnit) (member : Member) : List String :=
  if !framework.isParam unit member.property then
    (framework.initializer? unit member.property).toList
  else if unit.settings.constructorPromotion then []
  else [assignment member.name]

/-- The constructor of a class without its first statements. -/
def plainConstructor (framework : Framework) (unit : ClassUnit) (members : List Member) :
    ConstructorDecl :=
  { params := (members.filter fun member => framework.isParam unit member.property).map
      (paramOf unit)
    body := members.flatMap (statementsOf framework unit) }

/-- The constructor of a class, unless there is nothing to construct. -/
def constructorOf? (framework : Framework) (unit : ClassUnit) (members : List Member) :
    Option ConstructorDecl :=
  let constructor := plainConstructor framework unit members
  if constructor.isEmpty then none
  else some { constructor with body := framework.openingStatements unit ++ constructor.body }

/-! ## Members -/

/-- The visibility of a declared property. -/
def visibilityOf : PropertyVisibility → Visibility
  | .isPublic => .isPublic
  | .isPrivate => .isPrivate

/-- The declaration of a property. -/
def memberOf (framework : Framework) (unit : ClassUnit) (property : ResolvedProperty) : Member :=
  { property
    decl := framework.decorateProperty unit property
      { name := property.name
        type := framework.typeOf unit property
        visibility := visibilityOf unit.settings.propertyVisibility
        isReadonly := unit.readonlyMode == .properties } }

/-- The initial value of a property that no constructor sets. -/
def defaultOf (member : Member) : Option String :=
  if member.property.isNullable ∧ member.decl.type ≠ mixed then some "null"
  else if member.property.isCollection ∧ member.decl.type = "array" then some "[]"
  else none

/-- Whether the constructor sets a member, by a parameter or by a statement. -/
def isSet (framework : Framework) (unit : ClassUnit) (constructor : Option ConstructorDecl)
    (member : Member) : Bool :=
  (constructor.any fun found => found.params.any (·.name == member.name)) ||
    (framework.initializer? unit member.property).isSome

/-- The declaration of a member outside the constructor, unless it is declared
there. -/
def declarationOf? (framework : Framework) (unit : ClassUnit) (classIsReadonly : Bool)
    (constructor : Option ConstructorDecl) (member : Member) : Option PropertyDecl :=
  if constructor.any fun found =>
      found.params.any fun param => param.isPromoted && param.name == member.name then none
  else if !isSet framework unit constructor member && !member.decl.isReadonly &&
      !classIsReadonly && member.decl.default.isNone then
    some { member.decl with default := defaultOf member }
  else some member.decl

/-- The method that reads a member. -/
def getterOf (member : Member) : MethodDecl :=
  { name := Naming.getterName member.name
    returns := some member.decl.type
    body := [s!"return $this->{member.name};"] }

/-- The method that sets a member. -/
def setterOf (member : Member) : MethodDecl :=
  { name := Naming.setterName member.name
    params := [{ name := member.name, type := member.decl.type }]
    returns := some "void"
    body := [assignment member.name] }

/-- The accessors of a member. -/
def accessorsOf (unit : ClassUnit) (member : Member) : List MethodDecl :=
  (if unit.settings.getters then [getterOf member] else []) ++
    if unit.hasSetters then [setterOf member] else []

/-! ## Classes -/

/-- The class of a unit before its members are added. -/
def emptyClass (unit : ClassUnit) : ClassDecl :=
  { name := unit.name
    isFinal := !unit.isEntity
    isReadonly := unit.readonlyMode == .wholeClass
    doc :=
      if unit.isAggregateRoot then
        [s!"Aggregate root of the {unit.aggregate} aggregate.", "",
          s!"Bounded context: {unit.context}"]
      else [] }

/-- The class of a unit whose properties have been looked up. -/
def assembleClass (framework : Framework) (unit : ClassUnit) (properties : List ResolvedProperty) :
    ClassDecl :=
  let decl := framework.decorateClass unit (emptyClass unit)
  let members := (properties.filter (framework.declares unit)).map (memberOf framework unit)
  let constructor := constructorOf? framework unit members
  { decl with
    properties := decl.properties ++
      members.filterMap (declarationOf? framework unit decl.isReadonly constructor)
    constructor := constructor
    methods := decl.methods ++ members.flatMap (accessorsOf unit) ++
      (framework.relations unit properties).map Laravel.relationMethod }

/-- The imports that a class needs for its framework. -/
def frameworkImports (framework : Framework) (unit : ClassUnit)
    (properties : List ResolvedProperty) : List Import :=
  framework.classImports unit ++
    (properties.filter (framework.declares unit)).flatMap (framework.propertyImports unit) ++
    (framework.relations unit properties).map Laravel.relationImport

/-- The file of a class in a namespace. -/
def classFile (unit : ClassUnit) (registry : Registry) (namespaceName : String) : File :=
  let framework := unit.settings.framework
  let references : References :=
    { registry, context := unit.context, aggregate := unit.aggregate, namespaceName
      className := unit.name }
  let (properties, references) := references.resolveAll unit.properties
  { namespaceName
    imports := addImports references.imports (frameworkImports framework unit properties)
    declarations := [.classDecl (assembleClass framework unit properties)] }

/-! ## Units -/

/-- An entity as a unit whose class is assembled. -/
def entityUnit (settings : Settings) (plan : UnitPlan) (entity : Entity) : ClassUnit :=
  { kind := .entity
    name := plan.placement.finalName
    context := plan.context
    aggregate := plan.aggregate
    properties := entity.properties
    isAggregateRoot := entity.isAggregateRoot
    settings }

/-- A value object as a unit whose class is assembled. -/
def valueObjectUnit (settings : Settings) (plan : UnitPlan) (valueObject : ValueObject) :
    ClassUnit :=
  { kind := .valueObject
    name := plan.placement.finalName
    context := plan.context
    aggregate := plan.aggregate
    properties := valueObject.properties
    readonlyMode := .ofSettings settings
    settings }

/-- The case for a label: its name and its value are the same. -/
def caseOf (label : String) : CaseDecl :=
  let name := Naming.caseIdentifier label
  { name, value := some s!"'{name}'" }

/-- The enumeration of a unit. -/
def enumOf (name : String) (enumeration : Enumeration) : EnumDecl :=
  { name, backing := some "string", cases := enumeration.values.map caseOf }

/-- The file of an enumeration. -/
def enumFile (placement : Placement) (enumeration : Enumeration) : File :=
  { namespaceName := placement.namespaceName
    declarations := [.enumDecl (enumOf placement.finalName enumeration)] }

end Php

end DomainForge
