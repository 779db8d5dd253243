import DomainForge.Php.Framework.Doctrine
import DomainForge.Php.Framework.Laravel

/-!
# Frameworks

The points at which the frameworks differ when a class is assembled.
-/

namespace DomainForge

open Php

namespace Framework

/-- The type of a property. Doctrine has a type of its own for the collections
of entities in an entity only. -/
def typeOf (framework : Framework) (unit : ClassUnit) (property : ResolvedProperty) : String :=
  match framework with
  | doctrine =>
    typeFor doctrine property.reference
      { property.flags with association := Doctrine.isEntityCollection unit property }
  | other => typeFor other property.reference property.flags

/-- Adds to a class what the framework asks of it. -/
def decorateClass (framework : Framework) (unit : ClassUnit) (decl : ClassDecl) : ClassDecl :=
  match framework with
  | plain => decl
  | laravel => if unit.isEntity then { decl with parent := some Laravel.model.symbol } else decl
  | doctrine =>
    if !unit.settings.doctrine.attributes then decl
    else
      { decl with
        attributes := decl.attributes ++ [Doctrine.classAttribute unit]
        properties :=
          if Doctrine.addsId unit then Doctrine.idProperty :: decl.properties else decl.properties
        methods :=
          if Doctrine.addsId unit && unit.settings.getters then Doctrine.idGetter :: decl.methods
          else decl.methods }

/-- The imports that a class needs, apart from its properties. -/
def classImports (framework : Framework) (unit : ClassUnit) : List Import :=
  match framework with
  | plain => []
  | laravel => if unit.isEntity then [Laravel.model] else []
  | doctrine => if unit.settings.doctrine.attributes then [Doctrine.mappingImport] else []

/-- Whether a property is declared in the class. -/
def declares (framework : Framework) (unit : ClassUnit) (property : ResolvedProperty) : Bool :=
  match framework with
  | laravel => !Laravel.isRelation unit property
  | _ => true

/-- Adds to a property what the framework asks of it. -/
def decorateProperty (framework : Framework) (unit : ClassUnit) (property : ResolvedProperty)
    (decl : PropertyDecl) : PropertyDecl :=
  match framework with
  | doctrine =>
    { decl with
      doc := decl.doc ++ Doctrine.propertyDoc unit property
      attributes := decl.attributes ++
        if unit.settings.doctrine.attributes then (Doctrine.propertyAttribute? unit property).toList
        else [] }
  | _ => decl

/-- The imports that a declared property needs. -/
def propertyImports (framework : Framework) (unit : ClassUnit) (property : ResolvedProperty) :
    List Import :=
  match framework with
  | doctrine => Doctrine.propertyImports unit property
  | _ => []

/-- Whether a property may become a constructor parameter. -/
def allowsParam (framework : Framework) (unit : ClassUnit) (property : ResolvedProperty) : Bool :=
  match framework with
  | doctrine => !Doctrine.isCreated unit property
  | _ => true

/-- The statement that sets a property that is no parameter. -/
def initializer? (framework : Framework) (unit : ClassUnit) (property : ResolvedProperty) :
    Option String :=
  match framework with
  | doctrine =>
    if Doctrine.isCreated unit property then some (Doctrine.creation unit property) else none
  | _ => none

/-- The first statements of a constructor. -/
def openingStatements (framework : Framework) (unit : ClassUnit) : List String :=
  match framework with
  | laravel => if unit.isEntity then [Laravel.parentCall] else []
  | _ => []

/-- The properties that are told by methods. -/
def relations (framework : Framework) (unit : ClassUnit) (properties : List ResolvedProperty) :
    List ResolvedProperty :=
  match framework with
  | laravel => properties.filter (Laravel.isRelation unit)
  | _ => []

end Framework

end DomainForge
