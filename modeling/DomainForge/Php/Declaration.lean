/-!
# Declarations

Classes and enumerations as values: what they contain, not how they are
written. Frameworks change these values before they are rendered.
-/

namespace DomainForge.Php

/-- The visibility of a member. -/
inductive Visibility where
  | isPublic
  | isProtected
  | isPrivate
deriving Repr, DecidableEq, Inhabited

/-- The keyword of a visibility. -/
def Visibility.keyword : Visibility → String
  | isPublic => "public"
  | isProtected => "protected"
  | isPrivate => "private"

/-- A property of a class. -/
structure PropertyDecl where
  name : String
  type : String
  visibility : Visibility := .isPublic
  isReadonly : Bool := false
  default : Option String := none
  doc : List String := []
  attributes : List String := []
deriving Repr, DecidableEq, Inhabited

/-- A parameter of a method. -/
structure Param where
  name : String
  type : String
  default : Option String := none
deriving Repr, DecidableEq, Inhabited

/-- A parameter of a constructor. -/
inductive ConstructorParam where
  /-- A parameter like that of any method. -/
  | plain (param : Param)
  /-- A parameter that declares a property. -/
  | promoted (property : PropertyDecl)
deriving Repr, DecidableEq, Inhabited

namespace ConstructorParam

/-- The name of a parameter. -/
def name : ConstructorParam → String
  | plain param => param.name
  | promoted property => property.name

/-- The type of a parameter. -/
def type : ConstructorParam → String
  | plain param => param.type
  | promoted property => property.type

/-- Whether a parameter declares a property. -/
def isPromoted : ConstructorParam → Bool
  | plain _ => false
  | promoted _ => true

end ConstructorParam

/-- A constructor. -/
structure ConstructorDecl where
  params : List ConstructorParam := []
  body : List String := []
deriving Repr, DecidableEq, Inhabited

namespace ConstructorDecl

/-- Whether a constructor takes nothing and does nothing. -/
def isEmpty (constructor : ConstructorDecl) : Bool :=
  constructor.params.isEmpty && constructor.body.isEmpty

/-- Whether some parameter declares a property. -/
def promotes (constructor : ConstructorDecl) : Bool :=
  constructor.params.any (·.isPromoted)

end ConstructorDecl

/-- A method of a class. -/
structure MethodDecl where
  name : String
  visibility : Visibility := .isPublic
  params : List Param := []
  returns : Option String := none
  body : List String := []
  doc : List String := []
deriving Repr, DecidableEq, Inhabited

/-- A class. -/
structure ClassDecl where
  name : String
  doc : List String := []
  attributes : List String := []
  isFinal : Bool := false
  isReadonly : Bool := false
  parent : Option String := none
  properties : List PropertyDecl := []
  constructor : Option ConstructorDecl := none
  methods : List MethodDecl := []
deriving Repr, DecidableEq, Inhabited

namespace ClassDecl

/-- Whether a class has no members. -/
def isEmpty (decl : ClassDecl) : Bool :=
  decl.properties.isEmpty && decl.constructor.isNone && decl.methods.isEmpty

/-- The property with a name. -/
def property? (decl : ClassDecl) (name : String) : Option PropertyDecl :=
  decl.properties.find? (·.name == name)

end ClassDecl

/-- A case of an enumeration. -/
structure CaseDecl where
  name : String
  value : Option String := none
deriving Repr, DecidableEq, Inhabited

/-- An enumeration. -/
structure EnumDecl where
  name : String
  doc : List String := []
  /-- The type of the cases' values. -/
  backing : Option String := none
  cases : List CaseDecl := []
deriving Repr, DecidableEq, Inhabited

end DomainForge.Php
