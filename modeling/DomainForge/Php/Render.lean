import DomainForge.Code.Fragment
import DomainForge.Imports
import DomainForge.Php.Declaration
import DomainForge.Text.Split

/-!
# Writing PHP

Declarations become fragments, and a file is written from its namespace, its
imports and the fragments of its declarations. An empty line divides the parts
of a file and the sections of a class.
-/

namespace DomainForge.Php

/-! ## Parts of declarations -/

/-- A value behind an equals sign, if there is one. -/
def assigned : Option String → String
  | some value => " = " ++ value
  | none => ""

/-- A property without its semicolon. -/
def PropertyDecl.render (property : PropertyDecl) : String :=
  property.visibility.keyword ++ (if property.isReadonly then " readonly" else "") ++
    (if property.type = "" then "" else " " ++ property.type) ++ " $" ++ property.name ++
    assigned property.default

/-- A parameter. -/
def Param.render (param : Param) : String :=
  (if param.type = "" then "" else param.type ++ " ") ++ "$" ++ param.name ++ assigned param.default

/-- A constructor parameter. -/
def ConstructorParam.render : ConstructorParam → String
  | plain param => param.render
  | promoted property => property.render

/-- A documentation comment, unless there is nothing in it. -/
def docFragments (doc : List String) : List Fragment :=
  if doc.isEmpty then [] else [.doc doc]

/-- What stands above a property. -/
def PropertyDecl.annotations (property : PropertyDecl) : List Fragment :=
  docFragments property.doc ++ property.attributes.map .line

/-- Whether something stands above a property. -/
def PropertyDecl.isAnnotated (property : PropertyDecl) : Bool :=
  !property.doc.isEmpty || !property.attributes.isEmpty

/-- Fragments between braces. -/
def braced (body : List Fragment) : Fragment :=
  .block "\x7b" body (some "\x7d")

/-! ## Classes -/

/-- A property with what stands above it. -/
def PropertyDecl.fragments (property : PropertyDecl) : List Fragment :=
  property.annotations ++ [.line (property.render ++ ";")]

/-- Properties, given the one before them. An empty line stands around those
that have something above them. -/
def propertiesAfter (previous : PropertyDecl) : List PropertyDecl → List Fragment
  | [] => []
  | property :: rest =>
    (if previous.isAnnotated || property.isAnnotated then [.blank] else []) ++
      property.fragments ++ propertiesAfter property rest

/-- The properties of a class. -/
def propertyFragments : List PropertyDecl → List Fragment
  | [] => []
  | property :: rest => property.fragments ++ propertiesAfter property rest

/-- A constructor parameter on lines of its own. -/
def ConstructorParam.fragments : ConstructorParam → List Fragment
  | plain param => [.line (param.render ++ ",")]
  | promoted property => property.annotations ++ [.line (property.render ++ ",")]

/-- A constructor. If it declares properties, each parameter has a line of its
own. -/
def ConstructorDecl.fragments (constructor : ConstructorDecl) : List Fragment :=
  let body := constructor.body.map Fragment.line
  if constructor.promotes then
    [.line "public function __construct(",
      .indent (constructor.params.flatMap ConstructorParam.fragments),
      .line ") \x7b", .indent body, .line "\x7d"]
  else
    [.line ("public function __construct(" ++
        Text.joinWith ", " (constructor.params.map ConstructorParam.render) ++ ")"),
      braced body]

/-- The first line of a method. -/
def MethodDecl.signature (method : MethodDecl) : String :=
  method.visibility.keyword ++ " function " ++ method.name ++ "(" ++
    Text.joinWith ", " (method.params.map Param.render) ++ ")" ++
    match method.returns with
    | some type => ": " ++ type
    | none => ""

/-- A method. -/
def MethodDecl.fragments (method : MethodDecl) : List Fragment :=
  docFragments method.doc ++ [.line method.signature, braced (method.body.map Fragment.line)]

/-- The first line of a class. -/
def ClassDecl.header (decl : ClassDecl) : String :=
  (if decl.isFinal then "final " else "") ++ (if decl.isReadonly then "readonly " else "") ++
    "class " ++ decl.name ++
    match decl.parent with
    | some parent => " extends " ++ parent
    | none => ""

/-- The sections of a class: its properties, its constructor, and each method. -/
def ClassDecl.sections (decl : ClassDecl) : List (List Fragment) :=
  (if decl.properties.isEmpty then [] else [propertyFragments decl.properties]) ++
    (decl.constructor.map ConstructorDecl.fragments).toList ++
    decl.methods.map MethodDecl.fragments

/-- Sections with an empty line between them. -/
def joinSections : List (List Fragment) → List Fragment
  | [] => []
  | [part] => part
  | part :: rest => part ++ [.blank] ++ joinSections rest

/-- A class. -/
def ClassDecl.fragments (decl : ClassDecl) : List Fragment :=
  docFragments decl.doc ++ decl.attributes.map .line ++
    [.line decl.header, braced (joinSections decl.sections)]

/-! ## Enumerations -/

/-- A case of an enumeration. -/
def CaseDecl.render (decl : CaseDecl) : String :=
  "case " ++ decl.name ++ assigned decl.value ++ ";"

/-- The first line of an enumeration. -/
def EnumDecl.header (decl : EnumDecl) : String :=
  "enum " ++ decl.name ++
    match decl.backing with
    | some type => ": " ++ type
    | none => ""

/-- An enumeration. -/
def EnumDecl.fragments (decl : EnumDecl) : List Fragment :=
  docFragments decl.doc ++
    [.line decl.header, braced (decl.cases.map fun found => .line found.render)]

/-! ## Files -/

/-- What a file declares. -/
inductive Declaration where
  | classDecl (decl : ClassDecl)
  | enumDecl (decl : EnumDecl)
deriving Repr, Inhabited

/-- The fragments of a declaration. -/
def Declaration.fragments : Declaration → List Fragment
  | classDecl decl => decl.fragments
  | enumDecl decl => decl.fragments

/-- A file: its namespace, its imports and its declarations. -/
structure File where
  namespaceName : String := ""
  imports : Imports := {}
  declarations : List Declaration := []
deriving Repr, Inhabited

namespace File

/-- The lines that start every file. -/
def preamble : List Fragment :=
  [.line "<?php", .blank, .line "declare(strict_types=1);"]

/-- The line of the namespace, unless it is the global one. -/
def namespacePart (file : File) : List Fragment :=
  let name := trimNamespace file.namespaceName
  if name = "" then [] else [.blank, .line s!"namespace {name};"]

/-- The lines of the imports. -/
def importPart (file : File) : List Fragment :=
  let statements := file.imports.statements
  if statements.isEmpty then []
  else .blank :: statements.map fun statement => .line s!"use {statement};"

/-- All fragments of a file. -/
def fragments (file : File) : List Fragment :=
  preamble ++ file.namespacePart ++ file.importPart ++
    file.declarations.flatMap fun declaration => .blank :: declaration.fragments

/-- The text of a file. -/
def render (file : File) (indent : Indent := .standard) : String :=
  (CodeWriter.writeAll { indent := indent } file.fragments).text

end File

end DomainForge.Php
