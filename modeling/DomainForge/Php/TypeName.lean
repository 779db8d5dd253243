import DomainForge.Settings.Options
import DomainForge.Text.Blank
import DomainForge.Text.Casing

/-!
# Types

How the type names of a model become PHP types. A few names are primitives,
in any case; every other name is taken for the name of a class.
-/

namespace DomainForge.Php

/-- The type of a property without a declared type. -/
def mixed : String := "mixed"

/-- The type of a point in time. -/
def instant : String := "\\DateTimeImmutable"

/-- A primitive type: how PHP calls it, and how it is stored. -/
structure Primitive where
  type : String
  storage : String
deriving Repr, DecidableEq

/-- The primitive that a name stands for. -/
def primitive? (name : String) : Option Primitive :=
  match Text.lowercase (Text.trimmed name) with
  | "string" => some ⟨"string", "STRING"⟩
  | "text" | "clob" => some ⟨"string", "TEXT"⟩
  | "int" | "integer" | "short" => some ⟨"int", "INTEGER"⟩
  | "long" => some ⟨"int", "BIGINT"⟩
  | "boolean" | "bool" => some ⟨"bool", "BOOLEAN"⟩
  | "float" | "double" => some ⟨"float", "FLOAT"⟩
  | "bigdecimal" | "decimal" => some ⟨"float", "DECIMAL"⟩
  | "date" | "localdate" => some ⟨instant, "DATE_IMMUTABLE"⟩
  | "datetime" | "localdatetime" | "timestamp" | "instant" => some ⟨instant, "DATETIME_IMMUTABLE"⟩
  | "time" | "localtime" => some ⟨instant, "TIME_IMMUTABLE"⟩
  | "blob" | "byte[]" => some ⟨"string", "BLOB"⟩
  | "uuid" => some ⟨"string", "GUID"⟩
  | _ => none

/-- The type of a single value. Names of classes are kept, and without a name
any value is allowed. -/
def scalarType (name : String) : String :=
  let name := Text.trimmed name
  if name = "" then mixed else ((primitive? name).map (·.type)).getD name

/-- What a type depends on besides its name. -/
structure TypeFlags where
  nullable : Bool := false
  collection : Bool := false
  /-- The values are entities. -/
  association : Bool := false
deriving Repr, DecidableEq

/-- The PHP type for a type name, which for a collection is that of its
elements. -/
def typeFor (framework : Framework) (name : String) (flags : TypeFlags) : String :=
  let base :=
    if !flags.collection then scalarType name
    else if framework = .doctrine ∧ flags.association then "Collection"
    else "array"
  if flags.nullable ∧ base ≠ mixed then "?" ++ base else base

end DomainForge.Php
