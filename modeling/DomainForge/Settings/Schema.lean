import DomainForge.Data.Datum
import DomainForge.Settings.Basic
import DomainForge.Text.Split

/-!
# Settings as data

The form of settings in files, and reading them back. Every key may be left
out, except the pattern of a path rule; a key that is not known is refused.
Entries are examined in the order of their keys, so that of several faults the
one with the smallest key is reported.
-/

namespace DomainForge

/-- Why data are no settings. -/
inductive SchemaError where
  | unknownField (given : String) (expected : List String)
  | unknownVariant (given : String) (expected : List String)
  | missingField (name : String)
  | wrongType (found : Datum) (expected : String)
  | wrongLength (found : Nat) (expected : String)
  /-- A choice is written as a table that does not have one entry. -/
  | notOneEntry
deriving Repr

namespace SchemaError

/-- A name between backticks. -/
def ticked (name : String) : String :=
  "`" ++ name ++ "`"

/-- The names that would have been accepted. -/
def oneOf : List String → String
  | [] => "there are none"
  | [a] => ticked a
  | [a, b] => ticked a ++ " or " ++ ticked b
  | names => "one of " ++ Text.joinWith ", " (names.map ticked)

/-- A hexadecimal number without leading zeros. -/
def hexadecimal (value : Nat) : String :=
  String.ofList (Nat.toDigits 16 value)

/-- A character of a quoted text, with control characters written out. -/
def writtenChar (c : Char) : String :=
  if c = '"' then "\\\""
  else if c = '\\' then "\\\\"
  else if c = '\n' then "\\n"
  else if c = '\r' then "\\r"
  else if c = '\t' then "\\t"
  else if c.toNat = 0 then "\\0"
  else if c.toNat < 0x20 ∨ c.toNat = 0x7f then "\\u\x7b" ++ hexadecimal c.toNat ++ "\x7d"
  else String.ofList [c]

/-- What kind of value was found. -/
def describe : Datum → String
  | .null => "null"
  | .bool value => "boolean " ++ ticked (if value then "true" else "false")
  | .integer value => "integer " ++ ticked (toString value)
  | .decimal digits => "floating point " ++ ticked digits
  | .moment _ => "map"
  | .text value => "string \"" ++ String.join (value.toList.map writtenChar) ++ "\""
  | .list _ => "sequence"
  | .table _ => "map"

/-- The wording of a schema error. -/
def message : SchemaError → String
  | unknownField given expected =>
    "unknown field " ++ ticked given ++ ", expected " ++ oneOf expected
  | unknownVariant given expected =>
    "unknown variant " ++ ticked given ++ ", expected " ++ oneOf expected
  | missingField name => "missing field " ++ ticked name
  | wrongType found expected => "invalid type: " ++ describe found ++ ", expected " ++ expected
  | wrongLength found expected => s!"invalid length {found}, expected {expected}"
  | notOneEntry => "invalid value: map, expected map with a single key"

end SchemaError

/-- What a data format allows beyond the plain form of settings. -/
structure DataDialect where
  /-- Lists with more items than there are fields are refused. -/
  strictLists : Bool
  /-- The values that may stand behind a choice written as a key. -/
  isBlank : Datum → Bool

namespace DataDialect

/-- JSON: a choice may be written as a key with a null behind it. -/
def json : DataDialect where
  strictLists := true
  isBlank
    | .null => true
    | _ => false

/-- TOML: a choice may be written as a key with an empty table or list. -/
def toml : DataDialect where
  strictLists := false
  isBlank
    | .list [] => true
    | .table [] => true
    | _ => false

end DataDialect

namespace Schema

/-! ## Reading values -/

/-- Reads a truth value. -/
def readBool : Datum → Except SchemaError Bool
  | .bool value => .ok value
  | found => .error (.wrongType found "a boolean")

/-- Reads a text. -/
def readText : Datum → Except SchemaError String
  | .text value => .ok value
  | found => .error (.wrongType found "a string")

/-- Reads a value that may be null. -/
def readOptional {α : Type} (read : Datum → Except SchemaError α) :
    Datum → Except SchemaError (Option α)
  | .null => .ok none
  | found => (read found).map some

/-- Reads items one after another, up to the first fault. -/
def readItems {α : Type} (read : Datum → Except SchemaError α) :
    List Datum → Except SchemaError (List α)
  | [] => .ok []
  | item :: items =>
    match read item with
    | .error fault => .error fault
    | .ok value =>
      match readItems read items with
      | .error fault => .error fault
      | .ok values => .ok (value :: values)

/-- Reads a list. -/
def readList {α : Type} (read : Datum → Except SchemaError α) :
    Datum → Except SchemaError (List α)
  | .list items => readItems read items
  | found => .error (.wrongType found "a sequence")

/-- Reads the name of a choice. -/
def readVariant {α : Type} (choices : List α) (spelling : α → String) (given : String) :
    Except SchemaError α :=
  match choices.find? fun choice => spelling choice == given with
  | some choice => .ok choice
  | none => .error (.unknownVariant given (choices.map spelling))

/-- Reads a choice, written as its name or as a key with a blank behind it. -/
def readChoice {α : Type} (dialect : DataDialect) (choices : List α) (spelling : α → String) :
    Datum → Except SchemaError α
  | .text given => readVariant choices spelling given
  | .table [(given, payload)] =>
    match readVariant choices spelling given with
    | .error fault => .error fault
    | .ok choice =>
      if dialect.isBlank payload then .ok choice else .error (.wrongType payload "unit")
  | .table _ => .error .notOneEntry
  | found => .error (.wrongType found "string or map")

/-! ## Reading records -/

/-- The entries of a record, given by key or by position. -/
structure Record where
  entries : List (String × Datum)
  /-- The number of items of a record given by position. -/
  length? : Option Nat := none

/-- The entries of a record with the given fields. A list gives them by
position. -/
def openRecord (title : String) (fields : List String) : Datum → Except SchemaError Record
  | .table entries => .ok { entries := entries }
  | .list items => .ok { entries := fields.zip items, length? := some items.length }
  | found => .error (.wrongType found ("struct " ++ title))

/-- Reads a field, which has a default. -/
def Record.read {α : Type} (record : Record) (key : String) (read : Datum → Except SchemaError α)
    (default : α) : Except SchemaError α :=
  match Datum.lookup? key record.entries with
  | some value => read value
  | none => .ok default

/-- The fault of a field, with its key. -/
def faultOf {α : Type} (key : String) : Except SchemaError α → List (String × SchemaError)
  | .ok _ => []
  | .error fault => [(key, fault)]

/-- The entries that belong to no field. -/
def Record.unknown (record : Record) (fields : List String) : List (String × SchemaError) :=
  (record.entries.filter fun (key, _) => !fields.contains key).map fun (key, _) =>
    (key, .unknownField key fields)

/-- The fault with the smallest key. -/
def leastFault : List (String × SchemaError) → Option (String × SchemaError)
  | [] => none
  | fault :: faults =>
    match leastFault faults with
    | none => some fault
    | some least => if least.1 < fault.1 then some least else some fault

/-- The fault to report: by key in a table, by position in a list. -/
def Record.fault? (record : Record) (faults : List (String × SchemaError)) :
    Option SchemaError :=
  match record.length? with
  | none => (leastFault faults).map (·.2)
  | some _ => faults.head?.map (·.2)

/-- The fault of a list with more items than there are fields. -/
def Record.excess? (record : Record) (dialect : DataDialect) (fields : List String) :
    Option SchemaError :=
  match record.length? with
  | some length =>
    if dialect.strictLists && fields.length < length then
      some (.wrongLength length "fewer elements in array")
    else none
  | none => none

/-- The value of a record, unless there is a fault. -/
def Record.finish {α : Type} (record : Record) (dialect : DataDialect) (fields : List String)
    (faults : List (String × SchemaError)) (value : Except SchemaError α) :
    Except SchemaError α :=
  match record.fault? (record.unknown fields ++ faults) with
  | some fault => .error fault
  | none =>
    match value with
    | .error fault => .error fault
    | .ok value =>
      match record.excess? dialect fields with
      | some fault => .error fault
      | none => .ok value

end Schema

/-! ## Doctrine options -/

namespace DoctrineOptions

/-- The keys of the Doctrine options. -/
def fields : List String :=
  ["attributes", "collection_docblocks", "array_docblocks"]

/-- Doctrine options as data. -/
def toDatum (options : DoctrineOptions) : Datum :=
  .table [("attributes", .bool options.attributes),
    ("collection_docblocks", .bool options.collectionDocblocks),
    ("array_docblocks", .bool options.arrayDocblocks)]

/-- Reads Doctrine options. -/
def ofDatum (dialect : DataDialect) (found : Datum) : Except SchemaError DoctrineOptions := do
  let record ← Schema.openRecord "DoctrineOptions" fields found
  let standard : DoctrineOptions := {}
  let attributes := record.read "attributes" Schema.readBool standard.attributes
  let collections := record.read "collection_docblocks" Schema.readBool standard.collectionDocblocks
  let arrays := record.read "array_docblocks" Schema.readBool standard.arrayDocblocks
  record.finish dialect fields
    (Schema.faultOf "attributes" attributes ++ Schema.faultOf "collection_docblocks" collections ++
      Schema.faultOf "array_docblocks" arrays)
    (return {
      attributes := ← attributes
      collectionDocblocks := ← collections
      arrayDocblocks := ← arrays })

end DoctrineOptions

/-! ## Path rules -/

namespace PathRule

/-- The keys of a path rule. -/
def fields : List String :=
  ["pattern", "kind", "subfolder", "strip"]

/-- An entry that is left out if it has no value. -/
def optionalEntry (key : String) : Option String → List (String × Datum)
  | some value => [(key, .text value)]
  | none => []

/-- A path rule as data. -/
def toDatum (rule : PathRule) : Datum :=
  .table ([("pattern", .text rule.pattern)] ++ optionalEntry "kind" (rule.kind.map (·.spelling)) ++
    [("subfolder", .text rule.subfolder)] ++ optionalEntry "strip" rule.strip)

/-- Reads the pattern of a path rule, which must be there. -/
def readPattern (record : Schema.Record) : Except SchemaError (Option String) :=
  record.read "pattern" (fun found => (Schema.readText found).map some) none

/-- The pattern, or the fault that there is none. -/
def required (record : Schema.Record) (pattern : Option String) : Except SchemaError String :=
  match pattern, record.length? with
  | some pattern, _ => .ok pattern
  | none, none => .error (.missingField "pattern")
  | none, some length => .error (.wrongLength length "struct PathRule with 4 elements")

/-- Reads a path rule. -/
def ofDatum (dialect : DataDialect) (found : Datum) : Except SchemaError PathRule := do
  let record ← Schema.openRecord "PathRule" fields found
  let pattern := readPattern record
  let kind := record.read "kind"
    (Schema.readOptional (Schema.readChoice dialect UnitKind.choices UnitKind.spelling)) none
  let subfolder := record.read "subfolder" Schema.readText ""
  let strip := record.read "strip" (Schema.readOptional Schema.readText) none
  record.finish dialect fields
    (Schema.faultOf "pattern" pattern ++ Schema.faultOf "kind" kind ++
      Schema.faultOf "subfolder" subfolder ++ Schema.faultOf "strip" strip)
    (return {
      pattern := ← required record (← pattern)
      kind := ← kind
      subfolder := ← subfolder
      strip := ← strip })

end PathRule

/-! ## Settings -/

namespace Settings

/-- The keys of the settings. -/
def fields : List String :=
  ["framework", "php_version", "namespace", "property_visibility", "getters", "setters",
    "constructor", "constructor_promotion", "readonly_value_objects", "directory_structure",
    "group_by_type", "doctrine", "path_rules"]

/-- Settings as data. -/
def toDatum (settings : Settings) : Datum :=
  .table [("framework", .text settings.framework.spelling),
    ("php_version", .text settings.phpVersion.spelling),
    ("namespace", .text settings.rootNamespace),
    ("property_visibility", .text settings.propertyVisibility.spelling),
    ("getters", .bool settings.getters), ("setters", .bool settings.setters),
    ("constructor", .text settings.constructor.spelling),
    ("constructor_promotion", .bool settings.constructorPromotion),
    ("readonly_value_objects", .bool settings.readonlyValueObjects),
    ("directory_structure", .text settings.directoryStructure.spelling),
    ("group_by_type", .bool settings.groupByType),
    ("doctrine", settings.doctrine.toDatum),
    ("path_rules", .list (settings.pathRules.map PathRule.toDatum))]

/-- Reads settings. -/
def ofDatum (dialect : DataDialect) (found : Datum) : Except SchemaError Settings := do
  let record ← Schema.openRecord "GeneratorConfig" fields found
  let standard : Settings := {}
  let framework := record.read "framework"
    (Schema.readChoice dialect Framework.choices Framework.spelling) standard.framework
  let phpVersion := record.read "php_version"
    (Schema.readChoice dialect PhpVersion.choices PhpVersion.spelling) standard.phpVersion
  let rootNamespace := record.read "namespace" Schema.readText standard.rootNamespace
  let propertyVisibility := record.read "property_visibility"
    (Schema.readChoice dialect PropertyVisibility.choices PropertyVisibility.spelling)
    standard.propertyVisibility
  let getters := record.read "getters" Schema.readBool standard.getters
  let setters := record.read "setters" Schema.readBool standard.setters
  let constructor := record.read "constructor"
    (Schema.readChoice dialect ConstructorPolicy.choices ConstructorPolicy.spelling)
    standard.constructor
  let constructorPromotion := record.read "constructor_promotion" Schema.readBool
    standard.constructorPromotion
  let readonlyValueObjects := record.read "readonly_value_objects" Schema.readBool
    standard.readonlyValueObjects
  let directoryStructure := record.read "directory_structure"
    (Schema.readChoice dialect DirectoryStructure.choices DirectoryStructure.spelling)
    standard.directoryStructure
  let groupByType := record.read "group_by_type" Schema.readBool standard.groupByType
  let doctrine := record.read "doctrine" (DoctrineOptions.ofDatum dialect) standard.doctrine
  let pathRules := record.read "path_rules" (Schema.readList (PathRule.ofDatum dialect))
    standard.pathRules
  record.finish dialect fields
    (Schema.faultOf "framework" framework ++ Schema.faultOf "php_version" phpVersion ++
      Schema.faultOf "namespace" rootNamespace ++
      Schema.faultOf "property_visibility" propertyVisibility ++
      Schema.faultOf "getters" getters ++ Schema.faultOf "setters" setters ++
      Schema.faultOf "constructor" constructor ++
      Schema.faultOf "constructor_promotion" constructorPromotion ++
      Schema.faultOf "readonly_value_objects" readonlyValueObjects ++
      Schema.faultOf "directory_structure" directoryStructure ++
      Schema.faultOf "group_by_type" groupByType ++ Schema.faultOf "doctrine" doctrine ++
      Schema.faultOf "path_rules" pathRules)
    (return {
      framework := ← framework
      phpVersion := ← phpVersion
      rootNamespace := ← rootNamespace
      propertyVisibility := ← propertyVisibility
      getters := ← getters
      setters := ← setters
      constructor := ← constructor
      constructorPromotion := ← constructorPromotion
      readonlyValueObjects := ← readonlyValueObjects
      directoryStructure := ← directoryStructure
      groupByType := ← groupByType
      doctrine := ← doctrine
      pathRules := ← pathRules })

end Settings

end DomainForge
