import DomainForge.Diagnostic
import DomainForge.Generation
import DomainForge.Model

/-!
# Reports

What a command has to say, line by line: its output, and the diagnostics that
go beside it.
-/

namespace DomainForge

/-- The lines of a report. -/
structure Report where
  output : List String := []
  diagnostics : List String := []
deriving Repr, DecidableEq, Inhabited

namespace Report

/-- A number of things, given the word for one of them. -/
def counted (count : Nat) (noun : String) : String :=
  s!"{count} {noun}" ++ if count = 1 then "" else "s"

/-- A heading between lines. -/
def divider (label : String) : String :=
  s!"── {label} ──"

/-! ## Models -/

/-- What is remarkable about a property. -/
def marks (property : Property) : List String :=
  (if property.isRelation then ["relation"] else []) ++
    (if property.isCollection then ["collection"] else []) ++
    (if property.isEnum then ["enum"] else []) ++
    if property.nullable then ["nullable"] else []

/-- A property on one line. -/
def propertyLine (property : Property) : String :=
  let found := marks property
  let shown := if found.isEmpty then "" else " [" ++ Text.joinWith ", " found ++ "]"
  s!"      {property.name}: {property.type}{shown}"

/-- An entity and its properties. -/
def entityLines (entity : Entity) : List String :=
  let root := if entity.isAggregateRoot then " (aggregate root)" else ""
  s!"    Entity {entity.name}{root}" :: entity.properties.map propertyLine

/-- A value object and its properties. -/
def valueObjectLines (valueObject : ValueObject) : List String :=
  s!"    ValueObject {valueObject.name}" :: valueObject.properties.map propertyLine

/-- An enumeration and its values. -/
def enumLine (enumeration : Enumeration) : String :=
  let values := Text.joinWith ", " enumeration.values
  s!"    enum {enumeration.name} \x7b {values} \x7d"

/-- An aggregate and its units. -/
def aggregateLines (aggregate : Aggregate) : List String :=
  s!"  Aggregate {aggregate.name}" ::
    (aggregate.entities.flatMap entityLines ++
      aggregate.valueObjects.flatMap valueObjectLines ++ aggregate.enums.map enumLine)

/-- A bounded context and its aggregates. -/
def contextLines (context : BoundedContext) : List String :=
  s!"BoundedContext {context.name}" :: context.aggregates.flatMap aggregateLines

/-- A model as an indented tree. -/
def ofModel (model : Model) : Report :=
  { output :=
      if model.isEmpty then ["(no bounded contexts)"] else model.contexts.flatMap contextLines }

end Report

/-! ## Checks -/

/-- How many declarations of each kind a model has. -/
structure UnitCounts where
  contexts : Nat := 0
  aggregates : Nat := 0
  entities : Nat := 0
  valueObjects : Nat := 0
  enums : Nat := 0
deriving Repr, DecidableEq, Inhabited

namespace UnitCounts

/-- The counts of a model. -/
def ofModel (model : Model) : UnitCounts :=
  { contexts := model.contexts.length
    aggregates := model.aggregates.length
    entities := model.total (·.entities.length)
    valueObjects := model.total (·.valueObjects.length)
    enums := model.total (·.enums.length) }

/-- The number of units. -/
def units (counts : UnitCounts) : Nat :=
  counts.entities + counts.valueObjects + counts.enums

end UnitCounts

/-- What a check found. -/
structure CheckResult where
  modelPath : String
  /-- The settings file, unless the settings are the default ones. -/
  settingsPath : Option String
  diagnostics : List Diagnostic
  counts : UnitCounts
deriving Repr, DecidableEq, Inhabited

/-- Whether a check found no errors. -/
def CheckResult.isValid (result : CheckResult) : Bool :=
  (Diagnostic.errors result.diagnostics).isEmpty

namespace Report

/-- A diagnostic, and below it the place that it is about. -/
def diagnosticLines (found : Diagnostic) : List String :=
  s!"{found.severity.spelling}: {found.message}" ::
    match found.location with
    | some location => [s!"  --> {location}"]
    | none => []

/-- A named value. -/
def valueLine (name value : String) : String :=
  s!"  {name}: {value}"

/-- The numbers of declarations. -/
def countLines (counts : UnitCounts) : List String :=
  [valueLine "bounded contexts" (toString counts.contexts),
    valueLine "aggregates" (toString counts.aggregates),
    valueLine "entities" (toString counts.entities),
    valueLine "value objects" (toString counts.valueObjects),
    valueLine "enums" (toString counts.enums)]

/-- The output of a check, which is empty if there are errors. -/
def checkOutput (result : CheckResult) : List String :=
  if !result.isValid then []
  else
    (if result.diagnostics.isEmpty then [] else [""]) ++
      [s!"✓ {result.modelPath} is valid", "",
        valueLine "config" (result.settingsPath.getD "defaults")] ++
      countLines result.counts

/-- The report of a check. -/
def ofCheck (result : CheckResult) : Report :=
  { output := checkOutput result
    diagnostics := result.diagnostics.flatMap diagnosticLines }

/-! ## Generation -/

/-- A section of files. -/
def fileSection (title mark : String) (paths : List String) : List String :=
  if paths.isEmpty then []
  else s!"{title} ({paths.length}):" :: paths.map fun path => s!"  {mark} {path}"

/-- The warnings of a run, behind its result. -/
def warningRemark (count : Nat) : String :=
  if count = 0 then "" else " with " ++ counted count "warning"

/-- The report of a run that wrote files below a directory. -/
def ofGeneration (directory : String) (written skipped : List String) (warnings : Nat) : Report :=
  { output :=
      fileSection "Generated" "+" written ++
        (if written.isEmpty || skipped.isEmpty then [] else [""]) ++
        fileSection "Skipped existing" "-" skipped ++
        (if written.isEmpty && skipped.isEmpty then [] else [""]) ++
        [counted written.length "file" ++ s!" written to {directory}" ++ warningRemark warnings] }

/-- The report of a run that only shows what it would write. -/
def ofPreview (found : List OutputFile) : Report :=
  { output :=
      found.flatMap (fun file => [divider file.path, file.content]) ++
        [divider "Summary", counted found.length "file" ++ " would be generated"] }

end Report

end DomainForge
