import DomainForge.Php.Assembly
import DomainForge.Pipeline

/-!
# Generation

One file is generated for every plan, in the order of the plans, from the unit
that the plan points at.
-/

namespace DomainForge

/-- A generated file. -/
structure OutputFile where
  /-- The path below the output directory. -/
  path : String
  content : String
  kind : UnitKind
deriving Repr, DecidableEq, Inhabited

/-- The last part of a file's path. -/
def OutputFile.fileName (file : OutputFile) : String :=
  String.ofList (file.path.toList.reverse.takeWhile (· != '/')).reverse

/-- Why files could not be generated: a plan points outside the model. -/
inductive GenerationError where
  | noAggregate (location : String)
  | noUnit (location : String)
deriving Repr, DecidableEq

/-- The wording of a generation error. -/
def GenerationError.message : GenerationError → String
  | noAggregate location => s!"aggregate of unit {location} is not part of the model"
  | noUnit location => s!"unit {location} is not part of the model"

/-- A unit, or the error that there is none. -/
def unitOr {α : Type} (plan : UnitPlan) : Option α → Except GenerationError α
  | some unit => .ok unit
  | none => .error (.noUnit plan.location)

/-- The text of the file of a plan, whose aggregate is given. -/
def contentIn (found : Preparation) (plan : UnitPlan) (aggregate : Aggregate) :
    Except GenerationError String :=
  let classText (unit : Php.ClassUnit) : String :=
    (Php.classFile unit found.registry plan.placement.namespaceName).render
  match plan.kind with
  | .enumeration =>
    (unitOr plan aggregate.enums[plan.index]?).map fun unit =>
      (Php.enumFile plan.placement unit).render
  | .valueObject =>
    (unitOr plan aggregate.valueObjects[plan.index]?).map fun unit =>
      classText (Php.valueObjectUnit found.settings plan unit)
  | .entity =>
    (unitOr plan aggregate.entities[plan.index]?).map fun unit =>
      classText (Php.entityUnit found.settings plan unit)

/-- The file of a plan. -/
def generateFile (found : Preparation) (plan : UnitPlan) : Except GenerationError OutputFile :=
  match found.model.aggregate? plan.contextIndex plan.aggregateIndex with
  | none => .error (.noAggregate plan.location)
  | some aggregate =>
    (contentIn found plan aggregate).map fun content =>
      { path := plan.placement.path, content, kind := plan.kind }

/-- The files of plans, unless one of them fails. -/
def generateFiles (found : Preparation) : List UnitPlan → Except GenerationError (List OutputFile)
  | [] => .ok []
  | plan :: plans =>
    match generateFile found plan with
    | .error fault => .error fault
    | .ok file => (generateFiles found plans).map (file :: ·)

/-- The files of everything that has been planned. -/
def Preparation.files (found : Preparation) : Except GenerationError (List OutputFile) :=
  generateFiles found found.plans

end DomainForge
