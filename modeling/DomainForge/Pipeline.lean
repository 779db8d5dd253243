import DomainForge.Naming
import DomainForge.Plan

/-!
# The pipeline

A model is prepared for generation in phases: the path rules are read, every
unit is placed, and lints look for conflicts. Plugins are called before and
after every phase and may change what has been prepared or stop the run.
-/

namespace DomainForge

/-- What has been prepared so far. -/
structure Preparation where
  model : Model
  settings : Settings
  /-- The path rules, once they have been read. -/
  rules : Option (List CompiledRule) := none
  plans : List UnitPlan := []
  registry : Registry := {}
  diagnostics : List Diagnostic := []

/-- Why a run stopped. -/
inductive PipelineError where
  | rulesMissing
  | invalid (errors : Nat)
  /-- A plugin stopped the run. -/
  | stopped (message : String)
deriving Repr, DecidableEq

/-- The wording of a pipeline error. -/
def PipelineError.message : PipelineError → String
  | rulesMissing => "rules not compiled - ResolvePhase must run after RulesPhase"
  | invalid errors => s!"validation failed with {errors} error(s)"
  | stopped message => message

/-! ## Lints -/

/-- A check of what has been prepared. -/
structure Lint where
  name : String
  check : Preparation → List Diagnostic

namespace Lint

/-- The phase that runs lints. -/
def phaseName : String := "validate"

/-- The warning for a unit whose file another unit has already. -/
def takenPath (plan first : UnitPlan) : Diagnostic :=
  .warningAt phaseName
    (s!"{plan.kind.spelling} '{plan.name}' resolves to '{plan.placement.path}', " ++
      s!"already used by '{first.location}'")
    plan.location

/-- The path by which files are told apart: their case does not count. -/
def pathKey (plan : UnitPlan) : String :=
  Text.lowercase plan.placement.path

/-- The units whose path an earlier one has, given the earlier ones by path. -/
def takenPaths (earlier : List (String × UnitPlan)) : List UnitPlan → List Diagnostic
  | [] => []
  | plan :: plans =>
    let key := pathKey plan
    (match earlier.lookup key with
      | some first => [takenPath plan first]
      | none => []) ++ takenPaths (earlier ++ [(key, plan)]) plans

/-- Warns of units that share a file. -/
def duplicateOutputPath : Lint where
  name := "duplicate-output-path"
  check found := takenPaths [] found.plans

/-- The warning for a unit whose name its aggregate has already. -/
def takenName (context : BoundedContext) (aggregate : Aggregate) (name : String)
    (kind first : UnitKind) : Diagnostic :=
  .warningAt phaseName
    (s!"{kind.spelling} '{name}' is declared more than once in aggregate '{aggregate.name}' " ++
      s!"(first as {first.spelling})")
    s!"{context.name}.{aggregate.name}.{name}"

/-- The units whose name an earlier one has, given the earlier ones. -/
def takenNames (context : BoundedContext) (aggregate : Aggregate)
    (earlier : List (UnitKind × Nat × String)) :
    List (UnitKind × Nat × String) → List Diagnostic
  | [] => []
  | (kind, index, name) :: units =>
    (match earlier.find? fun (_, _, other) => other == name with
      | some (first, _, _) => [takenName context aggregate name kind first]
      | none => []) ++ takenNames context aggregate (earlier ++ [(kind, index, name)]) units

/-- Warns of names that are declared twice in an aggregate. -/
def duplicateUnitName : Lint where
  name := "duplicate-unit-name"
  check found := found.model.aggregates.flatMap fun (context, aggregate) =>
    takenNames context aggregate [] aggregate.units

/-- The warning for a unit that is called by a reserved word. -/
def reservedName (plan : UnitPlan) : Diagnostic :=
  .warningAt phaseName
    (s!"{plan.kind.spelling} '{plan.placement.finalName}' uses a reserved PHP word as its name; " ++
      "the generated file will not compile")
    plan.location

/-- Warns of units that are called by a reserved word. -/
def reservedClassName : Lint where
  name := "reserved-class-name"
  check found :=
    (found.plans.filter fun plan => Naming.isReserved plan.placement.finalName).map reservedName

/-- The lints that every run has. -/
def standard : List Lint := [duplicateOutputPath, duplicateUnitName]

end Lint

/-! ## Phases -/

/-- A step of the pipeline. -/
inductive Phase where
  /-- Reads the path rules. -/
  | rules
  /-- Places every unit. -/
  | resolve
  /-- Runs lints. -/
  | validate (lints : List Lint)

namespace Phase

/-- The name of a phase, by which plugins know it. -/
def name : Phase → String
  | rules => rulesPhase
  | resolve => "resolve"
  | validate _ => Lint.phaseName

/-- Reads the path rules. -/
def readRules [PatternLanguage] (found : Preparation) : Preparation :=
  let (compiled, warnings) := compileRules found.settings.pathRules
  { found with rules := some compiled, diagnostics := found.diagnostics ++ warnings }

/-- Places every unit and registers it. -/
def placeUnits (found : Preparation) (compiled : List CompiledRule) : Preparation :=
  let plans := found.model.plans (.ofSettings found.settings) compiled
  { found with
    plans := plans
    registry := plans.foldl (fun registry plan => registry.register plan.name plan.info)
      found.registry }

/-- Runs lints, all of them on what was there before the first. -/
def runLints (lints : List Lint) (found : Preparation) : Preparation :=
  { found with diagnostics := found.diagnostics ++ lints.flatMap (·.check found) }

/-- Runs a phase. Lints stop the run if there are errors, whoever found them. -/
def run [PatternLanguage] (phase : Phase) (found : Preparation) :
    Except PipelineError Preparation :=
  match phase with
  | rules => .ok (readRules found)
  | resolve =>
    match found.rules with
    | some compiled => .ok (placeUnits found compiled)
    | none => .error .rulesMissing
  | validate lints =>
    let checked := runLints lints found
    match (Diagnostic.errors checked.diagnostics).length with
    | 0 => .ok checked
    | errors => .error (.invalid errors)

/-- The phases that every run has. -/
def standard : List Phase := [rules, resolve, validate Lint.standard]

/-- The phases of a run that prepares PHP classes. -/
def forPhp : List Phase := standard ++ [validate [Lint.reservedClassName]]

end Phase

/-! ## Plugins -/

/-- Whether a plugin is called before or after a phase. -/
inductive Moment where
  | before
  | after
deriving Repr, DecidableEq

/-- The spelling of a moment. -/
def Moment.spelling : Moment → String
  | before => "before"
  | after => "after"

/-- A plugin: what it does to what has been prepared, before and after the
phase with a given name. -/
structure Plugin where
  name : String
  hook : Moment → String → Preparation → Except PipelineError Preparation

/-- A call of a plugin. -/
structure HookCall where
  plugin : String
  moment : Moment
  phase : String
deriving Repr, DecidableEq

/-- A call on one line. -/
def HookCall.render (call : HookCall) : String :=
  s!"{call.plugin}:{call.moment.spelling}:{call.phase}"

/-- How a run went: the calls of plugins, and what was prepared. -/
structure PipelineRun where
  calls : List HookCall := []
  result : Except PipelineError Preparation

namespace PipelineRun

/-- Goes on with a run, unless it has stopped. -/
def andThen (run : PipelineRun) (next : Preparation → PipelineRun) : PipelineRun :=
  match run.result with
  | .error _ => run
  | .ok found =>
    let further := next found
    { calls := run.calls ++ further.calls, result := further.result }

end PipelineRun

/-- Calls plugins one after another. -/
def callHooks (moment : Moment) (phase : String) : List Plugin → Preparation → PipelineRun
  | [], found => { result := .ok found }
  | plugin :: plugins, found =>
    PipelineRun.andThen
      { calls := [{ plugin := plugin.name, moment, phase }]
        result := plugin.hook moment phase found }
      (callHooks moment phase plugins)

section Running

variable [PatternLanguage]

/-- Runs a phase between its calls of plugins. -/
def runPhase (plugins : List Plugin) (phase : Phase) (found : Preparation) : PipelineRun :=
  ((callHooks .before phase.name plugins found).andThen fun found =>
    { result := phase.run found }).andThen (callHooks .after phase.name plugins)

/-- Runs phases one after another. -/
def runPhases (plugins : List Plugin) : List Phase → Preparation → PipelineRun
  | [], found => { result := .ok found }
  | phase :: phases, found => (runPhase plugins phase found).andThen (runPhases plugins phases)

/-- Prepares a model with the given phases and plugins. -/
def prepareWith (phases : List Phase) (plugins : List Plugin) (model : Model)
    (settings : Settings) : PipelineRun :=
  runPhases plugins phases { model, settings }

/-- Prepares a model for the generation of PHP classes. -/
def prepare (model : Model) (settings : Settings) : Except PipelineError Preparation :=
  (prepareWith Phase.forPhp [] model settings).result

end Running

end DomainForge
