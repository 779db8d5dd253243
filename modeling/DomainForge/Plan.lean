import DomainForge.Model
import DomainForge.Placement
import DomainForge.Registry

/-!
# Plans

A plan is a unit with its place: where it stands in the model, and where its
file goes. Units are planned context by context and aggregate by aggregate;
within an aggregate enumerations come first, then value objects, then entities.
-/

namespace DomainForge

/-- A unit to be generated. -/
structure UnitPlan where
  kind : UnitKind
  name : String
  context : String
  aggregate : String
  /-- The position of the context in the model. -/
  contextIndex : Nat
  /-- The position of the aggregate in its context. -/
  aggregateIndex : Nat
  /-- The position of the unit among those of its kind. -/
  index : Nat
  placement : Placement
deriving Repr, DecidableEq, Inhabited

namespace UnitPlan

/-- The place of the unit in the model, for messages. -/
def location (plan : UnitPlan) : String :=
  s!"{plan.context}.{plan.aggregate}.{plan.name}"

/-- What the registry knows about the unit. -/
def info (plan : UnitPlan) : UnitInfo :=
  { kind := plan.kind
    finalName := plan.placement.finalName
    namespaceName := plan.placement.namespaceName
    context := plan.context
    aggregate := plan.aggregate }

end UnitPlan

/-- The units of an aggregate in the order in which they are generated: their
kind, their position among those of their kind, and their name. -/
def Aggregate.units (aggregate : Aggregate) : List (UnitKind × Nat × String) :=
  (aggregate.enums.zipIdx.map fun (unit, index) => (.enumeration, index, unit.name)) ++
    (aggregate.valueObjects.zipIdx.map fun (unit, index) => (.valueObject, index, unit.name)) ++
    (aggregate.entities.zipIdx.map fun (unit, index) => (.entity, index, unit.name))

/-- The plans for the units of an aggregate. -/
def planAggregate (layout : Layout) (rules : List CompiledRule) (contextIndex : Nat)
    (context : BoundedContext) (aggregateIndex : Nat) (aggregate : Aggregate) : List UnitPlan :=
  aggregate.units.map fun (kind, index, name) =>
    { kind, name
      context := context.name
      aggregate := aggregate.name
      contextIndex, aggregateIndex, index
      placement := layout.place rules
        { name, kind, context := context.name, aggregate := aggregate.name } }

/-- The plans for all units of a model. -/
def Model.plans (model : Model) (layout : Layout) (rules : List CompiledRule) : List UnitPlan :=
  model.contexts.zipIdx.flatMap fun (context, contextIndex) =>
    context.aggregates.zipIdx.flatMap fun (aggregate, aggregateIndex) =>
      planAggregate layout rules contextIndex context aggregateIndex aggregate

end DomainForge
