/-!
# Domain models

A domain model is an ordered tree: bounded contexts hold aggregates, and an
aggregate holds three lists of units, its entities, value objects and
enumerations. One file is generated for every unit.
-/

namespace DomainForge

/-- The kinds of units that files are generated for. -/
inductive UnitKind where
  | enumeration
  | valueObject
  | entity
deriving Repr, DecidableEq, Inhabited

/-- A typed attribute of an entity or value object. For a collection the type
is that of the elements. -/
structure Property where
  name : String
  type : String
  nullable : Bool := false
  isRelation : Bool := false
  isCollection : Bool := false
  isEnum : Bool := false
deriving Repr, DecidableEq, Inhabited

/-- An object with identity. -/
structure Entity where
  name : String
  isAggregateRoot : Bool := false
  properties : List Property := []
deriving Repr, DecidableEq, Inhabited

/-- An object that is its properties. -/
structure ValueObject where
  name : String
  properties : List Property := []
deriving Repr, DecidableEq, Inhabited

/-- A closed, ordered list of labels. -/
structure Enumeration where
  name : String
  values : List String := []
deriving Repr, DecidableEq, Inhabited

/-- A consistency boundary around its units. -/
structure Aggregate where
  name : String
  entities : List Entity := []
  valueObjects : List ValueObject := []
  enums : List Enumeration := []
deriving Repr, DecidableEq, Inhabited

/-- A part of the domain with a language of its own. -/
structure BoundedContext where
  name : String
  aggregates : List Aggregate := []
deriving Repr, DecidableEq, Inhabited

/-- An ordered list of bounded contexts. -/
structure Model where
  contexts : List BoundedContext := []
deriving Repr, DecidableEq, Inhabited

namespace Aggregate

/-- The number of units in an aggregate. -/
def unitCount (aggregate : Aggregate) : Nat :=
  aggregate.entities.length + aggregate.valueObjects.length + aggregate.enums.length

end Aggregate

namespace Model

/-- Every aggregate with the context that holds it, in order. -/
def aggregates (model : Model) : List (BoundedContext × Aggregate) :=
  model.contexts.flatMap fun context => context.aggregates.map fun aggregate => (context, aggregate)

/-- What is counted in each aggregate, over all aggregates. -/
def total (model : Model) (count : Aggregate → Nat) : Nat :=
  model.aggregates.foldr (fun (_, aggregate) rest => count aggregate + rest) 0

/-- The number of units in a model. -/
def unitCount (model : Model) : Nat :=
  model.total Aggregate.unitCount

/-- Whether a model has no contexts. -/
def isEmpty (model : Model) : Bool :=
  model.contexts.isEmpty

/-- The aggregate at a position, if there is one. -/
def aggregate? (model : Model) (context aggregate : Nat) : Option Aggregate := do
  let found ← model.contexts[context]?
  found.aggregates[aggregate]?

/-- Changes the aggregate at a position. -/
def modifyAggregate (model : Model) (context aggregate : Nat) (f : Aggregate → Aggregate) : Model :=
  { model with
    contexts := model.contexts.modify context fun found =>
      { found with aggregates := found.aggregates.modify aggregate f } }

end Model

end DomainForge
