import DomainForge.Data.Datum
import DomainForge.Model

/-!
# Models as data

The form in which a model is handed to other programs.
-/

namespace DomainForge

/-- A property as data. -/
def Property.toDatum (property : Property) : Datum :=
  .table [("name", .text property.name), ("type", .text property.type),
    ("nullable", .bool property.nullable), ("is_relation", .bool property.isRelation),
    ("is_collection", .bool property.isCollection), ("is_enum", .bool property.isEnum)]

/-- An entity as data. -/
def Entity.toDatum (entity : Entity) : Datum :=
  .table [("name", .text entity.name), ("is_aggregate_root", .bool entity.isAggregateRoot),
    ("properties", .list (entity.properties.map Property.toDatum))]

/-- A value object as data. -/
def ValueObject.toDatum (valueObject : ValueObject) : Datum :=
  .table [("name", .text valueObject.name),
    ("properties", .list (valueObject.properties.map Property.toDatum))]

/-- An enumeration as data. -/
def Enumeration.toDatum (enumeration : Enumeration) : Datum :=
  .table [("name", .text enumeration.name), ("values", .texts enumeration.values)]

/-- An aggregate as data. -/
def Aggregate.toDatum (aggregate : Aggregate) : Datum :=
  .table [("name", .text aggregate.name),
    ("entities", .list (aggregate.entities.map Entity.toDatum)),
    ("value_objects", .list (aggregate.valueObjects.map ValueObject.toDatum)),
    ("enums", .list (aggregate.enums.map Enumeration.toDatum))]

/-- A bounded context as data. -/
def BoundedContext.toDatum (context : BoundedContext) : Datum :=
  .table [("name", .text context.name),
    ("aggregates", .list (context.aggregates.map Aggregate.toDatum))]

/-- A model as data. -/
def Model.toDatum (model : Model) : Datum :=
  .table [("bounded_contexts", .list (model.contexts.map BoundedContext.toDatum))]

end DomainForge
