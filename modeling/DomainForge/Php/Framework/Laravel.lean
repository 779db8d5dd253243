import DomainForge.Php.Framework.ClassUnit

/-!
# Laravel

Entities are Eloquent models. A property that points at an entity is not
declared; a method of its name tells the relation instead.
-/

namespace DomainForge.Php.Laravel

/-- The base class of entities. -/
def model : Import :=
  { namespaceName := "Illuminate\\Database\\Eloquent", symbol := "Model" }

/-- Whether a property is told by a method. -/
def isRelation (unit : ClassUnit) (property : ResolvedProperty) : Bool :=
  unit.isEntity && property.isAssociation

/-- The class of a relation. -/
def relationClass (property : ResolvedProperty) : String :=
  if property.isCollection then "HasMany" else "BelongsTo"

/-- The method of the base class that makes a relation. -/
def relationCall (property : ResolvedProperty) : String :=
  if property.isCollection then "hasMany" else "belongsTo"

/-- The method that tells a relation. -/
def relationMethod (property : ResolvedProperty) : MethodDecl :=
  { name := property.name
    returns := some (relationClass property)
    body := [s!"return $this->{relationCall property}({property.reference}::class);"] }

/-- The import that a relation needs. -/
def relationImport (property : ResolvedProperty) : Import :=
  { namespaceName := "Illuminate\\Database\\Eloquent\\Relations"
    symbol := relationClass property }

/-- The first statement of an entity's constructor. -/
def parentCall : String := "parent::__construct();"

end DomainForge.Php.Laravel
