import DomainForge.Model

/-!
# Registered units

A registry tells which unit a type name refers to. Names need not be unique:
from inside an aggregate, a unit of that aggregate is preferred, then one of
the same context, then the first one registered.
-/

namespace DomainForge

/-- What is known about a generated unit. -/
structure UnitInfo where
  kind : UnitKind
  finalName : String
  namespaceName : String
  context : String
  aggregate : String
deriving Repr, DecidableEq, Inhabited

/-- The registered units by name, in the order of registration. -/
structure Registry where
  units : List (String × UnitInfo) := []
deriving Repr, DecidableEq, Inhabited

namespace Registry

/-- Registers a unit under a name. -/
def register (registry : Registry) (name : String) (info : UnitInfo) : Registry :=
  { units := registry.units ++ [(name, info)] }

/-- The units registered under a name. -/
def candidates (registry : Registry) (name : String) : List UnitInfo :=
  (registry.units.filter (·.1 == name)).map (·.2)

/-- The unit that a name refers to, seen from an aggregate of a context. -/
def lookup? (registry : Registry) (name context aggregate : String) : Option UnitInfo :=
  let found := registry.candidates name
  (found.find? fun info => info.context == context && info.aggregate == aggregate).or
    ((found.find? fun info => info.context == context).or found.head?)

/-- Whether a unit is registered under a name. -/
def contains (registry : Registry) (name : String) : Bool :=
  registry.units.any (·.1 == name)

/-- The names under which units are registered, each once. -/
def names (registry : Registry) : List String :=
  (registry.units.map (·.1)).eraseDups

/-- The number of names under which units are registered. -/
def size (registry : Registry) : Nat :=
  registry.names.length

end Registry

end DomainForge
