import DomainForge.Model
import DomainForge.Source.Line
import DomainForge.Source.Property

/-!
# Reading a model

The logical lines of a text are read one after another. The state of the
reader is the model found so far and the stack of open scopes, which point
into that model. Reading never fails: a declaration at the wrong place opens a
detached scope, whose content is ignored up to its closing brace.
-/

namespace DomainForge.Source

open Text

/-- An open block. The numbers are positions in the model: of the context, of
the aggregate in it, and of the unit among those of its kind. -/
inductive Scope where
  | context (context : Nat)
  | aggregate (context aggregate : Nat)
  | entity (context aggregate index : Nat)
  | valueObject (context aggregate index : Nat)
  | enumeration (context aggregate index : Nat)
  /-- A block whose content is ignored. -/
  | detached
deriving Repr, DecidableEq

/-- The words that open declarations. -/
inductive Keyword where
  | boundedContext
  | aggregate
  | entity
  | valueObject
  | enumeration
deriving Repr, DecidableEq

namespace Keyword

/-- The spelling of a keyword. -/
def spelling : Keyword → String
  | boundedContext => "BoundedContext"
  | aggregate => "Aggregate"
  | entity => "Entity"
  | valueObject => "ValueObject"
  | enumeration => "enum"

/-- All keywords. -/
def all : List Keyword :=
  [boundedContext, aggregate, entity, valueObject, enumeration]

/-- The keyword that a token spells, if it spells one. -/
def ofToken? (token : List Char) : Option Keyword :=
  all.find? fun keyword => keyword.spelling.toList == token

end Keyword

/-- What has been read so far. -/
structure State where
  model : Model := {}
  /-- The open scopes, the innermost first. -/
  scopes : List Scope := []
deriving Repr, DecidableEq

namespace Scope

/-- The first scope that is accepted, unless a detached one comes before it. -/
def nearest? {α : Type} (accept : Scope → Option α) : List Scope → Option α
  | [] => none
  | detached :: _ => none
  | scope :: outer =>
    match accept scope with
    | some found => some found
    | none => nearest? accept outer

/-- The context that a scope is, if it is one. -/
def context? : Scope → Option Nat
  | context c => some c
  | _ => none

/-- The aggregate that a scope is, if it is one. -/
def aggregate? : Scope → Option (Nat × Nat)
  | aggregate c a => some (c, a)
  | _ => none

end Scope

namespace State

/-- Opens a scope on top of the others. -/
def push (state : State) (scope : Scope) : State :=
  { state with scopes := scope :: state.scopes }

/-- Closes the innermost scope, if there is one. -/
def pop (state : State) : State :=
  { state with scopes := state.scopes.tail }

/-- Adds a context at the end of the model and opens it. -/
def openContext (state : State) (name : String) : State :=
  { model := { state.model with contexts := state.model.contexts ++ [{ name := name }] }
    scopes := .context state.model.contexts.length :: state.scopes }

/-- Adds an aggregate at the end of a context and opens it. -/
def openAggregate (state : State) (c : Nat) (name : String) : State :=
  let count := (state.model.contexts[c]?.map (·.aggregates.length)).getD 0
  { model := { state.model with
      contexts := state.model.contexts.modify c fun context =>
        { context with aggregates := context.aggregates ++ [{ name := name }] } }
    scopes := .aggregate c count :: state.scopes }

/-- The number of units of a kind in an aggregate. -/
def unitsOf (state : State) (c a : Nat) (count : Aggregate → Nat) : Nat :=
  ((state.model.aggregate? c a).map count).getD 0

/-- Adds a unit to an aggregate and opens it. Its position is the number of units
of its kind that were there. -/
def addUnit (state : State) (c a : Nat) (add : Aggregate → Aggregate) (count : Aggregate → Nat)
    (scope : Nat → Nat → Nat → Scope) : State :=
  { model := state.model.modifyAggregate c a add
    scopes := scope c a (state.unitsOf c a count) :: state.scopes }

/-- Opens a unit in the nearest aggregate, or a detached scope without one. -/
def openUnit (state : State) (add : Aggregate → Aggregate) (count : Aggregate → Nat)
    (scope : Nat → Nat → Nat → Scope) : State :=
  match Scope.nearest? Scope.aggregate? state.scopes with
  | some (c, a) => state.addUnit c a add count scope
  | none => state.push .detached

/-- Opens an entity, behind the others. -/
def openEntity (state : State) (name : String) : State :=
  state.openUnit
    (fun aggregate => { aggregate with entities := aggregate.entities ++ [{ name := name }] })
    (·.entities.length) .entity

/-- Opens a value object, behind the others. -/
def openValueObject (state : State) (name : String) : State :=
  state.openUnit
    (fun aggregate =>
      { aggregate with valueObjects := aggregate.valueObjects ++ [{ name := name }] })
    (·.valueObjects.length) .valueObject

/-- Opens an enumeration, behind the others. -/
def openEnumeration (state : State) (name : String) : State :=
  state.openUnit
    (fun aggregate => { aggregate with enums := aggregate.enums ++ [{ name := name }] })
    (·.enums.length) .enumeration

/-- Opens a declaration. A context may stand anywhere outside detached scopes,
an aggregate needs a context around it, and a unit needs an aggregate. -/
def declare (state : State) (keyword : Keyword) (name : String) : State :=
  match keyword with
  | .boundedContext =>
    if state.scopes.contains .detached then state.push .detached else state.openContext name
  | .aggregate =>
    match Scope.nearest? Scope.context? state.scopes with
    | some c => state.openAggregate c name
    | none => state.push .detached
  | .entity => state.openEntity name
  | .valueObject => state.openValueObject name
  | .enumeration => state.openEnumeration name

/-- The labels on a line of an enumeration. -/
def labels (text : List Char) : List String :=
  ((splitWhere (· == ',') text).map fun piece => trim (dropTrailers (trim piece))).filter
    (!·.isEmpty) |>.map String.ofList

/-- Reads a line of an entity. -/
def readEntityLine (text : List Char) (entity : Entity) : Entity :=
  if text = rootMarker.toList then { entity with isAggregateRoot := true }
  else match parseProperty? (String.ofList text) with
    | some property => { entity with properties := entity.properties ++ [property] }
    | none => entity

/-- Reads a line of a value object. -/
def readValueObjectLine (text : List Char) (valueObject : ValueObject) : ValueObject :=
  match parseProperty? (String.ofList text) with
  | some property => { valueObject with properties := valueObject.properties ++ [property] }
  | none => valueObject

/-- Reads a line of an enumeration. -/
def readEnumerationLine (text : List Char) (enumeration : Enumeration) : Enumeration :=
  { enumeration with values := enumeration.values ++ labels text }

/-- Reads what a line says about the innermost scope. -/
def content (state : State) (text : List Char) : State :=
  match state.scopes.head? with
  | some (.entity c a k) =>
    { state with model := state.model.modifyAggregate c a fun aggregate =>
        { aggregate with entities := aggregate.entities.modify k (readEntityLine text) } }
  | some (.valueObject c a k) =>
    { state with model := state.model.modifyAggregate c a fun aggregate =>
        { aggregate with
          valueObjects := aggregate.valueObjects.modify k (readValueObjectLine text) } }
  | some (.enumeration c a k) =>
    { state with model := state.model.modifyAggregate c a fun aggregate =>
        { aggregate with enums := aggregate.enums.modify k (readEnumerationLine text) } }
  | _ => state

/-- Reads content unless it is empty. -/
def contentUnlessEmpty (state : State) (text : List Char) : State :=
  if text.isEmpty then state else state.content text

/-- Reads a line without its closing brace: what stands before its first
opening brace, and what stands behind it if there is one. -/
def readBody (state : State) (head : List Char) (inline : Option (List Char)) : State :=
  let tokens := words head
  match tokens.head?.bind Keyword.ofToken?, inline with
  | some keyword, inline =>
    (state.declare keyword (String.ofList (tokens.tail.head?.getD []))).contentUnlessEmpty
      (inline.getD [])
  | none, some inline => (state.push .detached).contentUnlessEmpty inline
  | none, none => state.contentUnlessEmpty head

/-- Reads a line that does not close its scope, or the part of one before its
closing brace. -/
def readOpen (state : State) (body : List Char) : State :=
  match breakOn ['{'] body with
  | some (head, inline) => state.readBody (trim head) (some (trim inline))
  | none => state.readBody body none

/-- Reads one logical line. A line that is only an opening brace says nothing;
a brace at its end closes the innermost scope. -/
def readLine (state : State) (text : List Char) : State :=
  if text = ['{'] then state
  else if text.getLast? = some '}' then (state.readOpen (trimEnd text.dropLast)).pop
  else state.readOpen text

end State

/-- Reads logical lines one after another. -/
def readLines (state : State) (found : List Line) : State :=
  found.foldl (fun state line => state.readLine line.text.toList) state

/-- The model that a text describes. -/
def parse (source : String) : Model :=
  (readLines {} (logicalLines source)).model

end DomainForge.Source
