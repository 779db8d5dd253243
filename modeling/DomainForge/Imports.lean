import DomainForge.Settings.Basic

/-!
# Imports

The `use` statements of a file. Symbols are grouped by namespace, the groups
in the order of their first use; the statements themselves are sorted.
-/

namespace DomainForge

/-- Inserts a text into a sorted list without repetitions. -/
def insertSorted (s : String) : List String → List String
  | [] => [s]
  | t :: rest =>
    if s < t then s :: t :: rest
    else if s = t then t :: rest
    else t :: insertSorted s rest

/-- Texts sorted by code points, each once. -/
def sortedUnique (texts : List String) : List String :=
  texts.foldr insertSorted []

/-- The symbols imported from each namespace. -/
structure Imports where
  /-- Namespaces without backslashes at their ends, in the order of first use,
  with their sorted symbols. -/
  groups : List (String × List String) := []
deriving Repr, DecidableEq, Inhabited

namespace Imports

/-- Adds a symbol to the group of a namespace. -/
def addToGroup (name symbol : String) :
    List (String × List String) → List (String × List String)
  | [] => [(name, [symbol])]
  | (other, symbols) :: rest =>
    if other = name then (other, insertSorted symbol symbols) :: rest
    else (other, symbols) :: addToGroup name symbol rest

/-- Imports a symbol from a namespace. -/
def add (imports : Imports) (name symbol : String) : Imports :=
  { groups := addToGroup (trimNamespace name) symbol imports.groups }

/-- Imports a symbol under another name. -/
def addAliased (imports : Imports) (name symbol newName : String) : Imports :=
  imports.add name (symbol ++ " as " ++ newName)

/-- Whether a symbol is imported from a namespace. -/
def has (imports : Imports) (name symbol : String) : Bool :=
  imports.groups.any fun (other, symbols) => other == trimNamespace name && symbols.contains symbol

/-- The full name of a symbol of a namespace. -/
def qualify (name symbol : String) : String :=
  if name = "" then symbol else name ++ "\\" ++ symbol

/-- What the `use` statements import, sorted and without repetitions. -/
def statements (imports : Imports) : List String :=
  sortedUnique (imports.groups.flatMap fun (name, symbols) => symbols.map (qualify name))

end Imports

end DomainForge
