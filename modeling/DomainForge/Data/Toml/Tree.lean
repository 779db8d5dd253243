import DomainForge.Data.Datum

/-!
# Tables of a TOML document

A document is built up line by line. A table may be opened once by a header,
entries may be added to it by dotted keys only if dotted keys made it, and
values written in place are closed. Anything else is refused.
-/

namespace DomainForge.Toml

/-- A value of a document under construction. -/
inductive Tree where
  /-- A finished value. -/
  | value (value : Datum)
  /-- A table: whether no header has opened it, whether dotted keys made it,
  and its entries. -/
  | table (implicit dotted : Bool) (entries : List (String × Tree))
  /-- A list of tables, to whose last one entries are added. -/
  | tables (items : List (List (String × Tree)))
deriving Inhabited

/-- The entries of a table. -/
abbrev Entries := List (String × Tree)

namespace Tree

mutual

/-- A tree as data. -/
def toDatum : Tree → Datum
  | value found => found
  | table _ _ entries => .table (toData entries)
  | tables items => .list (toTables items)

/-- Entries as data. -/
def toData : List (String × Tree) → List (String × Datum)
  | [] => []
  | (key, tree) :: rest => (key, toDatum tree) :: toData rest

/-- Tables as data. -/
def toTables : List (List (String × Tree)) → List Datum
  | [] => []
  | entries :: rest => .table (toData entries) :: toTables rest

end

end Tree

namespace Entries

/-- The tree of a key. -/
def find? (key : String) : Entries → Option Tree
  | [] => none
  | (name, tree) :: rest => if name = key then some tree else find? key rest

/-- Sets the tree of a key, in its place or at the end. -/
def set (key : String) (tree : Tree) : Entries → Entries
  | [] => [(key, tree)]
  | (name, old) :: rest =>
    if name = key then (key, tree) :: rest else (name, old) :: set key tree rest

/-- Adds a value below the given path. `dotted` says whether dotted keys made
the table at hand, `far` whether the path was dotted. -/
def insert? (far : Bool) (key : String) (value : Datum) :
    (path : List String) → (dotted : Bool) → Entries → Option Entries
  | [], dotted, entries =>
    if dotted = far ∧ (find? key entries).isNone then some (entries ++ [(key, .value value)])
    else none
  | step :: path, _, entries =>
    match find? step entries with
    | none =>
      (insert? far key value path true []).map fun inner =>
        set step (.table true true inner) entries
    | some (.table true dotted inner) =>
      (insert? far key value path dotted inner).map fun inner =>
        set step (.table true dotted inner) entries
    | some (.tables items) =>
      match items.getLast? with
      | some last =>
        (insert? far key value path false last).map fun last =>
          set step (.tables (items.dropLast ++ [last])) entries
      | none => none
    | some _ => none

/-- Adds a value by its dotted key. -/
def put? (path : List String) (key : String) (value : Datum) (entries : Entries) :
    Option Entries :=
  insert? (!path.isEmpty) key value path false entries

/-- Changes the table at a path of headers. Tables on the way are made if they
are missing, and of a list of tables the last is meant. -/
def descend? (change : Entries → Option Entries) : List String → Entries → Option Entries
  | [], entries => change entries
  | step :: path, entries =>
    match find? step entries with
    | none =>
      (descend? change path []).map fun inner => set step (.table true false inner) entries
    | some (.table implicit dotted inner) =>
      (descend? change path inner).map fun inner =>
        set step (.table implicit dotted inner) entries
    | some (.tables items) =>
      match items.getLast? with
      | some last =>
        (descend? change path last).map fun last =>
          set step (.tables (items.dropLast ++ [last])) entries
      | none => none
    | some (.value _) => none

/-- Opens a table by its header. -/
def openTable? (key : String) (entries : Entries) : Option Entries :=
  match find? key entries with
  | none => some (set key (.table false false []) entries)
  | some (.table true false inner) => some (set key (.table false false inner) entries)
  | some _ => none

/-- Opens another table of a list by its header. -/
def openNext? (key : String) (entries : Entries) : Option Entries :=
  match find? key entries with
  | none => some (set key (.tables [[]]) entries)
  | some (.tables items) => some (set key (.tables (items ++ [[]])) entries)
  | some _ => none

end Entries

end DomainForge.Toml
