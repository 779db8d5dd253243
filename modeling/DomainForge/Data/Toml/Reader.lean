import DomainForge.Data.Toml.Quoted
import DomainForge.Data.Toml.Tree

/-!
# Reading TOML

A document is read expression by expression: entries, table headers and blank
lines, with comments behind them. A text that is no document has no answer.
-/

namespace DomainForge.Toml

open Text

/-- Skips spaces and tabs. -/
def skipSpace (s : List Char) : List Char :=
  s.dropWhile fun c => c == ' ' || c == '\t'

/-- Reads a comment, if there is one, up to the end of its line. -/
def skipComment? : List Char → Option (List Char)
  | '#' :: rest =>
    let text := rest.takeWhile fun c => c != '\n' && c != '\r'
    if text.any isControl then none else some (rest.dropWhile fun c => c != '\n' && c != '\r')
  | s => some s

/-- Reads the end of a line: spaces, a comment, and a line end unless the text
ends. -/
def endLine? (s : List Char) : Option (List Char) :=
  match skipComment? (skipSpace s) with
  | some [] => some []
  | some rest => dropLineEnd? rest
  | none => none

/-- Skips blanks, comments and line ends. The fuel bounds the lines. -/
def skipLines? : (fuel : Nat) → List Char → Option (List Char)
  | 0, _ => none
  | fuel + 1, s =>
    match skipComment? (skipSpace s) with
    | none => none
    | some rest =>
      match dropLineEnd? rest with
      | some rest => skipLines? fuel rest
      | none => if rest.head? = some '\r' then none else some rest

/-- Whether a character may stand in a key without quotes. -/
def isBareKeyChar (c : Char) : Bool :=
  isAsciiWordChar c || c == '-'

/-- Reads one part of a key. -/
def readKeyPart? (s : List Char) : Option (String × List Char) :=
  match s with
  | '\x27' :: _ | '"' :: _ => (readQuoted? s).map fun (key, rest) => (String.ofList key, rest)
  | _ =>
    let key := s.takeWhile isBareKeyChar
    if key.isEmpty then none else some (String.ofList key, s.dropWhile isBareKeyChar)

/-- Reads a key: the parts before the last, and the last. The fuel bounds the
parts. -/
def readKey? : (fuel : Nat) → List Char → Option (List String × String × List Char)
  | 0, _ => none
  | fuel + 1, s =>
    match readKeyPart? (skipSpace s) with
    | none => none
    | some (part, rest) =>
      match skipSpace rest with
      | '.' :: rest =>
        (readKey? fuel rest).map fun (path, key, rest) => (part :: path, key, rest)
      | rest => some ([], part, rest)

mutual

/-- Reads a value. The fuel bounds the nesting and the number of items. -/
def readValue? : (fuel : Nat) → List Char → Option (Datum × List Char)
  | 0, _ => none
  | fuel + 1, s =>
    match s with
    | '[' :: rest => (readItems? fuel [] rest).map fun (items, rest) => (.list items, rest)
    | '{' :: rest =>
      (readEntries? fuel [] rest).map fun (entries, rest) => (.table (Tree.toData entries), rest)
    | '"' :: _ | '\x27' :: _ =>
      (readText? s).map fun (text, rest) => (.text (String.ofList text), rest)
    | s => readScalar? s

/-- Reads the items of a list up to its closing bracket. -/
def readItems? : (fuel : Nat) → List Datum → List Char → Option (List Datum × List Char)
  | 0, _, _ => none
  | fuel + 1, items, s =>
    match skipLines? (s.length + 1) s with
    | none => none
    | some (']' :: rest) => some (items, rest)
    | some s =>
      match readValue? fuel s with
      | none => none
      | some (item, rest) =>
        match skipLines? (rest.length + 1) rest with
        | some (',' :: rest) => readItems? fuel (items ++ [item]) rest
        | some (']' :: rest) => some (items ++ [item], rest)
        | _ => none

/-- Reads the entries of a table written in place, up to its closing brace. -/
def readEntries? : (fuel : Nat) → Entries → List Char → Option (Entries × List Char)
  | 0, _, _ => none
  | fuel + 1, entries, s =>
    match skipLines? (s.length + 1) s with
    | none => none
    | some ('}' :: rest) => some (entries, rest)
    | some s =>
      match readKey? (s.length + 1) s with
      | some (path, key, '=' :: rest) =>
        match readValue? fuel (skipSpace rest) with
        | none => none
        | some (value, rest) =>
          match Entries.put? path key value entries, skipLines? (rest.length + 1) rest with
          | some entries, some (',' :: rest) => readEntries? fuel entries rest
          | some entries, some ('}' :: rest) => some (entries, rest)
          | _, _ => none
      | _ => none

end

/-- A document under construction: its tables, and the path of the table that
entries are added to. -/
structure Document where
  entries : Entries := []
  current : List String := []

/-- Reads a table header behind its first bracket. -/
def Document.readHeader? (document : Document) (s : List Char) : Option (Document × List Char) :=
  match s with
  | '[' :: rest =>
    match readKey? (rest.length + 1) rest with
    | some (path, key, ']' :: ']' :: rest) =>
      (Entries.descend? (Entries.openNext? key) path document.entries).map fun entries =>
        ({ entries := entries, current := path ++ [key] }, rest)
    | _ => none
  | s =>
    match readKey? (s.length + 1) s with
    | some (path, key, ']' :: rest) =>
      (Entries.descend? (Entries.openTable? key) path document.entries).map fun entries =>
        ({ entries := entries, current := path ++ [key] }, rest)
    | _ => none

/-- Reads an entry. -/
def Document.readEntry? (document : Document) (s : List Char) : Option (Document × List Char) :=
  match readKey? (s.length + 1) s with
  | some (path, key, '=' :: rest) =>
    match readValue? (rest.length + 1) (skipSpace rest) with
    | some (value, rest) =>
      (Entries.descend? (Entries.put? path key value) document.current document.entries).map
        fun entries => ({ document with entries := entries }, rest)
    | none => none
  | _ => none

/-- Reads what stands at the start of a line, up to its comment. -/
def Document.readExpression? (document : Document) (s : List Char) :
    Option (Document × List Char) :=
  match skipSpace s with
  | '[' :: rest => document.readHeader? rest
  | [] => some (document, [])
  | c :: rest =>
    if c = '#' ∨ c = '\n' ∨ c = '\r' then some (document, c :: rest)
    else document.readEntry? (c :: rest)

/-- Reads the lines of a document. Every line takes a character, so the length
of the text bounds their number. -/
def Document.read? : (fuel : Nat) → Document → List Char → Option Document
  | 0, _, _ => none
  | _, document, [] => some document
  | fuel + 1, document, s =>
    match document.readExpression? s with
    | none => none
    | some (document, rest) =>
      match endLine? rest with
      | some rest => read? fuel document rest
      | none => none

/-- A text without the mark that may stand in front of it. -/
def dropMark : List Char → List Char
  | '\ufeff' :: rest => rest
  | s => s

/-- The data of a document. -/
def parse? (source : String) : Option Datum :=
  let s := dropMark source.toList
  (Document.read? (s.length + 1) {} s).map fun document => .table (Tree.toData document.entries)

instance : DocumentFormat where
  parse? := parse?

end DomainForge.Toml
