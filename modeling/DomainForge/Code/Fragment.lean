/-!
# Code fragments

Code is composed of fragments before it is written. A fragment does not know
how deep it is nested; the writer keeps the level and puts the indentation in
front of every line.
-/

namespace DomainForge

/-- A piece of code. -/
inductive Fragment where
  | line (text : String)
  | blank
  /-- A line, an indented body, and a closing line if there is one. -/
  | block (header : String) (body : List Fragment) (close : Option String)
  | indent (body : List Fragment)
  /-- A documentation comment, line by line. -/
  | doc (lines : List String)
deriving Repr, Inhabited

/-- One level of indentation. -/
inductive Indent where
  | spaces (count : Nat)
  | tab
deriving Repr, DecidableEq

namespace Indent

/-- Four spaces. -/
def standard : Indent := spaces 4

/-- The text of one level. Only two, four and eight spaces are used. -/
def text : Indent → String
  | spaces 2 => "  "
  | spaces 8 => "        "
  | spaces _ => "    "
  | tab => "\t"

end Indent

/-- Code as it is being written. -/
structure CodeWriter where
  indent : Indent := .standard
  level : Nat := 0
  text : String := ""
deriving Repr, DecidableEq

namespace CodeWriter

/-- The indentation of a level. -/
def margin (indent : Indent) : Nat → String
  | 0 => ""
  | level + 1 => indent.text ++ margin indent level

/-- Writes a line at the current level. -/
def line (writer : CodeWriter) (text : String) : CodeWriter :=
  { writer with text := writer.text ++ (margin writer.indent writer.level ++ text ++ "\n") }

/-- Writes an empty line, without indentation. -/
def blank (writer : CodeWriter) : CodeWriter :=
  { writer with text := writer.text ++ "\n" }

/-- Goes one level deeper. -/
def deeper (writer : CodeWriter) : CodeWriter :=
  { writer with level := writer.level + 1 }

/-- Goes one level back, if there is one. -/
def back (writer : CodeWriter) : CodeWriter :=
  { writer with level := writer.level - 1 }

/-- Writes lines at the current level. -/
def lines (writer : CodeWriter) (texts : List String) : CodeWriter :=
  texts.foldl line writer

/-- A line inside a documentation comment. -/
def docLine (text : String) : String :=
  if text = "" then " *" else " * " ++ text

/-- The lines of a documentation comment. A single line of text is written on
one line, and no text at all is no comment. -/
def docLines : List String → List String
  | [] => []
  | [text] => ["/** " ++ text ++ " */"]
  | texts => ["/**"] ++ texts.map docLine ++ [" */"]

/-- Writes a documentation comment. -/
def doc (writer : CodeWriter) (texts : List String) : CodeWriter :=
  writer.lines (docLines texts)

/-- Writes a line, if there is one. -/
def line? (writer : CodeWriter) : Option String → CodeWriter
  | some text => writer.line text
  | none => writer

mutual

/-- Writes a fragment. -/
def write (writer : CodeWriter) : Fragment → CodeWriter
  | .line text => writer.line text
  | .blank => writer.blank
  | .block header body close => ((writer.line header).deeper.writeAll body).back.line? close
  | .indent body => (writer.deeper.writeAll body).back
  | .doc texts => writer.doc texts

/-- Writes fragments one after another. -/
def writeAll (writer : CodeWriter) : List Fragment → CodeWriter
  | [] => writer
  | fragment :: fragments => (writer.write fragment).writeAll fragments

end

end CodeWriter

end DomainForge
