import DomainForge.Text.Blank
import DomainForge.Text.Split

/-!
# Logical lines

A model text is read line by line, after its comments are removed: `//` hides
the rest of a line, and what stands between `/*` and the next `*/` counts as
one space, however many lines it spans. The lines that are left are trimmed,
and the blank ones are dropped.
-/

namespace DomainForge.Source

open Text

/-- A trimmed, non-blank line without comments, with its place in the text. -/
structure Line where
  /-- Counted from one. -/
  number : Nat
  text : String
deriving Repr, DecidableEq

/-- Removes the comments of one line. The flag says whether the line starts
inside a block comment; the answer says whether it ends inside one. -/
def stripComments : Bool → List Char → List Char × Bool
  | inBlock, [] => ([], inBlock)
  | true, '*' :: '/' :: rest => stripComments false rest
  | true, _ :: rest => stripComments true rest
  | false, '/' :: '/' :: _ => ([], false)
  | false, '/' :: '*' :: rest =>
    let (out, inBlock) := stripComments true rest
    (' ' :: out, inBlock)
  | false, c :: rest =>
    let (out, inBlock) := stripComments false rest
    (c :: out, inBlock)

/-- The logical lines among numbered raw lines, and whether the last of them
ends inside a block comment. -/
def scanLines (number : Nat) (inBlock : Bool) : List (List Char) → List Line × Bool
  | [] => ([], inBlock)
  | raw :: rest =>
    let (code, inBlock) := stripComments inBlock raw
    let (found, inBlock) := scanLines (number + 1) inBlock rest
    let text := trim code
    (if text.isEmpty then found else ⟨number, String.ofList text⟩ :: found, inBlock)

/-- The logical lines of a text. -/
def logicalLines (source : String) : List Line :=
  (scanLines 1 false (lines source.toList)).1

end DomainForge.Source
