import DomainForge.Text.Casing.Context
import DomainForge.Text.Casing.Data

/-!
# Upper and lower case

Case mapping of texts by the full Unicode mappings, under which one character
may become several. Lower-casing a text looks at the neighbours of a capital
sigma: at the end of a word it becomes the final form.
-/

namespace DomainForge.Text

namespace Casing

/-- The image of a character: its listed expansion, else its image under the
runs, else the character itself. -/
def image (expansions : List (Nat × List Nat)) (runs : List CodeRun) (c : Char) : List Char :=
  match expansions.find? (·.1 == c.toNat) with
  | some (_, codes) => codes.map Char.ofNat
  | none =>
    match imageIn runs c.toNat with
    | some code => [Char.ofNat code]
    | none => [c]

/-- Whether a character is a letter with a case that is not looked through. -/
def isCased (c : Char) : Bool :=
  inRanges casedRanges c.toNat

/-- Whether a character is looked through when a word's end is sought. -/
def isIgnorable (c : Char) : Bool :=
  inRanges ignorableRanges c.toNat

/-- Whether a cased letter follows, possibly behind characters that are looked
through. -/
def meetsCased (s : List Char) : Bool :=
  match s.dropWhile isIgnorable with
  | [] => false
  | c :: _ => isCased c

/-- Whether a position is at the end of a word: a cased letter stands before it
and none after it. What stands before is read backwards. -/
def endsWord (before after : List Char) : Bool :=
  meetsCased before && !meetsCased after

end Casing

/-- The upper-case form of a character. -/
def upperChar (c : Char) : List Char :=
  Casing.image Casing.upperExpansions Casing.upperRuns c

/-- The lower-case form of a character on its own. -/
def lowerChar (c : Char) : List Char :=
  Casing.image Casing.lowerExpansions Casing.lowerRuns c

/-- The upper-case form of a text. -/
def upper (s : List Char) : List Char :=
  s.flatMap upperChar

/-- The lower-case form of the rest of a text, given what stands before it,
read backwards. -/
def lowerAfter (before : List Char) : List Char → List Char
  | [] => []
  | c :: rest =>
    (if c = 'Σ' then [if Casing.endsWord before rest then 'ς' else 'σ'] else lowerChar c) ++
      lowerAfter (c :: before) rest

/-- The lower-case form of a text. -/
def lower (s : List Char) : List Char :=
  lowerAfter [] s

/-- The lower-case form of a text. -/
def lowercase (s : String) : String :=
  String.ofList (lower s.toList)

end DomainForge.Text
