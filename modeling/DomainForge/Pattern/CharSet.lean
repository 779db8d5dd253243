import DomainForge.Text.Blank
import DomainForge.Text.Folding
import DomainForge.Text.WordClass

/-!
# Sets of characters

What one position of a pattern accepts. Sets are kept as they are written, as
expressions over ranges and named classes, and membership evaluates the
expression.
-/

namespace DomainForge

open Text

/-- The character classes that have a name. -/
inductive CharClass where
  | word
  | digit
  | space
  | asciiWord
  | asciiDigit
  | asciiSpace
deriving Repr, DecidableEq

/-- Whether a character belongs to a named class. -/
def CharClass.mem : CharClass → Char → Bool
  | word, c => isWordChar c
  | digit, c => isDecimalDigit c
  | space, c => isBlank c
  | asciiWord, c => isAsciiWordChar c
  | asciiDigit, c => isAsciiDigit c
  | asciiSpace, c => c == ' ' || (0x9 ≤ c.toNat && c.toNat ≤ 0xd)

/-- A set of characters, as an expression. -/
inductive CharSet where
  | empty
  /-- The characters between two code points, both included. -/
  | range (first last : Nat)
  | named (charClass : CharClass)
  | union (a b : CharSet)
  | inter (a b : CharSet)
  | diff (a b : CharSet)
  | symmDiff (a b : CharSet)
  | compl (a : CharSet)
  /-- The characters that differ only in case from a member. -/
  | folded (a : CharSet)
  /-- Like `folded`, for ASCII letters only. -/
  | asciiFolded (a : CharSet)
deriving Repr

namespace CharSet

/-- The set of one character. -/
def single (c : Char) : CharSet :=
  range c.toNat c.toNat

/-- The set of the characters of all the sets in a list. -/
def unions (sets : List CharSet) : CharSet :=
  sets.foldl union empty

/-- An ASCII letter in its two cases, any other character alone. -/
def asciiVariants (c : Char) : List Char :=
  if 'a' ≤ c ∧ c ≤ 'z' then [c, Char.ofNat (c.toNat - 32)]
  else if 'A' ≤ c ∧ c ≤ 'Z' then [c, Char.ofNat (c.toNat + 32)]
  else [c]

/-- Whether a character belongs to a set. -/
def mem : CharSet → Char → Bool
  | empty, _ => false
  | range first last, c => first ≤ c.toNat && c.toNat ≤ last
  | named charClass, c => charClass.mem c
  | union a b, c => a.mem c || b.mem c
  | inter a b, c => a.mem c && b.mem c
  | diff a b, c => a.mem c && !b.mem c
  | symmDiff a b, c => a.mem c != b.mem c
  | compl a, c => !a.mem c
  | folded a, c => (caseVariants c).any a.mem
  | asciiFolded a, c => (asciiVariants c).any a.mem

/-- The bracketed ASCII classes, by name. -/
def asciiClass? : String → Option CharSet
  | "alnum" => some (unions [range 0x30 0x39, range 0x41 0x5a, range 0x61 0x7a])
  | "alpha" => some (unions [range 0x41 0x5a, range 0x61 0x7a])
  | "ascii" => some (range 0x0 0x7f)
  | "blank" => some (unions [single '\t', single ' '])
  | "cntrl" => some (unions [range 0x0 0x1f, single '\x7f'])
  | "digit" => some (range 0x30 0x39)
  | "graph" => some (range 0x21 0x7e)
  | "lower" => some (range 0x61 0x7a)
  | "print" => some (range 0x20 0x7e)
  | "punct" => some (unions [range 0x21 0x2f, range 0x3a 0x40, range 0x5b 0x60, range 0x7b 0x7e])
  | "space" => some (unions [range 0x9 0xd, single ' '])
  | "upper" => some (range 0x41 0x5a)
  | "word" => some (unions [range 0x30 0x39, range 0x41 0x5a, single '_', range 0x61 0x7a])
  | "xdigit" => some (unions [range 0x30 0x39, range 0x41 0x46, range 0x61 0x66])
  | _ => none

end CharSet

end DomainForge
