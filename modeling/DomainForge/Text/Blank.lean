import DomainForge.Text.CodeRange
import DomainForge.Text.Split

/-!
# Blanks

White space in the sense of the Unicode property, trimming, and the words of a
text, which are its maximal runs without blanks.
-/

namespace DomainForge.Text

/-- The code points with the `White_Space` property. -/
def blankRanges : List (Nat × Nat) := [
  (0x9, 0xd), (0x20, 0x20), (0x85, 0x85), (0xa0, 0xa0), (0x1680, 0x1680), (0x2000, 0x200a),
  (0x2028, 0x2029), (0x202f, 0x202f), (0x205f, 0x205f), (0x3000, 0x3000)]

/-- Whether a character is white space. -/
def isBlank (c : Char) : Bool :=
  inRanges blankRanges c.toNat

/-- Removes blanks at the start. -/
def trimStart (s : List Char) : List Char :=
  s.dropWhile isBlank

/-- Removes blanks at the end. -/
def trimEnd (s : List Char) : List Char :=
  dropTail isBlank s

/-- Removes blanks at both ends. -/
def trim (s : List Char) : List Char :=
  trimEnd (trimStart s)

/-- The maximal runs without blanks, in order. -/
def words (s : List Char) : List (List Char) :=
  (splitWhere isBlank s).filter (!·.isEmpty)

/-- A text without the blanks at its ends. -/
def trimmed (s : String) : String :=
  String.ofList (trim s.toList)

end DomainForge.Text
