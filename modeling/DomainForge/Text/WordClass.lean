import DomainForge.Text.WordClass.Data

/-!
# Word characters

The classes of characters that words are made of, over all scripts.
-/

namespace DomainForge.Text

/-- Whether a character is alphabetic. -/
def isLetter (c : Char) : Bool :=
  inRanges WordClass.letterRanges c.toNat

/-- Whether a character is a decimal digit of some script. -/
def isDecimalDigit (c : Char) : Bool :=
  inRanges WordClass.digitRanges c.toNat

/-- Whether a character is alphabetic or a number of some kind. -/
def isLetterOrNumber (c : Char) : Bool :=
  isLetter c || isDecimalDigit c || inRanges WordClass.numberRanges c.toNat

/-- Whether a character belongs to words: a letter, a digit, a mark, a
connector or a joiner. -/
def isWordChar (c : Char) : Bool :=
  isLetter c || isDecimalDigit c || inRanges WordClass.markRanges c.toNat

/-- Whether a character is an ASCII letter. -/
def isAsciiLetter (c : Char) : Bool :=
  ('a' ≤ c && c ≤ 'z') || ('A' ≤ c && c ≤ 'Z')

/-- Whether a character is an ASCII digit. -/
def isAsciiDigit (c : Char) : Bool :=
  '0' ≤ c && c ≤ '9'

/-- Whether a character is an ASCII letter, an ASCII digit or an underscore. -/
def isAsciiWordChar (c : Char) : Bool :=
  isAsciiLetter c || isAsciiDigit c || c == '_'

end DomainForge.Text
