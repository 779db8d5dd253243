import DomainForge.Pattern.CharSet

/-!
# Patterns

Regular expressions after their flags have been worked in: single characters,
conditions on a position, sequence, choice and repetition. Of two ways to
match, the order of the pattern decides: an earlier alternative is preferred,
and so is one more repetition, unless the repetition is lazy.
-/

namespace DomainForge

open Text

/-- A condition on the place between two characters. -/
inductive Look where
  | textStart
  | textEnd
  | lineStart
  | lineEnd
  /-- A line start where a carriage return may end lines too. -/
  | crlfStart
  | crlfEnd
  | wordBoundary
  | noWordBoundary
  | wordStart
  | wordEnd
  | wordStartHalf
  | wordEndHalf
  | asciiWordBoundary
  | asciiNoWordBoundary
  | asciiWordStart
  | asciiWordEnd
  | asciiWordStartHalf
  | asciiWordEndHalf
deriving Repr, DecidableEq

/-- Whether a condition holds between two neighbours, which are missing at the
ends of the text. -/
def Look.holds (look : Look) (before after : Option Char) : Bool :=
  let word := (before.any isWordChar, after.any isWordChar)
  let ascii := (before.any isAsciiWordChar, after.any isAsciiWordChar)
  match look with
  | textStart => before.isNone
  | textEnd => after.isNone
  | lineStart => before.isNone || before == some '\n'
  | lineEnd => after.isNone || after == some '\n'
  | crlfStart => before.isNone || before == some '\n' || (before == some '\r' && after != some '\n')
  | crlfEnd => after.isNone || after == some '\r' || (after == some '\n' && before != some '\r')
  | wordBoundary => word.1 != word.2
  | noWordBoundary => word.1 == word.2
  | wordStart => !word.1 && word.2
  | wordEnd => word.1 && !word.2
  | wordStartHalf => !word.1
  | wordEndHalf => !word.2
  | asciiWordBoundary => ascii.1 != ascii.2
  | asciiNoWordBoundary => ascii.1 == ascii.2
  | asciiWordStart => !ascii.1 && ascii.2
  | asciiWordEnd => ascii.1 && !ascii.2
  | asciiWordStartHalf => !ascii.1
  | asciiWordEndHalf => !ascii.2

/-- A regular expression. -/
inductive Pattern where
  | empty
  | one (set : CharSet)
  | look (condition : Look)
  | seq (first second : Pattern)
  | alt (first second : Pattern)
  | optional (greedy : Bool) (body : Pattern)
  | star (greedy : Bool) (body : Pattern)
  | plus (greedy : Bool) (body : Pattern)
deriving Repr

namespace Pattern

/-- Patterns one after another. -/
def sequence : List Pattern → Pattern
  | [] => empty
  | [p] => p
  | p :: rest => seq p (sequence rest)

/-- A choice between patterns, the earlier ones preferred. -/
def choice : List Pattern → Pattern
  | [] => empty
  | [p] => p
  | p :: rest => alt p (choice rest)

/-- A pattern a fixed number of times. -/
def exactly (body : Pattern) (count : Nat) : Pattern :=
  sequence (List.replicate count body)

/-- A pattern up to a number of times. -/
def upTo (greedy : Bool) (body : Pattern) : Nat → Pattern
  | 0 => empty
  | 1 => optional greedy body
  | count + 1 => optional greedy (seq body (upTo greedy body count))

/-- A pattern repeated at least so often, and at most so often if a bound is
given. -/
def repeated (greedy : Bool) (body : Pattern) (least : Nat) : Option Nat → Pattern
  | none =>
    if least = 0 then star greedy body
    else if least = 1 then plus greedy body
    else seq (exactly body (least - 1)) (plus greedy body)
  | some most =>
    if most ≤ least then exactly body least
    else if least = 0 then upTo greedy body most
    else seq (exactly body least) (upTo greedy body (most - least))

/-- Whether a pattern may match without consuming a character. -/
def nullable : Pattern → Bool
  | empty => true
  | one _ => false
  | look _ => true
  | seq p q => p.nullable && q.nullable
  | alt p q => p.nullable || q.nullable
  | optional _ _ => true
  | star _ _ => true
  | plus _ p => p.nullable

end Pattern

end DomainForge
