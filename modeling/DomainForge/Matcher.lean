/-!
# Matchers

Path rules select units, and rename them, by patterns. Placing units needs
little of a pattern: whether it matches a name, and what is left of a name
without the match. The language in which patterns are written is a parameter:
the program runs with regular expressions, and what it does can be studied for
any language.
-/

namespace DomainForge

/-- What a pattern does to texts. -/
structure Matcher where
  /-- Whether it matches somewhere in a text. -/
  isMatch : String → Bool
  /-- A text without the first match. -/
  removeFirst : String → String
  /-- Removing a match only deletes characters. -/
  removeFirst_sublist (text : String) : (removeFirst text).toList.Sublist text.toList

/-- A language of patterns. -/
class PatternLanguage where
  /-- What a pattern does, or the message that tells why it cannot be read. -/
  read : String → Except String Matcher

end DomainForge
