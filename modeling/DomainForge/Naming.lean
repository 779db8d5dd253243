import DomainForge.Text.Casing
import DomainForge.Text.Split
import DomainForge.Text.WordClass

/-!
# Names of generated code

How names of the model become names in PHP: Pascal and camel case, the names
of accessors and of enumeration cases, identifiers and reserved words.
-/

namespace DomainForge.Naming

open Text

/-- Whether a character divides the parts of a name. -/
def isDivider (c : Char) : Bool :=
  c == '_' || c == '-'

/-- Upper-cases the first character. -/
def capitalize : List Char → List Char
  | [] => []
  | c :: rest => upperChar c ++ rest

/-- Lower-cases the first character. -/
def uncapitalize : List Char → List Char
  | [] => []
  | c :: rest => lowerChar c ++ rest

/-- The parts of a name, capitalized and put together without dividers. -/
def pascalChars (s : List Char) : List Char :=
  (splitWhere isDivider s).flatMap capitalize

/-- The Pascal-case form of a name, as in `OrderLine` for `order_line`. -/
def pascalCase (s : String) : String :=
  String.ofList (pascalChars s.toList)

/-- The camel-case form of a name, as in `orderLine` for `order_line`. -/
def camelCase (s : String) : String :=
  String.ofList (uncapitalize (pascalChars s.toList))

/-- The case name of an enumeration label: upper case, with an underscore for
every character that an identifier cannot hold. -/
def caseIdentifier (label : String) : String :=
  String.ofList ((upper label.toList).map fun c => if isAsciiWordChar c then c else '_')

/-- Whether a text starts like an identifier and goes on like one. -/
def isIdentifierChars : List Char → Bool
  | [] => false
  | c :: rest => (isAsciiLetter c || c == '_') && rest.all isAsciiWordChar

/-- Whether a text is a plain identifier. -/
def isIdentifier (s : String) : Bool :=
  isIdentifierChars s.toList

/-- The name of the method that reads a property. -/
def getterName (property : String) : String :=
  "get" ++ pascalCase property

/-- The name of the method that sets a property. -/
def setterName (property : String) : String :=
  "set" ++ pascalCase property

/-- Words that cannot name a PHP class, in lower case. -/
def reservedWords : List String := [
  "abstract", "and", "array", "as", "break", "callable", "case", "catch", "class", "clone",
  "const", "continue", "declare", "default", "do", "echo", "else", "elseif", "empty",
  "enddeclare", "endfor", "endforeach", "endif", "endswitch", "endwhile", "eval", "exit",
  "extends", "final", "finally", "fn", "for", "foreach", "function", "global", "goto", "if",
  "implements", "include", "include_once", "instanceof", "insteadof", "interface", "isset",
  "list", "match", "namespace", "new", "or", "print", "private", "protected", "public",
  "readonly", "require", "require_once", "return", "static", "switch", "throw", "trait", "try",
  "unset", "use", "var", "while", "xor", "yield",
  "bool", "false", "float", "int", "iterable", "mixed", "never", "null", "object", "parent",
  "self", "string", "true", "void"]

/-- Whether a name is a reserved word, whatever its case. -/
def isReserved (name : String) : Bool :=
  reservedWords.contains (lowercase name)

end DomainForge.Naming
