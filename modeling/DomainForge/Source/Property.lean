import DomainForge.Model
import DomainForge.Text.Blank
import DomainForge.Text.WordClass

/-!
# Property declarations

A property is declared on one line by its type and its name, as in
`- Set<OrderLine> lines`. A leading `-` makes it a relation, a `^` anywhere
marks an enumeration, the word `nullable` may stand anywhere, and `Set<..>` or
`List<..>` around the type makes it a collection.
-/

namespace DomainForge.Source

open Text

/-- The line that makes the entity around it its aggregate's root. -/
def rootMarker : String := "aggregateRoot"

/-- Whether a character may trail a declaration. -/
def isTrailer (c : Char) : Bool :=
  c == ';' || c == ','

/-- A text without the semicolons and commas at its end. -/
def dropTrailers (s : List Char) : List Char :=
  dropTail isTrailer s

/-- Reads `< element >` after optional blanks: the trimmed element, which
reaches to the first closing bracket, and what follows the bracket. -/
def bracketed? (s : List Char) : Option (List Char × List Char) :=
  match trimStart s with
  | '<' :: inside => (breakOn ['>'] inside).map fun (element, after) => (trim element, after)
  | _ => none

/-- Reads a collection type at the start of a text: its element and what
follows it. -/
def collectionAt? (s : List Char) : Option (List Char × List Char) :=
  if "Set".toList.isPrefixOf s then bracketed? (s.drop 3)
  else if "List".toList.isPrefixOf s then bracketed? (s.drop 4)
  else none

/-- The first collection type of a text: what stands before it, its element,
and what stands after it. It must not continue a word, so the character before
the text is given. -/
def findCollection? (previous : Option Char) :
    List Char → Option (List Char × List Char × List Char)
  | [] => none
  | c :: rest =>
    let here := if previous.any isWordChar then none else collectionAt? (c :: rest)
    match here with
    | some (element, after) => some ([], element, after)
    | none => (findCollection? (some c) rest).map fun (before, found) => (c :: before, found)

/-- Whether a token is the word `nullable`, with or without trailers. -/
def isNullableToken (token : List Char) : Bool :=
  dropTrailers token == "nullable".toList

/-- Reads the tokens of a declaration, given the element type if the
declaration is a collection. -/
def propertyOfTokens? (isRelation isEnum : Bool) (element : Option (List Char))
    (tokens : List (List Char)) : Option Property :=
  match tokens.filter (!isNullableToken ·) with
  | type :: name :: _ => some {
      name := String.ofList (dropTrailers name)
      type := String.ofList (element.getD (type.dropWhile (· == '@')))
      nullable := tokens.any isNullableToken
      isRelation := isRelation
      isCollection := element.isSome
      isEnum := isEnum }
  | _ => none

/-- Reads a declaration without its leading dash. -/
def propertyOfBody? (isRelation : Bool) (body : List Char) : Option Property :=
  let isEnum := body.contains '^'
  let body := body.filter (· != '^')
  match findCollection? none body with
  | some (before, element, after) =>
    propertyOfTokens? isRelation isEnum (some element)
      (words (before ++ "Collection".toList ++ after))
  | none => propertyOfTokens? isRelation isEnum none (words body)

/-- A line up to its first `//`, trimmed. -/
def declarationText (line : List Char) : List Char :=
  trim (((breakOn "//".toList line).map (·.1)).getD line)

/-- Whether a line declares nothing, whatever stands around it. -/
def isNoDeclaration (text : List Char) : Bool :=
  text.isEmpty || text == ['{'] || text == ['}'] || text == rootMarker.toList

/-- The property that a line declares, if it declares one. -/
def parseProperty? (line : String) : Option Property :=
  let text := declarationText line.toList
  if isNoDeclaration text then none
  else match text with
    | '-' :: rest => propertyOfBody? true (trimStart rest)
    | _ => propertyOfBody? false text

end DomainForge.Source
