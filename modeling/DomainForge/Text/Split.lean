/-!
# Cutting texts

Texts are cut as lists of characters: at every character of a class, at the
first occurrence of a needle, at line ends, and at a tail of characters to be
dropped. Everything here is structural, so that a law about a cut follows the
characters of the text.
-/

namespace DomainForge.Text

/-- The pieces between the characters of a class; always at least one. -/
def splitWhere (p : Char → Bool) : List Char → List (List Char)
  | [] => [[]]
  | c :: rest =>
    if p c then [] :: splitWhere p rest
    else match splitWhere p rest with
      | [] => [[c]]
      | piece :: pieces => (c :: piece) :: pieces

/-- What stands before and after the first occurrence of a needle. -/
def breakOn (needle : List Char) : List Char → Option (List Char × List Char)
  | [] => if needle.isEmpty then some ([], []) else none
  | c :: rest =>
    if needle.isPrefixOf (c :: rest) then some ([], (c :: rest).drop needle.length)
    else (breakOn needle rest).map fun (before, after) => (c :: before, after)

/-- Drops the longest tail whose characters are all of a class. -/
def dropTail (p : Char → Bool) (s : List Char) : List Char :=
  (s.reverse.dropWhile p).reverse

/-- Drops the characters of a class at both ends. -/
def trimWhere (p : Char → Bool) (s : List Char) : List Char :=
  dropTail p (s.dropWhile p)

/-- Drops one carriage return at the end. -/
def dropReturn (s : List Char) : List Char :=
  if s.getLast? = some '\r' then s.dropLast else s

/-- The lines of a text. A line ends with a line feed, before which one
carriage return is dropped; an unfinished last line counts unless it is empty. -/
def lines (s : List Char) : List (List Char) :=
  let pieces := splitWhere (· == '\n') s
  let unfinished := pieces.getLast?.getD []
  pieces.dropLast.map dropReturn ++ if unfinished.isEmpty then [] else [unfinished]

/-- A text's pieces between the characters of a class. -/
def fields (p : Char → Bool) (s : String) : List String :=
  (splitWhere p s.toList).map String.ofList

/-- Texts put together with a separator between them. -/
def joinWith (separator : String) : List String → String
  | [] => ""
  | [s] => s
  | s :: rest => s ++ separator ++ joinWith separator rest

/-- Texts put together, each followed by a line end. -/
def unlines (texts : List String) : String :=
  texts.foldr (fun text rest => text ++ "\n" ++ rest) ""

end DomainForge.Text
