import DomainForge.Text.Split
import DomainForge.Data.Toml.Scalar

/-!
# Quoted texts in TOML

Double quotes allow escapes, single quotes take everything literally, and
either kind, tripled, may span lines.
-/

namespace DomainForge.Toml

open Text

/-- Whether a character must not stand in a document as it is. Tabs are
allowed; line ends are allowed where lines may end. -/
def isControl (c : Char) : Bool :=
  (c.toNat < 0x20 && c != '\t') || c.toNat == 0x7f

/-- Takes off a line end. -/
def dropLineEnd? : List Char → Option (List Char)
  | '\n' :: rest => some rest
  | '\r' :: '\n' :: rest => some rest
  | _ => none

/-- Reads a character by its code point in hexadecimal digits. -/
def codePoint? (digits : Nat) (s : List Char) : Option (Char × List Char) :=
  let code := s.take digits
  if code.length = digits ∧ code.all isHexDigit ∧ (digitsValue 16 code).isValidChar then
    some (Char.ofNat (digitsValue 16 code), s.drop digits)
  else none

/-- Reads what follows a backslash. -/
def escape? : List Char → Option (Char × List Char)
  | 'b' :: rest => some ('\x08', rest)
  | 't' :: rest => some ('\t', rest)
  | 'n' :: rest => some ('\n', rest)
  | 'f' :: rest => some ('\x0c', rest)
  | 'r' :: rest => some ('\r', rest)
  | 'e' :: rest => some ('\x1b', rest)
  | '"' :: rest => some ('"', rest)
  | '\\' :: rest => some ('\\', rest)
  | 'x' :: rest => codePoint? 2 rest
  | 'u' :: rest => codePoint? 4 rest
  | 'U' :: rest => codePoint? 8 rest
  | _ => none

/-- Reads a literal text up to its closing quote. -/
def readLiteral? : List Char → Option (List Char × List Char)
  | [] => none
  | c :: rest =>
    if c = '\x27' then some ([], rest)
    else if isControl c then none
    else (readLiteral? rest).map fun (text, rest) => (c :: text, rest)

/-- Reads a text with escapes up to its closing quote. -/
def readBasic? : (fuel : Nat) → List Char → Option (List Char × List Char)
  | 0, _ => none
  | _, [] => none
  | fuel + 1, c :: rest =>
    if c = '"' then some ([], rest)
    else if c = '\\' then
      match escape? rest with
      | some (c, rest) => (readBasic? fuel rest).map fun (text, rest) => (c :: text, rest)
      | none => none
    else if isControl c then none
    else (readBasic? fuel rest).map fun (text, rest) => (c :: text, rest)

/-- Reads the tripled quotes that close a text. Up to two more quotes before
them belong to the text. -/
def closing? (quote : Char) (s : List Char) : Option (List Char × List Char) :=
  let quotes := s.takeWhile (· == quote)
  if quotes.length < 3 then none
  else
    let own := min (quotes.length - 3) 2
    some (List.replicate own quote, s.drop (own + 3))

/-- Skips blanks and line ends, as after a backslash at the end of a line. -/
def skipBlankLines : List Char → List Char
  | [] => []
  | '\r' :: '\n' :: rest => skipBlankLines rest
  | c :: rest => if c = ' ' ∨ c = '\t' ∨ c = '\n' then skipBlankLines rest else c :: rest

/-- What follows a backslash at the end of a line, if there is one. -/
def continued? (s : List Char) : Option (List Char) :=
  (dropLineEnd? (s.dropWhile fun c => c == ' ' || c == '\t')).map skipBlankLines

/-- Reads a text of several lines up to its closing quotes. Escapes are read
in double quotes only. -/
def readLines? (quote : Char) : (fuel : Nat) → List Char → Option (List Char × List Char)
  | 0, _ => none
  | _, [] => none
  | fuel + 1, c :: rest =>
    match closing? quote (c :: rest) with
    | some found => some found
    | none =>
      if c = '\\' ∧ quote = '"' then
        match continued? rest, escape? rest with
        | some rest, _ => readLines? quote fuel rest
        | none, some (c, rest) =>
          (readLines? quote fuel rest).map fun (text, rest) => (c :: text, rest)
        | none, none => none
      else if c = '\r' ∧ rest.head? ≠ some '\n' then none
      else if isControl c ∧ c ≠ '\n' ∧ c ≠ '\r' then none
      else (readLines? quote fuel rest).map fun (text, rest) => (c :: text, rest)

/-- Drops the line end right behind the opening quotes. -/
def dropFirstLineEnd (s : List Char) : List Char :=
  (dropLineEnd? s).getD s

/-- Reads a text in single or double quotes on one line. -/
def readQuoted? : List Char → Option (List Char × List Char)
  | '\x27' :: rest => readLiteral? rest
  | '"' :: rest => readBasic? (rest.length + 1) rest
  | _ => none

/-- Reads a text in quotes of any kind. -/
def readText? : List Char → Option (List Char × List Char)
  | '\x27' :: '\x27' :: '\x27' :: rest =>
    readLines? '\x27' (rest.length + 1) (dropFirstLineEnd rest)
  | '"' :: '"' :: '"' :: rest => readLines? '"' (rest.length + 1) (dropFirstLineEnd rest)
  | s => readQuoted? s

end DomainForge.Toml
