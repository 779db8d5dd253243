import DomainForge.Data.Datum

/-!
# Data as indented JSON

The written form of data for other programs: two spaces per level, one entry
per line, empty lists and tables on one line.
-/

namespace DomainForge

namespace Datum

/-- The hexadecimal digit of a value below sixteen. -/
def hexDigit (value : Nat) : Char :=
  if value < 10 then Char.ofNat ('0'.toNat + value) else Char.ofNat ('a'.toNat + (value - 10))

/-- A character inside quotes. Quotes, backslashes and control characters are
escaped, the common ones by a letter. -/
def escapeChar (c : Char) : List Char :=
  if c = '"' then ['\\', '"']
  else if c = '\\' then ['\\', '\\']
  else if c = '\n' then ['\\', 'n']
  else if c = '\r' then ['\\', 'r']
  else if c = '\t' then ['\\', 't']
  else if c.toNat = 0x8 then ['\\', 'b']
  else if c.toNat = 0xc then ['\\', 'f']
  else if c.toNat < 0x20 then
    ['\\', 'u', '0', '0', hexDigit (c.toNat / 16), hexDigit (c.toNat % 16)]
  else [c]

/-- A text in quotes. -/
def quote (s : String) : String :=
  String.ofList (['"'] ++ s.toList.flatMap escapeChar ++ ['"'])

/-- The spaces in front of a line at a level. -/
def indentation (level : Nat) : String :=
  String.ofList (List.replicate (2 * level) ' ')

mutual

/-- The indented form of a value that starts on a line at the given level. -/
def indented (level : Nat) : Datum → String
  | null => "null"
  | bool true => "true"
  | bool false => "false"
  | integer value => toString value
  | decimal digits => digits
  | moment written => quote written
  | text value => quote value
  | list [] => "[]"
  | list (item :: items) =>
    "[\n" ++ indentation (level + 1) ++ indented (level + 1) item ++
      indentedItems (level + 1) items ++ "\n" ++ indentation level ++ "]"
  | table [] => "\x7b\x7d"
  | table ((key, value) :: entries) =>
    "\x7b\n" ++ indentation (level + 1) ++ quote key ++ ": " ++ indented (level + 1) value ++
      indentedEntries (level + 1) entries ++ "\n" ++ indentation level ++ "\x7d"

/-- The further items of a list, each behind a comma. -/
def indentedItems (level : Nat) : List Datum → String
  | [] => ""
  | item :: items =>
    ",\n" ++ indentation level ++ indented level item ++ indentedItems level items

/-- The further entries of a table, each behind a comma. -/
def indentedEntries (level : Nat) : List (String × Datum) → String
  | [] => ""
  | (key, value) :: entries =>
    ",\n" ++ indentation level ++ quote key ++ ": " ++ indented level value ++
      indentedEntries level entries

end

/-- The indented form of a value. -/
def toIndentedJson (value : Datum) : String :=
  indented 0 value

end Datum

end DomainForge
