import DomainForge.Pattern.Basic
import DomainForge.Pattern.Flags

/-!
# Escapes of patterns

What a backslash in a pattern stands for: a character, a named class, or a
condition on a position. An escape that stands for nothing is an error, so
that it cannot silently match its own letter.
-/

namespace DomainForge

open Text

/-- What a single place of a pattern denotes. -/
inductive Atom where
  /-- A character; the mark says that it was written as a byte. -/
  | literal (c : Char) (isByte : Bool)
  | charClass (letter : Char)
  | look (condition : Look)
deriving Repr

namespace Escape

/-- The value of a hexadecimal digit. -/
def hexValue? (c : Char) : Option Nat :=
  if '0' ≤ c ∧ c ≤ '9' then some (c.toNat - '0'.toNat)
  else if 'a' ≤ c ∧ c ≤ 'f' then some (c.toNat - 'a'.toNat + 10)
  else if 'A' ≤ c ∧ c ≤ 'F' then some (c.toNat - 'A'.toNat + 10)
  else none

/-- The character of a code point, if it is one. -/
def charOf? (code : Nat) : Option Char :=
  if code.isValidChar then some (Char.ofNat code) else none

/-- Reads a fixed number of hexadecimal digits after a value. -/
def readDigits? (flags : PatternFlags) (value : Nat) :
    (count : Nat) → List Char → Option (Char × List Char)
  | 0, rest => (charOf? value).map (·, rest)
  | _ + 1, [] => none
  | count + 1, c :: rest =>
    match hexValue? c with
    | some digit => readDigits? flags (value * 16 + digit) count (flags.skip rest)
    | none => none

/-- Reads hexadecimal digits up to a closing brace. The fuel bounds the number
of digits. -/
def readBraced? (flags : PatternFlags) (digits value : Nat) :
    (fuel : Nat) → List Char → Option (Char × List Char)
  | 0, _ => none
  | _, [] => none
  | fuel + 1, c :: rest =>
    if c = '}' then if digits = 0 then none else (charOf? value).map (·, flags.skip rest)
    else match hexValue? c with
      | some digit => readBraced? flags (digits + 1) (value * 16 + digit) fuel (flags.skip rest)
      | none => none

/-- Reads a character by its code point, which has a fixed number of digits
unless it stands in braces. -/
def readCode? (flags : PatternFlags) (digits : Nat) (s : List Char) : Option (Atom × List Char) :=
  match flags.skip s with
  | '{' :: rest =>
    (readBraced? flags 0 0 (rest.length + 1) (flags.skip rest)).map fun (c, rest) =>
      (.literal c false, rest)
  | s => (readDigits? flags 0 digits s).map fun (c, rest) => (.literal c (digits == 2), rest)

/-- Characters that have a meaning of their own in patterns. -/
def metaChars : List Char :=
  "\\.+*?()|[]\x7b\x7d^$#&-~".toList

/-- Whether a backslash before a character stands for that character. -/
def isEscapable (c : Char) : Bool :=
  metaChars.contains c ||
    (c.toNat < 128 && !isAsciiLetter c && !isAsciiDigit c && c != '<' && c != '>')

/-- The control character that a letter stands for after a backslash. -/
def controlChar? : Char → Option Char
  | 'a' => some '\x07'
  | 'f' => some '\x0c'
  | 't' => some '\t'
  | 'n' => some '\n'
  | 'r' => some '\r'
  | 'v' => some '\x0b'
  | _ => none

/-- The condition that a letter or bracket stands for after a backslash. -/
def look? (flags : PatternFlags) : Char → Option Look
  | 'A' => some .textStart
  | 'z' => some .textEnd
  | 'b' => some (if flags.unicode then .wordBoundary else .asciiWordBoundary)
  | 'B' => some (if flags.unicode then .noWordBoundary else .asciiNoWordBoundary)
  | '<' => some (if flags.unicode then .wordStart else .asciiWordStart)
  | '>' => some (if flags.unicode then .wordEnd else .asciiWordEnd)
  | _ => none

/-- The word conditions that are written by name, as in `\b{start}`. -/
def namedLook? (flags : PatternFlags) : String → Option Look
  | "start" => some (if flags.unicode then .wordStart else .asciiWordStart)
  | "end" => some (if flags.unicode then .wordEnd else .asciiWordEnd)
  | "start-half" => some (if flags.unicode then .wordStartHalf else .asciiWordStartHalf)
  | "end-half" => some (if flags.unicode then .wordEndHalf else .asciiWordEndHalf)
  | _ => none

/-- Reads letters and dashes, skipping blanks behind each where the pattern is
verbose. The fuel bounds their number. -/
def readName (flags : PatternFlags) : (fuel : Nat) → List Char → List Char × List Char
  | 0, s => ([], s)
  | _, [] => ([], [])
  | fuel + 1, c :: rest =>
    if isAsciiLetter c || c == '-' then
      let (name, rest) := readName flags fuel (flags.skip rest)
      (c :: name, rest)
    else ([], c :: rest)

/-- Reads what follows `\b`: a name in braces, or nothing that belongs to it.
Braces that do not start like a name are left to be read as a repetition. -/
def readBoundary? (flags : PatternFlags) (plain : Look) (s : List Char) :
    Option (Atom × List Char) :=
  match s with
  | '{' :: rest =>
    match flags.skip rest with
    | [] => none
    | c :: inside =>
      if isAsciiLetter c || c == '-' then
        match readName flags (inside.length + 1) (c :: inside) with
        | (name, '}' :: rest) =>
          (namedLook? flags (String.ofList name)).map fun condition => (.look condition, rest)
        | _ => none
      else some (.look plain, s)
  | _ => some (.look plain, s)

/-- Reads what follows a backslash. -/
def read? (flags : PatternFlags) : List Char → Option (Atom × List Char)
  | [] => none
  | c :: rest =>
    if isAsciiDigit c || c == 'p' || c == 'P' then none
    else if c = 'x' then readCode? flags 2 rest
    else if c = 'u' then readCode? flags 4 rest
    else if c = 'U' then readCode? flags 8 rest
    else if c ∈ "dswDSW".toList then some (.charClass c, rest)
    else if isEscapable c then some (.literal c false, rest)
    else match controlChar? c, look? flags c with
      | some control, _ => some (.literal control false, rest)
      | none, some condition =>
        if c = 'b' then readBoundary? flags condition rest else some (.look condition, rest)
      | none, none => none

end Escape

/-- The set of a class letter such as `w`; a capital letter negates. Outside
Unicode only the ASCII members count, and there a negated class is refused,
since it would match parts of characters. -/
def PatternFlags.classOf? (flags : PatternFlags) (letter : Char) : Option CharSet :=
  match flags.unicode, letter with
  | true, 'w' => some (.named .word)
  | true, 'd' => some (.named .digit)
  | true, 's' => some (.named .space)
  | true, 'W' => some (.compl (.named .word))
  | true, 'D' => some (.compl (.named .digit))
  | true, 'S' => some (.compl (.named .space))
  | false, 'w' => some (.named .asciiWord)
  | false, 'd' => some (.named .asciiDigit)
  | false, 's' => some (.named .asciiSpace)
  | _, _ => none

/-- A set widened by the characters that differ only in case, where case is
ignored. -/
def PatternFlags.fold (flags : PatternFlags) (set : CharSet) : CharSet :=
  if !flags.ignoreCase then set
  else if flags.unicode then .folded set
  else .asciiFolded set

/-- A set widened where case is ignored, and then complemented if negated.
Outside Unicode a complement is refused. -/
def PatternFlags.foldAndNegate? (flags : PatternFlags) (negated : Bool) (set : CharSet) :
    Option CharSet :=
  if !negated then some (flags.fold set)
  else if flags.unicode then some (.compl (flags.fold set))
  else none

end DomainForge
