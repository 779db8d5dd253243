import DomainForge.Data.Datum
import DomainForge.Text.Split
import DomainForge.Text.WordClass

/-!
# Numbers, truth values and times in TOML

The scalars that are written without quotes. They are told apart by their
form alone.
-/

namespace DomainForge.Toml

open Text

/-- Digits of a base with single underscores between them, at least one. -/
def isDigitRun (isDigit : Char → Bool) : List Char → Bool
  | [] => false
  | [c] => isDigit c
  | c :: '_' :: rest => isDigit c && isDigitRun isDigit rest
  | c :: rest => isDigit c && isDigitRun isDigit rest

/-- Whether a character is a hexadecimal digit. -/
def isHexDigit (c : Char) : Bool :=
  isAsciiDigit c || ('a' ≤ c && c ≤ 'f') || ('A' ≤ c && c ≤ 'F')

/-- Decimal digits without a leading zero. -/
def isDecimalRun (s : List Char) : Bool :=
  isDigitRun isAsciiDigit s && (s.head? != some '0' || s.length == 1)

/-- A text without the sign at its start. -/
def dropSign : List Char → List Char
  | '+' :: rest => rest
  | '-' :: rest => rest
  | s => s

/-- The value of the digits of a base, underscores left out. -/
def digitsValue (base : Nat) (s : List Char) : Nat :=
  (s.filter (· != '_')).foldl (fun value c =>
    value * base + (if isAsciiDigit c then c.toNat - '0'.toNat
      else if 'a' ≤ c then c.toNat - 'a'.toNat + 10 else c.toNat - 'A'.toNat + 10)) 0

/-- Reads an integer. Only decimal ones may have a sign. -/
def integer? (s : List Char) : Option Int :=
  match s with
  | '0' :: 'x' :: digits =>
    if isDigitRun isHexDigit digits then some (digitsValue 16 digits) else none
  | '0' :: 'o' :: digits =>
    if isDigitRun (fun c => '0' ≤ c && c ≤ '7') digits then some (digitsValue 8 digits) else none
  | '0' :: 'b' :: digits =>
    if isDigitRun (fun c => c == '0' || c == '1') digits then some (digitsValue 2 digits) else none
  | s =>
    if isDecimalRun (dropSign s) then
      let value : Int := digitsValue 10 (dropSign s)
      some (if s.head? = some '-' then -value else value)
    else none

/-- Whether a text is an exponent without its letter. -/
def isExponent (s : List Char) : Bool :=
  isDigitRun isAsciiDigit (dropSign s)

/-- The parts before and behind the first character of a class. -/
def breakAt (p : Char → Bool) (s : List Char) : List Char × Option (List Char) :=
  match s.dropWhile (!p ·) with
  | [] => (s, none)
  | _ :: rest => (s.takeWhile (!p ·), some rest)

/-- Whether a text is a number with a fraction or an exponent, or one of the
numbers that are written as words. -/
def isDecimal (s : List Char) : Bool :=
  let body := dropSign s
  if body == "inf".toList || body == "nan".toList then true
  else
    let (mantissa, exponent) := breakAt (fun c => c == 'e' || c == 'E') body
    let (whole, fraction) := breakAt (· == '.') mantissa
    isDecimalRun whole && fraction.all (isDigitRun isAsciiDigit) && exponent.all isExponent &&
      (fraction.isSome || exponent.isSome)

/-- The value of a number of exactly so many digits, and what follows it. -/
def fixedDigits? (count : Nat) (s : List Char) : Option (Nat × List Char) :=
  let digits := s.take count
  if digits.length = count ∧ digits.all isAsciiDigit then some (digitsValue 10 digits, s.drop count)
  else none

/-- The number of days of a month. -/
def daysIn (year month : Nat) : Nat :=
  if month = 2 then
    if year % 4 = 0 ∧ (year % 100 ≠ 0 ∨ year % 400 = 0) then 29 else 28
  else if month = 4 ∨ month = 6 ∨ month = 9 ∨ month = 11 then 30
  else 31

/-- Reads a date at the start of a text. -/
def date? (s : List Char) : Option (List Char) := do
  let (year, rest) ← fixedDigits? 4 s
  let '-' :: rest := rest | none
  let (month, rest) ← fixedDigits? 2 rest
  let '-' :: rest := rest | none
  let (day, rest) ← fixedDigits? 2 rest
  if 1 ≤ month ∧ month ≤ 12 ∧ 1 ≤ day ∧ day ≤ daysIn year month then return rest else none

/-- Reads the fraction of a second, if there is one. -/
def fraction? : List Char → Option (List Char)
  | '.' :: rest => if rest.head?.any isAsciiDigit then some (rest.dropWhile isAsciiDigit) else none
  | s => some s

/-- Reads a time of day at the start of a text; the seconds may be left out. -/
def time? (s : List Char) : Option (List Char) := do
  let (hour, rest) ← fixedDigits? 2 s
  let ':' :: rest := rest | none
  let (minute, rest) ← fixedDigits? 2 rest
  if 23 < hour ∨ 59 < minute then none
  match rest with
  | ':' :: rest =>
    let (second, rest) ← fixedDigits? 2 rest
    if 60 < second then none else fraction? rest
  | rest => return rest

/-- Whether a text is the distance of a clock from the common one, or empty. -/
def isOffset (s : List Char) : Bool :=
  match s with
  | [] => true
  | ['Z'] => true
  | ['z'] => true
  | sign :: rest =>
    (sign == '+' || sign == '-') &&
      match fixedDigits? 2 rest with
      | some (hour, ':' :: rest) =>
        match fixedDigits? 2 rest with
        | some (minute, []) => hour ≤ 23 && minute ≤ 59
        | _ => false
      | _ => false

/-- Whether a text is a date, a time, or a date with a time. -/
def isMoment (s : List Char) : Bool :=
  match date? s with
  | some [] => true
  | some (divider :: rest) =>
    (divider == 'T' || divider == 't' || divider == ' ') &&
      (match time? rest with
      | some rest => isOffset rest
      | none => false)
  | none => time? s == some []

/-- Reads a scalar that is written without quotes. -/
def scalar? (s : List Char) : Option Datum :=
  if s == "true".toList then some (.bool true)
  else if s == "false".toList then some (.bool false)
  else match integer? s with
    | some value => some (.integer value)
    | none =>
      if isDecimal s then some (.decimal (String.ofList s))
      else if isMoment s then some (.moment (String.ofList s))
      else none

/-- Whether a character ends a scalar that is written without quotes. -/
def endsScalar (c : Char) : Bool :=
  c == ' ' || c == '\t' || c == '\n' || c == '\r' || c == ',' || c == ']' || c == '}' || c == '#'

/-- Reads a scalar at the start of a text. A date may be joined to its time by
one space. -/
def readScalar? (s : List Char) : Option (Datum × List Char) :=
  let token := s.takeWhile (!endsScalar ·)
  let rest := s.dropWhile (!endsScalar ·)
  match date? token, rest with
  | some [], ' ' :: c :: more =>
    if isAsciiDigit c then
      let time := (c :: more).takeWhile (!endsScalar ·)
      (scalar? (token ++ [' '] ++ time)).map (·, (c :: more).dropWhile (!endsScalar ·))
    else (scalar? token).map (·, rest)
  | _, _ => (scalar? token).map (·, rest)

end DomainForge.Toml
