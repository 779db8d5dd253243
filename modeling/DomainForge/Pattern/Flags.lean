import DomainForge.Text.Blank

/-!
# Flags of patterns

A pattern may switch flags on and off in its middle. A flag holds up to the
end of the group in which it is switched.
-/

namespace DomainForge

/-- The flags in force at a place of a pattern. -/
structure PatternFlags where
  ignoreCase : Bool := false
  /-- `^` and `$` stand for the ends of lines. -/
  multiLine : Bool := false
  /-- `.` stands for line feeds too. -/
  dotAll : Bool := false
  /-- Repetitions are lazy unless marked. -/
  swapGreed : Bool := false
  /-- Classes range over all scripts. -/
  unicode : Bool := true
  /-- Carriage returns end lines too. -/
  crlf : Bool := false
  /-- Blanks and comments in the pattern are skipped. -/
  verbose : Bool := false
deriving Repr, DecidableEq

namespace PatternFlags

/-- Switches the flag of a letter; no answer for a letter without a flag. -/
def switch? (flags : PatternFlags) (letter : Char) (value : Bool) : Option PatternFlags :=
  match letter with
  | 'i' => some { flags with ignoreCase := value }
  | 'm' => some { flags with multiLine := value }
  | 's' => some { flags with dotAll := value }
  | 'U' => some { flags with swapGreed := value }
  | 'u' => some { flags with unicode := value }
  | 'R' => some { flags with crlf := value }
  | 'x' => some { flags with verbose := value }
  | _ => none

/-- Reads the letters between `(?` and the `:` or `)` behind them. A letter
may be given once; after a dash letters switch off, and one must follow it.
The answer has the rest of the text from that `:` or `)` on. -/
def read? (flags : PatternFlags) (given : List Char) (value : Bool) (dangling : Bool) :
    List Char → Option (PatternFlags × List Char)
  | [] => none
  | c :: rest =>
    if c = ':' ∨ c = ')' then if dangling then none else some (flags, c :: rest)
    else if c ∈ given then none
    else if c = '-' then read? flags (c :: given) false true rest
    else match flags.switch? c value with
      | some switched => read? switched (c :: given) value false rest
      | none => none

/-- Skips blanks and comments where the pattern is verbose. -/
def skip (flags : PatternFlags) (s : List Char) : List Char :=
  if flags.verbose then skipFrom false s else s
where
  skipFrom (inComment : Bool) : List Char → List Char
    | [] => []
    | c :: rest =>
      if inComment then skipFrom (c != '\n') rest
      else if Text.isBlank c then skipFrom false rest
      else if c = '#' then skipFrom true rest
      else c :: rest

/-- The character behind blanks, looked up without moving there. At most one
comment sign is passed over, and the comment's text is not. -/
def peek? (flags : PatternFlags) (s : List Char) : Option Char :=
  if flags.verbose then
    match Text.trimStart s with
    | '#' :: rest => (Text.trimStart rest).head?
    | rest => rest.head?
  else s.head?

end PatternFlags

end DomainForge
