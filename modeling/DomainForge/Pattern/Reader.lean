import DomainForge.Pattern.Bracket

/-!
# Reading patterns

The written form of patterns. The reader goes through the text once, keeping
the groups that are open; a text that is no pattern has no answer.
-/

namespace DomainForge

open Text

namespace PatternReader

/-- A group that is being read. -/
structure Level where
  /-- The flags in force before the group. -/
  outer : PatternFlags := {}
  /-- The alternatives already read, the latest first. -/
  branches : List Pattern := []
  /-- The pieces of the alternative at hand, the latest first. A switch of
  flags is a piece without a pattern. -/
  pieces : List (Option Pattern) := []

namespace Level

/-- The alternative at hand as one pattern. -/
def branch (level : Level) : Pattern :=
  Pattern.sequence (level.pieces.reverse.filterMap id)

/-- The whole group as one pattern. -/
def total (level : Level) : Pattern :=
  Pattern.choice ((level.branch :: level.branches).reverse)

/-- Adds a piece. -/
def add (level : Level) (piece : Option Pattern) : Level :=
  { level with pieces := piece :: level.pieces }

/-- Starts another alternative. -/
def divide (level : Level) : Level :=
  { level with branches := level.branch :: level.branches, pieces := [] }

/-- Takes off the last piece, if it is a pattern. -/
def takePiece? (level : Level) : Option (Pattern × Level) :=
  match level.pieces with
  | some pattern :: pieces => some (pattern, { level with pieces := pieces })
  | _ => none

end Level

/-- How far a pattern has been read. -/
structure State where
  flags : PatternFlags := {}
  level : Level := {}
  /-- The groups around the one at hand, the innermost first. -/
  outer : List Level := []
  /-- The names of groups seen so far. -/
  names : List (List Char) := []

namespace State

/-- Adds a pattern at the end. -/
def add (state : State) (pattern : Pattern) : State :=
  { state with level := state.level.add (some pattern) }

/-- Opens a group in which the given flags hold. -/
def openGroup (state : State) (flags : PatternFlags) : State :=
  { state with
    flags := flags
    level := { outer := state.flags }
    outer := state.level :: state.outer }

/-- Switches flags for the rest of the group. -/
def switchFlags (state : State) (flags : PatternFlags) : State :=
  { state with flags := flags, level := state.level.add none }

/-- Closes the innermost group, if one is open. -/
def closeGroup? (state : State) : Option State :=
  match state.outer with
  | [] => none
  | level :: outer => some { state with
      flags := state.level.outer
      level := level.add (some state.level.total)
      outer := outer }

/-- Repeats the last piece; there must be one. A question mark behind the
repetition makes it lazy. -/
def repeatLast? (state : State) (least : Nat) (most : Option Nat) (isLazy : Bool) :
    Option State :=
  state.level.takePiece?.map fun (body, level) =>
    let greedy := isLazy == state.flags.swapGreed
    { state with level := level.add (some (Pattern.repeated greedy body least most)) }

end State

/-- Takes off the question mark that makes a repetition lazy. -/
def readLazy : List Char → Bool × List Char
  | '?' :: rest => (true, rest)
  | rest => (false, rest)

/-- Reads decimal digits, skipping blanks behind each where the pattern is
verbose. The fuel bounds their number. -/
def readDigits (flags : PatternFlags) : (fuel : Nat) → List Char → List Char × List Char
  | 0, s => ([], s)
  | _, [] => ([], [])
  | fuel + 1, c :: rest =>
    if isAsciiDigit c then
      let (digits, rest) := readDigits flags fuel (flags.skip rest)
      (c :: digits, rest)
    else ([], c :: rest)

/-- The largest count that a repetition may have. -/
def countLimit : Nat := 4294967295

/-- Reads a count with blanks around it. Without digits, or beyond the limit,
there is no count. -/
def readCount (flags : PatternFlags) (s : List Char) : Option Nat × List Char :=
  let (digits, rest) := readDigits flags (s.length + 1) (trimStart s)
  let value := digits.foldl (fun value c => value * 10 + (c.toNat - '0'.toNat)) 0
  let rest := flags.skip (trimStart rest)
  (if digits.isEmpty || value > countLimit then none else some value, rest)

/-- Reads the bounds of a repetition behind its opening brace. -/
def readBounds? (flags : PatternFlags) (s : List Char) : Option (Nat × Option Nat × List Char) := do
  let (least, rest) := readCount flags (flags.skip s)
  match rest with
  | ',' :: rest =>
    match flags.skip rest with
    | '}' :: rest => return (← least, none, rest)
    | rest =>
      let low ← least
      let (most, rest) := readCount flags rest
      let high ← most
      match rest with
      | '}' :: rest => if low ≤ high then return (low, some high, rest) else none
      | _ => none
  | '}' :: rest =>
    let count ← least
    return (count, some count, rest)
  | _ => none

/-- Whether a character may stand in the name of a group. -/
def isNameChar (first : Bool) (c : Char) : Bool :=
  if first then c == '_' || isLetter c
  else c == '_' || c == '.' || c == '[' || c == ']' || isLetterOrNumber c

/-- Reads the name of a group up to its closing bracket. -/
def readGroupName? (s : List Char) : Option (List Char × List Char) :=
  match breakOn ['>'] s with
  | some (c :: name, rest) =>
    if isNameChar true c && name.all (isNameChar false) then some (c :: name, rest) else none
  | _ => none

/-- Opens a group by its name, which must be new. -/
def openNamed? (state : State) (s : List Char) : Option (State × List Char) :=
  match readGroupName? s with
  | some (name, rest) =>
    if name ∈ state.names then none
    else some ({ state.openGroup state.flags with names := name :: state.names }, rest)
  | none => none

/-- Reads a switch of flags, or the opening of a group that has flags. -/
def openFlagged? (state : State) (s : List Char) : Option (State × List Char) :=
  match state.flags.read? [] true false s with
  | some (flags, ':' :: rest) => some (state.openGroup flags, rest)
  | some (flags, ')' :: rest) =>
    if s.head? = some ')' then none else some (state.switchFlags flags, rest)
  | _ => none

/-- Reads the opening of a group behind its parenthesis. Conditions on what
stands around a match are refused. -/
def openGroup? (state : State) (s : List Char) : Option (State × List Char) :=
  match state.flags.skip s with
  | '?' :: '=' :: _ => none
  | '?' :: '!' :: _ => none
  | '?' :: '<' :: '=' :: _ => none
  | '?' :: '<' :: '!' :: _ => none
  | '?' :: 'P' :: '<' :: rest => openNamed? state rest
  | '?' :: '<' :: rest => openNamed? state rest
  | '?' :: rest => openFlagged? state rest
  | rest => some (state.openGroup state.flags, rest)

/-- The pattern of a character. A byte beyond ASCII is no character outside
Unicode. -/
def literal? (flags : PatternFlags) (c : Char) (isByte : Bool) : Option Pattern :=
  if !flags.unicode && isByte && c.toNat ≥ 128 then none
  else some (.one (flags.fold (.single c)))

/-- The pattern of an escape. -/
def atomPattern? (flags : PatternFlags) : Atom → Option Pattern
  | .literal c isByte => literal? flags c isByte
  | .charClass letter => (flags.classOf? letter).map .one
  | .look condition => some (.look condition)

/-- The pattern of a dot. -/
def dot? (flags : PatternFlags) : Option Pattern :=
  if !flags.unicode then none
  else if flags.dotAll then some (.one (.compl .empty))
  else if flags.crlf then some (.one (.compl (.union (.single '\r') (.single '\n'))))
  else some (.one (.compl (.single '\n')))

/-- The condition of a caret. -/
def caret (flags : PatternFlags) : Look :=
  if !flags.multiLine then .textStart else if flags.crlf then .crlfStart else .lineStart

/-- The condition of a dollar sign. -/
def dollar (flags : PatternFlags) : Look :=
  if !flags.multiLine then .textEnd else if flags.crlf then .crlfEnd else .lineEnd

/-- Reads one piece of a pattern, which starts with the given character. -/
def readPiece? (state : State) (c : Char) (rest : List Char) : Option (State × List Char) :=
  match c with
  | '(' => openGroup? state rest
  | ')' => state.closeGroup?.map (·, rest)
  | '|' => some ({ state with level := state.level.divide }, rest)
  | '[' =>
    (Bracket.readSet? state.flags (rest.length + 1) rest).map fun (set, rest) =>
      (state.add (.one set), rest)
  | '?' =>
    let (isLazy, rest) := readLazy rest
    (state.repeatLast? 0 (some 1) isLazy).map (·, rest)
  | '*' =>
    let (isLazy, rest) := readLazy rest
    (state.repeatLast? 0 none isLazy).map (·, rest)
  | '+' =>
    let (isLazy, rest) := readLazy rest
    (state.repeatLast? 1 none isLazy).map (·, rest)
  | '{' => do
    let (least, most, rest) ← readBounds? state.flags rest
    let (isLazy, rest) := readLazy (state.flags.skip rest)
    return (← state.repeatLast? least most isLazy, rest)
  | '\\' => do
    let (atom, rest) ← Escape.read? state.flags rest
    return (state.add (← atomPattern? state.flags atom), rest)
  | '.' => (dot? state.flags).map fun pattern => (state.add pattern, rest)
  | '^' => some (state.add (.look (caret state.flags)), rest)
  | '$' => some (state.add (.look (dollar state.flags)), rest)
  | c => (literal? state.flags c false).map fun pattern => (state.add pattern, rest)

/-- Reads pieces up to the end of the text. Every piece takes a character, so
the length of the text bounds their number. -/
def readPieces? : (fuel : Nat) → State → List Char → Option State
  | 0, _, _ => none
  | fuel + 1, state, s =>
    match state.flags.skip s with
    | [] => some state
    | c :: rest =>
      match readPiece? state c rest with
      | some (state, rest) => readPieces? fuel state rest
      | none => none

end PatternReader

/-- The pattern that a text writes, if it writes one. -/
def Pattern.parse? (text : String) : Option Pattern :=
  match PatternReader.readPieces? (text.toList.length + 1) {} text.toList with
  | some state => if state.outer.isEmpty then some state.level.total else none
  | none => none

end DomainForge
