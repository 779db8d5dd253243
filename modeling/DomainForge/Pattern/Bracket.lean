import DomainForge.Pattern.Escape

/-!
# Bracketed sets of patterns

Sets such as `[a-f&&[^c]]`: ranges, classes and nested sets next to each other
are united; `&&`, `--` and `~~` intersect, subtract and take the symmetric
difference, all binding equally and from the left.
-/

namespace DomainForge

/-- The operations between the parts of a bracketed set. -/
inductive SetOp where
  | inter
  | diff
  | symmDiff
deriving Repr, DecidableEq

namespace Bracket

/-- The parts read so far: the operation waiting for its right side, and the
items of the union at hand, the latest first. -/
structure Parts where
  pending : Option (SetOp × CharSet) := none
  items : List CharSet := []

/-- Adds an item to the union at hand. -/
def Parts.add (parts : Parts) (set : CharSet) : Parts :=
  { parts with items := set :: parts.items }

/-- The set that the parts make up. Where case is ignored, the sides of an
operation are widened before they are combined. -/
def Parts.total (flags : PatternFlags) (parts : Parts) : CharSet :=
  let right := CharSet.unions parts.items.reverse
  match parts.pending with
  | none => right
  | some (.inter, left) => .inter (flags.fold left) (flags.fold right)
  | some (.diff, left) => .diff (flags.fold left) (flags.fold right)
  | some (.symmDiff, left) => .symmDiff (flags.fold left) (flags.fold right)

/-- Makes everything read so far the left side of an operation. -/
def Parts.operate (flags : PatternFlags) (parts : Parts) (op : SetOp) : Parts :=
  { pending := some (op, parts.total flags), items := [] }

/-- A character as the end of a range; outside Unicode it must be ASCII. -/
def bound? (flags : PatternFlags) : Atom → Option Char
  | .literal c _ => if flags.unicode || c.toNat < 128 then some c else none
  | _ => none

/-- The set of a single item. -/
def itemSet? (flags : PatternFlags) : Atom → Option CharSet
  | .charClass letter => flags.classOf? letter
  | .look _ => none
  | atom => (bound? flags atom).map CharSet.single

/-- Reads one character or escape. -/
def readAtom? (flags : PatternFlags) : List Char → Option (Atom × List Char)
  | [] => none
  | '\\' :: rest => Escape.read? flags rest
  | c :: rest => some (.literal c false, rest)

/-- Reads an item or a range. A dash before the closing bracket or before
another dash makes no range. -/
def readRange? (flags : PatternFlags) (s : List Char) : Option (CharSet × List Char) := do
  let (first, rest) ← readAtom? flags s
  match flags.skip rest with
  | [] => none
  | '-' :: after =>
    if flags.peek? after = some ']' ∨ flags.peek? after = some '-' then
      return (← itemSet? flags first, '-' :: after)
    else
      let (last, rest) ← readAtom? flags (flags.skip after)
      let low ← bound? flags first
      let high ← bound? flags last
      if low ≤ high then return (.range low.toNat high.toNat, rest) else none
  | rest => return (← itemSet? flags first, rest)

/-- Reads a class such as `[:upper:]`, given the text behind its first bracket. -/
def readNamed? (flags : PatternFlags) (s : List Char) : Option (Option CharSet × List Char) :=
  match s with
  | ':' :: inside =>
    let (negated, name) := match inside with
      | '^' :: name => (true, name)
      | name => (false, name)
    match Text.breakOn [':'] name with
    | some (name, ']' :: rest) =>
      (CharSet.asciiClass? (String.ofList name)).map fun set =>
        (flags.foldAndNegate? negated set, rest)
    | _ => none
  | _ => none

/-- Reads the opening of a set behind its bracket: a negation, dashes that
stand for themselves, and a closing bracket that stands for itself. -/
def readOpening? (flags : PatternFlags) (s : List Char) : Option (Bool × Parts × List Char) :=
  let s := flags.skip s
  let (negated, s) := match s with
    | '^' :: rest => (true, flags.skip rest)
    | s => (false, s)
  let (items, s) := dashes (s.length + 1) [] s
  match items, s with
  | _, [] => none
  | [], ']' :: rest => some (negated, { items := [.single ']'] }, flags.skip rest)
  | items, s => some (negated, { items := items }, s)
where
  dashes : (fuel : Nat) → List CharSet → List Char → List CharSet × List Char
    | fuel + 1, items, '-' :: rest => dashes fuel (.single '-' :: items) (flags.skip rest)
    | _, items, s => (items, s)

mutual

/-- Reads a set behind its opening bracket. The fuel bounds the number of items
and nested sets. -/
def readSet? (flags : PatternFlags) : (fuel : Nat) → List Char → Option (CharSet × List Char)
  | 0, _ => none
  | fuel + 1, s =>
    match readOpening? flags s with
    | some (negated, parts, rest) => readParts? flags negated fuel parts rest
    | none => none

/-- Reads the parts of a set up to its closing bracket. -/
def readParts? (flags : PatternFlags) (negated : Bool) :
    (fuel : Nat) → Parts → List Char → Option (CharSet × List Char)
  | 0, _, _ => none
  | fuel + 1, parts, s =>
    match flags.skip s with
    | [] => none
    | '[' :: rest =>
      match readNamed? flags rest with
      | some (some set, rest) => readParts? flags negated fuel (parts.add set) rest
      | some (none, _) => none
      | none =>
        match readSet? flags fuel rest with
        | some (set, rest) => readParts? flags negated fuel (parts.add set) rest
        | none => none
    | ']' :: rest => (flags.foldAndNegate? negated (parts.total flags)).map (·, rest)
    | '&' :: '&' :: rest => readParts? flags negated fuel (parts.operate flags .inter) rest
    | '-' :: '-' :: rest => readParts? flags negated fuel (parts.operate flags .diff) rest
    | '~' :: '~' :: rest => readParts? flags negated fuel (parts.operate flags .symmDiff) rest
    | s =>
      match readRange? flags s with
      | some (set, rest) => readParts? flags negated fuel (parts.add set) rest
      | none => none

end

end Bracket

end DomainForge
