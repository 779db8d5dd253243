/-!
# Ranges and runs of code points

Properties of characters come as tables. A class of characters is a list of
closed ranges of code points; a mapping of characters is a list of runs, each
of which moves the members of an arithmetic progression by one distance.
-/

namespace DomainForge.Text

/-- Every `step`-th code point from `first` to `last`, moved by `shift`. -/
structure CodeRun where
  first : Nat
  last : Nat
  step : Nat
  shift : Int
deriving Repr, DecidableEq

namespace CodeRun

/-- Whether a code point is one that the run moves. -/
def covers (run : CodeRun) (code : Nat) : Bool :=
  run.first ≤ code && code ≤ run.last && (code - run.first) % run.step == 0

/-- Where the run moves a code point that it covers. -/
def image (run : CodeRun) (code : Nat) : Nat :=
  (code + run.shift).toNat

/-- Whether a code point is the image of one that the run moves. -/
def reaches (run : CodeRun) (code : Nat) : Bool :=
  run.covers (code - run.shift).toNat && run.image (code - run.shift).toNat == code

end CodeRun

/-- The image of a code point under the first run that covers it. -/
def imageIn (runs : List CodeRun) (code : Nat) : Option Nat :=
  (runs.find? (·.covers code)).map (·.image code)

/-- Whether a code point lies in one of the closed ranges. -/
def inRanges (ranges : List (Nat × Nat)) (code : Nat) : Bool :=
  ranges.any fun (first, last) => first ≤ code && code ≤ last

end DomainForge.Text
