import DomainForge.Text.Folding.Data

/-!
# Case-insensitive comparison of characters

Two characters differ only in case when simple case folding sends them to the
same character. `caseVariants` lists the characters that a given one may stand
for when case is ignored.
-/

namespace DomainForge.Text

/-- The code points that differ from a given one only in case, itself included. -/
def caseVariantCodes (code : Nat) : List Nat :=
  match Folding.largeGroups.find? (·.contains code) with
  | some group => group
  | none =>
    match Folding.pairRuns.find? (·.covers code) with
    | some run => [code, run.image code]
    | none =>
      match Folding.pairRuns.find? (·.reaches code) with
      | some run => [(code - run.shift).toNat, code]
      | none => [code]

/-- The characters that differ from a given one only in case, itself included. -/
def caseVariants (c : Char) : List Char :=
  (caseVariantCodes c.toNat).map Char.ofNat

end DomainForge.Text
