import DomainForge.Text.Split

/-!
# Spans of a text

Places in a text are counted in the bytes of its UTF-8 encoding.
-/

namespace DomainForge.Text

/-- The number of bytes that encode a list of characters. -/
def byteLength : List Char → Nat
  | [] => 0
  | c :: rest => c.utf8Size + byteLength rest

/-- A stretch of a text: where it starts and how long it is, in bytes. -/
structure Span where
  offset : Nat
  length : Nat
deriving Repr, DecidableEq

/-- The first occurrence of a needle. -/
def spanOf (needle s : List Char) : Option Span :=
  (breakOn needle s).map fun (before, _) => ⟨byteLength before, byteLength needle⟩

/-- The first occurrence of a needle in double quotes, else its first bare
occurrence; an empty needle is nowhere. -/
def quotedSpanOf (needle s : List Char) : Option Span :=
  if needle.isEmpty then none
  else (spanOf (['"'] ++ needle ++ ['"']) s).or (spanOf needle s)

end DomainForge.Text
