/-!
# Structured data

The values that settings files and reports are made of: scalars, lists, and
tables whose entries keep their order. The format of settings files is a
parameter.
-/

namespace DomainForge

/-- A value of a data format. -/
inductive Datum where
  | null
  | bool (value : Bool)
  | integer (value : Int)
  /-- A number with a fraction or an exponent, as it is written. -/
  | decimal (digits : String)
  /-- A date, a time or both, as it is written. -/
  | moment (text : String)
  | text (value : String)
  | list (items : List Datum)
  | table (entries : List (String × Datum))
deriving Repr, Inhabited

namespace Datum

/-- The value of the first entry with a key. -/
def lookup? (key : String) : List (String × Datum) → Option Datum
  | [] => none
  | (name, value) :: rest => if name = key then some value else lookup? key rest

/-- A list of texts. -/
def texts (items : List String) : Datum :=
  list (items.map text)

end Datum

/-- A format that documents are written in. -/
class DocumentFormat where
  /-- The data of a document, unless the text is none. -/
  parse? : String → Option Datum

end DomainForge
