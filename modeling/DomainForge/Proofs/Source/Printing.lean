import DomainForge.Source.Parser
import DomainForge.Proofs.Text.Words
import Mathlib.Tactic.MkIffOfInductiveProp

/-!
# Printing a model

The canonical text of a model: one construct on a line, with any indentation. A block is opened by
its keyword and its name and closed on a line of its own; only an enumeration stands on one line
with its labels.

Not every model has such a text. A model is printable if its names, types and labels can be told
from what stands around them (`Model.IsPrintable`). What is printed then is a line that is read as
it was written (`isLine_openingLine`, `isLine_enumerationLine`), and the logical lines of indented
lines are these lines (`texts_logicalLines_unlines`).
-/

namespace DomainForge

open Text

namespace Source

/-! ## Lines -/

/-- The type of a property: an enumeration has a `^` before it, and a collection has `List<..>`
around it. -/
def printType (property : Property) : String :=
  let type := (if property.isEnum then "^" else "") ++ property.type
  if property.isCollection then "List<" ++ type ++ ">" else type

/-- The type and the name of a property, and whether it is nullable. -/
def printBody (property : Property) : String :=
  printType property ++ " " ++ property.name ++ if property.nullable then " nullable" else ""

/-- The declaration of a property: a relation has a `-` before it. -/
def printProperty (property : Property) : String :=
  (if property.isRelation then "- " else "") ++ printBody property

/-- The line that opens a block. -/
def openingLine (keyword : Keyword) (name : String) : String :=
  keyword.spelling ++ " " ++ name ++ " \x7b"

/-- The line that closes a block. -/
def closingLine : String := "\x7d"

/-- The lines of an entity. -/
def entityLines (entity : Entity) : List String :=
  openingLine .entity entity.name :: (if entity.isAggregateRoot then [rootMarker] else []) ++
    entity.properties.map printProperty ++ [closingLine]

/-- The lines of a value object. -/
def valueObjectLines (valueObject : ValueObject) : List String :=
  openingLine .valueObject valueObject.name :: valueObject.properties.map printProperty ++
    [closingLine]

/-- The line of an enumeration. -/
def enumerationLine (enumeration : Enumeration) : String :=
  openingLine .enumeration enumeration.name ++ " " ++ joinWith ", " enumeration.values ++ " \x7d"

/-- The lines of an aggregate: its entities, its value objects, and its enumerations. -/
def aggregateLines (aggregate : Aggregate) : List String :=
  openingLine .aggregate aggregate.name :: aggregate.entities.flatMap entityLines ++
    aggregate.valueObjects.flatMap valueObjectLines ++ aggregate.enums.map enumerationLine ++
    [closingLine]

/-- The lines of a context. -/
def contextLines (context : BoundedContext) : List String :=
  openingLine .boundedContext context.name :: context.aggregates.flatMap aggregateLines ++
    [closingLine]

/-- The lines of a model. -/
def modelLines (model : Model) : List String :=
  model.contexts.flatMap contextLines

/-- The text of a model, where each line has an indentation of its own. -/
def print (indent : Nat → String) (model : Model) : String :=
  unlines ((modelLines model).zipIdx.map fun (line, index) => indent index ++ line)

/-- Indentation: blanks that do not end the line. -/
def IsIndent (indent : String) : Prop :=
  ∀ c ∈ indent.toList, isBlank c = true ∧ c ≠ '\n'

/-! ## What can be printed -/

/-- Whether a character may stand in a name. -/
def isNameChar (c : Char) : Bool :=
  !(isBlank c || ['{', '}', '/'].contains c)

/-- A name of a context, an aggregate or a unit. It may be empty. -/
def IsName (name : String) : Prop :=
  name.toList.all isNameChar = true

instance (name : String) : Decidable (IsName name) :=
  inferInstanceAs (Decidable (_ = true))

theorem IsName.of_mem {name : String} (h : IsName name) {c : Char} (hc : c ∈ name.toList) :
    isBlank c = false ∧ c ≠ '{' ∧ c ≠ '}' ∧ c ≠ '/' := by
  simpa [isNameChar] using List.all_eq_true.1 h c hc

/-- Whether a character may stand in a label. -/
def isLabelChar (c : Char) : Bool :=
  !(['\n', ',', ';', '{', '}', '/'].contains c)

/-- A label of an enumeration. -/
@[mk_iff]
structure IsLabel (label : String) : Prop where
  ne_empty : label ≠ ""
  trimmed : trimmed label = label
  chars : label.toList.all isLabelChar = true

instance (label : String) : Decidable (IsLabel label) :=
  decidable_of_iff _ (isLabel_iff label).symm

theorem IsLabel.of_mem {label : String} (h : IsLabel label) {c : Char} (hc : c ∈ label.toList) :
    c ≠ '\n' ∧ c ≠ ',' ∧ c ≠ ';' ∧ c ≠ '{' ∧ c ≠ '}' ∧ c ≠ '/' := by
  simpa [isLabelChar] using List.all_eq_true.1 h.chars c hc

/-- A type or a name of a property. -/
@[mk_iff]
structure IsPropertyWord (word : String) : Prop where
  ne_empty : word ≠ ""
  ne_nullable : word ≠ "nullable"
  isWord : IsWord word

instance (word : String) : Decidable (IsPropertyWord word) :=
  decidable_of_iff _ (isPropertyWord_iff word).symm

end Source

open Source

/-- Whether a property can be printed: no keyword may be its type. -/
@[mk_iff]
structure Property.IsPrintable (property : Property) : Prop where
  type : IsPropertyWord property.type
  name : IsPropertyWord property.name
  not_keyword : property.type ∉ Keyword.all.map Keyword.spelling

instance (property : Property) : Decidable property.IsPrintable :=
  decidable_of_iff _ property.isPrintable_iff.symm

/-- Whether an entity can be printed. -/
@[mk_iff]
structure Entity.IsPrintable (entity : Entity) : Prop where
  name : IsName entity.name
  properties : ∀ property ∈ entity.properties, property.IsPrintable

instance (entity : Entity) : Decidable entity.IsPrintable :=
  decidable_of_iff _ entity.isPrintable_iff.symm

/-- Whether a value object can be printed. -/
@[mk_iff]
structure ValueObject.IsPrintable (valueObject : ValueObject) : Prop where
  name : IsName valueObject.name
  properties : ∀ property ∈ valueObject.properties, property.IsPrintable

instance (valueObject : ValueObject) : Decidable valueObject.IsPrintable :=
  decidable_of_iff _ valueObject.isPrintable_iff.symm

/-- Whether an enumeration can be printed. -/
@[mk_iff]
structure Enumeration.IsPrintable (enumeration : Enumeration) : Prop where
  name : IsName enumeration.name
  values : ∀ label ∈ enumeration.values, IsLabel label

instance (enumeration : Enumeration) : Decidable enumeration.IsPrintable :=
  decidable_of_iff _ enumeration.isPrintable_iff.symm

/-- Whether an aggregate can be printed, with all of its units. -/
@[mk_iff]
structure Aggregate.IsPrintable (aggregate : Aggregate) : Prop where
  name : IsName aggregate.name
  entities : ∀ entity ∈ aggregate.entities, entity.IsPrintable
  valueObjects : ∀ valueObject ∈ aggregate.valueObjects, valueObject.IsPrintable
  enums : ∀ enumeration ∈ aggregate.enums, enumeration.IsPrintable

instance (aggregate : Aggregate) : Decidable aggregate.IsPrintable :=
  decidable_of_iff _ aggregate.isPrintable_iff.symm

/-- Whether a context can be printed, with all of its aggregates. -/
@[mk_iff]
structure BoundedContext.IsPrintable (context : BoundedContext) : Prop where
  name : IsName context.name
  aggregates : ∀ aggregate ∈ context.aggregates, aggregate.IsPrintable

instance (context : BoundedContext) : Decidable context.IsPrintable :=
  decidable_of_iff _ context.isPrintable_iff.symm

/-- Whether a model can be printed. -/
def Model.IsPrintable (model : Model) : Prop :=
  ∀ context ∈ model.contexts, context.IsPrintable

instance (model : Model) : Decidable model.IsPrintable :=
  inferInstanceAs (Decidable (∀ context ∈ model.contexts, context.IsPrintable))

namespace Source

/-! ## Logical lines -/

/-- A text in which no comment starts. -/
structure IsCommentFree (s : List Char) : Prop where
  noLineComment : ¬ ['/', '/'] <:+: s
  noBlockComment : ¬ ['/', '*'] <:+: s

theorem isCommentFree_of_not_mem {s : List Char} (h : '/' ∉ s) : IsCommentFree s :=
  ⟨fun hpart => h (hpart.subset List.mem_cons_self),
    fun hpart => h (hpart.subset List.mem_cons_self)⟩

theorem IsCommentFree.of_isInfix {s t : List Char} (h : IsCommentFree t) (hpart : s <:+: t) :
    IsCommentFree s :=
  ⟨fun hline => h.noLineComment (hline.trans hpart),
    fun hblock => h.noBlockComment (hblock.trans hpart)⟩

/-- Where no comment starts, code is kept. -/
theorem stripComments_code_cons {c : Char} {rest : List Char} (hline : ¬ ['/', '/'] <+: c :: rest)
    (hblock : ¬ ['/', '*'] <+: c :: rest) :
    stripComments false (c :: rest) =
      (c :: (stripComments false rest).1, (stripComments false rest).2) := by
  rw [stripComments]
  · rintro after rfl rfl
    exact hline ⟨after, rfl⟩
  · rintro after rfl rfl
    exact hblock ⟨after, rfl⟩

/-- Where there is no comment, nothing is left out. -/
theorem IsCommentFree.stripComments_eq {s : List Char} (h : IsCommentFree s) :
    stripComments false s = (s, false) := by
  induction s with
  | nil => rfl
  | cons c rest ih =>
    have hrest := ih (h.of_isInfix (List.suffix_cons c rest).isInfix)
    rw [stripComments_code_cons (fun hline => h.noLineComment hline.isInfix)
      (fun hblock => h.noBlockComment hblock.isInfix), hrest]

/-- A line that is read as it was written: it holds no comment, and no blanks are at its ends. -/
structure IsLine (line : String) : Prop where
  ne_nil : line.toList ≠ []
  trim_eq : trim line.toList = line.toList
  noBreak : '\n' ∉ line.toList
  noComment : '/' ∉ line.toList

/-- It is enough to know the first and the last character of a line. -/
theorem isLine_of_ends {line : String} (hne : line.toList ≠ [])
    (hhead : ∀ c ∈ line.toList.head?, isBlank c = false)
    (hlast : ∀ c ∈ line.toList.getLast?, isBlank c = false)
    (hchars : ∀ c ∈ line.toList, c ≠ '\n' ∧ c ≠ '/') : IsLine line where
  ne_nil := hne
  trim_eq := IsTrimmed.trimWhere_eq ⟨hhead, hlast⟩
  noBreak := fun hmem => (hchars _ hmem).1 rfl
  noComment := fun hmem => (hchars _ hmem).2 rfl

/-- A line does not end in a blank. -/
theorem IsLine.getLast?_ne {line : String} (h : IsLine line) {c : Char} (hc : isBlank c = true) :
    line.toList.getLast? ≠ some c := by
  intro hlast
  have hblank : isBlank c = false := by
    exact (isTrimmed_iff.2 h.trim_eq).last c hlast
  rw [hc] at hblank
  exact absurd hblank.symm Bool.false_ne_true

section Indented

variable {found : List (String × String)}
  (hfound : ∀ entry ∈ found, IsIndent entry.1 ∧ IsLine entry.2)

include hfound in
/-- Printed lines are read back without their indentation. -/
theorem texts_scanLines (number : Nat) :
    (scanLines number false (found.map fun entry => entry.1.toList ++ entry.2.toList)).1.map
      Line.text = found.map Prod.snd := by
  induction found generalizing number with
  | nil => rfl
  | cons entry rest ih =>
    obtain ⟨hindent, hline⟩ := hfound entry List.mem_cons_self
    have hrest := ih (fun other hother => hfound other (List.mem_cons_of_mem entry hother))
      (number + 1)
    have hcode : '/' ∉ entry.1.toList ++ entry.2.toList := by
      rw [List.mem_append, not_or]
      exact ⟨fun hmem => absurd (hindent _ hmem).1 (by decide), hline.noComment⟩
    have htrim : trim (entry.1.toList ++ entry.2.toList) = entry.2.toList :=
      trim_append (fun c hc => (hindent c hc).1) hline.trim_eq
    simp [scanLines, (isCommentFree_of_not_mem hcode).stripComments_eq, htrim, hline.ne_nil, hrest]

include hfound in
/-- The logical lines of indented lines are these lines. -/
theorem texts_logicalLines_unlines :
    (logicalLines (unlines (found.map fun entry => entry.1 ++ entry.2))).map Line.text =
      found.map Prod.snd := by
  have hlines : ∀ raw ∈ found.map fun entry => entry.1.toList ++ entry.2.toList,
      '\n' ∉ raw ∧ raw.getLast? ≠ some '\r' := by
    intro raw hraw
    obtain ⟨entry, hentry, rfl⟩ := List.mem_map.1 hraw
    obtain ⟨hindent, hline⟩ := hfound entry hentry
    rw [List.mem_append, not_or, List.getLast?_append_of_ne_nil _ hline.ne_nil]
    exact ⟨⟨fun hmem => (hindent _ hmem).2 rfl, hline.noBreak⟩, hline.getLast?_ne (by decide)⟩
  have hraws : (found.map fun entry => entry.1 ++ entry.2).map String.toList =
      found.map fun entry => entry.1.toList ++ entry.2.toList := by
    simp
  rw [logicalLines, toList_unlines, hraws, lines_flatMap_append hlines, texts_scanLines hfound]

end Indented

/-! ## Printed lines -/

theorem isWord_spelling (keyword : Keyword) : IsWord keyword.spelling := by
  cases keyword <;> decide

theorem toList_openingLine (keyword : Keyword) (name : String) :
    (openingLine keyword name).toList =
      keyword.spelling.toList ++ ' ' :: (name.toList ++ [' ', '{']) := by
  simp [openingLine]

/-- A line is one if it starts with a keyword and a name, and does not end in a blank. -/
theorem isLine_of_opening {line : String} {keyword : Keyword} {name : String} {rest : List Char}
    (hname : IsName name)
    (hline : line.toList = keyword.spelling.toList ++ ' ' :: (name.toList ++ rest))
    (hlast : ∀ c ∈ line.toList.getLast?, isBlank c = false)
    (hrest : ∀ c ∈ rest, c ≠ '\n' ∧ c ≠ '/') : IsLine line := by
  have hkeyword := isWord_spelling keyword
  have hspelling : keyword.spelling.toList ≠ [] := by cases keyword <;> decide
  refine isLine_of_ends ?_ ?_ hlast ?_
  · rw [hline]
    exact List.append_ne_nil_of_left_ne_nil hspelling _
  · intro c hc
    rw [hline, List.head?_append_of_ne_nil _ hspelling] at hc
    exact isBlank_of_isAsciiWordChar (hkeyword c (List.mem_of_head? hc))
  · intro c hc
    rw [hline, List.mem_append, List.mem_cons, List.mem_append] at hc
    rcases hc with hc | rfl | hc | hc
    · exact ⟨fun heq => hkeyword.not_mem (by decide) (heq ▸ hc),
        fun heq => hkeyword.not_mem (by decide) (heq ▸ hc)⟩
    · decide
    · refine ⟨?_, (hname.of_mem hc).2.2.2⟩
      rintro rfl
      exact absurd (hname.of_mem hc).1 (by decide)
    · exact hrest c hc

theorem isLine_openingLine (keyword : Keyword) {name : String} (hname : IsName name) :
    IsLine (openingLine keyword name) := by
  have hlast : (openingLine keyword name).toList.getLast? = some '{' := by
    rw [openingLine, String.toList_append, List.getLast?_append_of_ne_nil _ (by decide)]
    decide
  refine isLine_of_opening hname (toList_openingLine keyword name) ?_ (by simp)
  rintro c hc
  cases hlast.symm.trans hc
  decide

theorem isLine_enumerationLine {enumeration : Enumeration} (h : enumeration.IsPrintable) :
    IsLine (enumerationLine enumeration) := by
  have hline : (enumerationLine enumeration).toList = Keyword.enumeration.spelling.toList ++
      ' ' :: (enumeration.name.toList ++
        ([' ', '{', ' '] ++ (joinWith ", " enumeration.values).toList ++ [' ', '}'])) := by
    simp [enumerationLine, toList_openingLine]
  have hcomma : ∀ c ∈ ", ".toList, c ≠ '\n' ∧ c ≠ '/' := by simp
  have hlabels : ∀ c ∈ (joinWith ", " enumeration.values).toList, c ≠ '\n' ∧ c ≠ '/' := by
    intro c hc
    rcases mem_joinWith hc with hc | ⟨label, hlabel, hc⟩
    · exact hcomma c hc
    · have hchars := (h.values label hlabel).of_mem hc
      exact ⟨hchars.1, hchars.2.2.2.2.2⟩
  have hlast : (enumerationLine enumeration).toList.getLast? = some '}' := by
    rw [enumerationLine, String.toList_append, List.getLast?_append_of_ne_nil _ (by decide)]
    decide
  refine isLine_of_opening h.name hline ?_
    (List.forall_mem_append.2 ⟨List.forall_mem_append.2 ⟨by simp, hlabels⟩, by simp⟩)
  rintro c hc
  cases hlast.symm.trans hc
  decide

theorem isLine_closingLine : IsLine closingLine :=
  ⟨by decide, by decide, by decide, by decide⟩

theorem isLine_rootMarker : IsLine rootMarker :=
  ⟨by decide, by decide, by decide, by decide⟩

end Source

end DomainForge
