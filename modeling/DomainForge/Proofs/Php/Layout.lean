import DomainForge.Php.Render
import DomainForge.Proofs.Code.Layout
import DomainForge.Proofs.Imports

/-!
# The layout of a file

A file is tidy if its texts keep to their lines (`File.KeepsToLines`): no text has braces or line
ends, and what fills a line is not empty. Each part of a declaration is either flat or enclosed in
braces, the sections of a class are joined by empty lines, and a file is joined from its parts in
the same way (`fragments_eq`). So the text of every file has balanced braces, with one outermost
pair for each declaration, and its empty lines divide it (`File.render_isWellLaidOut`).
-/

namespace DomainForge.Php

open Fragment Text
open CodeWriter (margin text_writeAll)

/-! ## Texts -/

/-- The texts of a property, with those above it. -/
def PropertyDecl.texts (property : PropertyDecl) : List String :=
  property.name :: property.type :: (property.default.toList ++ property.doc ++ property.attributes)

/-- The texts of a parameter. -/
def Param.texts (param : Param) : List String :=
  param.name :: param.type :: param.default.toList

/-- The texts of a parameter of a constructor, which may declare a property. -/
def ConstructorParam.texts : ConstructorParam → List String
  | plain param => param.texts
  | promoted property => property.texts

/-- The texts of a parameter that fill lines of their own. -/
def ConstructorParam.ownLines : ConstructorParam → List String
  | plain _ => []
  | promoted property => property.attributes

/-- The texts of a constructor. -/
def ConstructorDecl.texts (constructor : ConstructorDecl) : List String :=
  constructor.params.flatMap ConstructorParam.texts ++ constructor.body

/-- The texts of a constructor that fill lines of their own. -/
def ConstructorDecl.ownLines (constructor : ConstructorDecl) : List String :=
  constructor.params.flatMap ConstructorParam.ownLines ++ constructor.body

/-- The texts of a method. -/
def MethodDecl.texts (method : MethodDecl) : List String :=
  method.name :: (method.params.flatMap Param.texts ++ method.returns.toList ++ method.body ++
    method.doc)

/-- The texts of a class and of all its members. -/
def ClassDecl.texts (decl : ClassDecl) : List String :=
  decl.name :: (decl.doc ++ decl.attributes ++ decl.parent.toList ++
    decl.properties.flatMap PropertyDecl.texts ++
    decl.constructor.toList.flatMap ConstructorDecl.texts ++ decl.methods.flatMap MethodDecl.texts)

/-- The texts of a class that fill lines of their own: attributes and statements. -/
def ClassDecl.ownLines (decl : ClassDecl) : List String :=
  decl.attributes ++ decl.properties.flatMap PropertyDecl.attributes ++
    decl.constructor.toList.flatMap ConstructorDecl.ownLines ++
    decl.methods.flatMap MethodDecl.body

/-- The texts of an enumeration and of its cases. -/
def EnumDecl.texts (decl : EnumDecl) : List String :=
  decl.name :: (decl.doc ++ decl.backing.toList ++
    decl.cases.flatMap fun found => found.name :: found.value.toList)

/-- The texts of a declaration: all that is not spelled by the language. -/
def Declaration.texts : Declaration → List String
  | classDecl decl => decl.texts
  | enumDecl decl => decl.texts

/-- The texts of a declaration that fill a line: attributes and statements. -/
def Declaration.ownLines : Declaration → List String
  | classDecl decl => decl.ownLines
  | enumDecl _ => []

/-- The texts of a file. -/
def File.texts (file : File) : List String :=
  file.namespaceName :: (file.imports.groups.flatMap fun group => group.1 :: group.2) ++
    file.declarations.flatMap Declaration.texts

/-- Texts that keep to their lines: none has braces or line ends, and those that fill a line are
not empty. -/
structure KeepToLines (texts ownLines : List String) : Prop where
  inline : ∀ text ∈ texts, isInline text = true
  filled : ∀ text ∈ ownLines, text ≠ ""

/-- What holds of a whole holds of each of its members. -/
theorem KeepToLines.of_mem {texts ownLines : List String} (h : KeepToLines texts ownLines)
    {α : Type} {f g : α → List String} {items : List α} (hf : items.flatMap f ⊆ texts)
    (hg : items.flatMap g ⊆ ownLines) {item : α} (hitem : item ∈ items) :
    KeepToLines (f item) (g item) where
  inline := fun text htext => h.inline text (hf (List.mem_flatMap.2 ⟨item, hitem, htext⟩))
  filled := fun text htext => h.filled text (hg (List.mem_flatMap.2 ⟨item, hitem, htext⟩))

/-- Texts that keep to lines are flat where they fill lines. -/
theorem KeepToLines.areFlat {texts ownLines found : List String} (h : KeepToLines texts ownLines)
    (htexts : found ⊆ texts) (hlines : found ⊆ ownLines) : AreFlat found :=
  fun text htext => ⟨h.filled text (hlines htext), h.inline text (htexts htext)⟩

/-! ## Lines of declarations -/

theorem Visibility.isInline_keyword (visibility : Visibility) :
    isInline visibility.keyword = true := by
  cases visibility <;> decide

theorem isInline_assigned {value : Option String}
    (h : ∀ text ∈ value.toList, isInline text = true) : isInline (assigned value) = true := by
  cases value with
  | none => decide
  | some text => simp +decide [assigned, h text (by simp)]

theorem PropertyDecl.isInline_render {property : PropertyDecl}
    (h : ∀ text ∈ property.texts, isInline text = true) : isInline property.render = true := by
  have hname := h property.name (by simp [texts])
  have htype := h property.type (by simp [texts])
  have hdefault : isInline (assigned property.default) = true :=
    isInline_assigned fun text htext => h text (by simp_all [texts])
  have hreadonly : isInline (if property.isReadonly then " readonly" else "") = true := by
    split <;> decide
  have htype : isInline (if property.type = "" then "" else " " ++ property.type) = true := by
    split
    · decide
    · simp +decide [htype]
  simp +decide [render, Visibility.isInline_keyword, hreadonly, htype, hname, hdefault]

theorem Param.isInline_render {param : Param} (h : ∀ text ∈ param.texts, isInline text = true) :
    isInline param.render = true := by
  have hname := h param.name (by simp [texts])
  have htype := h param.type (by simp [texts])
  have hdefault : isInline (assigned param.default) = true :=
    isInline_assigned fun text htext => h text (by simp_all [texts])
  have htype : isInline (if param.type = "" then "" else param.type ++ " ") = true := by
    split
    · decide
    · simp +decide [htype]
  simp +decide [render, htype, hname, hdefault]

theorem ConstructorParam.isInline_render {param : ConstructorParam}
    (h : ∀ text ∈ param.texts, isInline text = true) : isInline param.render = true := by
  cases param with
  | plain param => exact Param.isInline_render h
  | promoted property => exact PropertyDecl.isInline_render h

theorem allFlat_docFragments {doc : List String} (h : ∀ text ∈ doc, isInline text = true) :
    AllFlat (docFragments doc) := by
  unfold docFragments
  split
  · exact fun _ _ _ hline => absurd hline List.not_mem_nil
  · exact allFlat_doc h

theorem PropertyDecl.allFlat_annotations {property : PropertyDecl}
    (h : KeepToLines property.texts property.attributes) : AllFlat property.annotations := by
  refine (allFlat_docFragments fun text htext => ?_).append (allFlat_map_line (h.areFlat ?_ ?_))
  · exact h.inline text (by simp [texts, htext])
  · intro text htext
    simp [texts, htext]
  · exact List.Subset.refl _

/-- A property and what stands above it are flat. -/
theorem PropertyDecl.allFlat_fragments {property : PropertyDecl}
    (h : KeepToLines property.texts property.attributes) : AllFlat property.fragments := by
  refine (allFlat_annotations h).append (allFlat_line (by simp) ?_)
  simp +decide [isInline_render h.inline]

theorem ConstructorParam.allFlat_fragments {param : ConstructorParam}
    (h : KeepToLines param.texts param.ownLines) : AllFlat param.fragments := by
  have hline : AllFlat [.line (param.render ++ ",")] := by
    refine allFlat_line (by simp) ?_
    simp +decide [isInline_render h.inline]
  cases param with
  | plain param => exact hline
  | promoted property => exact (PropertyDecl.allFlat_annotations h).append hline

/-! ## Sections -/

theorem allLinesAt_braced (indent : Indent) (level : Nat) (body : List Fragment) :
    allLinesAt indent level [braced body] =
      (margin indent level ++ "\x7b") ::
        (allLinesAt indent (level + 1) body ++ [margin indent level ++ "\x7d"]) := by
  simp [braced, allLinesAt, linesAt]

theorem isSection_braced {body : List Fragment} (h : AllTidy body) : IsSection [braced body] where
  allTidy := by
    intro indent level
    rw [allLinesAt_braced]
    exact (h indent (level + 1)).enclosed (isInline_margin indent level)
      (isInline_margin indent level)
  ne_nil := by
    intro indent level
    rw [allLinesAt_braced]
    exact List.cons_ne_nil _ _

theorem PropertyDecl.isSection_fragments {property : PropertyDecl}
    (h : KeepToLines property.texts property.attributes) : IsSection property.fragments where
  allTidy := (allFlat_fragments h).allTidy
  ne_nil := by
    intro indent level
    rw [fragments, allLinesAt_append]
    exact List.append_ne_nil_of_right_ne_nil _ (List.cons_ne_nil _ _)

/-- Properties can stand below any section: there is an empty line, or both sides are written
below one another. -/
theorem isSection_append_propertiesAfter {properties : List PropertyDecl}
    (h : ∀ property ∈ properties, KeepToLines property.texts property.attributes)
    {before : List Fragment} (hbefore : IsSection before) (previous : PropertyDecl) :
    IsSection (before ++ propertiesAfter previous properties) := by
  induction properties generalizing before previous with
  | nil => rwa [propertiesAfter, List.append_nil]
  | cons property rest ih =>
    have hproperty := PropertyDecl.isSection_fragments (h property List.mem_cons_self)
    have hrest (other : PropertyDecl) (hother : other ∈ rest) :=
      h other (List.mem_cons_of_mem property hother)
    rw [propertiesAfter]
    split
    · have heq : before ++ ([.blank] ++ property.fragments ++ propertiesAfter property rest) =
          (before ++ .blank :: property.fragments) ++ propertiesAfter property rest := by
        simp
      rw [heq]
      exact ih hrest (hbefore.append_blank hproperty) property
    · have heq : before ++ ([] ++ property.fragments ++ propertiesAfter property rest) =
          (before ++ property.fragments) ++ propertiesAfter property rest := by
        simp
      rw [heq]
      exact ih hrest (hproperty.below hbefore.allTidy) property

/-- Properties make a section, with or without blank lines between them. -/
theorem isSection_propertyFragments {properties : List PropertyDecl} (hne : properties ≠ [])
    (h : ∀ property ∈ properties, KeepToLines property.texts property.attributes) :
    IsSection (propertyFragments properties) := by
  obtain ⟨property, rest, rfl⟩ := List.exists_cons_of_ne_nil hne
  have hproperty := PropertyDecl.isSection_fragments (h property List.mem_cons_self)
  exact isSection_append_propertiesAfter
    (fun other hother => h other (List.mem_cons_of_mem property hother)) hproperty property

/-- A constructor is a section. -/
theorem ConstructorDecl.isSection_fragments {constructor : ConstructorDecl}
    (h : KeepToLines constructor.texts constructor.ownLines) :
    IsSection constructor.fragments := by
  have hparam (param : ConstructorParam) (hmem : param ∈ constructor.params) :
      KeepToLines param.texts param.ownLines :=
    h.of_mem (List.subset_append_left _ _) (List.subset_append_left _ _) hmem
  have hbody : AllFlat (constructor.body.map Fragment.line) :=
    allFlat_map_line (h.areFlat (List.subset_append_right _ _) (List.subset_append_right _ _))
  rw [fragments]
  split
  · -- The parameters stand on lines of their own, and the brace is behind their parenthesis.
    have hparams : AllFlat (constructor.params.flatMap ConstructorParam.fragments) :=
      .flatMap fun param hmem => param.allFlat_fragments (hparam param hmem)
    have hopening : AllFlat [.line "public function __construct("] :=
      allFlat_line (by decide) (by decide)
    have hblock : IsSection [.line (") " ++ "\x7b"),
        .indent (constructor.body.map Fragment.line), .line "\x7d"] :=
      .enclosed (by decide) hbody.allTidy
    exact (hblock.below hparams.allTidy.indent).below hopening.allTidy
  · have hline : isInline (joinWith ", " (constructor.params.map ConstructorParam.render)) = true :=
      isInline_joinWith (by decide) fun text htext => by
        obtain ⟨param, hmem, rfl⟩ := List.mem_map.1 htext
        exact param.isInline_render (hparam param hmem).inline
    have hopening : AllFlat [.line ("public function __construct(" ++
        joinWith ", " (constructor.params.map ConstructorParam.render) ++ ")")] :=
      allFlat_line (by simp) (by simp +decide [hline])
    exact (isSection_braced hbody.allTidy).below hopening.allTidy

theorem MethodDecl.isInline_signature {method : MethodDecl}
    (h : ∀ text ∈ method.texts, isInline text = true) : isInline method.signature = true := by
  have hname := h method.name (by simp [texts])
  have hparams : isInline (joinWith ", " (method.params.map Param.render)) = true :=
    isInline_joinWith (by decide) fun text htext => by
      obtain ⟨param, hmem, rfl⟩ := List.mem_map.1 htext
      refine param.isInline_render fun text htext => h text ?_
      have htext : text ∈ method.params.flatMap Param.texts :=
        List.mem_flatMap.2 ⟨param, hmem, htext⟩
      simp only [texts, List.mem_cons, List.mem_append, htext, true_or, or_true]
  cases hreturns : method.returns with
  | none =>
    simp +decide [signature, hreturns, Visibility.isInline_keyword, hname, hparams]
  | some type =>
    have htype := h type (by simp [texts, hreturns])
    simp +decide [signature, hreturns, Visibility.isInline_keyword, hname, hparams, htype]

theorem MethodDecl.isSection_fragments {method : MethodDecl}
    (h : KeepToLines method.texts method.body) : IsSection method.fragments := by
  have hdoc : AllFlat (docFragments method.doc) :=
    allFlat_docFragments fun text htext => h.inline text (by simp [texts, htext])
  have hsignature : AllFlat [.line method.signature] := by
    refine allFlat_line ?_ (method.isInline_signature h.inline)
    simp [signature]
  have hbody : AllFlat (method.body.map Fragment.line) := by
    refine allFlat_map_line (h.areFlat (fun text htext => ?_) (List.Subset.refl _))
    simp [texts, htext]
  exact ((isSection_braced hbody.allTidy).below hsignature.allTidy).below hdoc.allTidy

theorem joinSections_cons (part : List Fragment) (rest : List (List Fragment)) :
    joinSections (part :: rest) = part ++ rest.flatMap (.blank :: ·) := by
  induction rest generalizing part with
  | nil => simp [joinSections]
  | cons next others ih => simp [joinSections, ih]

/-- Sections with blank lines between them are tidy. -/
theorem allTidy_joinSections {parts : List (List Fragment)} (h : ∀ part ∈ parts, IsSection part) :
    AllTidy (joinSections parts) := by
  cases parts with
  | nil => exact fun _ _ => .of_areFlat fun _ hline => absurd hline List.not_mem_nil
  | cons part rest =>
    rw [joinSections_cons]
    exact ((h part List.mem_cons_self).append_sections
      fun other hother => h other (List.mem_cons_of_mem part hother)).allTidy

/-- Each part of a class is a section. -/
theorem ClassDecl.isSection_of_mem_sections {decl : ClassDecl}
    (h : KeepToLines decl.texts decl.ownLines) : ∀ part ∈ decl.sections, IsSection part := by
  intro part hpart
  rw [sections, List.mem_append, List.mem_append] at hpart
  rcases hpart with (hpart | hpart) | hpart
  · split at hpart
    · exact absurd hpart List.not_mem_nil
    · rename_i hne
      obtain rfl := List.mem_singleton.1 hpart
      refine isSection_propertyFragments (by simpa using hne) fun property => h.of_mem ?_ ?_
      · intro text htext
        simp only [texts, List.mem_cons, List.mem_append, htext, true_or, or_true]
      · intro text htext
        simp only [ownLines, List.mem_append, htext, true_or, or_true]
  · obtain ⟨constructor, hmem, rfl⟩ : ∃ constructor ∈ decl.constructor.toList,
        constructor.fragments = part := by
      simpa using hpart
    refine constructor.isSection_fragments (h.of_mem ?_ ?_ hmem)
    · intro text htext
      simp only [texts, List.mem_cons, List.mem_append, htext, true_or, or_true]
    · intro text htext
      simp only [ownLines, List.mem_append, htext, true_or, or_true]
  · obtain ⟨method, hmem, rfl⟩ := List.mem_map.1 hpart
    refine method.isSection_fragments (h.of_mem ?_ ?_ hmem)
    · intro text htext
      simp only [texts, List.mem_cons, List.mem_append, htext, or_true]
    · intro text htext
      simp only [ownLines, List.mem_append, htext, or_true]

/-! ## Declarations -/

theorem ClassDecl.isInline_header {decl : ClassDecl}
    (h : ∀ text ∈ decl.texts, isInline text = true) : isInline decl.header = true := by
  have hname := h decl.name (by simp [texts])
  have hfinal : isInline (if decl.isFinal then "final " else "") = true := by
    split <;> decide
  have hreadonly : isInline (if decl.isReadonly then "readonly " else "") = true := by
    split <;> decide
  cases hparent : decl.parent with
  | none => simp +decide [header, hparent, hfinal, hreadonly, hname]
  | some parent =>
    have htext := h parent (by simp [texts, hparent])
    simp +decide [header, hparent, hfinal, hreadonly, hname, htext]

theorem EnumDecl.isInline_header {decl : EnumDecl}
    (h : ∀ text ∈ decl.texts, isInline text = true) : isInline decl.header = true := by
  have hname := h decl.name (by simp [texts])
  cases hbacking : decl.backing with
  | none => simp +decide [header, hbacking, hname]
  | some type =>
    have htype := h type (by simp [texts, hbacking])
    simp +decide [header, hbacking, hname, htype]

/-- A declaration is a heading and a body between braces. -/
theorem Declaration.exists_fragments_eq {unit : Declaration}
    (h : KeepToLines unit.texts unit.ownLines) : ∃ heading body,
      unit.fragments = heading ++ [braced body] ∧ AllFlat heading ∧ AllTidy body := by
  cases unit with
  | classDecl decl =>
    have h : KeepToLines decl.texts decl.ownLines := h
    refine ⟨docFragments decl.doc ++ decl.attributes.map .line ++ [.line decl.header],
      joinSections decl.sections, ?_, ?_, ?_⟩
    · simp [fragments, ClassDecl.fragments]
    · have hdoc : AllFlat (docFragments decl.doc) :=
        allFlat_docFragments fun text htext => h.inline text (by simp [ClassDecl.texts, htext])
      have hattributes : AllFlat (decl.attributes.map .line) := by
        refine allFlat_map_line (h.areFlat (fun text htext => ?_) fun text htext => ?_)
        · simp [ClassDecl.texts, htext]
        · simp [ClassDecl.ownLines, htext]
      have hheader : AllFlat [.line decl.header] := by
        refine allFlat_line ?_ (decl.isInline_header h.inline)
        simp [ClassDecl.header]
      exact (hdoc.append hattributes).append hheader
    · exact allTidy_joinSections (ClassDecl.isSection_of_mem_sections h)
  | enumDecl decl =>
    have h : KeepToLines decl.texts [] := h
    refine ⟨docFragments decl.doc ++ [.line decl.header],
      decl.cases.map fun found => .line found.render, ?_, ?_, ?_⟩
    · simp [fragments, EnumDecl.fragments]
    · have hdoc : AllFlat (docFragments decl.doc) :=
        allFlat_docFragments fun text htext => h.inline text (by simp [EnumDecl.texts, htext])
      have hheader : AllFlat [.line decl.header] := by
        refine allFlat_line ?_ (decl.isInline_header h.inline)
        simp [EnumDecl.header]
      exact hdoc.append hheader
    · have hcases : AllFlat ((decl.cases.map CaseDecl.render).map .line) := by
        refine allFlat_map_line fun line hline => ?_
        obtain ⟨found, hmem, rfl⟩ := List.mem_map.1 hline
        have hinline (text : String) (htext : text ∈ found.name :: found.value.toList) :
            isInline text = true := by
          refine h.inline text (List.mem_cons_of_mem _ (List.mem_append_right _ ?_))
          exact List.mem_flatMap.2 ⟨found, hmem, htext⟩
        have hvalue : isInline (assigned found.value) = true :=
          isInline_assigned fun text htext => hinline text (List.mem_cons_of_mem _ htext)
        have hname := hinline found.name List.mem_cons_self
        exact ⟨by simp [CaseDecl.render], by simp +decide [CaseDecl.render, hname, hvalue]⟩
      rw [List.map_map] at hcases
      exact hcases.allTidy

/-- The text of a declaration. -/
def Declaration.text (unit : Declaration) (indent : Indent) : String :=
  (CodeWriter.writeAll { indent := indent } unit.fragments).text

section Declaration

variable {unit : Declaration} (h : KeepToLines unit.texts unit.ownLines)

include h

theorem Declaration.isSection_fragments : IsSection unit.fragments := by
  obtain ⟨heading, body, hfragments, hheading, hbody⟩ := exists_fragments_eq h
  rw [hfragments]
  exact (isSection_braced hbody).below hheading.allTidy

/-- A declaration is written as a block. -/
theorem Declaration.isBlock_text (indent : Indent) : IsBlock (unit.text indent).toList := by
  obtain ⟨heading, body, hfragments, hheading, hbody⟩ := exists_fragments_eq h
  rw [text, text_writeAll, hfragments, allLinesAt_append, allLinesAt_braced]
  exact isBlock_enclosed (hbody indent 1) (isInline_margin indent 0) (isInline_margin indent 0)
    (hheading indent 0)

end Declaration

/-! ## Files -/

/-- A file whose texts keep to their lines. -/
def File.KeepsToLines (file : File) : Prop :=
  KeepToLines file.texts (file.declarations.flatMap Declaration.ownLines)

namespace File

/-- What stands above the declarations of a file. -/
def opening (file : File) : List Fragment :=
  preamble ++ file.namespacePart ++ file.importPart

/-- The text of a file up to the end of some of its declarations. -/
def textUpTo (file : File) (indent : Indent) (units : List Declaration) : List Char :=
  (CodeWriter.writeAll { indent := indent } file.opening).text.toList ++
    units.flatMap fun unit => '\n' :: (unit.text indent).toList

/-- The parts of the opening below its first line. -/
def openingParts (file : File) : List (List Fragment) :=
  let name := trimNamespace file.namespaceName
  let statements := file.imports.statements
  [.line "declare(strict_types=1);"] ::
    ((if name = "" then [] else [[.line ("namespace " ++ name ++ ";")]]) ++
      if statements.isEmpty then []
      else [(statements.map fun statement => "use " ++ statement ++ ";").map .line])

theorem opening_eq (file : File) :
    file.opening = [.line "<?php"] ++ file.openingParts.flatMap (.blank :: ·) := by
  by_cases hname : trimNamespace file.namespaceName = "" <;>
    by_cases hstatements : file.imports.statements.isEmpty = true <;>
      simp [opening, preamble, namespacePart, importPart, openingParts, hname, hstatements,
        toString]

/-- A file is its opening and its declarations, with blank lines between them. -/
theorem fragments_eq (file : File) :
    file.fragments = file.opening ++
      (file.declarations.map Declaration.fragments).flatMap (.blank :: ·) := by
  rw [fragments, opening, List.flatMap_map]

theorem isInline_of_mem_statements {imports : Imports} {statement : String}
    (h : ∀ group ∈ imports.groups, ∀ text ∈ group.1 :: group.2, isInline text = true)
    (hstatement : statement ∈ imports.statements) : isInline statement = true := by
  obtain ⟨name, symbol, ⟨symbols, hgroup, hsymbol⟩, rfl⟩ := Imports.mem_statements.1 hstatement
  have hname : isInline name = true := h _ hgroup name List.mem_cons_self
  have hsymbol : isInline symbol = true := h _ hgroup symbol (List.mem_cons_of_mem name hsymbol)
  unfold Imports.qualify
  split
  · exact hsymbol
  · simp +decide [hname, hsymbol]

section KeepsToLines

variable {file : File} (h : file.KeepsToLines)

include h

theorem isSection_of_mem_openingParts : ∀ part ∈ file.openingParts, IsSection part := by
  have hname : isInline (trimNamespace file.namespaceName) = true := by
    refine isInline_of_subset (h.inline file.namespaceName (by simp [texts])) fun c hc => ?_
    rw [trimNamespace, String.toList_ofList] at hc
    exact mem_of_mem_trimWhere hc
  intro part hpart
  rcases List.mem_cons.1 hpart with rfl | hpart
  · exact .line (by decide) (by decide)
  rcases List.mem_append.1 hpart with hpart | hpart
  · split at hpart
    · exact absurd hpart List.not_mem_nil
    · obtain rfl := List.mem_singleton.1 hpart
      exact .line (by simp) (by simp +decide [hname])
  · split at hpart
    · exact absurd hpart List.not_mem_nil
    · rename_i hne
      obtain rfl := List.mem_singleton.1 hpart
      refine .map_line (by simpa using hne) fun line hline => ?_
      obtain ⟨statement, hstatement, rfl⟩ := List.mem_map.1 hline
      have hstatement : isInline statement = true := by
        refine isInline_of_mem_statements (fun group hgroup text htext => ?_) hstatement
        refine h.inline text (List.mem_append_left _ (List.mem_cons_of_mem _ ?_))
        exact List.mem_flatMap.2 ⟨group, hgroup, htext⟩
      exact ⟨by simp, by simp +decide [hstatement]⟩

theorem isSection_opening : IsSection file.opening := by
  rw [opening_eq]
  exact (IsSection.line (by decide) (by decide)).append_sections (isSection_of_mem_openingParts h)

theorem keepToLines_of_mem {unit : Declaration} (hunit : unit ∈ file.declarations) :
    KeepToLines unit.texts unit.ownLines :=
  h.of_mem (List.subset_append_right _ _) (List.Subset.refl _) hunit

theorem isSection_fragments : IsSection file.fragments := by
  rw [fragments_eq]
  refine (isSection_opening h).append_sections fun part hpart => ?_
  obtain ⟨unit, hunit, rfl⟩ := List.mem_map.1 hpart
  exact Declaration.isSection_fragments (keepToLines_of_mem h hunit)

/-- Up to each declaration, braces are balanced. -/
theorem hasBalancedBraces_textUpTo (indent : Indent) {units : List Declaration}
    (hunits : units ⊆ file.declarations) : HasBalancedBraces (file.textUpTo indent units) := by
  refine HasBalancedBraces.append ?_ (.flatMap fun unit hunit => ?_)
  · rw [text_writeAll]
    exact ((isSection_opening h).allTidy indent 0).balanced
  · have hblock := Declaration.isBlock_text (keepToLines_of_mem h (hunits hunit)) indent
    exact HasBalancedBraces.lineBreak.append hblock.hasBalancedBraces

end KeepsToLines

theorem toList_unlines_units (indent : Indent) (units : List Declaration) :
    (unlines (allLinesAt indent 0
      ((units.map Declaration.fragments).flatMap (.blank :: ·)))).toList =
      units.flatMap fun unit => '\n' :: (unit.text indent).toList := by
  induction units with
  | nil => rfl
  | cons unit rest ih =>
    have hunit : (unlines (allLinesAt indent 0 (.blank :: unit.fragments))).toList =
        '\n' :: (unit.text indent).toList := by
      rw [Declaration.text, text_writeAll]
      simp [allLinesAt, linesAt, toList_unlines]
    rw [List.map_cons, List.flatMap_cons, allLinesAt_append, unlines_append, String.toList_append,
      hunit, ih, List.flatMap_cons]

/-- The text of a file, declaration by declaration. -/
theorem toList_render (file : File) (indent : Indent) :
    (file.render indent).toList = file.textUpTo indent file.declarations := by
  rw [render, textUpTo, text_writeAll, text_writeAll, fragments_eq, allLinesAt_append,
    unlines_append, String.toList_append, toList_unlines_units]

/-- How the text of a file is laid out. -/
structure IsWellLaidOut (file : File) (indent : Indent) : Prop where
  starts : "<?php\n\ndeclare(strict_types=1);\n".toList <+: (file.render indent).toList
  /-- The declarations stand one below the other. -/
  reads : (file.render indent).toList = file.textUpTo indent file.declarations
  neverBelow : ∀ before after, before ++ after = (file.render indent).toList →
    before.count '}' ≤ before.count '{'
  /-- At the end of each declaration all braces are closed. -/
  settled : ∀ units later, units ++ later = file.declarations →
    (file.textUpTo indent units).count '{' = (file.textUpTo indent units).count '}'
  opens : ∀ unit ∈ file.declarations, '{' ∈ (unit.text indent).toList
  /-- Inside a declaration all braces are closed only before the first and after the last. -/
  inside : ∀ earlier unit later, earlier ++ unit :: later = file.declarations →
    ∀ before after, before ++ after = (unit.text indent).toList →
      (file.textUpTo indent earlier ++ '\n' :: before).count '{' =
        (file.textUpTo indent earlier ++ '\n' :: before).count '}' →
      '{' ∉ before ∨ '}' ∉ after
  spaced : (finishedLines (file.render indent)).IsChain MayFollow
  ends : file.declarations ≠ [] → ['}', '\n'] <:+ (file.render indent).toList

/-- **Files are well laid out.** Whatever a file declares, as long as its texts keep to their lines
its braces match, with one outermost pair for each declaration, and each of its empty lines stands
between two things that it divides. -/
theorem render_isWellLaidOut (file : File) (indent : Indent) (h : file.KeepsToLines) :
    file.IsWellLaidOut indent where
  starts := by
    have hlines : allLinesAt indent 0 file.fragments =
        ["<?php", "", "declare(strict_types=1);"] ++ allLinesAt indent 0 (file.namespacePart ++
          file.importPart ++ file.declarations.flatMap fun unit => .blank :: unit.fragments) := by
      rw [fragments, List.append_assoc, List.append_assoc, allLinesAt_append, List.append_assoc]
      rfl
    rw [render, text_writeAll, hlines, unlines_append, String.toList_append]
    exact List.prefix_append _ _
  reads := file.toList_render indent
  neverBelow := by
    rw [toList_render]
    exact (hasBalancedBraces_textUpTo h indent (List.Subset.refl _)).neverBelow
  settled := by
    intro units later hunits
    have hsubset : units ⊆ file.declarations := hunits ▸ List.subset_append_left units later
    exact (hasBalancedBraces_textUpTo h indent hsubset).settled
  opens := by
    intro unit hunit
    exact (Declaration.isBlock_text (keepToLines_of_mem h hunit) indent).opening_mem
  inside := by
    intro earlier unit later hunits before after htext hsettled
    have hunit : unit ∈ file.declarations :=
      hunits ▸ List.mem_append_right earlier List.mem_cons_self
    have hsubset : earlier ⊆ file.declarations := hunits ▸ List.subset_append_left earlier _
    have hearlier := (hasBalancedBraces_textUpTo h indent hsubset).settled
    -- What stands above the declaration is settled, so the count can start with it.
    have hbefore : before.count '{' = before.count '}' := by
      rw [List.count_append, List.count_append, List.count_cons_of_ne (by decide),
        List.count_cons_of_ne (by decide)] at hsettled
      omega
    exact (Declaration.isBlock_text (keepToLines_of_mem h hunit) indent).not_mem_of_settled
      htext hbefore
  spaced := by
    have htidy := (isSection_fragments h).allTidy indent 0
    rw [render, text_writeAll, finishedLines_unlines htidy.noBreak]
    exact htidy.chain
  ends := by
    intro hne
    obtain ⟨earlier, unit, hunits⟩ := (List.eq_nil_or_concat file.declarations).resolve_left hne
    have hunit : unit ∈ file.declarations := by simp [hunits]
    rw [toList_render, textUpTo, hunits, List.concat_eq_append, List.flatMap_append,
      List.flatMap_singleton]
    have hblock := Declaration.isBlock_text (keepToLines_of_mem h hunit) indent
    exact (hblock.closing_suffix.trans (List.suffix_cons _ _)).trans
      ((List.suffix_append _ _).trans (List.suffix_append _ _))

/-- An entity with every kind of section, and an enumeration. -/
def orderFile : File where
  namespaceName := "App\\Sales\\"
  imports :=
    { groups := [("Doctrine\\ORM\\Mapping", ["ORM", "Table as Relation"]), ("", ["Money"])] }
  declarations := [
    .classDecl {
      name := "Order", doc := ["An order.", "", "It has lines."], attributes := ["#[Entity]"]
      isFinal := true, parent := some "Record"
      properties := [
        { name := "id", type := "int", attributes := ["#[Id]", "#[Column]"] },
        { name := "lines", type := "array", default := some "[]" },
        { name := "total", type := "", doc := ["Money"] }]
      constructor := some
        { params := [.plain { name := "id", type := "int" },
            .promoted { name := "status", type := "Status", attributes := ["#[Column]"] }]
          body := ["$this->id = $id;"] }
      methods := [{ name := "getId", returns := some "int", body := ["return $this->id;"] },
        { name := "close", params := [{ name := "at", type := "Date", default := some "null" }] }]
    },
    .enumDecl { name := "Status", backing := some "string",
                cases := [{ name := "OPEN", value := some "'open'" }] }]

theorem render_isWellLaidOut_orderFile :
    orderFile.KeepsToLines ∧ orderFile.IsWellLaidOut .tab := by
  have hkeeps : orderFile.KeepsToLines := ⟨by decide, by decide⟩
  exact ⟨hkeeps, render_isWellLaidOut orderFile .tab hkeeps⟩

end File

end DomainForge.Php
