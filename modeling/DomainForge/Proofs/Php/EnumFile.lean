import DomainForge.Php.Assembly
import DomainForge.Proofs.Code.Lines
import DomainForge.Proofs.Naming
import Mathlib.Data.List.Nodup

/-!
# Files of enumerations

An enumeration is written with one line for each label. The line holds the name of the case twice,
as its name and between quotes as its value, and nothing in a name has to be escaped
(`enumFile_writesCases`).

A label's name disregards case and signs. So names are legal and distinct for labels that are more
than that apart (`caseNames_legal_distinct`), but not for all labels that differ
(`caseNames_clash`).
-/

namespace DomainForge.Php

open Text Naming
open CodeWriter (text_writeAll margin)
open Fragment (allLinesAt linesAt allLinesAt_append allLinesAt_map_line)

/-- What stands for a character between single quotes. -/
def escapedChar (c : Char) : List Char :=
  if c = '\'' ∨ c = '\\' then ['\\', c] else [c]

/-- The literal of a text in single quotes. -/
def singleQuoted (text : String) : String :=
  "'" ++ String.ofList (text.toList.flatMap escapedChar) ++ "'"

/-- The lines of a file without imports down to its first declaration. -/
def openingLines (namespaceName : String) : List String :=
  let name := trimNamespace namespaceName
  ["<?php", "", "declare(strict_types=1);"] ++
    (if name = "" then [] else ["", "namespace " ++ name ++ ";"]) ++ [""]

/-- The names of the cases that a file declares. -/
def File.caseNames (file : File) : List String :=
  file.declarations.flatMap fun
    | .enumDecl decl => decl.cases.map (·.name)
    | .classDecl _ => []

theorem singleQuoted_of_isCaseName {name : String} (h : IsCaseName name) :
    singleQuoted name = "'" ++ name ++ "'" := by
  have hplain : name.toList.flatMap escapedChar = name.toList := by
    apply flatMap_eq_self
    intro c hc
    apply if_neg
    have hcase := h c hc
    rintro (rfl | rfl) <;> exact absurd hcase (by decide)
  rw [singleQuoted, hplain, String.ofList_toList]

/-- The line of a case one level deep. -/
def caseLine (label : String) : String :=
  "    case " ++ caseIdentifier label ++ " = '" ++ caseIdentifier label ++ "';"

theorem margin_append_render_caseOf (label : String) :
    margin .standard 1 ++ (caseOf label).render = caseLine label := by
  have hmargin : margin .standard 1 = "    " := rfl
  rw [← String.toList_inj]
  simp [hmargin, CaseDecl.render, caseOf, assigned, caseLine, toString]

/-- The lines of an enumeration: a header, and a case for every label. -/
theorem allLinesAt_enumOf (name : String) (enumeration : Enumeration) :
    allLinesAt .standard 0 (enumOf name enumeration).fragments =
      ["enum " ++ name ++ ": string", "\x7b"] ++ enumeration.values.map caseLine ++ ["\x7d"] := by
  have hcases : allLinesAt .standard 1
      ((enumOf name enumeration).cases.map fun found => Fragment.line found.render) =
      enumeration.values.map caseLine := by
    have hlines : ((enumOf name enumeration).cases.map fun found => Fragment.line found.render) =
        (enumeration.values.map fun label => (caseOf label).render).map Fragment.line := by
      simp [enumOf]
    rw [hlines, allLinesAt_map_line, List.map_map]
    exact List.map_congr_left fun label _ => margin_append_render_caseOf label
  have hmargin : margin .standard 0 = "" := rfl
  simp only [EnumDecl.fragments, braced, allLinesAt_append, allLinesAt, linesAt, hcases, hmargin,
    String.empty_append]
  simp [docFragments, enumOf, EnumDecl.header, allLinesAt]

theorem render_enumFile (placement : Placement) (enumeration : Enumeration) :
    (enumFile placement enumeration).render =
      unlines (openingLines placement.namespaceName ++
        allLinesAt .standard 0 (enumOf placement.finalName enumeration).fragments) := by
  have hopening : allLinesAt .standard 0 (File.preamble ++
      (enumFile placement enumeration).namespacePart ++ [.blank]) =
      openingLines placement.namespaceName := by
    by_cases hname : trimNamespace placement.namespaceName = "" <;>
      simp [File.preamble, File.namespacePart, enumFile, openingLines, hname, allLinesAt, linesAt,
        margin, toString]
  have himports : (enumFile placement enumeration).importPart = [] := rfl
  have hdeclarations : (enumFile placement enumeration).declarations =
      [.enumDecl (enumOf placement.finalName enumeration)] := rfl
  rw [File.render, text_writeAll, ← hopening, ← allLinesAt_append, File.fragments, himports,
    hdeclarations]
  simp [Declaration.fragments]

/-- **Lines of cases.** A case name is the label in upper case with underscores for its signs. It
consists of capitals, digits and underscores, is empty for the empty label only, and is its own case
name. So an enumeration has one line for each label, in the order of the labels, and the name
between the quotes is what the literal stands for. -/
theorem enumFile_writesCases (placement : Placement) (enumeration : Enumeration) :
    (∀ label, (caseIdentifier label).toList = (upper label.toList).map caseChar ∧
      IsCaseName (caseIdentifier label) ∧
      (caseIdentifier label = "" ↔ label = "") ∧
      caseIdentifier (caseIdentifier label) = caseIdentifier label ∧
      singleQuoted (caseIdentifier label) = "'" ++ caseIdentifier label ++ "'") ∧
    (enumFile placement enumeration).render =
      unlines (openingLines placement.namespaceName ++
        ["enum " ++ placement.finalName ++ ": string", "\x7b"] ++
        enumeration.values.map caseLine ++ ["\x7d"]) := by
  constructor
  · intro label
    have hname := isCaseName_caseIdentifier label
    exact ⟨toList_caseIdentifier label, hname, caseIdentifier_eq_empty_iff,
      caseIdentifier_eq_self hname, singleQuoted_of_isCaseName hname⟩
  · rw [render_enumFile, allLinesAt_enumOf]
    simp only [List.append_assoc]

/-! ## Distinct names -/

theorem caseNames_enumFile (placement : Placement) (enumeration : Enumeration) :
    (enumFile placement enumeration).caseNames = enumeration.values.map caseIdentifier := by
  simp [File.caseNames, enumFile, enumOf, caseOf]

/-- **Legal and distinct cases.** A label that does not start with a digit has a legal case name.
Case names are distinct exactly when any two labels differ in more than case and signs. -/
theorem caseNames_legal_distinct (placement : Placement) (enumeration : Enumeration)
    (hlabels : ∀ label ∈ enumeration.values, label ≠ "") :
    ((∀ label ∈ enumeration.values, label.toList.head?.any isAsciiDigit = false) →
      ∀ name ∈ (enumFile placement enumeration).caseNames, isIdentifier name = true) ∧
    ((enumFile placement enumeration).caseNames.Nodup ↔
      enumeration.values.Pairwise fun first second => ¬ LookAlike first second) := by
  rw [caseNames_enumFile]
  constructor
  · intro hdigits name hname
    obtain ⟨label, hlabel, rfl⟩ := List.mem_map.1 hname
    exact isIdentifier_caseIdentifier (hlabels label hlabel) (hdigits label hlabel)
  · rw [List.Nodup, List.pairwise_map]
    simp only [ne_eq, caseIdentifier_eq_iff]

/-- An enumeration whose labels stay apart. -/
def status : Enumeration where
  name := "Status"
  values := ["Active", "pending-review", "café"]

/-- Where the file of its class goes. -/
def statusPlacement : Placement where
  finalName := "Status"
  path := "Status.php"
  namespaceName := "App\\Models"

theorem caseNames_legal_distinct_status :
    (∀ label ∈ status.values, label ≠ "") ∧
    (∀ label ∈ status.values, label.toList.head?.any isAsciiDigit = false) ∧
    (∀ name ∈ (enumFile statusPlacement status).caseNames, isIdentifier name = true) ∧
    (status.values.Pairwise fun first second => ¬ LookAlike first second) ∧
    (enumFile statusPlacement status).caseNames.Nodup := by
  have hlabels : ∀ label ∈ status.values, label ≠ "" := by decide
  have hdigits : ∀ label ∈ status.values, label.toList.head?.any isAsciiDigit = false := by
    decide
  have hapart : status.values.Pairwise fun first second => ¬ LookAlike first second := by
    decide +kernel
  obtain ⟨hlegal, hdistinct⟩ := caseNames_legal_distinct statusPlacement status hlabels
  exact ⟨hlabels, hdigits, hlegal hdigits, hapart, hdistinct.2 hapart⟩

/-- An enumeration with two labels that look alike. -/
def grade : Enumeration where
  name := "Grade"
  values := ["first-class", "first_class", "2nd"]

/-- Where the file of its class goes. -/
def gradePlacement : Placement where
  finalName := "Grade"
  path := "Grade.php"
  namespaceName := "App\\Models"

/-- Labels that only signs tell apart get the same name, and a digit stays in front. -/
theorem caseNames_clash :
    (∀ label ∈ grade.values, label ≠ "") ∧ grade.values.Nodup ∧
    (enumFile gradePlacement grade).caseNames = ["FIRST_CLASS", "FIRST_CLASS", "2ND"] ∧
    ¬ (∀ name ∈ (enumFile gradePlacement grade).caseNames, isIdentifier name = true) ∧
    ¬ (enumFile gradePlacement grade).caseNames.Nodup := by
  decide +kernel

end DomainForge.Php
