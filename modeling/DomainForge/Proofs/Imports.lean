import DomainForge.Imports
import DomainForge.Php.Framework.ClassUnit
import Mathlib.Data.String.Basic

/-!
# What is imported

`Imports.Holds` says that a symbol stands in the group of a namespace. Every addition is described
by what it does to that relation (`holds_add`, `holds_addImports`), and the `use` statements are
its members written out (`Imports.mem_statements`), each once (`Imports.nodup_statements`).
-/

namespace DomainForge

/-! ## Sorted texts -/

theorem mem_insertSorted {s t : String} {texts : List String} :
    t ∈ insertSorted s texts ↔ t = s ∨ t ∈ texts := by
  induction texts with
  | nil => simp [insertSorted]
  | cons u rest ih =>
    simp only [insertSorted]
    split
    · simp
    · split
      · rename_i h
        subst h
        simp
      · simp only [List.mem_cons, ih]
        exact or_left_comm

theorem pairwise_insertSorted {s : String} {texts : List String} (h : texts.Pairwise (· < ·)) :
    (insertSorted s texts).Pairwise (· < ·) := by
  induction texts with
  | nil => simp [insertSorted]
  | cons u rest ih =>
    obtain ⟨hu, hrest⟩ := List.pairwise_cons.1 h
    simp only [insertSorted]
    split
    · rename_i hlt
      refine List.pairwise_cons.2 ⟨fun t ht => ?_, h⟩
      rcases List.mem_cons.1 ht with rfl | ht
      · exact hlt
      · exact lt_trans hlt (hu t ht)
    · rename_i hnlt
      split
      · exact h
      · rename_i hne
        refine List.pairwise_cons.2 ⟨fun t ht => ?_, ih hrest⟩
        rcases mem_insertSorted.1 ht with rfl | ht
        · exact lt_of_le_of_ne (not_lt.1 hnlt) (Ne.symm hne)
        · exact hu t ht

theorem mem_sortedUnique {t : String} {texts : List String} :
    t ∈ sortedUnique texts ↔ t ∈ texts := by
  unfold sortedUnique
  induction texts with
  | nil => simp
  | cons u rest ih => simp only [List.foldr_cons, mem_insertSorted, ih, List.mem_cons]

theorem pairwise_sortedUnique (texts : List String) : (sortedUnique texts).Pairwise (· < ·) := by
  unfold sortedUnique
  induction texts with
  | nil => exact List.Pairwise.nil
  | cons u rest ih => exact pairwise_insertSorted ih

namespace Imports

/-- A symbol stands in the group of a namespace. -/
def Holds (imports : Imports) (name symbol : String) : Prop :=
  ∃ symbols, (name, symbols) ∈ imports.groups ∧ symbol ∈ symbols

theorem not_holds_empty (name symbol : String) : ¬ Holds {} name symbol := by
  rintro ⟨symbols, h, -⟩
  exact absurd h List.not_mem_nil

/-- A group gains one symbol, and nothing else changes. -/
theorem exists_mem_addToGroup {name symbol other t : String}
    {groups : List (String × List String)} :
    (∃ symbols, (other, symbols) ∈ addToGroup name symbol groups ∧ t ∈ symbols) ↔
      (other = name ∧ t = symbol) ∨ ∃ symbols, (other, symbols) ∈ groups ∧ t ∈ symbols := by
  induction groups with
  | nil => simp [addToGroup]
  | cons group rest ih =>
    obtain ⟨first, found⟩ := group
    simp only [addToGroup]
    split
    · rename_i h
      subst h
      simp only [List.mem_cons, Prod.mk.injEq, or_and_right, exists_or, and_assoc,
        exists_and_left, exists_eq_left, mem_insertSorted]
      tauto
    · simp only [List.mem_cons, or_and_right, exists_or, ih]
      exact or_left_comm

/-- Adding a symbol makes it stand in the group of the trimmed namespace, and changes nothing
else. -/
theorem holds_add {imports : Imports} {name symbol other t : String} :
    (imports.add name symbol).Holds other t ↔
      (other = trimNamespace name ∧ t = symbol) ∨ imports.Holds other t :=
  exists_mem_addToGroup

/-- A statement is the full name of a symbol that is held. -/
theorem mem_statements {imports : Imports} {statement : String} :
    statement ∈ imports.statements ↔
      ∃ name symbol, imports.Holds name symbol ∧ statement = qualify name symbol := by
  unfold statements Holds
  rw [mem_sortedUnique]
  simp only [List.mem_flatMap, List.mem_map, Prod.exists]
  constructor
  · rintro ⟨name, symbols, hgroup, symbol, hsymbol, rfl⟩
    exact ⟨name, symbol, ⟨symbols, hgroup, hsymbol⟩, rfl⟩
  · rintro ⟨name, symbol, ⟨symbols, hgroup, hsymbol⟩, rfl⟩
    exact ⟨name, symbols, hgroup, symbol, hsymbol, rfl⟩

theorem nodup_statements (imports : Imports) : imports.statements.Nodup :=
  (pairwise_sortedUnique _).imp fun h => ne_of_lt h

end Imports

namespace Php

/-- A symbol as it is written in its group, with its other name if it has one. -/
def Import.written (found : Import) : String :=
  match found.newName with
  | none => found.symbol
  | some newName => found.symbol ++ " as " ++ newName

theorem Import.holds_addTo {found : Import} {imports : Imports} {name t : String} :
    (found.addTo imports).Holds name t ↔
      (name = trimNamespace found.namespaceName ∧ t = found.written) ∨ imports.Holds name t := by
  unfold Import.addTo Import.written
  cases found.newName with
  | none => exact Imports.holds_add
  | some newName => exact Imports.holds_add

/-- Adding symbols in order makes exactly those stand in their groups. -/
theorem holds_addImports {found : List Import} {imports : Imports} {name t : String} :
    (addImports imports found).Holds name t ↔
      (∃ symbol ∈ found, name = trimNamespace symbol.namespaceName ∧ t = symbol.written) ∨
        imports.Holds name t := by
  unfold addImports
  induction found generalizing imports with
  | nil => simp
  | cons symbol rest ih =>
    rw [List.foldl_cons, ih, Import.holds_addTo, List.exists_mem_cons_iff, or_assoc]
    exact or_left_comm

/-- The `use` statement of a symbol. -/
def Import.statement (found : Import) : String :=
  Imports.qualify (trimNamespace found.namespaceName) found.written

/-- Calls add their own statements to those there are. -/
theorem mem_statements_addImports {found : List Import} {imports : Imports} {statement : String} :
    statement ∈ (addImports imports found).statements ↔
      statement ∈ imports.statements ∨ ∃ symbol ∈ found, statement = symbol.statement := by
  simp only [Imports.mem_statements, holds_addImports]
  constructor
  · rintro ⟨name, t, ⟨symbol, hsymbol, rfl, rfl⟩ | hholds, rfl⟩
    · exact .inr ⟨symbol, hsymbol, rfl⟩
    · exact .inl ⟨name, t, hholds, rfl⟩
  · rintro (⟨name, t, hholds, rfl⟩ | ⟨symbol, hsymbol, rfl⟩)
    · exact ⟨name, t, .inr hholds, rfl⟩
    · exact ⟨_, _, .inl ⟨symbol, hsymbol, rfl, rfl⟩, rfl⟩

end Php

end DomainForge
