import DomainForge.Proofs.Imports
import DomainForge.Proofs.Plan
import Mathlib.Data.List.Sort

/-!
# The order of imports does not matter

What has been imported is known from the calls that were made: which symbols stand in which group
(`holds_calls`), and hence which `use` statements there are (`mem_statements_calls`). Since these
are sorted, they are the same for all lists of calls with the same members (`Collects.congr`). Only
the order of the groups tells which namespace was used first (`pairwise_names`).
-/

namespace DomainForge

/-- A namespace with backslashes at its ends, and the same without them. -/
structure IsTrimOf (trimmed name : String) : Prop where
  isTrimmed : Text.IsTrimmed (· == '\\') trimmed.toList
  surrounded : ∃ before after : Nat,
    name.toList = List.replicate before '\\' ++ trimmed.toList ++ List.replicate after '\\'

theorem exists_replicate_backslash {s : List Char} (h : ∀ c ∈ s, isBackslash c = true) :
    ∃ count, s = List.replicate count '\\' :=
  ⟨s.length, List.eq_replicate_iff.2 ⟨rfl, fun c hc => beq_iff_eq.1 (h c hc)⟩⟩

/-- Being what is left of a name without outer backslashes is what trimming computes. -/
theorem isTrimOf_iff {trimmed name : String} :
    IsTrimOf trimmed name ↔ trimmed = trimNamespace name := by
  constructor
  · rintro ⟨htrimmed, before, after, hname⟩
    have hbackslash (count : Nat) : ∀ c ∈ List.replicate count '\\', isBackslash c = true :=
      fun c hc => beq_iff_eq.2 (List.eq_of_mem_replicate hc)
    have htrim : Text.trimWhere isBackslash trimmed.toList = trimmed.toList :=
      Text.IsTrimmed.trimWhere_eq htrimmed
    rw [trimNamespace, hname, Text.trimWhere_append (hbackslash before) (hbackslash after), htrim,
      String.ofList_toList]
  · rintro rfl
    refine ⟨isTrimmed_trimNamespace name, ?_⟩
    -- the front is dropped first, and the tail of what is left after it
    obtain ⟨tail, hrest, htail⟩ :=
      Text.exists_eq_dropTail_append isBackslash (name.toList.dropWhile isBackslash)
    obtain ⟨before, hbefore⟩ := exists_replicate_backslash
      (s := name.toList.takeWhile isBackslash) fun c hc => List.mem_takeWhile_imp hc
    obtain ⟨after, hafter⟩ := exists_replicate_backslash htail
    refine ⟨before, after, ?_⟩
    have htrim : (trimNamespace name).toList =
        Text.dropTail isBackslash (name.toList.dropWhile isBackslash) := String.toList_ofList
    rw [htrim, ← hbefore, ← hafter, List.append_assoc, ← hrest, List.takeWhile_append_dropWhile]

namespace Imports

/-! ## One symbol -/

/-- The namespaces that symbols are imported from. -/
def names (imports : Imports) : List String :=
  imports.groups.map (·.1)

theorem map_fst_addToGroup (name symbol : String) (groups : List (String × List String)) :
    (addToGroup name symbol groups).map (·.1) =
      if name ∈ groups.map (·.1) then groups.map (·.1) else groups.map (·.1) ++ [name] := by
  induction groups with
  | nil => simp [addToGroup]
  | cons group rest ih =>
    obtain ⟨other, symbols⟩ := group
    simp only [addToGroup]
    by_cases hother : other = name
    · simp [hother]
    · have hname : ¬ name = other := fun h => hother h.symm
      rw [if_neg hother, List.map_cons, ih]
      by_cases hmem : name ∈ rest.map (·.1)
      · simp only [List.map_cons, List.mem_cons, hmem, or_true, if_true]
      · simp only [List.map_cons, List.mem_cons, hmem, hname, or_self, if_false, List.cons_append]

theorem names_add (imports : Imports) (name symbol : String) :
    (imports.add name symbol).names =
      if trimNamespace name ∈ imports.names then imports.names
      else imports.names ++ [trimNamespace name] :=
  map_fst_addToGroup (trimNamespace name) symbol imports.groups

/-- Every group is sorted. -/
def AllSorted (imports : Imports) : Prop :=
  ∀ group ∈ imports.groups, group.2.Pairwise (· < ·)

theorem AllSorted.add {imports : Imports} (h : imports.AllSorted) (name symbol : String) :
    (imports.add name symbol).AllSorted := by
  obtain ⟨groups⟩ := imports
  unfold AllSorted Imports.add at *
  simp only at h ⊢
  induction groups with
  | nil =>
    intro group hgroup
    rw [List.mem_singleton.1 hgroup]
    exact List.pairwise_singleton _ _
  | cons first rest ih =>
    obtain ⟨other, symbols⟩ := first
    obtain ⟨hfirst, hrest⟩ := List.forall_mem_cons.1 h
    rw [addToGroup]
    split
    · exact List.forall_mem_cons.2 ⟨pairwise_insertSorted hfirst, hrest⟩
    · exact List.forall_mem_cons.2 ⟨hfirst, ih hrest⟩

theorem has_iff_holds {imports : Imports} {name symbol : String} :
    imports.has name symbol = true ↔ imports.Holds (trimNamespace name) symbol := by
  unfold has Holds
  simp only [List.any_eq_true, Bool.and_eq_true, beq_iff_eq, List.contains_iff_mem]
  constructor
  · rintro ⟨⟨other, symbols⟩, hgroup, rfl, hsymbol⟩
    exact ⟨symbols, hgroup, hsymbol⟩
  · rintro ⟨symbols, hgroup, hsymbol⟩
    exact ⟨(_, symbols), hgroup, rfl, hsymbol⟩

end Imports

namespace Php

open Imports

/-! ## All calls -/

section Calls

variable {calls : List Import}

theorem addImports_concat (calls : List Import) (call : Import) :
    addImports {} (calls ++ [call]) =
      (addImports {} calls).add call.namespaceName call.written := by
  unfold addImports
  rw [List.foldl_append, List.foldl_cons, List.foldl_nil, Import.addTo, Import.written]
  cases call.newName <;> rfl

theorem allSorted_addImports (calls : List Import) : (addImports {} calls).AllSorted := by
  induction calls using List.reverseRecOn with
  | nil => exact fun group hgroup => absurd hgroup List.not_mem_nil
  | append_singleton calls call ih =>
    rw [addImports_concat]
    exact ih.add _ _

/-- What the collection holds after some calls is what was asked for. -/
theorem holds_calls {name symbol : String} :
    (addImports {} calls).Holds name symbol ↔
      ∃ call ∈ calls, IsTrimOf name call.namespaceName ∧ symbol = call.written := by
  simp only [holds_addImports, isTrimOf_iff, not_holds_empty, or_false]

/-- The namespaces of the calls, in order. -/
def usedNames (calls : List Import) : List String :=
  calls.map fun call => trimNamespace call.namespaceName

theorem mem_names_iff {name : String} :
    name ∈ (addImports {} calls).names ↔ name ∈ usedNames calls := by
  induction calls using List.reverseRecOn with
  | nil => exact Iff.rfl
  | append_singleton calls call ih =>
    rw [addImports_concat, names_add, usedNames, List.map_append, List.mem_append, ← usedNames,
      ← ih]
    simp only [List.map_cons, List.map_nil, List.mem_singleton]
    split
    · rename_i hmem
      refine ⟨.inl, ?_⟩
      rintro (h | rfl)
      · exact h
      · exact hmem
    · rw [List.mem_append, List.mem_singleton]

/-- A namespace is listed before another if it was used before it. -/
theorem pairwise_names :
    (addImports {} calls).names.Pairwise fun name other =>
      (usedNames calls).idxOf name < (usedNames calls).idxOf other := by
  induction calls using List.reverseRecOn with
  | nil => exact List.Pairwise.nil
  | append_singleton calls call ih =>
    have hused : usedNames (calls ++ [call]) =
        usedNames calls ++ [trimNamespace call.namespaceName] := List.map_append
    have hkeep {name : String} (h : name ∈ (addImports {} calls).names) :
        (usedNames (calls ++ [call])).idxOf name = (usedNames calls).idxOf name := by
      rw [hused, List.idxOf_append_of_mem (mem_names_iff.1 h)]
    have hearlier : (addImports {} calls).names.Pairwise fun name other =>
        (usedNames (calls ++ [call])).idxOf name < (usedNames (calls ++ [call])).idxOf other := by
      refine ih.imp_of_mem fun hname hother hlt => ?_
      rwa [hkeep hname, hkeep hother]
    rw [addImports_concat, names_add]
    split
    · exact hearlier
    · rename_i hnew
      refine List.pairwise_append.2 ⟨hearlier, List.pairwise_singleton _ _, ?_⟩
      intro name hname other hother
      obtain rfl := List.mem_singleton.1 hother
      rw [hkeep hname, hused, List.idxOf_append_of_notMem fun h => hnew (mem_names_iff.2 h)]
      have hlt := List.idxOf_lt_length_of_mem (mem_names_iff.1 hname)
      omega

theorem nodup_names : (addImports {} calls).names.Nodup :=
  pairwise_names.imp fun {name other} hlt (heq : name = other) =>
    absurd (heq ▸ hlt) (lt_irrefl _)

theorem mem_group_iff {name : String} {symbols : List String}
    (h : (name, symbols) ∈ (addImports {} calls).groups) {symbol : String} :
    symbol ∈ symbols ↔ (addImports {} calls).Holds name symbol := by
  refine ⟨fun hsymbol => ⟨symbols, h, hsymbol⟩, ?_⟩
  rintro ⟨others, hothers, hsymbol⟩
  have heq : (name, others) = (name, symbols) := List.inj_on_of_nodup_map nodup_names hothers h rfl
  rwa [← (Prod.mk.inj heq).2]

end Calls

/-- The `use` statement that a call asks for: the symbol, with its other name if it has one, behind
the namespace without backslashes at its ends. -/
def Import.Asks (call : Import) (statement : String) : Prop :=
  ∃ name, IsTrimOf name call.namespaceName ∧
    statement = if name = "" then call.written else name ++ "\\" ++ call.written

/-- The statements are those that calls have asked for. -/
theorem mem_statements_calls {calls : List Import} {statement : String} :
    statement ∈ (addImports {} calls).statements ↔ ∃ call ∈ calls, call.Asks statement := by
  rw [Imports.mem_statements]
  simp only [holds_calls]
  constructor
  · rintro ⟨name, symbol, ⟨call, hcall, hname, rfl⟩, rfl⟩
    exact ⟨call, hcall, name, hname, rfl⟩
  · rintro ⟨call, hcall, name, hname, rfl⟩
    exact ⟨name, call.written, ⟨call, hcall, hname, rfl⟩, rfl⟩

/-- A symbol is found if a call has asked for it, whatever outer backslashes its namespace had. -/
theorem has_calls_iff {calls : List Import} {name symbol : String} :
    (addImports {} calls).has name symbol = true ↔
      ∃ call ∈ calls, (∃ trimmed, IsTrimOf trimmed call.namespaceName ∧ IsTrimOf trimmed name) ∧
        symbol = call.written := by
  rw [has_iff_holds, holds_calls]
  simp only [isTrimOf_iff, exists_eq_left, eq_comm]

/-- What calls have collected. -/
structure Collects (calls : List Import) (imports : Imports) : Prop where
  /-- Statements are sorted by code points, and none stands there twice. -/
  increasing : imports.statements.Pairwise (· < ·)
  mem_statements_iff : ∀ statement, statement ∈ imports.statements ↔
    ∃ call ∈ calls, call.Asks statement
  has_iff : ∀ name symbol, imports.has name symbol = true ↔
    ∃ call ∈ calls, (∃ trimmed, IsTrimOf trimmed call.namespaceName ∧ IsTrimOf trimmed name) ∧
      symbol = call.written
  /-- There is a group for every namespace that was used. -/
  mem_names_iff : ∀ name, name ∈ imports.names ↔ ∃ call ∈ calls, IsTrimOf name call.namespaceName
  nodup_names : imports.names.Nodup
  /-- The groups stand in the order of their first use. -/
  firstUse : imports.names.Pairwise fun name other =>
    (usedNames calls).idxOf name < (usedNames calls).idxOf other
  /-- A group holds what was imported from its namespace, sorted. -/
  groups : ∀ group ∈ imports.groups, group.2.Pairwise (· < ·) ∧ ∀ symbol, symbol ∈ group.2 ↔
    ∃ call ∈ calls, IsTrimOf group.1 call.namespaceName ∧ symbol = call.written

theorem collects_addImports (calls : List Import) : Collects calls (addImports {} calls) where
  increasing := pairwise_sortedUnique _
  mem_statements_iff _ := mem_statements_calls
  has_iff _ _ := has_calls_iff
  mem_names_iff name := by
    rw [mem_names_iff, usedNames, List.mem_map]
    simp only [isTrimOf_iff, eq_comm]
  nodup_names := nodup_names
  firstUse := pairwise_names
  groups group hgroup :=
    ⟨allSorted_addImports calls group hgroup, fun _ => (mem_group_iff hgroup).trans holds_calls⟩

/-- Imports that were collected from the same calls answer alike. -/
theorem Collects.congr {calls others : List Import} {imports more : Imports}
    (h : Collects calls imports) (hmore : Collects others more)
    (hcalls : ∀ call, call ∈ calls ↔ call ∈ others) :
    imports.statements = more.statements ∧ imports.has = more.has := by
  constructor
  · refine h.increasing.eq_of_mem_iff hmore.increasing fun statement => ?_
    simp only [h.mem_statements_iff, hmore.mem_statements_iff, hcalls]
  · funext name symbol
    rw [Bool.eq_iff_iff]
    simp only [h.has_iff, hmore.has_iff, hcalls]

/-- **Imports are a set.** Whatever symbols are imported in whatever order, the statements are
exactly those of the calls, in increasing order, and a symbol is there if and only if it has been
imported. Calls that are permuted or repeated change neither; all that depends on their order is
the order of the groups, which is that of their first use. -/
theorem addImports_collects (calls : List Import) :
    Collects calls (addImports {} calls) ∧
      ∀ others : List Import, (∀ call, call ∈ calls ↔ call ∈ others) →
        (addImports {} calls).statements = (addImports {} others).statements ∧
          (addImports {} calls).has = (addImports {} others).has :=
  ⟨collects_addImports calls, fun others hcalls =>
    (collects_addImports calls).congr (collects_addImports others) hcalls⟩

/-- Two imports that meet in one statement, and one under another name. -/
def meetingImports : List Import :=
  [{ namespaceName := "\\Doctrine\\", symbol := "ORM\\Mapping", newName := some "ORM" },
    { namespaceName := "App\\Models", symbol := "Order" },
    { namespaceName := "App", symbol := "Models\\Order" }]

/-- Two orders of the same calls, one of them with repeats. -/
theorem addImports_collects_meeting :
    (∀ call, call ∈ meetingImports ↔ call ∈ meetingImports.reverse ++ meetingImports) ∧
      (addImports {} meetingImports).statements =
        (addImports {} (meetingImports.reverse ++ meetingImports)).statements ∧
      (addImports {} meetingImports).statements =
        ["App\\Models\\Order", "Doctrine\\ORM\\Mapping as ORM"] := by
  have hsame (call : Import) :
      call ∈ meetingImports ↔ call ∈ meetingImports.reverse ++ meetingImports := by
    rw [List.mem_append, List.mem_reverse, or_self]
  exact ⟨hsame, ((addImports_collects meetingImports).2 _ hsame).1, by decide +kernel⟩

end Php

end DomainForge
