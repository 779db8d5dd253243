import DomainForge.Proofs.Php.NameReading
import Mathlib.Data.List.Forall2
import Mathlib.Data.List.Nodup

/-!
# References denote what they were resolved to

The properties of a class are looked up one after another, and each may add an import. The
invariant `References.Sound` ties the table of short names to the collected imports: they hold the
same symbols, every short name has one namespace, and none is the name of the class or comes from
the file's own namespace or the global one. It is kept by every step (`Sound.resolve`) and so by
a whole run (`Sound.resolveAll`).

A name that was written early is still right at the end, because imports are never taken back
(`imported_subset_resolveAll`) and a sound table binds no name twice (`Sound.bindsOnly`). Which
unit is imported under a name is known exactly: the first one that the properties refer to
(`mem_imported_resolveAll`).
-/

namespace DomainForge

/-- A unit with a word for a name and a namespace without backslashes at its ends. -/
structure UnitInfo.IsPlain (info : UnitInfo) : Prop where
  word : Text.IsWord info.finalName
  trimmed : trimNamespace info.namespaceName = info.namespaceName

/-- Every registered unit is plain. -/
def Registry.IsPlain (registry : Registry) : Prop :=
  ∀ entry ∈ registry.units, entry.2.IsPlain

theorem Registry.mem_candidates {registry : Registry} {name : String} {info : UnitInfo} :
    info ∈ registry.candidates name ↔ (name, info) ∈ registry.units := by
  unfold Registry.candidates
  simp only [List.mem_map, List.mem_filter, beq_iff_eq, Prod.exists]
  constructor
  · rintro ⟨other, found, ⟨hmem, rfl⟩, rfl⟩
    exact hmem
  · intro hmem
    exact ⟨name, info, ⟨hmem, rfl⟩, rfl⟩

/-- What is looked up has been registered under that name. -/
theorem Registry.mem_of_lookup? {registry : Registry} {name context aggregate : String}
    {info : UnitInfo} (h : registry.lookup? name context aggregate = some info) :
    (name, info) ∈ registry.units := by
  unfold Registry.lookup? at h
  rw [← Registry.mem_candidates]
  rcases Option.or_eq_some_iff.1 h with h | ⟨-, h⟩
  · exact List.mem_of_find?_eq_some h
  · rcases Option.or_eq_some_iff.1 h with h | ⟨-, h⟩
    · exact List.mem_of_find?_eq_some h
    · exact List.mem_of_head? h

namespace Php.References

theorem mem_of_target? {references : References} {type : String} {info : UnitInfo}
    (h : references.target? type = some info) : (type, info) ∈ references.registry.units := by
  unfold target? at h
  split at h
  · cases h
  · exact Registry.mem_of_lookup? h

/-- The unit that a property refers to. -/
def targetOf? (references : References) (property : Property) : Option UnitInfo :=
  references.target? (Text.trimmed property.type)

/-- The unit that a property refers to, if it can be imported: it stands in a namespace that is
neither the file's own nor the global one. -/
def foreign? (references : References) (property : Property) : Option UnitInfo :=
  (references.targetOf? property).filter fun info =>
    info.namespaceName != references.namespaceName && info.namespaceName != ""

/-- The first unit with a name that properties refer to and that can be imported. -/
def firstForeign? (references : References) (name : String) (properties : List Property) :
    Option UnitInfo :=
  properties.findSome? fun property =>
    (references.foreign? property).filter (·.finalName == name)

/-- A property refers to another namespace if its unit is neither of the own one nor of the global
one. -/
theorem foreign?_eq_some_iff {references : References} {property : Property} {info : UnitInfo} :
    references.foreign? property = some info ↔
      references.targetOf? property = some info ∧
        info.namespaceName ≠ references.namespaceName ∧ info.namespaceName ≠ "" := by
  simp [foreign?, Option.filter_eq_some_iff]

/-! ## One step -/

theorem resolve_eq_of_none {references : References} {property : Property}
    (h : references.targetOf? property = none) :
    references.resolve property =
      ({ property, reference := Text.trimmed property.type, target := none }, references) := by
  unfold targetOf? at h
  simp [resolve, h]

theorem resolve_eq_of_some {references : References} {property : Property} {info : UnitInfo}
    (h : references.targetOf? property = some info) :
    references.resolve property =
      ({ property, reference := (references.refer info).1, target := some info.kind },
        (references.refer info).2) := by
  unfold targetOf? at h
  simp [resolve, h]

/-- What looking up a property does to the imports: nothing, or one unit of another namespace is
imported whose name does not clash. -/
theorem resolve_cases (references : References) (property : Property) :
    (references.foreign? property = none ∧ (references.resolve property).2 = references) ∨
      ∃ info, references.foreign? property = some info ∧
        ((references.clashes info.finalName info.namespaceName = true ∧
            (references.resolve property).2 = references) ∨
          (references.clashes info.finalName info.namespaceName = false ∧
            (references.resolve property).2 = references.importUnit info)) := by
  cases htarget : references.targetOf? property with
  | none => simp [foreign?, htarget, resolve_eq_of_none htarget]
  | some info =>
    rw [resolve_eq_of_some htarget]
    by_cases hown : info.namespaceName = references.namespaceName
    · simp [foreign?, htarget, refer, hown]
    · by_cases hglobal : info.namespaceName = ""
      · have hfile : references.namespaceName ≠ "" := fun h => hown (hglobal.trans h.symm)
        simp [foreign?, htarget, refer, hglobal, hfile]
      · cases hclash : references.clashes info.finalName info.namespaceName <;>
          simp [foreign?, htarget, refer, hown, hglobal, hclash]

/-- A unit of the file's own namespace is written with its short name. -/
theorem reference_resolve_own {references : References} {property : Property} {info : UnitInfo}
    (htarget : references.targetOf? property = some info)
    (hown : info.namespaceName = references.namespaceName) :
    (references.resolve property).1.reference = info.finalName := by
  simp [resolve_eq_of_some htarget, refer, hown]

/-- A unit of another namespace is written with its full name, or with its short name once that is
imported. -/
theorem reference_resolve_other {references : References} {property : Property} {info : UnitInfo}
    (htarget : references.targetOf? property = some info)
    (hother : info.namespaceName ≠ references.namespaceName) :
    (references.resolve property).1.reference =
        fullName info.namespaceName info.finalName ∨
      ((references.resolve property).1.reference = info.finalName ∧
        (info.finalName, info.namespaceName) ∈ (references.resolve property).2.imported) := by
  rw [resolve_eq_of_some htarget]
  by_cases hclash : info.namespaceName = "" ∨
      references.clashes info.finalName info.namespaceName = true
  · left
    simp [refer, hother, hclash]
  · right
    simp [refer, hother, hclash, importUnit]

/-- Looking up a property changes nothing but the imports. -/
theorem resolve_frame (references : References) (property : Property) :
    ∃ imported imports,
      (references.resolve property).2 = { references with imported, imports } := by
  rcases resolve_cases references property with ⟨-, h⟩ | ⟨info, -, ⟨-, h⟩ | ⟨-, h⟩⟩
  · exact ⟨_, _, h⟩
  · exact ⟨_, _, h⟩
  · exact ⟨_, _, h⟩

/-- What a property refers to does not depend on what was resolved before. -/
theorem targetOf?_resolve (references : References) (property : Property) :
    (references.resolve property).2.targetOf? = references.targetOf? := by
  obtain ⟨imported, imports, h⟩ := resolve_frame references property
  rw [h]
  rfl

theorem foreign?_resolve (references : References) (property : Property) :
    (references.resolve property).2.foreign? = references.foreign? := by
  obtain ⟨imported, imports, h⟩ := resolve_frame references property
  rw [h]
  rfl

/-! ## The invariant -/

/-- A name that may be imported into a class: a word that is not the name of the class, from a
namespace that is neither the file's own nor the global one. -/
structure Importable (references : References) (name namespaceName : String) : Prop where
  word : Text.IsWord name
  ne_className : name ≠ references.className
  ne_own : namespaceName ≠ references.namespaceName
  ne_global : namespaceName ≠ ""

/-- The table of imported names and the collected imports agree, nothing is imported that may not
be, and no name is imported from two namespaces. -/
structure Sound (references : References) : Prop where
  registry : references.registry.IsPlain
  holds_iff : ∀ {namespaceName name : String},
    references.imports.Holds namespaceName name ↔ (name, namespaceName) ∈ references.imported
  importable : ∀ {name namespaceName : String}, (name, namespaceName) ∈ references.imported →
    references.Importable name namespaceName
  unique : ∀ {name namespaceName other : String}, (name, namespaceName) ∈ references.imported →
    (name, other) ∈ references.imported → namespaceName = other

theorem sound_of_fresh {references : References} (hregistry : references.registry.IsPlain)
    (himported : references.imported = []) (himports : references.imports = {}) :
    references.Sound where
  registry := hregistry
  holds_iff := by simp [himported, himports, Imports.not_holds_empty]
  importable h := by simp [himported] at h
  unique h := by simp [himported] at h

namespace Sound

variable {references : References} (hs : references.Sound)

include hs in
theorem clashes_iff {name namespaceName : String} :
    references.clashes name namespaceName = true ↔
      name = references.className ∨
        ∃ other, (name, other) ∈ references.imported ∧ other ≠ namespaceName := by
  unfold clashes
  simp only [Bool.or_eq_true, beq_iff_eq]
  apply or_congr_right
  cases hlookup : references.imported.lookup name with
  | none =>
    have hnone : ∀ other, (name, other) ∉ references.imported := by
      intro other hmem
      have := List.lookup_eq_none_iff.1 hlookup _ hmem
      simp at this
    simp [hnone]
  | some found =>
    have hfound : (name, found) ∈ references.imported := by
      obtain ⟨before, after, heq, -⟩ := List.lookup_eq_some_iff.1 hlookup
      rw [heq]
      simp
    simp only [Option.any_some, bne_iff_ne]
    constructor
    · intro hne
      exact ⟨found, hfound, hne⟩
    · rintro ⟨other, hother, hne⟩
      rwa [hs.unique hfound hother]

include hs in
/-- A name that does not clash is not that of the class, and is imported from no other namespace. -/
theorem free_of_clashes {name namespaceName : String}
    (h : references.clashes name namespaceName = false) :
    name ≠ references.className ∧
      ∀ other, (name, other) ∈ references.imported → namespaceName = other := by
  have hnot : ¬ (name = references.className ∨
      ∃ other, (name, other) ∈ references.imported ∧ other ≠ namespaceName) := by
    rw [← hs.clashes_iff, h]
    exact Bool.false_ne_true
  refine ⟨fun heq => hnot (.inl heq), fun other hmem => ?_⟩
  by_contra hne
  exact hnot (.inr ⟨other, hmem, Ne.symm hne⟩)

include hs in
/-- Importing a plain unit of another namespace whose name does not clash keeps the table sound. -/
theorem importUnit {info : UnitInfo} (hplain : info.IsPlain)
    (hown : info.namespaceName ≠ references.namespaceName) (hglobal : info.namespaceName ≠ "")
    (hclash : references.clashes info.finalName info.namespaceName = false) :
    (references.importUnit info).Sound := by
  obtain ⟨hclass, hfree⟩ := hs.free_of_clashes hclash
  refine ⟨hs.registry, ?_, ?_, ?_⟩
  · intro namespaceName name
    simp only [References.importUnit, Imports.holds_add, hs.holds_iff, hplain.trimmed,
      List.mem_cons, Prod.mk.injEq]
    rw [and_comm]
  · intro name namespaceName hmem
    rcases List.mem_cons.1 hmem with heq | hmem
    · obtain ⟨rfl, rfl⟩ := Prod.mk.inj heq
      exact ⟨hplain.word, hclass, hown, hglobal⟩
    · obtain ⟨hword, hname, hfile, hroot⟩ := hs.importable hmem
      exact ⟨hword, hname, hfile, hroot⟩
  · intro name namespaceName other hmem hother
    rcases List.mem_cons.1 hmem with heq | hmem <;> rcases List.mem_cons.1 hother with heq' | hother
    · exact (Prod.mk.inj heq).2.trans (Prod.mk.inj heq').2.symm
    · obtain ⟨rfl, rfl⟩ := Prod.mk.inj heq
      exact hfree other hother
    · obtain ⟨rfl, rfl⟩ := Prod.mk.inj heq'
      exact (hfree namespaceName hmem).symm
    · exact hs.unique hmem hother

include hs in
/-- Looking up a property keeps the table sound. -/
theorem resolve (property : Property) : (references.resolve property).2.Sound := by
  rcases resolve_cases references property with ⟨-, h⟩ | ⟨info, hforeign, ⟨-, h⟩ | ⟨hclash, h⟩⟩
  · rw [h]
    exact hs
  · rw [h]
    exact hs
  · obtain ⟨htarget, hown, hglobal⟩ := foreign?_eq_some_iff.1 hforeign
    rw [h]
    exact hs.importUnit (hs.registry _ (mem_of_target? htarget)) hown hglobal hclash

include hs in
/-- What is imported after a property has been looked up: what was imported before, and the unit
that the property refers to if its name was free. -/
theorem mem_imported_resolve {property : Property} {name namespaceName : String} :
    (name, namespaceName) ∈ (references.resolve property).2.imported ↔
      (name, namespaceName) ∈ references.imported ∨
        (name ≠ references.className ∧ (∀ other, (name, other) ∉ references.imported) ∧
          ∃ info, references.foreign? property = some info ∧ info.finalName = name ∧
            info.namespaceName = namespaceName) := by
  rcases resolve_cases references property with
    ⟨hnone, h⟩ | ⟨info, hforeign, ⟨hclash, h⟩ | ⟨hclash, h⟩⟩
  · rw [h]
    simp [hnone]
  · rw [h]
    constructor
    · exact .inl
    · rintro (hmem | ⟨hclass, hfree, found, hfound, rfl, rfl⟩)
      · exact hmem
      · obtain rfl : info = found := Option.some.inj (hforeign.symm.trans hfound)
        rcases hs.clashes_iff.1 hclash with heq | ⟨other, hother, -⟩
        · exact absurd heq hclass
        · exact absurd hother (hfree other)
  · obtain ⟨hclass, hfree⟩ := hs.free_of_clashes hclash
    rw [h]
    constructor
    · intro hmem
      rcases List.mem_cons.1 hmem with heq | hmem
      · obtain ⟨rfl, rfl⟩ := Prod.mk.inj heq
        by_cases hbound : ∃ other, (info.finalName, other) ∈ references.imported
        · obtain ⟨other, hother⟩ := hbound
          rw [hfree other hother]
          exact .inl hother
        · exact .inr ⟨hclass, not_exists.1 hbound, info, hforeign, rfl, rfl⟩
      · exact .inl hmem
    · rintro (hmem | ⟨-, -, found, hfound, rfl, rfl⟩)
      · exact List.mem_cons_of_mem _ hmem
      · obtain rfl : info = found := Option.some.inj (hforeign.symm.trans hfound)
        exact List.mem_cons_self

end Sound

/-! ## A whole run -/

@[simp] theorem resolveAll_nil (references : References) :
    references.resolveAll [] = ([], references) :=
  rfl

theorem resolveAll_cons (references : References) (property : Property)
    (rest : List Property) :
    references.resolveAll (property :: rest) =
      ((references.resolve property).1 :: ((references.resolve property).2.resolveAll rest).1,
        ((references.resolve property).2.resolveAll rest).2) :=
  rfl

/-- Looking up properties changes nothing but the imports. -/
theorem resolveAll_frame (references : References) (properties : List Property) :
    ∃ imported imports,
      (references.resolveAll properties).2 = { references with imported, imports } := by
  induction properties generalizing references with
  | nil => exact ⟨_, _, rfl⟩
  | cons property rest ih =>
    obtain ⟨_, _, hstep⟩ := resolve_frame references property
    obtain ⟨_, _, hrest⟩ := ih (references.resolve property).2
    rw [resolveAll_cons, hrest, hstep]
    exact ⟨_, _, rfl⟩

/-- Imports are never taken back. -/
theorem imported_subset_resolve (references : References) (property : Property) :
    references.imported ⊆ (references.resolve property).2.imported := by
  rcases resolve_cases references property with ⟨-, h⟩ | ⟨info, -, ⟨-, h⟩ | ⟨-, h⟩⟩
  · rw [h]
    exact List.Subset.refl _
  · rw [h]
    exact List.Subset.refl _
  · rw [h]
    exact List.subset_cons_self _ _

theorem imported_subset_resolveAll (references : References) (properties : List Property) :
    references.imported ⊆ (references.resolveAll properties).2.imported := by
  induction properties generalizing references with
  | nil => exact List.Subset.refl _
  | cons property rest ih =>
    rw [resolveAll_cons]
    exact List.Subset.trans (imported_subset_resolve references property) (ih _)

/-- Every sound table stays sound. -/
theorem Sound.resolveAll {references : References} (hs : references.Sound)
    (properties : List Property) : (references.resolveAll properties).2.Sound := by
  induction properties generalizing references with
  | nil => exact hs
  | cons property rest ih =>
    rw [resolveAll_cons]
    exact ih (hs.resolve property)

theorem firstForeign?_cons (references : References) (name : String) (property : Property)
    (rest : List Property) :
    references.firstForeign? name (property :: rest) =
      ((references.foreign? property).filter (·.finalName == name)).or
        (references.firstForeign? name rest) := by
  unfold firstForeign?
  rw [List.findSome?_cons]
  cases (references.foreign? property).filter (·.finalName == name) <;> rfl

theorem firstForeign?_resolve (references : References) (property : Property) :
    (references.resolve property).2.firstForeign? = references.firstForeign? := by
  funext name properties
  unfold firstForeign?
  rw [foreign?_resolve]

/-- **What is imported in the end.** Under a name that was free, the first unit of that name is
imported that the properties refer to; a name that was taken keeps its meaning. -/
theorem Sound.mem_imported_resolveAll {references : References} (hs : references.Sound)
    {properties : List Property} {name namespaceName : String} :
    (name, namespaceName) ∈ (references.resolveAll properties).2.imported ↔
      (name, namespaceName) ∈ references.imported ∨
        (name ≠ references.className ∧ (∀ other, (name, other) ∉ references.imported) ∧
          ∃ info, references.firstForeign? name properties = some info ∧
            info.namespaceName = namespaceName) := by
  induction properties generalizing references with
  | nil => simp [firstForeign?]
  | cons property rest ih =>
    have hclass : (references.resolve property).2.className = references.className := by
      obtain ⟨_, _, h⟩ := resolve_frame references property
      rw [h]
    rw [resolveAll_cons, ih (hs.resolve property), firstForeign?_resolve, hclass,
      firstForeign?_cons]
    simp only [hs.mem_imported_resolve]
    cases hfirst : (references.foreign? property).filter (·.finalName == name) with
    | none =>
      -- the property refers to no unit of this name, so the entries of the name stay as they are
      have hno : ¬ ∃ info, references.foreign? property = some info ∧ info.finalName = name := by
        rintro ⟨info, hforeign, hname⟩
        simp [hforeign, hname] at hfirst
      simp only [Option.none_or]
      grind
    | some info =>
      -- from here on the name is taken, by this unit or by an earlier one
      obtain ⟨hforeign, hname⟩ := Option.filter_eq_some_iff.1 hfirst
      simp only [Option.some_or, Option.some.injEq, hforeign]
      grind

/-- What was written for each property in the end: the short name of a unit of the file's own
namespace, and for any other unit its full name or a short name that is imported. -/
theorem forall₂_reference (references : References) (properties : List Property) :
    List.Forall₂ (fun property found => ∀ info, references.targetOf? property = some info →
        (info.namespaceName = references.namespaceName → found.reference = info.finalName) ∧
        (info.namespaceName ≠ references.namespaceName →
          found.reference = fullName info.namespaceName info.finalName ∨
            (found.reference = info.finalName ∧ (info.finalName, info.namespaceName) ∈
              (references.resolveAll properties).2.imported)))
      properties (references.resolveAll properties).1 := by
  induction properties generalizing references with
  | nil => exact .nil
  | cons property rest ih =>
    have hfile : (references.resolve property).2.namespaceName = references.namespaceName := by
      obtain ⟨_, _, h⟩ := resolve_frame references property
      rw [h]
    rw [resolveAll_cons]
    refine .cons (fun info htarget => ⟨reference_resolve_own htarget, fun hother => ?_⟩) ?_
    · refine (reference_resolve_other htarget hother).imp_right fun ⟨hshort, hmem⟩ => ⟨hshort, ?_⟩
      exact imported_subset_resolveAll _ rest hmem
    · have hrest := ih (references.resolve property).2
      rwa [targetOf?_resolve, hfile] at hrest

/-! ## Reading the imports -/

namespace Sound

variable {references : References} (hs : references.Sound)

include hs in
/-- In a sound state the statements are the table of short names. -/
theorem mem_statements {statement : String} :
    statement ∈ references.imports.statements ↔
      ∃ name namespaceName, (name, namespaceName) ∈ references.imported ∧
        statement = Imports.qualify namespaceName name := by
  rw [Imports.mem_statements, exists_comm]
  simp only [hs.holds_iff]

include hs in
/-- An imported name is bound by its own statement and no other. -/
theorem bindsOnly {name namespaceName : String}
    (hmem : (name, namespaceName) ∈ references.imported) :
    references.imports.BindsOnly name (Imports.qualify namespaceName name) := by
  refine ⟨hs.mem_statements.2 ⟨name, namespaceName, hmem, rfl⟩, ?_, ?_⟩
  · rw [Use.read_qualify (hs.importable hmem).word]
  · intro other hother hbound
    obtain ⟨otherName, otherNamespace, hmem', rfl⟩ := hs.mem_statements.1 hother
    rw [Use.read_qualify (hs.importable hmem').word] at hbound
    obtain rfl : otherName = name := hbound
    rw [hs.unique hmem hmem']

include hs in
/-- An imported name stands for what it was imported for. -/
theorem readName_imported {name namespaceName file : String}
    (hmem : (name, namespaceName) ∈ references.imported) :
    readName references.imports.uses file name = some (Imports.qualify namespaceName name) := by
  have hword := (hs.importable hmem).word
  refine (readName_eq_some_iff hword).2 (.inr ⟨_, hs.bindsOnly hmem, ?_⟩)
  rw [Use.read_qualify hword]

include hs in
theorem nodup_boundName : (references.imports.uses.map Use.boundName).Nodup := by
  unfold Imports.uses
  rw [List.map_map]
  refine List.Nodup.map_on ?_ references.imports.nodup_statements
  intro statement hstatement other hother heq
  obtain ⟨name, namespaceName, hmem, rfl⟩ := hs.mem_statements.1 hstatement
  refine ((hs.bindsOnly hmem).2.2 other hother ?_).symm
  rw [← (hs.bindsOnly hmem).2.1]
  exact heq.symm

include hs in
/-- Everything that is imported may be imported. -/
theorem importable_of_mem_uses {use : Use} (huse : use ∈ references.imports.uses) :
    references.Importable use.boundName use.namespaceName := by
  obtain ⟨statement, hstatement, rfl⟩ := List.mem_map.1 huse
  obtain ⟨name, namespaceName, hmem, rfl⟩ := hs.mem_statements.1 hstatement
  have hword := (hs.importable hmem).word
  rw [Use.read_qualify hword, Use.namespaceName_eq hword rfl]
  exact hs.importable hmem

end Sound

/-- The references of a class before anything is imported. -/
def fresh (registry : Registry) (context aggregate namespaceName className : String) : References :=
  { registry, context, aggregate, namespaceName, className }

theorem sound_fresh {registry : Registry} (h : registry.IsPlain)
    (context aggregate namespaceName className : String) :
    (fresh registry context aggregate namespaceName className).Sound :=
  sound_of_fresh h rfl rfl

end Php.References

theorem trimNamespace_eq_of_isTrimmed {name : String} (h : Text.IsTrimmed isBackslash name.toList) :
    trimNamespace name = name := by
  rw [trimNamespace, h.trimWhere_eq, String.ofList_toList]

theorem UnitInfo.isPlain_of_isIdentifier {info : UnitInfo}
    (hname : Naming.isIdentifier info.finalName = true)
    (hhead : info.namespaceName.toList.head? ≠ some '\\')
    (hlast : info.namespaceName.toList.getLast? ≠ some '\\') : info.IsPlain where
  word := Naming.isWord_of_isIdentifier hname
  trimmed := by
    have hnone : ∀ {found : Option Char}, found ≠ some '\\' →
        ∀ c ∈ found, isBackslash c = false := by
      rintro found hne c rfl
      simpa [isBackslash] using hne
    exact trimNamespace_eq_of_isTrimmed ⟨hnone hhead, hnone hlast⟩

namespace Php

/-- **References to other namespaces denote their units.** The properties of a class are looked up
in order, starting with no imports. Whatever unit of another namespace a property refers to, the
name that was written for it stands for that unit when it is read against the imports collected in
the end. These imports bind each short name once, never the name of the class, and none is from
the file's own namespace or the global one. Names are compared as they are spelt: two of them that
differ only in case are two names here and one for PHP. -/
theorem resolveAll_denotes (registry : Registry)
    (context aggregate namespaceName className : String) (properties : List Property)
    (hregistry : ∀ entry ∈ registry.units, Naming.isIdentifier entry.2.finalName = true ∧
      entry.2.namespaceName.toList.head? ≠ some '\\' ∧
      entry.2.namespaceName.toList.getLast? ≠ some '\\') :
    let references := References.fresh registry context aggregate namespaceName className
    let uses := (references.resolveAll properties).2.imports.uses
    List.Forall₂ (fun property found => ∀ info, references.targetOf? property = some info →
        info.namespaceName ≠ namespaceName →
        readName uses namespaceName found.reference =
          some (Imports.qualify info.namespaceName info.finalName))
      properties (references.resolveAll properties).1 ∧
    (uses.map Use.boundName).Nodup ∧
    className ∉ uses.map Use.boundName ∧
    ∀ use ∈ uses, use.namespaceName ≠ namespaceName ∧ use.namespaceName ≠ "" := by
  intro references uses
  have hplain : registry.IsPlain := by
    intro entry hentry
    obtain ⟨hname, hhead, hlast⟩ := hregistry entry hentry
    exact UnitInfo.isPlain_of_isIdentifier hname hhead hlast
  have hs : (references.resolveAll properties).2.Sound :=
    (References.sound_fresh hplain context aggregate namespaceName className).resolveAll properties
  obtain ⟨_, _, hframe⟩ := References.resolveAll_frame references properties
  have hfile : (references.resolveAll properties).2.namespaceName = namespaceName := by
    rw [hframe]
    rfl
  have hclass : (references.resolveAll properties).2.className = className := by
    rw [hframe]
    rfl
  refine ⟨?_, hs.nodup_boundName, ?_, ?_⟩
  · refine (References.forall₂_reference references properties).imp ?_
    intro property found hwritten info htarget hother
    rcases (hwritten info htarget).2 hother with hfull | ⟨hshort, hmem⟩
    · rw [hfull, readName_fullName]
    · rw [hshort, hs.readName_imported hmem]
  · intro hmem
    obtain ⟨use, huse, hbound⟩ := List.mem_map.1 hmem
    exact (hs.importable_of_mem_uses huse).ne_className (hbound.trans hclass.symm)
  · intro use huse
    have himportable := hs.importable_of_mem_uses huse
    exact ⟨hfile ▸ himportable.ne_own, himportable.ne_global⟩

/-- Units of four other namespaces, two of which have one name, one that of the class `Order`, and
one no namespace. -/
def shopRegistry : Registry :=
  { units := [
      ("CustomerEntity", {
        kind := .entity, finalName := "Customer", namespaceName := "App\\Crm"
        context := "Crm", aggregate := "Customer" }),
      ("Customer", {
        kind := .entity, finalName := "Customer", namespaceName := "App\\Legacy"
        context := "Legacy", aggregate := "Customer" }),
      ("Order", {
        kind := .entity, finalName := "Order", namespaceName := "App\\Archive"
        context := "Archive", aggregate := "Order" }),
      ("Clock", {
        kind := .valueObject, finalName := "Clock", namespaceName := ""
        context := "Time", aggregate := "Clock" })] }

/-- Properties that refer to all of them, to the first one twice. -/
def shopProperties : List Property :=
  [{ name := "buyer", type := "CustomerEntity" }, { name := "former", type := "Customer" },
    { name := "previous", type := "Order" }, { name := "clock", type := "Clock" },
    { name := "payer", type := "CustomerEntity" }]

theorem resolveAll_denotes_shop :
    (∀ entry ∈ shopRegistry.units, Naming.isIdentifier entry.2.finalName = true ∧
      entry.2.namespaceName.toList.head? ≠ some '\\' ∧
      entry.2.namespaceName.toList.getLast? ≠ some '\\') ∧
    let references := References.fresh shopRegistry "Sales" "Order" "App\\Sales" "Order"
    let uses := (references.resolveAll shopProperties).2.imports.uses
    (∀ property ∈ shopProperties, ∃ info, references.targetOf? property = some info ∧
      info.namespaceName ≠ "App\\Sales") ∧
    (references.resolveAll shopProperties).1.map (·.reference) =
      ["Customer", "\\App\\Legacy\\Customer", "\\App\\Archive\\Order", "\\Clock", "Customer"] ∧
    List.Forall₂ (fun property found => ∀ info, references.targetOf? property = some info →
        info.namespaceName ≠ "App\\Sales" →
        readName uses "App\\Sales" found.reference =
          some (Imports.qualify info.namespaceName info.finalName))
      shopProperties (references.resolveAll shopProperties).1 ∧
    (uses.map Use.boundName).Nodup ∧
    "Order" ∉ uses.map Use.boundName ∧
    ∀ use ∈ uses, use.namespaceName ≠ "App\\Sales" ∧ use.namespaceName ≠ "" := by
  refine ⟨by decide, ?_, by decide +kernel, ?_⟩
  · intro property hproperty
    obtain ⟨info, hinfo, hother⟩ : ∃ info ∈ (References.fresh shopRegistry "Sales" "Order"
        "App\\Sales" "Order").targetOf? property, info.namespaceName ≠ "App\\Sales" := by
      revert property
      decide +kernel
    exact ⟨info, hinfo, hother⟩
  · exact resolveAll_denotes shopRegistry "Sales" "Order" "App\\Sales" "Order" shopProperties
      (by decide)

end Php

end DomainForge
