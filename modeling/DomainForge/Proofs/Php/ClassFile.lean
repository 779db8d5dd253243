import DomainForge.Pattern.Language
import DomainForge.Proofs.Preparation

/-!
# The names that a class file binds

Two hands write into the imports of a class file: the references to other units, which keep a
table of the names they have bound (`References.Sound`), and the framework, which adds the symbols
it needs without looking at that table. So both properties of a class file that one would expect
hold only as long as the framework's symbols stay out of the way:

* a reference to a unit of the file's own namespace stands for that unit
  (`ownReference_denotes_iff`), which also needs that no unit of another namespace is imported
  under the same name;
* the names that are bound are distinct, and none is the name of the class
  (`boundNames_distinct_iff`).

Both are stated for every class file of a run, with the exact condition. Names are compared as they
are spelt, so names that differ only in case count as distinct, although PHP takes them for one.
-/

namespace DomainForge

open Php

/-! ## The class of a plan -/

/-- The class that is assembled for a plan. There is none for an enumeration. -/
def Preparation.classUnit? (found : Preparation) (plan : UnitPlan) : Option ClassUnit :=
  (found.model.aggregate? plan.contextIndex plan.aggregateIndex).bind fun aggregate =>
    match plan.kind with
    | .enumeration => none
    | .valueObject =>
      aggregate.valueObjects[plan.index]?.map (valueObjectUnit found.settings plan)
    | .entity => aggregate.entities[plan.index]?.map (entityUnit found.settings plan)

/-- The file of a plan is the text of the class that is assembled for it. -/
theorem generateFile_of_classUnit? {found : Preparation} {plan : UnitPlan} {unit : ClassUnit}
    (h : found.classUnit? plan = some unit) :
    generateFile found plan = .ok {
      path := plan.placement.path
      content := (classFile unit found.registry plan.placement.namespaceName).render
      kind := plan.kind } := by
  unfold Preparation.classUnit? at h
  obtain ⟨aggregate, haggregate, h⟩ := Option.bind_eq_some_iff.1 h
  unfold generateFile
  rw [haggregate]
  simp only [contentIn]
  split at h
  · cases h
  · rename_i hkind
    obtain ⟨valueObject, hindex, rfl⟩ := Option.map_eq_some_iff.1 h
    simp [hkind, hindex, unitOr, Except.map]
  · rename_i hkind
    obtain ⟨entity, hindex, rfl⟩ := Option.map_eq_some_iff.1 h
    simp [hkind, hindex, unitOr, Except.map]

/-- Every plan for an entity or value object has a class. -/
theorem exists_classUnit? [PatternLanguage] {model : Model} {settings : Settings} {plan : UnitPlan}
    (hplan : plan ∈ (prepared model settings).plans) (hkind : plan.kind ≠ .enumeration) :
    ∃ unit, (prepared model settings).classUnit? plan = some unit := by
  rw [plans_prepared] at hplan
  obtain ⟨context, -, aggregate, -, haggregate, -, -, hunit, -⟩ := Model.mem_plans hplan
  rw [Aggregate.mem_units] at hunit
  unfold Preparation.classUnit?
  rw [model_prepared, haggregate, Option.bind_some]
  cases heq : plan.kind with
  | enumeration => exact absurd heq hkind
  | valueObject =>
    rw [heq] at hunit
    obtain ⟨valueObject, hindex, -⟩ := hunit
    exact ⟨valueObjectUnit settings plan valueObject, by simp [hindex]⟩
  | entity =>
    rw [heq] at hunit
    obtain ⟨entity, hindex, -⟩ := hunit
    exact ⟨entityUnit settings plan entity, by simp [hindex]⟩

namespace Php

/-! ## The symbols of frameworks -/

namespace Import

/-- The short name that a symbol gets, as it is spelt. -/
def boundName (symbol : Import) : String :=
  symbol.newName.getD symbol.symbol

/-- The full name of a symbol. -/
def fullName (symbol : Import) : String :=
  Imports.qualify symbol.namespaceName symbol.symbol

end Import

/-- All symbols that a framework may import. -/
def frameworkSymbols : List Import :=
  [Laravel.model,
    { namespaceName := "Illuminate\\Database\\Eloquent\\Relations", symbol := "HasMany" },
    { namespaceName := "Illuminate\\Database\\Eloquent\\Relations", symbol := "BelongsTo" },
    Doctrine.mappingImport, Doctrine.typesImport] ++ Doctrine.collectionImports

theorem Doctrine.propertyImports_subset (unit : ClassUnit) (property : ResolvedProperty) :
    Doctrine.propertyImports unit property ⊆ frameworkSymbols := by
  unfold Doctrine.propertyImports
  refine List.append_subset.2 ⟨?_, ?_⟩
  · split
    · exact List.subset_append_right _ _
    · exact List.nil_subset _
  · split
    · simp [frameworkSymbols]
    · exact List.nil_subset _

theorem Laravel.relationImport_mem (property : ResolvedProperty) :
    Laravel.relationImport property ∈ frameworkSymbols := by
  unfold Laravel.relationImport Laravel.relationClass
  split <;> simp [frameworkSymbols]

/-- A framework imports nothing but its symbols. -/
theorem frameworkImports_subset (framework : Framework) (unit : ClassUnit)
    (properties : List ResolvedProperty) :
    frameworkImports framework unit properties ⊆ frameworkSymbols := by
  unfold frameworkImports
  refine List.append_subset.2 ⟨List.append_subset.2 ⟨?_, ?_⟩, ?_⟩
  · cases framework with
    | plain => exact List.nil_subset _
    | laravel =>
      simp only [Framework.classImports]
      split <;> simp [frameworkSymbols]
    | doctrine =>
      simp only [Framework.classImports]
      split <;> simp [frameworkSymbols]
  · intro symbol hsymbol
    obtain ⟨property, -, hsymbol⟩ := List.mem_flatMap.1 hsymbol
    cases framework with
    | plain => cases hsymbol
    | laravel => cases hsymbol
    | doctrine => exact Doctrine.propertyImports_subset unit property hsymbol
  · intro symbol hsymbol
    obtain ⟨property, -, rfl⟩ := List.mem_map.1 hsymbol
    exact Laravel.relationImport_mem property

/-- What is needed of a symbol for its statement to be read as it was meant. -/
structure Import.IsPlain (found : Import) : Prop where
  symbol : Text.IsWord found.symbol
  boundName : Text.IsWord found.boundName
  trimmed : trimNamespace found.namespaceName = found.namespaceName

theorem isPlain_of_mem_frameworkSymbols {symbol : Import} (h : symbol ∈ frameworkSymbols) :
    symbol.IsPlain := by
  have hall : ∀ symbol ∈ frameworkSymbols, Text.IsWord symbol.symbol ∧
      Text.IsWord symbol.boundName ∧
        trimNamespace symbol.namespaceName = symbol.namespaceName := by
    decide +kernel
  obtain ⟨hsymbol, hbound, htrimmed⟩ := hall symbol h
  exact ⟨hsymbol, hbound, htrimmed⟩

/-- No two symbols get one name. -/
theorem eq_of_boundName_eq {symbol other : Import} (h : symbol ∈ frameworkSymbols)
    (h' : other ∈ frameworkSymbols) (heq : symbol.boundName = other.boundName) :
    symbol = other := by
  have hall : ∀ symbol ∈ frameworkSymbols, ∀ other ∈ frameworkSymbols,
      symbol.boundName = other.boundName → symbol = other := by
    decide +kernel
  exact hall symbol h other h' heq

/-- The statement for a plain symbol is read as it was meant. -/
theorem Import.IsPlain.read_written {symbol : Import} (h : symbol.IsPlain) :
    Use.read (Imports.qualify symbol.namespaceName symbol.written) =
      { fullName := symbol.fullName, boundName := symbol.boundName } := by
  obtain ⟨hsymbol, hbound, -⟩ := h
  unfold Import.written Import.fullName Import.boundName at *
  cases hnew : symbol.newName with
  | none =>
    rw [hnew] at hbound
    exact Use.read_qualify hsymbol
  | some newName =>
    rw [hnew] at hbound
    exact Use.read_written hsymbol hbound

/-- A symbol and a unit of its name have one statement only if they are the same. -/
theorem Import.IsPlain.qualify_eq_iff {symbol : Import} (h : symbol.IsPlain)
    {otherNamespace : String} :
    Imports.qualify symbol.namespaceName symbol.written =
        Imports.qualify otherNamespace symbol.boundName ↔
      symbol.newName = none ∧ otherNamespace = symbol.namespaceName := by
  obtain ⟨hsymbol, hbound, -⟩ := h
  have hslash : '\\' ∉ symbol.symbol.toList := hsymbol.not_mem (by decide)
  have hslash' : '\\' ∉ symbol.boundName.toList := hbound.not_mem (by decide)
  unfold Import.written Import.boundName at *
  cases hnew : symbol.newName with
  | none =>
    rw [hnew] at hslash'
    simp only [Option.getD_none, true_and]
    exact ⟨fun heq => (qualify_inj hslash hslash' heq).1.symm, fun heq => heq ▸ rfl⟩
  | some newName =>
    rw [hnew] at hbound hslash'
    simp only [Option.getD_some, reduceCtorEq, false_and, iff_false]
    intro heq
    -- the blanks around `as` cannot stand in a name
    have hwritten : '\\' ∉ (symbol.symbol ++ " as " ++ newName).toList := by
      simp only [String.toList_append, List.mem_append, not_or]
      exact ⟨⟨hslash, by decide⟩, hslash'⟩
    have hname := (qualify_inj hwritten hslash' heq).2
    have hblank : ' ' ∉ (symbol.symbol ++ " as " ++ newName).toList :=
      hname ▸ hbound.not_mem (by decide)
    simp at hblank

/-! ## The imports of a class -/

section ClassFile

variable (unit : ClassUnit) (registry : Registry) (namespaceName : String)

/-- The references of a class before its properties are looked up. -/
def classReferences : References :=
  .fresh registry unit.context unit.aggregate namespaceName unit.name

/-- The properties of a class as they are looked up, and the references after that. -/
def lookedUp : List ResolvedProperty × References :=
  (classReferences unit registry namespaceName).resolveAll unit.properties

/-- The symbols that the framework imports into a class. -/
def classSymbols : List Import :=
  frameworkImports unit.settings.framework unit (lookedUp unit registry namespaceName).1

/-- The imports of a class leave a name of its own namespace alone: no property refers to a unit of
that name in another namespace (unless the class itself is called so, which is never imported), and
no symbol of the framework is called so, but for the unit itself. -/
def LeavesAlone (name : String) : Prop :=
  (name = unit.name ∨ ∀ other ∈ unit.properties.filterMap
    (classReferences unit registry namespaceName).foreign?, other.finalName ≠ name) ∧
  ∀ symbol ∈ classSymbols unit registry namespaceName, symbol.boundName = name →
    symbol.fullName = Imports.qualify namespaceName name

/-- A class file imports what its references and its framework ask for. -/
theorem imports_classFile :
    (classFile unit registry namespaceName).imports =
      addImports (lookedUp unit registry namespaceName).2.imports
        (classSymbols unit registry namespaceName) :=
  rfl

theorem name_decorateClass (framework : Framework) (decl : ClassDecl) :
    (framework.decorateClass unit decl).name = decl.name := by
  cases framework with
  | plain => rfl
  | laravel =>
    simp only [Framework.decorateClass]
    split <;> rfl
  | doctrine =>
    simp only [Framework.decorateClass]
    split <;> rfl

/-- A class file declares one class, which is called as the unit. -/
theorem exists_declarations_classFile :
    ∃ decl, (classFile unit registry namespaceName).declarations = [.classDecl decl] ∧
      decl.name = unit.name :=
  ⟨assembleClass unit.settings.framework unit (lookedUp unit registry namespaceName).1, rfl,
    name_decorateClass unit unit.settings.framework (emptyClass unit)⟩

variable {unit registry namespaceName} (hregistry : registry.IsPlain)

theorem isPlain_of_mem_classSymbols {symbol : Import}
    (h : symbol ∈ classSymbols unit registry namespaceName) : symbol.IsPlain :=
  isPlain_of_mem_frameworkSymbols (frameworkImports_subset _ _ _ h)

include hregistry in
/-- The references of a class are sound. -/
theorem sound_lookedUp : (lookedUp unit registry namespaceName).2.Sound :=
  (References.sound_fresh hregistry _ _ _ _).resolveAll unit.properties

include hregistry in
/-- The unit that is imported under a name: the first one that the properties refer to, unless the
name is that of the class. -/
theorem mem_imported_lookedUp {name otherNamespace : String} :
    (name, otherNamespace) ∈ (lookedUp unit registry namespaceName).2.imported ↔
      name ≠ unit.name ∧ ∃ info,
        (classReferences unit registry namespaceName).firstForeign? name unit.properties =
          some info ∧ info.namespaceName = otherNamespace := by
  unfold lookedUp classReferences
  rw [(References.sound_fresh hregistry _ _ _ _).mem_imported_resolveAll]
  simp [References.fresh]

include hregistry in
theorem not_mem_imported_lookedUp {name : String} :
    (∀ otherNamespace,
        (name, otherNamespace) ∉ (lookedUp unit registry namespaceName).2.imported) ↔
      name = unit.name ∨ ∀ other ∈ unit.properties.filterMap
        (classReferences unit registry namespaceName).foreign?, other.finalName ≠ name := by
  simp only [mem_imported_lookedUp hregistry, References.firstForeign?]
  constructor
  · intro hnone
    refine or_iff_not_imp_left.2 fun hclass other hother heq => ?_
    obtain ⟨property, hproperty, hforeign⟩ := List.mem_filterMap.1 hother
    cases hfirst : unit.properties.findSome? fun property =>
        ((classReferences unit registry namespaceName).foreign? property).filter
          (·.finalName == name) with
    | none =>
      have := List.findSome?_eq_none_iff.1 hfirst property hproperty
      simp [hforeign, heq] at this
    | some info => exact hnone _ ⟨hclass, info, hfirst, rfl⟩
  · rintro hor _ ⟨hclass, info, hfirst, -⟩
    obtain ⟨property, hproperty, hfilter⟩ := List.exists_of_findSome?_eq_some hfirst
    obtain ⟨hforeign, hname⟩ := Option.filter_eq_some_iff.1 hfilter
    exact hor.resolve_left hclass info (List.mem_filterMap.2 ⟨property, hproperty, hforeign⟩)
      (by simpa using hname)

include hregistry in
theorem importable_of_mem_imported {name otherNamespace : String}
    (h : (name, otherNamespace) ∈ (lookedUp unit registry namespaceName).2.imported) :
    (classReferences unit registry namespaceName).Importable name otherNamespace := by
  obtain ⟨hword, hclass, hown, hglobal⟩ := (sound_lookedUp hregistry).importable h
  obtain ⟨_, _, hframe⟩ := References.resolveAll_frame
    (classReferences unit registry namespaceName) unit.properties
  rw [show (lookedUp unit registry namespaceName).2 = _ from hframe] at hclass hown
  exact ⟨hword, hclass, hown, hglobal⟩

include hregistry in
/-- The statements of a class file: those of the framework's symbols, and those of the units that
are imported. -/
theorem mem_statements_classFile {statement : String} :
    statement ∈ (classFile unit registry namespaceName).imports.statements ↔
      (∃ symbol ∈ classSymbols unit registry namespaceName,
        statement = Imports.qualify symbol.namespaceName symbol.written) ∨
      ∃ name otherNamespace,
        (name, otherNamespace) ∈ (lookedUp unit registry namespaceName).2.imported ∧
          statement = Imports.qualify otherNamespace name := by
  rw [Imports.mem_statements, imports_classFile]
  simp only [holds_addImports, (sound_lookedUp hregistry).holds_iff]
  constructor
  · rintro ⟨name, text, ⟨symbol, hsymbol, rfl, rfl⟩ | hmem, rfl⟩
    · exact .inl ⟨symbol, hsymbol, by rw [(isPlain_of_mem_classSymbols hsymbol).trimmed]⟩
    · exact .inr ⟨text, name, hmem, rfl⟩
  · rintro (⟨symbol, hsymbol, rfl⟩ | ⟨name, otherNamespace, hmem, rfl⟩)
    · exact ⟨_, _, .inl ⟨symbol, hsymbol, (isPlain_of_mem_classSymbols hsymbol).trimmed.symm, rfl⟩,
        rfl⟩
    · exact ⟨_, _, .inr hmem, rfl⟩

include hregistry in
/-- What holds of all statements as they are read: of the framework's symbols, and of the units that
are imported. -/
theorem forall_statements_classFile (holds : String → Use → Prop) :
    (∀ statement ∈ (classFile unit registry namespaceName).imports.statements,
        holds statement (Use.read statement)) ↔
      (∀ symbol ∈ classSymbols unit registry namespaceName,
        holds (Imports.qualify symbol.namespaceName symbol.written)
          { fullName := symbol.fullName, boundName := symbol.boundName }) ∧
      ∀ name otherNamespace,
        (name, otherNamespace) ∈ (lookedUp unit registry namespaceName).2.imported →
          holds (Imports.qualify otherNamespace name)
            { fullName := Imports.qualify otherNamespace name, boundName := name } := by
  have hsymbol : ∀ symbol ∈ classSymbols unit registry namespaceName,
      Use.read (Imports.qualify symbol.namespaceName symbol.written) =
        { fullName := symbol.fullName, boundName := symbol.boundName } :=
    fun symbol hmem => (isPlain_of_mem_classSymbols hmem).read_written
  have hunit : ∀ name otherNamespace,
      (name, otherNamespace) ∈ (lookedUp unit registry namespaceName).2.imported →
        Use.read (Imports.qualify otherNamespace name) =
          { fullName := Imports.qualify otherNamespace name, boundName := name } :=
    fun _ _ hmem => Use.read_qualify (importable_of_mem_imported hregistry hmem).word
  constructor
  · intro hall
    refine ⟨fun symbol hmem => ?_, fun name otherNamespace hmem => ?_⟩
    · rw [← hsymbol symbol hmem]
      exact hall _ ((mem_statements_classFile hregistry).2 (.inl ⟨symbol, hmem, rfl⟩))
    · rw [← hunit name otherNamespace hmem]
      exact hall _ ((mem_statements_classFile hregistry).2 (.inr ⟨_, _, hmem, rfl⟩))
  · rintro ⟨hsymbols, hunits⟩ statement hstatement
    rcases (mem_statements_classFile hregistry).1 hstatement with
      ⟨symbol, hmem, rfl⟩ | ⟨name, otherNamespace, hmem, rfl⟩
    · rw [hsymbol symbol hmem]
      exact hsymbols symbol hmem
    · rw [hunit name otherNamespace hmem]
      exact hunits name otherNamespace hmem

include hregistry in
/-- What a word stands for in a class file as a name of the file's own namespace: no unit of another
namespace may be imported under it, and no symbol of the framework but the unit itself. -/
theorem readName_own_iff {name : String} (hname : Text.IsWord name) :
    readName (classFile unit registry namespaceName).imports.uses namespaceName name =
        some (Imports.qualify namespaceName name) ↔
      LeavesAlone unit registry namespaceName name := by
  rw [readName_eq_some_iff hname, LeavesAlone, ← not_mem_imported_lookedUp hregistry]
  constructor
  · intro hreads
    -- whether nothing is bound under the name or one statement is, no other full name is bound
    have hall : ∀ statement ∈ (classFile unit registry namespaceName).imports.statements,
        (Use.read statement).boundName = name →
          (Use.read statement).fullName = Imports.qualify namespaceName name := by
      intro statement hstatement hbound
      rcases hreads with ⟨hnone, -⟩ | ⟨only, honly, hfull⟩
      · exact absurd hbound (hnone statement hstatement)
      · rw [honly.2.2 statement hstatement hbound, hfull]
    obtain ⟨hsymbols, hunits⟩ := (forall_statements_classFile hregistry fun _ use =>
      use.boundName = name → use.fullName = Imports.qualify namespaceName name).1 hall
    refine ⟨fun otherNamespace hmem => ?_, hsymbols⟩
    have hslash : '\\' ∉ name.toList := hname.not_mem (by decide)
    exact (importable_of_mem_imported hregistry hmem).ne_own
      (qualify_inj hslash hslash (hunits name otherNamespace hmem rfl)).1
  · rintro ⟨hunits, hsymbols⟩
    by_cases hbound : ∃ symbol ∈ classSymbols unit registry namespaceName, symbol.boundName = name
    · obtain ⟨symbol, hsymbol, rfl⟩ := hbound
      have hread := (isPlain_of_mem_classSymbols hsymbol).read_written
      refine .inr ⟨_, ⟨(mem_statements_classFile hregistry).2 (.inl ⟨symbol, hsymbol, rfl⟩),
        by rw [hread], ?_⟩, by rw [hread]; exact (hsymbols symbol hsymbol rfl).symm⟩
      refine (forall_statements_classFile hregistry fun other use =>
        use.boundName = symbol.boundName → other = _).2 ⟨?_, ?_⟩
      · intro other hother heq
        rw [eq_of_boundName_eq (frameworkImports_subset _ _ _ hother)
          (frameworkImports_subset _ _ _ hsymbol) heq]
      · rintro name otherNamespace hmem rfl
        exact absurd hmem (hunits otherNamespace)
    · refine .inl ⟨(forall_statements_classFile hregistry fun _ use =>
        use.boundName ≠ name).2 ⟨?_, ?_⟩, rfl⟩
      · exact fun symbol hsymbol heq => hbound ⟨symbol, hsymbol, heq⟩
      · rintro found otherNamespace hmem rfl
        exact hunits otherNamespace hmem

variable (unit registry namespaceName) in
/-- The symbols that the framework imports stay clear of the other names of a class: none is called
as the class, and none as the first unit of that name that a property refers to in another
namespace, unless it is that unit. -/
def SymbolsKeepClear : Prop :=
  ∀ symbol ∈ classSymbols unit registry namespaceName, symbol.boundName ≠ unit.name ∧
    ∀ info, (classReferences unit registry namespaceName).firstForeign? symbol.boundName
        unit.properties = some info →
      symbol.newName = none ∧ info.namespaceName = symbol.namespaceName

include hregistry in
/-- A symbol that stays clear and an imported unit of its name have the same statement. -/
theorem SymbolsKeepClear.qualify_eq (hclear : SymbolsKeepClear unit registry namespaceName)
    {symbol : Import} (hsymbol : symbol ∈ classSymbols unit registry namespaceName)
    {otherNamespace : String}
    (hmem : (symbol.boundName, otherNamespace) ∈
      (lookedUp unit registry namespaceName).2.imported) :
    Imports.qualify symbol.namespaceName symbol.written =
      Imports.qualify otherNamespace symbol.boundName := by
  obtain ⟨-, info, hinfo, rfl⟩ := (mem_imported_lookedUp hregistry).1 hmem
  exact (isPlain_of_mem_classSymbols hsymbol).qualify_eq_iff.2
    ((hclear symbol hsymbol).2 info hinfo)

include hregistry in
/-- Statements that bind one name are the same. -/
theorem SymbolsKeepClear.statement_inj (hclear : SymbolsKeepClear unit registry namespaceName) :
    ∀ statement ∈ (classFile unit registry namespaceName).imports.statements,
      ∀ other ∈ (classFile unit registry namespaceName).imports.statements,
        (Use.read statement).boundName = (Use.read other).boundName → statement = other := by
  refine (forall_statements_classFile hregistry fun statement use => ∀ other ∈ _,
    use.boundName = (Use.read other).boundName → statement = other).2
      ⟨fun symbol hsymbol => ?_, fun name otherNamespace hmem => ?_⟩
  · refine (forall_statements_classFile hregistry fun other use =>
      symbol.boundName = use.boundName → _ = other).2 ⟨?_, ?_⟩
    · intro symbol' hsymbol' heq
      rw [eq_of_boundName_eq (frameworkImports_subset _ _ _ hsymbol)
        (frameworkImports_subset _ _ _ hsymbol') heq]
    · rintro name' otherNamespace' hmem' rfl
      exact hclear.qualify_eq hregistry hsymbol hmem'
  · refine (forall_statements_classFile hregistry fun other use =>
      name = use.boundName → _ = other).2 ⟨?_, ?_⟩
    · rintro symbol' hsymbol' rfl
      exact (hclear.qualify_eq hregistry hsymbol' hmem).symm
    · rintro name' otherNamespace' hmem' rfl
      rw [(sound_lookedUp hregistry).unique hmem hmem']

include hregistry in
theorem SymbolsKeepClear.boundName_ne (hclear : SymbolsKeepClear unit registry namespaceName) :
    ∀ statement ∈ (classFile unit registry namespaceName).imports.statements,
      (Use.read statement).boundName ≠ unit.name :=
  (forall_statements_classFile hregistry fun _ use => use.boundName ≠ unit.name).2
    ⟨fun symbol hsymbol => (hclear symbol hsymbol).1,
      fun _ _ hmem => (importable_of_mem_imported hregistry hmem).ne_className⟩

include hregistry in
/-- The bound names are distinct and differ from that of the class exactly if the framework's
symbols stay clear. -/
theorem distinct_iff_symbolsKeepClear :
    (((classFile unit registry namespaceName).imports.uses.map Use.boundName).Nodup ∧
        unit.name ∉ (classFile unit registry namespaceName).imports.uses.map Use.boundName) ↔
      SymbolsKeepClear unit registry namespaceName := by
  unfold Imports.uses
  rw [List.map_map, List.nodup_map_iff_inj_on (Imports.nodup_statements _)]
  constructor
  · rintro ⟨hinj, hclass⟩ symbol hsymbol
    have hplain := isPlain_of_mem_classSymbols hsymbol
    have hmem := (mem_statements_classFile hregistry).2 (.inl ⟨symbol, hsymbol, rfl⟩)
    have hne : symbol.boundName ≠ unit.name := by
      intro heq
      refine hclass (List.mem_map.2 ⟨_, hmem, ?_⟩)
      rw [Function.comp_apply, hplain.read_written]
      exact heq
    refine ⟨hne, fun info hinfo => ?_⟩
    -- the unit is imported under the name of the symbol, so the two statements are the same
    have himported := (mem_imported_lookedUp hregistry).2 ⟨hne, info, hinfo, rfl⟩
    obtain ⟨-, hunits⟩ := (forall_statements_classFile hregistry fun other use =>
      symbol.boundName = use.boundName → _ = other).1 fun other hother heq =>
        hinj _ hmem other hother (by rw [Function.comp_apply, hplain.read_written]; exact heq)
    exact hplain.qualify_eq_iff.1 (hunits _ _ himported rfl)
  · intro hclear
    refine ⟨hclear.statement_inj hregistry, fun hclass => ?_⟩
    obtain ⟨statement, hstatement, hname⟩ := List.mem_map.1 hclass
    exact hclear.boundName_ne hregistry statement hstatement hname

end ClassFile

/-! ## All class files of a run -/

section Runs

variable [PatternLanguage]

/-- A property of all class files of a run: the model is prepared, each plan but those of
enumerations has a class, whose file is generated, and the class has the property, with the registry
of the run and the namespace of the file. -/
def EveryClassFile (model : Model) (settings : Settings)
    (holds : ClassUnit → Registry → String → Prop) : Prop :=
  ∃ found, prepare model settings = .ok found ∧
    ∀ plan ∈ found.plans, plan.kind ≠ .enumeration →
      ∃ unit, found.classUnit? plan = some unit ∧
        generateFile found plan = .ok {
          path := plan.placement.path
          content := (classFile unit found.registry plan.placement.namespaceName).render
          kind := plan.kind } ∧
        holds unit found.registry plan.placement.namespaceName

/-- What holds of a class with the registry of the run holds of all class files. -/
theorem everyClassFile_of_registry {model : Model} {settings : Settings}
    {holds : ClassUnit → Registry → String → Prop}
    (h : ∀ unit namespaceName, holds unit (prepared model settings).registry namespaceName) :
    EveryClassFile model settings holds := by
  refine ⟨prepared model settings, prepare_eq_ok model settings, fun plan hplan hkind => ?_⟩
  obtain ⟨unit, hunit⟩ := exists_classUnit? hplan hkind
  exact ⟨unit, hunit, generateFile_of_classUnit? hunit, h _ _⟩

/-- What holds of a class with any plain registry holds of all class files, if the names of the
model are identifiers. -/
theorem everyClassFile_of_isPlain {model : Model} {settings : Settings}
    (hnames : model.hasIdentifierNames = true) {holds : ClassUnit → Registry → String → Prop}
    (h : ∀ unit registry namespaceName, registry.IsPlain → holds unit registry namespaceName) :
    EveryClassFile model settings holds :=
  everyClassFile_of_registry fun _ _ => h _ _ _ (isPlain_registry_prepared hnames settings)

end Runs

/-- **References to the file's own namespace.** For a unit of the file's own namespace its short
name is written. It stands for that unit exactly if the imports leave the name alone. Names are
compared as they are spelt. -/
theorem ownReference_denotes_iff [PatternLanguage] (model : Model) (settings : Settings)
    (hnames : model.hasIdentifierNames = true) :
    EveryClassFile model settings fun unit registry namespaceName =>
      let file := classFile unit registry namespaceName
      let properties := (lookedUp unit registry namespaceName).1
      file.declarations = [.classDecl (assembleClass unit.settings.framework unit properties)] ∧
      List.Forall₂ (fun property found => ∀ info,
          (classReferences unit registry namespaceName).targetOf? property = some info →
          info.namespaceName = namespaceName →
          found.reference = info.finalName ∧
          (readName file.imports.uses namespaceName found.reference =
              some (Imports.qualify namespaceName info.finalName) ↔
            LeavesAlone unit registry namespaceName info.finalName))
        unit.properties properties := by
  refine everyClassFile_of_isPlain hnames fun unit registry namespaceName hregistry => ⟨rfl, ?_⟩
  refine (References.forall₂_reference _ _).imp fun property found hwritten info htarget hown => ?_
  have hreference := (hwritten info htarget).1 hown
  have hplain := hregistry _ (References.mem_of_target? htarget)
  rw [hreference]
  exact ⟨rfl, readName_own_iff hregistry hplain.word⟩

/-- An order with two customers. The second one is declared in another aggregate, as
`CustomerEntity`. -/
def twoCustomers : Model :=
  { contexts := [{
      name := "Sales"
      aggregates := [
        { name := "A"
          entities := [
            { name := "Order"
              properties := [
                { name := "first", type := "Customer" },
                { name := "second", type := "CustomerEntity" }] },
            { name := "Customer" }] },
        { name := "B", entities := [{ name := "CustomerEntity" }] }] }] }

/-- Settings by which `CustomerEntity` becomes `Customer`. -/
def strippingEntity : Settings :=
  { directoryStructure := .psr4
    getters := false
    setters := false
    constructor := .none
    pathRules := [{ pattern := "Entity$", strip := some "Entity$" }] }

theorem ownReference_denotes_iff_twoCustomers :
    twoCustomers.hasIdentifierNames = true ∧
    EveryClassFile twoCustomers strippingEntity fun unit registry namespaceName =>
      let file := classFile unit registry namespaceName
      let properties := (lookedUp unit registry namespaceName).1
      file.declarations = [.classDecl (assembleClass unit.settings.framework unit properties)] ∧
      List.Forall₂ (fun property found => ∀ info,
          (classReferences unit registry namespaceName).targetOf? property = some info →
          info.namespaceName = namespaceName →
          found.reference = info.finalName ∧
          (readName file.imports.uses namespaceName found.reference =
              some (Imports.qualify namespaceName info.finalName) ↔
            LeavesAlone unit registry namespaceName info.finalName))
        unit.properties properties :=
  have hnames : twoCustomers.hasIdentifierNames = true := by decide +kernel
  ⟨hnames, ownReference_denotes_iff twoCustomers strippingEntity hnames⟩

/-- The plan of the order. -/
def orderPlan : UnitPlan :=
  { kind := .entity, name := "Order", context := "Sales", aggregate := "A"
    contextIndex := 0, aggregateIndex := 0, index := 0
    placement := {
      finalName := "Order", path := "Sales/A/Order.php"
      namespaceName := "App\\Models\\Sales\\A" } }

/-- The second customer is imported under the name of the first, which stands in the namespace of
the order, so both are read as the second. -/
theorem ownReference_captured :
    twoCustomers.hasIdentifierNames = true ∧
    ¬ EveryClassFile twoCustomers strippingEntity fun unit registry namespaceName =>
      List.Forall₂ (fun property found => ∀ info,
          (classReferences unit registry namespaceName).targetOf? property = some info →
          info.namespaceName = namespaceName →
          readName (classFile unit registry namespaceName).imports.uses namespaceName
            found.reference = some (Imports.qualify namespaceName info.finalName))
        unit.properties (lookedUp unit registry namespaceName).1 := by
  refine ⟨by decide +kernel, ?_⟩
  rintro ⟨found, hfound, hall⟩
  obtain rfl : prepared twoCustomers strippingEntity = found :=
    Except.ok.inj ((prepare_eq_ok _ _).symm.trans hfound)
  obtain ⟨unit, hunit, -, hreads⟩ := hall orderPlan (by decide +kernel) (by decide)
  cases hunit
  have hfirst := hreads.get (i := 0) (by decide) (by decide +kernel)
    { kind := .entity, finalName := "Customer", namespaceName := "App\\Models\\Sales\\A"
      context := "Sales", aggregate := "A" } (by decide +kernel) rfl
  exact absurd hfirst (by decide +kernel)

/-- **The names that a class file binds.** They are distinct, and none is the name of the class,
exactly if the symbols of the framework stay clear of the names of the class and of the units that
are imported. Names that differ only in case are distinct here, though not for PHP. -/
theorem boundNames_distinct_iff [PatternLanguage] (model : Model) (settings : Settings)
    (hnames : model.hasIdentifierNames = true) :
    EveryClassFile model settings fun unit registry namespaceName =>
      let file := classFile unit registry namespaceName
      let boundNames := file.imports.uses.map Use.boundName
      (boundNames.Nodup ∧ ∀ decl, .classDecl decl ∈ file.declarations → decl.name ∉ boundNames) ↔
        SymbolsKeepClear unit registry namespaceName := by
  refine everyClassFile_of_isPlain hnames fun unit registry namespaceName hregistry => ?_
  obtain ⟨decl, hdeclarations, hname⟩ := exists_declarations_classFile unit registry namespaceName
  simp only [hdeclarations, List.mem_singleton, Declaration.classDecl.injEq, forall_eq, hname]
  exact distinct_iff_symbolsKeepClear hregistry

/-- An entity called as the class that all entities extend. -/
def entityNamedModel : Model :=
  { contexts := [{
      name := "Sales"
      aggregates := [{ name := "A", entities := [{ name := "Model" }] }] }] }

theorem boundNames_distinct_iff_entityNamedModel :
    entityNamedModel.hasIdentifierNames = true ∧
    EveryClassFile entityNamedModel { framework := .laravel } fun unit registry namespaceName =>
      let file := classFile unit registry namespaceName
      let boundNames := file.imports.uses.map Use.boundName
      (boundNames.Nodup ∧ ∀ decl, .classDecl decl ∈ file.declarations → decl.name ∉ boundNames) ↔
        SymbolsKeepClear unit registry namespaceName :=
  have hnames : entityNamedModel.hasIdentifierNames = true := by decide +kernel
  ⟨hnames, boundNames_distinct_iff entityNamedModel { framework := .laravel } hnames⟩

/-- The class `Model` imports another class of its own name. -/
theorem boundNames_clash :
    entityNamedModel.hasIdentifierNames = true ∧
    ¬ EveryClassFile entityNamedModel { framework := .laravel } fun unit registry namespaceName =>
      let file := classFile unit registry namespaceName
      let boundNames := file.imports.uses.map Use.boundName
      boundNames.Nodup ∧ ∀ decl, .classDecl decl ∈ file.declarations → decl.name ∉ boundNames := by
  refine ⟨by decide +kernel, ?_⟩
  rintro ⟨found, hfound, hall⟩
  obtain rfl : prepared entityNamedModel { framework := .laravel } = found :=
    Except.ok.inj ((prepare_eq_ok _ _).symm.trans hfound)
  obtain ⟨unit, hunit, -, -, hclass⟩ := hall {
    kind := .entity, name := "Model", context := "Sales", aggregate := "A"
    contextIndex := 0, aggregateIndex := 0, index := 0
    placement := {
      finalName := "Model", path := "Model.php", namespaceName := "App\\Models" } }
    (by decide +kernel) (by decide)
  cases hunit
  exact absurd (hclass _ (List.mem_singleton.2 rfl)) (by decide +kernel)

end Php

end DomainForge
