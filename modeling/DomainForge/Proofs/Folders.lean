import DomainForge.Proofs.Generation
import DomainForge.Proofs.Php.ClassFile

/-!
# Folders and contents

Three choices say into which folder a file goes: the directory structure, the folder for the kind of
a unit, and the subfolders of path rules. Settings without them (`Settings.withoutFolders`) put all
files into one place. Only the PSR-4 structure makes namespaces of folders. With any other one all
classes share a namespace, so a unit is registered as it would be without folders
(`registry_withoutFolders`), its file says the same (`content_withoutFolders`), and there is nothing
to import from another namespace (`importsNoUnits_prepared`).
-/

namespace DomainForge

open Php

/-! ## Settings without folders -/

/-- A path rule that may rename units and leaves them where they are. -/
def PathRule.withoutSubfolder (rule : PathRule) : PathRule :=
  { rule with subfolder := "" }

/-- Settings that put all files into one place, under the same names. -/
def Settings.withoutFolders (settings : Settings) : Settings :=
  { settings with
    directoryStructure := .flat
    groupByType := false
    pathRules := settings.pathRules.map PathRule.withoutSubfolder }

/-- The same of a rule that has been read. -/
def CompiledRule.withoutSegments (rule : CompiledRule) : CompiledRule :=
  { rule with segments := [] }

section Reading

variable [PatternLanguage]

theorem compileRule_withoutSubfolder (index : Nat) (rule : PathRule) :
    (compileRule index rule.withoutSubfolder).1 =
      (compileRule index rule).1.map CompiledRule.withoutSegments := by
  have hpattern : rule.withoutSubfolder.pattern = rule.pattern := rfl
  have hsegments : rule.withoutSubfolder.segments = [] := rfl
  rw [compileRule, compileRule, hpattern, hsegments]
  cases PatternLanguage.read rule.pattern with
  | error fault => rfl
  | ok pattern => rfl

theorem compileRulesFrom_withoutSubfolder (index : Nat) (rules : List PathRule) :
    (compileRulesFrom index (rules.map PathRule.withoutSubfolder)).1 =
      (compileRulesFrom index rules).1.map CompiledRule.withoutSegments := by
  induction rules generalizing index with
  | nil => rfl
  | cons rule rest ih =>
    simp only [List.map_cons, compileRulesFrom, compileRule_withoutSubfolder, ih, List.map_append]
    cases (compileRule index rule).1 <;> rfl

end Reading

/-! ## Placing without folders -/

/-- Outside PSR-4 every unit stands in the namespace that all others would begin with. -/
theorem Layout.namespaceOf_of_ne_psr4 {layout : Layout} (h : layout.directories ≠ .psr4)
    (folders : List String) : layout.namespaceOf folders = layout.stem := by
  unfold Layout.namespaceOf
  split
  · contradiction
  · rfl

namespace UnitSite

variable [PatternLanguage] (settings : Settings) (site : UnitSite)

/-- The same rule applies, and it renames in the same way. -/
theorem finalName_withoutFolders :
    (site.placement settings.withoutFolders).finalName = (site.placement settings).finalName := by
  have hrules : (compileRules settings.withoutFolders.pathRules).1 =
      (compileRules settings.pathRules).1.map CompiledRule.withoutSegments :=
    compileRulesFrom_withoutSubfolder 0 settings.pathRules
  simp only [placement, Layout.place, hrules, List.find?_map, Option.map_map]
  rfl

variable {settings}

/-- Unless directories follow PSR-4, every unit has the root namespace. -/
theorem namespaceName_placement (h : settings.directoryStructure ≠ .psr4) :
    (site.placement settings).namespaceName = settings.namespaceStem :=
  Layout.namespaceOf_of_ne_psr4 h _

theorem namespaceName_withoutFolders (h : settings.directoryStructure ≠ .psr4) :
    (site.placement settings.withoutFolders).namespaceName =
      (site.placement settings).namespaceName := by
  have hflat : settings.withoutFolders.directoryStructure ≠ .psr4 := by
    simp [Settings.withoutFolders]
  rw [site.namespaceName_placement h, site.namespaceName_placement hflat]
  rfl

end UnitSite

/-! ## Contents without folders -/

section Contents

variable [PatternLanguage] {settings : Settings} (h : settings.directoryStructure ≠ .psr4)

include h

theorem registry_withoutFolders (model : Model) :
    model.registry settings.withoutFolders = model.registry settings := by
  have hunits : (model.registry settings.withoutFolders).units =
      (model.registry settings).units := by
    rw [Model.units_registry, Model.units_registry]
    refine List.map_congr_left fun site _ => ?_
    rw [UnitSite.entry, UnitSite.entry, site.finalName_withoutFolders,
      site.namespaceName_withoutFolders h]
  exact congrArg Registry.mk hunits

/-- The text of a file does not depend on the folder that it goes to. -/
theorem content_withoutFolders (declared : DeclaredUnit) (registry : Registry) :
    declared.content settings.withoutFolders registry = declared.content settings registry := by
  have hname : (declared.placement settings.withoutFolders).finalName =
      (declared.placement settings).finalName := declared.site.finalName_withoutFolders settings
  have hnamespace : (declared.placement settings.withoutFolders).namespaceName =
      (declared.placement settings).namespaceName := declared.site.namespaceName_withoutFolders h
  obtain ⟨context, aggregate, unit⟩ := declared
  -- with the same names, a class differs in settings that no part of it reads
  cases unit with
  | enumeration unit =>
    simp only [DeclaredUnit.content, enumFile, hname, hnamespace]
  | valueObject unit =>
    simp only [DeclaredUnit.content, hname, hnamespace]
    rfl
  | entity unit =>
    simp only [DeclaredUnit.content, hname, hnamespace]
    rfl

end Contents

/-! ## Imports outside PSR-4 -/

namespace Php

namespace References

/-- If no property refers to a unit that can be imported, nothing is imported. -/
theorem resolveAll_of_foreign?_eq_none {references : References} {properties : List Property}
    (h : ∀ property ∈ properties, references.foreign? property = none) :
    (references.resolveAll properties).2 = references := by
  induction properties with
  | nil => rfl
  | cons property rest ih =>
    have hstep : (references.resolve property).2 = references := by
      rcases resolve_cases references property with ⟨-, hkept⟩ | ⟨info, hforeign, -⟩
      · exact hkept
      · rw [h property List.mem_cons_self] at hforeign
        cases hforeign
    rw [resolveAll_cons, hstep]
    exact ih fun other hother => h other (List.mem_cons_of_mem property hother)

theorem foreign?_eq_none_of_own {references : References}
    (h : ∀ entry ∈ references.registry.units, entry.2.namespaceName = references.namespaceName)
    (property : Property) : references.foreign? property = none := by
  rw [Option.eq_none_iff_forall_ne_some]
  intro info hforeign
  obtain ⟨htarget, hother, -⟩ := foreign?_eq_some_iff.1 hforeign
  exact hother (h _ (mem_of_target? htarget))

end References

/-- Where all units have one namespace, no reference needs an import. -/
theorem imports_lookedUp_of_own (unit : ClassUnit) {registry : Registry} {namespaceName : String}
    (h : ∀ entry ∈ registry.units, entry.2.namespaceName = namespaceName) :
    (lookedUp unit registry namespaceName).2.imports = {} := by
  have hnone (property : Property) :
      (classReferences unit registry namespaceName).foreign? property = none :=
    References.foreign?_eq_none_of_own h property
  rw [lookedUp, References.resolveAll_of_foreign?_eq_none fun property _ => hnone property]
  rfl

end Php

/-- The file of a plan for an enumeration is its text, which imports nothing. -/
theorem generateFile_of_enumeration [PatternLanguage] {model : Model} {settings : Settings}
    {plan : UnitPlan} (hplan : plan ∈ (prepared model settings).plans)
    (hkind : plan.kind = .enumeration) :
    ∃ unit, generateFile (prepared model settings) plan = .ok {
      path := plan.placement.path
      content := (enumFile plan.placement unit).render
      kind := plan.kind } := by
  rw [plans_prepared] at hplan
  obtain ⟨context, -, aggregate, -, haggregate, -, -, hunit, -⟩ := Model.mem_plans hplan
  rw [Aggregate.mem_units, hkind] at hunit
  obtain ⟨unit, hindex, -⟩ := hunit
  refine ⟨unit, ?_⟩
  simp [generateFile, haggregate, contentIn, hkind, hindex, unitOr, Except.map]

/-- No file of a run imports a unit. Looking up the properties of a class leaves its imports empty,
so that they are those of the framework, and an enumeration has none. -/
structure Preparation.ImportsNoUnits (found : Preparation) : Prop where
  classes : ∀ plan ∈ found.plans, ∀ unit, found.classUnit? plan = some unit →
    generateFile found plan = .ok {
      path := plan.placement.path
      content := (classFile unit found.registry plan.placement.namespaceName).render
      kind := plan.kind } ∧
    (lookedUp unit found.registry plan.placement.namespaceName).2.imports = {} ∧
    (classFile unit found.registry plan.placement.namespaceName).imports =
      addImports {} (classSymbols unit found.registry plan.placement.namespaceName)
  enumerations : ∀ plan ∈ found.plans, found.classUnit? plan = none →
    ∃ unit, generateFile found plan = .ok {
      path := plan.placement.path
      content := (enumFile plan.placement unit).render
      kind := plan.kind } ∧
    (enumFile plan.placement unit).imports = {}

/-- Unless directories follow PSR-4, no file imports the class of a unit. -/
theorem importsNoUnits_prepared [PatternLanguage] (model : Model) {settings : Settings}
    (h : settings.directoryStructure ≠ .psr4) : (prepared model settings).ImportsNoUnits where
  classes := by
    intro plan hplan unit hunit
    have hnamespace : plan.placement.namespaceName = settings.namespaceStem := by
      rw [plans_prepared] at hplan
      obtain ⟨-, -, -, -, -, -, -, -, hplacement⟩ := Model.mem_plans hplan
      rw [hplacement]
      exact UnitSite.namespaceName_placement _ h
    have hown : ∀ entry ∈ (prepared model settings).registry.units,
        entry.2.namespaceName = plan.placement.namespaceName := by
      rw [registry_prepared_eq, Model.units_registry, hnamespace]
      intro entry hentry
      obtain ⟨site, -, rfl⟩ := List.mem_map.1 hentry
      exact site.namespaceName_placement h
    have himports := imports_lookedUp_of_own unit hown
    refine ⟨generateFile_of_classUnit? hunit, himports, ?_⟩
    rw [imports_classFile, himports]
  enumerations := by
    intro plan hplan hnone
    have hkind : plan.kind = .enumeration := by
      by_contra hkind
      obtain ⟨unit, hunit⟩ := exists_classUnit? hplan hkind
      rw [hnone] at hunit
      cases hunit
    obtain ⟨unit, hfile⟩ := generateFile_of_enumeration hplan hkind
    exact ⟨unit, hfile, rfl⟩

/-- **Folders do not influence contents.** Under two settings that differ in their folders only, and
of which neither is PSR-4, the files of a model agree in kind and content, one by one, and no unit
is imported in either run. -/
theorem contents_agree_of_withoutFolders_eq [PatternLanguage] (model : Model)
    {settings other : Settings} (h : settings.withoutFolders = other.withoutFolders)
    (hsettings : settings.directoryStructure ≠ .psr4)
    (hother : other.directoryStructure ≠ .psr4) :
    ∃ found found' files files',
      prepare model settings = .ok found ∧ prepare model other = .ok found' ∧
      found.files = .ok files ∧ found'.files = .ok files' ∧
      List.Forall₂ (fun file file' => file.kind = file'.kind ∧ file.content = file'.content)
        files files' ∧
      found.ImportsNoUnits ∧ found'.ImportsNoUnits := by
  refine ⟨_, _, _, _, prepare_eq_ok model settings, prepare_eq_ok model other,
    files_prepared model settings, files_prepared model other, ?_,
    importsNoUnits_prepared model hsettings, importsNoUnits_prepared model hother⟩
  rw [List.forall₂_map_left_iff, List.forall₂_map_right_iff, List.forall₂_same]
  intro declared _
  refine ⟨rfl, ?_⟩
  calc declared.content settings (model.registry settings)
    _ = declared.content settings.withoutFolders (model.registry settings.withoutFolders) := by
      rw [content_withoutFolders hsettings, registry_withoutFolders hsettings]
    _ = declared.content other.withoutFolders (model.registry other.withoutFolders) := by rw [h]
    _ = declared.content other (model.registry other) := by
      rw [content_withoutFolders hother, registry_withoutFolders hother]

/-- Orders that refer to a customer of another context and to a state of their own aggregate. -/
def ordersOfCustomers : Model :=
  { contexts := [
      { name := "Sales"
        aggregates := [{
          name := "Orders"
          enums := [{ name := "State", values := ["open"] }]
          entities := [{
            name := "OrderEntity"
            properties := [
              { name := "customer", type := "CustomerEntity" },
              { name := "state", type := "State" }] }] }] },
      { name := "Support"
        aggregates := [{
          name := "Customers"
          entities := [{
            name := "CustomerEntity"
            properties := [
              { name := "orders", type := "OrderEntity", isCollection := true }] }] }] }] }

/-- Entities lose the ending of their name and go to a folder of their own, below that of their
kind. -/
def foldersByKind : Settings :=
  { framework := .doctrine
    groupByType := true
    pathRules := [{ pattern := "Entity$", subfolder := "Stored/Rows", strip := some "Entity$" }] }

/-- Entities lose the ending of their name, and every aggregate has a folder. -/
def foldersByAggregate : Settings :=
  { framework := .doctrine
    directoryStructure := .byAggregate
    pathRules := [{ pattern := "Entity$", strip := some "Entity$" }] }

theorem contents_agree_of_withoutFolders_eq_ordersOfCustomers :
    foldersByKind.withoutFolders = foldersByAggregate.withoutFolders ∧
    foldersByKind.directoryStructure ≠ .psr4 ∧ foldersByAggregate.directoryStructure ≠ .psr4 ∧
    ∃ found found' files files',
      prepare ordersOfCustomers foldersByKind = .ok found ∧
      prepare ordersOfCustomers foldersByAggregate = .ok found' ∧
      found.files = .ok files ∧ found'.files = .ok files' ∧
      List.Forall₂ (fun file file' => file.kind = file'.kind ∧ file.content = file'.content)
        files files' ∧
      found.ImportsNoUnits ∧ found'.ImportsNoUnits :=
  have hkind : foldersByKind.directoryStructure ≠ .psr4 := by decide
  have haggregate : foldersByAggregate.directoryStructure ≠ .psr4 := by decide
  ⟨rfl, hkind, haggregate,
    contents_agree_of_withoutFolders_eq ordersOfCustomers rfl hkind haggregate⟩

end DomainForge
