import DomainForge.Proofs.Generation
import DomainForge.Proofs.Php.ClassFile
import Mathlib.Data.List.Perm.Basic

/-!
# The order of declarations

A type name that several units have is looked up by rank and then by order, so the order of
declarations matters in general. It does not if every name is declared once: then a lookup finds
the one unit of that name, wherever it stands and whoever asks (`lookup?_eq_some_iff`), and two
registries with the same entries in another order answer alike (`lookup?_perm`). A class file reads
the registry through lookups only (`classFile_congr_lookup?`). So when contexts, aggregates and
units change places, the files change places and nothing else (`files_perm_of_isReordering`).
-/

namespace DomainForge

open Php

/-! ## Reordered models -/

/-- Two lists hold related items, each in an order of its own. -/
def Reordered {α β : Type} (R : α → β → Prop) (items : List α) (others : List β) : Prop :=
  ∃ sorted, items.Perm sorted ∧ List.Forall₂ R sorted others

theorem Reordered.flatMap_perm {α β γ : Type} {R : α → β → Prop} {items : List α} {others : List β}
    (h : Reordered R items others) {f : α → List γ} {g : β → List γ}
    (hfg : ∀ item other, R item other → (f item).Perm (g other)) :
    (items.flatMap f).Perm (others.flatMap g) := by
  obtain ⟨sorted, hperm, hrelated⟩ := h
  refine (hperm.flatMap_right f).trans ?_
  clear hperm
  induction hrelated with
  | nil => exact .nil
  | cons hhead _ ih =>
    rw [List.flatMap_cons, List.flatMap_cons]
    exact (hfg _ _ hhead).append ih

/-- An aggregate with the same units of each kind, in another order. -/
structure Aggregate.IsReordering (aggregate other : Aggregate) : Prop where
  name : aggregate.name = other.name
  enums : aggregate.enums.Perm other.enums
  valueObjects : aggregate.valueObjects.Perm other.valueObjects
  entities : aggregate.entities.Perm other.entities

/-- A context with the same aggregates in another order, each of them reordered. -/
structure BoundedContext.IsReordering (context other : BoundedContext) : Prop where
  name : context.name = other.name
  aggregates : Reordered Aggregate.IsReordering context.aggregates other.aggregates

/-- A model with the same contexts in another order, each of them reordered. -/
def Model.IsReordering (model other : Model) : Prop :=
  Reordered BoundedContext.IsReordering model.contexts other.contexts

/-- Reordering an aggregate permutes its declarations. -/
theorem Aggregate.IsReordering.declarations_perm {aggregate other : Aggregate}
    (h : aggregate.IsReordering other) : aggregate.declarations.Perm other.declarations :=
  ((h.enums.map _).append (h.valueObjects.map _)).append (h.entities.map _)

/-- The same units are declared, below the same names. -/
theorem Model.IsReordering.map_bare_perm {model other : Model} (h : model.IsReordering other) :
    (model.declarations.map DeclaredUnit.bare).Perm (other.declarations.map DeclaredUnit.bare) := by
  simp only [Model.declarations, List.map_flatMap, List.map_map]
  refine Reordered.flatMap_perm h fun context context' hcontext => ?_
  refine hcontext.aggregates.flatMap_perm fun aggregate aggregate' haggregate => ?_
  have hbare : (DeclaredUnit.bare ∘ fun unit => { context, aggregate, unit }) =
      DeclaredUnit.bare ∘ fun unit => { context := context', aggregate := aggregate', unit } := by
    funext unit
    simp only [Function.comp, DeclaredUnit.bare, DeclaredUnit.site, hcontext.name, haggregate.name]
  rw [hbare]
  exact haggregate.declarations_perm.map _

/-! ## Lookups -/

namespace Registry

theorem exists_lookup?_of_mem {registry : Registry} {name : String} {info : UnitInfo}
    (h : (name, info) ∈ registry.units) (context aggregate : String) :
    ∃ found, registry.lookup? name context aggregate = some found := by
  rw [← mem_candidates] at h
  obtain ⟨first, rest, hcandidates⟩ := List.exists_cons_of_ne_nil (List.ne_nil_of_mem h)
  rw [← Option.isSome_iff_exists]
  simp [lookup?, hcandidates]

/-- Where every name is registered once, a lookup finds the unit of that name from anywhere. -/
theorem lookup?_eq_some_iff {registry : Registry} (hnodup : (registry.units.map Prod.fst).Nodup)
    {name context aggregate : String} {info : UnitInfo} :
    registry.lookup? name context aggregate = some info ↔ (name, info) ∈ registry.units := by
  refine ⟨mem_of_lookup?, fun h => ?_⟩
  obtain ⟨found, hfound⟩ := exists_lookup?_of_mem h context aggregate
  have heq : (name, found) = (name, info) :=
    List.inj_on_of_nodup_map hnodup (mem_of_lookup? hfound) h rfl
  rw [hfound, (Prod.mk.inj heq).2]

/-- If names are distinct, lookups do not depend on the order of registration. -/
theorem lookup?_perm {registry other : Registry} (hperm : registry.units.Perm other.units)
    (hnodup : (registry.units.map Prod.fst).Nodup) : registry.lookup? = other.lookup? := by
  have hnodup' : (other.units.map Prod.fst).Nodup := (hperm.map Prod.fst).nodup_iff.1 hnodup
  funext name context aggregate
  refine Option.ext fun info => ?_
  rw [lookup?_eq_some_iff hnodup, lookup?_eq_some_iff hnodup', hperm.mem_iff]

end Registry

/-! ## Class files and lookups -/

namespace Php

namespace References

variable {references : References} {registry : Registry}
  (h : registry.lookup? = references.registry.lookup?)

include h

theorem targetOf?_withRegistry (property : Property) :
    targetOf? { references with registry } property = references.targetOf? property := by
  simp only [targetOf?, target?, h]

omit h in
theorem refer_withRegistry (info : UnitInfo) :
    refer { references with registry } info =
      ((references.refer info).1, { (references.refer info).2 with registry }) := by
  have hclashes : clashes { references with registry } info.finalName info.namespaceName =
      references.clashes info.finalName info.namespaceName := rfl
  unfold refer
  rw [hclashes]
  by_cases hown : info.namespaceName = references.namespaceName
  · simp only [if_pos hown]
  · by_cases hfull : info.namespaceName = "" ∨
        references.clashes info.finalName info.namespaceName = true
    · simp only [if_neg hown, if_pos hfull]
    · simp only [if_neg hown, if_neg hfull]
      rfl

/-- One property is resolved alike by registries that look up alike. -/
theorem resolve_withRegistry (property : Property) :
    resolve { references with registry } property =
      ((references.resolve property).1, { (references.resolve property).2 with registry }) := by
  have htarget := targetOf?_withRegistry h property
  cases hfound : references.targetOf? property with
  | none =>
    rw [hfound] at htarget
    rw [resolve_eq_of_none htarget, resolve_eq_of_none hfound]
  | some info =>
    rw [hfound] at htarget
    rw [resolve_eq_of_some htarget, resolve_eq_of_some hfound, refer_withRegistry]

/-- So are all of them, since the references that are left differ in the registry alone. -/
theorem resolveAll_withRegistry (properties : List Property) :
    resolveAll { references with registry } properties =
      ((references.resolveAll properties).1,
        { (references.resolveAll properties).2 with registry }) := by
  induction properties generalizing references with
  | nil => rfl
  | cons property rest ih =>
    -- a property adds imports and leaves the registry alone, so the next one is looked up alike
    obtain ⟨imported, imports, hframe⟩ := resolve_frame references property
    have hnext : registry.lookup? = (references.resolve property).2.registry.lookup? := by
      rw [hframe]
      exact h
    rw [resolveAll_cons, resolveAll_cons, resolve_withRegistry h, ih hnext]

end References

/-- The file of a class is the same with any registry that answers alike. -/
theorem classFile_congr_lookup? {registry other : Registry} (h : registry.lookup? = other.lookup?)
    (unit : ClassUnit) (namespaceName : String) :
    classFile unit registry namespaceName = classFile unit other namespaceName := by
  have hlookup : registry.lookup? = (classReferences unit other namespaceName).registry.lookup? := h
  have hlookedUp : lookedUp unit registry namespaceName =
      ((lookedUp unit other namespaceName).1,
        { (lookedUp unit other namespaceName).2 with registry }) :=
    References.resolveAll_withRegistry hlookup unit.properties
  have hclass (registry : Registry) : classFile unit registry namespaceName =
      { namespaceName
        imports := addImports (lookedUp unit registry namespaceName).2.imports
          (frameworkImports unit.settings.framework unit (lookedUp unit registry namespaceName).1)
        declarations := [.classDecl (assembleClass unit.settings.framework unit
          (lookedUp unit registry namespaceName).1)] } := rfl
  rw [hclass, hclass, hlookedUp]

end Php

/-- The file of a unit depends on the registry only through lookups. -/
theorem DeclaredUnit.file_congr_lookup? [PatternLanguage] {registry other : Registry}
    (h : registry.lookup? = other.lookup?) (settings : Settings) (declared : DeclaredUnit) :
    declared.file settings registry = declared.file settings other := by
  obtain ⟨context, aggregate, unit⟩ := declared
  cases unit with
  | enumeration unit => rfl
  | valueObject unit =>
    simp only [file, content]
    rw [classFile_congr_lookup? h]
  | entity unit =>
    simp only [file, content]
    rw [classFile_congr_lookup? h]

/-! ## Files of a reordered model -/

/-- **The order of declarations does not matter if names are unique.** Whatever is moved within its
list, the files of the reordered model are those of the model, in another order. -/
theorem files_perm_of_isReordering [PatternLanguage] (settings : Settings) {model reordered : Model}
    (hnames : (model.declarations.map fun declared => declared.unit.name).Nodup)
    (h : model.IsReordering reordered) :
    ∃ found found' files files',
      prepare model settings = .ok found ∧ prepare reordered settings = .ok found' ∧
      found.files = .ok files ∧ found'.files = .ok files' ∧ files.Perm files' := by
  have hbare := h.map_bare_perm
  have hfiles (model : Model) (registry : Registry) :
      model.declarations.map (DeclaredUnit.file settings · registry) =
        (model.declarations.map DeclaredUnit.bare).map (DeclaredUnit.file settings · registry) := by
    rw [List.map_map]
    rfl
  have hsites : (model.declarations.map DeclaredUnit.site).Perm
      (reordered.declarations.map DeclaredUnit.site) := by
    have hmapped := hbare.map DeclaredUnit.site
    rw [List.map_map, List.map_map] at hmapped
    exact hmapped
  -- here alone it matters that names are distinct
  have hlookup : (model.registry settings).lookup? = (reordered.registry settings).lookup? := by
    refine Registry.lookup?_perm ?_ ?_
    · rw [Model.units_registry, Model.units_registry]
      exact hsites.map _
    · rw [Model.registry, List.map_map]
      exact hnames
  refine ⟨_, _, _, _, prepare_eq_ok model settings, prepare_eq_ok reordered settings,
    files_prepared model settings, files_prepared reordered settings, ?_⟩
  rw [hfiles, hfiles]
  simp only [DeclaredUnit.file_congr_lookup? hlookup settings]
  exact hbare.map _

/-! ## Reversed models -/

/-- An aggregate with its units in reverse order. -/
def Aggregate.reversed (aggregate : Aggregate) : Aggregate :=
  { aggregate with
    entities := aggregate.entities.reverse
    valueObjects := aggregate.valueObjects.reverse
    enums := aggregate.enums.reverse }

/-- A context with all that it declares in reverse order. -/
def BoundedContext.reversed (context : BoundedContext) : BoundedContext :=
  { context with aggregates := context.aggregates.reverse.map Aggregate.reversed }

/-- A model that is declared from its end to its beginning. -/
def Model.reversed (model : Model) : Model :=
  { contexts := model.contexts.reverse.map BoundedContext.reversed }

theorem Reordered.map_reverse {α : Type} {R : α → α → Prop} {f : α → α}
    (h : ∀ item, R item (f item)) (items : List α) : Reordered R items (items.reverse.map f) := by
  refine ⟨items.reverse, (List.reverse_perm items).symm, ?_⟩
  rw [List.forall₂_map_right_iff, List.forall₂_same]
  exact fun item _ => h item

theorem Model.isReordering_reversed (model : Model) : model.IsReordering model.reversed := by
  have haggregate (aggregate : Aggregate) : aggregate.IsReordering aggregate.reversed :=
    ⟨rfl, (List.reverse_perm _).symm, (List.reverse_perm _).symm, (List.reverse_perm _).symm⟩
  have hcontext (context : BoundedContext) : context.IsReordering context.reversed :=
    ⟨rfl, .map_reverse haggregate context.aggregates⟩
  exact .map_reverse hcontext model.contexts

/-- Orders, prices and customers that refer to one another across aggregates and contexts. -/
def ordersAndPrices : Model :=
  { contexts := [
      { name := "Sales"
        aggregates := [
          { name := "Orders"
            enums := [{ name := "State", values := ["open"] }, { name := "Channel" }]
            entities := [
              { name := "Order"
                properties := [
                  { name := "lines", type := "Line", isCollection := true },
                  { name := "customer", type := "Customer" },
                  { name := "state", type := "State" }] },
              { name := "Line", properties := [{ name := "price", type := "Price" }] }] },
          { name := "Prices"
            valueObjects := [
              { name := "Price", properties := [{ name := "discount", type := "Discount" }] },
              { name := "Discount" }] }] },
      { name := "Support"
        aggregates := [{
          name := "Customers"
          entities := [{
            name := "Customer"
            properties := [{ name := "orders", type := "Order", isCollection := true }] }] }] }] }

theorem files_perm_of_isReordering_ordersAndPrices :
    (ordersAndPrices.declarations.map fun declared => declared.unit.name).Nodup ∧
    ordersAndPrices.IsReordering ordersAndPrices.reversed ∧
    ∃ found found' files files',
      prepare ordersAndPrices { directoryStructure := .psr4 } = .ok found ∧
      prepare ordersAndPrices.reversed { directoryStructure := .psr4 } = .ok found' ∧
      found.files = .ok files ∧ found'.files = .ok files' ∧ files.Perm files' :=
  have hnames : (ordersAndPrices.declarations.map fun declared => declared.unit.name).Nodup := by
    decide
  have hreordering := ordersAndPrices.isReordering_reversed
  ⟨hnames, hreordering,
    files_perm_of_isReordering { directoryStructure := .psr4 } hnames hreordering⟩

end DomainForge
