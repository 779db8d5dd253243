import DomainForge.Pattern.Language
import DomainForge.Proofs.Generation

/-!
# Editing a unit

The skeleton of a model has its contexts, aggregates and units, each with nothing but its name. All
that the units of a run have in common is made from the skeleton: the plans (`plans_skeleton`), the
registry (`registry_skeleton`) and the findings (`diagnostics_skeleton`). What is said inside a unit
is read once, for the file of that unit. So models with one skeleton give the same files, but for
those of the units that were edited (`files_agree_of_skeleton_eq`).
-/

namespace DomainForge

/-! ## Skeletons -/

/-- An entity with its name alone. -/
def Entity.skeleton (entity : Entity) : Entity :=
  { name := entity.name }

/-- A value object with its name alone. -/
def ValueObject.skeleton (valueObject : ValueObject) : ValueObject :=
  { name := valueObject.name }

/-- An enumeration with its name alone. -/
def Enumeration.skeleton (enumeration : Enumeration) : Enumeration :=
  { name := enumeration.name }

/-- An aggregate with the names of its units. -/
def Aggregate.skeleton (aggregate : Aggregate) : Aggregate :=
  { name := aggregate.name
    entities := aggregate.entities.map Entity.skeleton
    valueObjects := aggregate.valueObjects.map ValueObject.skeleton
    enums := aggregate.enums.map Enumeration.skeleton }

/-- A context with the names of its aggregates and their units. -/
def BoundedContext.skeleton (context : BoundedContext) : BoundedContext :=
  { name := context.name
    aggregates := context.aggregates.map Aggregate.skeleton }

/-- A model with the names of everything and no properties, labels or marks of aggregate roots. -/
def Model.skeleton (model : Model) : Model :=
  { contexts := model.contexts.map BoundedContext.skeleton }

/-- What is declared of a unit, down to its name. -/
def UnitDecl.skeleton : UnitDecl → UnitDecl
  | enumeration unit => enumeration unit.skeleton
  | valueObject unit => valueObject unit.skeleton
  | entity unit => entity unit.skeleton

/-- A declared unit, and where it is declared, with their names alone. -/
def DeclaredUnit.skeleton (declared : DeclaredUnit) : DeclaredUnit :=
  { context := declared.context.skeleton
    aggregate := declared.aggregate.skeleton
    unit := declared.unit.skeleton }

theorem Aggregate.units_skeleton (aggregate : Aggregate) :
    aggregate.skeleton.units = aggregate.units := by
  simp only [units, skeleton, List.zipIdx_map, List.map_map]
  rfl

theorem Aggregate.declarations_skeleton (aggregate : Aggregate) :
    aggregate.skeleton.declarations = aggregate.declarations.map UnitDecl.skeleton := by
  simp only [declarations, skeleton, List.map_append, List.map_map]
  rfl

/-- Where a unit is declared is known by its names. -/
theorem DeclaredUnit.site_skeleton (declared : DeclaredUnit) :
    declared.skeleton.site = declared.site := by
  obtain ⟨context, aggregate, unit⟩ := declared
  cases unit <;> rfl

/-! ## What is made from the skeleton -/

namespace Model

variable (model : Model) (settings : Settings)

theorem aggregates_skeleton :
    model.skeleton.aggregates =
      model.aggregates.map (Prod.map BoundedContext.skeleton Aggregate.skeleton) := by
  simp only [aggregates, skeleton, BoundedContext.skeleton, List.flatMap_map, List.map_flatMap,
    List.map_map]
  rfl

theorem declarations_skeleton :
    model.skeleton.declarations = model.declarations.map DeclaredUnit.skeleton := by
  rw [declarations_eq_flatMap, declarations_eq_flatMap, aggregates_skeleton, List.flatMap_map,
    List.map_flatMap]
  refine List.flatMap_congr fun (context, aggregate) _ => ?_
  simp only [Prod.map, Aggregate.declarations_skeleton, List.map_map]
  rfl

theorem map_site_skeleton :
    model.skeleton.declarations.map DeclaredUnit.site =
      model.declarations.map DeclaredUnit.site := by
  rw [declarations_skeleton, List.map_map]
  exact List.map_congr_left fun declared _ => declared.site_skeleton

/-- Nothing but names is registered. -/
theorem registry_skeleton [PatternLanguage] :
    model.skeleton.registry settings = model.registry settings := by
  have hunits : (model.skeleton.registry settings).units = (model.registry settings).units := by
    rw [units_registry, units_registry, map_site_skeleton]
  exact congrArg Registry.mk hunits

/-- Plans are made of names alone. -/
theorem plans_skeleton (layout : Layout) (rules : List CompiledRule) :
    model.skeleton.plans layout rules = model.plans layout rules := by
  simp only [plans, skeleton, BoundedContext.skeleton, planAggregate, List.zipIdx_map,
    List.flatMap_map, Prod.map, Aggregate.units_skeleton]
  rfl

end Model

theorem Lint.takenNames_skeleton (context : BoundedContext) (aggregate : Aggregate)
    (earlier units : List (UnitKind × Nat × String)) :
    takenNames context.skeleton aggregate.skeleton earlier units =
      takenNames context aggregate earlier units := by
  induction units generalizing earlier with
  | nil => rfl
  | cons unit rest ih =>
    -- what is said of a taken name mentions the context and the aggregate by name
    simp only [takenNames, ih]
    rfl

/-- All that is reported is about names. -/
theorem diagnostics_skeleton [PatternLanguage] (model : Model) (settings : Settings) :
    (prepared model.skeleton settings).diagnostics = (prepared model settings).diagnostics := by
  simp only [diagnostics_prepared, plans_prepared, model.plans_skeleton,
    model.aggregates_skeleton, List.flatMap_map, Prod.map, Lint.takenNames_skeleton,
    Aggregate.units_skeleton]

/-! ## Files -/

namespace DeclaredUnit

variable [PatternLanguage] (settings : Settings)

/-- The file of a unit is made from its site, its body and the registry. -/
theorem file_congr {declared other : DeclaredUnit} (hsite : declared.site = other.site)
    (hunit : declared.unit = other.unit) (registry : Registry) :
    declared.file settings registry = other.file settings registry := by
  have hbare : declared.bare = other.bare := by rw [bare, bare, hsite, hunit]
  rw [← declared.file_bare, hbare, other.file_bare]

/-- What is told of a file by the site of its unit alone is told by the list of sites. -/
theorem map_map_file {β : Type} {f : OutputFile → β} {g : UnitSite → β}
    (hf : ∀ declared registry, f (file settings declared registry) = g declared.site)
    (declarations : List DeclaredUnit) (registry : Registry) :
    (declarations.map (file settings · registry)).map f =
      (declarations.map DeclaredUnit.site).map g := by
  simp only [List.map_map]
  exact List.map_congr_left fun declared _ => hf declared registry

/-- If sites agree, the files of equal units agree wherever they stand. -/
theorem getElem?_map_file_congr {declarations others : List DeclaredUnit}
    (hsites : declarations.map DeclaredUnit.site = others.map DeclaredUnit.site) {index : Nat}
    (hunit : declarations[index]?.map DeclaredUnit.unit = others[index]?.map DeclaredUnit.unit)
    (registry : Registry) :
    (declarations.map (file settings · registry))[index]? =
      (others.map (file settings · registry))[index]? := by
  have hsite : declarations[index]?.map DeclaredUnit.site =
      others[index]?.map DeclaredUnit.site := by
    simpa using congrArg (·[index]?) hsites
  rw [List.getElem?_map, List.getElem?_map]
  cases hdeclared : declarations[index]? with
  | none =>
    rw [hdeclared, Option.map_none, eq_comm, Option.map_eq_none_iff] at hsite
    rw [hsite]
  | some declared =>
    cases hother : others[index]? with
    | none => simp [hdeclared, hother] at hsite
    | some other =>
      simp only [hdeclared, hother, Option.map_some, Option.some.injEq] at hsite hunit ⊢
      exact file_congr settings hsite hunit registry

end DeclaredUnit

/-- **Editing one unit changes one file.** Two models with one skeleton give the same findings, and
the same kinds and paths of files. There is a file for each unit, in order, and where both models
have the same unit at a position both runs have the same file there. -/
theorem files_agree_of_skeleton_eq [PatternLanguage] (settings : Settings) {model edited : Model}
    (h : model.skeleton = edited.skeleton) :
    ∃ found found' files files',
      prepare model settings = .ok found ∧ prepare edited settings = .ok found' ∧
      found.files = .ok files ∧ found'.files = .ok files' ∧
      found.diagnostics = found'.diagnostics ∧
      files.length = model.declarations.length ∧ files.length = files'.length ∧
      files.map OutputFile.kind = files'.map OutputFile.kind ∧
      files.map OutputFile.path = files'.map OutputFile.path ∧
      ∀ index : Nat, model.declarations[index]?.map DeclaredUnit.unit =
          edited.declarations[index]?.map DeclaredUnit.unit →
        files[index]? = files'[index]? := by
  have hdiagnostics : (prepared model settings).diagnostics =
      (prepared edited settings).diagnostics := by
    rw [← diagnostics_skeleton, h, diagnostics_skeleton]
  have hsites : model.declarations.map DeclaredUnit.site =
      edited.declarations.map DeclaredUnit.site := by
    rw [← model.map_site_skeleton, h, edited.map_site_skeleton]
  have hregistry : model.registry settings = edited.registry settings := by
    rw [← model.registry_skeleton, h, edited.registry_skeleton]
  have hlength : model.declarations.length = edited.declarations.length := by
    simpa using congrArg List.length hsites
  refine ⟨_, _, _, _, prepare_eq_ok model settings, prepare_eq_ok edited settings,
    files_prepared model settings, files_prepared edited settings, hdiagnostics, ?_, ?_, ?_, ?_,
    fun index hunit => ?_⟩
  · rw [List.length_map]
  · rw [List.length_map, List.length_map, hlength]
  · have hkind (declared : DeclaredUnit) (registry : Registry) :
        (declared.file settings registry).kind = declared.site.kind := rfl
    rw [DeclaredUnit.map_map_file settings hkind, DeclaredUnit.map_map_file settings hkind, hsites]
  · have hpath (declared : DeclaredUnit) (registry : Registry) :
        (declared.file settings registry).path = (declared.site.placement settings).path := rfl
    rw [DeclaredUnit.map_map_file settings (g := fun site => (site.placement settings).path) hpath,
      DeclaredUnit.map_map_file settings (g := fun site => (site.placement settings).path) hpath,
      hsites]
  · rw [hregistry]
    exact DeclaredUnit.getElem?_map_file_congr settings hsites hunit _

/-- A context whose only unit refers to units of another context. -/
def billing : BoundedContext :=
  { name := "Billing"
    aggregates := [{
      name := "Bills"
      entities := [{
        name := "Bill"
        properties := [
          { name := "total", type := "Price" }, { name := "order", type := "Order" }] }] }] }

/-- A price that is mentioned by an order of the same aggregate and by a bill of another context. -/
def pricedOrders : Model :=
  { contexts := [
      { name := "Sales"
        aggregates := [{
          name := "Orders"
          enums := [{ name := "State", values := ["open", "paid"] }]
          valueObjects := [{
            name := "Price", properties := [{ name := "amount", type := "Decimal" }] }]
          entities := [{
            name := "Order"
            properties := [
              { name := "price", type := "Price" }, { name := "state", type := "State" }]
            isAggregateRoot := true }] }] },
      billing] }

/-- The same model after the price and the order were edited. -/
def pricedOrdersEdited : Model :=
  { contexts := [
      { name := "Sales"
        aggregates := [{
          name := "Orders"
          enums := [{ name := "State", values := ["open", "paid"] }]
          valueObjects := [{
            name := "Price"
            properties := [
              { name := "amount", type := "Decimal" }, { name := "bill", type := "Bill" }] }]
          entities := [{ name := "Order" }] }] },
      billing] }

theorem files_agree_of_skeleton_eq_pricedOrders :
    pricedOrders.skeleton = pricedOrdersEdited.skeleton ∧
    ∃ found found' files files',
      prepare pricedOrders { directoryStructure := .psr4 } = .ok found ∧
      prepare pricedOrdersEdited { directoryStructure := .psr4 } = .ok found' ∧
      found.files = .ok files ∧ found'.files = .ok files' ∧
      found.diagnostics = found'.diagnostics ∧
      files.length = pricedOrders.declarations.length ∧ files.length = files'.length ∧
      files.map OutputFile.kind = files'.map OutputFile.kind ∧
      files.map OutputFile.path = files'.map OutputFile.path ∧
      ∀ index : Nat, pricedOrders.declarations[index]?.map DeclaredUnit.unit =
          pricedOrdersEdited.declarations[index]?.map DeclaredUnit.unit →
        files[index]? = files'[index]? :=
  ⟨rfl, files_agree_of_skeleton_eq { directoryStructure := .psr4 } rfl⟩

end DomainForge
