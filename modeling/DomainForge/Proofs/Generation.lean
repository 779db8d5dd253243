import DomainForge.Report
import DomainForge.Proofs.Preparation
import Mathlib.Data.List.Forall2

/-!
# One file for every unit

The units of a model are walked several times: they are planned with their positions, counted, and
looked up again when their files are written. Here they are listed once more, without positions, as
the declarations that they are (`Model.declarations`), and all the other walks are compared with
this list. A plan finds the declaration that it was made for (`forall₂_plans`), so no lookup fails
and generation gives the files of the declarations, in order (`generate_eq_ok`).
-/

namespace DomainForge

/-! ## Declarations -/

/-- What is declared as a unit. -/
inductive UnitDecl where
  | enumeration (unit : Enumeration)
  | valueObject (unit : ValueObject)
  | entity (unit : Entity)
deriving Repr, DecidableEq

namespace UnitDecl

/-- The kind of a unit. -/
def kind : UnitDecl → UnitKind
  | enumeration _ => .enumeration
  | valueObject _ => .valueObject
  | entity _ => .entity

/-- The declared name of a unit. -/
def name : UnitDecl → String
  | enumeration unit => unit.name
  | valueObject unit => unit.name
  | entity unit => unit.name

end UnitDecl

/-- A unit, and where it is declared. -/
structure DeclaredUnit where
  context : BoundedContext
  aggregate : Aggregate
  unit : UnitDecl

/-- The units of an aggregate: enumerations, then value objects, then entities. -/
def Aggregate.declarations (aggregate : Aggregate) : List UnitDecl :=
  aggregate.enums.map .enumeration ++ aggregate.valueObjects.map .valueObject ++
    aggregate.entities.map .entity

/-- The units of a model, context by context and aggregate by aggregate. -/
def Model.declarations (model : Model) : List DeclaredUnit :=
  model.contexts.flatMap fun context =>
    context.aggregates.flatMap fun aggregate =>
      aggregate.declarations.map fun unit => { context, aggregate, unit }

namespace DeclaredUnit

variable [PatternLanguage] (settings : Settings) (declared : DeclaredUnit)

/-- What is known of a unit when it is placed. -/
def site : UnitSite :=
  { name := declared.unit.name
    kind := declared.unit.kind
    context := declared.context.name
    aggregate := declared.aggregate.name }

/-- Where a unit goes, and under which name. -/
def placement : Placement :=
  (Layout.ofSettings settings).place (compileRules settings.pathRules).1 declared.site

/-- What is registered for a unit. -/
def info : UnitInfo :=
  { kind := declared.unit.kind
    finalName := (declared.placement settings).finalName
    namespaceName := (declared.placement settings).namespaceName
    context := declared.context.name
    aggregate := declared.aggregate.name }

/-- The text of the file of a unit, given the units that its properties may refer to. -/
def content (registry : Registry) : String :=
  let placement := declared.placement settings
  match declared.unit with
  | .enumeration unit => (Php.enumFile placement unit).render
  | .valueObject unit =>
    Php.File.render <| Php.classFile
      { kind := .valueObject
        name := placement.finalName
        context := declared.context.name
        aggregate := declared.aggregate.name
        properties := unit.properties
        readonlyMode := .ofSettings settings
        settings } registry placement.namespaceName
  | .entity unit =>
    Php.File.render <| Php.classFile
      { kind := .entity
        name := placement.finalName
        context := declared.context.name
        aggregate := declared.aggregate.name
        properties := unit.properties
        isAggregateRoot := unit.isAggregateRoot
        settings } registry placement.namespaceName

/-- The file of a unit. -/
def file (registry : Registry) : OutputFile :=
  { path := (declared.placement settings).path
    content := declared.content settings registry
    kind := declared.unit.kind }

/-- A unit with nothing around it but the names of its context and aggregate. -/
def bare : DeclaredUnit :=
  { context := { name := declared.site.context }
    aggregate := { name := declared.site.aggregate }
    unit := declared.unit }

theorem file_bare (registry : Registry) :
    declared.bare.file settings registry = declared.file settings registry :=
  rfl

end DeclaredUnit

/-- All units of a model under their declared names, in order. -/
def Model.registry [PatternLanguage] (model : Model) (settings : Settings) : Registry :=
  { units := model.declarations.map fun declared =>
      (declared.unit.name, declared.info settings) }

namespace UnitSite

variable [PatternLanguage] (settings : Settings) (site : UnitSite)

/-- Where a unit goes, by its site. -/
def placement : Placement :=
  (Layout.ofSettings settings).place (compileRules settings.pathRules).1 site

/-- What is registered for a unit, by its site. -/
def entry : String × UnitInfo :=
  (site.name,
    { kind := site.kind
      finalName := (site.placement settings).finalName
      namespaceName := (site.placement settings).namespaceName
      context := site.context
      aggregate := site.aggregate })

end UnitSite

/-- The registry knows of a unit no more than its site tells. -/
theorem Model.units_registry [PatternLanguage] (model : Model) (settings : Settings) :
    (model.registry settings).units =
      (model.declarations.map DeclaredUnit.site).map (UnitSite.entry settings) := by
  rw [List.map_map]
  rfl

/-! ## Plans -/

/-- The unit of a kind at a position, counted among those of its kind. -/
def Aggregate.unit? (aggregate : Aggregate) (kind : UnitKind) (index : Nat) : Option UnitDecl :=
  match kind with
  | .enumeration => aggregate.enums[index]?.map .enumeration
  | .valueObject => aggregate.valueObjects[index]?.map .valueObject
  | .entity => aggregate.entities[index]?.map .entity

/-- A plan is made for a declaration: it says the same, and its positions lead there. -/
structure UnitPlan.IsFor [PatternLanguage] (model : Model) (settings : Settings) (plan : UnitPlan)
    (declared : DeclaredUnit) : Prop where
  kind : plan.kind = declared.unit.kind
  name : plan.name = declared.unit.name
  context : plan.context = declared.context.name
  aggregate : plan.aggregate = declared.aggregate.name
  placement : plan.placement = declared.placement settings
  aggregate? : model.aggregate? plan.contextIndex plan.aggregateIndex = some declared.aggregate
  unit? : declared.aggregate.unit? plan.kind plan.index = some declared.unit

theorem forall₂_zipIdx {α : Type} (items : List α) :
    List.Forall₂ (fun entry item => entry.1 = item ∧ items[entry.2]? = some item)
      items.zipIdx items := by
  rw [List.forall₂_iff_get]
  refine ⟨List.length_zipIdx, ?_⟩
  intro index hleft hright
  simp

theorem forall₂_zipIdx_map {α β γ : Type} {R : β → γ → Prop} {items : List α} {f : α × Nat → β}
    {g : α → γ} (h : ∀ item index, items[index]? = some item → R (f (item, index)) (g item)) :
    List.Forall₂ R (items.zipIdx.map f) (items.map g) := by
  rw [List.forall₂_map_left_iff, List.forall₂_map_right_iff]
  refine (forall₂_zipIdx items).imp ?_
  rintro ⟨item, index⟩ _ ⟨rfl, hindex⟩
  exact h item index hindex

/-- The units of an aggregate by kind and position are its declarations. -/
theorem Aggregate.forall₂_units (aggregate : Aggregate) :
    List.Forall₂ (fun entry unit => entry.1 = unit.kind ∧ entry.2.2 = unit.name ∧
      aggregate.unit? entry.1 entry.2.1 = some unit) aggregate.units aggregate.declarations := by
  refine List.rel_append (List.rel_append ?_ ?_) ?_
  · exact forall₂_zipIdx_map fun unit index hindex =>
      ⟨rfl, rfl, by simp [Aggregate.unit?, hindex]⟩
  · exact forall₂_zipIdx_map fun unit index hindex =>
      ⟨rfl, rfl, by simp [Aggregate.unit?, hindex]⟩
  · exact forall₂_zipIdx_map fun unit index hindex =>
      ⟨rfl, rfl, by simp [Aggregate.unit?, hindex]⟩

section Walks

variable [PatternLanguage] (model : Model) (settings : Settings)

/-- The plans of a model are made for its declarations, in order. -/
theorem forall₂_plans :
    List.Forall₂ (UnitPlan.IsFor model settings) (prepared model settings).plans
      model.declarations := by
  refine List.rel_flatMap (forall₂_zipIdx model.contexts) ?_
  rintro ⟨context, contextIndex⟩ _ ⟨rfl, hcontext⟩
  refine List.rel_flatMap (forall₂_zipIdx context.aggregates) ?_
  rintro ⟨aggregate, aggregateIndex⟩ _ ⟨rfl, haggregate⟩
  have hat : model.aggregate? contextIndex aggregateIndex = some aggregate := by
    simp only at hcontext haggregate
    simp [Model.aggregate?, hcontext, haggregate]
  refine List.forall₂_map_left_iff.2 (List.forall₂_map_right_iff.2 ?_)
  refine aggregate.forall₂_units.imp ?_
  rintro ⟨kind, index, name⟩ unit ⟨hkind, hname, hunit⟩
  subst hkind hname
  exact ⟨rfl, rfl, rfl, rfl, rfl, hat, hunit⟩

/-- The registry knows the declarations, in order. -/
theorem registry_prepared_eq : (prepared model settings).registry = model.registry settings := by
  have hunits : (prepared model settings).registry.units = (model.registry settings).units := by
    rw [registry_prepared, Model.registry]
    refine List.forall₂_eq_eq_eq ▸ ?_
    rw [List.forall₂_map_left_iff, List.forall₂_map_right_iff]
    refine (forall₂_plans model settings).imp fun plan declared h => ?_
    simp [UnitPlan.info, DeclaredUnit.info, h.kind, h.name, h.context, h.aggregate, h.placement]
  exact congrArg Registry.mk hunits

end Walks

/-! ## Files -/

section Files

variable [PatternLanguage]

/-- The file of a plan is that of the declaration it was made for. -/
theorem UnitPlan.IsFor.generateFile_eq {found : Preparation} {plan : UnitPlan}
    {declared : DeclaredUnit} (h : plan.IsFor found.model found.settings declared) :
    generateFile found plan = .ok (declared.file found.settings found.registry) := by
  obtain ⟨hkind, -, hcontext, haggregate, hplacement, hat, hunit⟩ := h
  obtain ⟨context, aggregate, unit⟩ := declared
  unfold generateFile
  rw [hat]
  rw [hkind] at hunit
  cases unit with
  | enumeration unit =>
    have hindex : aggregate.enums[plan.index]? = some unit := by
      simpa [Aggregate.unit?, UnitDecl.kind] using hunit
    simp [contentIn, hkind, UnitDecl.kind, hindex, unitOr, Except.map, hplacement,
      DeclaredUnit.file, DeclaredUnit.content]
  | valueObject unit =>
    have hindex : aggregate.valueObjects[plan.index]? = some unit := by
      simpa [Aggregate.unit?, UnitDecl.kind] using hunit
    simp [contentIn, hkind, UnitDecl.kind, hindex, unitOr, Except.map, hplacement, hcontext,
      haggregate, Php.valueObjectUnit, DeclaredUnit.file, DeclaredUnit.content]
  | entity unit =>
    have hindex : aggregate.entities[plan.index]? = some unit := by
      simpa [Aggregate.unit?, UnitDecl.kind] using hunit
    simp [contentIn, hkind, UnitDecl.kind, hindex, unitOr, Except.map, hplacement, hcontext,
      haggregate, Php.entityUnit, DeclaredUnit.file, DeclaredUnit.content]

/-- Plans for declared units give the files of these units. -/
theorem generateFiles_eq_ok {found : Preparation} {plans : List UnitPlan}
    {declared : List DeclaredUnit}
    (h : List.Forall₂ (UnitPlan.IsFor found.model found.settings) plans declared) :
    generateFiles found plans =
      .ok (declared.map fun unit => unit.file found.settings found.registry) := by
  induction h with
  | nil => rfl
  | cons hplan _ ih =>
    simp only [generateFiles, hplan.generateFile_eq, ih]
    rfl

/-- The files of a run are those of the declarations. -/
theorem files_prepared (model : Model) (settings : Settings) :
    (prepared model settings).files =
      .ok (model.declarations.map (DeclaredUnit.file settings · (model.registry settings))) := by
  rw [Preparation.files, generateFiles_eq_ok (forall₂_plans model settings), registry_prepared_eq]
  rfl

end Files

/-! ## Counts -/

theorem Aggregate.length_declarations (aggregate : Aggregate) :
    aggregate.declarations.length = aggregate.unitCount := by
  simp only [declarations, unitCount, List.length_append, List.length_map]
  omega

namespace Model

variable (model : Model)

theorem total_add (count more : Aggregate → Nat) :
    model.total (fun aggregate => count aggregate + more aggregate) =
      model.total count + model.total more := by
  unfold total
  induction model.aggregates with
  | nil => rfl
  | cons entry rest ih =>
    simp only [List.foldr_cons, ih]
    omega

theorem declarations_eq_flatMap :
    model.declarations = model.aggregates.flatMap fun (context, aggregate) =>
      aggregate.declarations.map fun unit => { context, aggregate, unit } := by
  simp only [declarations, aggregates, List.flatMap_assoc, List.flatMap_map]

/-- As many units are declared as are counted. -/
theorem length_declarations : model.declarations.length = model.unitCount := by
  rw [declarations_eq_flatMap, unitCount, total]
  induction model.aggregates with
  | nil => rfl
  | cons entry rest ih =>
    rw [List.flatMap_cons, List.length_append, ih, List.length_map, Aggregate.length_declarations,
      List.foldr_cons]

/-- The counts that are reported add up to the number of units. -/
theorem units_unitCounts : (UnitCounts.ofModel model).units = model.unitCount := by
  rw [UnitCounts.units, UnitCounts.ofModel, ← total_add, ← total_add]
  rfl

end Model

/-- **Generation gives one file for every unit.** It never fails, whatever the model and the
settings are, and its files are those of the declarations, in the order of the declarations. So
there are as many files as units are counted and planned. -/
theorem generate_eq_ok [PatternLanguage] (model : Model) (settings : Settings) :
    ∃ found files, prepare model settings = .ok found ∧ found.files = .ok files ∧
      files = model.declarations.map
        (DeclaredUnit.file settings · (model.registry settings)) ∧
      files.length = model.unitCount ∧ files.length = (UnitCounts.ofModel model).units ∧
      files.length = found.plans.length := by
  refine ⟨prepared model settings, _, prepare_eq_ok model settings, files_prepared model settings,
    rfl, ?_, ?_, ?_⟩
  · rw [List.length_map, model.length_declarations]
  · rw [List.length_map, model.units_unitCounts, model.length_declarations]
  · rw [List.length_map, (forall₂_plans model settings).length_eq]

end DomainForge
