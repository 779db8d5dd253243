import DomainForge.Proofs.Generation

/-!
# The findings of a run

What a run reports is written down here as lists over the settings, the plans and the model: one
warning for each path rule that cannot be read (`ruleFindings`), for each unit whose file an earlier
unit has (`pathFindings`), for each unit whose name an earlier unit of its aggregate has
(`nameFindings`) and for each unit that is called by a reserved word (`reservedFindings`). A run
reports exactly these, in this order (`diagnostics_exact`).

The lints for files and for names walk their units in the same way and remember the earlier ones.
Such a walk finds the repeated items of a list, each with the first item of its key (`repeats`). The
list without the walk is compared with the walk at any point of it (`repeatsAfter`).
-/

namespace DomainForge

/-! ## Repeated items -/

section Repeats

variable {α β : Type}

/-- The items whose key an earlier item has, each with the first item of that key. -/
def repeats (key : α → String) (items : List α) : List (α × α) :=
  items.zipIdx.filterMap fun (item, index) =>
    ((items.take index).find? fun other => key other == key item).map fun first => (item, first)

/-- The repeated items among the later ones of a list. -/
def repeatsAfter (key : α → String) (earlier later : List α) : List (α × α) :=
  (later.zipIdx earlier.length).filterMap fun (item, index) =>
    (((earlier ++ later).take index).find? fun other => key other == key item).map
      fun first => (item, first)

theorem repeats_eq_repeatsAfter (key : α → String) (items : List α) :
    repeats key items = repeatsAfter key [] items :=
  rfl

/-- One step of a walk: the next item is compared with the earlier ones and joins them. -/
theorem repeatsAfter_cons (key : α → String) (earlier : List α) (item : α) (later : List α) :
    repeatsAfter key earlier (item :: later) =
      ((earlier.find? fun other => key other == key item).map fun first => (item, first)).toList ++
        repeatsAfter key (earlier ++ [item]) later := by
  have hsplit : earlier ++ item :: later = (earlier ++ [item]) ++ later := by simp
  have hlength : earlier.length + 1 = (earlier ++ [item]).length := by simp
  rw [repeatsAfter, List.zipIdx_cons, List.filterMap_cons]
  simp only [List.take_left]
  rw [hsplit, hlength, ← repeatsAfter]
  cases earlier.find? fun other => key other == key item <;> rfl

theorem repeats_map (key : β → String) (f : α → β) (items : List α) :
    repeats key (items.map f) = (repeats (key ∘ f) items).map (Prod.map f f) := by
  simp only [repeats, List.zipIdx_map, List.filterMap_map, List.map_filterMap, ← List.map_take,
    List.find?_map, Option.map_map, Function.comp_def, Prod.map, id_eq]

theorem nodup_of_repeatsAfter_eq_nil {key : α → String} {earlier later : List α}
    (hearlier : (earlier.map key).Nodup) (h : repeatsAfter key earlier later = []) :
    ((earlier ++ later).map key).Nodup := by
  -- the keys of the items that were passed stay distinct, as the next item repeats none of them
  induction later generalizing earlier with
  | nil => rwa [List.append_nil]
  | cons item rest ih =>
    rw [repeatsAfter_cons, List.append_eq_nil_iff, Option.toList_eq_nil_iff,
      Option.map_eq_none_iff, List.find?_eq_none] at h
    obtain ⟨hnew, hrest⟩ := h
    have hnext : ((earlier ++ [item]).map key).Nodup := by
      rw [List.map_append, List.map_singleton, List.nodup_append]
      refine ⟨hearlier, List.nodup_singleton _, ?_⟩
      intro other hother _ hitem
      obtain ⟨found, hfound, rfl⟩ := List.mem_map.1 hother
      rw [List.mem_singleton.1 hitem]
      simpa using hnew found hfound
    simpa using ih hnext hrest

theorem nodup_of_repeats_eq_nil {key : α → String} {items : List α} (h : repeats key items = []) :
    (items.map key).Nodup := by
  have hnone : (([] : List α).map key).Nodup := List.nodup_nil
  exact nodup_of_repeatsAfter_eq_nil hnone h

end Repeats

/-! ## What is to be found -/

/-- What is to be said about a path rule, given its index: its pattern cannot be read, or it can and
the strip pattern cannot. -/
def PathRule.finding? [PatternLanguage] (rule : PathRule) (index : Nat) : Option Diagnostic :=
  match PatternLanguage.read rule.pattern with
  | .error fault =>
    some {
      severity := .warning
      phase := "rules"
      message := s!"invalid pattern '{rule.pattern}', rule skipped: " ++ firstLine fault
      location := some s!"path_rules[{index}]" }
  | .ok _ =>
    rule.strip.bind fun strip =>
      match PatternLanguage.read strip with
      | .error fault =>
        some {
          severity := .warning
          phase := "rules"
          message := s!"invalid strip pattern '{strip}', names are kept: " ++ firstLine fault
          location := some s!"path_rules[{index}]" }
      | .ok _ => none

/-- What is to be said about path rules, in their order. -/
def ruleFindings [PatternLanguage] (rules : List PathRule) : List Diagnostic :=
  rules.zipIdx.filterMap fun (rule, index) => rule.finding? index

/-- What is to be said about a unit whose file another one has. -/
def pathFinding (plan first : UnitPlan) : Diagnostic :=
  { severity := .warning
    phase := "validate"
    message := s!"{plan.kind.spelling} '{plan.name}' resolves to '{plan.placement.path}', " ++
      s!"already used by '{first.location}'"
    location := some plan.location }

/-- Files are the same if their paths are, in lower case. -/
def pathFindings (plans : List UnitPlan) : List Diagnostic :=
  (repeats (fun plan => Text.lowercase plan.placement.path) plans).map fun (plan, first) =>
    pathFinding plan first

/-- What is to be said about a unit whose name another one of its aggregate has. -/
def nameFinding (context : BoundedContext) (aggregate : Aggregate) (unit first : UnitDecl) :
    Diagnostic :=
  let kind := unit.kind.spelling
  { severity := .warning
    phase := "validate"
    message :=
      s!"{kind} '{unit.name}' is declared more than once in aggregate '{aggregate.name}' " ++
        s!"(first as {first.kind.spelling})"
    location := some s!"{context.name}.{aggregate.name}.{unit.name}" }

/-- What is to be said about the names in each aggregate of a model. -/
def nameFindings (model : Model) : List Diagnostic :=
  model.aggregates.flatMap fun (context, aggregate) =>
    (repeats UnitDecl.name aggregate.declarations).map fun (unit, first) =>
      nameFinding context aggregate unit first

/-- What is to be said about a unit that is called by a reserved word. -/
def reservedFinding (plan : UnitPlan) : Diagnostic :=
  let name := plan.placement.finalName
  { severity := .warning
    phase := "validate"
    message := s!"{plan.kind.spelling} '{name}' uses a reserved PHP word as its name; " ++
      "the generated file will not compile"
    location := some plan.location }

/-- Names are reserved whatever their case is. -/
def reservedFindings (plans : List UnitPlan) : List Diagnostic :=
  (plans.filter fun plan =>
    Text.lowercase plan.placement.finalName ∈ Naming.reservedWords).map reservedFinding

/-! ## What is found -/

theorem compileRule_snd [PatternLanguage] (index : Nat) (rule : PathRule) :
    (compileRule index rule).2 = (rule.finding? index).toList := by
  unfold compileRule PathRule.finding?
  cases PatternLanguage.read rule.pattern with
  | error fault => rfl
  | ok pattern =>
    cases rule.strip with
    | none => rfl
    | some strip =>
      rw [Option.bind_some, compileStrip]
      cases PatternLanguage.read strip <;> rfl

/-- Reading rules finds what is to be said about them. -/
theorem compileRulesFrom_snd [PatternLanguage] (index : Nat) (rules : List PathRule) :
    (compileRulesFrom index rules).2 =
      (rules.zipIdx index).filterMap fun (rule, index) => rule.finding? index := by
  induction rules generalizing index with
  | nil => rfl
  | cons rule rest ih =>
    rw [List.zipIdx_cons, List.filterMap_cons]
    simp only [compileRulesFrom, compileRule_snd, ih]
    cases rule.finding? index <;> rfl

theorem lookup_map_eq_find? {α : Type} (key : α → String) (items : List α) (name : String) :
    (items.map fun item => (key item, item)).lookup name =
      items.find? fun item => key item == name := by
  induction items with
  | nil => rfl
  | cons item rest ih =>
    rw [List.map_cons, List.lookup_cons, List.find?_cons, ih, BEq.comm]

namespace Lint

/-- The lint keeps a table of the paths it has met. What it reports are the repeats. -/
theorem takenPaths_eq (earlier plans : List UnitPlan) :
    takenPaths (earlier.map fun plan => (pathKey plan, plan)) plans =
      (repeatsAfter pathKey earlier plans).map fun (plan, first) => pathFinding plan first := by
  induction plans generalizing earlier with
  | nil => rfl
  | cons plan rest ih =>
    have hnext : (earlier.map fun plan => (pathKey plan, plan)) ++ [(pathKey plan, plan)] =
        (earlier ++ [plan]).map fun plan => (pathKey plan, plan) := by simp
    simp only [takenPaths]
    rw [hnext, ih, repeatsAfter_cons, List.map_append, lookup_map_eq_find?]
    cases earlier.find? fun other => pathKey other == pathKey plan <;> rfl

/-- The lint keeps a list of the units it has met. What it reports are the repeats. -/
theorem takenNames_eq (context : BoundedContext) (aggregate : Aggregate)
    (earlier units : List (UnitKind × Nat × String)) :
    takenNames context aggregate earlier units =
      (repeatsAfter (fun unit => unit.2.2) earlier units).map fun (unit, first) =>
        takenName context aggregate unit.2.2 unit.1 first.1 := by
  induction units generalizing earlier with
  | nil => rfl
  | cons unit rest ih =>
    obtain ⟨kind, index, name⟩ := unit
    simp only [takenNames]
    rw [ih, repeatsAfter_cons, List.map_append]
    cases earlier.find? fun other => other.2.2 == name <;> rfl

end Lint

/-- Without their positions, the units of an aggregate are the kinds and names of its
declarations. -/
theorem Aggregate.map_units (aggregate : Aggregate) :
    aggregate.units.map (fun unit => (unit.1, unit.2.2)) =
      aggregate.declarations.map fun unit => (unit.kind, unit.name) := by
  refine List.forall₂_eq_eq_eq ▸ ?_
  rw [List.forall₂_map_left_iff, List.forall₂_map_right_iff]
  exact aggregate.forall₂_units.imp fun entry unit ⟨hkind, hname, _⟩ => by rw [hkind, hname]

theorem takenNames_eq_nameFindings (context : BoundedContext) (aggregate : Aggregate) :
    Lint.takenNames context aggregate [] aggregate.units =
      (repeats UnitDecl.name aggregate.declarations).map fun (unit, first) =>
        nameFinding context aggregate unit first := by
  -- both sides are made from the kinds and names of the units
  let report : (UnitKind × String) × (UnitKind × String) → Diagnostic := fun (unit, first) =>
    Lint.takenName context aggregate unit.2 unit.1 first.1
  calc Lint.takenNames context aggregate [] aggregate.units
    _ = (repeats Prod.snd (aggregate.units.map fun unit => (unit.1, unit.2.2))).map report := by
      rw [Lint.takenNames_eq, ← repeats_eq_repeatsAfter, repeats_map, List.map_map]
      rfl
    _ = (repeats Prod.snd (aggregate.declarations.map fun unit => (unit.kind, unit.name))).map
        report := by rw [aggregate.map_units]
    _ = (repeats UnitDecl.name aggregate.declarations).map fun (unit, first) =>
        nameFinding context aggregate unit first := by
      rw [repeats_map, List.map_map]
      rfl

theorem reservedNames_eq_reservedFindings (plans : List UnitPlan) :
    (plans.filter fun plan => Naming.isReserved plan.placement.finalName).map Lint.reservedName =
      reservedFindings plans := by
  simp only [reservedFindings, Naming.isReserved, List.contains_eq_mem]
  rfl

/-- What a run reports, in order: on rules, paths, names and reserved names. -/
theorem diagnostics_prepared_eq_findings [PatternLanguage] (model : Model) (settings : Settings) :
    (prepared model settings).diagnostics =
      ruleFindings settings.pathRules ++ pathFindings (prepared model settings).plans ++
        nameFindings model ++ reservedFindings (prepared model settings).plans := by
  have hrules : (compileRules settings.pathRules).2 = ruleFindings settings.pathRules :=
    compileRulesFrom_snd 0 settings.pathRules
  have hpaths (plans : List UnitPlan) : Lint.takenPaths [] plans = pathFindings plans :=
    Lint.takenPaths_eq [] plans
  have hnames : (model.aggregates.flatMap fun (context, aggregate) =>
      Lint.takenNames context aggregate [] aggregate.units) = nameFindings model :=
    List.flatMap_congr fun (context, aggregate) _ => takenNames_eq_nameFindings context aggregate
  rw [diagnostics_prepared, hrules, hpaths, hnames, reservedNames_eq_reservedFindings]
  simp only [List.append_assoc]

/-- **The findings of a run are exact.** Plans are made for the units of the model, in order. All
findings are warnings: those about path rules, then those about paths, names and reserved words, one
for each case and no others. So if no path is reported, the paths differ even when case does not
count. -/
theorem diagnostics_exact [PatternLanguage] (model : Model) (settings : Settings) :
    ∃ found, prepare model settings = .ok found ∧
      List.Forall₂ (UnitPlan.IsFor model settings) found.plans model.declarations ∧
      (∀ diagnostic ∈ found.diagnostics, diagnostic.severity = .warning) ∧
      found.diagnostics = ruleFindings settings.pathRules ++ pathFindings found.plans ++
        nameFindings model ++ reservedFindings found.plans ∧
      ((∀ plan first, pathFinding plan first ∉ found.diagnostics) →
        (found.plans.map fun plan => Text.lowercase plan.placement.path).Nodup) := by
  have hexact := diagnostics_prepared_eq_findings model settings
  refine ⟨_, prepare_eq_ok model settings, forall₂_plans model settings,
    allWarnings_prepared model settings, hexact, fun hnone => nodup_of_repeats_eq_nil ?_⟩
  refine List.eq_nil_iff_forall_not_mem.2 fun (plan, first) hrepeat => hnone plan first ?_
  have hmem : pathFinding plan first ∈ pathFindings (prepared model settings).plans :=
    List.mem_map.2 ⟨(plan, first), hrepeat, rfl⟩
  rw [hexact]
  exact List.mem_append_left _ (List.mem_append_left _ (List.mem_append_right _ hmem))

end DomainForge
