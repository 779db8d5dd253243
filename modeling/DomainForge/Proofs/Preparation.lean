import DomainForge.Generation
import DomainForge.Proofs.Plan

/-!
# What a run prepares

Preparing a model never fails: the phases find warnings only, so the lints let every run pass
(`prepare_eq_ok`). What is prepared is known in full: the plans of the model, and a registry with
one entry for every plan, in order (`registry_prepared`).
-/

namespace DomainForge

/-! ## Warnings -/

/-- Findings that do not stop a run. -/
def Diagnostic.AllWarnings (found : List Diagnostic) : Prop :=
  ∀ diagnostic ∈ found, diagnostic.severity = .warning

namespace Diagnostic.AllWarnings

theorem nil : AllWarnings [] :=
  fun _ h => absurd h List.not_mem_nil

theorem singleton (phase message location : String) :
    AllWarnings [.warningAt phase message location] := by
  intro diagnostic h
  rw [List.mem_singleton.1 h]
  rfl

theorem append {found more : List Diagnostic} (h : AllWarnings found) (h' : AllWarnings more) :
    AllWarnings (found ++ more) :=
  fun diagnostic hmem => (List.mem_append.1 hmem).elim (h diagnostic) (h' diagnostic)

theorem flatMap {α : Type} {items : List α} {f : α → List Diagnostic}
    (h : ∀ item ∈ items, AllWarnings (f item)) : AllWarnings (items.flatMap f) := by
  intro diagnostic hmem
  obtain ⟨item, hitem, hmem⟩ := List.mem_flatMap.1 hmem
  exact h item hitem diagnostic hmem

theorem errors_eq_nil {found : List Diagnostic} (h : AllWarnings found) :
    Diagnostic.errors found = [] := by
  unfold Diagnostic.errors
  rw [List.filter_eq_nil_iff]
  intro diagnostic hmem
  rw [h diagnostic hmem]
  decide

end Diagnostic.AllWarnings

open Diagnostic

section Reading

variable [PatternLanguage]

theorem allWarnings_compileStrip (index : Nat) (strip : Option String) :
    AllWarnings (compileStrip index strip).2 := by
  unfold compileStrip
  split
  · exact .nil
  · split
    · exact .nil
    · exact .singleton _ _ _

/-- Reading rules finds nothing worse than warnings. -/
theorem allWarnings_compileRulesFrom (index : Nat) (rules : List PathRule) :
    AllWarnings (compileRulesFrom index rules).2 := by
  induction rules generalizing index with
  | nil => exact .nil
  | cons rule rest ih =>
    refine .append ?_ (ih (index + 1))
    cases PatternLanguage.read rule.pattern with
    | error fault => exact .singleton _ _ _
    | ok pattern => exact allWarnings_compileStrip index rule.strip

end Reading

namespace Lint

theorem allWarnings_takenPaths (earlier : List (String × UnitPlan)) (plans : List UnitPlan) :
    AllWarnings (takenPaths earlier plans) := by
  induction plans generalizing earlier with
  | nil => exact .nil
  | cons plan rest ih =>
    refine .append ?_ (ih _)
    split
    · exact .singleton _ _ _
    · exact .nil

theorem allWarnings_takenNames (context : BoundedContext) (aggregate : Aggregate)
    (earlier units : List (UnitKind × Nat × String)) :
    AllWarnings (takenNames context aggregate earlier units) := by
  induction units generalizing earlier with
  | nil => exact .nil
  | cons unit rest ih =>
    refine .append ?_ (ih _)
    split
    · exact .singleton _ _ _
    · exact .nil

/-- The standard lints find nothing that would stop a run. -/
theorem allWarnings_standard (found : Preparation) :
    AllWarnings (standard.flatMap (·.check found)) := by
  refine .flatMap fun lint hlint => ?_
  simp only [standard, List.mem_cons, List.not_mem_nil, or_false] at hlint
  rcases hlint with rfl | rfl
  · exact allWarnings_takenPaths [] found.plans
  · exact .flatMap fun (context, aggregate) _ => allWarnings_takenNames context aggregate [] _

theorem allWarnings_reservedClassName (found : Preparation) :
    AllWarnings (([reservedClassName] : List Lint).flatMap (·.check found)) := by
  intro diagnostic h
  simp only [List.flatMap_cons, List.flatMap_nil, List.append_nil, reservedClassName,
    List.mem_map] at h
  obtain ⟨plan, -, rfl⟩ := h
  rfl

end Lint

/-! ## Phases -/

/-- A check of what has only warnings goes on. -/
theorem Phase.run_validate [PatternLanguage] {lints : List Lint} {found : Preparation}
    (hbefore : AllWarnings found.diagnostics)
    (hlints : AllWarnings (lints.flatMap (·.check found))) :
    (Phase.validate lints).run found = .ok (Phase.runLints lints found) := by
  have hnone : Diagnostic.errors (Phase.runLints lints found).diagnostics = [] :=
    (hbefore.append hlints).errors_eq_nil
  simp [Phase.run, hnone]

theorem PipelineRun.result_andThen (run : PipelineRun) (next : Preparation → PipelineRun) :
    (run.andThen next).result = run.result.bind fun found => (next found).result := by
  unfold PipelineRun.andThen
  cases h : run.result with
  | error fault => simp [h, Except.bind]
  | ok found => simp [Except.bind]

theorem units_foldl_register (registry : Registry) (plans : List UnitPlan) :
    (plans.foldl (fun registry plan => registry.register plan.name plan.info) registry).units =
      registry.units ++ plans.map fun plan => (plan.name, plan.info) := by
  induction plans generalizing registry with
  | nil => simp
  | cons plan rest ih =>
    rw [List.foldl_cons, ih, List.map_cons, Registry.register, List.append_assoc]
    rfl

section Running

variable [PatternLanguage]

/-- Without plugins a phase is only run. -/
theorem result_runPhase_nil (phase : Phase) (found : Preparation) :
    (runPhase [] phase found).result = phase.run found := by
  unfold runPhase
  rw [PipelineRun.result_andThen, PipelineRun.result_andThen]
  cases h : phase.run found <;> simp [callHooks, Except.bind, h]

theorem result_runPhases_cons (phase : Phase) (phases : List Phase) {found next : Preparation}
    (h : phase.run found = .ok next) :
    (runPhases [] (phase :: phases) found).result = (runPhases [] phases next).result := by
  rw [runPhases, PipelineRun.result_andThen, result_runPhase_nil, h]
  rfl

/-- What is prepared for a model: its rules are read, its units are placed, and the lints add
what they find. -/
def prepared (model : Model) (settings : Settings) : Preparation :=
  Phase.runLints [Lint.reservedClassName] <| Phase.runLints Lint.standard <|
    Phase.placeUnits (Phase.readRules { model, settings }) (compileRules settings.pathRules).1

/-- **Preparing a model never fails.** -/
theorem prepare_eq_ok (model : Model) (settings : Settings) :
    prepare model settings = .ok (prepared model settings) := by
  have hrules : AllWarnings (Phase.readRules { model, settings }).diagnostics :=
    AllWarnings.nil.append (allWarnings_compileRulesFrom 0 _)
  let placed := Phase.placeUnits (Phase.readRules { model, settings })
    (compileRules settings.pathRules).1
  let linted := Phase.runLints Lint.standard placed
  have hplaced : AllWarnings placed.diagnostics := hrules
  have hlinted : AllWarnings linted.diagnostics := hplaced.append (Lint.allWarnings_standard placed)
  calc prepare model settings
    _ = (runPhases [] [.resolve, .validate Lint.standard, .validate [Lint.reservedClassName]]
          (Phase.readRules { model, settings })).result :=
      result_runPhases_cons .rules _ rfl
    _ = (runPhases [] [.validate Lint.standard, .validate [Lint.reservedClassName]]
          placed).result :=
      result_runPhases_cons .resolve _ rfl
    _ = (runPhases [] [.validate [Lint.reservedClassName]] linted).result :=
      result_runPhases_cons _ _ (Phase.run_validate hplaced (Lint.allWarnings_standard placed))
    _ = (runPhases [] [] (prepared model settings)).result :=
      result_runPhases_cons _ _
        (Phase.run_validate hlinted (Lint.allWarnings_reservedClassName linted))
    _ = .ok (prepared model settings) := rfl

section Prepared

variable (model : Model) (settings : Settings)

@[simp] theorem model_prepared : (prepared model settings).model = model :=
  rfl

@[simp] theorem settings_prepared : (prepared model settings).settings = settings :=
  rfl

@[simp] theorem plans_prepared :
    (prepared model settings).plans =
      model.plans (.ofSettings settings) (compileRules settings.pathRules).1 :=
  rfl

/-- The findings of a run: those about the rules, those of the standard lints, those about reserved
names. -/
theorem diagnostics_prepared :
    (prepared model settings).diagnostics =
      (compileRules settings.pathRules).2 ++
        (Lint.takenPaths [] (prepared model settings).plans ++
          model.aggregates.flatMap fun (context, aggregate) =>
            Lint.takenNames context aggregate [] aggregate.units) ++
        ((prepared model settings).plans.filter fun plan =>
          Naming.isReserved plan.placement.finalName).map Lint.reservedName := by
  simp [prepared, Phase.runLints, Phase.placeUnits, Phase.readRules, Lint.standard,
    Lint.duplicateOutputPath, Lint.duplicateUnitName, Lint.reservedClassName]

/-- A run reports nothing but warnings. -/
theorem allWarnings_prepared : AllWarnings (prepared model settings).diagnostics :=
  ((AllWarnings.nil.append (allWarnings_compileRulesFrom 0 settings.pathRules)).append
    (Lint.allWarnings_standard _)).append (Lint.allWarnings_reservedClassName _)

/-- Every plan is registered, in order. -/
theorem registry_prepared :
    (prepared model settings).registry.units =
      (prepared model settings).plans.map fun plan => (plan.name, plan.info) :=
  units_foldl_register {} _

end Prepared

/-- Without a rule that strips, units are registered with their own names. -/
theorem finalName_of_mem_registry {model : Model} {settings : Settings}
    (hstrip : ∀ rule ∈ settings.pathRules, rule.strip = none) {name : String} {info : UnitInfo}
    (h : (name, info) ∈ (prepared model settings).registry.units) : info.finalName = name := by
  rw [registry_prepared] at h
  obtain ⟨plan, hplan, heq⟩ := List.mem_map.1 h
  obtain ⟨rfl, rfl⟩ := Prod.mk.inj heq
  rw [plans_prepared] at hplan
  obtain ⟨_, -, _, -, -, -, -, -, hplacement⟩ := Model.mem_plans hplan
  have hrules : ∀ rule ∈ (compileRules settings.pathRules).1, rule.strip = none :=
    fun rule hrule => strip_eq_none_of_mem_compileRulesFrom hrule hstrip
  have hname : plan.placement.finalName = plan.name := by
    rw [hplacement, Layout.finalName_place_of_strip hrules]
  exact hname

/-- Identifiers for names make every registered unit plain. -/
theorem isPlain_registry_prepared {model : Model} (hnames : model.hasIdentifierNames = true)
    (settings : Settings) : (prepared model settings).registry.IsPlain := by
  intro entry hentry
  rw [registry_prepared] at hentry
  obtain ⟨plan, hplan, rfl⟩ := List.mem_map.1 hentry
  exact Model.isPlain_of_mem_plans hnames hplan

end Running

end DomainForge
