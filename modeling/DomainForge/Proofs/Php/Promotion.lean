import DomainForge.Proofs.Php.Members
import Mathlib.Data.List.Flatten

/-!
# Promotion

With promotion, the parameters of a constructor declare the properties that they set. Without it,
the properties are declared among the members, and the constructor assigns them. The choice goes
into the parameters, into the statements, into which members are declared and, through the
statements, into whether there is a constructor at all.

Two classes of one unit that differ in this choice are compared here (`MovesDeclarations`), and so
are the files of two runs that differ in it (`generateFile_movesDeclarations`). For the constructor,
the statements for a property are cut into those that are always there and the assignment that
promotion saves (`keptStatements`, `savedStatements`). A unit leaves the constructor out by what it
does with each property (`isLeftAlone`), which is the same for both.
-/

namespace DomainForge.Php

/-- The same unit with or without promotion. -/
def ClassUnit.withPromotion (unit : ClassUnit) (promotion : Bool) : ClassUnit :=
  { unit with settings := { unit.settings with constructorPromotion := promotion } }

/-! ## Statements -/

section Statements

variable (framework : Framework) (unit : ClassUnit)

/-- The statements for a property that is no parameter. -/
def keptStatements (property : ResolvedProperty) : List String :=
  if framework.isParam unit property then [] else (framework.initializer? unit property).toList

/-- The assignment of a property that is a parameter. -/
def savedStatements (property : ResolvedProperty) : List String :=
  if framework.isParam unit property then [assignment property.name] else []

theorem statementsOf_withPromotion_true (property : ResolvedProperty) :
    statementsOf framework (unit.withPromotion true)
        (memberOf framework (unit.withPromotion true) property) =
      keptStatements framework unit property :=
  statementsOf_memberOf framework (unit.withPromotion true) property

/-- Without promotion, a parameter is assigned. -/
theorem statementsOf_withPromotion_false (property : ResolvedProperty) :
    statementsOf framework (unit.withPromotion false)
        (memberOf framework (unit.withPromotion false) property) =
      keptStatements framework unit property ++ savedStatements framework unit property := by
  have hparam : framework.isParam (unit.withPromotion false) property =
      framework.isParam unit property := rfl
  rw [statementsOf_memberOf, hparam]
  unfold keptStatements savedStatements
  split
  · rfl
  · exact (List.append_nil _).symm

/-- Promotion saves one assignment for each parameter. -/
theorem flatMap_savedStatements (properties : List ResolvedProperty) :
    properties.flatMap (savedStatements framework unit) =
      (properties.filter (framework.isParam unit)).map (assignment ·.name) := by
  induction properties with
  | nil => rfl
  | cons property rest ih =>
    rw [List.flatMap_cons, ih, List.filter_cons, savedStatements]
    split <;> rfl

/-- What the constructor of a unit does besides assigning its parameters. -/
def keptBody (properties : List ResolvedProperty) : List String :=
  framework.openingStatements unit ++
    (declaredIn framework unit properties).flatMap (keptStatements framework unit)

/-- All that the constructor of a unit does without promotion. -/
def plainBody (properties : List ResolvedProperty) : List String :=
  framework.openingStatements unit ++
    (declaredIn framework unit properties).flatMap fun property =>
      keptStatements framework unit property ++ savedStatements framework unit property

variable (properties : List ResolvedProperty)

/-- With promotion, statements are left out and none is moved. -/
theorem keptBody_sublist :
    (keptBody framework unit properties).Sublist (plainBody framework unit properties) :=
  (List.Sublist.flatMap_right _ fun _ _ => List.sublist_append_left _ _).append_left _

theorem plainBody_perm :
    (plainBody framework unit properties).Perm
      (keptBody framework unit properties ++
        ((declaredIn framework unit properties).filter (framework.isParam unit)).map
          (assignment ·.name)) := by
  unfold plainBody keptBody
  rw [← flatMap_savedStatements, List.append_assoc]
  exact (List.flatMap_append_perm _ _ _).symm.append_left _

end Statements

/-! ## Assignments and other statements -/

/-- Two texts with the same last blank end alike. -/
theorem eq_of_append_blank_eq {left right leftEnd rightEnd : List Char} (hleft : ' ' ∉ leftEnd)
    (hright : ' ' ∉ rightEnd) (h : left ++ ' ' :: leftEnd = right ++ ' ' :: rightEnd) :
    leftEnd = rightEnd := by
  rcases List.append_eq_append_iff.1 h with ⟨between, -, hends⟩ | ⟨between, -, hends⟩
  · cases between with
    | nil => exact (List.cons.inj hends).2
    | cons c rest =>
      have hrest := (List.cons.inj hends).2
      exact absurd (hrest ▸ List.mem_append_right rest List.mem_cons_self) hleft
  · cases between with
    | nil => exact (List.cons.inj hends).2.symm
    | cons c rest =>
      have hrest := (List.cons.inj hends).2
      exact absurd (hrest ▸ List.mem_append_right rest List.mem_cons_self) hright

/-- Behind its last blank, the creation of a collection has no variable. -/
theorem exists_toList_creation (unit : ClassUnit) (property : ResolvedProperty) :
    ∃ front value, (Doctrine.creation unit property).toList = front ++ ' ' :: value ∧
      ' ' ∉ value ∧ value.head? ≠ some '$' := by
  unfold Doctrine.creation
  cases Doctrine.isEntityCollection unit property with
  | false =>
    refine ⟨"$this->".toList ++ property.name.toList ++ " =".toList, "[];".toList, ?_, by decide,
      by decide⟩
    simp [toString]
  | true =>
    refine ⟨"$this->".toList ++ property.name.toList ++ " = new".toList,
      "ArrayCollection();".toList, ?_, by decide, by decide⟩
    simp [toString]

/-- The condition is needed, since a name with blanks can hold a statement. -/
theorem creation_ne_assignment (unit : ClassUnit) (property : ResolvedProperty) {name : String}
    (hname : ' ' ∉ name.toList) : Doctrine.creation unit property ≠ assignment name := by
  intro h
  have hassignment : (assignment name).toList =
      ("$this->".toList ++ name.toList ++ " =".toList) ++ ' ' :: '$' :: (name.toList ++ [';']) := by
    simp [assignment, toString]
  have hvariable : ' ' ∉ '$' :: (name.toList ++ [';']) := by simpa using hname
  obtain ⟨front, value, hcreation, hvalue, hhead⟩ := exists_toList_creation unit property
  have hends : value = '$' :: (name.toList ++ [';']) :=
    eq_of_append_blank_eq hvalue hvariable (by rw [← hcreation, h, hassignment])
  rw [hends] at hhead
  exact hhead rfl

example : Doctrine.creation mixedOrder
    { property := { name := "a = [] = $a", type := "String" }, reference := "string"
      target := none } = assignment "a = []" := by
  decide

theorem parentCall_ne_assignment (name : String) : Laravel.parentCall ≠ assignment name := by
  intro h
  have hchars := congrArg String.toList h
  simp [Laravel.parentCall, assignment, toString] at hchars

section Deleting

variable (framework : Framework) (unit : ClassUnit) {name : String} (hname : ' ' ∉ name.toList)

theorem ne_assignment_of_mem_openingStatements {statement : String}
    (hstatement : statement ∈ framework.openingStatements unit) : statement ≠ assignment name := by
  cases framework with
  | laravel =>
    simp only [Framework.openingStatements] at hstatement
    split at hstatement
    · rw [List.mem_singleton.1 hstatement]
      exact parentCall_ne_assignment name
    · cases hstatement
  | plain => cases hstatement
  | doctrine => cases hstatement

include hname in
theorem ne_assignment_of_mem_keptStatements {property : ResolvedProperty} {statement : String}
    (hstatement : statement ∈ keptStatements framework unit property) :
    statement ≠ assignment name := by
  unfold keptStatements at hstatement
  split at hstatement
  · cases hstatement
  · cases framework with
    | doctrine =>
      simp only [Framework.initializer?] at hstatement
      split at hstatement
      · rw [List.mem_singleton.1 hstatement]
        exact creation_ne_assignment unit property hname
      · cases hstatement
    | plain => cases hstatement
    | laravel => cases hstatement

/-- What is left if the assignments of parameters are deleted. -/
theorem filter_plainBody (properties : List ResolvedProperty)
    (hnames : ∀ property ∈ (declaredIn framework unit properties).filter (framework.isParam unit),
      ' ' ∉ property.name.toList) :
    (plainBody framework unit properties).filter (· ∉ ((declaredIn framework unit properties).filter
        (framework.isParam unit)).map (assignment ·.name)) =
      keptBody framework unit properties := by
  unfold plainBody keptBody
  rw [List.filter_append, List.filter_flatMap]
  congr 1
  · refine List.filter_eq_self.2 fun statement hstatement => decide_eq_true ?_
    intro hmem
    obtain ⟨property, -, heq⟩ := List.mem_map.1 hmem
    exact ne_assignment_of_mem_openingStatements framework unit hstatement heq.symm
  · refine List.flatMap_congr fun property hproperty => ?_
    rw [List.filter_append, List.filter_eq_self.2, List.filter_eq_nil_iff.2, List.append_nil]
    · intro statement hstatement
      unfold savedStatements at hstatement
      split at hstatement
      · rename_i hparam
        have hmem : assignment property.name ∈ ((declaredIn framework unit properties).filter
            (framework.isParam unit)).map (assignment ·.name) :=
          List.mem_map_of_mem (List.mem_filter.2 ⟨hproperty, hparam⟩)
        rw [List.mem_singleton.1 hstatement]
        exact fun hkept => of_decide_eq_true hkept hmem
      · cases hstatement
    · intro statement hstatement
      refine decide_eq_true fun hmem => ?_
      obtain ⟨param, hparam, heq⟩ := List.mem_map.1 hmem
      exact ne_assignment_of_mem_keptStatements framework unit (hnames param hparam) hstatement
        heq.symm

end Deleting

/-! ## The two classes -/

/-- A class with promotion differs from one without only in where properties are declared. -/
structure MovesDeclarations (promoted plain : ClassDecl) : Prop where
  /-- Both take the same, or neither has a constructor. -/
  params_eq : promoted.constructor.map (·.params.map fun param => (param.name, param.type)) =
    plain.constructor.map (·.params.map fun param => (param.name, param.type))
  /-- The declarations are the same in every part, and some have gone into parameters. -/
  declared_perm : (promoted.properties ++ promoted.promoted).Perm plain.properties
  promoted_eq_nil : plain.promoted = []
  isPromoted : ∀ param ∈ promoted.params, param.isPromoted = true
  /-- Methods, attributes and all of the header are the same. -/
  others_eq : { promoted with
    properties := plain.properties, constructor := plain.constructor } = plain
  /-- What the constructor does is the same and in the same order, without the assignments of the
  parameters, each of which is there once. -/
  statements_sublist : promoted.statements.Sublist plain.statements
  statements_perm : plain.statements.Perm
    (promoted.statements ++ plain.params.map (assignment ·.name))
  /-- Assignments can be told from the other statements by their text, unless names have blanks. -/
  statements_filter : (∀ param ∈ plain.params, ' ' ∉ param.name.toList) →
    plain.statements.filter (· ∉ plain.params.map (assignment ·.name)) = promoted.statements

section Classes

variable (framework : Framework) (unit : ClassUnit) (properties : List ResolvedProperty)

theorem map_assignment_params (promotion : Bool) :
    (assembleClass framework (unit.withPromotion promotion) properties).params.map
        (assignment ·.name) =
      ((declaredIn framework unit properties).filter (framework.isParam unit)).map
        (assignment ·.name) := by
  rw [params_assembleClass, List.map_map]
  refine List.map_congr_left fun property _ => ?_
  rw [Function.comp_apply, name_paramOf]

/-- Either there is no constructor for both, or the bodies are those above. -/
theorem statements_withPromotion :
    ((assembleClass framework (unit.withPromotion true) properties).statements = [] ∧
        (assembleClass framework (unit.withPromotion false) properties).statements = [] ∧
        (assembleClass framework (unit.withPromotion false) properties).params = []) ∨
      ((assembleClass framework (unit.withPromotion true) properties).statements =
          keptBody framework unit properties ∧
        (assembleClass framework (unit.withPromotion false) properties).statements =
          plainBody framework unit properties) := by
  have hleft (promotion : Bool) :
      (declaredIn framework (unit.withPromotion promotion) properties).all
          (isLeftAlone framework (unit.withPromotion promotion)) =
        (declaredIn framework unit properties).all (isLeftAlone framework unit) := rfl
  unfold ClassDecl.statements ClassDecl.params
  rw [constructor_assembleClass, constructor_assembleClass, hleft, hleft]
  cases (declaredIn framework unit properties).all (isLeftAlone framework unit) with
  | true => exact .inl ⟨rfl, rfl, rfl⟩
  | false =>
    simp only [statementsOf_withPromotion_true, statementsOf_withPromotion_false]
    exact .inr ⟨rfl, rfl⟩

/-- What a constructor takes does not depend on promotion. -/
theorem signature_withPromotion (promotion : Bool) :
    (assembleClass framework (unit.withPromotion promotion) properties).constructor.map
        (·.params.map fun param => (param.name, param.type)) =
      if (declaredIn framework unit properties).all (isLeftAlone framework unit) then none
      else some (((declaredIn framework unit properties).filter (framework.isParam unit)).map
        fun property => (property.name, framework.typeOf unit property)) := by
  have hleft : (declaredIn framework (unit.withPromotion promotion) properties).all
      (isLeftAlone framework (unit.withPromotion promotion)) =
        (declaredIn framework unit properties).all (isLeftAlone framework unit) := rfl
  rw [constructor_assembleClass, hleft]
  split
  · rfl
  · simp only [Option.map_some, List.map_map]
    congr 1
    refine List.map_congr_left fun property _ => ?_
    rw [Function.comp_apply, name_paramOf, type_paramOf]
    rfl

theorem promoted_withPromotion_false :
    (assembleClass framework (unit.withPromotion false) properties).promoted = [] := by
  rw [promoted_assembleClass]
  simp [Framework.promotes, ClassUnit.withPromotion]

variable {properties}

theorem isPromoted_of_mem_params {param : ConstructorParam}
    (hparam : param ∈ (assembleClass framework (unit.withPromotion true) properties).params) :
    param.isPromoted = true := by
  rw [params_assembleClass] at hparam
  obtain ⟨property, -, rfl⟩ := List.mem_map.1 hparam
  exact isPromoted_paramOf (unit.withPromotion true) _

/-- Where a property is declared decides nothing about its declaration. -/
theorem declarations_withPromotion_perm (hnames : (properties.map (·.name)).Nodup) :
    ((assembleClass framework (unit.withPromotion true) properties).properties ++
        (assembleClass framework (unit.withPromotion true) properties).promoted).Perm
      (assembleClass framework (unit.withPromotion false) properties).properties := by
  have htrue := declarations_assembleClass_perm framework (unit.withPromotion true) hnames
  have hfalse := declarations_assembleClass_perm framework (unit.withPromotion false) hnames
  rw [promoted_withPromotion_false, List.append_nil] at hfalse
  exact htrue.trans hfalse.symm

/-- The comparison for the classes themselves, whose properties are resolved. -/
theorem assembleClass_movesDeclarations (hnames : (properties.map (·.name)).Nodup) :
    MovesDeclarations (assembleClass framework (unit.withPromotion true) properties)
      (assembleClass framework (unit.withPromotion false) properties) where
  params_eq := (signature_withPromotion framework unit properties true).trans
    (signature_withPromotion framework unit properties false).symm
  declared_perm := declarations_withPromotion_perm framework unit hnames
  promoted_eq_nil := promoted_withPromotion_false framework unit properties
  isPromoted _ := isPromoted_of_mem_params framework unit
  others_eq := rfl
  statements_sublist := by
    rcases statements_withPromotion framework unit properties with
      ⟨htrue, hfalse, -⟩ | ⟨htrue, hfalse⟩
    · rw [htrue, hfalse]
    · rw [htrue, hfalse]
      exact keptBody_sublist framework unit properties
  statements_perm := by
    rcases statements_withPromotion framework unit properties with
      ⟨htrue, hfalse, hparams⟩ | ⟨htrue, hfalse⟩
    · rw [htrue, hfalse, hparams]
      rfl
    · rw [htrue, hfalse, map_assignment_params]
      exact plainBody_perm framework unit properties
  statements_filter := by
    intro hblank
    rcases statements_withPromotion framework unit properties with
      ⟨htrue, hfalse, -⟩ | ⟨htrue, hfalse⟩
    · rw [htrue, hfalse, List.filter_nil]
    · rw [htrue, hfalse, map_assignment_params]
      refine filter_plainBody framework unit properties fun property hproperty => ?_
      rw [← name_paramOf framework (unit.withPromotion false) property]
      refine hblank _ ?_
      rw [params_assembleClass]
      exact List.mem_map_of_mem hproperty

end Classes

/-- **Promotion only moves declarations.** The files of a unit with and without promotion have the
same imports and one class each; the classes declare the same properties, take the same parameters,
and differ in the statements of their constructors by the assignments of parameters alone. -/
theorem classFile_movesDeclarations (unit : ClassUnit) (registry : Registry)
    (namespaceName : String) (hnames : (unit.properties.map (·.name)).Nodup) :
    let promoted := classFile (unit.withPromotion true) registry namespaceName
    let plain := classFile (unit.withPromotion false) registry namespaceName
    promoted.namespaceName = plain.namespaceName ∧ promoted.imports = plain.imports ∧
      promoted.declarations =
        [.classDecl (classOf (unit.withPromotion true) registry namespaceName)] ∧
      plain.declarations =
        [.classDecl (classOf (unit.withPromotion false) registry namespaceName)] ∧
      MovesDeclarations (classOf (unit.withPromotion true) registry namespaceName)
        (classOf (unit.withPromotion false) registry namespaceName) :=
  ⟨rfl, rfl, rfl, rfl, assembleClass_movesDeclarations unit.settings.framework unit
    (nodup_lookedUp unit registry namespaceName hnames)⟩

/-- A basket whose code is a parameter. Its items are created, and its note stays null. -/
def basket : ClassUnit :=
  { kind := .entity
    name := "Basket"
    context := "Sales"
    aggregate := "Basket"
    properties := [
      { name := "items", type := "String", isCollection := true },
      { name := "code", type := "String" },
      { name := "note", type := "String", nullable := true }]
    settings := { framework := .doctrine, constructor := .required } }

theorem classFile_movesDeclarations_basket :
    (basket.properties.map (·.name)).Nodup ∧
    MovesDeclarations (classOf (basket.withPromotion true) {} "App")
      (classOf (basket.withPromotion false) {} "App") ∧
    (classOf (basket.withPromotion true) {} "App").promoted.map (·.name) = ["code"] ∧
    (classOf (basket.withPromotion true) {} "App").statements = ["$this->items = [];"] ∧
    (classOf (basket.withPromotion false) {} "App").statements =
      ["$this->items = [];", "$this->code = $code;"] :=
  have hnames : (basket.properties.map (·.name)).Nodup := by decide
  ⟨hnames, (classFile_movesDeclarations basket {} "App" hnames).2.2.2.2, by decide +kernel,
    by decide +kernel, by decide +kernel⟩

/-! ## Two runs -/

theorem withPromotion_entityUnit (settings : Settings) (plan : UnitPlan) (entity : Entity)
    (promotion : Bool) :
    (entityUnit settings plan entity).withPromotion promotion =
      entityUnit { settings with constructorPromotion := promotion } plan entity :=
  rfl

/-- Promotion has no part in how value objects are made readonly. -/
theorem withPromotion_valueObjectUnit (settings : Settings) (plan : UnitPlan)
    (valueObject : ValueObject) (promotion : Bool) :
    (valueObjectUnit settings plan valueObject).withPromotion promotion =
      valueObjectUnit { settings with constructorPromotion := promotion } plan valueObject :=
  rfl

section Runs

variable [PatternLanguage]

/-- Units of settings that differ in promotion differ in nothing else. -/
theorem classUnit?_withPromotion (model : Model) (settings : Settings) (plan : UnitPlan)
    (promotion : Bool) :
    (prepared model { settings with constructorPromotion := promotion }).classUnit? plan =
      ((prepared model settings).classUnit? plan).map (·.withPromotion promotion) := by
  unfold Preparation.classUnit?
  rw [model_prepared, model_prepared, settings_prepared, settings_prepared]
  cases model.aggregate? plan.contextIndex plan.aggregateIndex with
  | none => rfl
  | some aggregate =>
    cases plan.kind with
    | enumeration => rfl
    | valueObject =>
      simp only [Option.bind_some, Option.map_map]
      exact Option.map_congr fun valueObject _ =>
        (withPromotion_valueObjectUnit settings plan valueObject promotion).symm
    | entity =>
      simp only [Option.bind_some, Option.map_map]
      exact Option.map_congr fun entity _ =>
        (withPromotion_entityUnit settings plan entity promotion).symm

/-- Two runs that differ in promotion plan the same files, and the two classes that they write for
a unit differ only in where properties are declared. -/
theorem generateFile_movesDeclarations {model : Model} {settings : Settings} {plan : UnitPlan}
    {unit : ClassUnit} (hunit : (prepared model settings).classUnit? plan = some unit)
    (hnames : (unit.properties.map (·.name)).Nodup) :
    let found (promotion : Bool) :=
      prepared model { settings with constructorPromotion := promotion }
    let namespaceName := plan.placement.namespaceName
    (found true).plans = (found false).plans ∧ (found true).registry = (found false).registry ∧
      (∀ promotion, generateFile (found promotion) plan = .ok {
        path := plan.placement.path
        content := (classFile (unit.withPromotion promotion) (found promotion).registry
          namespaceName).render
        kind := plan.kind }) ∧
      MovesDeclarations
        (classOf (unit.withPromotion true) (found true).registry namespaceName)
        (classOf (unit.withPromotion false) (found false).registry namespaceName) := by
  refine ⟨rfl, rfl, fun promotion => generateFile_of_classUnit? ?_, ?_⟩
  · rw [classUnit?_withPromotion, hunit]
    rfl
  · exact assembleClass_movesDeclarations unit.settings.framework unit
      (nodup_lookedUp unit _ plan.placement.namespaceName hnames)

end Runs

end DomainForge.Php
