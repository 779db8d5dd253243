import DomainForge.Proofs.Php.Members
import Mathlib.Data.List.Count

/-!
# Readonly value objects

A readonly property can be set once only, so the constructor has to set all of them: one that it
left out could never have a value. Nothing in the settings may stand in the way. The policy of the
constructor is overruled, setters are left out, no property has a default, and what the frameworks
keep from the parameters of a constructor they keep from those of entities alone
(`Framework.isParam_of_isActive`).

The class of a readonly value object is therefore set up as a whole by its constructor and never
changed again (`IsImmutable`). Which part of it is marked as readonly depends on the version
(`ReadonlyMode.ofSettings_eq`). Both are stated together in `valueObject_isImmutable`.
-/

namespace DomainForge

open Php

/-! ## Units that are no entities -/

namespace Framework

variable (framework : Framework) {unit : ClassUnit} (hkind : unit.isEntity = false)

include hkind

/-- A value object declares all of its properties, whatever the framework. -/
theorem declares_of_not_isEntity (property : ResolvedProperty) :
    framework.declares unit property = true := by
  cases framework <;> simp [declares, Laravel.isRelation, hkind]

theorem allowsParam_of_not_isEntity (property : ResolvedProperty) :
    framework.allowsParam unit property = true := by
  cases framework <;> simp [allowsParam, Doctrine.isCreated, hkind]

theorem openingStatements_of_not_isEntity : framework.openingStatements unit = [] := by
  cases framework <;> simp [openingStatements, hkind]

theorem addedProperties_of_not_isEntity : framework.addedProperties unit = [] := by
  simp [addedProperties, Doctrine.addsId, hkind]

theorem addedMethods_of_not_isEntity : framework.addedMethods unit = [] := by
  simp [addedMethods, Doctrine.addsId, hkind]

theorem relations_of_not_isEntity (properties : List ResolvedProperty) :
    framework.relations unit properties = [] := by
  rw [relations_eq_filter, List.filter_eq_nil_iff]
  intro property _
  simp [framework.declares_of_not_isEntity hkind property]

/-- Whatever the policy is, the constructor of a readonly value object takes every property. -/
theorem isParam_of_isActive (hactive : unit.readonlyMode.isActive = true)
    (property : ResolvedProperty) : framework.isParam unit property = true := by
  simp [isParam, framework.allowsParam_of_not_isEntity hkind, ClassUnit.constructorPolicy, hactive,
    ConstructorPolicy.includes]

end Framework

namespace Php

/-! ## How a class is marked -/

/-- Value objects that are to be readonly are so by property in 8.1 and by class from 8.2 on. -/
theorem ReadonlyMode.ofSettings_eq (settings : Settings) :
    ReadonlyMode.ofSettings settings =
      if settings.readonlyValueObjects = false ∨ settings.phpVersion = .v80 then .off
      else if settings.phpVersion = .v81 then .properties
      else .wholeClass := by
  unfold ReadonlyMode.ofSettings Settings.readonlyActive
  cases settings.readonlyValueObjects <;> cases settings.phpVersion <;> rfl

/-- A class is never readonly on the word of a framework. -/
theorem isReadonly_assembleClass (framework : Framework) (unit : ClassUnit)
    (properties : List ResolvedProperty) :
    (assembleClass framework unit properties).isReadonly = (unit.readonlyMode == .wholeClass) :=
  (framework.decorateClass_adds unit (emptyClass unit)).2.2

/-! ## Assignments -/

/-- The length of an assignment tells how long its name is, and so where the name ends. -/
theorem assignment_injective : Function.Injective assignment := by
  intro left right h
  have hchars := congrArg String.toList h
  simp only [assignment, String.toList_append, List.append_assoc, toString,
    List.append_cancel_left_eq] at hchars
  have hlength : left.toList.length = right.toList.length := by
    have hlengths := congrArg List.length hchars
    simp only [List.length_append] at hlengths
    omega
  exact String.toList_injective (List.append_inj_left hchars hlength)

/-- A setter is never taken for a getter. -/
theorem setterName_ne_getterName (left right : String) :
    Naming.setterName left ≠ Naming.getterName right := by
  intro h
  have hchars := congrArg String.toList h
  simp [Naming.setterName, Naming.getterName] at hchars

/-! ## The class of a readonly value object -/

/-- A class with properties of these names sets each of them in its constructor and never again. -/
structure IsImmutable (names : List String) (decl : ClassDecl) : Prop where
  /-- What is declared or promoted are the properties, each once. -/
  declared_perm : ((decl.properties ++ decl.promoted).map (·.name)).Perm names
  /-- The constructor takes them all, in order. -/
  params_eq : decl.params.map (·.name) = names
  /-- Each is promoted or assigned: one of these, and once. -/
  once : ∀ name ∈ names,
    (decl.promoted.map (·.name)).count name + decl.statements.count (assignment name) = 1
  /-- The constructor does nothing else. -/
  assigns : ∀ statement ∈ decl.statements, ∃ name ∈ names, statement = assignment name
  /-- A default would be a second value. -/
  default_eq_none : ∀ found ∈ decl.properties ++ decl.promoted, found.default = none
  /-- Methods read, and take nothing that they could set. -/
  reads : ∀ method ∈ decl.methods, ∃ name ∈ names, method.name = Naming.getterName name ∧
    method.params = [] ∧ method.body = [s!"return $this->{name};"]
  no_setter : ∀ name, Naming.setterName name ∉ decl.methods.map (·.name)

section Active

variable (framework : Framework) {unit : ClassUnit} (hkind : unit.isEntity = false)

section Parts

variable (properties : List ResolvedProperty)

include hkind

theorem declaredIn_of_not_isEntity : declaredIn framework unit properties = properties :=
  List.filter_eq_self.2 fun property _ => framework.declares_of_not_isEntity hkind property

variable (hactive : unit.readonlyMode.isActive = true)

include hactive

theorem filter_isParam_of_isActive : properties.filter (framework.isParam unit) = properties :=
  List.filter_eq_self.2 fun property _ => framework.isParam_of_isActive hkind hactive property

/-- A readonly value object takes all of its properties. -/
theorem map_name_params_of_isActive :
    (assembleClass framework unit properties).params.map (·.name) = properties.map (·.name) := by
  rw [params_assembleClass, declaredIn_of_not_isEntity framework hkind,
    filter_isParam_of_isActive framework hkind properties hactive, List.map_map]
  exact List.map_congr_left fun property _ => name_paramOf framework unit property

theorem map_name_promoted_of_isActive :
    (assembleClass framework unit properties).promoted.map (·.name) =
      if unit.settings.constructorPromotion then properties.map (·.name) else [] := by
  rw [promoted_assembleClass, map_name_declarationFor, declaredIn_of_not_isEntity framework hkind]
  cases hpromotion : unit.settings.constructorPromotion with
  | false => simp [Framework.promotes, hpromotion]
  | true =>
    have hpromotes : framework.promotes unit = framework.isParam unit := by
      funext property
      simp [Framework.promotes, hpromotion]
    rw [hpromotes, filter_isParam_of_isActive framework hkind properties hactive]
    rfl

/-- Without promotion it assigns all of them, in order. -/
theorem statements_of_isActive :
    (assembleClass framework unit properties).statements =
      if unit.settings.constructorPromotion then []
      else (properties.map (·.name)).map assignment := by
  have hstatements : ∀ property, statementsOf framework unit (memberOf framework unit property) =
      if unit.settings.constructorPromotion then [] else [assignment property.name] := by
    intro property
    rw [statementsOf_memberOf, if_pos (framework.isParam_of_isActive hkind hactive property)]
  unfold ClassDecl.statements
  rw [constructor_assembleClass, declaredIn_of_not_isEntity framework hkind,
    framework.openingStatements_of_not_isEntity hkind]
  cases properties with
  | nil => simp
  | cons property rest =>
    -- A constructor is left out only if no property is taken, and here the first one is.
    have htaken : (property :: rest).all (isLeftAlone framework unit) = false := by
      simp [isLeftAlone, framework.isParam_of_isActive hkind hactive property]
    rw [htaken]
    simp only [hstatements]
    cases unit.settings.constructorPromotion with
    | false =>
      rw [List.map_map]
      exact List.map_eq_flatMap.symm
    | true => simp

/-- It has getters at most. -/
theorem methods_of_isActive :
    (assembleClass framework unit properties).methods =
      if unit.settings.getters then
        properties.map fun property => getterOf (memberOf framework unit property)
      else [] := by
  have hsetters : unit.hasSetters = false := by simp [ClassUnit.hasSetters, hactive]
  rw [methods_assembleClass, framework.addedMethods_of_not_isEntity hkind,
    framework.relations_of_not_isEntity hkind, declaredIn_of_not_isEntity framework hkind]
  unfold accessorsOf
  rw [hsetters]
  cases unit.settings.getters with
  | false => simp
  | true => simp [List.map_eq_flatMap]

end Parts

variable {properties : List ResolvedProperty} (hnames : (properties.map (·.name)).Nodup)

include hkind hnames

/-- Whatever is declared is the declaration of a property. -/
theorem exists_declarationFor_of_mem {found : PropertyDecl}
    (hfound : found ∈ (assembleClass framework unit properties).properties ++
      (assembleClass framework unit properties).promoted) :
    ∃ property ∈ properties, declarationFor framework unit property = found := by
  rw [mem_declarations_assembleClass framework unit hnames,
    framework.addedProperties_of_not_isEntity hkind,
    declaredIn_of_not_isEntity framework hkind] at hfound
  exact hfound.resolve_left List.not_mem_nil

theorem isReadonly_of_mem_declarations {found : PropertyDecl}
    (hfound : found ∈ (assembleClass framework unit properties).properties ++
      (assembleClass framework unit properties).promoted) :
    found.isReadonly = (unit.readonlyMode == .properties) := by
  obtain ⟨property, -, rfl⟩ := exists_declarationFor_of_mem framework hkind hnames hfound
  exact isReadonly_declarationFor framework unit property

/-- So nothing but the constructor sets a property. -/
theorem assembleClass_isImmutable (hactive : unit.readonlyMode.isActive = true) :
    IsImmutable (properties.map (·.name)) (assembleClass framework unit properties) := by
  have hreads : ∀ method ∈ (assembleClass framework unit properties).methods,
      ∃ name ∈ properties.map (·.name), method.name = Naming.getterName name ∧
        method.params = [] ∧ method.body = [s!"return $this->{name};"] := by
    intro method hmethod
    rw [methods_of_isActive framework hkind properties hactive] at hmethod
    split at hmethod
    · obtain ⟨property, hproperty, rfl⟩ := List.mem_map.1 hmethod
      exact ⟨property.name, List.mem_map_of_mem hproperty, rfl, rfl, rfl⟩
    · cases hmethod
  refine ⟨?_, map_name_params_of_isActive framework hkind properties hactive, ?_, ?_, ?_, hreads,
    ?_⟩
  · have hdeclared := (declarations_assembleClass_perm framework unit hnames).map (·.name)
    rw [framework.addedProperties_of_not_isEntity hkind, List.nil_append, map_name_declarationFor,
      declaredIn_of_not_isEntity framework hkind] at hdeclared
    exact hdeclared
  · intro name hname
    have hcount : (properties.map (·.name)).count name = 1 :=
      List.count_eq_one_of_mem hnames hname
    rw [map_name_promoted_of_isActive framework hkind properties hactive,
      statements_of_isActive framework hkind properties hactive]
    split
    · rw [hcount, List.count_nil]
    · rw [List.count_nil, List.count_map_of_injective _ _ assignment_injective, hcount]
  · intro statement hstatement
    rw [statements_of_isActive framework hkind properties hactive] at hstatement
    split at hstatement
    · cases hstatement
    · obtain ⟨name, hname, rfl⟩ := List.mem_map.1 hstatement
      exact ⟨name, hname, rfl⟩
  · intro found hfound
    obtain ⟨property, -, rfl⟩ := exists_declarationFor_of_mem framework hkind hnames hfound
    have hnone : needsNoDefault framework unit property = true := by simp [needsNoDefault, hactive]
    rw [declarationFor_eq_decl framework unit hnone, decl_memberOf]
  · intro name hmem
    obtain ⟨method, hmethod, hname⟩ := List.mem_map.1 hmem
    obtain ⟨read, -, hread, -⟩ := hreads method hmethod
    exact setterName_ne_getterName name read (hname.symm.trans hread)

end Active

/-- **Readonly value objects are set up by their constructor and never changed.** The class is
marked as readonly if the version allows it, and else each of its properties is; if readonly value
objects are not asked for, or the version knows none, neither is. -/
theorem valueObject_isImmutable (settings : Settings) (plan : UnitPlan) (valueObject : ValueObject)
    (registry : Registry) (namespaceName : String)
    (hnames : (valueObject.properties.map (·.name)).Nodup) :
    let unit := valueObjectUnit settings plan valueObject
    let decl := classOf unit registry namespaceName
    (classFile unit registry namespaceName).declarations = [.classDecl decl] ∧
      (settings.readonlyValueObjects = true → settings.phpVersion ∈ [.v81, .v82, .v83] →
        IsImmutable (valueObject.properties.map (·.name)) decl) ∧
      (settings.readonlyValueObjects = true → settings.phpVersion ∈ [.v82, .v83] →
        decl.isReadonly = true ∧
          ∀ found ∈ decl.properties ++ decl.promoted, found.isReadonly = false) ∧
      (settings.readonlyValueObjects = true → settings.phpVersion = .v81 →
        decl.isReadonly = false ∧
          ∀ found ∈ decl.properties ++ decl.promoted, found.isReadonly = true) ∧
      (settings.readonlyValueObjects = false ∨ settings.phpVersion = .v80 →
        decl.isReadonly = false ∧
          ∀ found ∈ decl.properties ++ decl.promoted, found.isReadonly = false) := by
  intro unit decl
  have hkind : unit.isEntity = false := rfl
  have hmode : unit.readonlyMode = _ := ReadonlyMode.ofSettings_eq settings
  have hlookedUp := nodup_lookedUp unit registry namespaceName hnames
  have hclass : decl.isReadonly = (unit.readonlyMode == .wholeClass) :=
    isReadonly_assembleClass _ unit _
  have hmembers : ∀ found ∈ decl.properties ++ decl.promoted,
      found.isReadonly = (unit.readonlyMode == .properties) :=
    fun found hfound => isReadonly_of_mem_declarations _ hkind hlookedUp hfound
  refine ⟨rfl, ?_, ?_, ?_, ?_⟩
  · intro hasked hversion
    have hactive : unit.readonlyMode.isActive = true := by
      rw [hmode, hasked]
      revert hversion
      cases settings.phpVersion <;> decide
    have himmutable := assembleClass_isImmutable unit.settings.framework hkind hlookedUp hactive
    rw [map_name_lookedUp] at himmutable
    exact himmutable
  · intro hasked hversion
    have hwhole : unit.readonlyMode = .wholeClass := by
      rw [hmode, hasked]
      revert hversion
      cases settings.phpVersion <;> decide
    rw [hwhole] at hclass hmembers
    exact ⟨hclass, hmembers⟩
  · intro hasked hversion
    have hproperties : unit.readonlyMode = .properties := by
      rw [hmode, hasked, hversion]
      rfl
    rw [hproperties] at hclass hmembers
    exact ⟨hclass, hmembers⟩
  · intro hoff
    rw [hmode, if_pos hoff] at hclass hmembers
    exact ⟨hclass, hmembers⟩

/-- A price whose unit may be null and whose tags are a collection. -/
def price : ValueObject :=
  { name := "Price"
    properties := [
      { name := "amount", type := "Int" },
      { name := "unit", type := "String", nullable := true },
      { name := "tags", type := "String", isCollection := true }] }

/-- The plan of the price. -/
def pricePlan : UnitPlan :=
  { kind := .valueObject, name := "Price", context := "Sales", aggregate := "Order"
    contextIndex := 0, aggregateIndex := 0, index := 0
    placement := { finalName := "Price", path := "Price.php", namespaceName := "App" } }

/-- The class of the price for a version, by settings that ask for setters and for no parameters. -/
def priceClass (version : PhpVersion) : ClassDecl :=
  classOf (valueObjectUnit
    { framework := .doctrine, phpVersion := version, readonlyValueObjects := true
      constructor := .none } pricePlan price) {} "App"

theorem valueObject_isImmutable_price :
    (price.properties.map (·.name)).Nodup ∧
    IsImmutable ["amount", "unit", "tags"] (priceClass .v81) ∧
    (priceClass .v82).isReadonly = true ∧
    (∀ found ∈ (priceClass .v81).properties ++ (priceClass .v81).promoted,
      found.isReadonly = true) ∧
    (priceClass .v80).isReadonly = false ∧
    (priceClass .v81).statements = ["amount", "unit", "tags"].map assignment :=
  have hnames : (price.properties.map (·.name)).Nodup := by decide
  have himmutable (version : PhpVersion) := valueObject_isImmutable
    { framework := .doctrine, phpVersion := version, readonlyValueObjects := true
      constructor := .none } pricePlan price {} "App" hnames
  ⟨hnames, (himmutable .v81).2.1 rfl (by decide), ((himmutable .v82).2.2.1 rfl (by decide)).1,
    ((himmutable .v81).2.2.2.1 rfl rfl).2, ((himmutable .v80).2.2.2.2 (.inr rfl)).1,
    by decide +kernel⟩

end Php

end DomainForge
