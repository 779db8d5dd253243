import DomainForge.Proofs.Php.ClassFile
import Mathlib.Data.List.Nodup
import Mathlib.Data.List.Perm.Basic

/-!
# The members of a class

A class tells the properties of its unit in three ways: it declares them among its members, it
declares them in the parameters of its constructor (they are promoted), or, for the relations of an
Eloquent model, it has a method of their name. Which way is taken is decided in different places,
with the names of parameters as the only link between the first two. As long as names are distinct
the decision is one about each property alone (`Framework.declares`, `Framework.promotes`), and the
parts of the class are lists over the properties:

* `properties_assembleClass`, `promoted_assembleClass`: what is declared, and where;
* `params_assembleClass`: what the constructor takes;
* `methods_assembleClass`: the accessors, and the methods that tell relations.

So every property is told exactly once (`classFile_tellsEachOnce`).
-/

namespace DomainForge

open Php

/-! ## Views -/

namespace Php

/-- The property that a parameter declares, if it declares one. -/
def ConstructorParam.property? : ConstructorParam → Option PropertyDecl
  | plain _ => none
  | promoted property => some property

namespace ClassDecl

/-- The parameters of the constructor, if there is one. -/
def params (decl : ClassDecl) : List ConstructorParam :=
  decl.constructor.elim [] (·.params)

/-- The statements of the constructor, if there is one. -/
def statements (decl : ClassDecl) : List String :=
  decl.constructor.elim [] (·.body)

/-- The properties that are declared in the parameters of the constructor. -/
def promoted (decl : ClassDecl) : List PropertyDecl :=
  decl.params.filterMap (·.property?)

end ClassDecl

end Php

/-! ## What a framework decides about a property -/

namespace Framework

variable (framework : Framework) (unit : ClassUnit)

/-- Whether a property is declared in a parameter. -/
def promotes (property : ResolvedProperty) : Bool :=
  unit.settings.constructorPromotion && framework.isParam unit property

/-- The properties that the framework adds to those of the model. -/
def addedProperties : List PropertyDecl :=
  if framework = .doctrine ∧ Doctrine.addsId unit then [Doctrine.idProperty] else []

/-- The methods that the framework adds for the properties that it adds. -/
def addedMethods : List MethodDecl :=
  if framework = .doctrine ∧ Doctrine.addsId unit ∧ unit.settings.getters then [Doctrine.idGetter]
  else []

/-- What is not declared is told by a method. -/
theorem relations_eq_filter (properties : List ResolvedProperty) :
    framework.relations unit properties =
      properties.filter fun property => !framework.declares unit property := by
  cases framework <;> simp [relations, declares]

/-- What the framework adds to the members of a class. -/
theorem decorateClass_adds (decl : ClassDecl) :
    (framework.decorateClass unit decl).properties =
        framework.addedProperties unit ++ decl.properties ∧
      (framework.decorateClass unit decl).methods =
        framework.addedMethods unit ++ decl.methods ∧
      (framework.decorateClass unit decl).isReadonly = decl.isReadonly := by
  cases framework with
  | plain => exact ⟨rfl, rfl, rfl⟩
  | laravel =>
    simp only [decorateClass]
    split <;> exact ⟨rfl, rfl, rfl⟩
  | doctrine =>
    cases hattributes : unit.settings.doctrine.attributes with
    | false =>
      have hid : Doctrine.addsId unit = false := by simp [Doctrine.addsId, hattributes]
      simp [decorateClass, addedProperties, addedMethods, hattributes, hid]
    | true =>
      cases hid : Doctrine.addsId unit <;> cases hgetters : unit.settings.getters <;>
        simp [decorateClass, addedProperties, addedMethods, hattributes, hid, hgetters]

end Framework

namespace Php

section Assembly

variable (framework : Framework) (unit : ClassUnit)

theorem ReadonlyMode.not_isActive (mode : ReadonlyMode) :
    (!(mode == .properties) && !(mode == .wholeClass)) = !mode.isActive := by
  cases mode <;> rfl

/-- A framework adds to the comment and the attributes of a property, and leaves the rest. -/
theorem decl_memberOf (property : ResolvedProperty) :
    (memberOf framework unit property).decl =
      { name := property.name
        type := framework.typeOf unit property
        visibility := visibilityOf unit.settings.propertyVisibility
        isReadonly := unit.readonlyMode == .properties
        doc := (memberOf framework unit property).decl.doc
        attributes := (memberOf framework unit property).decl.attributes } := by
  cases framework <;> rfl

/-- Whether a property has its first value from the constructor, or may have none yet because it is
readonly. -/
def needsNoDefault (property : ResolvedProperty) : Bool :=
  framework.isParam unit property || (framework.initializer? unit property).isSome ||
    unit.readonlyMode.isActive

/-- The declaration of a property, wherever it stands. -/
def declarationFor (property : ResolvedProperty) : PropertyDecl :=
  { (memberOf framework unit property).decl with
    default :=
      if needsNoDefault framework unit property then none
      else defaultOf (memberOf framework unit property) }

theorem name_declarationFor (property : ResolvedProperty) :
    (declarationFor framework unit property).name = property.name := by
  rw [declarationFor, decl_memberOf]

theorem type_declarationFor (property : ResolvedProperty) :
    (declarationFor framework unit property).type = framework.typeOf unit property := by
  rw [declarationFor, decl_memberOf]

/-- The mode of the unit decides, not the property. -/
theorem isReadonly_declarationFor (property : ResolvedProperty) :
    (declarationFor framework unit property).isReadonly = (unit.readonlyMode == .properties) := by
  rw [declarationFor, decl_memberOf]

theorem declarationFor_eq_decl {property : ResolvedProperty}
    (h : needsNoDefault framework unit property = true) :
    declarationFor framework unit property = (memberOf framework unit property).decl := by
  rw [declarationFor, if_pos h, decl_memberOf]

/-! ## The constructor -/

theorem name_paramOf (property : ResolvedProperty) :
    (paramOf unit (memberOf framework unit property)).name = property.name := by
  unfold paramOf
  split
  · rw [decl_memberOf]
    rfl
  · rfl

theorem type_paramOf (property : ResolvedProperty) :
    (paramOf unit (memberOf framework unit property)).type = framework.typeOf unit property := by
  unfold paramOf
  split <;> rw [decl_memberOf] <;> rfl

theorem isPromoted_paramOf (member : Member) :
    (paramOf unit member).isPromoted = unit.settings.constructorPromotion := by
  unfold paramOf
  split
  · rename_i h
    exact h.symm
  · rename_i h
    exact (Bool.eq_false_iff.2 h).symm

/-- With promotion, a parameter declares its property as it would be declared without it. -/
theorem property?_paramOf {property : ResolvedProperty}
    (h : framework.isParam unit property = true) :
    (paramOf unit (memberOf framework unit property)).property? =
      if unit.settings.constructorPromotion then some (declarationFor framework unit property)
      else none := by
  have hnone : needsNoDefault framework unit property = true := by simp [needsNoDefault, h]
  unfold paramOf declarationFor
  rw [if_pos hnone]
  split <;> rfl

/-- Without a constructor there is nothing to be taken. -/
theorem params_constructorOf? (members : List Member) :
    (constructorOf? framework unit members).elim [] (·.params) =
      (members.filter fun member => framework.isParam unit member.property).map
        (paramOf unit) := by
  simp only [constructorOf?]
  split
  · rename_i hempty
    have hparams := (Bool.and_eq_true_iff.1 hempty).1
    exact (List.isEmpty_iff.1 hparams).symm
  · rfl

theorem mem_accessorsOf {unit : ClassUnit} {member : Member} {method : MethodDecl}
    (h : method ∈ accessorsOf unit member) :
    method = getterOf member ∨ method = setterOf member := by
  rcases List.mem_append.1 h with hgetter | hsetter
  · split at hgetter
    · exact .inl (List.mem_singleton.1 hgetter)
    · cases hgetter
  · split at hsetter
    · exact .inr (List.mem_singleton.1 hsetter)
    · cases hsetter

theorem any_params_eq (constructor : Option ConstructorDecl) (p : ConstructorParam → Bool) :
    (constructor.any fun found => found.params.any p) =
      (constructor.elim [] (·.params)).any p := by
  cases constructor <;> rfl

/-! ## Declarations -/

variable (properties : List ResolvedProperty)

/-- The properties that are declared, in the class or in the constructor. -/
def declaredIn : List ResolvedProperty :=
  properties.filter (framework.declares unit)

theorem filter_map_memberOf :
    (((declaredIn framework unit properties).map (memberOf framework unit)).filter fun member =>
        framework.isParam unit member.property) =
      ((declaredIn framework unit properties).filter (framework.isParam unit)).map
        (memberOf framework unit) := by
  rw [List.filter_map]
  rfl

theorem params_assembleClass :
    (assembleClass framework unit properties).params =
      ((declaredIn framework unit properties).filter (framework.isParam unit)).map fun property =>
        paramOf unit (memberOf framework unit property) := by
  refine (params_constructorOf? framework unit _).trans ?_
  rw [← declaredIn, filter_map_memberOf, List.map_map]
  rfl

/-- The statements of a constructor for a property. -/
theorem statementsOf_memberOf (property : ResolvedProperty) :
    statementsOf framework unit (memberOf framework unit property) =
      if framework.isParam unit property then
        if unit.settings.constructorPromotion then [] else [assignment property.name]
      else (framework.initializer? unit property).toList := by
  have hproperty : (memberOf framework unit property).property = property := rfl
  have hname : (memberOf framework unit property).name = property.name := rfl
  unfold statementsOf
  rw [hproperty, hname]
  cases framework.isParam unit property <;> rfl

/-- Whether the constructor has nothing to do with a property. -/
def isLeftAlone (property : ResolvedProperty) : Bool :=
  !framework.isParam unit property && (framework.initializer? unit property).isNone

theorem isEmpty_plainConstructor :
    (plainConstructor framework unit
        ((declaredIn framework unit properties).map (memberOf framework unit))).isEmpty =
      (declaredIn framework unit properties).all (isLeftAlone framework unit) := by
  unfold plainConstructor ConstructorDecl.isEmpty
  rw [filter_map_memberOf, List.flatMap_map]
  induction declaredIn framework unit properties with
  | nil => rfl
  | cons property rest ih =>
    simp only [List.all_cons, List.flatMap_cons, List.filter_cons, statementsOf_memberOf] at ih ⊢
    rw [← ih]
    unfold isLeftAlone
    cases hparam : framework.isParam unit property <;>
      cases framework.initializer? unit property <;> simp

/-- The constructor of a class. There is none if it has nothing to do with any property. -/
theorem constructor_assembleClass :
    (assembleClass framework unit properties).constructor =
      if (declaredIn framework unit properties).all (isLeftAlone framework unit) then none
      else some
        { params := ((declaredIn framework unit properties).filter (framework.isParam unit)).map
            fun property => paramOf unit (memberOf framework unit property)
          body := framework.openingStatements unit ++
            (declaredIn framework unit properties).flatMap fun property =>
              statementsOf framework unit (memberOf framework unit property) } := by
  have hparts : (assembleClass framework unit properties).constructor =
      constructorOf? framework unit
        ((declaredIn framework unit properties).map (memberOf framework unit)) := rfl
  rw [hparts]
  simp only [constructorOf?]
  rw [isEmpty_plainConstructor]
  split
  · rfl
  · unfold plainConstructor
    rw [filter_map_memberOf, List.map_map, List.flatMap_map]
    rfl

variable {properties} (hnames : (properties.map (·.name)).Nodup)

include hnames

/-- If names are distinct, a parameter of a property's name is that of the property. -/
theorem any_params_name {p : ConstructorParam → Bool} {taken : Bool}
    (hp : ∀ property, p (paramOf unit (memberOf framework unit property)) = taken)
    {property : ResolvedProperty} (hmem : property ∈ declaredIn framework unit properties) :
    ((assembleClass framework unit properties).params.any fun param =>
        p param && param.name == property.name) =
      (taken && framework.isParam unit property) := by
  rw [params_assembleClass, List.any_map, Bool.eq_iff_iff, List.any_eq_true]
  simp only [Function.comp_apply, hp, name_paramOf, Bool.and_eq_true, beq_iff_eq, List.mem_filter]
  constructor
  · rintro ⟨other, ⟨hother, hparam⟩, htaken, hname⟩
    have hsame : other = property := List.inj_on_of_nodup_map hnames
      (List.mem_of_mem_filter hother) (List.mem_of_mem_filter hmem) hname
    exact ⟨htaken, hsame ▸ hparam⟩
  · rintro ⟨htaken, hparam⟩
    exact ⟨property, ⟨hmem, hparam⟩, htaken, rfl⟩

/-- What stands for a property among the members: nothing if it is promoted, else its
declaration. -/
theorem declarationOf?_eq {property : ResolvedProperty}
    (hmem : property ∈ declaredIn framework unit properties) :
    declarationOf? framework unit (framework.decorateClass unit (emptyClass unit)).isReadonly
        (assembleClass framework unit properties).constructor
        (memberOf framework unit property) =
      if framework.promotes unit property then none
      else some (declarationFor framework unit property) := by
  have hpromoted := any_params_name framework unit hnames
    (isPromoted_paramOf unit <| memberOf _ _ ·) hmem
  have htaken := any_params_name framework unit hnames (p := fun _ => true) (fun _ => rfl) hmem
  have hclass : (framework.decorateClass unit (emptyClass unit)).isReadonly =
      (unit.readonlyMode == .wholeClass) := (framework.decorateClass_adds unit _).2.2
  have hcondition : (!(framework.isParam unit property ||
      (framework.initializer? unit property).isSome) && !(unit.readonlyMode == .properties) &&
        !(unit.readonlyMode == .wholeClass)) = !needsNoDefault framework unit property := by
    rw [Bool.and_assoc, ReadonlyMode.not_isActive, ← Bool.not_or]
    rfl
  have hparams : (assembleClass framework unit properties).constructor.elim [] (·.params) =
      (assembleClass framework unit properties).params := rfl
  have hname : (memberOf framework unit property).name = property.name := rfl
  have hproperty : (memberOf framework unit property).property = property := rfl
  have hreadonly : (memberOf framework unit property).decl.isReadonly =
      (unit.readonlyMode == .properties) := by rw [decl_memberOf]
  have hdefault : (memberOf framework unit property).decl.default = none := by rw [decl_memberOf]
  simp only [Bool.true_and] at htaken
  unfold declarationOf? isSet
  rw [any_params_eq, any_params_eq, hparams, hclass, hname, hproperty, hpromoted, htaken, hreadonly,
    hdefault, Option.isNone_none, Bool.and_true, hcondition]
  unfold Framework.promotes
  split
  · rfl
  · cases hneeds : needsNoDefault framework unit property with
    | false =>
      rw [declarationFor, hneeds]
      rfl
    | true =>
      rw [declarationFor_eq_decl framework unit hneeds]
      rfl

omit hnames in
theorem properties_assembleClass_eq_filterMap :
    (assembleClass framework unit properties).properties =
      framework.addedProperties unit ++
        ((declaredIn framework unit properties).map (memberOf framework unit)).filterMap
          (declarationOf? framework unit
            (framework.decorateClass unit (emptyClass unit)).isReadonly
            (assembleClass framework unit properties).constructor) := by
  have hadded : (framework.decorateClass unit (emptyClass unit)).properties =
      framework.addedProperties unit := by
    rw [(framework.decorateClass_adds unit (emptyClass unit)).1]
    exact List.append_nil _
  rw [← hadded]
  rfl

/-- What is declared among the members: what the framework adds, and the properties that are not
promoted. -/
theorem properties_assembleClass :
    (assembleClass framework unit properties).properties =
      framework.addedProperties unit ++
        ((declaredIn framework unit properties).filter (!framework.promotes unit ·)).map
          (declarationFor framework unit) := by
  rw [properties_assembleClass_eq_filterMap, List.filterMap_map, ← List.filterMap_eq_map,
    List.filterMap_filter, List.append_cancel_left_eq]
  refine List.filterMap_congr fun property hmem => ?_
  rw [Function.comp_apply, Function.comp_apply, declarationOf?_eq framework unit hnames hmem]
  cases framework.promotes unit property <;> rfl

omit hnames in
theorem promoted_assembleClass :
    (assembleClass framework unit properties).promoted =
      ((declaredIn framework unit properties).filter (framework.promotes unit)).map
        (declarationFor framework unit) := by
  have hproperties : ∀ property ∈ (declaredIn framework unit properties).filter
      (framework.isParam unit), (paramOf unit (memberOf framework unit property)).property? =
        if unit.settings.constructorPromotion then some (declarationFor framework unit property)
        else none :=
    fun property hmem => property?_paramOf framework unit (List.mem_filter.1 hmem).2
  unfold ClassDecl.promoted
  rw [params_assembleClass, List.filterMap_map]
  refine (List.filterMap_congr hproperties).trans ?_
  unfold Framework.promotes
  cases unit.settings.constructorPromotion <;> simp [List.filterMap_eq_map']

omit hnames in
/-- The methods of a class: those that the framework adds, the accessors of what is declared, and
the methods that tell relations. -/
theorem methods_assembleClass :
    (assembleClass framework unit properties).methods =
      framework.addedMethods unit ++
        (declaredIn framework unit properties).flatMap
          (fun property => accessorsOf unit (memberOf framework unit property)) ++
        (framework.relations unit properties).map Laravel.relationMethod := by
  have hparts : (assembleClass framework unit properties).methods =
      (framework.decorateClass unit (emptyClass unit)).methods ++
        ((declaredIn framework unit properties).map (memberOf framework unit)).flatMap
          (accessorsOf unit) ++
        (framework.relations unit properties).map Laravel.relationMethod := rfl
  have hadded := (framework.decorateClass_adds unit (emptyClass unit)).2.1
  rw [hparts, hadded, List.flatMap_map]
  simp [emptyClass]

/-! ## Each property once -/

omit hnames in
theorem map_name_declarationFor (found : List ResolvedProperty) :
    (found.map (declarationFor framework unit)).map (·.name) = found.map (·.name) := by
  rw [List.map_map]
  exact List.map_congr_left fun property _ => name_declarationFor framework unit property

/-- What a class declares, among its members or in its constructor: what the framework adds, and
each property that is not told by a method. -/
theorem declarations_assembleClass_perm :
    ((assembleClass framework unit properties).properties ++
        (assembleClass framework unit properties).promoted).Perm
      (framework.addedProperties unit ++
        (declaredIn framework unit properties).map (declarationFor framework unit)) := by
  have hboth : ((declaredIn framework unit properties).filter (!framework.promotes unit ·) ++
      (declaredIn framework unit properties).filter (framework.promotes unit)).Perm
        (declaredIn framework unit properties) :=
    List.perm_append_comm.trans (List.filter_append_perm _ _)
  rw [properties_assembleClass framework unit hnames, promoted_assembleClass, List.append_assoc,
    ← List.map_append]
  exact (hboth.map _).append_left _

/-- All that a class declares: what its framework adds, and its properties. -/
theorem mem_declarations_assembleClass {found : PropertyDecl} :
    found ∈ (assembleClass framework unit properties).properties ++
        (assembleClass framework unit properties).promoted ↔
      found ∈ framework.addedProperties unit ∨
        ∃ property ∈ declaredIn framework unit properties,
          declarationFor framework unit property = found := by
  rw [(declarations_assembleClass_perm framework unit hnames).mem_iff, List.mem_append,
    List.mem_map]

/-- The names that a class tells, in whichever way, are those of the properties, besides what the
framework adds. -/
theorem names_assembleClass_perm :
    ((assembleClass framework unit properties).properties.map (·.name) ++
        (assembleClass framework unit properties).promoted.map (·.name) ++
        ((framework.relations unit properties).map Laravel.relationMethod).map (·.name)).Perm
      ((framework.addedProperties unit).map (·.name) ++ properties.map (·.name)) := by
  have hrelations : ((framework.relations unit properties).map Laravel.relationMethod).map
      (·.name) = (properties.filter (!framework.declares unit ·)).map (·.name) := by
    rw [List.map_map, framework.relations_eq_filter]
    rfl
  have hdeclared := (declarations_assembleClass_perm framework unit hnames).map (·.name)
  have hall : ((declaredIn framework unit properties).map (·.name) ++
      (properties.filter (!framework.declares unit ·)).map (·.name)).Perm
        (properties.map (·.name)) := by
    rw [← List.map_append]
    exact (List.filter_append_perm _ _).map _
  rw [List.map_append, List.map_append, map_name_declarationFor] at hdeclared
  rw [hrelations]
  refine (hdeclared.append_right _).trans ?_
  rw [List.append_assoc]
  exact hall.append_left _

end Assembly

/-! ## Classes of units -/

/-- Resolving keeps properties and their order. -/
theorem References.map_property_resolveAll (references : References) (properties : List Property) :
    (references.resolveAll properties).1.map (·.property) = properties := by
  induction properties generalizing references with
  | nil => rfl
  | cons property rest ih =>
    have hproperty : (references.resolve property).1.property = property := by
      cases htarget : references.targetOf? property with
      | none => rw [resolve_eq_of_none htarget]
      | some info => rw [resolve_eq_of_some htarget]
    rw [resolveAll_cons, List.map_cons, hproperty, ih]

section Unit

variable (unit : ClassUnit) (registry : Registry) (namespaceName : String)

/-- The class of a unit. -/
def classOf : ClassDecl :=
  assembleClass unit.settings.framework unit (lookedUp unit registry namespaceName).1

theorem map_name_lookedUp :
    (lookedUp unit registry namespaceName).1.map (·.name) = unit.properties.map (·.name) := by
  have hproperties := References.map_property_resolveAll
    (classReferences unit registry namespaceName) unit.properties
  conv_rhs => rw [← hproperties]
  rw [List.map_map]
  rfl

/-- The methods that tell relations, each of the name of its property. -/
def relationMethods (properties : List ResolvedProperty) : List MethodDecl :=
  (unit.settings.framework.relations unit properties).map Laravel.relationMethod

/-- How the properties of a unit are found again in its class. -/
structure TellsEachOnce (unit : ClassUnit) (properties : List ResolvedProperty)
    (decl : ClassDecl) : Prop where
  /-- What was looked up are the properties of the model. -/
  lookedUp : properties.map (·.property) = unit.properties
  /-- Relations are told by methods of their own, behind the accessors of what is declared. -/
  methods : ∃ accessors, decl.methods = accessors ++ relationMethods unit properties ∧
    ∀ method ∈ accessors, ∃ found ∈ decl.properties ++ decl.promoted,
      method.body = [s!"return $this->{found.name};"] ∨ method.body = [assignment found.name]
  /-- A property is declared, promoted, or told by a method: one of these, and once. -/
  once : ∀ property ∈ unit.properties,
    (decl.properties.map (·.name)).count property.name +
      (decl.promoted.map (·.name)).count property.name +
      ((relationMethods unit properties).map (·.name)).count property.name = 1
  /-- It has the type that the framework chose. -/
  type_eq : ∀ property ∈ properties, ∀ found ∈ decl.properties ++ decl.promoted,
    found.name = property.name → found.type = unit.settings.framework.typeOf unit property
  /-- The order of the model is kept, in each of the three groups. -/
  declared_sublist : ((decl.properties.filter (unit.declares ·.name)).map (·.name)).Sublist
    (unit.properties.map (·.name))
  promoted_sublist : (decl.promoted.map (·.name)).Sublist (unit.properties.map (·.name))
  relations_sublist : ((relationMethods unit properties).map (·.name)).Sublist
    (unit.properties.map (·.name))
  /-- Nothing else is declared, but for the identifier of a Doctrine entity. -/
  added : decl.properties.filter (!unit.declares ·.name) =
    if unit.settings.framework = .doctrine ∧ unit.settings.doctrine.attributes = true ∧
        unit.isEntity = true ∧ unit.declares "id" = false then [Doctrine.idProperty] else []

variable {unit}

theorem declares_iff {name : String} :
    unit.declares name = true ↔ name ∈ unit.properties.map (·.name) := by
  simp [ClassUnit.declares]

/-- What a framework adds is not declared in the model. -/
theorem declares_of_mem_addedProperties {framework : Framework} {found : PropertyDecl}
    (h : found ∈ framework.addedProperties unit) : unit.declares found.name = false := by
  unfold Framework.addedProperties at h
  split at h
  · rename_i hid
    rw [List.mem_singleton.1 h]
    have hdeclares : unit.declares "id" = false := by
      simpa using (Bool.and_eq_true_iff.1 hid.2).2
    exact hdeclares
  · cases h

variable (unit)

theorem declares_of_mem_lookedUp {property : ResolvedProperty}
    (h : property ∈ (lookedUp unit registry namespaceName).1) :
    unit.declares property.name = true := by
  rw [declares_iff, ← map_name_lookedUp unit registry namespaceName]
  exact List.mem_map_of_mem h

variable (hnames : (unit.properties.map (·.name)).Nodup)

include hnames

theorem nodup_lookedUp : ((lookedUp unit registry namespaceName).1.map (·.name)).Nodup := by
  rw [map_name_lookedUp]
  exact hnames

/-- The members that are declared, by whether the model declares them. -/
theorem filter_properties_classOf :
    (classOf unit registry namespaceName).properties.filter (!unit.declares ·.name) =
        unit.settings.framework.addedProperties unit ∧
      (classOf unit registry namespaceName).properties.filter (unit.declares ·.name) =
        ((declaredIn unit.settings.framework unit (lookedUp unit registry namespaceName).1).filter
          (!unit.settings.framework.promotes unit ·)).map
            (declarationFor unit.settings.framework unit) := by
  have hadded : ∀ found ∈ unit.settings.framework.addedProperties unit,
      unit.declares found.name = false := fun found h => declares_of_mem_addedProperties h
  have hmodel : ∀ found ∈ ((declaredIn unit.settings.framework unit
      (lookedUp unit registry namespaceName).1).filter
        (!unit.settings.framework.promotes unit ·)).map
          (declarationFor unit.settings.framework unit), unit.declares found.name = true := by
    intro found hfound
    obtain ⟨property, hproperty, rfl⟩ := List.mem_map.1 hfound
    rw [name_declarationFor]
    exact declares_of_mem_lookedUp unit registry namespaceName
      (List.mem_of_mem_filter (List.mem_of_mem_filter hproperty))
  unfold classOf
  rw [properties_assembleClass _ _ (nodup_lookedUp unit registry namespaceName hnames)]
  constructor
  · rw [List.filter_append, List.filter_eq_self.2 (by simpa using hadded),
      List.filter_eq_nil_iff.2 (by simpa using hmodel), List.append_nil]
  · rw [List.filter_append, List.filter_eq_nil_iff.2 (by simpa using hadded),
      List.filter_eq_self.2 (by simpa using hmodel), List.nil_append]

theorem mem_declarations_classOf {found : PropertyDecl} :
    found ∈ (classOf unit registry namespaceName).properties ++
        (classOf unit registry namespaceName).promoted ↔
      found ∈ unit.settings.framework.addedProperties unit ∨
        ∃ property ∈ declaredIn unit.settings.framework unit
            (lookedUp unit registry namespaceName).1,
          declarationFor unit.settings.framework unit property = found :=
  mem_declarations_assembleClass _ _ (nodup_lookedUp unit registry namespaceName hnames)

/-- Every method but those that tell relations reads or sets something that is declared. -/
theorem exists_accessors_classOf :
    ∃ accessors, (classOf unit registry namespaceName).methods =
        accessors ++ relationMethods unit (lookedUp unit registry namespaceName).1 ∧
      ∀ method ∈ accessors, ∃ found ∈ (classOf unit registry namespaceName).properties ++
        (classOf unit registry namespaceName).promoted,
          method.body = [s!"return $this->{found.name};"] ∨
            method.body = [assignment found.name] := by
  have hdeclared (found : PropertyDecl) :=
    (mem_declarations_classOf unit registry namespaceName hnames : found ∈ _ ↔ _).2
  refine ⟨_, methods_assembleClass unit.settings.framework unit, fun method hmethod => ?_⟩
  rcases List.mem_append.1 hmethod with hmethod | hmethod
  · unfold Framework.addedMethods at hmethod
    split at hmethod
    · rename_i hid
      rw [List.mem_singleton.1 hmethod]
      refine ⟨Doctrine.idProperty, hdeclared _ (.inl ?_), .inl rfl⟩
      simp [Framework.addedProperties, hid]
    · cases hmethod
  · obtain ⟨property, hproperty, haccessor⟩ := List.mem_flatMap.1 hmethod
    refine ⟨_, hdeclared _ (.inr ⟨property, hproperty, rfl⟩), ?_⟩
    rw [name_declarationFor]
    rcases mem_accessorsOf haccessor with rfl | rfl
    · exact .inl rfl
    · exact .inr rfl

/-- **No property is lost or told twice.** Each property of a unit is declared in its class,
promoted in its constructor, or told by a method of its name, with the type of the framework and in
the order of the model; and only the identifier of a Doctrine entity is declared besides them. -/
theorem classFile_tellsEachOnce :
    (classFile unit registry namespaceName).declarations =
        [.classDecl (classOf unit registry namespaceName)] ∧
      TellsEachOnce unit (lookedUp unit registry namespaceName).1
        (classOf unit registry namespaceName) := by
  have hlookedUp := nodup_lookedUp unit registry namespaceName hnames
  obtain ⟨hadded, hmodel⟩ := filter_properties_classOf unit registry namespaceName hnames
  refine ⟨rfl, ?_, exists_accessors_classOf unit registry namespaceName hnames, ?_, ?_, ?_, ?_, ?_,
    ?_⟩
  · exact References.map_property_resolveAll _ _
  · intro property hproperty
    have hname : property.name ∈ unit.properties.map (·.name) := List.mem_map_of_mem hproperty
    have hnone : property.name ∉ (unit.settings.framework.addedProperties unit).map (·.name) := by
      intro hmem
      obtain ⟨found, hfound, heq⟩ := List.mem_map.1 hmem
      have hdeclares := declares_of_mem_addedProperties hfound
      rw [heq, declares_iff.2 hname] at hdeclares
      cases hdeclares
    have hcount := (names_assembleClass_perm unit.settings.framework unit hlookedUp).count_eq
      property.name
    rw [List.count_append, List.count_append, List.count_append, List.count_eq_zero.2 hnone,
      map_name_lookedUp, List.count_eq_one_of_mem hnames hname, Nat.zero_add] at hcount
    exact hcount
  · intro property hproperty found hfound hname
    rcases (mem_declarations_classOf unit registry namespaceName hnames).1 hfound with
      hfound | ⟨other, hother, rfl⟩
    · have hdeclares := declares_of_mem_addedProperties hfound
      rw [hname, declares_of_mem_lookedUp unit registry namespaceName hproperty] at hdeclares
      cases hdeclares
    · rw [name_declarationFor] at hname
      obtain rfl :=
        List.inj_on_of_nodup_map hlookedUp (List.mem_of_mem_filter hother) hproperty hname
      exact type_declarationFor unit.settings.framework unit other
  · rw [hmodel, map_name_declarationFor, ← map_name_lookedUp unit registry namespaceName]
    exact (List.filter_sublist.trans List.filter_sublist).map _
  · unfold classOf
    rw [promoted_assembleClass, map_name_declarationFor,
      ← map_name_lookedUp unit registry namespaceName]
    exact (List.filter_sublist.trans List.filter_sublist).map _
  · rw [← map_name_lookedUp unit registry namespaceName, relationMethods, List.map_map,
      unit.settings.framework.relations_eq_filter]
    exact List.filter_sublist.map _
  · rw [hadded]
    unfold Framework.addedProperties Doctrine.addsId
    simp [and_assoc]

end Unit

/-- An order whose properties are told in all three ways: the code is promoted, the note, which may
be null, is declared, and the customer is told by a method. -/
def mixedOrder : ClassUnit :=
  { kind := .entity
    name := "Order"
    context := "Sales"
    aggregate := "Order"
    properties := [
      { name := "customer", type := "Customer", isRelation := true },
      { name := "code", type := "String" },
      { name := "note", type := "String", nullable := true }]
    settings := { framework := .laravel, constructor := .required, constructorPromotion := true } }

theorem classFile_tellsEachOnce_mixedOrder :
    (mixedOrder.properties.map (·.name)).Nodup ∧
    ((classFile mixedOrder {} "App").declarations = [.classDecl (classOf mixedOrder {} "App")] ∧
      TellsEachOnce mixedOrder (lookedUp mixedOrder {} "App").1 (classOf mixedOrder {} "App")) ∧
    (classOf mixedOrder {} "App").properties.map (·.name) = ["note"] ∧
    (classOf mixedOrder {} "App").promoted.map (·.name) = ["code"] ∧
    (relationMethods mixedOrder (lookedUp mixedOrder {} "App").1).map (·.name) = ["customer"] :=
  have hnames : (mixedOrder.properties.map (·.name)).Nodup := by decide
  ⟨hnames, classFile_tellsEachOnce mixedOrder {} "App" hnames, by decide +kernel, by decide +kernel,
    by decide +kernel⟩

end Php

end DomainForge
