import DomainForge.Proofs.Php.Members

/-!
# Types that refer to units

A type name is looked up twice. The first time it is taken for the name of a unit, unless it is a
primitive, and the final name of that unit is found (`References.resolve`). The second time a PHP
type is made of what was found (`scalarType`), and here a name is a primitive again if it is called
so, whether it came from a unit or not. A rule that strips names can give a unit any name, so the
two may disagree: the entity `TextEntity` may end as `Text`, and a property that refers to it has
then the type `string`.

`KeepsItsText` says which names the second lookup leaves alone. With it, `unitReference_written_iff`
says of every class of a run exactly for which properties the reference is written that was found.
Without rules that strip it is written always, but for a unit that is called `mixed`.
-/

namespace DomainForge.Php

/-! ## Names that are left alone -/

/-- The names of primitives, in lower case. -/
def primitiveNames : List String :=
  ["string", "text", "clob", "int", "integer", "short", "long", "boolean", "bool", "float",
    "double", "bigdecimal", "decimal", "date", "localdate", "datetime", "localdatetime",
    "timestamp", "instant", "time", "localtime", "blob", "byte[]", "uuid"]

/-- A name that is written as it is: there are no blanks around it, and it is not that of a
primitive, unless PHP calls the primitive so too. -/
structure KeepsItsText (name : String) : Prop where
  trimmed : Text.trimmed name = name
  ne_empty : name ≠ ""
  primitive : Text.lowercase name ∈ primitiveNames → name ∈ ["string", "int", "bool", "float"]

theorem primitive?_eq_none_iff {name : String} :
    primitive? name = none ↔ Text.lowercase (Text.trimmed name) ∉ primitiveNames := by
  unfold primitive?
  split <;> simp_all [primitiveNames]

theorem type_mem_of_primitive? {name : String} {found : Primitive}
    (h : primitive? name = some found) :
    found.type ∈ ["string", "int", "bool", "float", instant] := by
  unfold primitive? at h
  split at h <;> cases h <;> simp

theorem keepsItsText_of_mem {type : String}
    (h : type ∈ ["string", "int", "bool", "float", instant]) : KeepsItsText type := by
  have hall : ∀ type ∈ ["string", "int", "bool", "float", instant], Text.trimmed type = type ∧
      type ≠ "" ∧ (Text.lowercase type ∈ primitiveNames →
        type ∈ ["string", "int", "bool", "float"]) := by
    decide +kernel
  obtain ⟨htrimmed, hempty, hprimitive⟩ := hall type h
  exact ⟨htrimmed, hempty, hprimitive⟩

/-- A name is kept if there are no blanks around it and PHP has no other name for it. -/
theorem scalarType_eq_self_iff {name : String} : scalarType name = name ↔ KeepsItsText name := by
  unfold scalarType
  dsimp only
  constructor
  · intro h
    by_cases hempty : Text.trimmed name = ""
    · rw [if_pos hempty] at h
      rw [← h] at hempty
      exact absurd hempty (by decide)
    · rw [if_neg hempty] at h
      cases hprimitive : primitive? (Text.trimmed name) with
      | none =>
        rw [hprimitive] at h
        have hname : Text.trimmed name = name := h
        rw [primitive?_eq_none_iff, hname, hname] at hprimitive
        exact ⟨hname, hname ▸ hempty, fun hmem => absurd hmem hprimitive⟩
      | some found =>
        rw [hprimitive] at h
        have hname : found.type = name := h
        exact hname ▸ keepsItsText_of_mem (type_mem_of_primitive? hprimitive)
  · rintro ⟨htrimmed, hempty, hprimitive⟩
    rw [htrimmed, if_neg hempty]
    by_cases hmem : Text.lowercase name ∈ primitiveNames
    · have hall : ∀ name ∈ ["string", "int", "bool", "float"],
          ((primitive? name).map (·.type)).getD name = name := by
        decide +kernel
      exact hall name (hprimitive hmem)
    · rw [primitive?_eq_none_iff.2 (by rwa [htrimmed])]
      rfl

/-- No primitive is called by a full name. -/
theorem keepsItsText_fullName {namespaceName name : String} (htrimmed : Text.trimmed name = name)
    (hempty : name ≠ "") : KeepsItsText (References.fullName namespaceName name) := by
  obtain ⟨front, hfull⟩ : ∃ front,
      (References.fullName namespaceName name).toList = '\\' :: (front ++ name.toList) := by
    unfold References.fullName
    split
    · exact ⟨[], by simp⟩
    · exact ⟨namespaceName.toList ++ ['\\'], by simp⟩
  have hends : Text.IsTrimmed Text.isBlank (References.fullName namespaceName name).toList := by
    rw [hfull]
    refine ⟨?_, fun c hc => (Text.isTrimmed_iff.2 (Text.trim_toList htrimmed)).last c ?_⟩
    · intro c hc
      obtain rfl : '\\' = c := Option.some.inj hc
      decide
    · have hne : name.toList ≠ [] := fun hnil => hempty (String.toList_injective (hnil.trans rfl))
      rwa [← List.cons_append, List.getLast?_append_of_ne_nil _ hne] at hc
  refine ⟨?_, ?_, fun hmem => ?_⟩
  · rw [Text.trimmed, show Text.trim _ = _ from hends.trimWhere_eq, String.ofList_toList]
  · intro hnone
    rw [hnone] at hfull
    cases hfull
  · -- the first character stays in lower case, and no primitive starts with it
    obtain ⟨rest, hlower⟩ : ∃ rest,
        (Text.lowercase (References.fullName namespaceName name)).toList = '\\' :: rest := by
      refine ⟨Text.lowerAfter ['\\'] (front ++ name.toList), ?_⟩
      have hslash : Text.lowerChar '\\' = ['\\'] := by decide +kernel
      rw [Text.lowercase, String.toList_ofList, hfull, Text.lower, Text.lowerAfter,
        if_neg (by decide), hslash]
      rfl
    have hall : ∀ primitive ∈ primitiveNames, primitive.toList.head? ≠ some '\\' := by decide
    have hhead := hall _ hmem
    rw [hlower] at hhead
    exact absurd rfl hhead

/-- Only what is no primitive is looked up among the units. -/
theorem keepsItsText_of_target? {references : References} {type : String} {info : UnitInfo}
    (h : references.target? type = some info) (htrimmed : Text.trimmed type = type) :
    KeepsItsText type := by
  unfold References.target? at h
  split at h
  · cases h
  · rename_i hunit
    obtain ⟨hempty, hprimitive⟩ := not_or.1 hunit
    rw [Option.not_isSome_iff_eq_none, primitive?_eq_none_iff, htrimmed] at hprimitive
    exact ⟨htrimmed, hempty, fun hmem => absurd hmem hprimitive⟩

/-! ## What is written for a reference -/

/-- The reference of a property is written as it was found: as the type of a single value, with a
question mark if it may be null, and as the type of the elements wherever the comment above a
collection names one. -/
structure WritesReference (found : ResolvedProperty) (decl : PropertyDecl) : Prop where
  type_eq : found.isCollection = false →
    decl.type = if found.isNullable then "?" ++ found.reference else found.reference
  doc_mem : found.isCollection = true → ∀ line ∈ decl.doc,
    line = s!"@var Collection<int, {found.reference}>" ∨
      line = s!"@var array<int, {found.reference}>"

/-- When that is so. A single value must not be taken for a primitive, and a unit called `mixed` not
for the type of any value, which is never marked. Elements matter only for the arrays that Doctrine
comments on: its collections of entities are commented on with the reference itself. -/
def KeepsReference (unit : ClassUnit) (found : ResolvedProperty) : Prop :=
  if found.isCollection then
    unit.settings.framework = .doctrine → unit.settings.doctrine.arrayDocblocks = true →
      ¬ (unit.isEntity = true ∧ found.isAssociation = true) → KeepsItsText found.reference
  else KeepsItsText found.reference ∧ ¬ (found.isNullable = true ∧ found.reference = mixed)

/-- The type of a single value is its name, with a mark for null. Only `mixed` has no such mark. -/
theorem typeFor_single_iff (framework : Framework) {name : String} {flags : TypeFlags}
    (hsingle : flags.collection = false) :
    typeFor framework name flags = (if flags.nullable then "?" ++ name else name) ↔
      KeepsItsText name ∧ ¬ (flags.nullable = true ∧ name = mixed) := by
  have hmark : ∀ type : String, mixed ≠ "?" ++ type := by
    intro type h
    have hchars := congrArg String.toList h
    simp [mixed] at hchars
  rw [← scalarType_eq_self_iff]
  unfold typeFor
  simp only [hsingle, Bool.not_false, if_true]
  cases flags.nullable with
  | false => simp
  | true =>
    by_cases hbase : scalarType name = mixed
    · simp only [hbase, ne_eq, not_true_eq_false, and_false, if_false, if_true, true_and]
      exact iff_of_false (hmark name) fun ⟨hname, hne⟩ => hne hname.symm
    · simp only [hbase, ne_eq, not_false_eq_true, and_self, if_true, true_and]
      rw [String.append_right_inj]
      exact ⟨fun hname => ⟨hname, hname ▸ hbase⟩, And.left⟩

theorem typeOf_of_single {framework : Framework} {unit : ClassUnit} {found : ResolvedProperty}
    (hsingle : found.isCollection = false) :
    framework.typeOf unit found = typeFor framework found.reference found.flags := by
  cases framework with
  | plain => rfl
  | laravel => rfl
  | doctrine =>
    have hcollection : found.flags.collection = false := hsingle
    simp [Framework.typeOf, typeFor, hcollection]

theorem doc_memberOf {framework : Framework} {unit : ClassUnit} {found : ResolvedProperty} :
    (memberOf framework unit found).decl.doc =
      if framework = .doctrine then Doctrine.propertyDoc unit found else [] := by
  cases framework <;> rfl

/-- What a comment above an array says is told by the type of its elements. -/
theorem arrayComment_iff {type reference : String} :
    (s!"@var array<int, {type}>" = s!"@var Collection<int, {reference}>" ∨
        s!"@var array<int, {type}>" = s!"@var array<int, {reference}>") ↔ type = reference := by
  constructor
  · rintro (h | h)
    · have hchars := congrArg String.toList h
      simp [toString] at hchars
    · have hchars := congrArg String.toList h
      simp only [String.toList_append, List.append_assoc, toString, List.append_cancel_left_eq,
        List.append_cancel_right_eq] at hchars
      exact String.toList_injective hchars
  · rintro rfl
    exact .inr rfl

theorem propertyDoc_iff {unit : ClassUnit} {found : ResolvedProperty}
    (hcollection : found.isCollection = true) :
    (∀ line ∈ Doctrine.propertyDoc unit found,
        line = s!"@var Collection<int, {found.reference}>" ∨
          line = s!"@var array<int, {found.reference}>") ↔
      (unit.settings.doctrine.arrayDocblocks = true →
        ¬ (unit.isEntity = true ∧ found.isAssociation = true) →
          KeepsItsText found.reference) := by
  have hentities : Doctrine.isEntityCollection unit found = true ↔
      unit.isEntity = true ∧ found.isAssociation = true := by
    simp [Doctrine.isEntityCollection, hcollection]
  rw [← hentities]
  unfold Doctrine.propertyDoc
  dsimp only
  by_cases hentity : Doctrine.isEntityCollection unit found = true
  · rw [if_pos hentity]
    refine iff_of_true (fun line hline => .inl ?_) fun _ hnot => absurd hentity hnot
    split at hline
    · exact List.mem_singleton.1 hline
    · cases hline
  · rw [if_neg hentity, hcollection, Bool.true_and]
    by_cases harrays : unit.settings.doctrine.arrayDocblocks = true
    · rw [if_pos harrays, List.forall_mem_singleton, arrayComment_iff, scalarType_eq_self_iff]
      exact ⟨fun hkeeps _ _ => hkeeps, fun hkeeps => hkeeps harrays hentity⟩
    · rw [if_neg harrays]
      exact iff_of_true (fun _ hline => absurd hline List.not_mem_nil) fun h => absurd h harrays

/-- A member is written with its reference exactly if the reference keeps its text. -/
theorem writesReference_memberOf_iff {unit : ClassUnit} {found : ResolvedProperty} :
    WritesReference found (memberOf unit.settings.framework unit found).decl ↔
      KeepsReference unit found := by
  have htype : (memberOf unit.settings.framework unit found).decl.type =
      unit.settings.framework.typeOf unit found := by rw [decl_memberOf]
  unfold KeepsReference
  cases hcollection : found.isCollection with
  | false =>
    rw [if_neg Bool.false_ne_true]
    have hflags : found.flags.collection = false := hcollection
    refine Iff.trans ?_ (typeFor_single_iff unit.settings.framework hflags)
    rw [← typeOf_of_single hcollection, ← htype]
    exact ⟨fun hwrites => hwrites.type_eq hcollection,
      fun heq => ⟨fun _ => heq, fun h => absurd (hcollection.symm.trans h) Bool.false_ne_true⟩⟩
  | true =>
    rw [if_pos rfl, ← propertyDoc_iff hcollection]
    refine Iff.trans ⟨fun hwrites => hwrites.doc_mem hcollection, fun hdoc =>
      ⟨fun h => absurd (h.symm.trans hcollection) Bool.false_ne_true, fun _ => hdoc⟩⟩ ?_
    rw [doc_memberOf]
    by_cases hdoctrine : unit.settings.framework = .doctrine
    · rw [if_pos hdoctrine]
      exact ⟨fun hdoc _ => hdoc, fun hdoc => hdoc hdoctrine⟩
    · rw [if_neg hdoctrine]
      exact iff_of_true (fun _ hline => absurd hline List.not_mem_nil) fun h => absurd h hdoctrine

/-! ## Where the types of a class come from -/

/-- A class that is made of the declarations of properties: they are declared or promoted, perhaps
with a default, and what the constructor and the accessors take and give has their types. Besides
them there are only the members that a framework adds and the methods that tell relations. -/
structure MadeOf (members added : List PropertyDecl) (others : List MethodDecl)
    (decl : ClassDecl) : Prop where
  declared : ∀ found ∈ decl.properties ++ decl.promoted,
    found ∈ added ∨ ∃ member ∈ members, found = { member with default := found.default }
  complete : ∀ member ∈ members, ∃ found ∈ decl.properties ++ decl.promoted,
    found.name = member.name
  params : ∀ param ∈ decl.params, ∃ member ∈ members,
    param.name = member.name ∧ param.type = member.type
  methods : ∀ method ∈ decl.methods, method ∈ others ∨ ∃ member ∈ members,
    (method.name = Naming.getterName member.name ∧ method.params = [] ∧
        method.returns = some member.type) ∨
      (method.name = Naming.setterName member.name ∧
        method.params = [{ name := member.name, type := member.type }] ∧
        method.returns = some "void")

section Origin

variable (framework : Framework) (unit : ClassUnit) (properties : List ResolvedProperty)

/-- The declarations that a class is made of. -/
def membersIn : List PropertyDecl :=
  (declaredIn framework unit properties).map fun found => (memberOf framework unit found).decl

variable {framework unit properties}

theorem eq_of_declarationOf? {classIsReadonly : Bool} {constructor : Option ConstructorDecl}
    {member : Member} {found : PropertyDecl}
    (h : declarationOf? framework unit classIsReadonly constructor member = some found) :
    found = { member.decl with default := found.default } := by
  unfold declarationOf? at h
  split at h
  · cases h
  · split at h <;> cases h <;> rfl

/-- What is not declared among the members is promoted. -/
theorem exists_param_of_declarationOf?_eq_none {classIsReadonly : Bool}
    {constructor : Option ConstructorDecl} {member : Member}
    (h : declarationOf? framework unit classIsReadonly constructor member = none) :
    ∃ param ∈ constructor.elim [] (·.params),
      param.isPromoted = true ∧ param.name = member.name := by
  unfold declarationOf? at h
  split at h
  · rename_i hpromoted
    rw [any_params_eq, List.any_eq_true] at hpromoted
    obtain ⟨param, hparam, hnamed⟩ := hpromoted
    obtain ⟨hpromoted, hname⟩ := Bool.and_eq_true_iff.1 hnamed
    exact ⟨param, hparam, hpromoted, beq_iff_eq.1 hname⟩
  · split at h <;> cases h

theorem mem_promoted_of_isPromoted {decl : ClassDecl} {param : ConstructorParam}
    (hparam : param ∈ decl.params) (h : param.isPromoted = true) :
    ∃ found ∈ decl.promoted, found.name = param.name := by
  cases param with
  | plain param => cases h
  | promoted found => exact ⟨found, List.mem_filterMap.2 ⟨_, hparam, rfl⟩, rfl⟩

/-- A class is made of its members and what the framework adds. -/
theorem assembleClass_madeOf :
    MadeOf (membersIn framework unit properties) (framework.addedProperties unit)
      (framework.addedMethods unit ++
        (framework.relations unit properties).map Laravel.relationMethod)
      (assembleClass framework unit properties) where
  declared := by
    intro found hfound
    rcases List.mem_append.1 hfound with hfound | hfound
    · rw [properties_assembleClass_eq_filterMap] at hfound
      rcases List.mem_append.1 hfound with hfound | hfound
      · exact .inl hfound
      · obtain ⟨member, hmember, hdeclared⟩ := List.mem_filterMap.1 hfound
        obtain ⟨property, hproperty, rfl⟩ := List.mem_map.1 hmember
        exact .inr ⟨_, List.mem_map_of_mem hproperty, eq_of_declarationOf? hdeclared⟩
    · rw [promoted_assembleClass] at hfound
      obtain ⟨property, hproperty, rfl⟩ := List.mem_map.1 hfound
      exact .inr ⟨_, List.mem_map_of_mem (List.mem_of_mem_filter hproperty), rfl⟩
  complete := by
    intro decl hdecl
    obtain ⟨property, hproperty, rfl⟩ := List.mem_map.1 hdecl
    rw [decl_memberOf]
    cases hdeclared : declarationOf? framework unit
        (framework.decorateClass unit (emptyClass unit)).isReadonly
        (assembleClass framework unit properties).constructor
        (memberOf framework unit property) with
    | none =>
      obtain ⟨param, hparam, hpromoted, hname⟩ := exists_param_of_declarationOf?_eq_none hdeclared
      obtain ⟨found, hfound, heq⟩ := mem_promoted_of_isPromoted hparam hpromoted
      exact ⟨found, List.mem_append_right _ hfound, heq.trans hname⟩
    | some found =>
      refine ⟨found, List.mem_append_left _ ?_, ?_⟩
      · rw [properties_assembleClass_eq_filterMap]
        exact List.mem_append_right _
          (List.mem_filterMap.2 ⟨_, List.mem_map_of_mem hproperty, hdeclared⟩)
      · rw [eq_of_declarationOf? hdeclared, decl_memberOf]
  params := by
    intro param hparam
    rw [params_assembleClass] at hparam
    obtain ⟨property, hproperty, rfl⟩ := List.mem_map.1 hparam
    refine ⟨_, List.mem_map_of_mem (List.mem_of_mem_filter hproperty), ?_⟩
    rw [name_paramOf, type_paramOf, decl_memberOf]
    exact ⟨rfl, rfl⟩
  methods := by
    intro method hmethod
    rw [methods_assembleClass, List.mem_append, List.mem_append] at hmethod
    rw [List.mem_append]
    rcases hmethod with (hadded | haccessor) | hrelation
    · exact .inl (.inl hadded)
    · obtain ⟨property, hproperty, haccessor⟩ := List.mem_flatMap.1 haccessor
      refine .inr ⟨_, List.mem_map_of_mem hproperty, ?_⟩
      have hname : (memberOf framework unit property).decl.name =
          (memberOf framework unit property).name := by rw [decl_memberOf]; rfl
      rw [hname]
      rcases mem_accessorsOf haccessor with rfl | rfl
      · exact .inl ⟨rfl, rfl, rfl⟩
      · exact .inr ⟨rfl, rfl, rfl⟩
    · exact .inl (.inr hrelation)

end Origin

/-! ## All classes of a run -/

/-- Without a rule that strips, a reference is never taken for anything else. -/
theorem keepsItsText_reference [PatternLanguage] {model : Model} {settings : Settings}
    (hstrip : ∀ rule ∈ settings.pathRules, rule.strip = none) {references : References}
    (hregistry : references.registry = (prepared model settings).registry) {property : Property}
    {info : UnitInfo} (htarget : references.targetOf? property = some info) {reference : String}
    (hreference : reference = info.finalName ∨
      reference = References.fullName info.namespaceName info.finalName) :
    KeepsItsText reference := by
  have hunit := References.mem_of_target? htarget
  rw [hregistry] at hunit
  have hkeeps := keepsItsText_of_target? htarget (Text.trimmed_trimmed property.type)
  rw [← finalName_of_mem_registry hstrip hunit] at hkeeps
  rcases hreference with rfl | rfl
  · exact hkeeps
  · exact keepsItsText_fullName hkeeps.trimmed hkeeps.ne_empty

/-- **What is written for a property that refers to a unit.** All types that a class names come from
the declarations of its properties. Such a declaration has the reference that was found, with a
question mark if the property may be null, or in the comment above a collection, exactly if the
reference has no other meaning; and it has none if no rule strips names. -/
theorem unitReference_written_iff [PatternLanguage] (model : Model) (settings : Settings) :
    EveryClassFile model settings fun unit registry namespaceName =>
      let framework := unit.settings.framework
      let properties := (lookedUp unit registry namespaceName).1
      (classFile unit registry namespaceName).declarations =
          [.classDecl (classOf unit registry namespaceName)] ∧
        MadeOf (membersIn framework unit properties) (framework.addedProperties unit)
          (framework.addedMethods unit ++ relationMethods unit properties)
          (classOf unit registry namespaceName) ∧
        List.Forall₂ (fun property found => ∀ info,
            (classReferences unit registry namespaceName).targetOf? property = some info →
            (found.reference = info.finalName ∨
              found.reference = References.fullName info.namespaceName info.finalName) ∧
            (WritesReference found (memberOf framework unit found).decl ↔
              KeepsReference unit found) ∧
            ((∀ rule ∈ settings.pathRules, rule.strip = none) → KeepsItsText found.reference))
          unit.properties properties := by
  refine everyClassFile_of_registry fun unit namespaceName => ⟨rfl, assembleClass_madeOf, ?_⟩
  refine (References.forall₂_reference _ _).imp fun property found hwritten info htarget => ?_
  have hreference : found.reference = info.finalName ∨
      found.reference = References.fullName info.namespaceName info.finalName := by
    by_cases hown : info.namespaceName = namespaceName
    · exact .inl ((hwritten info htarget).1 hown)
    · exact ((hwritten info htarget).2 hown).symm.imp_left And.left
  exact ⟨hreference, writesReference_memberOf_iff,
    fun hstrip => keepsItsText_reference hstrip rfl htarget hreference⟩

/-- A page with a text, which is declared as `TextEntity`. -/
def pageOfText : Model :=
  { contexts := [{
      name := "Sales"
      aggregates := [{
        name := "A"
        entities := [
          { name := "Page", properties := [{ name := "body", type := "TextEntity" }] },
          { name := "TextEntity" }] }] }] }

/-- The reference to the text becomes a string. -/
theorem unitReference_lost :
    ¬ EveryClassFile pageOfText strippingEntity fun unit registry namespaceName =>
      ∀ found ∈ (lookedUp unit registry namespaceName).1, found.target.isSome = true →
        ∀ decl ∈ (classOf unit registry namespaceName).properties, decl.name = found.name →
          WritesReference found decl := by
  rintro ⟨found, hfound, hall⟩
  obtain rfl : prepared pageOfText strippingEntity = found :=
    Except.ok.inj ((prepare_eq_ok _ _).symm.trans hfound)
  obtain ⟨unit, hunit, -, hwrites⟩ := hall {
    kind := .entity, name := "Page", context := "Sales", aggregate := "A"
    contextIndex := 0, aggregateIndex := 0, index := 0
    placement := {
      finalName := "Page", path := "Sales/A/Page.php"
      namespaceName := "App\\Models\\Sales\\A" } } (by decide +kernel) (by decide)
  cases hunit
  have hbody := hwrites
    { property := { name := "body", type := "TextEntity" }, reference := "Text"
      target := some .entity } (by decide +kernel) rfl
    { name := "body", type := "string", visibility := .isPrivate } (by decide +kernel) rfl
  exact absurd (hbody.type_eq rfl) (by decide)

end DomainForge.Php
