import DomainForge.Proofs.Php.Promotion
import DomainForge.Proofs.Php.Readonly

/-!
# Initial values

Where a property has its first value from is decided in three places. The parameters of the
constructor follow the policy of the settings and what the framework allows; the framework creates
some properties in the constructor; and what is left has a default, if there is one. Here the
decision is made once for each property (`ClassUnit.valueSource`), and the class is compared with
it: each property has its value from one place alone (`SetsEachOnce`).

That holds for the statements of the constructor as a list over the properties, whatever their names
are. If names have no blanks, it can be seen from the text too: the statements that set a property
are those that begin with it (`setsProperty`).
-/

namespace DomainForge.Php

/-! ## One source for each property -/

/-- Where a property has its initial value from. -/
inductive ValueSource where
  /-- A parameter of the constructor that declares the property. -/
  | promoted
  /-- A parameter of the constructor that is assigned to it. -/
  | assigned
  /-- A statement of the framework. -/
  | created
  /-- The default, if there is one. -/
  | default
deriving Repr, DecidableEq

namespace ClassUnit

variable (unit : ClassUnit) (property : ResolvedProperty)

/-- The class declares a property, unless it is a relation of an Eloquent model. -/
def Emits : Prop :=
  ¬ (unit.settings.framework = .laravel ∧ unit.isEntity = true ∧ property.isAssociation = true)

/-- Doctrine creates the collections of an entity, and does not allow them as parameters. -/
def Creates : Prop :=
  unit.settings.framework = .doctrine ∧ unit.isEntity = true ∧ property.isCollection = true

/-- The constructor takes a property that is allowed: always if the unit is readonly, and else by
the policy of the settings. -/
def Takes : Prop :=
  ¬ unit.Creates property ∧
    (unit.readonlyMode ≠ .off ∨ unit.settings.constructor = .all ∨
      (unit.settings.constructor = .required ∧ property.isNullable = false))

instance : Decidable (unit.Emits property) :=
  inferInstanceAs (Decidable (¬ _))

instance : Decidable (unit.Creates property) :=
  inferInstanceAs (Decidable (_ ∧ _))

instance : Decidable (unit.Takes property) :=
  inferInstanceAs (Decidable (_ ∧ _))

/-- Where a property of the unit has its initial value from. -/
def valueSource : ValueSource :=
  if unit.Takes property then
    if unit.settings.constructorPromotion then .promoted else .assigned
  else if unit.Creates property then .created
  else .default

/-- The statement of the constructor that sets a property. There is at most one. -/
def settingStatement? : Option String :=
  match unit.valueSource property with
  | .assigned => some s!"$this->{property.name} = ${property.name};"
  | .created =>
    some (if property.isAssociation then s!"$this->{property.name} = new ArrayCollection();"
      else s!"$this->{property.name} = [];")
  | .promoted | .default => none

end ClassUnit

/-- The default of a property with a type that nothing else sets. -/
def initialValue? (property : ResolvedProperty) (type : String) : Option String :=
  if property.isNullable = true ∧ type ≠ "mixed" then some "null"
  else if property.isNullable = false ∧ property.isCollection = true ∧ type = "array" then some "[]"
  else none

/-- Whether a statement sets the property with a name. -/
def setsProperty (name statement : String) : Bool :=
  s!"$this->{name} = ".toList <+: statement.toList

/-! ## The decisions that were made -/

section Decisions

variable (unit : ClassUnit) (property : ResolvedProperty)

theorem declares_iff_emits :
    unit.settings.framework.declares unit property = true ↔ unit.Emits property := by
  unfold ClassUnit.Emits
  cases unit.settings.framework <;> simp [Framework.declares, Laravel.isRelation, imp_iff_not_or]

theorem allowsParam_iff :
    unit.settings.framework.allowsParam unit property = true ↔ ¬ unit.Creates property := by
  unfold ClassUnit.Creates
  cases unit.settings.framework <;> simp [Framework.allowsParam, Doctrine.isCreated, imp_iff_not_or]

theorem initializer?_eq :
    unit.settings.framework.initializer? unit property =
      if unit.Creates property then some (Doctrine.creation unit property) else none := by
  by_cases hcreates : unit.Creates property
  · obtain ⟨hframework, hentity, hcollection⟩ := hcreates
    rw [if_pos ⟨hframework, hentity, hcollection⟩, hframework]
    simp [Framework.initializer?, Doctrine.isCreated, hentity, hcollection]
  · rw [if_neg hcreates]
    unfold ClassUnit.Creates at hcreates
    revert hcreates
    cases unit.settings.framework <;> simp [Framework.initializer?, Doctrine.isCreated]

theorem includes_iff :
    unit.constructorPolicy.includes property.isNullable = true ↔
      unit.readonlyMode ≠ .off ∨ unit.settings.constructor = .all ∨
        (unit.settings.constructor = .required ∧ property.isNullable = false) := by
  unfold ClassUnit.constructorPolicy
  cases unit.readonlyMode with
  | properties => simp [ReadonlyMode.isActive, ConstructorPolicy.includes]
  | wholeClass => simp [ReadonlyMode.isActive, ConstructorPolicy.includes]
  | off =>
    cases unit.settings.constructor <;> simp [ReadonlyMode.isActive, ConstructorPolicy.includes]

theorem isParam_iff_takes :
    unit.settings.framework.isParam unit property = true ↔ unit.Takes property := by
  unfold Framework.isParam ClassUnit.Takes
  rw [Bool.and_eq_true, allowsParam_iff, includes_iff]

theorem valueSource_eq_default_iff :
    unit.valueSource property = .default ↔ ¬ unit.Takes property ∧ ¬ unit.Creates property := by
  unfold ClassUnit.valueSource
  split
  · rename_i htakes
    split <;> simp [htakes]
  · rename_i htakes
    split <;> simp_all

theorem valueSource_eq_promoted_iff :
    unit.valueSource property = .promoted ↔
      unit.settings.framework.promotes unit property = true := by
  unfold ClassUnit.valueSource Framework.promotes
  rw [Bool.and_eq_true, isParam_iff_takes]
  by_cases htakes : unit.Takes property
  · cases unit.settings.constructorPromotion <;> simp [htakes]
  · rw [if_neg htakes]
    split <;> simp [htakes]

/-- A readonly unit leaves nothing to a default. -/
theorem readonlyMode_eq_off (h : unit.valueSource property = .default) :
    unit.readonlyMode = .off := by
  rw [valueSource_eq_default_iff] at h
  by_contra hactive
  exact h.1 ⟨h.2, .inl hactive⟩

theorem isSome_initializer?_iff :
    (unit.settings.framework.initializer? unit property).isSome = true ↔
      unit.Creates property := by
  rw [initializer?_eq]
  by_cases hcreates : unit.Creates property <;> simp [hcreates]

theorem isLeftAlone_iff :
    isLeftAlone unit.settings.framework unit property = true ↔
      unit.valueSource property = .default := by
  unfold isLeftAlone
  rw [valueSource_eq_default_iff, ← isParam_iff_takes, ← isSome_initializer?_iff]
  simp

theorem needsNoDefault_iff :
    needsNoDefault unit.settings.framework unit property = true ↔
      unit.valueSource property ≠ .default := by
  have hneeds : needsNoDefault unit.settings.framework unit property =
      (!isLeftAlone unit.settings.framework unit property || unit.readonlyMode.isActive) := by
    simp [needsNoDefault, isLeftAlone]
  rw [hneeds, Bool.or_eq_true, Bool.not_eq_true', ← Bool.not_eq_true, isLeftAlone_iff]
  refine ⟨fun h hdefault => ?_, .inl⟩
  rcases h with hset | hactive
  · exact hset hdefault
  · rw [readonlyMode_eq_off unit property hdefault] at hactive
    cases hactive

theorem creation_eq_of_creates (h : unit.Creates property) :
    Doctrine.creation unit property =
      if property.isAssociation then s!"$this->{property.name} = new ArrayCollection();"
      else s!"$this->{property.name} = [];" := by
  have hentities : Doctrine.isEntityCollection unit property = property.isAssociation := by
    simp [Doctrine.isEntityCollection, h.2.1, h.2.2]
  refine String.toList_injective ?_
  unfold Doctrine.creation
  rw [hentities]
  cases property.isAssociation <;> simp [toString]

/-- The statements for a property are the one that sets it. -/
theorem statementsOf_eq_toList :
    statementsOf unit.settings.framework unit (memberOf unit.settings.framework unit property) =
      (unit.settingStatement? property).toList := by
  rw [statementsOf_memberOf, initializer?_eq]
  simp only [isParam_iff_takes]
  unfold ClassUnit.settingStatement? ClassUnit.valueSource
  by_cases htakes : unit.Takes property
  · simp only [if_pos htakes]
    cases unit.settings.constructorPromotion <;> rfl
  · simp only [if_neg htakes]
    by_cases hcreates : unit.Creates property
    · simp only [if_pos hcreates, creation_eq_of_creates unit property hcreates]
    · simp only [if_neg hcreates]

theorem defaultOf_eq_initialValue? (member : Member) :
    defaultOf member = initialValue? member.property member.decl.type := by
  unfold defaultOf initialValue? mixed
  split
  · rfl
  · rename_i hnull
    by_cases harray : member.property.isCollection = true ∧ member.decl.type = "array"
    · -- the default of an array that may be null is null
      have hnonnull : member.property.isNullable = false := by
        rw [Bool.eq_false_iff]
        intro hnullable
        refine hnull ⟨hnullable, ?_⟩
        rw [harray.2]
        decide
      rw [if_pos harray, if_pos ⟨hnonnull, harray⟩]
    · rw [if_neg harray, if_neg fun h => harray h.2]

/-- A declaration has a default exactly if nothing else sets the property. -/
theorem default_declarationFor :
    (declarationFor unit.settings.framework unit property).default =
      if unit.valueSource property = .default then
        initialValue? property (declarationFor unit.settings.framework unit property).type
      else none := by
  by_cases hsource : unit.valueSource property = .default
  · rw [if_pos hsource]
    have hneeds : ¬ needsNoDefault unit.settings.framework unit property = true :=
      fun h => (needsNoDefault_iff unit property).1 h hsource
    exact (if_neg hneeds).trans (defaultOf_eq_initialValue? _)
  · rw [if_neg hsource]
    exact if_pos ((needsNoDefault_iff unit property).2 hsource)

end Decisions

/-! ## Statements -/

section Statements

variable {unit : ClassUnit} {property : ResolvedProperty}

theorem exists_toList_settingStatement {statement : String}
    (h : unit.settingStatement? property = some statement) :
    ∃ value, statement.toList =
      "$this->".toList ++ (property.name.toList ++ " = ".toList ++ value) := by
  unfold ClassUnit.settingStatement? at h
  split at h
  · obtain rfl := Option.some.inj h
    exact ⟨'$' :: (property.name.toList ++ [';']), by simp [toString]⟩
  · obtain rfl := Option.some.inj h
    split
    · exact ⟨"new ArrayCollection();".toList, by simp [toString]⟩
    · exact ⟨"[];".toList, by simp [toString]⟩
  · cases h
  · cases h

/-- A statement sets the property that it was made for, and no other. -/
theorem setsProperty_settingStatement {statement name : String}
    (h : unit.settingStatement? property = some statement) (hname : ' ' ∉ name.toList)
    (hproperty : ' ' ∉ property.name.toList) :
    setsProperty name statement = true ↔ property.name = name := by
  obtain ⟨value, hvalue⟩ := exists_toList_settingStatement h
  have hstart : s!"$this->{name} = ".toList =
      "$this->".toList ++ (name.toList ++ " = ".toList) := by
    simp [toString]
  unfold setsProperty
  rw [decide_eq_true_iff, hvalue, hstart, List.prefix_append_right_inj]
  constructor
  · rintro ⟨rest, hrest⟩
    -- both names end where the first blank stands
    have hcut : name.toList ++ ([' '] ++ ("= ".toList ++ rest)) =
        property.name.toList ++ ([' '] ++ ("= ".toList ++ value)) := by
      simpa using hrest
    have hleft := congrArg (Text.breakOn [' ']) hcut
    rw [Text.breakOn_append hname, Text.breakOn_append hproperty] at hleft
    exact (String.toList_injective (Prod.mk.inj (Option.some.inj hleft)).1).symm
  · rintro rfl
    exact List.prefix_append _ _

theorem parentCall_ne_settingStatement {statement : String}
    (h : unit.settingStatement? property = some statement) : statement ≠ Laravel.parentCall := by
  rintro rfl
  obtain ⟨value, hvalue⟩ := exists_toList_settingStatement h
  simp [Laravel.parentCall] at hvalue

theorem isSome_settingStatement? :
    (unit.settingStatement? property).isSome = true ↔
      unit.valueSource property = .assigned ∨ unit.valueSource property = .created := by
  unfold ClassUnit.settingStatement?
  cases unit.valueSource property <;> simp

end Statements

/-! ## The class -/

/-- The properties that a class declares, in its body or in its constructor. -/
def emittedIn (unit : ClassUnit) (properties : List ResolvedProperty) : List ResolvedProperty :=
  properties.filter (unit.Emits ·)

/-- A class that gives each property its initial value from one source. -/
structure SetsEachOnce (unit : ClassUnit) (properties : List ResolvedProperty)
    (decl : ClassDecl) : Prop where
  /-- Each property has one declaration. It has a default only if the constructor does not set it,
  and then it is not readonly. -/
  declared : ∀ property ∈ emittedIn unit properties,
    ∃ found ∈ decl.properties ++ decl.promoted, found.name = property.name ∧
      (∀ other ∈ decl.properties ++ decl.promoted, other.name = property.name → other = found) ∧
      (found ∈ decl.promoted ↔ unit.valueSource property = .promoted) ∧
      (unit.valueSource property ≠ .default → found.default = none) ∧
      (unit.valueSource property = .default →
        found.default = initialValue? property found.type ∧ found.isReadonly = false ∧
          decl.isReadonly = false)
  /-- The parameters are the properties that the constructor takes. -/
  params_eq : decl.params.map (fun param => (param.name, param.type, param.isPromoted)) =
    ((emittedIn unit properties).filter (unit.Takes ·)).map fun property =>
      (property.name, unit.settings.framework.typeOf unit property,
        unit.settings.constructorPromotion)
  /-- There is a constructor if there is something to take or to create. -/
  constructor_iff : decl.constructor.isSome = true ↔
    decl.params ≠ [] ∨ ∃ property ∈ emittedIn unit properties, unit.Creates property
  /-- The constructor of an Eloquent model calls that of its parent, and then it sets each property
  that is not promoted by one statement. -/
  statements_eq : decl.statements =
    (if decl.constructor.isSome = true ∧ unit.settings.framework = .laravel ∧
        unit.isEntity = true then [Laravel.parentCall] else []) ++
      (emittedIn unit properties).filterMap unit.settingStatement?
  /-- The parent is called nowhere else. -/
  parentCall_not_mem : Laravel.parentCall ∉
      (emittedIn unit properties).filterMap unit.settingStatement? ∧
    ∀ method ∈ decl.methods, Laravel.parentCall ∉ method.body
  /-- As the class is written: a property is promoted or set, one of these and once, unless it is
  left to its default. -/
  once : (∀ property ∈ properties, ' ' ∉ property.name.toList) →
    ∀ property ∈ emittedIn unit properties,
      (decl.promoted.map (·.name)).count property.name +
          decl.statements.countP (setsProperty property.name) =
        if unit.valueSource property = .default then 0 else 1

section Class

variable {unit : ClassUnit} {properties : List ResolvedProperty}

theorem declaredIn_eq_emittedIn :
    declaredIn unit.settings.framework unit properties = emittedIn unit properties := by
  refine List.filter_congr fun property _ => ?_
  rw [Bool.eq_iff_iff, declares_iff_emits, decide_eq_true_iff]

theorem filter_isParam_eq (found : List ResolvedProperty) :
    found.filter (unit.settings.framework.isParam unit) = found.filter (unit.Takes ·) := by
  refine List.filter_congr fun property _ => ?_
  rw [Bool.eq_iff_iff, isParam_iff_takes, decide_eq_true_iff]

theorem filter_promotes_eq (found : List ResolvedProperty) :
    found.filter (unit.settings.framework.promotes unit) =
      found.filter (unit.valueSource · = .promoted) := by
  refine List.filter_congr fun property _ => ?_
  rw [Bool.eq_iff_iff, ← valueSource_eq_promoted_iff, decide_eq_true_iff]

/-- There is a constructor exactly if it has a property to set. -/
theorem isSome_constructor_iff :
    (assembleClass unit.settings.framework unit properties).constructor.isSome = true ↔
      ∃ property ∈ emittedIn unit properties, unit.valueSource property ≠ .default := by
  rw [constructor_assembleClass, declaredIn_eq_emittedIn]
  by_cases hleft : (emittedIn unit properties).all (isLeftAlone unit.settings.framework unit) = true
  · rw [if_pos hleft]
    refine iff_of_false Bool.false_ne_true ?_
    rintro ⟨property, hproperty, hset⟩
    exact hset ((isLeftAlone_iff unit property).1 (List.all_eq_true.1 hleft property hproperty))
  · rw [if_neg hleft]
    refine iff_of_true rfl ?_
    by_contra hnone
    refine hleft (List.all_eq_true.2 fun property hproperty => ?_)
    rw [isLeftAlone_iff]
    by_contra hset
    exact hnone ⟨property, hproperty, hset⟩

theorem params_ne_nil_iff :
    (assembleClass unit.settings.framework unit properties).params ≠ [] ↔
      ∃ property ∈ emittedIn unit properties, unit.Takes property := by
  rw [params_assembleClass, declaredIn_eq_emittedIn, filter_isParam_eq]
  simp [List.filter_eq_nil_iff]

theorem signature_assembleClass :
    (assembleClass unit.settings.framework unit properties).params.map
        (fun param => (param.name, param.type, param.isPromoted)) =
      ((emittedIn unit properties).filter (unit.Takes ·)).map fun property =>
        (property.name, unit.settings.framework.typeOf unit property,
          unit.settings.constructorPromotion) := by
  rw [params_assembleClass, declaredIn_eq_emittedIn, filter_isParam_eq, List.map_map]
  refine List.map_congr_left fun property _ => ?_
  rw [Function.comp_apply, name_paramOf, type_paramOf, isPromoted_paramOf]

theorem openingStatements_eq :
    unit.settings.framework.openingStatements unit =
      if unit.settings.framework = .laravel ∧ unit.isEntity = true then [Laravel.parentCall]
      else [] := by
  cases unit.settings.framework <;> simp [Framework.openingStatements]

/-- What a constructor does: the call of its parent, and the statements that set properties. -/
theorem statements_assembleClass :
    (assembleClass unit.settings.framework unit properties).statements =
      (if (assembleClass unit.settings.framework unit properties).constructor.isSome = true ∧
          unit.settings.framework = .laravel ∧ unit.isEntity = true then [Laravel.parentCall]
        else []) ++
        (emittedIn unit properties).filterMap unit.settingStatement? := by
  by_cases hsome :
      (assembleClass unit.settings.framework unit properties).constructor.isSome = true
  · rw [List.filterMap_eq_flatMap_toList]
    simp only [hsome, true_and, ← openingStatements_eq, ← statementsOf_eq_toList]
    unfold ClassDecl.statements
    rw [constructor_assembleClass] at hsome ⊢
    split at hsome
    · cases hsome
    · rename_i hleft
      rw [if_neg hleft, declaredIn_eq_emittedIn]
      rfl
  · have hnone : (emittedIn unit properties).filterMap unit.settingStatement? = [] := by
      rw [List.filterMap_eq_nil_iff]
      intro property hproperty
      have hleft : unit.valueSource property = .default := by
        by_contra hset
        exact hsome (isSome_constructor_iff.2 ⟨property, hproperty, hset⟩)
      simp [ClassUnit.settingStatement?, hleft]
    unfold ClassDecl.statements
    rw [hnone, Option.not_isSome_iff_eq_none.1 hsome]
    simp

theorem parentCall_not_mem_filterMap (found : List ResolvedProperty) :
    Laravel.parentCall ∉ found.filterMap unit.settingStatement? := by
  intro hmem
  obtain ⟨property, -, hstatement⟩ := List.mem_filterMap.1 hmem
  exact parentCall_ne_settingStatement hstatement rfl

/-- No method calls the constructor of the parent. -/
theorem parentCall_not_mem_body {method : MethodDecl}
    (h : method ∈ (assembleClass unit.settings.framework unit properties).methods) :
    Laravel.parentCall ∉ method.body := by
  have hreads : ∀ text : String, text.toList.head? = some 'r' → Laravel.parentCall ∉ [text] := by
    intro text hhead hmem
    rw [← List.mem_singleton.1 hmem] at hhead
    exact absurd hhead (by decide)
  rw [methods_assembleClass, List.mem_append, List.mem_append] at h
  rcases h with (hadded | haccessor) | hrelation
  · unfold Framework.addedMethods at hadded
    split at hadded
    · rw [List.mem_singleton.1 hadded]
      exact hreads _ (by decide)
    · cases hadded
  · obtain ⟨property, -, haccessor⟩ := List.mem_flatMap.1 haccessor
    rcases mem_accessorsOf haccessor with rfl | rfl
    · exact hreads _ (by simp [toString])
    · exact fun hmem => parentCall_ne_assignment _ (List.mem_singleton.1 hmem)
  · obtain ⟨property, -, rfl⟩ := List.mem_map.1 hrelation
    exact hreads _ (by simp [toString])

/-- Among distinct names, that of a property counts once if the property is chosen. -/
theorem count_name_filter {found : List ResolvedProperty} (hnames : (found.map (·.name)).Nodup)
    {property : ResolvedProperty} (hproperty : property ∈ found) (p : ResolvedProperty → Bool) :
    ((found.filter p).map (·.name)).count property.name = if p property then 1 else 0 := by
  by_cases hchosen : p property = true
  · rw [if_pos hchosen]
    refine List.count_eq_one_of_mem (hnames.sublist (List.filter_sublist.map _)) ?_
    exact List.mem_map_of_mem (List.mem_filter.2 ⟨hproperty, hchosen⟩)
  · rw [if_neg hchosen, List.count_eq_zero]
    intro hmem
    obtain ⟨other, hother, hname⟩ := List.mem_map.1 hmem
    obtain ⟨hfound, hother⟩ := List.mem_filter.1 hother
    exact hchosen (List.inj_on_of_nodup_map hnames hfound hproperty hname ▸ hother)

/-- If names have no blanks, the statements that set a property are those made for its name. -/
theorem countP_settingStatement {found : List ResolvedProperty}
    (hblanks : ∀ property ∈ found, ' ' ∉ property.name.toList) {name : String}
    (hname : ' ' ∉ name.toList) :
    (found.filterMap unit.settingStatement?).countP (setsProperty name) =
      ((found.filter fun property => (unit.settingStatement? property).isSome).map
        (·.name)).count name := by
  rw [List.countP_filterMap, List.count, List.countP_map, List.countP_filter]
  refine List.countP_congr fun property hproperty => ?_
  cases hstatement : unit.settingStatement? property with
  | none => simp
  | some statement =>
    simp [setsProperty_settingStatement hstatement hname (hblanks property hproperty)]

variable (hnames : (properties.map (·.name)).Nodup)

include hnames in
/-- What is promoted and what the constructor sets, as the class is written. -/
theorem count_sets (hblanks : ∀ property ∈ properties, ' ' ∉ property.name.toList)
    {property : ResolvedProperty} (hproperty : property ∈ emittedIn unit properties) :
    ((assembleClass unit.settings.framework unit properties).promoted.map (·.name)).count
          property.name +
        (assembleClass unit.settings.framework unit properties).statements.countP
          (setsProperty property.name) =
      if unit.valueSource property = .default then 0 else 1 := by
  have hemitted : ((emittedIn unit properties).map (·.name)).Nodup :=
    hnames.sublist (List.filter_sublist.map _)
  have hopening : ∀ statement ∈ (if (assembleClass unit.settings.framework unit
      properties).constructor.isSome = true ∧ unit.settings.framework = .laravel ∧
        unit.isEntity = true then [Laravel.parentCall] else []),
      ¬ setsProperty property.name statement = true := by
    intro statement hstatement
    split at hstatement
    · rw [List.mem_singleton.1 hstatement, setsProperty, decide_eq_true_iff]
      rintro ⟨rest, hrest⟩
      simp [toString, Laravel.parentCall] at hrest
    · cases hstatement
  have hblank (found : ResolvedProperty) (h : found ∈ emittedIn unit properties) :=
    hblanks found (List.mem_of_mem_filter h)
  rw [promoted_assembleClass, map_name_declarationFor, declaredIn_eq_emittedIn, filter_promotes_eq,
    count_name_filter hemitted hproperty, statements_assembleClass, List.countP_append,
    List.countP_eq_zero.2 hopening, Nat.zero_add,
    countP_settingStatement hblank (hblank property hproperty),
    count_name_filter hemitted hproperty]
  simp only [isSome_settingStatement?]
  cases unit.valueSource property <;> rfl

variable (hdeclares : ∀ property ∈ properties, unit.declares property.name = true)

include hnames hdeclares in
/-- The one declaration of a property. -/
theorem declaration_unique {property : ResolvedProperty}
    (hproperty : property ∈ emittedIn unit properties) {other : PropertyDecl}
    (hother : other ∈ (assembleClass unit.settings.framework unit properties).properties ++
      (assembleClass unit.settings.framework unit properties).promoted)
    (hname : other.name = property.name) :
    other = declarationFor unit.settings.framework unit property := by
  have hmem := List.mem_of_mem_filter hproperty
  rcases (mem_declarations_assembleClass _ unit hnames).1 hother with hadded | ⟨found, hfound, rfl⟩
  · have hnot := declares_of_mem_addedProperties hadded
    rw [hname, hdeclares property hmem] at hnot
    cases hnot
  · rw [name_declarationFor] at hname
    rw [List.inj_on_of_nodup_map hnames (List.mem_of_mem_filter hfound) hmem hname]

include hnames in
theorem declarationFor_mem_declarations {property : ResolvedProperty}
    (hproperty : property ∈ emittedIn unit properties) :
    declarationFor unit.settings.framework unit property ∈
      (assembleClass unit.settings.framework unit properties).properties ++
        (assembleClass unit.settings.framework unit properties).promoted := by
  refine (mem_declarations_assembleClass _ unit hnames).2 (.inr ⟨property, ?_, rfl⟩)
  rwa [declaredIn_eq_emittedIn]

include hnames in
theorem declarationFor_mem_promoted_iff {property : ResolvedProperty}
    (hproperty : property ∈ emittedIn unit properties) :
    declarationFor unit.settings.framework unit property ∈
        (assembleClass unit.settings.framework unit properties).promoted ↔
      unit.valueSource property = .promoted := by
  rw [promoted_assembleClass, declaredIn_eq_emittedIn, filter_promotes_eq, List.mem_map]
  constructor
  · rintro ⟨other, hother, heq⟩
    obtain ⟨hemitted, hsource⟩ := List.mem_filter.1 hother
    have hname := congrArg PropertyDecl.name heq
    rw [name_declarationFor, name_declarationFor] at hname
    rw [← List.inj_on_of_nodup_map hnames (List.mem_of_mem_filter hemitted)
      (List.mem_of_mem_filter hproperty) hname]
    exact of_decide_eq_true hsource
  · intro hsource
    exact ⟨property, List.mem_filter.2 ⟨hproperty, decide_eq_true hsource⟩, rfl⟩

include hnames hdeclares in
/-- Each property gets its value from one source, by the lemmas above. -/
theorem assembleClass_setsEachOnce :
    SetsEachOnce unit properties (assembleClass unit.settings.framework unit properties) where
  declared := by
    intro property hproperty
    refine ⟨declarationFor unit.settings.framework unit property,
      declarationFor_mem_declarations hnames hproperty, name_declarationFor _ _ _,
      fun other hother hname => declaration_unique hnames hdeclares hproperty hother hname,
      declarationFor_mem_promoted_iff hnames hproperty, ?_, ?_⟩
    · intro hset
      rw [default_declarationFor, if_neg hset]
    · intro hdefault
      rw [default_declarationFor, if_pos hdefault, isReadonly_declarationFor,
        isReadonly_assembleClass, readonlyMode_eq_off unit property hdefault]
      exact ⟨rfl, rfl, rfl⟩
  params_eq := signature_assembleClass
  constructor_iff := by
    rw [isSome_constructor_iff, params_ne_nil_iff]
    simp only [ne_eq, valueSource_eq_default_iff, ← not_or, not_not, and_or_left, exists_or]
  statements_eq := statements_assembleClass
  parentCall_not_mem :=
    ⟨parentCall_not_mem_filterMap _, fun _ hmethod => parentCall_not_mem_body hmethod⟩
  once hblanks _ hproperty := count_sets hnames hblanks hproperty

end Class

/-- **Each property has one source of its initial value.** The constructor sets it from a parameter
or creates it, at most once; if it does, there is no default, and else there is the default of its
type, if that has one. -/
theorem classFile_setsEachOnce (unit : ClassUnit) (registry : Registry) (namespaceName : String)
    (hnames : (unit.properties.map (·.name)).Nodup) :
    (classFile unit registry namespaceName).declarations =
        [.classDecl (classOf unit registry namespaceName)] ∧
      SetsEachOnce unit (lookedUp unit registry namespaceName).1
        (classOf unit registry namespaceName) :=
  ⟨rfl, assembleClass_setsEachOnce (nodup_lookedUp unit registry namespaceName hnames)
    fun _ hproperty => declares_of_mem_lookedUp unit registry namespaceName hproperty⟩

theorem classFile_setsEachOnce_basket :
    (basket.properties.map (·.name)).Nodup ∧
    SetsEachOnce basket (lookedUp basket {} "App").1 (classOf basket {} "App") ∧
    (lookedUp basket {} "App").1.map basket.valueSource = [.created, .assigned, .default] ∧
    (classOf basket {} "App").properties.map (fun found => (found.name, found.default)) =
      [("id", some "null"), ("items", none), ("code", none), ("note", some "null")] ∧
    (classOf basket {} "App").statements = ["$this->items = [];", "$this->code = $code;"] :=
  have hnames : (basket.properties.map (·.name)).Nodup := by decide
  ⟨hnames, (classFile_setsEachOnce basket {} "App" hnames).2, by decide +kernel, by decide +kernel,
    by decide +kernel⟩

end DomainForge.Php
