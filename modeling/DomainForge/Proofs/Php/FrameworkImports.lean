import DomainForge.Proofs.Php.InitialValues
import DomainForge.Proofs.Php.UnitTypes

/-!
# What a framework imports

A framework has its say in many places of a class: the parent, the attributes, the types and the
initial values of collections, the methods that tell relations. Each of them may name a symbol of
the framework, and whether the symbol is imported is decided somewhere else, property by property.
Here the two are compared. `NeedsUse` says which symbols a class needs, by what its properties are
and by the attributes that stand in it.

Whatever a class needs is imported (`ImportsWhatItUses`). The converse needs that the names of the
properties are distinct (`UsesWhatItImports`): a promoted parameter takes the place of every
property of its name, so that the attribute and the type of another one are not written, while the
symbols for them are still imported (`orderNaming`). Where names are distinct, a collection of a
Doctrine class has its type, its comment, its attribute and its first value in one form
(`CollectionForm`).
-/

namespace DomainForge.Php

/-- The attributes that are made for a property. They are written where it is declared, which is
nowhere if a promoted parameter of another property takes its name. -/
def attributesOf (unit : ClassUnit) (property : ResolvedProperty) : List String :=
  (memberOf unit.settings.framework unit property).decl.attributes

/-- An attribute of the mapping. -/
def IsMapping (text : String) : Prop :=
  "#[ORM".toList <+: text.toList

/-- An attribute that gives the type of a column, which is its first argument. -/
def NamesColumnType (text : String) : Prop :=
  "#[ORM\\Column(type: Types::".toList <+: text.toList

instance (text : String) : Decidable (NamesColumnType text) :=
  inferInstanceAs (Decidable (_ <+: _))

/-- The attributes of a class and of all that it declares. -/
def ClassDecl.allAttributes (decl : ClassDecl) : List String :=
  decl.attributes ++ (decl.properties ++ decl.promoted).flatMap (·.attributes)

/-- The `use` statements that a class needs for its framework. -/
inductive NeedsUse (unit : ClassUnit) (properties : List ResolvedProperty) (decl : ClassDecl) :
    String → Prop
  | model (hframework : unit.settings.framework = .laravel) (hentity : unit.isEntity = true) :
      NeedsUse unit properties decl "Illuminate\\Database\\Eloquent\\Model"
  | hasMany (hframework : unit.settings.framework = .laravel) (hentity : unit.isEntity = true)
      {property : ResolvedProperty} (hproperty : property ∈ properties)
      (hassociation : property.isAssociation = true) (hcollection : property.isCollection = true) :
      NeedsUse unit properties decl "Illuminate\\Database\\Eloquent\\Relations\\HasMany"
  | belongsTo (hframework : unit.settings.framework = .laravel) (hentity : unit.isEntity = true)
      {property : ResolvedProperty} (hproperty : property ∈ properties)
      (hassociation : property.isAssociation = true) (hsingle : property.isCollection = false) :
      NeedsUse unit properties decl "Illuminate\\Database\\Eloquent\\Relations\\BelongsTo"
  | mapping (hframework : unit.settings.framework = .doctrine)
      (hattributes : unit.settings.doctrine.attributes = true) :
      NeedsUse unit properties decl "Doctrine\\ORM\\Mapping as ORM"
  | types (hframework : unit.settings.framework = .doctrine)
      {found : PropertyDecl} (hfound : found ∈ decl.properties ++ decl.promoted)
      {text : String} (htext : text ∈ found.attributes) (hnames : NamesColumnType text) :
      NeedsUse unit properties decl "Doctrine\\DBAL\\Types\\Types"
  | collection (hframework : unit.settings.framework = .doctrine) (hentity : unit.isEntity = true)
      {property : ResolvedProperty} (hproperty : property ∈ properties)
      (hassociation : property.isAssociation = true) (hcollection : property.isCollection = true) :
      NeedsUse unit properties decl "Doctrine\\Common\\Collections\\Collection"
  | arrayCollection (hframework : unit.settings.framework = .doctrine)
      (hentity : unit.isEntity = true)
      {property : ResolvedProperty} (hproperty : property ∈ properties)
      (hassociation : property.isAssociation = true) (hcollection : property.isCollection = true) :
      NeedsUse unit properties decl "Doctrine\\Common\\Collections\\ArrayCollection"

/-! ## Attributes -/

section Attributes

variable (unit : ClassUnit) (property : ResolvedProperty)

/-- Only Doctrine makes attributes, and only if it is asked for them. -/
theorem attributesOf_eq :
    attributesOf unit property =
      if unit.settings.framework = .doctrine ∧ unit.settings.doctrine.attributes = true then
        (Doctrine.propertyAttribute? unit property).toList
      else [] := by
  unfold attributesOf memberOf
  cases unit.settings.framework with
  | plain => rfl
  | laravel => rfl
  | doctrine =>
    cases hattributes : unit.settings.doctrine.attributes <;>
      simp [Framework.decorateProperty, hattributes]

theorem isMapping_renderAttribute (name : String) (arguments : List String) :
    IsMapping (Doctrine.renderAttribute name arguments) := by
  simp [IsMapping, Doctrine.renderAttribute]

/-- The text of an attribute tells whether its mapping names a column type. -/
theorem namesColumnType_iff :
    (∃ text ∈ (Doctrine.propertyAttribute? unit property).toList, NamesColumnType text) ↔
      (Doctrine.mappingOf unit property).namesType = true := by
  unfold Doctrine.propertyAttribute? NamesColumnType
  cases Doctrine.mappingOf unit property with
  | oneToMany | manyToOne | embedded =>
    simp [Doctrine.Mapping.attribute?, Doctrine.Mapping.namesType, Doctrine.renderAttribute]
  | unmapped => simp [Doctrine.Mapping.attribute?, Doctrine.Mapping.namesType]
  | enumColumn | json =>
    cases property.isNullable <;>
      simp [Doctrine.Mapping.attribute?, Doctrine.Mapping.namesType, Doctrine.renderAttribute,
        Doctrine.Mapping.arguments, Text.joinWith, toString]
  | column storage =>
    cases storage <;> cases property.isNullable <;>
      simp [Doctrine.Mapping.attribute?, Doctrine.Mapping.namesType, Doctrine.renderAttribute,
        Doctrine.Mapping.arguments, Text.joinWith, toString]

variable {unit property}

/-- A property has an attribute with the type of a column exactly if its mapping names one. -/
theorem exists_namesColumnType (hframework : unit.settings.framework = .doctrine) :
    (∃ text ∈ attributesOf unit property, NamesColumnType text) ↔
      unit.settings.doctrine.attributes = true ∧
        (Doctrine.mappingOf unit property).namesType = true := by
  rw [attributesOf_eq, ← namesColumnType_iff]
  by_cases hattributes : unit.settings.doctrine.attributes = true
  · rw [if_pos ⟨hframework, hattributes⟩]
    exact (and_iff_right hattributes).symm
  · rw [if_neg fun h => hattributes h.2]
    exact iff_of_false (fun ⟨_, htext, _⟩ => absurd htext List.not_mem_nil)
      fun h => hattributes h.1

end Attributes

/-! ## Declarations -/

/-- A declaration is that of a property, with a default or without. -/
def DeclaredAs (unit : ClassUnit) (property : ResolvedProperty) (found : PropertyDecl) : Prop :=
  found = { (memberOf unit.settings.framework unit property).decl with default := found.default }

section Declarations

variable {unit : ClassUnit} {properties : List ResolvedProperty} {property : ResolvedProperty}

theorem declaredAs_declarationFor :
    DeclaredAs unit property (declarationFor unit.settings.framework unit property) :=
  rfl

theorem mem_added_or_declaredAs {found : PropertyDecl}
    (h : found ∈ (assembleClass unit.settings.framework unit properties).properties ++
      (assembleClass unit.settings.framework unit properties).promoted) :
    found ∈ unit.settings.framework.addedProperties unit ∨
      ∃ property ∈ emittedIn unit properties, DeclaredAs unit property found := by
  refine (assembleClass_madeOf.declared found h).imp_right ?_
  rintro ⟨member, hmember, heq⟩
  obtain ⟨property, hproperty, rfl⟩ := List.mem_map.1 hmember
  exact ⟨property, declaredIn_eq_emittedIn ▸ hproperty, heq⟩

theorem DeclaredAs.attributes_eq {found : PropertyDecl} (h : DeclaredAs unit property found) :
    found.attributes = attributesOf unit property := by
  rw [h]
  rfl

/-- The identifier of an entity is a column without a type. -/
theorem not_namesColumnType_of_added {found : PropertyDecl}
    (h : found ∈ unit.settings.framework.addedProperties unit) :
    ∀ text ∈ found.attributes, ¬ NamesColumnType text := by
  unfold Framework.addedProperties at h
  split at h
  · rw [List.mem_singleton.1 h]
    decide
  · cases h

/-- An attribute that names the type of a column comes from a property whose mapping does. -/
theorem exists_namesType_of_declared (hframework : unit.settings.framework = .doctrine)
    {found : PropertyDecl}
    (hfound : found ∈ (assembleClass unit.settings.framework unit properties).properties ++
      (assembleClass unit.settings.framework unit properties).promoted)
    {text : String} (htext : text ∈ found.attributes) (hnames : NamesColumnType text) :
    ∃ property ∈ properties, unit.settings.doctrine.attributes = true ∧
      (Doctrine.mappingOf unit property).namesType = true := by
  rcases mem_added_or_declaredAs hfound with hadded | ⟨property, hproperty, hdeclared⟩
  · exact absurd hnames (not_namesColumnType_of_added hadded text htext)
  · rw [hdeclared.attributes_eq] at htext
    exact ⟨property, List.mem_of_mem_filter hproperty,
      (exists_namesColumnType hframework).1 ⟨text, htext, hnames⟩⟩

theorem attributes_assembleClass :
    (assembleClass unit.settings.framework unit properties).attributes =
      if unit.settings.framework = .doctrine ∧ unit.settings.doctrine.attributes = true then
        [Doctrine.classAttribute unit]
      else [] := by
  change (unit.settings.framework.decorateClass unit (emptyClass unit)).attributes = _
  cases unit.settings.framework with
  | plain => rfl
  | laravel => cases hentity : unit.isEntity <;> simp [Framework.decorateClass, emptyClass, hentity]
  | doctrine =>
    cases hattributes : unit.settings.doctrine.attributes <;>
      simp [Framework.decorateClass, emptyClass, hattributes]

theorem parent_assembleClass :
    (assembleClass unit.settings.framework unit properties).parent =
      if unit.settings.framework = .laravel ∧ unit.isEntity = true then some "Model" else none := by
  change (unit.settings.framework.decorateClass unit (emptyClass unit)).parent = _
  cases unit.settings.framework with
  | plain => rfl
  | laravel =>
    cases hentity : unit.isEntity <;>
      simp [Framework.decorateClass, emptyClass, hentity, Laravel.model]
  | doctrine =>
    cases hattributes : unit.settings.doctrine.attributes <;>
      simp [Framework.decorateClass, emptyClass, hattributes]

/-- Doctrine declares all properties. -/
theorem mem_emittedIn (hframework : unit.settings.framework = .doctrine)
    (hproperty : property ∈ properties) : property ∈ emittedIn unit properties := by
  refine List.mem_filter.2 ⟨hproperty, decide_eq_true ?_⟩
  rintro ⟨hlaravel, -⟩
  rw [hframework] at hlaravel
  cases hlaravel

theorem exists_relationMethod (hframework : unit.settings.framework = .laravel)
    (hentity : unit.isEntity = true) (hproperty : property ∈ properties)
    (hassociation : property.isAssociation = true) :
    ∃ method ∈ (assembleClass unit.settings.framework unit properties).methods,
      method.name = property.name ∧
        method.returns = some (if property.isCollection then "HasMany" else "BelongsTo") := by
  refine ⟨Laravel.relationMethod property, ?_, rfl, rfl⟩
  have hrelation : property ∈ Framework.laravel.relations unit properties :=
    List.mem_filter.2 ⟨hproperty, Bool.and_eq_true_iff.2 ⟨hentity, hassociation⟩⟩
  rw [methods_assembleClass, hframework]
  exact List.mem_append_right _ (List.mem_map_of_mem hrelation)

/-- A class of Doctrine has a mapping attribute of its own, if attributes are written. -/
theorem exists_isMapping_iff :
    (∃ text ∈ (assembleClass unit.settings.framework unit properties).allAttributes,
        IsMapping text) ↔
      unit.settings.framework = .doctrine ∧ unit.settings.doctrine.attributes = true := by
  constructor
  · rintro ⟨text, htext, -⟩
    by_contra hoff
    rcases List.mem_append.1 htext with htext | htext
    · rw [attributes_assembleClass, if_neg hoff] at htext
      cases htext
    · obtain ⟨found, hfound, htext⟩ := List.mem_flatMap.1 htext
      rcases mem_added_or_declaredAs hfound with hadded | ⟨property, -, hdeclared⟩
      · unfold Framework.addedProperties at hadded
        split at hadded
        · rename_i hid
          simp only [Doctrine.addsId, Bool.and_eq_true] at hid
          exact hoff ⟨hid.1, hid.2.1.1⟩
        · cases hadded
      · rw [hdeclared.attributes_eq, attributesOf_eq, if_neg hoff] at htext
        cases htext
  · intro hon
    refine ⟨Doctrine.classAttribute unit, List.mem_append_left _ ?_,
      isMapping_renderAttribute _ _⟩
    rw [attributes_assembleClass, if_pos hon]
    exact List.mem_cons_self

end Declarations

/-! ## Imports -/

section Imports

variable {unit : ClassUnit} {properties : List ResolvedProperty} {symbol : Import}

/-- What Laravel imports: the parent, and a class for each relation. -/
theorem mem_frameworkImports_laravel :
    symbol ∈ frameworkImports .laravel unit properties ↔
      unit.isEntity = true ∧ (symbol = Laravel.model ∨
        ∃ property ∈ properties, property.isAssociation = true ∧
          Laravel.relationImport property = symbol) := by
  unfold frameworkImports
  cases hentity : unit.isEntity <;>
    simp [Framework.classImports, Framework.propertyImports, Framework.relations,
      Laravel.isRelation, hentity, and_assoc]

/-- What Doctrine imports: the mapping, and what each property needs. -/
theorem mem_frameworkImports_doctrine :
    symbol ∈ frameworkImports .doctrine unit properties ↔
      (unit.settings.doctrine.attributes = true ∧ symbol = Doctrine.mappingImport) ∨
        ∃ property ∈ properties,
          (Doctrine.isEntityCollection unit property = true ∧
            symbol ∈ Doctrine.collectionImports) ∨
          (unit.settings.doctrine.attributes = true ∧
            (Doctrine.mappingOf unit property).namesType = true ∧
              symbol = Doctrine.typesImport) := by
  have hproperty (property : ResolvedProperty) :
      symbol ∈ Doctrine.propertyImports unit property ↔
        (Doctrine.isEntityCollection unit property = true ∧
            symbol ∈ Doctrine.collectionImports) ∨
          (unit.settings.doctrine.attributes = true ∧
            (Doctrine.mappingOf unit property).namesType = true ∧
              symbol = Doctrine.typesImport) := by
    unfold Doctrine.propertyImports
    rw [List.mem_append]
    refine or_congr ?_ ?_
    · split <;> simp_all
    · split <;> simp_all
  have hclass : symbol ∈ Framework.doctrine.classImports unit ↔
      unit.settings.doctrine.attributes = true ∧ symbol = Doctrine.mappingImport := by
    unfold Framework.classImports
    split <;> simp_all
  unfold frameworkImports
  simp [hclass, Framework.declares, Framework.propertyImports, Framework.relations, hproperty]

theorem statement_model :
    Laravel.model.statement = "Illuminate\\Database\\Eloquent\\Model" := by
  decide +kernel

theorem statement_relationImport (property : ResolvedProperty) :
    (Laravel.relationImport property).statement =
      if property.isCollection then "Illuminate\\Database\\Eloquent\\Relations\\HasMany"
      else "Illuminate\\Database\\Eloquent\\Relations\\BelongsTo" := by
  unfold Laravel.relationImport Laravel.relationClass
  cases property.isCollection <;> decide +kernel

theorem statement_mappingImport :
    Doctrine.mappingImport.statement = "Doctrine\\ORM\\Mapping as ORM" := by
  decide +kernel

theorem statement_typesImport :
    Doctrine.typesImport.statement = "Doctrine\\DBAL\\Types\\Types" := by
  decide +kernel

theorem map_statement_collectionImports :
    Doctrine.collectionImports.map (·.statement) =
      ["Doctrine\\Common\\Collections\\Collection",
        "Doctrine\\Common\\Collections\\ArrayCollection"] := by
  decide +kernel

theorem isEntityCollection_iff {property : ResolvedProperty} :
    Doctrine.isEntityCollection unit property = true ↔
      unit.isEntity = true ∧ property.isAssociation = true ∧ property.isCollection = true := by
  simp only [Doctrine.isEntityCollection, Bool.and_eq_true, and_assoc]
  exact and_congr_right fun _ => and_comm

theorem exists_import_of_needsUse {statement : String}
    (h : NeedsUse unit properties (assembleClass unit.settings.framework unit properties)
      statement) :
    ∃ symbol ∈ frameworkImports unit.settings.framework unit properties,
      symbol.statement = statement := by
  -- both symbols of a collection come from the same property
  have hcollections : unit.settings.framework = .doctrine → unit.isEntity = true →
      ∀ property ∈ properties, property.isAssociation = true → property.isCollection = true →
      ∀ statement ∈ Doctrine.collectionImports.map (·.statement),
      ∃ symbol ∈ frameworkImports unit.settings.framework unit properties,
        symbol.statement = statement := by
    intro hframework hentity property hproperty hassociation hcollection statement hstatement
    obtain ⟨symbol, hsymbol, heq⟩ := List.mem_map.1 hstatement
    rw [hframework]
    exact ⟨symbol, mem_frameworkImports_doctrine.2 (.inr ⟨property, hproperty, .inl
      ⟨isEntityCollection_iff.2 ⟨hentity, hassociation, hcollection⟩, hsymbol⟩⟩), heq⟩
  rw [map_statement_collectionImports] at hcollections
  cases h with
  | model hframework hentity =>
    rw [hframework]
    exact ⟨_, mem_frameworkImports_laravel.2 ⟨hentity, .inl rfl⟩, statement_model⟩
  | hasMany hframework hentity hproperty hassociation hcollection =>
    rw [hframework]
    refine ⟨_, mem_frameworkImports_laravel.2
      ⟨hentity, .inr ⟨_, hproperty, hassociation, rfl⟩⟩, ?_⟩
    rw [statement_relationImport, if_pos hcollection]
  | belongsTo hframework hentity hproperty hassociation hsingle =>
    rw [hframework]
    refine ⟨_, mem_frameworkImports_laravel.2
      ⟨hentity, .inr ⟨_, hproperty, hassociation, rfl⟩⟩, ?_⟩
    rw [statement_relationImport, if_neg (Bool.eq_false_iff.1 hsingle)]
  | mapping hframework hattributes =>
    rw [hframework]
    exact ⟨_, mem_frameworkImports_doctrine.2 (.inl ⟨hattributes, rfl⟩), statement_mappingImport⟩
  | types hframework hfound htext hnames =>
    obtain ⟨property, hproperty, hattributes, htype⟩ :=
      exists_namesType_of_declared hframework hfound htext hnames
    rw [hframework]
    exact ⟨_, mem_frameworkImports_doctrine.2
      (.inr ⟨property, hproperty, .inr ⟨hattributes, htype, rfl⟩⟩), statement_typesImport⟩
  | collection hframework hentity hproperty hassociation hcollection =>
    exact hcollections hframework hentity _ hproperty hassociation hcollection _
      List.mem_cons_self
  | arrayCollection hframework hentity hproperty hassociation hcollection =>
    exact hcollections hframework hentity _ hproperty hassociation hcollection _
      (List.mem_cons_of_mem _ List.mem_cons_self)

/-- What is imported for a framework is needed by any class, but for the types of columns, which may
be imported for a property that the class does not declare. -/
theorem needsUse_or_types (decl : ClassDecl)
    (h : symbol ∈ frameworkImports unit.settings.framework unit properties) :
    NeedsUse unit properties decl symbol.statement ∨
      symbol = Doctrine.typesImport ∧ unit.settings.framework = .doctrine ∧
        ∃ property ∈ properties, ∃ text ∈ attributesOf unit property, NamesColumnType text := by
  cases hframework : unit.settings.framework with
  | plain =>
    rw [hframework] at h
    simp [frameworkImports, Framework.classImports, Framework.propertyImports,
      Framework.relations] at h
  | laravel =>
    rw [hframework, mem_frameworkImports_laravel] at h
    obtain ⟨hentity, rfl | ⟨property, hproperty, hassociation, rfl⟩⟩ := h
    · rw [statement_model]
      exact .inl (.model hframework hentity)
    · refine .inl ?_
      rw [statement_relationImport]
      cases hcollection : property.isCollection with
      | true => exact .hasMany hframework hentity hproperty hassociation hcollection
      | false => exact .belongsTo hframework hentity hproperty hassociation hcollection
  | doctrine =>
    rw [hframework, mem_frameworkImports_doctrine] at h
    rcases h with ⟨hattributes, rfl⟩ | ⟨property, hproperty, hneeds⟩
    · rw [statement_mappingImport]
      exact .inl (.mapping hframework hattributes)
    · rcases hneeds with ⟨hentities, hsymbol⟩ | ⟨hattributes, htype, rfl⟩
      · obtain ⟨hentity, hassociation, hcollection⟩ := isEntityCollection_iff.1 hentities
        have hstatement := List.mem_map_of_mem (f := (·.statement)) hsymbol
        rw [map_statement_collectionImports, List.mem_pair] at hstatement
        refine .inl ?_
        rcases hstatement with heq | heq <;> rw [heq]
        · exact .collection hframework hentity hproperty hassociation hcollection
        · exact .arrayCollection hframework hentity hproperty hassociation hcollection
      · exact .inr ⟨rfl, rfl, property, hproperty,
          (exists_namesColumnType hframework).2 ⟨hattributes, htype⟩⟩

/-- If names are distinct, what is imported is needed. -/
theorem needsUse_of_mem (hnames : (properties.map (·.name)).Nodup)
    (h : symbol ∈ frameworkImports unit.settings.framework unit properties) :
    NeedsUse unit properties (assembleClass unit.settings.framework unit properties)
      symbol.statement := by
  rcases needsUse_or_types _ h with hneeds | ⟨rfl, hframework, property, hproperty, text, htext,
    htype⟩
  · exact hneeds
  · rw [← declaredAs_declarationFor.attributes_eq] at htext
    rw [statement_typesImport]
    exact .types hframework
      (declarationFor_mem_declarations hnames (mem_emittedIn hframework hproperty)) htext htype

/-- A statement of a class file is due to its references or to its framework. -/
theorem mem_statements_classFile_iff (unit : ClassUnit) (registry : Registry)
    (namespaceName statement : String) :
    statement ∈ (classFile unit registry namespaceName).imports.statements ↔
      statement ∈ (lookedUp unit registry namespaceName).2.imports.statements ∨
        ∃ symbol ∈ frameworkImports unit.settings.framework unit
          (lookedUp unit registry namespaceName).1, statement = symbol.statement := by
  rw [imports_classFile, mem_statements_addImports]
  rfl

end Imports

/-! ## Collections -/

/-- All that tells a collection of a Doctrine class. -/
structure CollectionForm where
  type : String
  /-- The comment above it, if comments are written. -/
  comment : Option String
  /-- The mapping, if attributes are written. -/
  mapping : String
  /-- The value that the constructor of an entity gives it. -/
  value : String

/-- How a collection is told: as a collection if it is one of entities in an entity, and as an array
if not. -/
def ClassUnit.collectionForm (unit : ClassUnit) (property : ResolvedProperty) : CollectionForm :=
  if unit.isEntity = true ∧ property.isAssociation = true then
    { type := "Collection"
      comment :=
        if unit.settings.doctrine.collectionDocblocks then
          some s!"@var Collection<int, {property.reference}>"
        else none
      mapping :=
        s!"#[ORM\\OneToMany(targetEntity: {property.reference}::class, " ++
          s!"mappedBy: '{Naming.camelCase unit.name}')]"
      value := "new ArrayCollection()" }
  else
    { type := "array"
      comment :=
        if unit.settings.doctrine.arrayDocblocks then
          some s!"@var array<int, {scalarType property.reference}>"
        else none
      mapping :=
        if property.isNullable then "#[ORM\\Column(type: Types::JSON, nullable: true)]"
        else "#[ORM\\Column(type: Types::JSON)]"
      value := "[]" }

section Collections

variable {unit : ClassUnit} {properties : List ResolvedProperty} {property : ResolvedProperty}

theorem isEntityCollection_eq (hcollection : property.isCollection = true) :
    Doctrine.isEntityCollection unit property =
      decide (unit.isEntity = true ∧ property.isAssociation = true) := by
  rw [Bool.eq_iff_iff, isEntityCollection_iff, decide_eq_true_iff, hcollection]
  simp only [and_true]

theorem typeOf_of_collection (hcollection : property.isCollection = true) :
    Framework.doctrine.typeOf unit property =
      if property.isNullable then "?" ++ (unit.collectionForm property).type
      else (unit.collectionForm property).type := by
  have hflags : property.flags.collection = true := hcollection
  have hnullable : property.flags.nullable = property.isNullable := rfl
  unfold Framework.typeOf typeFor ClassUnit.collectionForm
  simp only [hflags, hnullable, isEntityCollection_eq hcollection]
  by_cases hentities : unit.isEntity = true ∧ property.isAssociation = true <;>
    simp [hentities, mixed]

theorem propertyDoc_of_collection (hcollection : property.isCollection = true) :
    Doctrine.propertyDoc unit property = (unit.collectionForm property).comment.toList := by
  unfold Doctrine.propertyDoc ClassUnit.collectionForm
  simp only [isEntityCollection_eq hcollection, hcollection, Bool.true_and, decide_eq_true_iff]
  by_cases hentities : unit.isEntity = true ∧ property.isAssociation = true
  · rw [if_pos hentities, if_pos hentities]
    split <;> rfl
  · rw [if_neg hentities, if_neg hentities]
    split <;> rfl

theorem propertyAttribute?_of_collection (hcollection : property.isCollection = true) :
    Doctrine.propertyAttribute? unit property = some (unit.collectionForm property).mapping := by
  have hmapping : Doctrine.mappingOf unit property =
      if unit.isEntity = true ∧ property.isAssociation = true then .oneToMany else .json := by
    simp [Doctrine.mappingOf, hcollection, and_comm]
  unfold Doctrine.propertyAttribute? ClassUnit.collectionForm
  rw [hmapping]
  by_cases hentities : unit.isEntity = true ∧ property.isAssociation = true
  · rw [if_pos hentities, if_pos hentities]
    refine congrArg some (String.toList_injective ?_)
    simp [Doctrine.renderAttribute, Doctrine.Mapping.arguments, Text.joinWith, toString]
  · rw [if_neg hentities, if_neg hentities]
    cases property.isNullable <;> rfl

/-- A declaration of a collection has the parts of its form. -/
theorem DeclaredAs.parts_eq (hframework : unit.settings.framework = .doctrine)
    (hcollection : property.isCollection = true) {found : PropertyDecl}
    (h : DeclaredAs unit property found) :
    found.type = (if property.isNullable then "?" ++ (unit.collectionForm property).type
        else (unit.collectionForm property).type) ∧
      found.doc = (unit.collectionForm property).comment.toList ∧
      found.attributes = if unit.settings.doctrine.attributes then
        [(unit.collectionForm property).mapping] else [] := by
  refine ⟨?_, ?_, ?_⟩
  · rw [h, decl_memberOf, hframework, typeOf_of_collection hcollection]
  · rw [h]
    refine doc_memberOf.trans ?_
    rw [if_pos hframework, propertyDoc_of_collection hcollection]
  · rw [h.attributes_eq, attributesOf_eq, propertyAttribute?_of_collection hcollection]
    simp [hframework]

/-- The constructor of an entity creates its collections. -/
theorem creation_mem_statements (hframework : unit.settings.framework = .doctrine)
    (hentity : unit.isEntity = true) (hproperty : property ∈ properties)
    (hcollection : property.isCollection = true) :
    s!"$this->{property.name} = {(unit.collectionForm property).value};" ∈
      (assembleClass unit.settings.framework unit properties).statements := by
  have hcreates : unit.Creates property := ⟨hframework, hentity, hcollection⟩
  have hsource : unit.valueSource property = .created := by
    unfold ClassUnit.valueSource
    rw [if_neg fun htakes => htakes.1 hcreates, if_pos hcreates]
  rw [statements_assembleClass]
  refine List.mem_append_right _
    (List.mem_filterMap.2 ⟨property, mem_emittedIn hframework hproperty, ?_⟩)
  unfold ClassUnit.settingStatement? ClassUnit.collectionForm
  rw [hsource]
  refine congrArg some (String.toList_injective ?_)
  cases property.isAssociation <;> simp [hentity, toString]

/-- The constructor of a Doctrine entity takes no collection. -/
theorem not_isCollection_of_param (hframework : unit.settings.framework = .doctrine)
    (hentity : unit.isEntity = true) {param : ConstructorParam}
    (hparam : param ∈ (assembleClass unit.settings.framework unit properties).params) :
    ∃ other ∈ properties, other.name = param.name ∧ other.isCollection = false := by
  rw [params_assembleClass] at hparam
  obtain ⟨other, hother, rfl⟩ := List.mem_map.1 hparam
  obtain ⟨hdeclared, htaken⟩ := List.mem_filter.1 hother
  refine ⟨other, List.mem_of_mem_filter hdeclared, (name_paramOf _ _ _).symm, ?_⟩
  rw [Bool.eq_false_iff]
  intro hcollection
  exact ((isParam_iff_takes unit other).1 htaken).1 ⟨hframework, hentity, hcollection⟩

/-- The constructor of a value object only assigns what it takes. -/
theorem exists_assignment_of_mem (hframework : unit.settings.framework = .doctrine)
    (hvalue : unit.isEntity = false) {statement : String}
    (h : statement ∈ (assembleClass unit.settings.framework unit properties).statements) :
    ∃ other ∈ properties, statement = s!"$this->{other.name} = ${other.name};" := by
  rw [statements_assembleClass, if_neg (by simp [hframework]), List.nil_append] at h
  obtain ⟨other, hother, hstatement⟩ := List.mem_filterMap.1 h
  refine ⟨other, List.mem_of_mem_filter hother, ?_⟩
  have hcreates : ¬ unit.Creates other := fun h => Bool.false_ne_true (hvalue.symm.trans h.2.1)
  have hcreated : unit.valueSource other ≠ .created := by
    unfold ClassUnit.valueSource
    rw [if_neg hcreates]
    split
    · split <;> simp
    · simp
  unfold ClassUnit.settingStatement? at hstatement
  split at hstatement
  · exact (Option.some.inj hstatement).symm
  · rename_i hsource
    exact absurd hsource hcreated
  · cases hstatement
  · cases hstatement

end Collections

/-! ## The class file -/

/-- How a collection of a Doctrine class is told. -/
structure TellsCollection (unit : ClassUnit) (decl : ClassDecl) (property : ResolvedProperty) :
    Prop where
  declared : ∃ found ∈ decl.properties ++ decl.promoted, found.name = property.name
  /-- Its declaration has the type, the comment and the mapping of its form. -/
  parts_eq : ∀ found ∈ decl.properties ++ decl.promoted, found.name = property.name →
    found.type = (if property.isNullable then "?" ++ (unit.collectionForm property).type
        else (unit.collectionForm property).type) ∧
      found.doc = (unit.collectionForm property).comment.toList ∧
      found.attributes = if unit.settings.doctrine.attributes then
        [(unit.collectionForm property).mapping] else []
  /-- The constructor of an entity does not take it. -/
  not_param : unit.isEntity = true → ∀ param ∈ decl.params, param.name ≠ property.name

/-- A class whose file imports what the class uses. -/
structure ImportsWhatItUses (unit : ClassUnit) (properties : List ResolvedProperty)
    (references imports : Imports) (decl : ClassDecl) : Prop where
  /-- The file imports what its references and its framework need. -/
  needed : ∀ statement, statement ∈ references.statements ∨
    NeedsUse unit properties decl statement → statement ∈ imports.statements
  /-- It imports nothing else, except perhaps the types of columns. -/
  imported : ∀ statement ∈ imports.statements, statement ≠ "Doctrine\\DBAL\\Types\\Types" →
    statement ∈ references.statements ∨ NeedsUse unit properties decl statement
  /-- There are mapping attributes exactly if Doctrine is asked for them. -/
  mapping : (∃ text ∈ decl.allAttributes, IsMapping text) ↔
    unit.settings.framework = .doctrine ∧ unit.settings.doctrine.attributes = true
  /-- The entities of Laravel, and they alone, have a parent. -/
  parent_eq : decl.parent =
    if unit.settings.framework = .laravel ∧ unit.isEntity = true then some "Model" else none
  /-- Their relations are told by methods that return the class of the relation. -/
  relations : unit.settings.framework = .laravel → unit.isEntity = true →
    ∀ property ∈ properties, property.isAssociation = true → ∃ method ∈ decl.methods,
      method.name = property.name ∧
        method.returns = some (if property.isCollection then "HasMany" else "BelongsTo")
  /-- The entities of Doctrine create their collections. -/
  created : unit.settings.framework = .doctrine → unit.isEntity = true →
    ∀ property ∈ properties, property.isCollection = true →
      s!"$this->{property.name} = {(unit.collectionForm property).value};" ∈ decl.statements
  /-- Its value objects create nothing. -/
  assigned : unit.settings.framework = .doctrine → unit.isEntity = false →
    ∀ statement ∈ decl.statements, ∃ other ∈ properties,
      statement = s!"$this->{other.name} = ${other.name};"

/-- A class that uses what its file imports: nothing is imported besides what the references and the
class need, and each collection of a Doctrine class is told as what it is. -/
structure UsesWhatItImports (unit : ClassUnit) (properties : List ResolvedProperty)
    (references imports : Imports) (decl : ClassDecl) : Prop where
  statements : ∀ statement, statement ∈ imports.statements ↔
    statement ∈ references.statements ∨ NeedsUse unit properties decl statement
  collections : unit.settings.framework = .doctrine → ∀ property ∈ properties,
    property.isCollection = true → TellsCollection unit decl property

theorem assembleClass_tellsCollection {unit : ClassUnit} {properties : List ResolvedProperty}
    (hnames : (properties.map (·.name)).Nodup)
    (hdeclares : ∀ property ∈ properties, unit.declares property.name = true)
    (hframework : unit.settings.framework = .doctrine) {property : ResolvedProperty}
    (hproperty : property ∈ properties) (hcollection : property.isCollection = true) :
    TellsCollection unit (assembleClass unit.settings.framework unit properties) property where
  declared := ⟨_, declarationFor_mem_declarations hnames (mem_emittedIn hframework hproperty),
    name_declarationFor _ _ _⟩
  parts_eq := by
    intro found hfound hname
    rw [declaration_unique hnames hdeclares (mem_emittedIn hframework hproperty) hfound hname]
    exact declaredAs_declarationFor.parts_eq hframework hcollection
  not_param := by
    intro hentity param hparam hname
    obtain ⟨other, hother, hsame, hsingle⟩ := not_isCollection_of_param hframework hentity hparam
    have heq := List.inj_on_of_nodup_map hnames hother hproperty (hsame.trans hname)
    rw [heq, hcollection] at hsingle
    cases hsingle

/-- **A class file imports for its framework what the class uses.** Besides the imports of the
references there are the symbols of the parent and the relations of an Eloquent model, of the
mapping attributes, and of the collections of a Doctrine class. If names are distinct there are no
others, and each collection has the type and the mapping that its symbols are imported for. -/
theorem classFile_usesItsImports (unit : ClassUnit) (registry : Registry)
    (namespaceName : String) :
    (classFile unit registry namespaceName).declarations =
        [.classDecl (classOf unit registry namespaceName)] ∧
      ImportsWhatItUses unit (lookedUp unit registry namespaceName).1
        (lookedUp unit registry namespaceName).2.imports
        (classFile unit registry namespaceName).imports (classOf unit registry namespaceName) ∧
      ((unit.properties.map (·.name)).Nodup →
        UsesWhatItImports unit (lookedUp unit registry namespaceName).1
          (lookedUp unit registry namespaceName).2.imports
          (classFile unit registry namespaceName).imports
          (classOf unit registry namespaceName)) := by
  have hneeded (statement : String) :
      statement ∈ (lookedUp unit registry namespaceName).2.imports.statements ∨
        NeedsUse unit (lookedUp unit registry namespaceName).1
          (classOf unit registry namespaceName) statement →
      statement ∈ (classFile unit registry namespaceName).imports.statements := by
    rw [mem_statements_classFile_iff]
    refine Or.imp_right fun hneeds => ?_
    obtain ⟨symbol, hsymbol, heq⟩ := exists_import_of_needsUse hneeds
    exact ⟨symbol, hsymbol, heq.symm⟩
  refine ⟨rfl, ?_, fun hnames => ⟨fun statement => ⟨?_, hneeded statement⟩, ?_⟩⟩
  · exact {
      needed := hneeded
      imported := by
        intro statement hstatement hother
        refine ((mem_statements_classFile_iff ..).1 hstatement).imp_right ?_
        rintro ⟨symbol, hsymbol, rfl⟩
        refine (needsUse_or_types _ hsymbol).resolve_right ?_
        rintro ⟨rfl, -⟩
        exact hother statement_typesImport
      mapping := exists_isMapping_iff
      parent_eq := parent_assembleClass
      relations := fun hframework hentity _ hproperty hassociation =>
        exists_relationMethod hframework hentity hproperty hassociation
      created := fun hframework hentity _ hproperty hcollection =>
        creation_mem_statements hframework hentity hproperty hcollection
      assigned := fun hframework hvalue _ hstatement =>
        exists_assignment_of_mem hframework hvalue hstatement }
  · intro hstatement
    refine ((mem_statements_classFile_iff ..).1 hstatement).imp_right ?_
    rintro ⟨symbol, hsymbol, rfl⟩
    exact needsUse_of_mem (nodup_lookedUp unit registry namespaceName hnames) hsymbol
  · intro hframework property hproperty hcollection
    exact assembleClass_tellsCollection (nodup_lookedUp unit registry namespaceName hnames)
      (fun _ hfound => declares_of_mem_lookedUp unit registry namespaceName hfound) hframework
      hproperty hcollection

/-- An order with lines, a number and an address. The constructor takes the address alone, and
promotes it. -/
def orderNaming (number address : String) : ClassUnit :=
  { kind := .entity, name := "Order", context := "Sales", aggregate := "A"
    properties := [
      { name := "lines", type := "Line", isRelation := true, isCollection := true },
      { name := number, type := "Int", nullable := true },
      { name := address, type := "Address" }]
    settings := {
      framework := .doctrine, constructor := .required, constructorPromotion := true } }

/-- The units that it refers to. -/
def linesAndAddresses : Registry :=
  { units := [
      ("Address", { kind := .valueObject, finalName := "Address", namespaceName := "App"
                    context := "Sales", aggregate := "A" }),
      ("Line", { kind := .entity, finalName := "Line", namespaceName := "App"
                 context := "Sales", aggregate := "A" })] }

theorem classFile_usesItsImports_distinct :
    let unit := orderNaming "number" "address"
    let decl := classOf unit linesAndAddresses "App"
    (unit.properties.map (·.name)).Nodup ∧
    UsesWhatItImports unit (lookedUp unit linesAndAddresses "App").1
      (lookedUp unit linesAndAddresses "App").2.imports
      (classFile unit linesAndAddresses "App").imports decl ∧
    (decl.properties ++ decl.promoted).map (fun found => (found.name, found.type)) =
      [("id", "?int"), ("lines", "Collection"), ("number", "?int"), ("address", "Address")] :=
  have hnames : ((orderNaming "number" "address").properties.map (·.name)).Nodup := by decide
  ⟨hnames, (classFile_usesItsImports _ linesAndAddresses "App").2.2 hnames, by decide +kernel⟩

/-- If all three are called alike, the address is all that is declared. So the collection has no
declaration and no attribute names the type of a column, but the symbols for both are imported. -/
theorem classFile_importsUnused :
    let unit := orderNaming "lines" "lines"
    let file := classFile unit linesAndAddresses "App"
    let decl := classOf unit linesAndAddresses "App"
    file.declarations = [.classDecl decl] ∧
    file.imports.statements =
      ["Doctrine\\Common\\Collections\\ArrayCollection",
        "Doctrine\\Common\\Collections\\Collection", "Doctrine\\DBAL\\Types\\Types",
        "Doctrine\\ORM\\Mapping as ORM"] ∧
    (decl.properties ++ decl.promoted).map
        (fun found => (found.name, found.type, found.attributes)) =
      [("id", "?int", ["#[ORM\\Id]", "#[ORM\\GeneratedValue]", "#[ORM\\Column]"]),
        ("lines", "Address", ["#[ORM\\Embedded(class: Address::class)]"])] ∧
    ¬ UsesWhatItImports unit (lookedUp unit linesAndAddresses "App").1
      (lookedUp unit linesAndAddresses "App").2.imports file.imports decl := by
  refine ⟨rfl, by decide +kernel, by decide +kernel, fun h => ?_⟩
  obtain ⟨⟨found, hfound, hname⟩, hparts, -⟩ := h.collections rfl
    { property := { name := "lines", type := "Line", isRelation := true, isCollection := true }
      reference := "Line", target := some .entity } (by decide +kernel) rfl
  have haddress : ∀ found ∈
      (classOf (orderNaming "lines" "lines") linesAndAddresses "App").properties ++
        (classOf (orderNaming "lines" "lines") linesAndAddresses "App").promoted,
      found.name = "lines" → found.type = "Address" := by decide +kernel
  have htype := (hparts found hfound hname).1
  rw [haddress found hfound hname] at htype
  exact absurd htype (by decide)

end DomainForge.Php
