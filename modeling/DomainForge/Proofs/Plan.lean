import DomainForge.Plan
import DomainForge.Proofs.Php.References

/-!
# Plans

Every plan points at a unit of the model (`mem_plans`, `Aggregate.mem_units`). In a model whose
names are identifiers the planned names are words, whatever a path rule strips from them, and the
namespaces have no backslash at their ends (`isPlain_of_mem_plans`), since the parts that they are
joined from have none.
-/

namespace DomainForge

/-! ## Names that rules strip -/

/-- Stripping only leaves characters out. -/
theorem CompiledRule.finalName_sublist (rule : CompiledRule) (name : String) :
    (rule.finalName name).toList.Sublist name.toList := by
  unfold CompiledRule.finalName
  split
  · exact List.Sublist.refl _
  · rename_i strip _
    dsimp only
    split
    · exact List.Sublist.refl _
    · exact strip.removeFirst_sublist name

/-- Placing a unit adds nothing to its name. -/
theorem Layout.mem_of_mem_finalName {layout : Layout} {rules : List CompiledRule} {site : UnitSite}
    {c : Char} (h : c ∈ (layout.place rules site).finalName.toList) : c ∈ site.name.toList := by
  unfold Layout.place at h
  dsimp only at h
  cases hrule : rules.find? (·.applies site) with
  | none => simpa [hrule] using h
  | some rule => exact (rule.finalName_sublist site.name).subset (by simpa [hrule] using h)

/-! ## Namespaces -/

theorem isTrimmed_trimNamespace (name : String) :
    Text.IsTrimmed isBackslash (trimNamespace name).toList := by
  rw [trimNamespace, String.toList_ofList]
  exact Text.isTrimmed_trimWhere isBackslash name.toList

/-- No segment of a subfolder holds a slash or a backslash. -/
theorem not_divider_of_mem_segments {rule : PathRule} {segment : String}
    (h : segment ∈ rule.segments) :
    ∀ c ∈ segment.toList, (c == '/' || isBackslash c) = false := by
  unfold PathRule.segments at h
  obtain ⟨piece, hpiece, rfl⟩ := List.mem_map.1 h
  obtain ⟨raw, hraw, rfl⟩ := List.mem_map.1 (List.mem_filter.1 hpiece).1
  intro c hc
  rw [String.toList_ofList] at hc
  exact Text.not_of_mem_splitWhere hraw c (Text.mem_of_mem_trimWhere hc)

theorem not_isBackslash_of_mem_segments {rule : PathRule} {segment : String}
    (h : segment ∈ rule.segments) : ∀ c ∈ segment.toList, isBackslash c = false :=
  fun c hc => (Bool.or_eq_false_iff.1 (not_divider_of_mem_segments h c hc)).2

section Reading

variable [PatternLanguage]

theorem exists_compileRule_of_mem {index : Nat} {rules : List PathRule} {compiled : CompiledRule}
    (h : compiled ∈ (compileRulesFrom index rules).1) :
    ∃ rule ∈ rules, ∃ position, (compileRule position rule).1 = some compiled := by
  induction rules generalizing index with
  | nil => simp [compileRulesFrom] at h
  | cons rule rest ih =>
    simp only [compileRulesFrom, List.mem_append, Option.mem_toList] at h
    rcases h with h | h
    · exact ⟨rule, List.mem_cons_self, index, h⟩
    · obtain ⟨found, hfound, hcompiled⟩ := ih h
      exact ⟨found, List.mem_cons_of_mem _ hfound, hcompiled⟩

/-- The segments of a rule that has been read are those of the rule it was read from. -/
theorem exists_rule_of_mem_compileRulesFrom {index : Nat} {rules : List PathRule}
    {compiled : CompiledRule} (h : compiled ∈ (compileRulesFrom index rules).1) :
    ∃ rule ∈ rules, compiled.segments = rule.segments := by
  obtain ⟨rule, hrule, position, hcompiled⟩ := exists_compileRule_of_mem h
  refine ⟨rule, hrule, ?_⟩
  unfold compileRule at hcompiled
  split at hcompiled
  · cases hcompiled
  · cases hcompiled
    rfl

/-- Rules that ask for nothing to be stripped strip nothing once they are read. -/
theorem strip_eq_none_of_mem_compileRulesFrom {index : Nat} {rules : List PathRule}
    {compiled : CompiledRule} (h : compiled ∈ (compileRulesFrom index rules).1)
    (hrules : ∀ rule ∈ rules, rule.strip = none) : compiled.strip = none := by
  obtain ⟨rule, hrule, position, hcompiled⟩ := exists_compileRule_of_mem h
  unfold compileRule at hcompiled
  split at hcompiled
  · cases hcompiled
  · rw [hrules rule hrule] at hcompiled
    cases hcompiled
    rfl

end Reading

/-- Without a rule that strips, units are called as in the model. -/
theorem Layout.finalName_place_of_strip {layout : Layout} {rules : List CompiledRule}
    (hrules : ∀ rule ∈ rules, rule.strip = none) (site : UnitSite) :
    (layout.place rules site).finalName = site.name := by
  unfold Layout.place
  dsimp only
  cases hrule : rules.find? (·.applies site) with
  | none => rfl
  | some rule =>
    rw [Option.map_some, Option.getD_some, CompiledRule.finalName,
      hrules rule (List.mem_of_find?_eq_some hrule)]

/-- The parts of namespaces come from names without backslashes. -/
structure UnitSite.IsPlain (site : UnitSite) : Prop where
  name : Text.IsWord site.name
  context : Text.IsWord site.context
  aggregate : Text.IsWord site.aggregate

theorem Text.IsWord.not_isBackslash {name : String} (h : Text.IsWord name) :
    ∀ c ∈ name.toList, isBackslash c = false := by
  intro c hc
  have hne : c ≠ '\\' := fun heq => h.not_mem (c := '\\') (by decide) (heq ▸ hc)
  simpa [isBackslash] using hne

/-- A directory structure knows no other folders than those of the context and the aggregate. -/
theorem DirectoryStructure.eq_of_mem_folders {directories : DirectoryStructure} {site : UnitSite}
    {folder : String} (h : folder ∈ directories.folders site) :
    folder = site.context ∨ folder = site.aggregate := by
  cases directories with
  | flat => cases h
  | byContext => exact .inl (List.mem_singleton.1 h)
  | byAggregate => simpa [DirectoryStructure.folders] using h
  | psr4 => simpa [DirectoryStructure.folders] using h

/-- What holds of the names around a unit, of the folder of its kind and of the segments of a rule
holds of its folders. -/
theorem Layout.forall_mem_folders {P : String → Prop} {layout : Layout} {rule : Option CompiledRule}
    {site : UnitSite} (hcontext : P site.context) (haggregate : P site.aggregate)
    (hkind : P site.kind.folder)
    (hrule : ∀ found ∈ rule, ∀ segment ∈ found.segments, P segment) :
    ∀ folder ∈ layout.folders rule site, P folder := by
  intro folder h
  unfold Layout.folders at h
  rcases List.mem_append.1 (List.mem_filter.1 h).1 with h | h
  · rcases List.mem_append.1 h with h | h
    · rcases DirectoryStructure.eq_of_mem_folders h with rfl | rfl
      · exact hcontext
      · exact haggregate
    · split at h
      · rwa [List.mem_singleton.1 h]
      · cases h
  · cases rule with
    | none => cases h
    | some found => exact hrule found rfl folder h

theorem Layout.ne_empty_of_mem_folders {layout : Layout} {rule : Option CompiledRule}
    {site : UnitSite} : ∀ folder ∈ layout.folders rule site, folder ≠ "" := by
  intro folder h
  simpa using (List.mem_filter.1 h).2

/-- With plain names, no folder has a backslash. -/
theorem not_isBackslash_of_mem_folders {layout : Layout} {rule : Option CompiledRule}
    {site : UnitSite} (hsite : site.IsPlain)
    (hrule : ∀ found ∈ rule, ∀ segment ∈ found.segments, ∀ c ∈ segment.toList,
      isBackslash c = false) :
    ∀ folder ∈ layout.folders rule site, ∀ c ∈ folder.toList, isBackslash c = false := by
  have hkind : Text.IsWord site.kind.folder := by cases site.kind <;> decide
  exact Layout.forall_mem_folders hsite.context.not_isBackslash hsite.aggregate.not_isBackslash
    hkind.not_isBackslash hrule

/-- A placed unit is plain: its name is a word, and its namespace has no backslash at its ends. -/
theorem Layout.place_isPlain (layout : Layout)
    (hstem : Text.IsTrimmed isBackslash layout.stem.toList)
    {rules : List CompiledRule} (hrules : ∀ rule ∈ rules, ∀ segment ∈ rule.segments,
      ∀ c ∈ segment.toList, isBackslash c = false) {site : UnitSite} (hsite : site.IsPlain) :
    Text.IsWord (layout.place rules site).finalName ∧
      trimNamespace (layout.place rules site).namespaceName =
        (layout.place rules site).namespaceName := by
  refine ⟨fun c hc => hsite.name c (Layout.mem_of_mem_finalName hc),
    trimNamespace_eq_of_isTrimmed ?_⟩
  unfold Layout.place Layout.namespaceOf
  dsimp only
  have hfound : ∀ found ∈ rules.find? (·.applies site), ∀ segment ∈ found.segments,
      ∀ c ∈ segment.toList, isBackslash c = false :=
    fun found h => hrules found (List.mem_of_find?_eq_some h)
  split
  · refine Text.isTrimmed_joinWith ?_ ?_
    · intro piece hpiece
      simpa using (List.mem_filter.1 hpiece).2
    · intro piece hpiece
      rcases List.mem_cons.1 (List.mem_filter.1 hpiece).1 with rfl | hpiece
      · exact hstem
      · exact Text.isTrimmed_of_forall (not_isBackslash_of_mem_folders hsite hfound piece hpiece)
  · exact hstem

/-! ## Units and their plans -/

/-- Where a unit stands among those of its kind. -/
theorem Aggregate.mem_units {aggregate : Aggregate} {kind : UnitKind} {index : Nat}
    {name : String} :
    (kind, index, name) ∈ aggregate.units ↔
      match kind with
      | .enumeration => ∃ unit, aggregate.enums[index]? = some unit ∧ unit.name = name
      | .valueObject => ∃ unit, aggregate.valueObjects[index]? = some unit ∧ unit.name = name
      | .entity => ∃ unit, aggregate.entities[index]? = some unit ∧ unit.name = name := by
  unfold Aggregate.units
  simp only [List.mem_append, List.mem_map, Prod.exists, Prod.mk.injEq,
    List.mem_zipIdx_iff_getElem?]
  cases kind <;> grind

/-- Every plan points at a unit of the model and holds its names and its placement. -/
theorem Model.mem_plans {model : Model} {layout : Layout} {rules : List CompiledRule}
    {plan : UnitPlan} (h : plan ∈ model.plans layout rules) :
    ∃ context ∈ model.contexts, ∃ aggregate ∈ context.aggregates,
      model.aggregate? plan.contextIndex plan.aggregateIndex = some aggregate ∧
      plan.context = context.name ∧ plan.aggregate = aggregate.name ∧
      (plan.kind, plan.index, plan.name) ∈ aggregate.units ∧
      plan.placement = layout.place rules
        { name := plan.name, kind := plan.kind, context := plan.context
          aggregate := plan.aggregate } := by
  unfold Model.plans at h
  obtain ⟨⟨context, contextIndex⟩, hcontext, h⟩ := List.mem_flatMap.1 h
  obtain ⟨⟨aggregate, aggregateIndex⟩, haggregate, h⟩ := List.mem_flatMap.1 h
  unfold planAggregate at h
  obtain ⟨⟨kind, index, name⟩, hunit, rfl⟩ := List.mem_map.1 h
  rw [List.mem_zipIdx_iff_getElem?] at hcontext haggregate
  refine ⟨context, List.mem_of_getElem? hcontext, aggregate, List.mem_of_getElem? haggregate, ?_,
    rfl, rfl, hunit, rfl⟩
  simp only [Model.aggregate?] at hcontext haggregate ⊢
  simp [hcontext, haggregate]

/-- Whether the names of contexts, aggregates and units are identifiers. -/
def Model.hasIdentifierNames (model : Model) : Bool :=
  model.contexts.all fun context =>
    Naming.isIdentifier context.name && context.aggregates.all fun aggregate =>
      Naming.isIdentifier aggregate.name && aggregate.units.all fun (_, _, name) =>
        Naming.isIdentifier name

/-- Where the unit of a plan is declared, which is all that its placement asks. -/
def UnitPlan.site (plan : UnitPlan) : UnitSite :=
  { name := plan.name, kind := plan.kind, context := plan.context, aggregate := plan.aggregate }

/-- A unit that has an identifier for a name, in a context and an aggregate that have one too. -/
structure UnitSite.HasIdentifierNames (site : UnitSite) : Prop where
  name : Naming.isIdentifier site.name = true
  context : Naming.isIdentifier site.context = true
  aggregate : Naming.isIdentifier site.aggregate = true

theorem UnitSite.HasIdentifierNames.isPlain {site : UnitSite} (h : site.HasIdentifierNames) :
    site.IsPlain :=
  ⟨Naming.isWord_of_isIdentifier h.name, Naming.isWord_of_isIdentifier h.context,
    Naming.isWord_of_isIdentifier h.aggregate⟩

/-- If the names of a model are identifiers, so are those that a plan is made of. -/
theorem Model.hasIdentifierNames_of_mem_plans {model : Model}
    (hnames : model.hasIdentifierNames = true) {layout : Layout} {rules : List CompiledRule}
    {plan : UnitPlan} (h : plan ∈ model.plans layout rules) : plan.site.HasIdentifierNames := by
  obtain ⟨context, hcontext, aggregate, haggregate, -, hcontextName, haggregateName, hunit, -⟩ :=
    Model.mem_plans h
  simp only [Model.hasIdentifierNames, List.all_eq_true, Bool.and_eq_true] at hnames
  obtain ⟨hcontextNamed, hnames⟩ := hnames context hcontext
  obtain ⟨haggregateNamed, hnames⟩ := hnames aggregate haggregate
  rw [← hcontextName] at hcontextNamed
  rw [← haggregateName] at haggregateNamed
  exact ⟨hnames _ hunit, hcontextNamed, haggregateNamed⟩

/-- In a model whose names are identifiers every plan places a plain unit. -/
theorem Model.isPlain_of_mem_plans [PatternLanguage] {model : Model}
    (hnames : model.hasIdentifierNames = true) {settings : Settings} {plan : UnitPlan}
    (h : plan ∈ model.plans (.ofSettings settings) (compileRules settings.pathRules).1) :
    plan.info.IsPlain := by
  obtain ⟨-, -, -, -, -, -, -, -, hplacement⟩ := Model.mem_plans h
  have hsite := (Model.hasIdentifierNames_of_mem_plans hnames h).isPlain
  have hrules : ∀ rule ∈ (compileRules settings.pathRules).1, ∀ segment ∈ rule.segments,
      ∀ c ∈ segment.toList, isBackslash c = false := by
    intro rule hrule segment hsegment
    obtain ⟨source, -, heq⟩ := exists_rule_of_mem_compileRulesFrom hrule
    exact not_isBackslash_of_mem_segments (heq ▸ hsegment)
  have hplaced := (Layout.ofSettings settings).place_isPlain
    (isTrimmed_trimNamespace settings.rootNamespace) hrules hsite
  rw [UnitPlan.site, ← hplacement] at hplaced
  exact ⟨hplaced.1, hplaced.2⟩

end DomainForge
