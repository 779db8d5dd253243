import DomainForge.Placement

/-!
# The rule that counts

Rules are read before units are placed: one whose pattern cannot be read is dropped, and one whose
strip pattern cannot be read goes on without it. So the list that units are placed with is another
one than the list of the settings. Here a unit is placed by the list of the settings itself
(`Layout.placeFirst`): of the rules that can be read and that select the unit, the first counts.
Both ways give the same placement (`place_compileRules`), which is why a rule that cannot be read
has no effect wherever it stands.
-/

namespace DomainForge

/-! ## Rules as they are written -/

namespace PathRule

/-- The parts of the subfolder between slashes and backslashes, without the blanks around them, as
far as anything is left. -/
def subfolders (rule : PathRule) : List String :=
  ((Text.splitWhere (fun c => c == '/' || c == '\\') rule.subfolder.toList).map fun piece =>
    String.ofList (Text.trim piece)).filter (· ≠ "")

/-- The parts of a subfolder that are kept are those that are not blank. -/
theorem segments_eq_subfolders (rule : PathRule) : rule.segments = rule.subfolders := by
  have hfilter (pieces : List (List Char)) :
      (pieces.filter (!·.isEmpty)).map String.ofList =
        (pieces.map String.ofList).filter (· ≠ "") := by
    rw [List.filter_map]
    refine congrArg (List.map String.ofList) (List.filter_congr fun piece _ => ?_)
    cases piece <;> simp
  unfold segments subfolders isBackslash
  rw [hfilter, List.map_map]
  rfl

end PathRule

namespace Layout

/-- A unit in given subfolders and under a given name: its folders are those of the directory
structure, that of its kind, and the subfolders. -/
def placeAs (layout : Layout) (site : UnitSite) (subfolders : List String) (finalName : String) :
    Placement :=
  let above := layout.directories.folders site ++
    if layout.groupByType then [site.kind.folder] else []
  let folders := (above ++ subfolders).filter (· ≠ "")
  { finalName
    path := Text.joinWith "/" (folders ++ [finalName ++ ".php"])
    namespaceName := layout.namespaceOf folders }

/-- A placement depends on the rules only through the first that applies. -/
theorem place_of_find? {layout : Layout} {rules : List CompiledRule} {site : UnitSite}
    {rule : Option CompiledRule} (h : rules.find? (·.applies site) = rule) :
    layout.place rules site = layout.placeAs site ((rule.map (·.segments)).getD [])
      ((rule.map (·.finalName site.name)).getD site.name) := by
  subst h
  rfl

end Layout

section Rules

variable [PatternLanguage]

/-- What a pattern does, if it can be read. -/
def PatternLanguage.matcher? (pattern : String) : Option Matcher :=
  (PatternLanguage.read pattern).toOption

namespace PathRule

/-- Whether a rule can be read, is meant for the kind of a unit, and matches its name. -/
def selects (rule : PathRule) (site : UnitSite) : Bool :=
  (PatternLanguage.matcher? rule.pattern).any (·.isMatch site.name) &&
    rule.kind.all (· == site.kind)

/-- A name without the first match of the strip pattern. The name stays as it is if there is no such
pattern, if it cannot be read, and if nothing would be left. -/
def rename (rule : PathRule) (name : String) : String :=
  match rule.strip.bind PatternLanguage.matcher? with
  | none => name
  | some strip => if strip.removeFirst name = "" then name else strip.removeFirst name

end PathRule

namespace Layout

/-- Places a unit by the first of the rules as they are written. -/
def placeFirst (layout : Layout) (rules : List PathRule) (site : UnitSite) : Placement :=
  match rules.find? (·.selects site) with
  | none => layout.placeAs site [] site.name
  | some rule => layout.placeAs site rule.subfolders (rule.rename site.name)

end Layout

/-! ## Rules as they are read -/

namespace PathRule

/-- What is read from a rule, wherever it stands in the list. -/
def compiled? (rule : PathRule) : Option CompiledRule :=
  (PatternLanguage.matcher? rule.pattern).map fun pattern =>
    { pattern, kind := rule.kind, segments := rule.segments
      strip := rule.strip.bind PatternLanguage.matcher? }

theorem compileStrip_fst (index : Nat) (strip : Option String) :
    (compileStrip index strip).1 = strip.bind PatternLanguage.matcher? := by
  cases strip with
  | none => rfl
  | some text =>
    rw [compileStrip, Option.bind_some, PatternLanguage.matcher?]
    cases PatternLanguage.read text <;> rfl

theorem compileRule_fst (index : Nat) (rule : PathRule) :
    (compileRule index rule).1 = rule.compiled? := by
  unfold compileRule compiled?
  rw [← compileStrip_fst index, PatternLanguage.matcher?]
  cases PatternLanguage.read rule.pattern <;> rfl

/-- Rules that cannot be compiled are left out, and the others stay in order. -/
theorem compileRulesFrom_fst (index : Nat) (rules : List PathRule) :
    (compileRulesFrom index rules).1 = rules.filterMap compiled? := by
  induction rules generalizing index with
  | nil => rfl
  | cons rule rest ih =>
    simp only [compileRulesFrom, compileRule_fst, ih]
    rw [List.filterMap_cons]
    cases rule.compiled? <;> rfl

theorem any_compiled? (rule : PathRule) (site : UnitSite) :
    rule.compiled?.any (·.applies site) = rule.selects site := by
  unfold compiled? selects
  cases PatternLanguage.matcher? rule.pattern with
  | none => rfl
  | some pattern =>
    rw [Option.map_some, Option.any_some, CompiledRule.applies, Bool.and_comm, Option.any_some]

theorem exists_compiled? (rule : PathRule) {site : UnitSite} (h : rule.selects site = true) :
    ∃ compiled, rule.compiled? = some compiled := by
  rw [← rule.any_compiled? site] at h
  cases hcompiled : rule.compiled? with
  | none =>
    rw [hcompiled] at h
    cases h
  | some compiled => exact ⟨compiled, rfl⟩

theorem finalName_of_compiled? {rule : PathRule} {compiled : CompiledRule}
    (h : rule.compiled? = some compiled) (name : String) :
    compiled.finalName name = rule.rename name := by
  obtain ⟨pattern, -, rfl⟩ := Option.map_eq_some_iff.1 h
  unfold CompiledRule.finalName rename
  rfl

theorem segments_of_compiled? {rule : PathRule} {compiled : CompiledRule}
    (h : rule.compiled? = some compiled) : compiled.segments = rule.subfolders := by
  obtain ⟨pattern, -, rfl⟩ := Option.map_eq_some_iff.1 h
  exact rule.segments_eq_subfolders

/-- No name is stripped to nothing. -/
theorem rename_ne_empty (rule : PathRule) {name : String} (h : name ≠ "") :
    rule.rename name ≠ "" := by
  unfold rename
  split
  · exact h
  · split
    · exact h
    · assumption

end PathRule

/-! ## Placing -/

namespace Layout

/-- The first compiled rule that applies is the first rule that selects, compiled. -/
theorem find?_compileRules (rules : List PathRule) (site : UnitSite) :
    (compileRules rules).1.find? (·.applies site) =
      (rules.find? (·.selects site)).bind PathRule.compiled? := by
  have hselects : (fun rule : PathRule => rule.compiled?.any (·.applies site)) =
      (·.selects site) := funext fun rule => rule.any_compiled? site
  rw [compileRules, PathRule.compileRulesFrom_fst, List.find?_filterMap, hselects]

/-- Reading rules and taking the first that applies is taking the first that selects. -/
theorem place_eq_placeFirst (layout : Layout) (rules : List PathRule) (site : UnitSite) :
    layout.place (compileRules rules).1 site = layout.placeFirst rules site := by
  rw [place_of_find? (find?_compileRules rules site)]
  unfold placeFirst
  cases hrule : rules.find? (·.selects site) with
  | none => rfl
  | some rule =>
    have hselects : rule.selects site = true := by simpa using List.find?_some hrule
    obtain ⟨compiled, hcompiled⟩ := rule.exists_compiled? hselects
    rw [Option.bind_some, hcompiled, Option.map_some, Option.map_some, Option.getD_some,
      Option.getD_some, PathRule.segments_of_compiled? hcompiled,
      PathRule.finalName_of_compiled? hcompiled]

/-- A rule with a pattern that cannot be read places nothing. -/
theorem placeFirst_append_cons {layout : Layout} {site : UnitSite} {bad : PathRule}
    {fault : String} (hbad : PatternLanguage.read bad.pattern = .error fault)
    (before after : List PathRule) :
    layout.placeFirst (before ++ bad :: after) site = layout.placeFirst (before ++ after) site := by
  have hselects : bad.selects site = false := by
    rw [PathRule.selects, PatternLanguage.matcher?, hbad]
    rfl
  have hfind : (before ++ bad :: after).find? (·.selects site) =
      (before ++ after).find? (·.selects site) := by
    rw [List.find?_append, List.find?_append, List.find?_cons, hselects]
  unfold placeFirst
  rw [hfind]

theorem finalName_placeFirst_ne_empty (layout : Layout) (rules : List PathRule) {site : UnitSite}
    (h : site.name ≠ "") : (layout.placeFirst rules site).finalName ≠ "" := by
  unfold placeFirst
  split
  · exact h
  · exact PathRule.rename_ne_empty _ h

end Layout

/-- **The first rule counts, and rules that cannot be read count for nothing.** Units are placed as
by the rules of the settings themselves; a rule whose pattern cannot be read may be put anywhere
into them or taken away; and a unit that has a name keeps one. -/
theorem place_compileRules (layout : Layout) (rules : List PathRule) (site : UnitSite) :
    layout.place (compileRules rules).1 site = layout.placeFirst rules site ∧
    (∀ before bad after fault, PatternLanguage.read bad.pattern = .error fault →
      layout.place (compileRules (before ++ bad :: after)).1 site =
        layout.place (compileRules (before ++ after)).1 site) ∧
    (site.name ≠ "" → (layout.place (compileRules rules).1 site).finalName ≠ "") := by
  refine ⟨layout.place_eq_placeFirst rules site, fun before bad after fault hbad => ?_,
    fun hname => ?_⟩
  · rw [layout.place_eq_placeFirst, layout.place_eq_placeFirst, Layout.placeFirst_append_cons hbad]
  · rw [layout.place_eq_placeFirst]
    exact layout.finalName_placeFirst_ne_empty rules hname

end Rules

end DomainForge
