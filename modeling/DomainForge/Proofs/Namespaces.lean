import DomainForge.Proofs.Folders
import DomainForge.Proofs.OutputPaths

/-!
# Namespaces and folders

With PSR-4 the namespace of a class follows the folders of its file. A class is then found by its
full name: what stands behind the stem of all namespaces, with slashes for backslashes, is the path
of its file (`autoloadPath?`). Neither of the two joins loses anything, so two files have the same
path exactly if they declare the same class (`place_psr4`). This needs names without slashes and
backslashes only, whatever the path rules are, since the segments of a subfolder hold neither.

Validation examines the stem. Folders become parts of namespaces unexamined, so that the subfolder
of a path rule may spoil the namespace of a unit even if the settings are valid and all names of the
model are identifiers (`namespaces_spoiled`). It is all that can (`namespaces_valid_iff`).
-/

namespace DomainForge

open Text

/-! ## Segments of namespaces -/

/-- The segments of a namespace, of which the global one has none. -/
def segmentsOf (namespaceName : String) : List String :=
  (fields isBackslash namespaceName).filter (· ≠ "")

theorem segmentsOf_joinWith (pieces : List String) :
    segmentsOf (joinWith "\\" pieces) = pieces.flatMap segmentsOf := by
  by_cases hne : pieces = []
  · subst hne
    decide
  · unfold segmentsOf
    rw [fields_joinWith (c := '\\') rfl rfl hne, List.filter_flatMap]

theorem flatMap_segmentsOf_eq_self {names : List String} (hne : ∀ name ∈ names, name ≠ "")
    (h : ∀ name ∈ names, ∀ c ∈ name.toList, isBackslash c = false) :
    names.flatMap segmentsOf = names := by
  unfold segmentsOf
  rw [← List.filter_flatMap, flatMap_fields_eq_self h, List.filter_eq_self]
  intro name hname
  simpa using hne name hname

/-! ## PSR-4 -/

/-- A name that is one segment of a path, and one of a namespace. -/
@[mk_iff]
structure IsSegment (name : String) : Prop where
  noSlash : '/' ∉ name.toList
  noBackslash : '\\' ∉ name.toList

instance (name : String) : Decidable (IsSegment name) :=
  decidable_of_iff _ (isSegment_iff name).symm

theorem IsSegment.not_isBackslash {name : String} (h : IsSegment name) :
    ∀ c ∈ name.toList, isBackslash c = false := by
  intro c hc
  have hne : c ≠ '\\' := fun heq => h.noBackslash (heq ▸ hc)
  simpa [isBackslash] using hne

/-- All names that a unit is placed by are segments. -/
@[mk_iff]
structure UnitSite.HasSegmentNames (site : UnitSite) : Prop where
  name : IsSegment site.name
  context : IsSegment site.context
  aggregate : IsSegment site.aggregate

instance (site : UnitSite) : Decidable site.HasSegmentNames :=
  decidable_of_iff _ (site.hasSegmentNames_iff).symm

/-- The folders of a unit under PSR-4: its context, its aggregate and perhaps its kind, then the
subfolder of the first rule that applies. Empty ones are left out. -/
def psr4Folders (groupByType : Bool) (rules : List CompiledRule) (site : UnitSite) :
    List String :=
  let subfolder := ((rules.find? (·.applies site)).map (·.segments)).getD []
  ([site.context, site.aggregate] ++ (if groupByType then [site.kind.folder] else []) ++
    subfolder).filter (· ≠ "")

/-- Where a class is sought by its full name, if the namespaces below a stem are folders below a
directory: behind the stem slashes take the place of backslashes. -/
def autoloadPath? (stem fullName : String) : Option String :=
  (fullName.toList.dropPrefix? (Php.stemOf stem)).map fun rest =>
    String.ofList (rest.map fun c => if isBackslash c then '/' else c) ++ ".php"

/-- With slashes for backslashes, a namespace reads as a path. -/
theorem map_slash_joinWith {pieces : List String}
    (h : ∀ piece ∈ pieces, ∀ c ∈ piece.toList, isBackslash c = false) :
    (joinWith "\\" pieces).toList.map (fun c => if isBackslash c then '/' else c) =
      (joinWith "/" pieces).toList := by
  have hpiece : ∀ piece ∈ pieces,
      piece.toList.map (fun c => if isBackslash c then '/' else c) = piece.toList := by
    intro piece hpiece
    refine (List.map_congr_left fun c hc => ?_).trans (List.map_id _)
    rw [h piece hpiece c hc]
    rfl
  induction pieces with
  | nil => rfl
  | cons first rest ih =>
    have hrest := ih (fun piece hmem => h piece (List.mem_cons_of_mem first hmem))
      (fun piece hmem => hpiece piece (List.mem_cons_of_mem first hmem))
    have hfirst := hpiece first List.mem_cons_self
    cases rest with
    | nil => exact hfirst
    | cons second others =>
      have hjoin (separator : String) : joinWith separator (first :: second :: others) =
          first ++ separator ++ joinWith separator (second :: others) := rfl
      simp only [hjoin, String.toList_append, List.map_append, hfirst, hrest]
      rfl

/-- A full name is joined from the segments of its namespace and the name. -/
theorem qualify_joinWith {pieces : List String} (hne : ∀ piece ∈ pieces, piece ≠ "")
    (name : String) :
    Imports.qualify (joinWith "\\" pieces) name = joinWith "\\" (pieces ++ [name]) := by
  by_cases hnil : pieces = []
  · subst hnil
    rfl
  · rw [Imports.qualify, if_neg (joinWith_ne_empty hnil hne), joinWith_append hnil (by simp)]
    rfl

theorem ne_empty_of_mem_pieces {stem : String} {folders : List String}
    (h : ∀ folder ∈ folders, folder ≠ "") :
    ∀ piece ∈ (if stem = "" then [] else [stem]) ++ folders, piece ≠ "" := by
  intro piece hpiece
  rcases List.mem_append.1 hpiece with hpiece | hpiece
  · split at hpiece
    · cases hpiece
    · rwa [List.mem_singleton.1 hpiece]
  · exact h piece hpiece

section Psr4

variable {layout : Layout} (hlayout : layout.directories = .psr4) {rules : List CompiledRule}
  {site : UnitSite}

theorem ne_empty_of_mem_psr4Folders {groupByType : Bool} :
    ∀ folder ∈ psr4Folders groupByType rules site, folder ≠ "" := by
  intro folder hfolder
  simpa using (List.mem_filter.1 hfolder).2

/-- Every folder is the context, the aggregate, that of the kind, or a segment of the first rule
that applies. -/
theorem forall_mem_psr4Folders {P : String → Prop} {groupByType : Bool} (hcontext : P site.context)
    (haggregate : P site.aggregate) (hkind : P site.kind.folder)
    (hrule : ∀ rule ∈ rules.find? (·.applies site), ∀ segment ∈ rule.segments, P segment) :
    ∀ folder ∈ psr4Folders groupByType rules site, P folder := by
  let layout : Layout := { directories := .psr4, groupByType, stem := "" }
  have hfolders : layout.folders (rules.find? (·.applies site)) site =
      psr4Folders groupByType rules site := rfl
  rw [← hfolders]
  exact Layout.forall_mem_folders hcontext haggregate hkind hrule

include hlayout

theorem folders_eq_psr4Folders :
    layout.folders (rules.find? (·.applies site)) site =
      psr4Folders layout.groupByType rules site := by
  rw [Layout.folders, hlayout]
  rfl

/-- Under PSR-4 the namespace is the root namespace and the folders. -/
theorem namespaceName_psr4 :
    (layout.place rules site).namespaceName =
      joinWith "\\" ((if layout.stem = "" then [] else [layout.stem]) ++
        psr4Folders layout.groupByType rules site) := by
  have hfolders : (psr4Folders layout.groupByType rules site).filter (· ≠ "") =
      psr4Folders layout.groupByType rules site := by
    rw [psr4Folders, List.filter_filter]
    simp
  have hplace : (layout.place rules site).namespaceName = joinWith "\\"
      ((layout.stem :: psr4Folders layout.groupByType rules site).filter (· ≠ "")) := by
    rw [Layout.place, Layout.namespaceOf, hlayout, folders_eq_psr4Folders hlayout]
  rw [hplace, List.filter_cons, hfolders]
  by_cases hstem : layout.stem = "" <;> simp [hstem]

/-- Under PSR-4 the path is the folders and the name of the class. -/
theorem path_psr4 :
    (layout.place rules site).path =
      joinWith "/" (psr4Folders layout.groupByType rules site ++
        [(layout.place rules site).finalName ++ ".php"]) := by
  rw [← folders_eq_psr4Folders hlayout]
  rfl

/-- The folders of a unit can be read off its namespace. -/
theorem segmentsOf_namespaceName
    (hfolders : ∀ folder ∈ psr4Folders layout.groupByType rules site, IsSegment folder) :
    segmentsOf (layout.place rules site).namespaceName =
      segmentsOf layout.stem ++ psr4Folders layout.groupByType rules site := by
  have hself : (psr4Folders layout.groupByType rules site).flatMap segmentsOf =
      psr4Folders layout.groupByType rules site :=
    flatMap_segmentsOf_eq_self ne_empty_of_mem_psr4Folders
      fun folder hfolder => (hfolders folder hfolder).not_isBackslash
  have hstem : (if layout.stem = "" then [] else [layout.stem]).flatMap segmentsOf =
      segmentsOf layout.stem := by
    by_cases hempty : layout.stem = ""
    · rw [if_pos hempty, hempty]
      decide
    · rw [if_neg hempty, List.flatMap_singleton]
  rw [namespaceName_psr4 hlayout, segmentsOf_joinWith, List.flatMap_append, hstem, hself]

/-- The folders of a unit and its name can be read off its path. -/
theorem parts_path_psr4
    (hfolders : ∀ folder ∈ psr4Folders layout.groupByType rules site, IsSegment folder)
    (hname : IsSegment (layout.place rules site).finalName) :
    Path.parts (layout.place rules site).path = psr4Folders layout.groupByType rules site ++
      [(layout.place rules site).finalName ++ ".php"] := by
  rw [path_psr4 hlayout, Path.parts_joinWith (by simp)]
  refine flatMap_fields_eq_self fun piece hpiece c hc => beq_eq_false_iff_ne.2 ?_
  rintro rfl
  rcases List.mem_append.1 hpiece with hpiece | hpiece
  · exact (hfolders piece hpiece).noSlash hc
  · rw [List.mem_singleton.1 hpiece, String.toList_append, List.mem_append] at hc
    rcases hc with hc | hc
    · exact hname.noSlash hc
    · exact absurd hc (by decide)

/-- The class is found under its full name. -/
theorem autoloadPath?_place
    (hfolders : ∀ folder ∈ psr4Folders layout.groupByType rules site, IsSegment folder)
    (hname : IsSegment (layout.place rules site).finalName) :
    autoloadPath? layout.stem (Imports.qualify (layout.place rules site).namespaceName
      (layout.place rules site).finalName) = some (layout.place rules site).path := by
  let below := psr4Folders layout.groupByType rules site ++ [(layout.place rules site).finalName]
  have hfull : (Imports.qualify (layout.place rules site).namespaceName
      (layout.place rules site).finalName).toList =
        Php.stemOf layout.stem ++ (joinWith "\\" below).toList := by
    rw [namespaceName_psr4 hlayout,
      qualify_joinWith (ne_empty_of_mem_pieces ne_empty_of_mem_psr4Folders), List.append_assoc]
    by_cases hstem : layout.stem = ""
    · rw [if_pos hstem, Php.stemOf, if_pos hstem]
      rfl
    · rw [if_neg hstem, Php.stemOf, if_neg hstem, joinWith_append (by simp) (by simp)]
      simp [joinWith, below]
  have hbelow : ∀ piece ∈ below, ∀ c ∈ piece.toList, isBackslash c = false := by
    intro piece hpiece
    rcases List.mem_append.1 hpiece with hpiece | hpiece
    · exact (hfolders piece hpiece).not_isBackslash
    · rw [List.mem_singleton.1 hpiece]
      exact hname.not_isBackslash
  have hpath : (layout.place rules site).path = joinWith "/" below ++ ".php" := by
    rw [path_psr4 hlayout, joinWith_concat, joinWith_concat, String.append_assoc]
  rw [autoloadPath?, hfull, List.dropPrefix?_append_of_beq _ (by simp), Option.map_some,
    map_slash_joinWith hbelow, String.ofList_toList, hpath]

end Psr4

theorem isSegment_of_mem_segments {rule : PathRule} {segment : String}
    (h : segment ∈ rule.segments) : IsSegment segment :=
  ⟨not_slash_of_mem_segments h, fun hmem =>
    absurd (not_isBackslash_of_mem_segments h '\\' hmem) (by decide)⟩

namespace UnitSite.HasSegmentNames

variable {site : UnitSite} (hsite : site.HasSegmentNames)

include hsite

theorem isSegment_finalName (layout : Layout) (rules : List CompiledRule) :
    IsSegment (layout.place rules site).finalName :=
  ⟨fun hmem => hsite.name.noSlash (Layout.mem_of_mem_finalName hmem),
    fun hmem => hsite.name.noBackslash (Layout.mem_of_mem_finalName hmem)⟩

/-- If names are segments, so is every folder. -/
theorem isSegment_folder [PatternLanguage] (groupByType : Bool) {rules : List CompiledRule}
    (hrules : ∃ pathRules, (compileRules pathRules).1 = rules) :
    ∀ folder ∈ psr4Folders groupByType rules site, IsSegment folder := by
  obtain ⟨pathRules, rfl⟩ := hrules
  have hkind : IsSegment site.kind.folder := by cases site.kind <;> decide
  refine forall_mem_psr4Folders hsite.context hsite.aggregate hkind ?_
  intro rule hrule segment hsegment
  obtain ⟨source, -, hsegments⟩ :=
    exists_rule_of_mem_compileRulesFrom (List.mem_of_find?_eq_some hrule)
  exact isSegment_of_mem_segments (hsegments ▸ hsegment)

end UnitSite.HasSegmentNames

/-- The path and the namespace of a unit tell the same folders. -/
structure Layout.FollowsPsr4 (layout : Layout) (rules : List CompiledRule) (site : UnitSite) :
    Prop where
  namespaceName : (layout.place rules site).namespaceName =
    joinWith "\\" ((if layout.stem = "" then [] else [layout.stem]) ++
      psr4Folders layout.groupByType rules site)
  path : (layout.place rules site).path =
    (if psr4Folders layout.groupByType rules site = [] then ""
      else joinWith "/" (psr4Folders layout.groupByType rules site) ++ "/") ++
        (layout.place rules site).finalName ++ ".php"
  autoload : autoloadPath? layout.stem (Imports.qualify (layout.place rules site).namespaceName
    (layout.place rules site).finalName) = some (layout.place rules site).path

/-- **With PSR-4, paths and full names correspond.** Whatever the rules are, if the names of a unit
are segments then its folders are those of its namespace below the stem, so that its class is found
at its path. Two such units have the same path exactly if they have the same full name. -/
theorem place_psr4 [PatternLanguage] (layout : Layout) (hlayout : layout.directories = .psr4)
    {rules : List CompiledRule} (hrules : ∃ pathRules, (compileRules pathRules).1 = rules)
    {site : UnitSite} (hsite : site.HasSegmentNames) :
    layout.FollowsPsr4 rules site ∧
    ∀ other : UnitSite, other.HasSegmentNames →
      ((layout.place rules site).path = (layout.place rules other).path ↔
        (layout.place rules site).namespaceName = (layout.place rules other).namespaceName ∧
        (layout.place rules site).finalName = (layout.place rules other).finalName) := by
  have hfolders := hsite.isSegment_folder layout.groupByType hrules
  have hname := hsite.isSegment_finalName layout rules
  refine ⟨⟨namespaceName_psr4 hlayout, ?_, autoloadPath?_place hlayout hfolders hname⟩, ?_⟩
  · rw [path_psr4 hlayout, joinWith_concat, String.append_assoc]
  · intro other hother
    have hfolders' := hother.isSegment_folder layout.groupByType hrules
    have hname' := hother.isSegment_finalName layout rules
    constructor
    · intro hpath
      have hparts := congrArg Path.parts hpath
      rw [parts_path_psr4 hlayout hfolders hname,
        parts_path_psr4 hlayout hfolders' hname'] at hparts
      obtain ⟨hsame, hfile⟩ := List.append_inj' hparts rfl
      refine ⟨by rw [namespaceName_psr4 hlayout, namespaceName_psr4 hlayout, hsame], ?_⟩
      exact (String.append_left_inj ".php").1 (List.singleton_inj.1 hfile)
    · rintro ⟨hnamespace, hsame⟩
      have hsegments := congrArg segmentsOf hnamespace
      rw [segmentsOf_namespaceName hlayout hfolders,
        segmentsOf_namespaceName hlayout hfolders'] at hsegments
      rw [path_psr4 hlayout, path_psr4 hlayout, List.append_cancel_left hsegments, hsame]

/-- PSR-4 with a folder for every kind of unit. -/
def groupedByKind : Layout :=
  { directories := .psr4, groupByType := true, stem := "App\\Models" }

/-- Events lose the ending of their name and go to a folder in a folder. -/
def eventRules : List CompiledRule :=
  (compileRules [
    { pattern := "Event$", subfolder := "Core/ Events\\", strip := some "Event$" }]).1

/-- An event of a context, with no name for its aggregate. -/
def placedEvent : UnitSite :=
  { name := "PlacedEvent", kind := .entity, context := "Sales", aggregate := "" }

/-- The same event with the two names exchanged, so that it goes to the same place. -/
def unboundEvent : UnitSite :=
  { name := "PlacedEvent", kind := .entity, context := "", aggregate := "Sales" }

/-- Both events go to one file, since their classes have one namespace and one name. -/
theorem place_psr4_placedEvent :
    groupedByKind.directories = .psr4 ∧ (∃ pathRules, (compileRules pathRules).1 = eventRules) ∧
    placedEvent.HasSegmentNames ∧ unboundEvent.HasSegmentNames ∧
    groupedByKind.FollowsPsr4 eventRules placedEvent ∧
    ((groupedByKind.place eventRules placedEvent).path =
        (groupedByKind.place eventRules unboundEvent).path ↔
      (groupedByKind.place eventRules placedEvent).namespaceName =
          (groupedByKind.place eventRules unboundEvent).namespaceName ∧
        (groupedByKind.place eventRules placedEvent).finalName =
          (groupedByKind.place eventRules unboundEvent).finalName) ∧
    (groupedByKind.place eventRules unboundEvent).path = "Sales/Entity/Core/Events/Placed.php" := by
  have hrules : ∃ pathRules, (compileRules pathRules).1 = eventRules := ⟨_, rfl⟩
  have hplaced : placedEvent.HasSegmentNames := by decide
  have hunbound : unboundEvent.HasSegmentNames := by decide
  obtain ⟨hfollows, hunique⟩ := place_psr4 groupedByKind rfl hrules hplaced
  exact ⟨rfl, hrules, hplaced, hunbound, hfollows, hunique unboundEvent hunbound,
    by decide +kernel⟩

/-! ## Valid namespaces -/

/-- The global namespace, or identifiers with backslashes between them. -/
def IsNamespace (name : String) : Prop :=
  name = "" ∨ ∀ segment ∈ fields isBackslash name, Naming.isIdentifier segment = true

instance (name : String) : Decidable (IsNamespace name) :=
  inferInstanceAs (Decidable (_ ∨ _))

/-- A namespace without a fault has identifiers for segments. -/
theorem segmentFault?_eq_none_iff {segments : List String} :
    segmentFault? segments = none ↔
      ∀ segment ∈ segments, Naming.isIdentifier segment = true := by
  induction segments with
  | nil => simp [segmentFault?]
  | cons segment rest ih =>
    rw [segmentFault?, List.forall_mem_cons, ← ih]
    by_cases hempty : segment = ""
    · subst hempty
      have hnot : Naming.isIdentifier "" = false := rfl
      simp [hnot]
    · cases Naming.isIdentifier segment <;> simp [hempty]

/-- The stem is examined completely. -/
theorem namespaceFault?_eq_none_iff {name : String} :
    namespaceFault? name = none ↔ IsNamespace name := by
  unfold namespaceFault? IsNamespace
  by_cases hempty : name = ""
  · simp [hempty]
  · rw [if_neg hempty, segmentFault?_eq_none_iff, or_iff_right hempty]

theorem isNamespace_joinWith_iff {pieces : List String} (hne : ∀ piece ∈ pieces, piece ≠ "") :
    IsNamespace (joinWith "\\" pieces) ↔ ∀ piece ∈ pieces, IsNamespace piece := by
  by_cases hnil : pieces = []
  · subst hnil
    simp [IsNamespace, joinWith]
  · have hpieces : (∀ piece ∈ pieces, IsNamespace piece) ↔
        ∀ piece ∈ pieces, ∀ segment ∈ fields isBackslash piece,
          Naming.isIdentifier segment = true :=
      forall₂_congr fun piece hpiece => or_iff_right (hne piece hpiece)
    rw [IsNamespace, or_iff_right (joinWith_ne_empty hnil hne),
      fields_joinWith (c := '\\') rfl rfl hnil, hpieces]
    simp only [List.mem_flatMap, forall_exists_index, and_imp]
    exact ⟨fun h piece hpiece segment hsegment => h segment piece hpiece hsegment,
      fun h segment piece hpiece hsegment => h piece hpiece segment hsegment⟩

theorem isNamespace_iff_isIdentifier {name : String} (hne : name ≠ "")
    (h : ∀ c ∈ name.toList, isBackslash c = false) :
    IsNamespace name ↔ Naming.isIdentifier name = true := by
  rw [IsNamespace, or_iff_right hne, fields_eq_singleton h, List.forall_mem_singleton]

theorem ne_empty_of_mem_segments {rule : PathRule} {segment : String}
    (h : segment ∈ rule.segments) : segment ≠ "" := by
  unfold PathRule.segments at h
  obtain ⟨piece, hpiece, rfl⟩ := List.mem_map.1 h
  have hne : piece ≠ [] := by simpa using (List.mem_filter.1 hpiece).2
  intro hempty
  exact hne (by simpa using congrArg String.toList hempty)

/-- Where namespaces follow folders, the segments of the subfolder that a unit goes to are
identifiers. -/
def UnitSite.SubfolderIsNamespace [PatternLanguage] (settings : Settings) (site : UnitSite) :
    Prop :=
  settings.directoryStructure = .psr4 →
    ∀ rule ∈ (compileRules settings.pathRules).1.find? (·.applies site),
      ∀ segment ∈ rule.segments, Naming.isIdentifier segment = true

namespace UnitSite.HasIdentifierNames

variable {site : UnitSite} (hsite : site.HasIdentifierNames)

include hsite

theorem hasSegmentNames : site.HasSegmentNames := by
  have hword {name : String} (h : IsWord name) : IsSegment name :=
    ⟨h.not_mem (by decide), h.not_mem (by decide)⟩
  exact ⟨hword hsite.isPlain.name, hword hsite.isPlain.context, hword hsite.isPlain.aggregate⟩

/-- Only the subfolder of a rule can be a folder that is no identifier. -/
theorem forall_isIdentifier_iff [PatternLanguage] (groupByType : Bool) (pathRules : List PathRule) :
    (∀ folder ∈ psr4Folders groupByType (compileRules pathRules).1 site,
        Naming.isIdentifier folder = true) ↔
      ∀ rule ∈ (compileRules pathRules).1.find? (·.applies site),
        ∀ segment ∈ rule.segments, Naming.isIdentifier segment = true := by
  constructor
  · intro h rule hrule segment hsegment
    obtain ⟨source, -, hsegments⟩ :=
      exists_rule_of_mem_compileRulesFrom (List.mem_of_find?_eq_some hrule)
    have hne : segment ≠ "" := ne_empty_of_mem_segments (hsegments ▸ hsegment)
    refine h segment (List.mem_filter.2 ⟨List.mem_append_right _ ?_, by simpa using hne⟩)
    rw [Option.mem_def.1 hrule]
    exact hsegment
  · intro h
    have hkind : Naming.isIdentifier site.kind.folder = true := by cases site.kind <;> decide
    exact forall_mem_psr4Folders hsite.context hsite.aggregate hkind h

/-- Under valid settings, only the subfolder of a rule can spoil a namespace. -/
theorem isNamespace_placement_iff [PatternLanguage] {settings : Settings}
    (hvalid : settings.fault? = none) :
    IsNamespace (site.placement settings).namespaceName ↔ site.SubfolderIsNamespace settings := by
  have hstem : IsNamespace settings.namespaceStem :=
    namespaceFault?_eq_none_iff.1 (Settings.fault?_eq_none_iff.1 hvalid).1
  by_cases hpsr4 : settings.directoryStructure = .psr4
  · let layout := Layout.ofSettings settings
    let rules := (compileRules settings.pathRules).1
    have hfolders := hsite.hasSegmentNames.isSegment_folder layout.groupByType
      ⟨settings.pathRules, rfl⟩
    have hpieces : ∀ piece ∈ (if layout.stem = "" then [] else [layout.stem]),
        IsNamespace piece := by
      intro piece hpiece
      split at hpiece
      · cases hpiece
      · rw [List.mem_singleton.1 hpiece]
        exact hstem
    calc IsNamespace (site.placement settings).namespaceName
      _ ↔ ∀ folder ∈ psr4Folders layout.groupByType rules site, IsNamespace folder := by
        rw [UnitSite.placement, namespaceName_psr4 hpsr4,
          isNamespace_joinWith_iff (ne_empty_of_mem_pieces ne_empty_of_mem_psr4Folders),
          List.forall_mem_append, and_iff_right hpieces]
      _ ↔ ∀ folder ∈ psr4Folders layout.groupByType rules site,
          Naming.isIdentifier folder = true :=
        forall₂_congr fun folder hfolder => isNamespace_iff_isIdentifier
          (ne_empty_of_mem_psr4Folders folder hfolder) (hfolders folder hfolder).not_isBackslash
      _ ↔ site.SubfolderIsNamespace settings := by
        rw [hsite.forall_isIdentifier_iff, UnitSite.SubfolderIsNamespace, forall_prop_of_true hpsr4]
  · rw [site.namespaceName_placement hpsr4]
    exact iff_of_true hstem fun h => absurd h hpsr4

end UnitSite.HasIdentifierNames

theorem UnitPlan.IsFor.site_eq [PatternLanguage] {model : Model} {settings : Settings}
    {plan : UnitPlan} {declared : DeclaredUnit} (h : plan.IsFor model settings declared) :
    plan.site = declared.site := by
  rw [UnitPlan.site, h.name, h.kind, h.context, h.aggregate]
  rfl

/-- **A namespace is valid exactly if the subfolder is.** In a model whose names are identifiers,
and with valid settings, the namespace of a unit is valid unless namespaces follow folders and the
rule for the unit has a segment that is no identifier. -/
theorem namespaces_valid_iff [PatternLanguage] {model : Model}
    (hnames : model.hasIdentifierNames = true) {settings : Settings}
    (hvalid : settings.fault? = none) :
    ∃ found, prepare model settings = .ok found ∧
      List.Forall₂ (fun plan declared => IsNamespace plan.placement.namespaceName ↔
        declared.site.SubfolderIsNamespace settings) found.plans model.declarations := by
  refine ⟨prepared model settings, prepare_eq_ok model settings, ?_⟩
  have hplans : ∀ plan ∈ (prepared model settings).plans, plan.site.HasIdentifierNames := by
    intro plan hplan
    rw [plans_prepared] at hplan
    exact Model.hasIdentifierNames_of_mem_plans hnames hplan
  refine ((List.forall₂_and_left _ _).2 ⟨hplans, forall₂_plans model settings⟩).imp ?_
  rintro plan declared ⟨hsite, hfor⟩
  rw [hfor.site_eq] at hsite
  rw [hfor.placement]
  exact hsite.isNamespace_placement_iff hvalid

/-- An order and an event. -/
def salesEvents : Model :=
  { contexts := [{
      name := "Sales"
      aggregates := [{
        name := "Order"
        entities := [{ name := "Order" }, { name := "PlacedEvent" }] }] }] }

/-- Settings that keep events apart. -/
def eventsApart : Settings :=
  { directoryStructure := .psr4
    pathRules := [{ pattern := "Event$", subfolder := "domain-events" }] }

theorem namespaces_valid_iff_salesEvents :
    salesEvents.hasIdentifierNames = true ∧ eventsApart.fault? = none ∧
    ∃ found, prepare salesEvents eventsApart = .ok found ∧
      List.Forall₂ (fun plan declared => IsNamespace plan.placement.namespaceName ↔
        declared.site.SubfolderIsNamespace eventsApart) found.plans salesEvents.declarations := by
  have hnames : salesEvents.hasIdentifierNames = true := by decide +kernel
  have hvalid : eventsApart.fault? = none := by decide +kernel
  exact ⟨hnames, hvalid, namespaces_valid_iff hnames hvalid⟩

/-- A subfolder that is no identifier becomes part of a namespace. -/
theorem namespaces_spoiled :
    salesEvents.hasIdentifierNames = true ∧ eventsApart.fault? = none ∧
    (∃ found, prepare salesEvents eventsApart = .ok found ∧
      found.plans.map (·.placement.namespaceName) =
        ["App\\Models\\Sales\\Order", "App\\Models\\Sales\\Order\\domain-events"]) ∧
    ¬ IsNamespace "App\\Models\\Sales\\Order\\domain-events" := by
  refine ⟨by decide +kernel, by decide +kernel, ⟨_, prepare_eq_ok _ _, ?_⟩, by decide +kernel⟩
  rw [plans_prepared]
  decide +kernel

end DomainForge
