import DomainForge.Files.Path
import DomainForge.Pattern.Language
import DomainForge.Proofs.Generation
import DomainForge.Settings.Validation
import DomainForge.Source.Parser

/-!
# Where files go

A file is written at its path below the output directory, so a path that is absolute, or that has
`..` among its parts, leads out of that directory (`Path.StaysBelow`). Valid settings have no path
rule that does this. The other parts of a path are names of the model, which nothing examines: a
context that is called `..` puts its units above the output directory (`files_leave_output`).

Which names keep a file below the output directory is said by `NamesStayBelow`, and nothing less
will do (`files_stayBelow_iff`).
-/

namespace DomainForge

open Text

/-! ## Parts of paths -/

namespace Path

/-- A path that leads below the directory that it is joined to. -/
structure StaysBelow (path : String) : Prop where
  relative : isAbsolute path.toList = false
  noAscent : ".." ∉ parts path

theorem parts_joinWith {pieces : List String} (hne : pieces ≠ []) :
    parts (joinWith "/" pieces) = pieces.flatMap parts :=
  fields_joinWith (c := '/') rfl rfl hne

theorem parts_eq_singleton {name : String} (h : '/' ∉ name.toList) : parts name = [name] := by
  refine fields_eq_singleton fun c hc => beq_eq_false_iff_ne.2 ?_
  rintro rfl
  exact h hc

/-- The last part of a file's name has its ending, so it is not `..`. -/
theorem ascent_mem_parts_file (name : String) :
    ".." ∈ parts (name ++ ".php") ↔ ".." ∈ (parts name).dropLast := by
  obtain ⟨last, hlast⟩ := exists_splitWhere_append (p := (· == '/')) name.toList
    (t := ".php".toList) (by simp)
  have hparts : parts (name ++ ".php") =
      (parts name).dropLast ++ [String.ofList (last ++ ".php".toList)] := by
    rw [parts, fields, String.toList_append, hlast, List.map_append, List.map_dropLast]
    rfl
  have hfile : ".." ≠ String.ofList (last ++ ".php".toList) := by
    intro heq
    have hlength : 2 = last.length + 4 := by
      simpa using congrArg (fun text => text.toList.length) heq
    omega
  rw [hparts, List.mem_append, List.mem_singleton, or_iff_left hfile]

theorem isAbsolute_file (name : String) :
    isAbsolute (name ++ ".php").toList = isAbsolute name.toList := by
  rw [String.toList_append]
  cases name.toList with
  | nil => rfl
  | cons c rest => rfl

/-- A joined path starts as its first piece does. -/
theorem isAbsolute_joinWith {first : String} (hne : first ≠ "") (rest : List String) :
    isAbsolute (joinWith "/" (first :: rest)).toList = isAbsolute first.toList := by
  obtain ⟨tail, htail⟩ := toList_joinWith_cons "/" first rest
  have hnil : first.toList ≠ [] := fun hnil => hne (String.toList_injective hnil)
  rw [htail, isAbsolute, isAbsolute, List.head?_append_of_ne_nil _ hnil]

/-- Whether the path of a file stays below, by its folders and its name. -/
theorem staysBelow_joinWith_iff {folders : List String} (hne : ∀ folder ∈ folders, folder ≠ "")
    (name : String) :
    StaysBelow (joinWith "/" (folders ++ [name ++ ".php"])) ↔
      (∀ folder ∈ folders, ".." ∉ parts folder) ∧ ".." ∉ (parts name).dropLast ∧
        ∀ first ∈ (folders ++ [name]).head?, isAbsolute first.toList = false := by
  have hparts : ".." ∉ parts (joinWith "/" (folders ++ [name ++ ".php"])) ↔
      (∀ folder ∈ folders, ".." ∉ parts folder) ∧ ".." ∉ (parts name).dropLast := by
    rw [parts_joinWith (by simp), List.flatMap_append, List.mem_append, not_or,
      List.flatMap_singleton, ascent_mem_parts_file]
    simp [List.mem_flatMap]
  have hfirst : isAbsolute (joinWith "/" (folders ++ [name ++ ".php"])).toList = false ↔
      ∀ first ∈ (folders ++ [name]).head?, isAbsolute first.toList = false := by
    cases folders with
    | nil =>
      have hjoin : joinWith "/" [name ++ ".php"] = name ++ ".php" := rfl
      rw [List.nil_append, hjoin, isAbsolute_file]
      simp
    | cons folder rest =>
      rw [List.cons_append, isAbsolute_joinWith (hne folder List.mem_cons_self)]
      simp
  constructor
  · rintro ⟨hrelative, hascent⟩
    exact ⟨(hparts.1 hascent).1, (hparts.1 hascent).2, hfirst.1 hrelative⟩
  · rintro ⟨hfolders, hname, hstart⟩
    exact ⟨hfirst.2 hstart, hparts.2 ⟨hfolders, hname⟩⟩

end Path

/-! ## Folders -/

theorem not_slash_of_mem_segments {rule : PathRule} {segment : String}
    (h : segment ∈ rule.segments) : '/' ∉ segment.toList :=
  fun hslash => absurd (not_divider_of_mem_segments h '/' hslash) (by decide)

theorem Settings.fault?_eq_none_iff {settings : Settings} :
    settings.fault? = none ↔ namespaceFault? settings.namespaceStem = none ∧
      ∀ rule ∈ settings.pathRules, rule.fault? = none := by
  unfold Settings.fault?
  split
  · rename_i fault hfault
    simp [hfault]
  · rename_i hnone
    simp [hnone, List.findSome?_eq_none_iff]

section Valid

variable {settings : Settings} (hvalid : settings.fault? = none)

include hvalid

theorem not_ascent_of_mem_pathRules {rule : PathRule} (h : rule ∈ settings.pathRules) :
    ".." ∉ rule.segments := by
  have hrule := (Settings.fault?_eq_none_iff.1 hvalid).2 rule h
  intro hmem
  rw [PathRule.fault?, if_pos (by simpa using hmem)] at hrule
  cases hrule

/-- The subfolder of a rule that has been read does not lead up. -/
theorem not_ascent_of_mem_compileRules [PatternLanguage] {rule : CompiledRule}
    (h : rule ∈ (compileRules settings.pathRules).1) {segment : String}
    (hsegment : segment ∈ rule.segments) : ".." ∉ Path.parts segment := by
  obtain ⟨source, hsource, hsegments⟩ := exists_rule_of_mem_compileRulesFrom h
  rw [hsegments] at hsegment
  rw [Path.parts_eq_singleton (not_slash_of_mem_segments hsegment), List.mem_singleton]
  rintro rfl
  exact not_ascent_of_mem_pathRules hvalid hsource hsegment

/-- Only the folders of the directory structure may lead up. -/
theorem forall_folders_iff [PatternLanguage] {rule : Option CompiledRule}
    (hrule : ∀ found ∈ rule, found ∈ (compileRules settings.pathRules).1) (site : UnitSite) :
    (∀ folder ∈ (Layout.ofSettings settings).folders rule site, ".." ∉ Path.parts folder) ↔
      ∀ folder ∈ settings.directoryStructure.folders site, ".." ∉ Path.parts folder := by
  constructor
  · intro h folder hfolder
    by_cases hempty : folder = ""
    · subst hempty
      decide
    · refine h folder (List.mem_filter.2 ⟨?_, by simpa using hempty⟩)
      exact List.mem_append_left _ (List.mem_append_left _ hfolder)
  · intro h folder hfolder
    rcases List.mem_append.1 (List.mem_filter.1 hfolder).1 with hfolder | hsegment
    · rcases List.mem_append.1 hfolder with hfolder | hkind
      · exact h folder hfolder
      · split at hkind
        · rw [List.mem_singleton.1 hkind]
          cases site.kind <;> decide
        · cases hkind
    · cases rule with
      | none => cases hsegment
      | some found => exact not_ascent_of_mem_compileRules hvalid (hrule found rfl) hsegment

end Valid

/-! ## Files -/

namespace DeclaredUnit

variable [PatternLanguage] (settings : Settings) (declared : DeclaredUnit)

/-- The folders of the file of a unit. -/
def folders : List String :=
  (Layout.ofSettings settings).folders
    ((compileRules settings.pathRules).1.find? (·.applies declared.site)) declared.site

/-- The names of a unit, and of what it is declared in, keep its file below the output directory:
no name that becomes a folder has `..` among its parts, nor has the name of the file before its last
slash, and what comes first in the path does not start with a slash. -/
structure NamesStayBelow : Prop where
  folders : ∀ folder ∈ settings.directoryStructure.folders declared.site, ".." ∉ Path.parts folder
  name : ".." ∉ (Path.parts (declared.placement settings).finalName).dropLast
  first : ∀ first ∈ (declared.folders settings ++ [(declared.placement settings).finalName]).head?,
    Path.isAbsolute first.toList = false

variable {settings}

/-- Under valid settings, only names can lead out of the output directory. -/
theorem staysBelow_placement_iff (hvalid : settings.fault? = none) :
    Path.StaysBelow (declared.placement settings).path ↔ declared.NamesStayBelow settings := by
  have hne : ∀ folder ∈ declared.folders settings, folder ≠ "" := Layout.ne_empty_of_mem_folders
  have hfolders : (∀ folder ∈ declared.folders settings, ".." ∉ Path.parts folder) ↔
      ∀ folder ∈ settings.directoryStructure.folders declared.site, ".." ∉ Path.parts folder :=
    forall_folders_iff hvalid (fun _ hfound => List.mem_of_find?_eq_some hfound) declared.site
  have hpath : (declared.placement settings).path =
      joinWith "/" (declared.folders settings ++
        [(declared.placement settings).finalName ++ ".php"]) := rfl
  rw [hpath, Path.staysBelow_joinWith_iff hne]
  constructor
  · rintro ⟨habove, hname, hfirst⟩
    exact ⟨hfolders.1 habove, hname, hfirst⟩
  · rintro ⟨habove, hname, hfirst⟩
    exact ⟨hfolders.2 habove, hname, hfirst⟩

end DeclaredUnit

/-- **A file stays below the output directory exactly if its names keep it there.** The settings
only have to be valid. -/
theorem files_stayBelow_iff [PatternLanguage] (model : Model) {settings : Settings}
    (hvalid : settings.fault? = none) :
    ∃ found files, prepare model settings = .ok found ∧ found.files = .ok files ∧
      List.Forall₂ (fun declared file =>
        Path.StaysBelow file.path ↔ DeclaredUnit.NamesStayBelow settings declared)
        model.declarations files := by
  refine ⟨prepared model settings, _, prepare_eq_ok model settings, files_prepared model settings,
    ?_⟩
  rw [List.forall₂_map_right_iff, List.forall₂_same]
  intro declared _
  exact declared.staysBelow_placement_iff hvalid

/-- A context that is called `..`, with an entity. -/
def contextAbove : String :=
  "BoundedContext .. \x7b\nAggregate Order \x7b\nEntity Order \x7b\n\x7d\n\x7d\n\x7d"

/-- Settings with a folder for every context, and with a path rule. -/
def foldersByContext : Settings :=
  { directoryStructure := .byContext
    pathRules := [{ pattern := "Line$", subfolder := "Order/Lines" }] }

theorem files_stayBelow_iff_contextAbove :
    foldersByContext.fault? = none ∧
    ∃ found files, prepare (Source.parse contextAbove) foldersByContext = .ok found ∧
      found.files = .ok files ∧
      List.Forall₂ (fun declared file =>
        Path.StaysBelow file.path ↔ DeclaredUnit.NamesStayBelow foldersByContext declared)
        (Source.parse contextAbove).declarations files := by
  have hvalid : foldersByContext.fault? = none := by decide +kernel
  exact ⟨hvalid, files_stayBelow_iff _ hvalid⟩

/-- An entity whose name starts at the root. -/
def entityAtRoot : String :=
  "BoundedContext Sales \x7b\nAggregate A \x7b\nEntity /tmp/Order \x7b\n\x7d\n\x7d\n\x7d"

/-- Every path that is planned is that of a file. -/
theorem exists_file_of_path [PatternLanguage] {model : Model} {settings : Settings} {path : String}
    (h : path ∈ model.declarations.map fun declared => (declared.placement settings).path) :
    ∃ found files file, prepare model settings = .ok found ∧ found.files = .ok files ∧
      file ∈ files ∧ file.path = path := by
  obtain ⟨declared, hdeclared, rfl⟩ := List.mem_map.1 h
  exact ⟨_, _, declared.file settings (model.registry settings), prepare_eq_ok model settings,
    files_prepared model settings, List.mem_map_of_mem hdeclared, rfl⟩

/-- A context may put the file of its entity above the output directory, and an entity may put it
anywhere, although the settings are valid. -/
theorem files_leave_output :
    Settings.fault? { directoryStructure := .byContext } = none ∧ Settings.fault? {} = none ∧
    (∃ found files file,
      prepare (Source.parse contextAbove) { directoryStructure := .byContext } = .ok found ∧
      found.files = .ok files ∧ file ∈ files ∧ file.path = "../Order.php") ∧
    ¬ Path.StaysBelow "../Order.php" ∧
    (∃ found files file, prepare (Source.parse entityAtRoot) {} = .ok found ∧
      found.files = .ok files ∧ file ∈ files ∧ file.path = "/tmp/Order.php") ∧
    ¬ Path.StaysBelow "/tmp/Order.php" := by
  refine ⟨by decide +kernel, by decide +kernel, exists_file_of_path (by decide +kernel), ?_,
    exists_file_of_path (by decide +kernel), ?_⟩
  · exact fun h => h.noAscent (by decide)
  · exact fun h => absurd h.relative (by decide)

end DomainForge
