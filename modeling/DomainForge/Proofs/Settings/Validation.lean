import DomainForge.CommandLine.Run
import DomainForge.Proofs.Namespaces

/-!
# Valid settings

`Settings.IsValid` says what is asked of settings, and `Settings.HasFault` which fault is told if
they are not valid: that of the namespace before those of path rules, and of these the first. The
search for a fault finds exactly that one (`fault?_eq_none_iff_isValid`, `fault?_eq_some_iff`).

Choices of the command line are applied to settings that have been validated already. They are
validated again only if the namespace is among them, and that is enough: the other choices are about
nothing that is asked of settings (`isValid_apply`). So a run has valid settings, whatever file they
come from and whatever is chosen on the command line (`settingsFrom_eq_ok_iff`).
-/

namespace DomainForge

open Text

/-! ## What is asked of settings -/

namespace PathRule

/-- A part of the subfolder is `..`. Parts stand between slashes and backslashes, and blanks around
them do not count. -/
def Ascends (rule : PathRule) : Prop :=
  ∃ piece ∈ splitWhere (fun c => c == '/' || c == '\\') rule.subfolder.toList,
    trim piece = "..".toList

/-- A rule whose subfolder is an absolute path. -/
def StartsAtRoot (rule : PathRule) : Prop :=
  ∃ rest, rule.subfolder.toList = '/' :: rest

/-- A rule whose subfolder lies below the output directory. -/
def IsValid (rule : PathRule) : Prop :=
  ¬ rule.StartsAtRoot ∧ ¬ rule.Ascends

end PathRule

/-- Settings that can be used: a root namespace of identifiers, and rules that stay below the output
directory. -/
structure Settings.IsValid (settings : Settings) : Prop where
  rootNamespace : IsNamespace (trimNamespace settings.rootNamespace)
  pathRules : ∀ rule ∈ settings.pathRules, rule.IsValid

/-- The first segment of a namespace that is no identifier, and what is wrong with it. -/
def IsFirstFault (segments : List String) (fault : NamespaceFault) : Prop :=
  ∃ before segment after, segments = before ++ segment :: after ∧
    (∀ earlier ∈ before, Naming.isIdentifier earlier = true) ∧
    Naming.isIdentifier segment = false ∧
    fault = if segment = "" then .emptySegment else .notIdentifier segment

/-- The fault that is told about settings. -/
inductive Settings.HasFault (settings : Settings) : SettingsFault → Prop
  | badNamespace {fault : NamespaceFault}
      (hnamespace : ¬ IsNamespace (trimNamespace settings.rootNamespace))
      (hfault : IsFirstFault
        (Text.fields isBackslash (trimNamespace settings.rootNamespace)) fault) :
      HasFault settings (.badNamespace settings.rootNamespace fault)
  | leavesOutput {before after : List PathRule} {rule : PathRule}
      (hnamespace : IsNamespace (trimNamespace settings.rootNamespace))
      (hrules : settings.pathRules = before ++ rule :: after)
      (hbefore : ∀ earlier ∈ before, earlier.IsValid) (hascends : rule.Ascends) :
      HasFault settings (.leavesOutput rule.subfolder)
  | absoluteSubfolder {before after : List PathRule} {rule : PathRule}
      (hnamespace : IsNamespace (trimNamespace settings.rootNamespace))
      (hrules : settings.pathRules = before ++ rule :: after)
      (hbefore : ∀ earlier ∈ before, earlier.IsValid) (hascends : ¬ rule.Ascends)
      (hroot : rule.StartsAtRoot) :
      HasFault settings (.absoluteSubfolder rule.subfolder)

/-! ## The search for a fault -/

theorem segmentFault?_eq_findSome? (segments : List String) :
    segmentFault? segments = segments.findSome? fun segment =>
      if Naming.isIdentifier segment then none
      else some (if segment = "" then .emptySegment else .notIdentifier segment) := by
  induction segments with
  | nil => rfl
  | cons segment rest ih =>
    rw [segmentFault?, List.findSome?_cons, ih]
    by_cases hempty : segment = ""
    · subst hempty
      have hnot : Naming.isIdentifier "" = false := rfl
      simp [hnot]
    · cases Naming.isIdentifier segment <;> simp [hempty]

/-- The fault of a namespace is that of its first segment that is no identifier. -/
theorem segmentFault?_eq_some_iff {segments : List String} {fault : NamespaceFault} :
    segmentFault? segments = some fault ↔ IsFirstFault segments fault := by
  rw [segmentFault?_eq_findSome?, List.findSome?_eq_some_iff]
  unfold IsFirstFault
  refine exists_congr fun before => exists_congr fun segment => exists_congr fun after =>
    and_congr_right fun _ => ?_
  have hbefore : (∀ earlier ∈ before, (if Naming.isIdentifier earlier then none
      else some (if earlier = "" then NamespaceFault.emptySegment else .notIdentifier earlier)) =
        none) ↔ ∀ earlier ∈ before, Naming.isIdentifier earlier = true := by
    simp
  rw [hbefore, and_comm]
  refine and_congr_right fun _ => ?_
  cases Naming.isIdentifier segment with
  | true => simp
  | false => exact ⟨fun h => ⟨rfl, (Option.some.inj h).symm⟩, fun h => congrArg some h.2.symm⟩

theorem namespaceFault?_eq_some_iff {name : String} {fault : NamespaceFault} :
    namespaceFault? name = some fault ↔
      name ≠ "" ∧ IsFirstFault (fields isBackslash name) fault := by
  unfold namespaceFault?
  by_cases hempty : name = ""
  · simp [hempty]
  · rw [if_neg hempty, segmentFault?_eq_some_iff]
    simp [hempty]

namespace PathRule

theorem contains_segments_iff (rule : PathRule) :
    rule.segments.contains ".." = true ↔ rule.Ascends := by
  unfold segments Ascends isBackslash
  rw [List.contains_iff_mem, List.mem_map]
  constructor
  · rintro ⟨part, hpart, heq⟩
    obtain ⟨piece, hpiece, rfl⟩ := List.mem_map.1 (List.mem_of_mem_filter hpart)
    exact ⟨piece, hpiece, by rw [← heq, String.toList_ofList]⟩
  · rintro ⟨piece, hpiece, heq⟩
    refine ⟨trim piece, List.mem_filter.2 ⟨List.mem_map_of_mem hpiece, ?_⟩, ?_⟩
    · rw [heq]
      rfl
    · rw [heq, String.ofList_toList]

section

variable {rule : PathRule}

/-- Leaving the output directory is reported first. -/
theorem fault?_of_ascends (h : rule.Ascends) :
    rule.fault? = some (.leavesOutput rule.subfolder) :=
  if_pos (rule.contains_segments_iff.2 h)

theorem fault?_of_not_ascends (h : ¬ rule.Ascends) :
    rule.fault? = if rule.subfolder.toList.head? = some '/' then
      some (.absoluteSubfolder rule.subfolder) else none :=
  if_neg fun hcontains => h (rule.contains_segments_iff.1 hcontains)

theorem startsAtRoot_iff : rule.StartsAtRoot ↔ rule.subfolder.toList.head? = some '/' :=
  List.head?_eq_some_iff.symm

theorem fault?_eq_none_iff : rule.fault? = none ↔ rule.IsValid := by
  unfold IsValid
  rw [startsAtRoot_iff]
  by_cases hascends : rule.Ascends
  · simp [fault?_of_ascends hascends, hascends]
  · simp [fault?_of_not_ascends hascends, hascends]

/-- What is told about a rule: that it leaves the output directory comes first. -/
theorem fault?_eq_some_iff {fault : SettingsFault} :
    rule.fault? = some fault ↔
      (rule.Ascends ∧ fault = .leavesOutput rule.subfolder) ∨
      (¬ rule.Ascends ∧ rule.StartsAtRoot ∧ fault = .absoluteSubfolder rule.subfolder) := by
  rw [startsAtRoot_iff]
  by_cases hascends : rule.Ascends
  · simp [fault?_of_ascends hascends, hascends, eq_comm]
  · simp [fault?_of_not_ascends hascends, hascends, eq_comm]

end

end PathRule

namespace Settings

variable {settings : Settings}

/-- Settings have no fault exactly if they are valid. -/
theorem fault?_eq_none_iff_isValid : settings.fault? = none ↔ settings.IsValid := by
  rw [fault?_eq_none_iff, namespaceStem, namespaceFault?_eq_none_iff]
  simp only [PathRule.fault?_eq_none_iff]
  exact ⟨fun h => ⟨h.1, h.2⟩, fun h => ⟨h.rootNamespace, h.pathRules⟩⟩

/-- The fault that is reported is the first one. -/
theorem fault?_eq_some_iff {fault : SettingsFault} :
    settings.fault? = some fault ↔ settings.HasFault fault := by
  unfold fault? namespaceStem
  cases hnamespace : namespaceFault? (trimNamespace settings.rootNamespace) with
  | some reason =>
    have hbad : ¬ IsNamespace (trimNamespace settings.rootNamespace) := by
      rw [← namespaceFault?_eq_none_iff, hnamespace]
      exact Option.some_ne_none reason
    constructor
    · intro hfault
      obtain rfl := Option.some.inj hfault
      exact .badNamespace hbad (namespaceFault?_eq_some_iff.1 hnamespace).2
    · intro hfault
      cases hfault with
      | badNamespace _ hfirst =>
        have hsame := namespaceFault?_eq_some_iff.2 ⟨fun hempty => hbad (.inl hempty), hfirst⟩
        rw [← Option.some.inj (hnamespace.symm.trans hsame)]
      | leavesOutput hgood => exact absurd hgood hbad
      | absoluteSubfolder hgood => exact absurd hgood hbad
  | none =>
    have hgood := namespaceFault?_eq_none_iff.1 hnamespace
    simp only [List.findSome?_eq_some_iff, PathRule.fault?_eq_none_iff]
    constructor
    · rintro ⟨before, rule, after, hrules, hfault, hbefore⟩
      rcases PathRule.fault?_eq_some_iff.1 hfault with ⟨hascends, rfl⟩ | ⟨hascends, hroot, rfl⟩
      · exact .leavesOutput hgood hrules hbefore hascends
      · exact .absoluteSubfolder hgood hrules hbefore hascends hroot
    · intro hfault
      cases hfault with
      | badNamespace hbad => exact absurd hgood hbad
      | leavesOutput _ hrules hbefore hascends =>
        exact ⟨_, _, _, hrules, PathRule.fault?_eq_some_iff.2 (.inl ⟨hascends, rfl⟩), hbefore⟩
      | absoluteSubfolder _ hrules hbefore hascends hroot =>
        exact ⟨_, _, _, hrules, PathRule.fault?_eq_some_iff.2 (.inr ⟨hascends, hroot, rfl⟩),
          hbefore⟩

theorem validate_eq_ok_iff {source fileName : String} {other : Settings} :
    settings.validate source fileName = .ok other ↔ other = settings ∧ settings.IsValid := by
  rw [← fault?_eq_none_iff_isValid, validate]
  cases settings.fault? <;> simp [eq_comm]

/-- Settings that are not valid are refused with their first fault. -/
theorem validate_eq_error_iff {source fileName : String} {error : LoadError} :
    settings.validate source fileName = .error error ↔
      ∃ fault, settings.HasFault fault ∧ error = .invalid fault source fileName := by
  simp only [← fault?_eq_some_iff]
  rw [validate]
  cases settings.fault? <;> simp [eq_comm]

end Settings

/-! ## Choices of the command line -/

namespace CommandLine.Overrides

variable {overrides : Overrides} {base settings : Settings}

/-- Settings in which the choices of the command line stand for those of other settings, and
everything else is as it was. -/
structure Yields (overrides : Overrides) (base settings : Settings) : Prop where
  framework : settings.framework = overrides.framework.getD base.framework
  phpVersion : settings.phpVersion = overrides.phpVersion.getD base.phpVersion
  directoryStructure :
    settings.directoryStructure = overrides.layout.getD base.directoryStructure
  rootNamespace : settings.rootNamespace = overrides.rootNamespace.getD base.rootNamespace
  others : { settings with
    framework := base.framework
    phpVersion := base.phpVersion
    directoryStructure := base.directoryStructure
    rootNamespace := base.rootNamespace } = base

theorem yields_iff : overrides.Yields base settings ↔ settings = overrides.apply base := by
  constructor
  · rintro ⟨hframework, hversion, hstructure, hnamespace, hothers⟩
    have hrest : settings = { base with
        framework := settings.framework
        phpVersion := settings.phpVersion
        directoryStructure := settings.directoryStructure
        rootNamespace := settings.rootNamespace } :=
      congrArg (fun found : Settings => { found with
        framework := settings.framework
        phpVersion := settings.phpVersion
        directoryStructure := settings.directoryStructure
        rootNamespace := settings.rootNamespace }) hothers
    rw [apply, ← hframework, ← hversion, ← hstructure, ← hnamespace]
    exact hrest
  · rintro rfl
    exact ⟨rfl, rfl, rfl, rfl, rfl⟩

/-- Without a namespace, the choices are about nothing that is asked of settings. -/
theorem isValid_apply (hbase : base.IsValid) (hnone : overrides.rootNamespace = none) :
    (overrides.apply base).IsValid := by
  have hnamespace : (overrides.apply base).rootNamespace = base.rootNamespace := by
    rw [apply, hnone]
    rfl
  exact ⟨hnamespace ▸ hbase.rootNamespace, hbase.pathRules⟩

/-- Settings from valid ones are accepted exactly if they are valid, whether or not they are checked
again. -/
theorem finish_eq_ok_iff (hbase : base.IsValid) :
    overrides.finish base = .ok settings ↔ overrides.Yields base settings ∧ settings.IsValid := by
  have hvalid : (settings = overrides.apply base ∧ (overrides.apply base).IsValid) ↔
      settings = overrides.apply base ∧ settings.IsValid :=
    and_congr_right fun heq => by rw [heq]
  rw [yields_iff, ← hvalid, finish]
  cases hnamespace : overrides.rootNamespace with
  | none => simp [isValid_apply hbase hnamespace, eq_comm]
  | some name => exact Settings.validate_eq_ok_iff

end CommandLine.Overrides

/-! ## Settings of a run -/

theorem Settings.isValid_default : Settings.IsValid {} :=
  fault?_eq_none_iff_isValid.1 (by decide +kernel)

/-- What a file yields is valid. -/
theorem Settings.isValid_of_load [DocumentFormat] {text path : String} {settings : Settings}
    (h : Settings.load text path = .ok settings) : settings.IsValid := by
  unfold load at h
  split at h
  · cases h
  · split at h
    · cases h
    · obtain ⟨rfl, hvalid⟩ := validate_eq_ok_iff.1 h
      exact hvalid

/-- What is found where settings are looked for: nothing, or a path with the text that can be read
there. -/
def Disk.settingsText {m : Type → Type} [Monad m] (disk : Disk m)
    (overrides : CommandLine.Overrides) : m (Option (String × Option String)) := do
  match ← disk.settingsPath? overrides with
  | none => pure none
  | some path => return some (path, ← disk.read? path)

/-- The settings before choices of the command line are applied: those of the file, and the default
ones if there is no file. -/
inductive Settings.IsLoaded [DocumentFormat] : Option (String × Option String) → Settings → Prop
  | default : IsLoaded none {}
  | file {path text : String} {settings : Settings}
      (h : Settings.load text path = .ok settings) : IsLoaded (some (path, some text)) settings

namespace CommandLine.Overrides

variable [DocumentFormat]

/-- The settings that are chosen from what has been found. -/
def settingsFrom (overrides : Overrides) :
    Option (String × Option String) → Except LoadError Settings
  | none => overrides.finish {}
  | some (path, none) => .error (.unreadable path)
  | some (path, some text) => (Settings.load text path).bind overrides.finish

/-- Settings are found exactly if those of the file, with what overrides them, are valid. -/
theorem settingsFrom_eq_ok_iff {overrides : Overrides} {found : Option (String × Option String)}
    {settings : Settings} :
    overrides.settingsFrom found = .ok settings ↔
      ∃ base, Settings.IsLoaded found base ∧ overrides.Yields base settings ∧
        settings.IsValid := by
  rcases found with - | ⟨path, - | text⟩
  · rw [settingsFrom, finish_eq_ok_iff Settings.isValid_default]
    constructor
    · exact fun h => ⟨{}, .default, h⟩
    · rintro ⟨_, ⟨⟩, h⟩
      exact h
  · refine iff_of_false (fun h => by cases h) ?_
    rintro ⟨_, ⟨⟩, -⟩
  · rw [settingsFrom]
    cases hload : Settings.load text path with
    | error fault =>
      refine iff_of_false (fun h => by cases h) ?_
      rintro ⟨_, hloaded, -⟩
      cases hloaded with
      | file hbase => cases hload.symm.trans hbase
    | ok base =>
      refine (finish_eq_ok_iff (Settings.isValid_of_load hload)).trans ⟨fun h => ?_, ?_⟩
      · exact ⟨base, .file hload, h⟩
      · rintro ⟨_, hloaded, h⟩
        cases hloaded with
        | file hbase =>
          cases hload.symm.trans hbase
          exact h

end CommandLine.Overrides

/-- The disk is asked for a text, and the rest is known from the text. -/
theorem Disk.chooseSettings_eq [DocumentFormat] {m : Type → Type} [Monad m] [LawfulMonad m]
    (disk : Disk m) (overrides : CommandLine.Overrides) :
    disk.chooseSettings overrides = overrides.settingsFrom <$> disk.settingsText overrides := by
  unfold chooseSettings settingsText
  rw [map_bind]
  refine bind_congr fun found => ?_
  cases found with
  | none => simp [CommandLine.Overrides.settingsFrom]
  | some path =>
    unfold loadSettings
    simp only [bind_assoc, map_bind]
    refine bind_congr fun text => ?_
    cases text with
    | none => simp [CommandLine.Overrides.settingsFrom]
    | some text =>
      have hfrom : overrides.settingsFrom (some (path, some text)) =
          (Settings.load text path).bind overrides.finish := rfl
      rw [pure_bind, map_pure, hfrom]
      cases Settings.load text path <;> rfl

/-- **Settings are valid or their first fault is told, and the command line does not get around
that.** A run has settings exactly if its file can be loaded and the choices of the command line,
put in the place of those of the file, leave the settings valid. -/
theorem chooseSettings_exact [DocumentFormat] {m : Type → Type} [Monad m] [LawfulMonad m]
    (disk : Disk m) (overrides : CommandLine.Overrides) :
    (∀ (settings : Settings) (source fileName : String),
      (∀ other, settings.validate source fileName = .ok other ↔
        other = settings ∧ settings.IsValid) ∧
      ∀ error, settings.validate source fileName = .error error ↔
        ∃ fault, settings.HasFault fault ∧ error = .invalid fault source fileName) ∧
    disk.chooseSettings overrides = overrides.settingsFrom <$> disk.settingsText overrides ∧
    ∀ found settings, overrides.settingsFrom found = .ok settings ↔
      ∃ base, Settings.IsLoaded found base ∧ overrides.Yields base settings ∧
        settings.IsValid :=
  ⟨fun _ _ _ => ⟨fun _ => Settings.validate_eq_ok_iff, fun _ => Settings.validate_eq_error_iff⟩,
    disk.chooseSettings_eq overrides, fun _ _ => CommandLine.Overrides.settingsFrom_eq_ok_iff⟩

/-- A disk with one text, wherever it is looked for. -/
def diskOf (text : String) : Disk Id where
  read? _ := some text
  isPresent _ := true
  makeDirectories _ := true
  write _ _ := true

/-- The file asks for Laravel and an old version. -/
def oldLaravel : String :=
  "framework = \"laravel\"\nphp_version = \"8.0\"\n"

/-- The command line asks for Doctrine and a namespace. -/
def doctrineAtAcme : CommandLine.Overrides :=
  { framework := some .doctrine, rootNamespace := some "Acme\\Domain" }

theorem chooseSettings_exact_acme :
    (diskOf oldLaravel).chooseSettings doctrineAtAcme =
      doctrineAtAcme.settingsFrom (some ("cmlgen.toml", some oldLaravel)) ∧
    ∃ settings base,
      doctrineAtAcme.settingsFrom (some ("cmlgen.toml", some oldLaravel)) = .ok settings ∧
      Settings.IsLoaded (some ("cmlgen.toml", some oldLaravel)) base ∧
      doctrineAtAcme.Yields base settings ∧ settings.IsValid ∧
      settings.framework = .doctrine ∧ settings.phpVersion = .v80 ∧
      settings.rootNamespace = "Acme\\Domain" := by
  obtain ⟨-, hchoose, hfrom⟩ := chooseSettings_exact (diskOf oldLaravel) doctrineAtAcme
  have hvalue : (doctrineAtAcme.settingsFrom (some ("cmlgen.toml", some oldLaravel))).toOption =
      some { framework := .doctrine, phpVersion := .v80, rootNamespace := "Acme\\Domain" } := by
    decide +kernel
  refine ⟨hchoose, ?_⟩
  cases hok : doctrineAtAcme.settingsFrom (some ("cmlgen.toml", some oldLaravel)) with
  | error fault =>
    rw [hok] at hvalue
    cases hvalue
  | ok settings =>
    obtain ⟨base, hbase, hyields, hvalid⟩ := (hfrom _ _).1 hok
    rw [hok] at hvalue
    obtain rfl := Option.some.inj hvalue
    exact ⟨_, base, rfl, hbase, hyields, hvalid, rfl, rfl, rfl⟩

end DomainForge
