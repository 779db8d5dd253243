import DomainForge.Settings.Schema

/-!
# Settings read back

Settings that are written as data are read back as they were. The proof goes along the records: a
record is accepted if all its keys are known and all its values can be read (`finish_eq_ok_iff`),
and a key that is left out stands for its default. So it is shown at once what any part of the
written entries is read as (`ofDatum_onlyKeys`), for Doctrine options, for path rules and for
settings, each of which writes those before it.
-/

namespace DomainForge

/-- The entries of a table. -/
def Datum.entries : Datum → List (String × Datum)
  | .table entries => entries
  | _ => []

/-- Data with only some of its entries. -/
def Datum.onlyKeys (given : String → Bool) : Datum → Datum
  | .table entries => .table (entries.filter fun entry => given entry.1)
  | found => found

theorem Datum.onlyKeys_true (found : Datum) : found.onlyKeys (fun _ => true) = found := by
  cases found with
  | table entries => rw [onlyKeys, List.filter_eq_self.2 fun _ _ => rfl]
  | _ => rfl

theorem Datum.lookup?_filter (given : String → Bool) (key : String)
    (entries : List (String × Datum)) :
    lookup? key (entries.filter fun entry => given entry.1) =
      if given key then lookup? key entries else none := by
  induction entries with
  | nil => simp [lookup?]
  | cons entry rest ih =>
    obtain ⟨name, value⟩ := entry
    by_cases hkey : name = key
    · subst hkey
      by_cases hgiven : given name = true
      · simp [lookup?, hgiven]
      · simp [ih, hgiven]
    · by_cases hgiven : given name = true <;> simp [lookup?, hgiven, hkey, ih]

theorem Datum.lookup?_append (key : String) (entries more : List (String × Datum)) :
    lookup? key (entries ++ more) = (lookup? key entries).or (lookup? key more) := by
  induction entries with
  | nil => rfl
  | cons entry rest ih =>
    obtain ⟨name, value⟩ := entry
    simp only [List.cons_append, lookup?]
    split
    · rfl
    · exact ih

theorem exists_of_bind_eq_ok {ε α β : Type} {result : Except ε α} {next : α → Except ε β}
    {last : β} (h : result >>= next = .ok last) :
    ∃ value, result = .ok value ∧ next value = .ok last := by
  cases result with
  | error fault => cases h
  | ok value => exact ⟨value, rfl, h⟩

theorem ok_bind {ε α β : Type} (value : α) (next : α → Except ε β) :
    (Except.ok value >>= next) = next value :=
  rfl

namespace Schema

/-! ## Choices and lists -/

/-- Every choice is found by its spelling. -/
def Spells {α : Type} (choices : List α) (spelling : α → String) : Prop :=
  ∀ choice, readVariant choices spelling (spelling choice) = .ok choice

/-- Items that are read back one by one are read back as a list. -/
theorem readItems_map {α : Type} {read : Datum → Except SchemaError α} {write : α → Datum}
    (h : ∀ value, read (write value) = .ok value) (values : List α) :
    readItems read (values.map write) = .ok values := by
  induction values with
  | nil => rfl
  | cons value rest ih => simp only [List.map_cons, readItems, h, ih]

/-! ## Records -/

theorem leastFault_eq_none_iff {faults : List (String × SchemaError)} :
    leastFault faults = none ↔ faults = [] := by
  cases faults with
  | nil => simp [leastFault]
  | cons fault rest =>
    simp only [leastFault]
    split
    · simp
    · split <;> simp

theorem faultOf_ok {α : Type} (key : String) (value : α) : faultOf key (.ok value) = [] :=
  rfl

namespace Record

variable {α : Type} {record : Record} {dialect : DataDialect} {fields : List String}
  {faults : List (String × SchemaError)}

theorem fault?_eq_none_iff : record.fault? faults = none ↔ faults = [] := by
  unfold fault?
  cases record.length? with
  | none => rw [Option.map_eq_none_iff, leastFault_eq_none_iff]
  | some length => rw [Option.map_eq_none_iff, List.head?_eq_none_iff]

theorem unknown_eq_nil_iff :
    record.unknown fields = [] ↔ ∀ entry ∈ record.entries, entry.1 ∈ fields := by
  unfold unknown
  rw [List.map_eq_nil_iff, List.filter_eq_nil_iff]
  simp

/-- A record is accepted if all keys are known, nothing is wrong with a field, the value is there,
and there is nothing more. -/
theorem finish_eq_ok_iff {value : Except SchemaError α} {result : α} :
    record.finish dialect fields faults value = .ok result ↔
      (∀ entry ∈ record.entries, entry.1 ∈ fields) ∧ faults = [] ∧ value = .ok result ∧
        record.excess? dialect fields = none := by
  rw [← unknown_eq_nil_iff, ← and_assoc, ← List.append_eq_nil_iff, ← record.fault?_eq_none_iff]
  unfold finish
  cases record.fault? (record.unknown fields ++ faults) with
  | some fault => simp
  | none =>
    cases value with
    | error fault => simp
    | ok found => cases record.excess? dialect fields <;> simp

end Record

section Fields

variable {α : Type} {entries : List (String × Datum)} {key : String}
  {read : Datum → Except SchemaError α} {default result : α}

/-- The record of a table with only some of its entries. -/
def recordOf (given : String → Bool) (entries : List (String × Datum)) : Record :=
  { entries := entries.filter fun entry => given entry.1 }

/-- A field that is given is read as in the whole record. -/
theorem read_recordOf (h : ({ entries } : Record).read key read default = .ok result)
    (given : String → Bool) :
    (recordOf given entries).read key read default =
      .ok (if given key then result else default) := by
  unfold Record.read recordOf at *
  rw [Datum.lookup?_filter]
  cases given key with
  | true => exact h
  | false => rfl

/-- A field that is not given has its default. -/
theorem eq_default_of_read {record : Record} (h : record.read key read default = .ok result) :
    (if (Datum.lookup? key record.entries).isSome then result else default) = result := by
  unfold Record.read at h
  cases hfound : Datum.lookup? key record.entries with
  | some found => simp
  | none =>
    rw [hfound] at h
    simp [Except.ok.inj h]

theorem finish_recordOf {fields : List String} (hkeys : ∀ entry ∈ entries, entry.1 ∈ fields)
    (dialect : DataDialect) (given : String → Bool) (result : α) :
    (recordOf given entries).finish dialect fields [] (.ok result) = .ok result :=
  Record.finish_eq_ok_iff.2
    ⟨fun entry hentry => hkeys entry (List.mem_filter.1 hentry).1, rfl, rfl, rfl⟩

end Fields

end Schema

open Schema

/-! ## Spellings -/

theorem UnitKind.spells : Spells choices spelling := by
  intro kind
  cases kind <;> rfl

theorem Framework.spells : Spells choices spelling := by
  intro framework
  cases framework <;> rfl

theorem PhpVersion.spells : Spells choices spelling := by
  intro version
  cases version <;> rfl

theorem PropertyVisibility.spells : Spells choices spelling := by
  intro visibility
  cases visibility <;> rfl

theorem ConstructorPolicy.spells : Spells choices spelling := by
  intro policy
  cases policy <;> rfl

theorem DirectoryStructure.spells : Spells choices spelling := by
  intro directories
  cases directories <;> rfl

/-! ## Doctrine options -/

namespace DoctrineOptions

/-- Options with the defaults for the keys that are not given. -/
def onlyKeys (given : String → Bool) (options : DoctrineOptions) : DoctrineOptions where
  attributes := if given "attributes" then options.attributes else true
  collectionDocblocks :=
    if given "collection_docblocks" then options.collectionDocblocks else true
  arrayDocblocks := if given "array_docblocks" then options.arrayDocblocks else true

/-- With some keys left out, Doctrine options are read back with defaults for them. -/
theorem ofDatum_onlyKeys (dialect : DataDialect) (options : DoctrineOptions)
    (given : String → Bool) :
    ofDatum dialect (options.toDatum.onlyKeys given) = .ok (options.onlyKeys given) := by
  let record : Record := { entries := options.toDatum.entries }
  have hattributes : record.read "attributes" readBool true = .ok options.attributes := rfl
  have hcollections : record.read "collection_docblocks" readBool true =
      .ok options.collectionDocblocks := rfl
  have harrays : record.read "array_docblocks" readBool true = .ok options.arrayDocblocks := rfl
  have hkeys : ∀ entry ∈ options.toDatum.entries, entry.1 ∈ fields := by
    simp [toDatum, Datum.entries, fields]
  have hopen : openRecord "DoctrineOptions" fields (options.toDatum.onlyKeys given) =
      .ok (recordOf given options.toDatum.entries) := rfl
  simp only [ofDatum, hopen, ok_bind, read_recordOf hattributes, read_recordOf hcollections,
    read_recordOf harrays, faultOf_ok, List.append_nil]
  exact finish_recordOf hkeys dialect given _

theorem ofDatum_toDatum (dialect : DataDialect) (options : DoctrineOptions) :
    ofDatum dialect options.toDatum = .ok options := by
  rw [← Datum.onlyKeys_true options.toDatum]
  exact ofDatum_onlyKeys dialect options _

end DoctrineOptions

/-! ## Path rules -/

namespace PathRule

/-- A rule with the defaults for the keys that are not given. A rule must have a pattern. -/
def onlyKeys (given : String → Bool) (rule : PathRule) : PathRule where
  pattern := rule.pattern
  kind := if given "kind" then rule.kind else none
  subfolder := if given "subfolder" then rule.subfolder else ""
  strip := if given "strip" then rule.strip else none

theorem lookup?_optionalEntry (key name : String) (value : Option String) :
    Datum.lookup? key (optionalEntry name value) =
      if name = key then value.map .text else none := by
  cases value <;> simp [optionalEntry, Datum.lookup?]

theorem fst_of_mem_optionalEntry {key : String} {value : Option String} {entry : String × Datum}
    (h : entry ∈ optionalEntry key value) : entry.1 = key := by
  cases value with
  | none => cases h
  | some value => rw [List.mem_singleton.1 h]

/-- Where the entries of a rule are, two of which may be missing. -/
theorem lookup?_entries (key : String) (rule : PathRule) :
    Datum.lookup? key rule.toDatum.entries =
      (Datum.lookup? key [("pattern", .text rule.pattern)]).or
        ((Datum.lookup? key (optionalEntry "kind" (rule.kind.map (·.spelling)))).or
          ((Datum.lookup? key [("subfolder", .text rule.subfolder)]).or
            (Datum.lookup? key (optionalEntry "strip" rule.strip)))) := by
  simp only [toDatum, Datum.entries, Datum.lookup?_append, Option.or_assoc]

theorem fst_mem_fields {rule : PathRule} {entry : String × Datum}
    (h : entry ∈ rule.toDatum.entries) : entry.1 ∈ fields := by
  simp only [toDatum, Datum.entries, List.mem_append, List.mem_singleton] at h
  rcases h with ((rfl | h) | rfl) | h
  · simp [fields]
  · simp [fields, fst_of_mem_optionalEntry h]
  · simp [fields]
  · simp [fields, fst_of_mem_optionalEntry h]

/-- A rule needs its pattern, and what else is left out takes its default. -/
theorem ofDatum_onlyKeys (dialect : DataDialect) (rule : PathRule) {given : String → Bool}
    (hpattern : given "pattern" = true) :
    ofDatum dialect (rule.toDatum.onlyKeys given) = .ok (rule.onlyKeys given) := by
  let record : Record := { entries := rule.toDatum.entries }
  have hpatternRead : readPattern (recordOf given rule.toDatum.entries) =
      .ok (some rule.pattern) := by
    have hread : record.read "pattern" (fun found => (readText found).map some) none =
      .ok (some rule.pattern) := rfl
    rw [readPattern, read_recordOf hread, if_pos hpattern]
  have hkind : record.read "kind"
        (readOptional (readChoice dialect UnitKind.choices UnitKind.spelling)) none =
      .ok rule.kind := by
    have hfound : Datum.lookup? "kind" record.entries =
        rule.kind.map fun kind => .text kind.spelling := by
      simp [record, lookup?_entries, lookup?_optionalEntry, Datum.lookup?, Function.comp_def]
    rw [Record.read, hfound]
    cases rule.kind with
    | none => rfl
    | some kind => exact congrArg (Except.map some) (UnitKind.spells kind)
  have hsubfolder : record.read "subfolder" readText "" = .ok rule.subfolder := by
    have hfound : Datum.lookup? "subfolder" record.entries = some (.text rule.subfolder) := by
      simp [record, lookup?_entries, lookup?_optionalEntry, Datum.lookup?]
    rw [Record.read, hfound]
    rfl
  have hstrip : record.read "strip" (readOptional readText) none = .ok rule.strip := by
    have hfound : Datum.lookup? "strip" record.entries = rule.strip.map .text := by
      simp [record, lookup?_entries, lookup?_optionalEntry, Datum.lookup?]
    rw [Record.read, hfound]
    cases rule.strip <;> rfl
  have hopen : openRecord "PathRule" fields (rule.toDatum.onlyKeys given) =
      .ok (recordOf given rule.toDatum.entries) := rfl
  simp only [ofDatum, hopen, ok_bind, hpatternRead, read_recordOf hkind, read_recordOf hsubfolder,
    read_recordOf hstrip, required, faultOf_ok, List.append_nil]
  exact finish_recordOf (fun _ => fst_mem_fields) dialect given _

theorem ofDatum_toDatum (dialect : DataDialect) (rule : PathRule) :
    ofDatum dialect rule.toDatum = .ok rule := by
  rw [← Datum.onlyKeys_true rule.toDatum]
  exact ofDatum_onlyKeys dialect rule rfl

end PathRule

/-! ## Settings -/

namespace Settings

/-- Settings with the defaults for the keys that are not given. -/
def onlyKeys (given : String → Bool) (settings : Settings) : Settings where
  framework := if given "framework" then settings.framework else .plain
  phpVersion := if given "php_version" then settings.phpVersion else .v82
  rootNamespace := if given "namespace" then settings.rootNamespace else "App\\Models"
  propertyVisibility :=
    if given "property_visibility" then settings.propertyVisibility else .isPrivate
  getters := if given "getters" then settings.getters else true
  setters := if given "setters" then settings.setters else true
  constructor := if given "constructor" then settings.constructor else .all
  constructorPromotion :=
    if given "constructor_promotion" then settings.constructorPromotion else false
  readonlyValueObjects :=
    if given "readonly_value_objects" then settings.readonlyValueObjects else false
  directoryStructure :=
    if given "directory_structure" then settings.directoryStructure else .flat
  groupByType := if given "group_by_type" then settings.groupByType else false
  doctrine := if given "doctrine" then settings.doctrine else {}
  pathRules := if given "path_rules" then settings.pathRules else []

/-- With some keys left out, settings are read back with defaults for them. -/
theorem ofDatum_onlyKeys (dialect : DataDialect) (settings : Settings) (given : String → Bool) :
    ofDatum dialect (settings.toDatum.onlyKeys given) = .ok (settings.onlyKeys given) := by
  let record : Record := { entries := settings.toDatum.entries }
  have hframework : record.read "framework"
      (readChoice dialect Framework.choices Framework.spelling) .plain =
    .ok settings.framework := Framework.spells settings.framework
  have hphpVersion : record.read "php_version"
      (readChoice dialect PhpVersion.choices PhpVersion.spelling) .v82 =
    .ok settings.phpVersion := PhpVersion.spells settings.phpVersion
  have hrootNamespace : record.read "namespace" readText defaultNamespace =
    .ok settings.rootNamespace := rfl
  have hpropertyVisibility : record.read "property_visibility"
      (readChoice dialect PropertyVisibility.choices PropertyVisibility.spelling) .isPrivate =
    .ok settings.propertyVisibility := PropertyVisibility.spells settings.propertyVisibility
  have hgetters : record.read "getters" readBool true = .ok settings.getters := rfl
  have hsetters : record.read "setters" readBool true = .ok settings.setters := rfl
  have hconstructor : record.read "constructor"
      (readChoice dialect ConstructorPolicy.choices ConstructorPolicy.spelling) .all =
    .ok settings.constructor := ConstructorPolicy.spells settings.constructor
  have hconstructorPromotion : record.read "constructor_promotion" readBool false =
    .ok settings.constructorPromotion := rfl
  have hreadonlyValueObjects : record.read "readonly_value_objects" readBool false =
    .ok settings.readonlyValueObjects := rfl
  have hdirectoryStructure : record.read "directory_structure"
      (readChoice dialect DirectoryStructure.choices DirectoryStructure.spelling) .flat =
    .ok settings.directoryStructure := DirectoryStructure.spells settings.directoryStructure
  have hgroupByType : record.read "group_by_type" readBool false =
    .ok settings.groupByType := rfl
  have hdoctrine : record.read "doctrine" (DoctrineOptions.ofDatum dialect) {} =
    .ok settings.doctrine := DoctrineOptions.ofDatum_toDatum dialect settings.doctrine
  have hpathRules : record.read "path_rules" (readList (PathRule.ofDatum dialect)) [] =
    .ok settings.pathRules := readItems_map (PathRule.ofDatum_toDatum dialect) settings.pathRules
  have hkeys : ∀ entry ∈ settings.toDatum.entries, entry.1 ∈ fields := by
    simp [toDatum, Datum.entries, fields]
  have hopen : openRecord "GeneratorConfig" fields (settings.toDatum.onlyKeys given) =
      .ok (recordOf given settings.toDatum.entries) := rfl
  simp only [ofDatum, hopen, ok_bind, read_recordOf hframework, read_recordOf hphpVersion,
    read_recordOf hrootNamespace, read_recordOf hpropertyVisibility, read_recordOf hgetters,
    read_recordOf hsetters, read_recordOf hconstructor, read_recordOf hconstructorPromotion,
    read_recordOf hreadonlyValueObjects, read_recordOf hdirectoryStructure,
    read_recordOf hgroupByType, read_recordOf hdoctrine, read_recordOf hpathRules, faultOf_ok,
    List.append_nil]
  exact finish_recordOf hkeys dialect given _

/-- Settings that are written are read back. -/
theorem ofDatum_toDatum (dialect : DataDialect) (settings : Settings) :
    ofDatum dialect settings.toDatum = .ok settings := by
  rw [← Datum.onlyKeys_true settings.toDatum]
  exact ofDatum_onlyKeys dialect settings _

/-- In a table that is accepted all keys are known, and those that are left out have their
defaults. -/
theorem keys_of_ofDatum {dialect : DataDialect} {found : List (String × Datum)}
    {settings : Settings} (h : ofDatum dialect (.table found) = .ok settings) :
    (∀ entry ∈ found, entry.1 ∈ fields) ∧
      settings.onlyKeys (fun key => (Datum.lookup? key found).isSome) = settings := by
  obtain ⟨record, hrecord, h⟩ := exists_of_bind_eq_ok h
  obtain rfl := Except.ok.inj hrecord
  obtain ⟨hkeys, -, hvalue, -⟩ := Record.finish_eq_ok_iff.1 h
  refine ⟨hkeys, ?_⟩
  obtain ⟨framework, hframework, hvalue⟩ := exists_of_bind_eq_ok hvalue
  obtain ⟨phpVersion, hphpVersion, hvalue⟩ := exists_of_bind_eq_ok hvalue
  obtain ⟨rootNamespace, hrootNamespace, hvalue⟩ := exists_of_bind_eq_ok hvalue
  obtain ⟨propertyVisibility, hpropertyVisibility, hvalue⟩ := exists_of_bind_eq_ok hvalue
  obtain ⟨getters, hgetters, hvalue⟩ := exists_of_bind_eq_ok hvalue
  obtain ⟨setters, hsetters, hvalue⟩ := exists_of_bind_eq_ok hvalue
  obtain ⟨constructor, hconstructor, hvalue⟩ := exists_of_bind_eq_ok hvalue
  obtain ⟨constructorPromotion, hconstructorPromotion, hvalue⟩ := exists_of_bind_eq_ok hvalue
  obtain ⟨readonlyValueObjects, hreadonlyValueObjects, hvalue⟩ := exists_of_bind_eq_ok hvalue
  obtain ⟨directoryStructure, hdirectoryStructure, hvalue⟩ := exists_of_bind_eq_ok hvalue
  obtain ⟨groupByType, hgroupByType, hvalue⟩ := exists_of_bind_eq_ok hvalue
  obtain ⟨doctrine, hdoctrine, hvalue⟩ := exists_of_bind_eq_ok hvalue
  obtain ⟨pathRules, hpathRules, hvalue⟩ := exists_of_bind_eq_ok hvalue
  obtain rfl := Except.ok.inj hvalue
  simp only [onlyKeys, Settings.mk.injEq]
  exact ⟨eq_default_of_read hframework, eq_default_of_read hphpVersion,
    eq_default_of_read hrootNamespace, eq_default_of_read hpropertyVisibility,
    eq_default_of_read hgetters, eq_default_of_read hsetters, eq_default_of_read hconstructor,
    eq_default_of_read hconstructorPromotion, eq_default_of_read hreadonlyValueObjects,
    eq_default_of_read hdirectoryStructure, eq_default_of_read hgroupByType,
    eq_default_of_read hdoctrine, eq_default_of_read hpathRules⟩

/-- **Settings are read back as they were written.** So are those that come from data with keys left
out: what is left out is set to its default, all other keys are known ones, and the settings as a
whole are written and read back unchanged. -/
theorem ofDatum_readsBack (dialect : DataDialect) :
    (∀ settings : Settings, ofDatum dialect settings.toDatum = .ok settings) ∧
    (∀ (settings : Settings) (given : String → Bool),
      ofDatum dialect (settings.toDatum.onlyKeys given) = .ok (settings.onlyKeys given)) ∧
    ∀ (found : Datum) (settings : Settings), ofDatum dialect found = .ok settings →
      ofDatum dialect settings.toDatum = .ok settings ∧
        ∀ entries, found = .table entries → (∀ entry ∈ entries, entry.1 ∈ fields) ∧
          settings.onlyKeys (fun key => (Datum.lookup? key entries).isSome) = settings := by
  refine ⟨ofDatum_toDatum dialect, ofDatum_onlyKeys dialect, fun found settings h => ?_⟩
  refine ⟨ofDatum_toDatum dialect settings, fun entries hfound => ?_⟩
  subst hfound
  exact keys_of_ofDatum h

/-- Entries that leave most keys out. -/
def sparseEntries : List (String × Datum) :=
  [("namespace", .text "Acme"), ("doctrine", .table [("array_docblocks", .bool false)]),
    ("path_rules", .list [.table [("pattern", .text "Event$"), ("strip", .text "Event$")]])]

/-- What they say. -/
def sparseSettings : Settings :=
  { rootNamespace := "Acme", doctrine := { arrayDocblocks := false }
    pathRules := [{ pattern := "Event$", strip := some "Event$" }] }

theorem ofDatum_readsBack_sparse :
    ofDatum .toml (.table sparseEntries) = .ok sparseSettings ∧
      ofDatum .toml sparseSettings.toDatum = .ok sparseSettings ∧
      sparseSettings.onlyKeys (fun key => (Datum.lookup? key sparseEntries).isSome) =
        sparseSettings := by
  have hread : ofDatum .toml (.table sparseEntries) = .ok sparseSettings := rfl
  obtain ⟨hback, hkeys⟩ := (ofDatum_readsBack .toml).2.2 _ _ hread
  exact ⟨hread, hback, (hkeys sparseEntries rfl).2⟩

end Settings

end DomainForge
