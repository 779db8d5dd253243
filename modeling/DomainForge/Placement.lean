import DomainForge.Diagnostic
import DomainForge.Matcher
import DomainForge.Settings.Basic

/-!
# Placing units

Where the file of a unit goes, which namespace it has, and what its class is
called. The directory structure gives the first folders, then comes the folder
of the unit's kind, then the subfolder of the first path rule that matches.
-/

namespace DomainForge

/-- A unit to be placed: its name and kind, and the names around it. -/
structure UnitSite where
  name : String
  kind : UnitKind
  context : String
  aggregate : String
deriving Repr, DecidableEq, Inhabited

/-- Where a unit goes and what it is called there. -/
structure Placement where
  /-- The name after a path rule has stripped it. -/
  finalName : String
  /-- The path of the file below the output directory. -/
  path : String
  namespaceName : String
deriving Repr, DecidableEq, Inhabited

/-- What placing depends on besides the rules. -/
structure Layout where
  directories : DirectoryStructure
  groupByType : Bool
  /-- The namespace in front of all others, without backslashes at its ends. -/
  stem : String
deriving Repr, DecidableEq, Inhabited

/-- The layout that settings choose. -/
def Layout.ofSettings (settings : Settings) : Layout :=
  { directories := settings.directoryStructure
    groupByType := settings.groupByType
    stem := settings.namespaceStem }

/-- A path rule whose patterns have been read. -/
structure CompiledRule where
  pattern : Matcher
  kind : Option UnitKind
  segments : List String
  strip : Option Matcher

namespace CompiledRule

/-- Whether a rule applies to a unit. -/
def applies (rule : CompiledRule) (site : UnitSite) : Bool :=
  rule.kind.all (· == site.kind) && rule.pattern.isMatch site.name

/-- A name without the first match of the strip pattern. A name that would
vanish is kept. -/
def finalName (rule : CompiledRule) (name : String) : String :=
  match rule.strip with
  | none => name
  | some strip =>
    let stripped := strip.removeFirst name
    if stripped = "" then name else stripped

end CompiledRule

/-! ## Reading rules -/

/-- The phase that reads the rules. -/
def rulesPhase : String := "rules"

/-- The first line of a message that is not blank, without the blanks around
it. A message without such a line is kept. -/
def firstLine (message : String) : String :=
  match ((Text.lines message.toList).map Text.trim).find? (!·.isEmpty) with
  | some line => String.ofList line
  | none => message

/-- The place of the rule with an index. -/
def ruleLocation (index : Nat) : String :=
  s!"path_rules[{index}]"

/-- The warning for a rule whose pattern cannot be read, and why. -/
def badPattern (index : Nat) (pattern fault : String) : Diagnostic :=
  .warningAt rulesPhase s!"invalid pattern '{pattern}', rule skipped: {firstLine fault}"
    (ruleLocation index)

/-- The warning for a rule whose strip pattern cannot be read, and why. -/
def badStrip (index : Nat) (strip fault : String) : Diagnostic :=
  .warningAt rulesPhase s!"invalid strip pattern '{strip}', names are kept: {firstLine fault}"
    (ruleLocation index)

section Reading

variable [PatternLanguage]

/-- Reads a strip pattern. -/
def compileStrip (index : Nat) : Option String → Option Matcher × List Diagnostic
  | none => (none, [])
  | some strip =>
    match PatternLanguage.read strip with
    | .ok pattern => (some pattern, [])
    | .error fault => (none, [badStrip index strip fault])

/-- Reads a rule. Without a pattern it is dropped, without a strip pattern it
keeps names. -/
def compileRule (index : Nat) (rule : PathRule) : Option CompiledRule × List Diagnostic :=
  match PatternLanguage.read rule.pattern with
  | .error fault => (none, [badPattern index rule.pattern fault])
  | .ok pattern =>
    let (strip, found) := compileStrip index rule.strip
    (some { pattern, kind := rule.kind, segments := rule.segments, strip }, found)

/-- Reads rules in order, the first of which has the given index. -/
def compileRulesFrom : (index : Nat) → List PathRule → List CompiledRule × List Diagnostic
  | _, [] => ([], [])
  | index, rule :: rules =>
    let (compiled, found) := compileRule index rule
    let (rest, more) := compileRulesFrom (index + 1) rules
    (compiled.toList ++ rest, found ++ more)

/-- Reads rules in order: those that can be read, and a warning for each
pattern that cannot. -/
def compileRules (rules : List PathRule) : List CompiledRule × List Diagnostic :=
  compileRulesFrom 0 rules

end Reading

/-! ## Placing -/

/-- The folders that the directory structure gives. -/
def DirectoryStructure.folders (directories : DirectoryStructure) (site : UnitSite) : List String :=
  match directories with
  | flat => []
  | byContext => [site.context]
  | byAggregate => [site.context, site.aggregate]
  | psr4 => [site.context, site.aggregate]

/-- The folders of a unit below the output directory; empty ones are left out. -/
def Layout.folders (layout : Layout) (rule : Option CompiledRule) (site : UnitSite) :
    List String :=
  (layout.directories.folders site ++ (if layout.groupByType then [site.kind.folder] else []) ++
    (rule.map (·.segments)).getD []).filter (· ≠ "")

/-- The namespace of a unit in the given folders. -/
def Layout.namespaceOf (layout : Layout) (folders : List String) : String :=
  match layout.directories with
  | .psr4 => Text.joinWith "\\" ((layout.stem :: folders).filter (· ≠ ""))
  | _ => layout.stem

/-- Places a unit. The first rule that applies counts. -/
def Layout.place (layout : Layout) (rules : List CompiledRule) (site : UnitSite) : Placement :=
  let rule := rules.find? (·.applies site)
  let finalName := (rule.map (·.finalName site.name)).getD site.name
  let folders := layout.folders rule site
  { finalName
    path := Text.joinWith "/" (folders ++ [finalName ++ ".php"])
    namespaceName := layout.namespaceOf folders }

end DomainForge
