import DomainForge.Naming
import DomainForge.Settings.Basic
import DomainForge.Text.Span

/-!
# Valid settings

Settings must name a namespace made of identifiers, and no path rule may lead
out of the output directory. A fault points at the place in the settings'
source that spells the offending value, if that can be found.
-/

namespace DomainForge

/-- What is wrong with a namespace. -/
inductive NamespaceFault where
  | emptySegment
  | notIdentifier (segment : String)
deriving Repr, DecidableEq

/-- The wording of what is wrong with a namespace. -/
def NamespaceFault.reason : NamespaceFault → String
  | emptySegment => "namespace contains an empty segment"
  | notIdentifier segment => s!"'{segment}' is not a valid identifier"

/-- What is wrong with settings. -/
inductive SettingsFault where
  | badNamespace (given : String) (fault : NamespaceFault)
  | leavesOutput (subfolder : String)
  | absoluteSubfolder (subfolder : String)
deriving Repr, DecidableEq

namespace SettingsFault

/-- The wording of what is wrong with settings. -/
def message : SettingsFault → String
  | badNamespace given _ => s!"invalid namespace '{given}'"
  | leavesOutput subfolder =>
    s!"path rule subfolder '{subfolder}' must not leave the output directory"
  | absoluteSubfolder subfolder => s!"path rule subfolder '{subfolder}' must be relative"

/-- How to put it right, if there is something to say. -/
def help? : SettingsFault → Option String
  | badNamespace _ fault =>
    some (fault.reason ++ ". Use backslash-separated PHP identifiers, e.g. 'App\\Models'.")
  | _ => none

/-- The remark at the place of the fault. -/
def label : SettingsFault → String
  | badNamespace _ _ => "invalid namespace"
  | fault => fault.message

/-- A namespace as it stands in a quoted text, with its backslashes doubled. -/
def doubled (s : List Char) : List Char :=
  s.flatMap fun c => if c = '\\' then ['\\', '\\'] else [c]

/-- The text that the source is searched for. -/
def needle : SettingsFault → List Char
  | badNamespace given _ => doubled given.toList
  | leavesOutput subfolder => subfolder.toList
  | absoluteSubfolder subfolder => subfolder.toList

/-- The place of the fault in a source. -/
def span? (fault : SettingsFault) (source : String) : Option Text.Span :=
  Text.quotedSpanOf fault.needle source.toList

end SettingsFault

/-- The first fault among the segments of a namespace. -/
def segmentFault? : List String → Option NamespaceFault
  | [] => none
  | segment :: rest =>
    if segment = "" then some .emptySegment
    else if Naming.isIdentifier segment then segmentFault? rest
    else some (.notIdentifier segment)

/-- What is wrong with a namespace without backslashes at its ends. The empty
one is the global namespace. -/
def namespaceFault? (name : String) : Option NamespaceFault :=
  if name = "" then none else segmentFault? (Text.fields isBackslash name)

/-- What is wrong with a path rule. -/
def PathRule.fault? (rule : PathRule) : Option SettingsFault :=
  if rule.segments.contains ".." then some (.leavesOutput rule.subfolder)
  else if rule.subfolder.toList.head? = some '/' then some (.absoluteSubfolder rule.subfolder)
  else none

/-- The first fault of settings: the namespace is examined before the rules. -/
def Settings.fault? (settings : Settings) : Option SettingsFault :=
  match namespaceFault? settings.namespaceStem with
  | some fault => some (.badNamespace settings.rootNamespace fault)
  | none => settings.pathRules.findSome? PathRule.fault?

end DomainForge
