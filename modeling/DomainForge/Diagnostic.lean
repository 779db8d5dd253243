/-!
# Diagnostics

Findings about a model or its settings. An error stops the run that finds it,
a warning does not.
-/

namespace DomainForge

/-- How grave a finding is. -/
inductive Severity where
  | error
  | warning
deriving Repr, DecidableEq, Inhabited

/-- The spelling of a severity. -/
def Severity.spelling : Severity → String
  | error => "error"
  | warning => "warning"

/-- A finding, the phase that made it, and the place that it is about. -/
structure Diagnostic where
  severity : Severity
  phase : String
  message : String
  location : Option String := none
deriving Repr, DecidableEq, Inhabited

namespace Diagnostic

/-- A warning about a place. -/
def warningAt (phase message location : String) : Diagnostic :=
  { severity := .warning, phase := phase, message := message, location := some location }

/-- A finding on one line. -/
def render (found : Diagnostic) : String :=
  found.severity.spelling ++ ": " ++ found.message ++
    match found.location with
    | some location => s!" (at {location})"
    | none => ""

/-- The errors among findings. -/
def errors (found : List Diagnostic) : List Diagnostic :=
  found.filter (·.severity == .error)

/-- The warnings among findings. -/
def warnings (found : List Diagnostic) : List Diagnostic :=
  found.filter (·.severity == .warning)

end Diagnostic

end DomainForge
