/-!
# Rules

A rule searches a document for a pattern. What it finds may have to pass a second pattern, and is
reported with a message and a severity. A configuration is a list of rules and a wish to extend the
base rules.
-/

namespace LintServer

/-- The name of the file with the configuration of a project. -/
def configFileName : String := ".code-check.toml"

/-- How serious a finding is. -/
inductive Severity where
  | error | warning | information | hint
deriving Repr, DecidableEq, Inhabited

/-- The name of a severity in configuration files. -/
def Severity.name : Severity → String
  | .error => "Error"
  | .warning => "Warning"
  | .information => "Information"
  | .hint => "Hint"

/-- The severities in ascending order of leniency. -/
def Severity.all : List Severity := [.error, .warning, .information, .hint]

/-- The severity of a name. -/
def Severity.ofName? (name : String) : Option Severity := Severity.all.find? (·.name == name)

/-- The number of a severity in messages to an editor. -/
def Severity.code : Severity → Nat
  | .error => 1
  | .warning => 2
  | .information => 3
  | .hint => 4

/-- A rule as it is configured. -/
structure Rule where
  /-- The pattern searched for in a document. -/
  test : String
  /-- The pattern that the text of a match has to contain. -/
  predicate : Option String := none
  /-- The configured message. -/
  ownMessage : Option String := none
  /-- The configured severity. -/
  ownSeverity : Option Severity := none
deriving Repr, DecidableEq, Inhabited

/-- The message of rules that have none of their own. -/
def Rule.defaultMessage : String := "Unexpected Item"

/-- The message of a rule. -/
def Rule.message (r : Rule) : String := r.ownMessage.getD Rule.defaultMessage

/-- The severity of a rule. -/
def Rule.severity (r : Rule) : Severity := r.ownSeverity.getD .error

/-- The configuration of a project. -/
structure Config where
  /-- Whether the base rules are still to be added. -/
  extendsBase : Bool := true
  lints : List Rule := []
deriving Repr, DecidableEq, Inhabited

/-- Adds the base rules behind the project's own, once. -/
def Config.applyBase (c : Config) (base : List Rule) : Config :=
  if c.extendsBase then ⟨false, c.lints ++ base⟩ else c

/-- Whether a configuration has no rules. -/
def Config.isEmpty (c : Config) : Bool := c.lints.isEmpty

end LintServer
