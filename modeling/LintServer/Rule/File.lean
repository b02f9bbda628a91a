import LintServer.Disk.Basic
import LintServer.Rule.Base
import LintServer.Rule.Schema

/-!
# Rules on the disk

The base rules are built in, or are those of a file with the layout of a configuration. The
configuration of a project is a file in its root; a project without a readable one has no rules, not
even the base rules.
-/

namespace LintServer

/-- The rules that projects extend, and the file they were read from. -/
structure BaseRules where
  rules : List Rule := builtinRules
  source : Option Path := none
deriving Repr, DecidableEq, Inhabited

/-- Why a file gives no base rules. -/
inductive BaseRulesError where
  | unreadable (path : Path)
  | malformed (path : Path)
deriving Repr, DecidableEq, Inhabited

/-- What is said about a file that gives no base rules. -/
def BaseRulesError.message : BaseRulesError → String
  | .unreadable p => "Failed to read base rules: " ++ p.text
  | .malformed p => "Failed to parse base rules: " ++ p.text

namespace BaseRules

/-- No base rules. -/
def empty : BaseRules := ⟨[], none⟩

/-- The base rules of a file. -/
def ofFile (d : Disk) (path : Path) : Except BaseRulesError BaseRules :=
  match d.readText? path with
  | none => .error (.unreadable path)
  | some text =>
    match parseConfig (String.ofList text) with
    | .ok c => .ok ⟨c.lints, some path⟩
    | .error _ => .error (.malformed path)

/-- The base rules of the first file that has some, or else the built-in ones. -/
def load (d : Disk) (candidates : List Path) : BaseRules :=
  (candidates.findSome? fun p => (ofFile d p).toOption).getD {}

end BaseRules

/-- The name of the file with the configuration of a project. -/
def configName : Name := Utf8.encode configFileName.toList

/-- The file with the configuration of the project in a directory. -/
def projectFile (root : Path) : Path := root.join configName

/-- The rules for the documents of a project: those of the configuration in its root, extended by the
base rules unless it declines. -/
def loadConfig (d : Disk) (root : Option Path) (base : List Rule) : Config :=
  match root with
  | none => {}
  | some root =>
    if root.bytes.isEmpty then {}
    else
      match d.readText? (projectFile root) with
      | none => {}
      | some text =>
        match parseConfig (String.ofList text) with
        | .ok c => c.applyBase base
        | .error _ => {}

end LintServer
