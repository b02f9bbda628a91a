import LintServer.CommandLine
import LintServer.Lint.Diagnostic
import LintServer.Root.Cache
import LintServer.Rule.File

/-!
# Settings of documents

The root of a document is found when it is first needed, in the workspace folder of that moment, and
stays. The configuration in the root is read for every pass anew, so that a change of the file counts
from the next pass on. The base rules are read once.
-/

namespace LintServer

/-- What the configuration of a document depends on, apart from the disk. -/
structure Settings where
  markers : List Marker := Marker.defaults
  base : BaseRules := {}
  roots : RootCache := {}
deriving Repr, DecidableEq, Inhabited

namespace Settings

/-- The settings that are asked for on the command line, with the base rules that the disk has now. -/
def ofOptions (d : Disk) (o : Options) : Settings := ⟨o.markers, BaseRules.load d o.baseRuleFiles, {}⟩

/-- The remembered root of a document. -/
def knownRoot? (s : Settings) (uri : Uri) : Option Path := s.roots.get? uri.text

/-- The root of a document in a workspace folder, which is remembered unless another one is. -/
def placeRoot (s : Settings) (d : Disk) (folder : Path) (uri : Uri) : Path × Settings :=
  let (root, roots) := s.roots.getOrInsert uri.text (findRoot d folder uri.filePath? s.markers)
  (root, { s with roots })

/-- The root of a document: the remembered one, or the one in the workspace folder, if there is any. -/
def projectRoot (s : Settings) (d : Disk) (folder : Option Path) (uri : Uri) : Option Path × Settings :=
  match s.knownRoot? uri, folder with
  | some root, _ => (some root, s)
  | none, none => (none, s)
  | none, some folder =>
    let (root, s) := s.placeRoot d folder uri
    (some root, s)

/-- The configuration of a document. -/
def resolve (s : Settings) (d : Disk) (folder : Option Path) (uri : Uri) : Config × Settings :=
  let (root, s) := s.projectRoot d folder uri
  (loadConfig d root s.base.rules, s)

/-- The paths in a directory that the rules of a document may depend on. -/
def pathsIn (s : Settings) (dir : Path) : List Path :=
  projectFile dir :: s.markers.map (·.pathIn dir)

/-- The paths that the rules of a document depend on: the configuration in its root, and as long as the
root is not known, all that may lie in the directories above it. -/
def sight (s : Settings) (folder : Option Path) (uri : Uri) : List Path :=
  match s.knownRoot? uri, folder with
  | some root, _ => s.pathsIn root
  | none, none => []
  | none, some folder =>
    let dirs := (uri.filePath?.map (candidateDirs folder)).getD []
    (folder :: dirs).flatMap s.pathsIn

end Settings

/-- The diagnostics of a document, which replace all that were sent for it before. -/
structure Publication where
  uri : Uri
  diagnostics : List Diagnostic
deriving Repr, DecidableEq, Inhabited

/-- What is asked of a pass over a document. -/
structure PassOptions where
  /-- How many findings are reported. -/
  limit : Nat := defaultLimit
  /-- Whether the editor shows related places. -/
  related : Bool := false
deriving Repr, DecidableEq, Inhabited

/-- One pass over a document. -/
def Settings.lint (s : Settings) (d : Disk) (folder : Option Path) (uri : Uri) (text : String)
    (o : PassOptions) : Publication × Settings :=
  let (config, s) := s.resolve d folder uri
  (⟨uri, config.diagnostics o.limit text.toList uri o.related⟩, s)

end LintServer
