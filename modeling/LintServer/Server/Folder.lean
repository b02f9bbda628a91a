import LintServer.Protocol.Method
import LintServer.Rule.Basic

/-!
# The folder of the workspace

The server works in one folder: the first one that the editor names when the session is opened. It
keeps the folder until that is removed from the workspace; then the first folder that is added at the
same time takes its place.
-/

namespace LintServer

open LintServer.Protocol

/-- The folder that a session starts in. A list of folders counts more than a single one, unless it is
empty. -/
def Protocol.Opening.folder? (o : Opening) : Option Path :=
  match o.folders with
  | some (first :: _) => first.localPath?
  | _ => o.root.bind Uri.localPath?

/-- Whether a folder is among those that are removed. -/
def isRemoved (folder : Path) (removed : List Uri) : Bool :=
  removed.any fun u => (u.localPath?.map folder.same).getD false

/-- The folder after folders were added and removed. -/
def nextFolder (current : Option Path) (added removed : List Uri) : Option Path :=
  match current with
  | some folder => if isRemoved folder removed then added.head?.bind Uri.localPath? else some folder
  | none => added.head?.bind Uri.localPath?

/-- Whether two folders are both missing, or the same in whatever spelling. -/
def sameFolder : Option Path → Option Path → Bool
  | some p, some q => p.same q
  | none, none => true
  | _, _ => false

/-- Whether one of some files is a configuration file, by the name at the end of its address. -/
def touchesConfig (uris : List Uri) : Bool := uris.any (·.lastSegment? == some configFileName)

end LintServer
