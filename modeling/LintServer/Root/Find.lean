import LintServer.Disk.Basic
import LintServer.Rule.Basic
import LintServer.Unicode.Case

/-!
# Project roots

The project of a file is found by walking from the directory of the file upward, as long as the walk
stays inside the workspace folder. A directory that holds a marker is a candidate: a strong marker
ends the walk, a weak one is kept while the walk goes on. Of several markers in a directory the first
in the list decides. Without a candidate the workspace folder itself is the root.

Files on a network share, and files below a directory of installed packages, belong to the workspace
folder without a search.
-/

namespace LintServer

/-- A file name that marks a directory as the root of a project. -/
structure Marker where
  name : String
  /-- Whether the upward walk ends at this marker. -/
  strong : Bool
deriving Repr, DecidableEq, Inhabited

/-- The markers that are always looked for. -/
def Marker.defaults : List Marker := [⟨"package.json", true⟩, ⟨configFileName, true⟩]

/-- Where a marker is looked for in a directory. -/
def Marker.pathIn (m : Marker) (dir : Path) : Path := dir.join (Utf8.encode m.name.toList)

/-- The first of the markers that a directory holds. -/
def markerIn? (d : Disk) (markers : List Marker) (dir : Path) : Option Marker :=
  markers.find? fun m => d.has (m.pathIn dir)

/-- Chooses among directories, of which the nearest to the file comes first: the first one with a strong
mark, or else the last one with a weak mark, or else `fallback`. -/
def chooseRoot (mark? : Path → Option Marker) (fallback : Path) : List Path → Path
  | [] => fallback
  | dir :: above =>
    match mark? dir with
    | none => chooseRoot mark? fallback above
    | some m => if m.strong then dir else chooseRoot mark? dir above

namespace Path

/-- Whether a path names something on a share: `\\server\share`, with a server and a share. -/
def isNetworkShare (p : Path) : Bool :=
  match p.bytes with
  | 0x5C :: 0x5C :: rest =>
    !(rest.takeWhile (· != 0x5C)).isEmpty &&
      match rest.dropWhile (· != 0x5C) with
      | _ :: b :: _ => b != 0x5C
      | _ => false
  | _ => false

/-- The name of a directory of installed packages. -/
def packagesName : Name := Utf8.encode "node_modules".toList

/-- Whether a path lies below a directory of installed packages. -/
def isInPackages (p : Path) : Bool :=
  match p.parent? with
  | some dir => dir.components.contains (.name packagesName)
  | none => false

/-- Of two spellings of a path the second, if they differ in nothing but case. -/
def reconcileCase (requested real : Path) : Path :=
  if Unicode.lower requested.text = Unicode.lower real.text then real else requested

end Path

/-- The directories in which a file's root is looked for, the nearest first. -/
def candidateDirs (workspace file : Path) : List Path :=
  file.parents.takeWhile (·.isWithin workspace)

/-- The root of the project of a file in a workspace folder. -/
def findRoot (d : Disk) (workspace : Path) (file : Option Path) (markers : List Marker) : Path :=
  match file with
  | none => workspace
  | some file =>
    if file.isNetworkShare || file.isInPackages then workspace
    else chooseRoot (markerIn? d markers) workspace (candidateDirs workspace file)

end LintServer
