import LintServer.Disk.Touch
import LintServer.Rule.File

/-!
# Watching for configuration files

A watcher watches directories, each for its own entries only. It starts with a directory and all
directories below it, except those of installed packages and of version control and what is below
them. A directory that appears later is reported, and is watched when that is asked for. What is watched
is known by absolute paths, and what is reported has such paths.

A directory that cannot be watched is left out with all that is below it, and of one that cannot be
listed only the directories below it are left out; neither has a bearing on other directories.
-/

namespace LintServer

/-- Whether a path is that of a configuration file. -/
def Path.isConfigFile (p : Path) : Bool := p.fileName? == some configName

/-- The names of directories that are not watched. -/
def skippedNames : List Name := ["node_modules", ".git"].map fun s => Utf8.encode s.toList

/-- Whether a path is that of a directory that is not watched. -/
def Path.isSkipped (p : Path) : Bool := (p.fileName?.map skippedNames.contains).getD false

/-! ## Trees -/

/-- What the system permits. -/
structure Reach where
  canWatch : Path → Bool
  canList : Path → Bool

/-- Everything is permitted. -/
def Reach.full : Reach := ⟨fun _ => true, fun _ => true⟩

mutual

/-- What is watched of the entry at `path`: the entry itself and the directories below it. -/
def Reach.tree (r : Reach) (path : Path) : Entry → List Path
  | .file _ => if r.canWatch path then [path] else []
  | .folder es => if r.canWatch path then path :: (if r.canList path then r.among path es else []) else []
termination_by structural e => e

/-- What is watched among the entries of the directory `dir`. -/
def Reach.among (r : Reach) (dir : Path) : List (Name × Entry) → List Path
  | [] => []
  | (n, e) :: rest =>
    (if e.isFolder && !(dir.join n).isSkipped then r.tree (dir.join n) e else []) ++ r.among dir rest
termination_by structural es => es

end

/-! ## Watchers -/

/-- The directories that are watched. -/
structure Watcher where
  /-- Where watching started. -/
  root : Path
  /-- Absolute paths. -/
  watched : List Path
deriving Repr, DecidableEq, Inhabited

/-- A path that cannot be watched. -/
structure WatchError where
  path : Path
deriving Repr, DecidableEq, Inhabited

/-- What is said about a path that cannot be watched. -/
def WatchError.message (e : WatchError) : String := "Failed to watch " ++ e.path.text

namespace Watcher

/-- Watches one more directory. Of two spellings of a directory the later counts. -/
def watch (w : Watcher) (dir : Path) : Watcher :=
  { w with watched := w.watched.filter (fun p => !p.same dir) ++ [dir] }

/-- Watches more directories, one after the other. -/
def add (w : Watcher) (dirs : List Path) : Watcher := dirs.foldl watch w

/-- Watches a directory and all below it, as far as the system permits. -/
def watchTreeWithin (r : Reach) (w : Watcher) (d : Disk) (dir : Path) : Except WatchError Watcher :=
  match d.entry? dir with
  | none => .error ⟨dir⟩
  | some e =>
    match r.tree dir e with
    | [] => .error ⟨dir⟩
    | dirs => .ok (w.add (dirs.map d.absolute))

/-- Watches a directory and all below it. -/
def watchTree (w : Watcher) (d : Disk) (dir : Path) : Except WatchError Watcher :=
  w.watchTreeWithin Reach.full d dir

/-- Watches a directory and all below it, if that is possible. -/
def extend (w : Watcher) (d : Disk) (dir : Path) : Watcher := ((w.watchTree d dir).toOption).getD w

/-- Starts watching a directory and all below it. -/
def start (d : Disk) (root : Path) : Except WatchError Watcher := watchTree ⟨root, []⟩ d root

end Watcher

/-! ## Events -/

/-- What a watcher reports. -/
inductive WatchEvent where
  | configChanged (path : Path)
  | folderAppeared (path : Path)
  /-- Watching has failed, for the reason that a text gives. -/
  | failed (reason : String)
deriving Repr, DecidableEq, Inhabited

namespace Watcher

/-- The watched directory at a location. -/
def dirAt? (w : Watcher) (l : Location) : Option Path := w.watched.find? (Disk.spelled · == l)

/-- What is reported of an entry that was touched, on the disk as it is after the change. -/
def report? (w : Watcher) (after : Disk) (t : Touch) : Option WatchEvent :=
  match w.dirAt? t.location.dropLast, t.location.getLast? with
  | some dir, some name =>
    let path := dir.join name
    if path.isConfigFile then some (.configChanged path)
    else if t.appeared && ((after.at? t.location).map Entry.isFolder).getD false && !path.isSkipped then
      some (.folderAppeared path)
    else none
  | _, _ => none

/-- The locations at and below which nothing is watched any more after a change of a disk. -/
def lost (before : Disk) : Edit → List Location
  | .write _ _ | .makeFolder _ => []
  | .remove p => [before.place p]
  | .rename source target => [before.place source, before.place target]

/-- What a watcher reports of a change of the disk, and the watcher after it. -/
def observe (w : Watcher) (before after : Disk) (e : Edit) : List WatchEvent × Watcher :=
  ((before.touches e).filterMap (w.report? after),
    { w with watched := w.watched.filter fun p => !(lost before e).any (·.isPrefixOf (Disk.spelled p)) })

end Watcher

end LintServer
