import LintServer.Disk.Basic

/-!
# Changes of the disk

Writing a file and making a directory create the directories that are missing on the way. Removing
takes a directory with everything in it, and renaming moves it with everything in it; both need
something to be there.
-/

namespace LintServer

/-- A change of the disk. -/
inductive Edit where
  | write (path : Path) (content : List UInt8)
  | makeFolder (path : Path)
  | remove (path : Path)
  | rename (source target : Path)
deriving Repr, Inhabited

/-- Why a change is not possible. -/
inductive EditError where
  | notFound
deriving Repr, DecidableEq, Inhabited

namespace Disk

/-- The entries with `e` under `name`, in place of what had that name. -/
def setEntry (entries : List (Name × Entry)) (name : Name) (e : Entry) : List (Name × Entry) :=
  if entries.any (·.1 == name) then entries.map fun p => if p.1 == name then (name, e) else p
  else entries ++ [(name, e)]

/-- The entries with `e` where names lead to, and directories on the way there. -/
def put (entries : List (Name × Entry)) : Location → Entry → List (Name × Entry)
  | [], e => e.entries
  | [n], e => setEntry entries n e
  | n :: rest, e =>
    setEntry entries n (.folder (put (((entries.lookup n).map Entry.entries).getD []) rest e))

/-- The entries without the one that names lead to. -/
def erase (entries : List (Name × Entry)) : Location → List (Name × Entry)
  | [] => []
  | [n] => entries.filter (·.1 != n)
  | n :: rest =>
    match entries.lookup n with
    | some (.folder inner) => setEntry entries n (.folder (erase inner rest))
    | _ => entries

/-- The location that an absolute path spells, whether anything is there or not. -/
def spelled (p : Path) : Location :=
  p.components.foldl (fun l c => match c with
    | .name n => l ++ [n]
    | .up => l.dropLast
    | .root | .here => l) []

/-- The location that a path spells on a disk. -/
def place (d : Disk) (p : Path) : Location := spelled (d.absolute p)

/-- The disk after a change. -/
def edit (d : Disk) : Edit → Except EditError Disk
  | .write p content => .ok { d with root := put d.root (d.place p) (.file content) }
  | .makeFolder p =>
    match d.at? (d.place p) with
    | some (.folder _) => .ok d
    | _ => .ok { d with root := put d.root (d.place p) (.folder []) }
  | .remove p =>
    match d.locate? p with
    | some l => .ok { d with root := erase d.root l }
    | none => .error .notFound
  | .rename source target =>
    match d.locate? source with
    | some l =>
      match d.at? l, d.at? (d.place target).dropLast with
      | some e, some (.folder _) => .ok { d with root := put (erase d.root l) (d.place target) e }
      | _, _ => .error .notFound
    | none => .error .notFound

/-- The changes that lead from an earlier disk to this one, as far as some paths show. -/
def changesSince (d earlier : Disk) (paths : List Path) : List Edit :=
  paths.filterMap fun p =>
    match d.entry? p, earlier.entry? p with
    | some (.file new), some (.file old) => if new = old then none else some (.write p new)
    | some (.file new), _ => some (.write p new)
    | some (.folder _), none => some (.makeFolder p)
    | none, some _ => some (.remove p)
    | _, _ => none

end Disk

end LintServer
