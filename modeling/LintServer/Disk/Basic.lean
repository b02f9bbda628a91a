import LintServer.Path.Basic

/-!
# The disk

What is on the disk is a tree of files and directories. A path is looked up from the root of the tree
segment by segment: an empty segment and a `.` stay in a directory and a `..` leaves it, so that every
segment but the first needs a directory to be looked up in. A relative path is looked up behind that of
the current directory, and there is nothing at the empty path.
-/

namespace LintServer

/-- A file with its bytes, or a directory with its entries. -/
inductive Entry where
  | file (content : List UInt8)
  | folder (entries : List (Name × Entry))
deriving Repr, Inhabited

/-- Whether an entry is a directory. -/
def Entry.isFolder : Entry → Bool
  | .file _ => false
  | .folder _ => true

/-- The entries of a directory; a file has none. -/
def Entry.entries : Entry → List (Name × Entry)
  | .file _ => []
  | .folder es => es

/-- Everything that exists, as it is seen from a current directory. -/
structure Disk where
  root : List (Name × Entry) := []
  /-- The path of the current directory. -/
  current : Path := ⟨[Path.slash]⟩
  current_absolute : current.isAbsolute = true := by decide
deriving Repr

instance : Inhabited Disk := ⟨{}⟩

/-- Where an entry is: the names from the root of the tree down to it. -/
abbrev Location := List Name

namespace Disk

/-! ## Looking up -/

/-- The entry that names lead to from a directory. -/
def find? : (entries : List (Name × Entry)) → Location → Option Entry
  | es, [] => some (.folder es)
  | es, n :: rest =>
    match es.lookup n with
    | some e => match rest with
      | [] => some e
      | _ :: _ => if e.isFolder then find? e.entries rest else none
    | none => none

/-- The entry at a location. -/
def at? (d : Disk) (l : Location) : Option Entry := find? d.root l

/-- The location of segments that are looked up from the one whose names, the last first, are
`upward`. -/
def follow (d : Disk) (upward : Location) : List Name → Option Location
  | [] => some upward.reverse
  | s :: ss =>
    if ((d.at? upward.reverse).map Entry.isFolder).getD false then
      if Path.isIdle s then d.follow upward ss
      else if s = Path.up then d.follow upward.tail ss
      else if (d.at? (s :: upward).reverse).isSome then d.follow (s :: upward) ss
      else none
    else none

/-- The path itself if it is absolute, and else the path behind that of the current directory. -/
def absolute (d : Disk) (p : Path) : Path := d.current.join p.bytes

/-- The location of a path, if anything is there. -/
def locate? (d : Disk) (p : Path) : Option Location :=
  if p.bytes.isEmpty then none else d.follow [] (Path.segments (d.absolute p).lead.2)

/-- The entry at a path. -/
def entry? (d : Disk) (p : Path) : Option Entry := (d.locate? p).bind d.at?

/-- Whether a file or a directory is at a path. -/
def has (d : Disk) (p : Path) : Bool := (d.entry? p).isSome

/-- Whether a directory is at a path. -/
def isFolder (d : Disk) (p : Path) : Bool := ((d.entry? p).map Entry.isFolder).getD false

/-- Whether a file is at a path. -/
def isFile (d : Disk) (p : Path) : Bool := ((d.entry? p).map (! ·.isFolder)).getD false

/-- The text of the file at a path, if there is one and it is UTF-8. -/
def readText? (d : Disk) (p : Path) : Option (List Char) :=
  match d.entry? p with
  | some (.file content) => Utf8.decode? content
  | _ => none

end Disk

end LintServer
