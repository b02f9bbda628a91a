import LintServer.Disk.Edit

/-!
# What a change touches

A change of the disk touches entries of directories: those that it creates, rewrites, removes or
renames. A directory that is removed takes everything in it along, so all of that is touched as well;
a directory that is renamed keeps what is in it.
-/

namespace LintServer

/-- An entry that a change touches. -/
structure Touch where
  location : Location
  /-- Whether the entry is new under its name, or was renamed. -/
  appeared : Bool
deriving Repr, DecidableEq, Inhabited

mutual

/-- The locations of an entry and of all that is below it. -/
def Entry.locations (here : Location) : Entry → List Location
  | .file _ => [here]
  | .folder es => here :: locationsAmong here es
termination_by structural e => e

/-- The locations of entries of a directory and of all that is below them. -/
def locationsAmong (here : Location) : List (Name × Entry) → List Location
  | [] => []
  | (n, e) :: rest => e.locations (here ++ [n]) ++ locationsAmong here rest
termination_by structural es => es

end

namespace Disk

/-- The entries that are missing on the way to a location, the outermost first. -/
def missing (d : Disk) (l : Location) : List Touch :=
  ((List.range l.length).map fun n => l.take (n + 1)).filterMap fun here =>
    if (d.at? here).isSome then none else some ⟨here, true⟩

/-- The entries that a change of the disk touches. -/
def touches (d : Disk) : Edit → List Touch
  | .write p _ =>
    let l := d.place p
    if (d.at? l).isSome then [⟨l, false⟩] else d.missing l
  | .makeFolder p => d.missing (d.place p)
  | .remove p =>
    match d.at? (d.place p) with
    | some e => (e.locations (d.place p)).map (⟨·, false⟩)
    | none => []
  | .rename source target => [⟨d.place source, true⟩, ⟨d.place target, true⟩]

end Disk

end LintServer
