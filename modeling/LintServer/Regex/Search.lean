import LintServer.Regex.Program

/-!
# Searching

A program is run on all places of the text at once. The state of the search at a place is a list of
threads in order of preference; a thread is an instruction and the place where its match started.
Of two threads at one instruction only the preferred one is kept, so the list is never longer than
the program. Earlier starts are preferred to later ones, and among equal starts the order of the
program decides.
-/

namespace LintServer.Regex

/-! ## Threads -/

/-- A way in which a match may go on: the next instruction, and the number of characters before the
start of the match. -/
structure Thread where
  pc : Nat
  start : Nat
deriving Repr, DecidableEq, Inhabited

/-- Which instructions were reached at the current place: those whose entry is the number of that
place. -/
structure Marks where
  entries : Array Nat
  place : Nat
deriving Repr, Inhabited

/-- Whether an instruction was reached. -/
def Marks.has (m : Marks) (pc : Nat) : Bool := m.entries[pc]? == some m.place

/-- Records that an instruction was reached. -/
def Marks.add (m : Marks) (pc : Nat) : Marks := { m with entries := m.entries.setIfInBounds pc m.place }

/-- The threads that wait for a character at a place, the start of a match that is complete there,
and the marks. -/
structure Reached where
  waiting : List Thread
  complete : Option Nat
  marks : Marks
deriving Repr, Inhabited

/-- Follows threads through the instructions that consume nothing. `todo` is in order of preference,
`waiting` collects what waits for a character, the last one first. A thread that completes the match
ends the work, for all others are less preferred. -/
def Program.follow (p : Program) (at_ : Cursor) : (fuel : Nat) → (todo waiting : List Thread) →
    Marks → Reached
  | 0, _, waiting, marks => ⟨waiting.reverse, none, marks⟩
  | _ + 1, [], waiting, marks => ⟨waiting.reverse, none, marks⟩
  | n + 1, t :: todo, waiting, marks =>
    if marks.has t.pc then p.follow at_ n todo waiting marks
    else
      let marks := marks.add t.pc
      match p.code[t.pc]? with
      | none => p.follow at_ n todo waiting marks
      | some .done => ⟨waiting.reverse, some t.start, marks⟩
      | some (.char _ _) => p.follow at_ n todo (t :: waiting) marks
      | some (.look a next) =>
        if a.holds at_ then p.follow at_ n ({ t with pc := next } :: todo) waiting marks
        else p.follow at_ n todo waiting marks
      | some (.split first second) =>
        p.follow at_ n ({ t with pc := first } :: { t with pc := second } :: todo) waiting marks

/-- The thread after it has consumed a character, if it can. -/
def Program.consume? (p : Program) (c : Char) (t : Thread) : Option Thread :=
  match p.code[t.pc]? with
  | some (.char set next) => if set.contains c then some { t with pc := next } else none
  | _ => none

/-! ## Finding a match -/

/-- Where a match lies, in characters from the place where the search began. -/
structure Found where
  skipped : Nat
  length : Nat
deriving Repr, DecidableEq, Inhabited

/-- Searches on from a place. `arrived` are the threads that come in from the character before it,
`place` counts the characters passed, and `best` is the match found so far. As long as there is
none, a match may also start here. -/
def Program.scan (p : Program) (before : Option Char) (rest : List Char) (place : Nat)
    (arrived : List Thread) (best : Option Found) (entries : Array Nat) : Option Found :=
  let todo := if best.isNone then arrived ++ [⟨p.start, place⟩] else arrived
  if todo.isEmpty then best
  else
    let fuel := todo.length + 2 * p.code.size + 1
    let reached := p.follow ⟨before, rest⟩ fuel todo [] ⟨entries, place + 1⟩
    let best :=
      match reached.complete with
      | some start => some ⟨start, place - start⟩
      | none => best
    match rest with
    | [] => best
    | c :: cs =>
      p.scan (some c) cs (place + 1) (reached.waiting.filterMap (p.consume? c)) best
        reached.marks.entries
termination_by structural rest

/-- The first match at or after a place: of those that start first, the preferred one. -/
def Program.find? (p : Program) (at_ : Cursor) : Option Found :=
  p.scan at_.before at_.rest 0 [] none (Array.replicate p.code.size 0)

end LintServer.Regex
