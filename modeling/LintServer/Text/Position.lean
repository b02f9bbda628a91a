/-!
# Positions in a text

An offset counts bytes of UTF-8 from the start of a text; a position is a line and a column, both
counted from zero, where columns count UTF-16 code units. A line ends with `\r\n`, `\r` or `\n`, and
the two characters of `\r\n` end one line. An offset between them is at the end of that line.
-/

namespace LintServer

/-- A line and a column of UTF-16 code units. -/
structure Position where
  line : Nat
  column : Nat
deriving Repr, DecidableEq, Inhabited

/-- A stretch between two positions. -/
structure PositionRange where
  start : Position
  stop : Position
deriving Repr, DecidableEq, Inhabited

/-- The number of UTF-16 code units of a character. -/
def utf16Size (c : Char) : Nat := if c.toNat < 0x10000 then 1 else 2

/-- The position after a character that stands at `p` and is followed by `rest`. The `\r` of `\r\n`
takes no room, for the pair is counted at its `\n`. -/
def Position.past (p : Position) (c : Char) (rest : List Char) : Position :=
  if c = '\r' then
    if rest.head? = some '\n' then p else ⟨p.line + 1, 0⟩
  else if c = '\n' then ⟨p.line + 1, 0⟩
  else ⟨p.line, p.column + utf16Size c⟩

/-- The position of an offset, counted from the start of `text`, which itself is at `p`. There is
none inside a character and none beyond the end. -/
def Position.advance (p : Position) (offset : Nat) : (text : List Char) → Option Position
  | [] => if offset = 0 then some p else none
  | c :: rest =>
    if offset = 0 then some p
    else if offset < c.utf8Size then none
    else (p.past c rest).advance (offset - c.utf8Size) rest

/-- The position of an offset in a text. -/
def positionAt (text : List Char) (offset : Nat) : Option Position :=
  (⟨0, 0⟩ : Position).advance offset text

/-- The positions of two offsets in a text. -/
def rangeBetween (text : List Char) (start stop : Nat) : Option PositionRange :=
  match positionAt text start, positionAt text stop with
  | some s, some e => some ⟨s, e⟩
  | _, _ => none

end LintServer
