import LintServer.Unicode.CharSet

/-!
# Reading the property tables

A table writes its code points in hexadecimal, separated by blanks. One item is

* `a`, a single code point,
* `a-b`, a range,
* `a-b/2`, every second code point of a range;

in a mapping each item is followed by `>c`, the image of its first code point; the other code points
of the item keep the same distance to their images.
-/

namespace LintServer.Unicode.Table

/-- One item of a table. -/
structure Item where
  lo : Nat
  hi : Nat
  step : Nat := 1
  image : Nat := 0
deriving Repr, Inhabited

/-- The value of a hexadecimal digit; zero for any other character. -/
def hexValue (c : Char) : Nat :=
  if '0' ≤ c ∧ c ≤ '9' then c.toNat - '0'.toNat
  else if 'A' ≤ c ∧ c ≤ 'F' then c.toNat - 'A'.toNat + 10
  else 0

/-- Which number of an item is being read. -/
inductive Field where
  | lo | hi | step | image
deriving Repr, DecidableEq

/-- Adds a digit to the field of an item that is being read. A lower end is its own upper end until
one is given. -/
def Item.digit (i : Item) (f : Field) (c : Char) : Item :=
  let d := hexValue c
  match f with
  | .lo => { i with lo := i.lo * 16 + d, hi := i.lo * 16 + d }
  | .hi => { i with hi := i.hi * 16 + d }
  | .step => { i with step := d }
  | .image => { i with image := i.image * 16 + d }

/-- Reads the items that remain; `i` is the one being read. -/
def readItems (i : Item) (f : Field) : List Char → List Item
  | [] => [i]
  | ' ' :: cs => i :: readItems ⟨0, 0, 1, 0⟩ .lo cs
  | '-' :: cs => readItems { i with hi := 0 } .hi cs
  | '/' :: cs => readItems i .step cs
  | '>' :: cs => readItems i .image cs
  | c :: cs => readItems (i.digit f c) f cs

/-- The items of a table, given line by line. -/
def items (lines : List String) : List Item :=
  lines.flatMap fun s => if s.isEmpty then [] else readItems ⟨0, 0, 1, 0⟩ .lo s.toList

/-- The code points of an item, as ranges. -/
def Item.ranges (i : Item) : List Range :=
  if i.step = 1 then [⟨i.lo, i.hi⟩]
  else (List.range ((i.hi - i.lo) / i.step + 1)).map fun k =>
    ⟨i.lo + k * i.step, i.lo + k * i.step⟩

/-- The set that a table lists; tables list their code points in ascending order. -/
def charSet (lines : List String) : CharSet :=
  match (items lines).flatMap Item.ranges with
  | [] => .empty
  | r :: rest => ⟨CharSet.coalesce r rest⟩

/-- Finds the row of a name in a table of named sets. -/
def row? (rows : List (List String × List String)) (name : String) : Option CharSet :=
  (rows.find? fun row => row.1.contains name).map fun row => charSet row.2

end LintServer.Unicode.Table
