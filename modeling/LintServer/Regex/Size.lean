import LintServer.Regex.Expr

/-!
# How big an expression is

A pattern is refused when the automaton of its expression would be too big. The size is that of a
byte automaton over UTF-8, in bytes:

* a state takes 32 bytes, each branch of a choice 4 more and each arc of a branching state 8 more;
* the automaton is counted once forwards, where a capturing group takes two states, and once
  backwards, where it takes none;
* a repetition counts its copies.

Nothing is built here: the size of many copies is a product.
-/

namespace LintServer.Regex

open LintServer.Unicode

/-! ## Characters as bytes -/

/-- The bytes of a code point in UTF-8. -/
def utf8Bytes (c : Nat) : List Nat :=
  if c < 0x80 then [c]
  else if c < 0x800 then [0xC0 + c / 0x40, 0x80 + c % 0x40]
  else if c < 0x10000 then [0xE0 + c / 0x1000, 0x80 + c / 0x40 % 0x40, 0x80 + c % 0x40]
  else [0xF0 + c / 0x40000, 0x80 + c / 0x1000 % 0x40, 0x80 + c / 0x40 % 0x40, 0x80 + c % 0x40]

/-- A place at which a range of code points must be cut so that the bytes of each part vary
independently: the last code point of the first part. The candidates are the surrogates, the ends of
the lengths, and the blocks of 64, 64² and 64³ code points. -/
def cut? (lo hi : Nat) : Option Nat :=
  let block (m : Nat) : Option Nat :=
    if lo / m = hi / m then none
    else if lo % m ≠ 0 then some (lo / m * m + (m - 1))
    else if hi % m ≠ m - 1 then some (hi / m * m - 1)
    else none
  if lo < 0xD800 ∧ 0xD800 ≤ hi then some 0xD7FF
  else if lo ≤ 0xDFFF ∧ 0xD800 ≤ lo ∧ 0xDFFF < hi then some 0xDFFF
  else if lo < 0x80 ∧ 0x80 ≤ hi then some 0x7F
  else if lo < 0x800 ∧ 0x800 ≤ hi then some 0x7FF
  else if lo < 0x10000 ∧ 0x10000 ≤ hi then some 0xFFFF
  else if hi < 0x80 then none
  else (block 0x40).or ((block 0x1000).or (block 0x40000))

/-- Cuts a range of code points until the bytes of each part vary independently. Surrogates, which
have no bytes, are left out. -/
def pieces : (fuel : Nat) → (lo hi : Nat) → List (List (Nat × Nat))
  | 0, _, _ => []
  | n + 1, lo, hi =>
    match cut? lo hi with
    | some mid => pieces n lo mid ++ pieces n (mid + 1) hi
    | none => if 0xD800 ≤ lo ∧ hi ≤ 0xDFFF then [] else [(utf8Bytes lo).zip (utf8Bytes hi)]

/-- The sequences of byte ranges that encode the members of a set, in ascending order. -/
def byteSequences (s : CharSet) : List (List (Nat × Nat)) :=
  s.ranges.flatMap fun r => pieces 40 r.lo r.hi

/-- The length of the common start of two lists. -/
def commonLength : List (Nat × Nat) → List (Nat × Nat) → Nat
  | a :: as, b :: bs => if a = b then commonLength as bs + 1 else 0
  | _, _ => 0

/-- The number of different non-empty beginnings of sequences in ascending order. -/
def countBeginnings (previous : List (Nat × Nat)) : List (List (Nat × Nat)) → Nat
  | [] => 0
  | s :: rest => (s.length - commonLength previous s) + countBeginnings s rest

/-! ## States that share their continuations -/

/-- A state of a tree of sequences: its arcs, each with the number of the state that it leads to;
number 0 is the end. -/
abbrev Arcs := List (Nat × Nat × Nat)

/-- The states found so far, the newest first. -/
abbrev States := List Arcs

/-- The number of a state, which is added unless an equal one is there. -/
def States.number (t : States) (s : Arcs) : Nat × States :=
  match t.idxOf? s with
  | some i => (t.length - i, t)
  | none => (t.length + 1, s :: t)

/-- Sequences in ascending order by their first byte range. -/
def groupByHead : List (List (Nat × Nat)) → List ((Nat × Nat) × List (List (Nat × Nat)))
  | [] => []
  | [] :: rest => groupByHead rest
  | (r :: tail) :: rest =>
    match groupByHead rest with
    | (r', tails) :: groups =>
      if r = r' then (r, tail :: tails) :: groups else (r, [tail]) :: (r', tails) :: groups
    | [] => [(r, [tail])]

/-- Numbers the states of a tree of sequences from its leaves. No sequence is longer than four, which
bounds the depth of the tree. -/
def numberStates : (depth : Nat) → List (List (Nat × Nat)) → States → Nat × States
  | 0, _, t => (0, t)
  | n + 1, seqs, t =>
    match groupByHead seqs with
    | [] => (0, t)
    | groups =>
      let (arcs, t) := groups.foldl (fun (arcs, t) (r, tails) =>
        let (child, t) := numberStates n tails t
        (arcs ++ [(r.1, r.2, child)], t)) (([] : Arcs), t)
      t.number arcs

/-! ## Sizes -/

/-- The bytes of one state. -/
def stateSize : Nat := 32

/-- The bytes of an arc of a branching state. -/
def arcSize : Nat := 8

/-- The bytes of a branch of a choice. -/
def branchSize : Nat := 4

/-- The size of a set. Forwards, equal continuations are shared; backwards, equal beginnings are. -/
def setSize (backwards : Bool) (s : CharSet) : Nat :=
  match s.theMember? with
  | some c => stateSize * (utf8Bytes c).length
  | none =>
    if s.isEmpty then stateSize
    else if s.isAscii then 2 * stateSize + arcSize * s.ranges.length
    else
      let seqs := byteSequences s
      if backwards then
        2 * stateSize + branchSize * seqs.length + stateSize * countBeginnings [] seqs
      else
        let states := (numberStates 5 seqs []).2
        states.foldl (fun n arcs => n + stateSize + arcSize * arcs.length) stateSize

/-- The size of an expression, with the sum and the number of the branches of its outermost
choice. -/
structure Footprint where
  total : Nat
  branches : Nat
  count : Nat
deriving Repr, Inhabited

/-- The footprint of an expression that is no choice. -/
def Footprint.ofTotal (n : Nat) : Footprint := ⟨n, n, 1⟩

/-- The footprint of an expression. -/
def Expr.footprint (backwards : Bool) : Expr → Footprint
  | .empty => .ofTotal stateSize
  | .chars s => .ofTotal (setSize backwards s)
  | .look _ => .ofTotal stateSize
  | .group e =>
    .ofTotal ((if backwards then 0 else 2 * stateSize) + (e.footprint backwards).total)
  | .cat a b => .ofTotal ((a.footprint backwards).total + (b.footprint backwards).total)
  | .alt a b =>
    let fa := a.footprint backwards
    let fb := b.footprint backwards
    let sum := fa.branches + fb.branches
    let count := fa.count + fb.count
    ⟨sum + 2 * stateSize + branchSize * count, sum, count⟩
  | .rep min max _ e =>
    let size := (e.footprint backwards).total
    let choice := stateSize + 2 * branchSize
    match max with
    | none =>
      if 0 < min then .ofTotal (min * size + choice)
      else if e.isNullable then .ofTotal (size + 2 * choice + stateSize)
      else .ofTotal (size + choice)
    | some max =>
      if min = max then .ofTotal (min * size)
      else if min = 0 ∧ max = 1 then .ofTotal (size + choice + stateSize)
      else
        let required := if min = 0 then stateSize else min * size
        .ofTotal (required + stateSize + (max - min) * (choice + size))

/-- The size of the automaton of an expression: the expression, the end, forwards also the group
around the whole, and before it a search for the place where the match starts. -/
def Expr.automatonSize (backwards : Bool) (e : Expr) : Nat :=
  let search :=
    if !backwards && e.isAnchored then stateSize
    else 3 * stateSize + 2 * branchSize + arcSize
  let group := if backwards then 0 else 2 * stateSize
  (e.footprint backwards).total + stateSize + group + search

/-- The size at which a pattern is refused: ten mebibytes. -/
def sizeLimit : Nat := 10485760

/-- Whether an expression is too big. -/
def Expr.isTooBig (e : Expr) : Bool :=
  sizeLimit < e.automatonSize false || sizeLimit < e.automatonSize true

end LintServer.Regex
