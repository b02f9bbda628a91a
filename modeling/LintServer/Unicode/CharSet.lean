/-!
# Sets of characters

A set of code points is a list of closed ranges. Every set built here keeps its ranges

1. in ascending order,
2. disjoint, and
3. with at least one code point between two neighbours,

so a set has one representation and membership can stop at the first range that lies beyond the
code point it looks for.
-/

namespace LintServer.Unicode

/-- A closed range of code points. -/
structure Range where
  lo : Nat
  hi : Nat
deriving Repr, DecidableEq, Inhabited

/-- The largest code point. -/
def maxCodePoint : Nat := 0x10FFFF

/-- A set of code points as ascending, separated ranges. -/
structure CharSet where
  ranges : List Range
deriving Repr, DecidableEq, Inhabited

namespace CharSet

/-! ## Membership -/

/-- Whether a code point lies in one of some ascending ranges. -/
def memRanges (c : Nat) : List Range → Bool
  | [] => false
  | r :: rest => if c < r.lo then false else if c ≤ r.hi then true else memRanges c rest

/-- Whether the set holds a code point. -/
def containsCode (s : CharSet) (c : Nat) : Bool := memRanges c s.ranges

/-- Whether the set holds a character. -/
def contains (s : CharSet) (c : Char) : Bool := s.containsCode c.toNat

/-! ## Construction -/

/-- The set with no member. -/
def empty : CharSet := ⟨[]⟩

/-- The set of all code points. -/
def all : CharSet := ⟨[⟨0, maxCodePoint⟩]⟩

/-- The set of the code points from `lo` to `hi`. -/
def range (lo hi : Nat) : CharSet := ⟨[⟨lo, hi⟩]⟩

/-- The set with one member. -/
def single (c : Char) : CharSet := range c.toNat c.toNat

/-- Merges two lists of ranges by their lower ends. The first argument bounds the number of steps. -/
def mergeByLo : Nat → List Range → List Range → List Range
  | 0, a, b => a ++ b
  | _ + 1, [], b => b
  | _ + 1, a, [] => a
  | n + 1, x :: xs, y :: ys =>
    if x.lo ≤ y.lo then x :: mergeByLo n xs (y :: ys) else y :: mergeByLo n (x :: xs) ys

/-- Joins ranges, ordered by lower end, that overlap or touch; `r` is the range being grown. -/
def coalesce : Range → List Range → List Range
  | r, [] => [r]
  | r, s :: rest =>
    if s.lo ≤ r.hi + 1 then coalesce ⟨r.lo, max r.hi s.hi⟩ rest else r :: coalesce s rest

/-- The members of either set. -/
def union (a b : CharSet) : CharSet :=
  match mergeByLo (a.ranges.length + b.ranges.length) a.ranges b.ranges with
  | [] => empty
  | r :: rest => ⟨coalesce r rest⟩

/-- Adds one range to a set. -/
def insertRange (s : CharSet) (lo hi : Nat) : CharSet := s.union (range lo hi)

/-- The set of the code points of a list of ranges in any order. -/
def ofRanges (rs : List Range) : CharSet :=
  match rs.mergeSort fun r s => r.lo ≤ s.lo with
  | [] => empty
  | r :: rest => ⟨coalesce r rest⟩

/-- The gaps that ascending ranges leave from `start` up to the largest code point. -/
def gaps (start : Nat) : List Range → List Range
  | [] => if start ≤ maxCodePoint then [⟨start, maxCodePoint⟩] else []
  | r :: rest => if start < r.lo then ⟨start, r.lo - 1⟩ :: gaps (r.hi + 1) rest else gaps (r.hi + 1) rest

/-- The code points that are no member. -/
def complement (s : CharSet) : CharSet := ⟨gaps 0 s.ranges⟩

/-- The common members of two sets. -/
def inter (a b : CharSet) : CharSet := (a.complement.union b.complement).complement

/-- The members of the first set that are not in the second. -/
def diff (a b : CharSet) : CharSet := (a.complement.union b).complement

/-- The members of exactly one of two sets. -/
def symmDiff (a b : CharSet) : CharSet := (a.union b).diff (a.inter b)

/-- The members of any set of a list. -/
def unionAll (ss : List CharSet) : CharSet := ss.foldl union empty

/-! ## Views -/

/-- Whether all members are below 128. -/
def isAscii (s : CharSet) : Bool := s.ranges.all fun r => r.hi < 128

/-- Whether the set has no member. -/
def isEmpty (s : CharSet) : Bool := s.ranges.isEmpty

/-- The only member of a set that has exactly one. -/
def theMember? (s : CharSet) : Option Nat :=
  match s.ranges with
  | [r] => if r.lo = r.hi then some r.lo else none
  | _ => none

end CharSet

end LintServer.Unicode
