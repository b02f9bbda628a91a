import LintServer.Unicode.Property
import LintServer.Unicode.Table.Case

/-!
# Case

Two case operations: the set of characters that differ from a given one only by case (simple case
folding), and the lower case of a text, in which a capital sigma at the end of a word becomes the
final form.
-/

namespace LintServer.Unicode

open Table

/-! ## Mappings -/

/-- The image of a code point under one item of a mapping. -/
def Table.Item.map? (i : Item) (c : Nat) : Option Nat :=
  if i.lo ≤ c ∧ c ≤ i.hi ∧ (c - i.lo) % i.step = 0 then some (i.image + (c - i.lo)) else none

/-- The code points that one item of a mapping sends to `c`. -/
def Table.Item.preimage? (i : Item) (c : Nat) : Option Nat :=
  if i.image ≤ c ∧ c - i.image ≤ i.hi - i.lo ∧ (c - i.image) % i.step = 0 then
    some (i.lo + (c - i.image))
  else none

/-- Simple case folding as a mapping. -/
def foldItems : List Item := items foldText

/-- Lower case as a mapping. -/
def lowerItems : List Item := items lowerText

/-! ## Case variants -/

/-- The common form of the case variants of a code point. -/
def foldCode (c : Nat) : Nat := (foldItems.findSome? (·.map? c)).getD c

/-- The code points that have the same folded form as `c`. -/
def caseVariants (c : Nat) : List Nat :=
  let f := foldCode c
  f :: foldItems.filterMap (·.preimage? f)

/-- The part of a range that lies in an item, moved by the distance between the start of the item
and `target`. -/
def Table.Item.shift (i : Item) (target : Nat) (r : Range) : List Range :=
  let lo := max i.lo r.lo
  let hi := min i.hi r.hi
  if hi < lo then []
  else if i.step = 1 then [⟨target + (lo - i.lo), target + (hi - i.lo)⟩]
  else ((List.range (hi - lo + 1)).map (lo + ·)).filterMap fun c =>
    if (c - i.lo) % i.step = 0 then some ⟨target + (c - i.lo), target + (c - i.lo)⟩ else none

/-- The item that maps back what an item maps. -/
def Table.Item.inverse (i : Item) : Item :=
  { lo := i.image, hi := i.image + (i.hi - i.lo), step := i.step, image := i.lo }

/-- The set with the images of its members under a mapping. -/
def CharSet.withImages (s : CharSet) (m : List Item) : CharSet :=
  s.union (CharSet.ofRanges (m.flatMap fun i => s.ranges.flatMap (i.shift i.image)))

/-- Adds to a set all case variants of its members: first the folded forms, then everything that
folds to one of them. -/
def CharSet.foldCase (s : CharSet) : CharSet :=
  (s.withImages foldItems).withImages (foldItems.map Item.inverse)

/-- Adds the other case of the ASCII letters of a set. -/
def CharSet.foldAsciiCase (s : CharSet) : CharSet :=
  let lower := s.inter (.range 0x61 0x7A)
  let upper := s.inter (.range 0x41 0x5A)
  (s.union ⟨lower.ranges.map fun r => ⟨r.lo - 32, r.hi - 32⟩⟩).union
    ⟨upper.ranges.map fun r => ⟨r.lo + 32, r.hi + 32⟩⟩

/-! ## Lower case -/

/-- The lower case of one character: mostly one character, two for the capital dotted I. -/
def lowerChar (c : Char) : List Char :=
  if c.toNat < 128 then [c.toLower]
  else if c.toNat = 0x130 then ['i', '̇']
  else [Char.ofNat ((lowerItems.findSome? (·.map? c.toNat)).getD c.toNat)]

/-- Whether the next letter of a text, past characters that case ignores, has case. -/
def startsCased : List Char → Bool
  | [] => false
  | c :: cs =>
    if Property.caseIgnorable.contains c then startsCased cs else Property.cased.contains c

/-- Lower case of a text; `before` holds the characters already passed, the last one first. A
capital sigma is final when a cased letter precedes it and none follows it. -/
def lowerFrom (before : List Char) : List Char → List Char
  | [] => []
  | c :: cs =>
    let low :=
      if c = 'Σ' then [if startsCased before && !startsCased cs then 'ς' else 'σ'] else lowerChar c
    low ++ lowerFrom (c :: before) cs

/-- Lower case of a text. -/
def lower (s : String) : String := String.ofList (lowerFrom [] s.toList)

end LintServer.Unicode
