import LintServer.Regex.Escape

/-!
# Classes in brackets

A class in brackets is a union of items: characters, ranges, escapes, named ASCII classes and other
classes in brackets. Between unions stand the operators `&&`, `--` and `~~`, all of one precedence
and grouping to the left.

The reader walks the text once with a stack of what is still open. Each set is kept with its depth,
the number of constructs nested in it: a bracket, an operator and a union of several items count one
each.
-/

namespace LintServer.Regex

open LintServer.Unicode

/-! ## Named ASCII classes -/

/-- The ASCII class of a name. -/
def asciiClass? (name : List Char) : Option CharSet :=
  let name := String.ofList name
  let digit : Range := ⟨0x30, 0x39⟩
  let upper : Range := ⟨0x41, 0x5A⟩
  let lower : Range := ⟨0x61, 0x7A⟩
  if name = "alnum" then some ⟨[digit, upper, lower]⟩
  else if name = "alpha" then some ⟨[upper, lower]⟩
  else if name = "ascii" then some (.range 0x00 0x7F)
  else if name = "blank" then some ⟨[⟨0x09, 0x09⟩, ⟨0x20, 0x20⟩]⟩
  else if name = "cntrl" then some ⟨[⟨0x00, 0x1F⟩, ⟨0x7F, 0x7F⟩]⟩
  else if name = "digit" then some ⟨[digit]⟩
  else if name = "graph" then some (.range 0x21 0x7E)
  else if name = "lower" then some ⟨[lower]⟩
  else if name = "print" then some (.range 0x20 0x7E)
  else if name = "punct" then some ⟨[⟨0x21, 0x2F⟩, ⟨0x3A, 0x40⟩, ⟨0x5B, 0x60⟩, ⟨0x7B, 0x7E⟩]⟩
  else if name = "space" then some asciiSpaceSet
  else if name = "upper" then some ⟨[upper]⟩
  else if name = "word" then some asciiWordSet
  else if name = "xdigit" then some ⟨[digit, ⟨0x41, 0x46⟩, ⟨0x61, 0x66⟩]⟩
  else none

/-- Reads a named ASCII class such as `[:alpha:]` or `[:^alpha:]`, after its opening bracket. The
result tells whether the name is negated. -/
def readAsciiClass? (cs : List Char) : Option (CharSet × Bool × List Char) :=
  let named (negated : Bool) (cs : List Char) : Option (CharSet × Bool × List Char) :=
    match cs.dropWhile (· != ':') with
    | ':' :: ']' :: rest => (asciiClass? (cs.takeWhile (· != ':'))).map (·, negated, rest)
    | _ => none
  match cs with
  | ':' :: '^' :: cs => named true cs
  | ':' :: cs => named false cs
  | _ => none

/-! ## What is open -/

/-- An operator between two sets. -/
inductive SetOp where
  | inter | diff | symmDiff
deriving Repr, DecidableEq, Inhabited

/-- A set and the number of constructs nested in its text. -/
structure Nested where
  set : CharSet
  depth : Nat
deriving Repr, DecidableEq, Inhabited

/-- The items of a union read so far: what they hold, how many they are, and how deep. -/
structure Items where
  set : CharSet := .empty
  count : Nat := 0
  depth : Nat := 0
deriving Repr, DecidableEq, Inhabited

/-- Adds an item to a union. -/
def Items.add (u : Items) (s : CharSet) (depth : Nat) : Items :=
  ⟨u.set.union s, u.count + 1, max u.depth depth⟩

/-- A union as one set; only a union of several items is a construct of its own. -/
def Items.nested (u : Items) : Nested := ⟨u.set, if u.count ≤ 1 then u.depth else u.depth + 1⟩

/-- What is still open around the union that is being read. -/
inductive Opened where
  /-- A bracket, with the union in which it stands. -/
  | bracket (outer : Items) (negated : Bool)
  /-- An operator, with its left operand. -/
  | operator (op : SetOp) (left : Nested)
deriving Repr, DecidableEq, Inhabited

/-- Applies an operator. Case is folded on both sides first. -/
def SetOp.apply (f : Flags) (op : SetOp) (a b : CharSet) : CharSet :=
  let fold (s : CharSet) : CharSet :=
    if !f.ignoreCase then s else if f.unicode then s.foldCase else s.foldAsciiCase
  match op with
  | .inter => (fold a).inter (fold b)
  | .diff => (fold a).diff (fold b)
  | .symmDiff => (fold a).symmDiff (fold b)

/-- Completes the operator on top of the stack, if there is one, with its right operand. -/
def closeOperator (f : Flags) (right : Nested) : List Opened → Nested × List Opened
  | .operator op left :: stack =>
    (⟨op.apply f left.set right.set, max left.depth right.depth + 1⟩, stack)
  | stack => (right, stack)

/-! ## Items -/

/-- The character that follows, as the reader of ranges looks ahead to it in verbose patterns: past
blanks and one comment sign. -/
def peekPast (fallback : Option Char) : (comment : Bool) → List Char → Option Char
  | _, [] => fallback
  | comment, c :: cs =>
    if isSpace c then peekPast fallback comment cs
    else if !comment && c == '#' then peekPast fallback true cs
    else some c

/-- The character that a range reader sees after a hyphen. -/
def peekAfterHyphen (f : Flags) (cs : List Char) : Option Char :=
  if f.verbose then peekPast cs.head? false cs else cs.head?

/-- One item of a class: an escape or a character. -/
def readClassAtom (f : Flags) : List Char → Except SyntaxError (Escape × List Char)
  | [] => .error .classUnclosed
  | '\\' :: cs => readEscape f cs
  | c :: cs => .ok (.char c false, cs)

/-- A character as a member of a class; without Unicode it has to be ASCII. -/
def classMember (f : Flags) (c : Char) : Except SyntaxError Char :=
  if f.unicode || c.toNat < 128 then .ok c else .error .unicodeDisabled

/-- The set of an item that is no range. -/
def atomSet (f : Flags) : Escape → Except SyntaxError CharSet
  | .char c _ => (classMember f c).map .single
  | .set s => .ok s
  | .look _ => .error .classWithAssertion

/-- The end of a range. -/
def rangeEnd (f : Flags) : Escape → Except SyntaxError Char
  | .char c _ => classMember f c
  | _ => .error .classRangeOfSets

/-- Reads a range, or an item that is none. A hyphen before a closing bracket or before another
hyphen makes no range. -/
def readRange (f : Flags) (cs : List Char) : Except SyntaxError (CharSet × List Char) := do
  let (first, rest) ← readClassAtom f cs
  match skip f rest with
  | [] => .error .classUnclosed
  | '-' :: after =>
    let next := peekAfterHyphen f after
    if next = some ']' ∨ next = some '-' then
      return (← atomSet f first, '-' :: after)
    match skip f after with
    | [] => .error .classUnclosed
    | after =>
      let (second, rest) ← readClassAtom f after
      let lo ← rangeEnd f first
      let hi ← rangeEnd f second
      if hi < lo then .error .classRangeReversed
      else return (.range lo.toNat hi.toNat, rest)
  | rest => return (← atomSet f first, rest)

/-! ## Brackets -/

/-- Reads hyphens that stand for themselves at the start of a class. -/
def readHyphens (f : Flags) : (fuel : Nat) → Items → List Char →
    Except SyntaxError (Items × List Char)
  | 0, _, _ => .error .classUnclosed
  | _ + 1, _, [] => .error .classUnclosed
  | n + 1, u, c :: cs =>
    if c = '-' then readHyphens f n (u.add (.single '-') 0) (skip f cs) else .ok (u, c :: cs)

/-- Reads the start of a class, after its opening bracket: a negation, then hyphens, or a closing
bracket that stands for itself. -/
def readOpening (f : Flags) (cs : List Char) : Except SyntaxError (Bool × Items × List Char) := do
  let (negated, cs) :=
    match skip f cs with
    | '^' :: rest => (true, skip f rest)
    | rest => (false, rest)
  let (u, cs) ← readHyphens f (cs.length + 1) {} cs
  match cs with
  | ']' :: rest =>
    if u.count = 0 then
      match skip f rest with
      | [] => .error .classUnclosed
      | rest => return (negated, u.add (.single ']') 0, rest)
    else return (negated, u, cs)
  | _ => return (negated, u, cs)

/-- What one step of the reader of classes yields: more of the class, or the whole of it. -/
inductive ClassStep where
  | more (stack : List Opened) (u : Items) (rest : List Char)
  | done (class_ : Nested) (rest : List Char)
deriving Repr, Inhabited

/-- Closes a bracket. The stack holds the bracket itself, perhaps under an operator. -/
def closeBracket (f : Flags) (stack : List Opened) (u : Items) (rest : List Char) :
    Except SyntaxError ClassStep := do
  let (inner, stack) := closeOperator f u.nested stack
  match stack with
  | .bracket outer negated :: stack =>
    let s ← foldAndNegate f negated inner.set
    if stack.isEmpty then return .done ⟨s, inner.depth + 1⟩ rest
    else return .more stack (outer.add s (inner.depth + 1)) rest
  | _ => .error .classUnclosed

/-- Opens a bracket. -/
def openBracket (f : Flags) (stack : List Opened) (u : Items) (cs : List Char) :
    Except SyntaxError ClassStep := do
  let (negated, inner, rest) ← readOpening f cs
  return .more (.bracket u negated :: stack) inner rest

/-- One step of the reader of classes. -/
def classStep (f : Flags) (stack : List Opened) (u : Items) (cs : List Char) :
    Except SyntaxError ClassStep :=
  let operator (op : SetOp) (rest : List Char) : Except SyntaxError ClassStep :=
    let (left, stack) := closeOperator f u.nested stack
    .ok (.more (.operator op left :: stack) {} rest)
  match skip f cs with
  | [] => .error .classUnclosed
  | '[' :: rest =>
    match readAsciiClass? rest with
    | some (s, negated, rest) =>
      (foldAndNegate f negated s).map fun s => .more stack (u.add s 0) rest
    | none => openBracket f stack u rest
  | ']' :: rest => closeBracket f stack u rest
  | '&' :: '&' :: rest => operator .inter rest
  | '-' :: '-' :: rest => operator .diff rest
  | '~' :: '~' :: rest => operator .symmDiff rest
  | cs => (readRange f cs).map fun p => .more stack (u.add p.1 0) p.2

/-- Reads the rest of a class. -/
def classLoop (f : Flags) : (fuel : Nat) → List Opened → Items → List Char →
    Except SyntaxError (Nested × List Char)
  | 0, _, _, _ => .error .classUnclosed
  | n + 1, stack, u, cs =>
    match classStep f stack u cs with
    | .error e => .error e
    | .ok (.done s rest) => .ok (s, rest)
    | .ok (.more stack u rest) => classLoop f n stack u rest

/-- Reads a class, after its opening bracket. -/
def readClass (f : Flags) (cs : List Char) : Except SyntaxError (Nested × List Char) :=
  match openBracket f [] {} cs with
  | .ok (.more stack u rest) => classLoop f (rest.length + 1) stack u rest
  | .ok (.done s rest) => .ok (s, rest)
  | .error e => .error e

end LintServer.Regex
