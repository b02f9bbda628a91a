import LintServer.Regex.Bracket

/-!
# Patterns

The text of a regular expression. A pattern is read in one pass: what is read so far is a stack of
open groups, each with its finished alternatives and the items of the alternative being read.

Constructs may be nested at most 250 deep. A group, a repetition, a sequence of several items and an
alternation of several branches count one each, and so do the constructs of a class.
-/

namespace LintServer.Regex

open LintServer.Unicode

/-! ## Items and levels -/

/-- An item of a pattern: the expression it denotes and the number of constructs nested in it. A
setting of flags is an item too, but no repetition can follow it. -/
structure Item where
  expr : Expr
  depth : Nat := 0
  setsFlags : Bool := false
deriving Repr, Inhabited

/-- What is read of a group: the finished alternatives and the items of the current one, each with
the last one first. -/
structure Level where
  branches : List Item := []
  items : List Item := []
deriving Repr, Inhabited

/-- A group that is still open: what surrounds it, and the flags to return to at its end. -/
structure Group where
  outer : Level
  flags : Flags
  captures : Bool
deriving Repr, Inhabited

/-- The reader's state. -/
structure Reading where
  flags : Flags := {}
  names : List (List Char) := []
  level : Level := {}
  groups : List Group := []
deriving Repr, Inhabited

/-- The greatest depth of some items. -/
def maxDepth (items : List Item) : Nat := items.foldl (fun d i => max d i.depth) 0

/-- Items in sequence, given with the last one first. -/
def sequenceItem (items : List Item) : Item :=
  match items with
  | [] => { expr := .empty }
  | [i] => { i with setsFlags := false }
  | items =>
    let es := (items.reverse.map (·.expr)).filter (· != .empty)
    { expr := Expr.concat es, depth := maxDepth items + 1 }

/-- Alternatives, given with the last one first. -/
def choiceItem (branches : List Item) : Item :=
  match branches with
  | [i] => i
  | branches =>
    { expr := Expr.oneOf (branches.reverse.map (·.expr)), depth := maxDepth branches + 1 }

/-- All that was read of a group as one item. -/
def Level.close (l : Level) : Item := choiceItem (sequenceItem l.items :: l.branches)

/-- Adds an item to the current alternative. -/
def Reading.push (r : Reading) (i : Item) : Reading :=
  { r with level := { r.level with items := i :: r.level.items } }

/-- Adds an item without constructs of its own. -/
def Reading.pushExpr (r : Reading) (e : Expr) : Reading := r.push { expr := e }

/-! ## Single items -/

/-- A character as an expression: with case ignored, the set of its case variants. -/
def charExpr (f : Flags) (c : Char) : Expr :=
  if !f.ignoreCase then .chars (.single c)
  else if f.unicode then .chars (CharSet.ofRanges ((caseVariants c.toNat).map fun v => ⟨v, v⟩))
  else .chars (CharSet.foldAsciiCase (.single c))

/-- The dot: any character but a line end, or any character at all. Without Unicode it would match
parts of characters, so it is refused. -/
def dotExpr (f : Flags) : Except SyntaxError Expr :=
  if !f.unicode then .error .notCharacters
  else if f.dotAll then .ok (.chars .all)
  else if f.crlf then .ok (.chars (CharSet.complement ⟨[⟨0x0A, 0x0A⟩, ⟨0x0D, 0x0D⟩]⟩))
  else .ok (.chars (CharSet.complement (.single '\n')))

/-- An escape as an expression. -/
def escapeExpr (f : Flags) : Escape → Except SyntaxError Expr
  | .char c twoDigits =>
    if !f.unicode && twoDigits && 128 ≤ c.toNat then .error .notCharacters else .ok (charExpr f c)
  | .set s => .ok (.chars s)
  | .look a => .ok (.look a)

/-! ## Repetitions -/

/-- Reads decimal digits. -/
def readDigits (f : Flags) : (fuel : Nat) → List Char → List Char × List Char
  | 0, cs => ([], cs)
  | _ + 1, [] => ([], [])
  | n + 1, c :: cs =>
    if c.isDigit then
      let p := readDigits f n (skip f cs)
      (c :: p.1, p.2)
    else ([], c :: cs)

/-- The value of a list of decimal digits. -/
def decimalValue (ds : List Char) : Nat := ds.foldl (fun n d => n * 10 + (d.toNat - '0'.toNat)) 0

/-- Reads a count of a repetition, with blanks around it. A count has at most 32 bits. -/
def readCount (f : Flags) (cs : List Char) : Except SyntaxError (Nat × List Char) :=
  let cs := cs.dropWhile isSpace
  let (ds, rest) := readDigits f (cs.length + 1) cs
  let n := decimalValue ds
  if ds.isEmpty || 0x100000000 ≤ n then .error .repetitionMalformed
  else .ok (n, rest.dropWhile isSpace)

/-- The bounds of a counted repetition, after its opening brace, and what follows the closing one. -/
def readBounds (f : Flags) (cs : List Char) :
    Except SyntaxError (Nat × Option Nat × List Char) := do
  let (least, rest) ← readCount f (skip f cs)
  match rest with
  | '}' :: rest => return (least, some least, rest)
  | ',' :: rest =>
    match skip f rest with
    | '}' :: rest => return (least, none, rest)
    | rest =>
      let (most, rest) ← readCount f rest
      match rest with
      | '}' :: rest => if most < least then .error .repetitionReversed else return (least, some most, rest)
      | _ => .error .repetitionMalformed
  | _ => .error .repetitionMalformed

/-- Repeats the last item. A question mark right after the operator turns its preference around. -/
def Reading.repeatLast (r : Reading) (least : Nat) (most : Option Nat) (rest : List Char) :
    Except SyntaxError (Reading × List Char) :=
  match r.level.items with
  | [] => .error .repetitionOfNothing
  | i :: items =>
    if i.setsFlags then .error .repetitionOfNothing
    else
      let (lazy, rest) :=
        match rest with
        | '?' :: rest => (true, rest)
        | _ => (false, rest)
      let e := Expr.repeated least most (lazy == r.flags.swapGreed) i.expr
      .ok ({ r with level := { r.level with items := { expr := e, depth := i.depth + 1 } :: items } },
        rest)

/-! ## Groups -/

/-- Whether a character can stand in a group's name. -/
def isNameChar (first : Bool) (c : Char) : Bool :=
  if first then c == '_' || isAlphabetic c
  else c == '_' || c == '.' || c == '[' || c == ']' || isAlphanumeric c

/-- Reads a group's name up to the closing angle bracket. -/
def readName (first : Bool) : List Char → Except SyntaxError (List Char × List Char)
  | [] => .error .groupNameMalformed
  | c :: cs =>
    if c = '>' then if first then .error .groupNameMalformed else .ok ([], cs)
    else if isNameChar first c then (readName false cs).map fun p => (c :: p.1, p.2)
    else .error .groupNameMalformed

/-- The flags of a group or of a setting, and how they end. -/
structure FlagText where
  flags : Flags
  isEmpty : Bool
  opensGroup : Bool
  rest : List Char
deriving Repr, Inhabited

/-- Reads flags up to `:`, which opens a group, or `)`, which ends a setting. Letters after a hyphen
are cleared. -/
def readFlags (f : Flags) (seen : List Char) (dangling : Bool) :
    List Char → Except SyntaxError FlagText
  | [] => .error .flagsUnfinished
  | c :: cs =>
    if c = ':' ∨ c = ')' then
      if dangling then .error .flagsDanglingNegation
      else .ok { flags := f, isEmpty := seen.isEmpty, opensGroup := c = ':', rest := cs }
    else if c = '-' then
      if seen.contains '-' then .error .flagRepeated else readFlags f ('-' :: seen) true cs
    else
      match f.set? c (!seen.contains '-') with
      | none => .error .flagUnknown
      | some g => if seen.contains c then .error .flagRepeated else readFlags g (c :: seen) false cs

/-- Opens a group under the given flags. -/
def Reading.openGroup (r : Reading) (flags : Flags) (captures : Bool) : Reading :=
  { r with
    flags := flags
    level := {}
    groups := { outer := r.level, flags := r.flags, captures := captures } :: r.groups }

/-- Opens a group with a name; names differ from each other. -/
def Reading.openNamed (r : Reading) (cs : List Char) : Except SyntaxError (Reading × List Char) := do
  let (name, rest) ← readName true cs
  if r.names.contains name then .error .groupNameRepeated
  else return ({ r.openGroup r.flags true with names := name :: r.names }, rest)

/-- Reads the start of a group, after its parenthesis. -/
def Reading.openParen (r : Reading) (cs : List Char) : Except SyntaxError (Reading × List Char) := do
  match skip r.flags cs with
  | '?' :: '=' :: _ | '?' :: '!' :: _ | '?' :: '<' :: '=' :: _ | '?' :: '<' :: '!' :: _ =>
    .error .lookAround
  | '?' :: 'P' :: '<' :: rest => r.openNamed rest
  | '?' :: '<' :: rest => r.openNamed rest
  | '?' :: rest =>
    let t ← readFlags r.flags [] false rest
    if t.opensGroup then return (r.openGroup t.flags false, t.rest)
    else if t.isEmpty then .error .repetitionOfNothing
    else return ({ r with flags := t.flags }.push { expr := .empty, setsFlags := true }, t.rest)
  | rest => return (r.openGroup r.flags true, rest)

/-- Closes the innermost group. -/
def Reading.closeParen (r : Reading) (rest : List Char) : Except SyntaxError (Reading × List Char) :=
  match r.groups with
  | [] => .error .groupUnopened
  | g :: groups =>
    let inner := r.level.close
    let e := if g.captures then .group inner.expr else inner.expr
    let closed := { r with flags := g.flags, level := g.outer, groups := groups }
    .ok (closed.push { expr := e, depth := inner.depth + 1 }, rest)

/-- Starts a new alternative. -/
def Reading.nextBranch (r : Reading) : Reading :=
  { r with level := { branches := sequenceItem r.level.items :: r.level.branches, items := [] } }

/-! ## The whole pattern -/

/-- Reads one operator or item; the text is not empty. -/
def Reading.step (r : Reading) (c : Char) (cs : List Char) : Except SyntaxError (Reading × List Char) :=
  let f := r.flags
  match c with
  | '(' => r.openParen cs
  | ')' => r.closeParen cs
  | '|' => .ok (r.nextBranch, cs)
  | '[' => (readClass f cs).map fun p =>
    (r.push { expr := .chars p.1.set, depth := p.1.depth }, p.2)
  | '?' => r.repeatLast 0 (some 1) cs
  | '*' => r.repeatLast 0 none cs
  | '+' => r.repeatLast 1 none cs
  | '{' => do
    let (least, most, rest) ← readBounds f cs
    r.repeatLast least most (skip f rest)
  | '\\' => do
    let (e, rest) ← readEscape f cs
    return (r.pushExpr (← escapeExpr f e), rest)
  | '.' => (dotExpr f).map fun e => (r.pushExpr e, cs)
  | '^' => .ok (r.pushExpr (.look (if f.multiLine then .lineStart f.crlf else .textStart)), cs)
  | '$' => .ok (r.pushExpr (.look (if f.multiLine then .lineEnd f.crlf else .textEnd)), cs)
  | c => .ok (r.pushExpr (charExpr f c), cs)

/-- How deep constructs may be nested. -/
def nestLimit : Nat := 250

/-- The expression of a pattern that is read to its end. -/
def Reading.finish (r : Reading) : Except SyntaxError Expr :=
  if !r.groups.isEmpty then .error .groupUnclosed
  else
    let whole := r.level.close
    if nestLimit < whole.depth then .error .nestedTooDeep else .ok whole.expr

/-- Reads a pattern to its end. Every step consumes a character, so the length of the text is fuel
enough. -/
def Reading.run : (fuel : Nat) → Reading → List Char → Except SyntaxError Expr
  | 0, r, _ => r.finish
  | n + 1, r, cs =>
    match skip r.flags cs with
    | [] => r.finish
    | c :: cs =>
      match r.step c cs with
      | .error e => .error e
      | .ok (r, rest) => Reading.run n r rest

/-- The expression that a pattern denotes. -/
def readPattern (pattern : String) : Except SyntaxError Expr :=
  let cs := pattern.toList
  Reading.run (cs.length + 1) {} cs

end LintServer.Regex
