import LintServer.Unicode.Property

/-!
# Regular expressions

The expressions that a pattern denotes, with every flag already resolved: a character class is a set
of characters, an anchor is an assertion, and a repetition knows whether it prefers many or few
iterations.
-/

namespace LintServer.Regex

open LintServer.Unicode

/-! ## Assertions -/

/-- A place between two characters: the character before it, if any, and all characters after it. -/
structure Cursor where
  before : Option Char
  rest : List Char
deriving Repr, DecidableEq, Inhabited

/-- The place before the first character of a text. -/
def Cursor.ofList (cs : List Char) : Cursor := ⟨none, cs⟩

/-- The character after a place. -/
def Cursor.after (c : Cursor) : Option Char := c.rest.head?

/-- The place one character further on; the end of the text stays where it is. -/
def Cursor.next (c : Cursor) : Cursor :=
  match c.rest with
  | [] => c
  | x :: xs => ⟨some x, xs⟩

/-- The place some characters further on. -/
def Cursor.advance (c : Cursor) : Nat → Cursor
  | 0 => c
  | n + 1 => c.next.advance n

/-- What an assertion about words demands of the two sides of a place. -/
inductive WordEdge where
  | boundary | inside | start | stop | startHalf | stopHalf
deriving Repr, DecidableEq, Inhabited

/-- A condition on a place of the text. -/
inductive Assertion where
  /-- The place is the start of the text. -/
  | textStart
  /-- The place is the end of the text. -/
  | textEnd
  /-- The place is the start of a line; with `crlf`, both `\r` and `\n` end lines, and `\r\n` ends
  one line. -/
  | lineStart (crlf : Bool)
  /-- The place is the end of a line. -/
  | lineEnd (crlf : Bool)
  /-- The place lies at an edge of a word. -/
  | word (edge : WordEdge) (unicode : Bool)
deriving Repr, DecidableEq, Inhabited

/-- Whether a side of a place holds a character of a word. -/
def isWordSide (unicode : Bool) : Option Char → Bool
  | none => false
  | some c => if unicode then isWord c else asciiWordSet.contains c

/-- What the two sides of a place say about an edge of a word. -/
def WordEdge.holds : WordEdge → (before after : Bool) → Bool
  | .boundary, b, a => b != a
  | .inside, b, a => b == a
  | .start, b, a => !b && a
  | .stop, b, a => b && !a
  | .startHalf, b, _ => !b
  | .stopHalf, _, a => !a

/-- Whether an assertion holds at a place. -/
def Assertion.holds (at_ : Cursor) : Assertion → Bool
  | .textStart => at_.before.isNone
  | .textEnd => at_.rest.isEmpty
  | .lineStart false =>
    match at_.before with
    | none => true
    | some b => b == '\n'
  | .lineStart true =>
    match at_.before with
    | none => true
    | some b => b == '\n' || (b == '\r' && at_.after != some '\n')
  | .lineEnd false =>
    match at_.after with
    | none => true
    | some a => a == '\n'
  | .lineEnd true =>
    match at_.after with
    | none => true
    | some a => a == '\r' || (a == '\n' && at_.before != some '\r')
  | .word edge unicode => edge.holds (isWordSide unicode at_.before) (isWordSide unicode at_.after)

/-! ## Expressions -/

/-- A regular expression. -/
inductive Expr where
  /-- Matches the empty text. -/
  | empty
  /-- Matches one character of a set. -/
  | chars (set : CharSet)
  /-- Matches the empty text where an assertion holds. -/
  | look (assertion : Assertion)
  /-- A capturing group. -/
  | group (e : Expr)
  /-- One expression after the other. -/
  | cat (a b : Expr)
  /-- One of two expressions, preferring the first. -/
  | alt (a b : Expr)
  /-- At least `min` and at most `max` copies, preferring many if `greedy` and few otherwise. -/
  | rep (min : Nat) (max : Option Nat) (greedy : Bool) (e : Expr)
deriving Repr, DecidableEq, Inhabited

namespace Expr

/-- Whether every match of an expression is empty. An expression that matches nothing at all does
not count. -/
def isZeroWidth : Expr → Bool
  | .empty => true
  | .chars _ => false
  | .look _ => true
  | .group e => e.isZeroWidth
  | .cat a b => a.isZeroWidth && b.isZeroWidth
  | .alt a b => a.isZeroWidth && b.isZeroWidth
  | .rep _ max _ e => max == some 0 || e.isZeroWidth

/-- Whether an expression can match the empty text. -/
def isNullable : Expr → Bool
  | .empty => true
  | .chars _ => false
  | .look _ => true
  | .group e => e.isNullable
  | .cat a b => a.isNullable && b.isNullable
  | .alt a b => a.isNullable || b.isNullable
  | .rep min _ _ e => min == 0 || e.isNullable

/-- Whether every match starts at the start of the text. -/
def isAnchored : Expr → Bool
  | .look .textStart => true
  | .group e => e.isAnchored
  | .cat a b => a.isAnchored || (a.isZeroWidth && b.isAnchored)
  | .alt a b => a.isAnchored && b.isAnchored
  | .rep min _ _ e => 0 < min && e.isAnchored
  | _ => false

/-- A repetition in its simplest form: copies of an expression that matches only the empty text are
at most one copy, no copies are the empty expression, and one copy is the expression itself. -/
def repeated (min : Nat) (max : Option Nat) (greedy : Bool) (e : Expr) : Expr :=
  let least := if e.isZeroWidth then Nat.min min 1 else min
  let most := if e.isZeroWidth then some ((max.map (Nat.min · 1)).getD 1) else max
  if most = some 0 then .empty
  else if least = 1 ∧ most = some 1 then e
  else .rep least most greedy e

/-- Expressions one after the other. -/
def concat : List Expr → Expr
  | [] => .empty
  | [e] => e
  | e :: es => .cat e (concat es)

/-- The set of an expression that matches one character of a set. -/
def charSet? : Expr → Option CharSet
  | .chars s => some s
  | _ => none

/-- The set of some expressions that all match one character of a set. -/
def charSets? : List Expr → Option CharSet
  | [] => some .empty
  | e :: es =>
    match e.charSet?, charSets? es with
    | some s, some t => some (s.union t)
    | _, _ => none

/-- One of some expressions, in order of preference, as nested choices. -/
def choice : List Expr → Expr
  | [] => .chars .empty
  | [e] => e
  | e :: es => .alt e (choice es)

/-- One of some expressions, preferring earlier ones. Single characters and sets are one set. -/
def oneOf (es : List Expr) : Expr :=
  match charSets? es with
  | some s => .chars s
  | none => choice es

end Expr

end LintServer.Regex
