import LintServer.Regex.Expr

/-!
# Programs

An expression is run as a program: a numbered list of instructions, each of which consumes a
character, tests an assertion, or continues in two ways of which the first is preferred. Code is
laid out from the end, so that the place where an expression continues is known when its code is
written; only a loop needs its entry before its body.
-/

namespace LintServer.Regex

open LintServer.Unicode

/-- An instruction; `next`, `first` and `second` are numbers of instructions. -/
inductive Instr where
  /-- The match is complete. -/
  | done
  /-- Consume one character of a set. -/
  | char (set : CharSet) (next : Nat)
  /-- Go on where an assertion holds. -/
  | look (assertion : Assertion) (next : Nat)
  /-- Go on in two ways, preferring the first. -/
  | split (first second : Nat)
deriving Repr, DecidableEq, Inhabited

/-- The code written so far. -/
abbrev Code := Array Instr

/-- Code that is being written, and the number at which the expression written last starts. -/
structure Emitted where
  start : Nat
  code : Code
deriving Repr, Inhabited

/-- Writes one instruction. -/
def Code.emit (code : Code) (i : Instr) : Emitted := ⟨code.size, code.push i⟩

/-- Two ways to go on, in order of preference: into the body and past it, or the reverse. -/
def choose (greedy : Bool) (body past : Nat) : Instr :=
  if greedy then .split body past else .split past body

/-- What writes the code of an expression, given the number at which to continue. -/
abbrev Writer := Nat → Code → Emitted

/-- Writes `n` copies of a body, one after the other. -/
def Writer.copies (body : Writer) : Nat → Writer
  | 0, next, code => ⟨next, code⟩
  | n + 1, next, code =>
    let last := body next code
    Writer.copies body n last.start last.code

/-- Writes at most `n` copies of a body; before each one the rest can be passed over. `past` is
where the last one continues. -/
def Writer.optional (body : Writer) (greedy : Bool) (past : Nat) : Nat → Writer
  | 0, next, code => ⟨next, code⟩
  | n + 1, next, code =>
    let last := body next code
    let entry := last.code.emit (choose greedy last.start past)
    Writer.optional body greedy past n entry.start entry.code

/-- Writes a body that can be repeated. The result starts at the body; the number of the choice
after each copy is that of the instruction written first. -/
def Writer.loop (body : Writer) (greedy : Bool) : Writer := fun next code =>
  let again := code.size
  let inner := body again (code.push .done)
  ⟨inner.start, inner.code.setIfInBounds again (choose greedy inner.start next)⟩

/-- Writes the code of an expression. A repetition from zero enters its loop at the choice, unless
the body can match the empty text: then it is an optional loop, so that no preference is lost to an
empty first round. -/
def Expr.write : Expr → Writer
  | .empty => fun next code => ⟨next, code⟩
  | .chars s => fun next code => code.emit (.char s next)
  | .look a => fun next code => code.emit (.look a next)
  | .group e => e.write
  | .cat a b => fun next code =>
    let last := b.write next code
    a.write last.start last.code
  | .alt a b => fun next code =>
    let second := b.write next code
    let first := a.write next second.code
    first.code.emit (.split first.start second.start)
  | .rep min none greedy e => fun next code =>
    let looped := Writer.loop e.write greedy next code
    if 0 < min then Writer.copies e.write (min - 1) looped.start looped.code
    else if e.isNullable then looped.code.emit (choose greedy looped.start next)
    else ⟨code.size, looped.code⟩
  | .rep min (some max) greedy e => fun next code =>
    let rest := Writer.optional e.write greedy next (max - min) next code
    Writer.copies e.write min rest.start rest.code

/-- A program: its code, the number of the first instruction. -/
structure Program where
  code : Code
  start : Nat
deriving Repr, Inhabited

/-- The program of an expression. Instruction 0 completes the match. -/
def Program.ofExpr (e : Expr) : Program :=
  let written := e.write 0 #[.done]
  ⟨written.code, written.start⟩

end LintServer.Regex
