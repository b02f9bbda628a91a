import LintServer.Regex.Basic
import LintServer.Rule.Basic

/-!
# Findings

A document is checked against the rules whose patterns can be compiled:

1. Each rule, in order, searches the document from left to right.
2. An empty match is passed over.
3. A match is reported by the first rule of the whole list whose predicate accepts the text of the
   match; if there is none, it is passed over.
4. A finding that was reported before is not reported again.
5. When as many findings as wanted are there, the check ends.
-/

namespace LintServer

/-- A part of a document that a rule reports. -/
structure Finding where
  span : Span
  message : String
  severity : Severity
deriving Repr, DecidableEq, Inhabited

/-! ## Rules that can be run -/

/-- A rule whose patterns are compiled. -/
structure CompiledRule where
  test : Regex
  predicate : Option Regex
  message : String
  severity : Severity
deriving Inhabited

/-- Compiles the patterns of a rule. -/
def Rule.compile (r : Rule) : Except Regex.Error CompiledRule := do
  let test ← Regex.compile r.test
  let predicate ←
    match r.predicate with
    | none => pure none
    | some p => (Regex.compile p).map some
  return ⟨test, predicate, r.message, r.severity⟩

/-- The rules of a list that can be compiled, in order. -/
def compileRules (rules : List Rule) : List CompiledRule :=
  rules.filterMap fun r => r.compile.toOption

/-- Whether the predicate of a rule accepts the text of a match. -/
def CompiledRule.accepts (r : CompiledRule) (text : List Char) : Bool :=
  match r.predicate with
  | none => true
  | some p => p.isMatch text

/-! ## Parts of a text -/

/-- A text without its first bytes. -/
def dropBytes : Nat → List Char → List Char
  | _, [] => []
  | n, c :: cs => if n = 0 then c :: cs else dropBytes (n - c.utf8Size) cs

/-- The first bytes of a text. -/
def takeBytes : Nat → List Char → List Char
  | _, [] => []
  | n, c :: cs => if n = 0 then [] else c :: takeBytes (n - c.utf8Size) cs

/-- The part of a text that a span covers. -/
def Span.slice (s : Span) (text : List Char) : List Char :=
  takeBytes (s.stop - s.start) (dropBytes s.start text)

/-! ## Checking a document -/

/-- What a match is reported as: with the message and severity of the first rule that accepts it. -/
def report? (rules : List CompiledRule) (text : List Char) (s : Span) : Option Finding :=
  if s.isEmpty then none
  else (rules.find? (·.accepts (s.slice text))).map fun r => ⟨s, r.message, r.severity⟩

/-- Adds a match to the findings, which are given with the last one first, unless there are enough
of them or it adds nothing new. -/
def addMatch (limit : Nat) (rules : List CompiledRule) (text : List Char) (found : List Finding)
    (s : Span) : List Finding :=
  if limit ≤ found.length then found
  else
    match report? rules text s with
    | none => found
    | some f => if found.contains f then found else f :: found

/-- Adds the matches of one rule to the findings. -/
def addRule (limit : Nat) (rules : List CompiledRule) (text : List Char) (found : List Finding)
    (r : CompiledRule) : List Finding :=
  if limit ≤ found.length then found
  else (r.test.spans text).foldl (addMatch limit rules text) found

/-- The first `limit` findings of some rules in a text. -/
def checkCompiled (limit : Nat) (rules : List CompiledRule) (text : List Char) : List Finding :=
  (rules.foldl (addRule limit rules text) []).reverse

/-- The number of findings that are reported for a document if nothing else is asked for. -/
def defaultLimit : Nat := 100

/-- The first `limit` findings of a configuration in a text. -/
def Config.check (c : Config) (limit : Nat) (text : List Char) : List Finding :=
  checkCompiled limit (compileRules c.lints) text

end LintServer
