import LintServer.Regex.Pattern
import LintServer.Regex.Search
import LintServer.Regex.Size

/-!
# Regular expressions as a whole

A pattern is compiled once and then run on texts. `Regex.spans` lists the matches in a text from left
to right, without overlap; `Regex.isMatch` tells whether there is one.
-/

namespace LintServer

open LintServer.Regex

/-- A part of a text, by the byte offsets of its ends. -/
structure Span where
  start : Nat
  stop : Nat
deriving Repr, DecidableEq, Inhabited, Hashable

/-- Whether a span covers no text. -/
def Span.isEmpty (s : Span) : Bool := s.start == s.stop

/-- A compiled pattern. -/
structure Regex where
  program : Program
deriving Inhabited

namespace Regex

/-- Compiles a pattern. -/
def compile (pattern : String) : Except Error Regex :=
  match readPattern pattern with
  | .error e => .error (.malformed e)
  | .ok e => if e.isTooBig then .error (.tooBig sizeLimit) else .ok ⟨Program.ofExpr e⟩

/-- The bytes of some characters in UTF-8. -/
def byteLength (cs : List Char) : Nat := cs.foldl (fun n c => n + c.utf8Size) 0

/-- The matches from a place on; `offset` is the offset of that place. An empty match right at the
end of the match before it does not count: then the search goes on one character later. `fresh` tells
that no match ended at this place. -/
def spansFrom (p : Program) : (fuel : Nat) → Cursor → (offset : Nat) → (fresh : Bool) → List Span
  | 0, _, _, _ => []
  | n + 1, at_, offset, fresh =>
    match p.find? at_ with
    | none => []
    | some m =>
      if !fresh && m.skipped == 0 && m.length == 0 then
        match at_.rest with
        | [] => []
        | c :: _ => spansFrom p n at_.next (offset + c.utf8Size) true
      else
        let start := offset + byteLength (at_.rest.take m.skipped)
        let tail := at_.rest.drop m.skipped
        let stop := start + byteLength (tail.take m.length)
        ⟨start, stop⟩ :: spansFrom p n (at_.advance (m.skipped + m.length)) stop false

/-- The matches in a text, from left to right. -/
def spans (r : Regex) (text : List Char) : List Span :=
  spansFrom r.program (2 * text.length + 2) (Cursor.ofList text) 0 true

/-- Whether a pattern matches somewhere in a text. -/
def isMatch (r : Regex) (text : List Char) : Bool := (r.program.find? (Cursor.ofList text)).isSome

end Regex

end LintServer
