/-!
# Flags

The flags that change what a pattern means, from the place where they are set to the end of the
group around that place.
-/

namespace LintServer.Regex

/-- The flags in force at a place of a pattern. -/
structure Flags where
  /-- `i`: letters match without regard to case. -/
  ignoreCase : Bool := false
  /-- `m`: `^` and `$` match at lines. -/
  multiLine : Bool := false
  /-- `s`: `.` matches line ends too. -/
  dotAll : Bool := false
  /-- `U`: repetitions prefer few iterations, and `?` makes them prefer many. -/
  swapGreed : Bool := false
  /-- `u`: classes and case cover all characters, not only ASCII. -/
  unicode : Bool := true
  /-- `R`: `\r`, `\n` and `\r\n` all end a line. -/
  crlf : Bool := false
  /-- `x`: blanks and comments in the pattern are ignored. -/
  verbose : Bool := false
deriving Repr, DecidableEq, Inhabited

/-- Sets the flag of a letter; `none` when no flag has that letter. -/
def Flags.set? (f : Flags) (letter : Char) (value : Bool) : Option Flags :=
  match letter with
  | 'i' => some { f with ignoreCase := value }
  | 'm' => some { f with multiLine := value }
  | 's' => some { f with dotAll := value }
  | 'U' => some { f with swapGreed := value }
  | 'u' => some { f with unicode := value }
  | 'R' => some { f with crlf := value }
  | 'x' => some { f with verbose := value }
  | _ => none

end LintServer.Regex
