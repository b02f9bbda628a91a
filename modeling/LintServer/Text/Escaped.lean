import LintServer.Unicode.Property

/-!
# Text in messages

A text is shown in a message between double quotes, with every character that would not be seen, or
would change the character before it, written as an escape.
-/

namespace LintServer

open LintServer.Unicode

/-- The characters that are not shown as they are: controls, formats, private and unassigned code
points, and all separators but the blank. -/
def hiddenSet : CharSet :=
  ((Property.leaves ["cc", "cf", "co", "zl", "zp", "zs"]).union Property.assigned.complement).diff
    (.single ' ')

/-- Whether a character is shown as it is. -/
def isShown (c : Char) : Bool :=
  if c.toNat < 0x7F then 0x20 ≤ c.toNat
  else !Property.graphemeExtend.contains c && !hiddenSet.contains c

/-- A character by its code. -/
def codeEscape (c : Char) : List Char :=
  ['\\', 'u', '{'] ++ Nat.toDigits 16 c.toNat ++ ['}']

/-- A character inside double quotes. -/
def escapeChar (c : Char) : List Char :=
  match c with
  | '\x00' => ['\\', '0']
  | '\t' => ['\\', 't']
  | '\r' => ['\\', 'r']
  | '\n' => ['\\', 'n']
  | '\\' => ['\\', '\\']
  | '"' => ['\\', '"']
  | c => if isShown c then [c] else codeEscape c

/-- A text between double quotes. -/
def quoted (s : String) : String := String.ofList ('"' :: (s.toList.flatMap escapeChar ++ ['"']))

end LintServer
