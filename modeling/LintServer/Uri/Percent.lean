import LintServer.Text.Digit
import LintServer.Text.Utf8

/-!
# Percent encoding

A byte that may not stand in some part of an address is written as `%` and two hexadecimal digits.
Bytes of characters beyond ASCII are always written so; which ASCII characters are depends on the part.
-/

namespace LintServer.Uri

/-- The hexadecimal digit of a number below sixteen. -/
def hexDigit (n : Nat) : Char :=
  if n < 10 then Char.ofNat (0x30 + n) else Char.ofNat (0x41 + (n - 10))

/-- A byte as `%` and two digits. -/
def escapeByte (b : UInt8) : List Char := ['%', hexDigit (b.toNat / 16), hexDigit (b.toNat % 16)]

/-- Writes a text with the ASCII characters of a class, and all characters beyond ASCII, escaped. -/
def percentEncode (escaped : Char → Bool) (text : List Char) : List Char :=
  text.flatMap fun c =>
    if c.toNat < 0x80 && !escaped c then [c] else (String.utf8EncodeChar c).flatMap escapeByte

/-! ## The characters that are escaped -/

/-- Control characters, escaped everywhere. -/
def isControl (c : Char) : Bool := c.toNat < 0x20 || c.toNat == 0x7F

/-- The characters escaped behind `#`. -/
def escapedInFragment (c : Char) : Bool := isControl c || [' ', '"', '<', '>', '`'].contains c

/-- The characters escaped in segments. -/
def escapedInPath (c : Char) : Bool := escapedInFragment c || ['#', '?', '\x7b', '\x7d'].contains c

/-- The characters escaped in the name and password of a user. -/
def escapedInUser (c : Char) : Bool :=
  escapedInPath c || ['/', ':', ';', '=', '@', '[', '\\', ']', '^', '|'].contains c

/-- The characters escaped behind `?`. The schemes of the web escape the apostrophe too. -/
def escapedInQuery (web : Bool) (c : Char) : Bool :=
  isControl c || [' ', '"', '#', '<', '>'].contains c || (web && c == '\x27')

/-! ## Decoding -/

/-- The bytes of a text in which `%` and two digits stand for a byte. A `%` without them stands for
itself. -/
def percentDecode : List Char → List UInt8
  | [] => []
  | '%' :: a :: b :: rest =>
    match hexValue? a, hexValue? b with
    | some m, some n => UInt8.ofNat (m * 16 + n) :: percentDecode rest
    | _, _ => 0x25 :: percentDecode (a :: b :: rest)
  | c :: rest => String.utf8EncodeChar c ++ percentDecode rest

end LintServer.Uri
