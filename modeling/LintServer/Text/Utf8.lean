/-!
# UTF-8

Bytes are read as text one at a time. Between characters the first byte says how many bytes follow
and which values the next one may have; every longest start of a character that cannot be completed
is one fault.

A strict reading refuses a text with a fault, a lenient one shows U+FFFD in its place.
-/

namespace LintServer.Utf8

/-- A character of which some bytes were read. -/
structure Pending where
  /-- The bits read so far. -/
  bits : Nat
  /-- How many bytes follow the next one. -/
  owed : Nat
  /-- The least value of the next byte. -/
  low : UInt8
  /-- The greatest value of the next byte. -/
  high : UInt8
deriving Repr, DecidableEq, Inhabited

/-- What the first byte of a character says. -/
inductive First where
  | complete (c : Char)
  | more (p : Pending)
  | fault
deriving Repr, DecidableEq, Inhabited

/-- Reads the first byte of a character. -/
def First.ofByte (b : UInt8) : First :=
  if b < 0x80 then .complete (Char.ofNat b.toNat)
  else if b < 0xC2 then .fault
  else if b < 0xE0 then .more ⟨b.toNat - 0xC0, 0, 0x80, 0xBF⟩
  else if b < 0xF0 then
    .more ⟨b.toNat - 0xE0, 1, if b = 0xE0 then 0xA0 else 0x80, if b = 0xED then 0x9F else 0xBF⟩
  else if b < 0xF5 then
    .more ⟨b.toNat - 0xF0, 2, if b = 0xF0 then 0x90 else 0x80, if b = 0xF4 then 0x8F else 0xBF⟩
  else .fault

/-- Reads bytes, inside a character if one is pending. A fault is `none`. -/
def read : Option Pending → List UInt8 → List (Option Char)
  | none, [] => []
  | some _, [] => [none]
  | state, b :: bs =>
    let first : List (Option Char) :=
      match First.ofByte b with
      | .complete c => some c :: read none bs
      | .more p => read (some p) bs
      | .fault => none :: read none bs
    match state with
    | none => first
    | some p =>
      if p.low ≤ b ∧ b ≤ p.high then
        let bits := p.bits * 64 + (b.toNat - 0x80)
        match p.owed with
        | 0 => some (Char.ofNat bits) :: read none bs
        | owed + 1 => read (some ⟨bits, owed, 0x80, 0xBF⟩) bs
      else none :: first

/-- The text of bytes, if they have no fault. -/
def decode? (bytes : List UInt8) : Option (List Char) := (read none bytes).mapM id

/-- The text of bytes, with U+FFFD for each fault. -/
def decodeLenient (bytes : List UInt8) : List Char := (read none bytes).map (·.getD '�')

/-- The bytes of a text. -/
def encode (text : List Char) : List UInt8 := text.flatMap String.utf8EncodeChar

end LintServer.Utf8
