import LintServer.Json.Basic
import LintServer.Text.Digit

/-!
# The text of JSON values

Values are written without blanks, and are read with blanks wherever the grammar admits them. Of two
members of an object with one name the last counts.
-/

namespace LintServer.Json

/-! ## Writing -/

/-- The hexadecimal digits of a number below 65536. -/
def fourDigits (n : Nat) : List Char :=
  [n / 4096 % 16, n / 256 % 16, n / 16 % 16, n % 16].map fun d => (Nat.toDigits 16 d).headD '0'

/-- A character between quotes. -/
def escapeChar (c : Char) : List Char :=
  match c with
  | '"' => ['\\', '"']
  | '\\' => ['\\', '\\']
  | '\n' => ['\\', 'n']
  | '\r' => ['\\', 'r']
  | '\t' => ['\\', 't']
  | c => if c.toNat < 0x20 then ['\\', 'u'] ++ fourDigits c.toNat else [c]

/-- A text between quotes. -/
def writeString (s : String) : List Char := '"' :: (s.toList.flatMap escapeChar ++ ['"'])

mutual

/-- The text of a value. -/
def write : Json → List Char
  | .null => "null".toList
  | .bool b => (if b then "true" else "false").toList
  | .int n => (toString n).toList
  | .float t => t.toList
  | .str s => writeString s
  | .arr items => '[' :: writeItems items ++ [']']
  | .obj members => '{' :: writeMembers members ++ ['}']
termination_by structural j => j

/-- The texts of items with commas between them. -/
def writeItems : List Json → List Char
  | [] => []
  | j :: rest => write j ++ (if rest.isEmpty then [] else [',']) ++ writeItems rest
termination_by structural items => items

/-- The texts of members with commas between them. -/
def writeMembers : List (String × Json) → List Char
  | [] => []
  | (name, j) :: rest =>
    writeString name ++ ':' :: write j ++ (if rest.isEmpty then [] else [',']) ++ writeMembers rest
termination_by structural members => members

end

/-- The text of a value. -/
def text (j : Json) : String := String.ofList j.write

/-! ## Reading -/

/-- Whether a character may stand between the parts of a value. -/
def isBlank (c : Char) : Bool := c == ' ' || c == '\t' || c == '\n' || c == '\r'

/-- The rest of a text behind blanks. -/
def skipBlanks (cs : List Char) : List Char := cs.dropWhile isBlank

/-- The number of four hexadecimal digits. -/
def code? (a b c d : Char) : Option Nat := do
  return (((← hexValue? a) * 16 + (← hexValue? b)) * 16 + (← hexValue? c)) * 16 + (← hexValue? d)

/-- The character of a letter behind a backslash. -/
def plainEscape? : Char → Option Char
  | '"' => some '"'
  | '\\' => some '\\'
  | '/' => some '/'
  | 'b' => some '\x08'
  | 'f' => some '\x0c'
  | 'n' => some '\n'
  | 'r' => some '\r'
  | 't' => some '\t'
  | _ => none

/-- The character of an escape whose backslash has been read, with the rest. A character beyond 65535 is
written as two halves. -/
def readEscape? : List Char → Option (Char × List Char)
  | 'u' :: a :: b :: c :: d :: rest =>
    match code? a b c d with
    | none => none
    | some high =>
      if high < 0xD800 ∨ 0xE000 ≤ high then some (Char.ofNat high, rest)
      else
        match rest with
        | '\\' :: 'u' :: e :: f :: g :: h :: rest =>
          match code? e f g h with
          | some low =>
            if high < 0xDC00 ∧ 0xDC00 ≤ low ∧ low < 0xE000 then
              some (Char.ofNat (0x10000 + (high - 0xD800) * 0x400 + (low - 0xDC00)), rest)
            else none
          | none => none
        | _ => none
  | c :: rest => (plainEscape? c).map (·, rest)
  | [] => none

/-- Reads a text behind its opening quote; at most `fuel` characters of it. -/
def readString : (fuel : Nat) → List Char → Option (List Char × List Char)
  | 0, _ => none
  | _ + 1, [] => none
  | fuel + 1, c :: rest =>
    if c = '"' then some ([], rest)
    else if c = '\\' then
      match readEscape? rest with
      | some (e, rest) => (readString fuel rest).map fun (s, rest) => (e :: s, rest)
      | none => none
    else if c.toNat < 0x20 then none
    else (readString fuel rest).map fun (s, rest) => (c :: s, rest)

/-- Splits a text behind the digits it starts with, of which there has to be one. -/
def readDigits? (cs : List Char) : Option (List Char × List Char) :=
  match cs.takeWhile Char.isDigit with
  | [] => none
  | digits => some (digits, cs.dropWhile Char.isDigit)

/-- Splits a text behind the fraction it may start with. -/
def readFraction? (cs : List Char) : Option (List Char × List Char) :=
  match cs with
  | '.' :: rest => (readDigits? rest).map fun (ds, rest) => ('.' :: ds, rest)
  | _ => some ([], cs)

/-- Splits a text behind the exponent it may start with. -/
def readExponent? (cs : List Char) : Option (List Char × List Char) :=
  match cs with
  | c :: rest =>
    if c = 'e' ∨ c = 'E' then
      match rest with
      | '+' :: more => (readDigits? more).map fun (ds, rest) => ('e' :: '+' :: ds, rest)
      | '-' :: more => (readDigits? more).map fun (ds, rest) => ('e' :: '-' :: ds, rest)
      | _ => (readDigits? rest).map fun (ds, rest) => ('e' :: ds, rest)
    else some ([], cs)
  | [] => some ([], [])

/-- The number of decimal digits. -/
def natOfDigits (ds : List Char) : Nat := ds.foldl (fun n c => n * 10 + (c.toNat - 0x30)) 0

/-- Reads a number. An integer is kept as one if it fits; a negative zero is none. -/
def readNumber? (cs : List Char) : Option (Json × List Char) := do
  let (sign, cs) := match cs with
    | '-' :: rest => (['-'], rest)
    | _ => ([], cs)
  let (whole, cs) ← readDigits? cs
  if whole.length ≠ 1 ∧ whole.head? = some '0' then none
  let (fraction, cs) ← readFraction? cs
  let (exponent, cs) ← readExponent? cs
  let n : Int := if sign.isEmpty then natOfDigits whole else -natOfDigits whole
  let isInteger := fraction.isEmpty && exponent.isEmpty && fits n && (sign.isEmpty || n != 0)
  return (if isInteger then .int n else .float (String.ofList (sign ++ whole ++ fraction ++ exponent)), cs)

/-- The members of an object with a new one, which counts more than an old one of its name. -/
def addMember (members : List (String × Json)) (name : String) (j : Json) : List (String × Json) :=
  members.filter (·.1 != name) ++ [(name, j)]

mutual

/-- Reads a value; at most `fuel` parts of it. -/
def readValue : (fuel : Nat) → List Char → Option (Json × List Char)
  | 0, _ => none
  | fuel + 1, cs =>
    match skipBlanks cs with
    | 'n' :: 'u' :: 'l' :: 'l' :: rest => some (.null, rest)
    | 't' :: 'r' :: 'u' :: 'e' :: rest => some (.bool true, rest)
    | 'f' :: 'a' :: 'l' :: 's' :: 'e' :: rest => some (.bool false, rest)
    | '"' :: rest => (readString (rest.length + 1) rest).map fun (s, rest) => (.str (String.ofList s), rest)
    | '[' :: rest =>
      match skipBlanks rest with
      | ']' :: rest => some (.arr [], rest)
      | rest => (readItems fuel rest).map fun (items, rest) => (.arr items, rest)
    | '{' :: rest =>
      match skipBlanks rest with
      | '}' :: rest => some (.obj [], rest)
      | rest => (readMembers fuel [] rest).map fun (members, rest) => (.obj members, rest)
    | rest => readNumber? rest

/-- Reads the items of an array up to its closing bracket. -/
def readItems : (fuel : Nat) → List Char → Option (List Json × List Char)
  | 0, _ => none
  | fuel + 1, cs =>
    match readValue fuel cs with
    | none => none
    | some (j, rest) =>
      match skipBlanks rest with
      | ',' :: rest => (readItems fuel rest).map fun (items, rest) => (j :: items, rest)
      | ']' :: rest => some ([j], rest)
      | _ => none

/-- Reads the members of an object up to its closing brace. -/
def readMembers : (fuel : Nat) → List (String × Json) → List Char → Option (List (String × Json) × List Char)
  | 0, _, _ => none
  | fuel + 1, members, cs =>
    match skipBlanks cs with
    | '"' :: rest =>
      match readString (rest.length + 1) rest with
      | none => none
      | some (name, rest) =>
        match skipBlanks rest with
        | ':' :: rest =>
          match readValue fuel rest with
          | none => none
          | some (j, rest) =>
            let members := addMember members (String.ofList name) j
            match skipBlanks rest with
            | ',' :: rest => readMembers fuel members rest
            | '}' :: rest => some (members, rest)
            | _ => none
        | _ => none
    | _ => none

end

/-- The value that a text is. -/
def parse? (s : String) : Option Json :=
  match readValue (s.length + 1) s.toList with
  | some (j, rest) => if (skipBlanks rest).isEmpty then some j else none
  | none => none

end LintServer.Json
