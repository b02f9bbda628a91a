import LintServer.Text.Digit
import LintServer.Toml.Value

/-!
# Numbers, booleans, dates and times

A value that is neither quoted nor in brackets is a word. Its first characters tell what it has to
be: a number, a date or time, or one of the names `true`, `false`, `inf` and `nan`.
-/

namespace LintServer.Toml

/-! ## Digits -/

/-- The value of a digit in any base up to sixteen, and sixteen for what is no digit. -/
def digitValue (c : Char) : Nat := (hexValue? c).getD 16

/-- Reads digits of a base in which single underscores may stand between two digits: at least one
digit, and nothing else. `afterDigit` tells whether a digit stands before. -/
def readDigits? (base : Nat) (afterDigit : Bool) (value : Nat) : List Char → Option Nat
  | [] => if afterDigit then some value else none
  | c :: cs =>
    if c = '_' then
      match afterDigit, cs with
      | true, d :: _ => if d = '_' then none else readDigits? base false value cs
      | _, _ => none
    else
      let d := digitValue c
      if d < base then readDigits? base true (value * base + d) cs else none

/-- The value of the digits of a base. -/
def digits? (base : Nat) (cs : List Char) : Option Nat := readDigits? base false 0 cs

/-! ## Integers -/

/-- An integer in the range of 64 bits. -/
def inRange (n : Int) : Result Value :=
  if -0x8000000000000000 ≤ n ∧ n < 0x8000000000000000 then .ok (.integer n) else .error .badNumber

/-- Whether a decimal number starts with a zero that it should not have. -/
def hasLeadingZero : List Char → Bool
  | '0' :: _ :: _ => true
  | _ => false

/-- A decimal integer without its sign. -/
def readDecimal (negative : Bool) (cs : List Char) : Result Value :=
  match digits? 10 cs with
  | none => .error .badNumber
  | some n =>
    if hasLeadingZero cs then .error .badNumber else inRange (if negative then -(n : Int) else n)

/-- An integer in another base, without the sign of the base. -/
def readBased (base : Nat) (cs : List Char) : Result Value :=
  match digits? base cs with
  | none => .error .badNumber
  | some n => inRange n

/-! ## Floating point -/

/-- The sign at the start of a number, and the rest. -/
def splitSign : List Char → Bool × List Char
  | '-' :: cs => (true, cs)
  | '+' :: cs => (false, cs)
  | cs => (false, cs)

/-- The exponent of a number, after its letter. -/
def readExponent? (cs : List Char) : Option Int :=
  let (negative, cs) := splitSign cs
  (digits? 10 cs).map fun n => if negative then -(n : Int) else n

/-- A number with a point or an exponent, without its sign. A number too big for the format is
refused. -/
def readFloat (negative : Bool) (cs : List Char) : Result Value :=
  let isMark (c : Char) : Bool := c == '.' || c == 'e' || c == 'E'
  let whole := cs.takeWhile (!isMark ·)
  let rest := cs.dropWhile (!isMark ·)
  let (fraction?, rest) :=
    match rest with
    | '.' :: rest => (some (rest.takeWhile (!isMark ·)), rest.dropWhile (!isMark ·))
    | _ => (none, rest)
  let exponent? : Option Int :=
    match rest with
    | [] => some 0
    | '.' :: _ => none
    | _ :: rest => readExponent? rest
  let fraction := fraction?.getD []
  let fractionOk := fraction?.isNone || (digits? 10 fraction).isSome
  match digits? 10 whole, exponent? with
  | some _, some e =>
    if hasLeadingZero whole || !fractionOk then .error .badNumber
    else
      let ds := (whole ++ fraction).filter (· != '_')
      let n := ds.foldl (fun n d => n * 10 + digitValue d) 0
      match Binary64.ofDecimal negative n (e - (fraction.filter (· != '_')).length) with
      | .infinite _ => .error .badNumber
      | x => .ok (.float x)
  | _, _ => .error .badNumber

/-- A number without its sign. -/
def readNumber (negative : Bool) (cs : List Char) : Result Value :=
  if cs = ['i', 'n', 'f'] then .ok (.float (.infinite negative))
  else if cs = ['n', 'a', 'n'] then .ok (.float .nan)
  else if cs.any fun c => c == '.' || c == 'e' || c == 'E' then readFloat negative cs
  else readDecimal negative cs

/-! ## Dates and times -/

/-- A number of exactly `count` digits, and the rest. -/
def fixedDigits? (count : Nat) (cs : List Char) : Option (Nat × List Char) :=
  let ds := cs.takeWhile (·.isDigit)
  if ds.length = count then
    some (ds.foldl (fun n d => n * 10 + digitValue d) 0, cs.drop count)
  else none

/-- The rest of a list after a character that it has to start with. -/
def after? (c : Char) : List Char → Option (List Char)
  | d :: cs => if d = c then some cs else none
  | [] => none

/-- The number of days of a month. -/
def daysInMonth (year month : Nat) : Nat :=
  if month = 2 then
    if year % 4 = 0 ∧ (year % 100 ≠ 0 ∨ year % 400 = 0) then 29 else 28
  else if month = 4 ∨ month = 6 ∨ month = 9 ∨ month = 11 then 30
  else 31

/-- What follows a date at the start of a word. -/
def skipDate? (cs : List Char) : Option (List Char) := do
  let (year, cs) ← fixedDigits? 4 cs
  let (month, cs) ← fixedDigits? 2 (← after? '-' cs)
  let (day, cs) ← fixedDigits? 2 (← after? '-' cs)
  if 1 ≤ month ∧ month ≤ 12 ∧ 1 ≤ day ∧ day ≤ daysInMonth year month then some cs else none

/-- What follows the seconds of a time, if there are any, with their fraction. -/
def skipSeconds? (cs : List Char) : Option (List Char) :=
  match cs with
  | ':' :: cs => do
    let (second, cs) ← fixedDigits? 2 cs
    if 60 < second then none
    else
      match cs with
      | '.' :: cs => if (cs.takeWhile (·.isDigit)).isEmpty then none else some (cs.dropWhile (·.isDigit))
      | cs => some cs
  | cs => some cs

/-- What follows a time at the start of a word. -/
def skipTime? (cs : List Char) : Option (List Char) := do
  let (hour, cs) ← fixedDigits? 2 cs
  let (minute, cs) ← fixedDigits? 2 (← after? ':' cs)
  if 23 < hour ∨ 59 < minute then none else skipSeconds? cs

/-- What follows the offset of a time, if there is one. -/
def skipOffset? (cs : List Char) : Option (List Char) :=
  match cs with
  | 'Z' :: cs | 'z' :: cs => some cs
  | '+' :: cs | '-' :: cs => do
    let (hour, cs) ← fixedDigits? 2 cs
    let (minute, cs) ← fixedDigits? 2 (← after? ':' cs)
    if 23 < hour ∨ 59 < minute then none else some cs
  | cs => some cs

/-- Whether a word is a date, a time, or both with an offset or without. -/
def isDatetime (cs : List Char) : Bool :=
  let ended : Option (List Char) → Bool
    | some [] => true
    | _ => false
  match skipDate? cs with
  | some [] => true
  | some (sep :: rest) =>
    (sep == 'T' || sep == 't' || sep == ' ') && ended ((skipTime? rest).bind skipOffset?)
  | none => ended (skipTime? cs)

/-! ## Words -/

/-- Whether a word that starts with a digit is a date or a time: the first character that belongs to
no decimal integer tells. -/
def looksLikeDatetime (cs : List Char) : Bool :=
  match cs.dropWhile fun c => c.isDigit || c == '_' with
  | c :: _ => c == '-' || c == ':'
  | [] => false

/-- The value of a word. -/
def readWord (cs : List Char) : Result Value :=
  match cs with
  | '+' :: cs => readNumber false cs
  | '-' :: cs => readNumber true cs
  | '0' :: 'x' :: cs => readBased 16 cs
  | '0' :: 'o' :: cs => readBased 8 cs
  | '0' :: 'b' :: cs => readBased 2 cs
  | c :: _ =>
    if c.isDigit then
      if looksLikeDatetime cs then
        if isDatetime cs then .ok .datetime else .error .badDatetime
      else readNumber false cs
    else if cs = ['t', 'r', 'u', 'e'] then .ok (.boolean true)
    else if cs = ['f', 'a', 'l', 's', 'e'] then .ok (.boolean false)
    else if cs = ['i', 'n', 'f'] ∨ cs = ['n', 'a', 'n'] then readNumber false cs
    else .error .badValue
  | [] => .error .badValue

end LintServer.Toml
