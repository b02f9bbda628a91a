import LintServer.Text.Digit
import LintServer.Toml.Value

/-!
# Quoted text

Text stands between quotes, either double quotes, in which a backslash starts an escape, or single
quotes, in which every character stands for itself. Between three quotes the text may have several
lines; a line end right after the opening quotes does not count. One or two quotes may stand before
the closing ones.
-/

namespace LintServer.Toml

/-- Whether a character may stand in a comment or in text on one line: a tab and all that is no ASCII
control character. -/
def isPlain (c : Char) : Bool := c == '\t' || (0x20 ≤ c.toNat && c.toNat != 0x7F)

/-- A blank inside a line. -/
def isBlank (c : Char) : Bool := c == ' ' || c == '\t'

/-- What follows a line end at the start of a text. -/
def afterLineEnd? : List Char → Option (List Char)
  | '\n' :: cs => some cs
  | '\r' :: '\n' :: cs => some cs
  | _ => none

/-! ## Escapes -/

/-- Reads a character by its code, of a fixed number of hexadecimal digits. -/
def readCode : (digits value : Nat) → List Char → Result (Char × List Char)
  | 0, value, cs =>
    if h : value.isValidChar then .ok (Char.ofNatAux value h, cs) else .error .badEscape
  | _ + 1, _, [] => .error .badEscape
  | n + 1, value, c :: cs =>
    match hexValue? c with
    | some d => readCode n (value * 16 + d) cs
    | none => .error .badEscape

/-- Reads an escape, after its backslash. -/
def readEscape : List Char → Result (Char × List Char)
  | 'b' :: cs => .ok ('\x08', cs)
  | 't' :: cs => .ok ('\t', cs)
  | 'n' :: cs => .ok ('\n', cs)
  | 'f' :: cs => .ok ('\x0c', cs)
  | 'r' :: cs => .ok ('\r', cs)
  | 'e' :: cs => .ok ('\x1b', cs)
  | '"' :: cs => .ok ('"', cs)
  | '\\' :: cs => .ok ('\\', cs)
  | 'x' :: cs => readCode 2 0 cs
  | 'u' :: cs => readCode 4 0 cs
  | 'U' :: cs => readCode 8 0 cs
  | _ => .error .badEscape

/-- Drops blanks and line ends. -/
def dropLines : List Char → List Char
  | '\r' :: '\n' :: cs => dropLines cs
  | c :: cs => if isBlank c || c == '\n' then dropLines cs else c :: cs
  | [] => []

/-- What follows a backslash at the end of a line: the next characters that are neither blanks nor
line ends. -/
def afterLineEscape? (cs : List Char) : Option (List Char) :=
  (afterLineEnd? (cs.dropWhile isBlank)).map dropLines

/-! ## Text -/

/-- A text that was read, in reverse, and what follows it. -/
abbrev Read := Result (List Char × List Char)

/-- Reads text on one line up to the closing quote. -/
def readLineText (quote : Char) : (fuel : Nat) → (done : List Char) → List Char → Read
  | 0, _, _ => .error .badString
  | _ + 1, _, [] => .error .badString
  | n + 1, done, c :: cs =>
    if c = quote then .ok (done, cs)
    else if c = '\\' ∧ quote = '"' then
      match readEscape cs with
      | .ok (d, rest) => readLineText quote n (d :: done) rest
      | .error e => .error e
    else if isPlain c then readLineText quote n (c :: done) cs
    else .error .badString

/-- The number of quotes at the start of a text, at most five. -/
def countQuotes (quote : Char) (cs : List Char) : Nat := ((cs.take 5).takeWhile (· == quote)).length

/-- Reads text of several lines up to the closing quotes. -/
def readBlockText (quote : Char) : (fuel : Nat) → (done : List Char) → List Char → Read
  | 0, _, _ => .error .badString
  | _ + 1, _, [] => .error .badString
  | n + 1, done, c :: cs =>
    if c = quote then
      let quotes := countQuotes quote (c :: cs)
      if 3 ≤ quotes then
        .ok (List.replicate (quotes - 3) quote ++ done, cs.drop (quotes - 1))
      else readBlockText quote n (c :: done) cs
    else if c = '\\' ∧ quote = '"' then
      match afterLineEscape? cs with
      | some rest => readBlockText quote n done rest
      | none =>
        match readEscape cs with
        | .ok (d, rest) => readBlockText quote n (d :: done) rest
        | .error e => .error e
    else if c = '\n' ∨ isPlain c then readBlockText quote n (c :: done) cs
    else if c = '\r' ∧ cs.head? = some '\n' then readBlockText quote n (c :: done) cs
    else .error .badString

/-- A finished text. -/
def finishText (r : List Char × List Char) : String × List Char :=
  (String.ofList r.1.reverse, r.2)

/-- Reads text on one line, after its opening quote. -/
def readLineQuoted (quote : Char) (cs : List Char) : Result (String × List Char) :=
  (readLineText quote (cs.length + 1) [] cs).map finishText

/-- Reads a text value, after its first quote. -/
def readQuoted (quote : Char) (cs : List Char) : Result (String × List Char) :=
  match cs with
  | q :: q' :: rest =>
    if q = quote ∧ q' = quote then
      let body := (afterLineEnd? rest).getD rest
      (readBlockText quote (body.length + 1) [] body).map finishText
    else readLineQuoted quote cs
  | _ => readLineQuoted quote cs

end LintServer.Toml
