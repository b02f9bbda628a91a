import LintServer.Regex.Error
import LintServer.Regex.Expr
import LintServer.Regex.Flags
import LintServer.Text.Digit
import LintServer.Unicode.Case

/-!
# Escapes

A backslash in a pattern starts an escape: a character that would otherwise be an operator, a
character by its code, a named class, or an assertion. In verbose patterns blanks and comments may
stand between the characters of an escape.
-/

namespace LintServer.Regex

open LintServer.Unicode

/-! ## Blanks and comments of verbose patterns -/

/-- Drops blanks and comments; a comment runs from `#` to the end of the line. -/
def dropBlanks : (comment : Bool) → List Char → List Char
  | _, [] => []
  | true, c :: cs => dropBlanks (c != '\n') cs
  | false, c :: cs =>
    if isSpace c then dropBlanks false cs
    else if c = '#' then dropBlanks true cs
    else c :: cs

/-- Drops blanks and comments if the pattern is verbose. -/
def skip (f : Flags) (cs : List Char) : List Char := if f.verbose then dropBlanks false cs else cs

/-! ## Numbers -/

/-- The character of a code point; surrogates and numbers beyond the last code point have none. -/
def charOfCode? (n : Nat) : Option Char :=
  if h : n.isValidChar then some (Char.ofNatAux n h) else none

/-- Reads a fixed number of hexadecimal digits. -/
def readHexDigits (f : Flags) : Nat → Nat → List Char → Except SyntaxError (Nat × List Char)
  | 0, value, cs => .ok (value, cs)
  | _ + 1, _, [] => .error .escapeUnfinished
  | n + 1, value, c :: cs =>
    match hexValue? c with
    | none => .error .escapeNotHexadecimal
    | some d => readHexDigits f n (value * 16 + d) (skip f cs)

/-- Reads hexadecimal digits up to a closing brace; `digits` counts those read. -/
def readHexBrace (f : Flags) : (fuel digits value : Nat) → List Char →
    Except SyntaxError (Nat × List Char)
  | 0, _, _, _ => .error .escapeUnfinished
  | _ + 1, _, _, [] => .error .escapeUnfinished
  | n + 1, digits, value, c :: cs =>
    if c = '}' then if digits = 0 then .error .escapeNoCharacter else .ok (value, skip f cs)
    else
      match hexValue? c with
      | none => .error .escapeNotHexadecimal
      | some d => readHexBrace f n (digits + 1) (value * 16 + d) (skip f cs)

/-! ## What an escape stands for -/

/-- What an escape stands for. -/
inductive Escape where
  /-- A character; `twoDigits` if it is written as a two-digit code, which stands for a byte when
  classes are limited to ASCII. -/
  | char (c : Char) (twoDigits : Bool)
  /-- A class of characters. -/
  | set (s : CharSet)
  /-- An assertion. -/
  | look (a : Assertion)
deriving Repr, DecidableEq, Inhabited

/-- A character by its code. `kind` is the letter of the escape; without braces it says how many
digits follow. -/
def readHex (f : Flags) (kind : Char) (cs : List Char) : Except SyntaxError (Escape × List Char) :=
  let digits := if kind = 'x' then 2 else if kind = 'u' then 4 else 8
  let finish (twoDigits : Bool) : Nat × List Char → Except SyntaxError (Escape × List Char)
    | (value, rest) =>
      match charOfCode? value with
      | none => .error .escapeNoCharacter
      | some c => .ok (.char c twoDigits, rest)
  match skip f cs with
  | [] => .error .escapeUnfinished
  | '{' :: rest => (readHexBrace f (rest.length + 1) 0 0 (skip f rest)).bind (finish false)
  | rest => (readHexDigits f digits 0 rest).bind (finish (kind = 'x'))

/-! ## Named classes -/

/-- A class under the case flag and a negation. Without Unicode a class has to stay inside ASCII,
which no complement does. -/
def foldAndNegate (f : Flags) (negated : Bool) (s : CharSet) : Except SyntaxError CharSet :=
  if f.unicode then
    let folded := if f.ignoreCase then s.foldCase else s
    .ok (if negated then folded.complement else folded)
  else if negated then .error .notCharacters
  else
    let folded := if f.ignoreCase then s.foldAsciiCase else s
    if folded.isAscii then .ok folded else .error .notCharacters

/-- The class of one of the letters `d`, `s` and `w`, or the complement for a capital. -/
def letterClass (f : Flags) (letter : Char) : Except SyntaxError CharSet :=
  let kind := letter.toLower
  let negated := letter != kind
  if f.unicode then
    let s := if kind = 'd' then digitSet else if kind = 's' then spaceSet else wordSet
    .ok (if negated then s.complement else s)
  else if negated then .error .notCharacters
  else .ok (if kind = 'd' then asciiDigitSet else if kind = 's' then asciiSpaceSet else asciiWordSet)

/-- Splits a list at the first place where a separator stands. -/
def splitAt? (sep : List Char) : List Char → Option (List Char × List Char)
  | [] => none
  | c :: cs =>
    if sep.isPrefixOf (c :: cs) then some ([], (c :: cs).drop sep.length)
    else (splitAt? sep cs).map fun p => (c :: p.1, p.2)

/-- The set of a property query and whether the query negates it: a name, or a name and a value
with one of the signs `!=`, `:` and `=` between them. -/
def propertySet? (query : List Char) : Option (CharSet × Bool) :=
  let byValue (p : List Char × List Char) : Option CharSet :=
    Property.ofValue? (Property.looseName (String.ofList p.1))
      (Property.looseName (String.ofList p.2))
  match splitAt? ['!', '='] query with
  | some p => (byValue p).map (·, true)
  | none =>
    match splitAt? [':'] query with
    | some p => (byValue p).map (·, false)
    | none =>
      match splitAt? ['='] query with
      | some p => (byValue p).map (·, false)
      | none => (Property.ofName? (Property.looseName (String.ofList query))).map (·, false)

/-- Reads a property query up to a closing brace. -/
def readQuery (f : Flags) : (fuel : Nat) → List Char → Except SyntaxError (List Char × List Char)
  | 0, _ => .error .escapeUnfinished
  | _ + 1, [] => .error .escapeUnfinished
  | n + 1, c :: cs =>
    if c = '}' then .ok ([], cs)
    else (readQuery f n (skip f cs)).map fun p => (c :: p.1, p.2)

/-- A class by property, with a query in braces or of one letter. -/
def readProperty (f : Flags) (negated : Bool) (cs : List Char) :
    Except SyntaxError (Escape × List Char) :=
  let finish : List Char × List Char → Except SyntaxError (Escape × List Char)
    | (query, rest) =>
      if !f.unicode then .error .unicodeDisabled
      else
        match propertySet? query with
        | none => .error .propertyUnknown
        | some (s, inverted) =>
          (foldAndNegate f (negated != inverted) s).map fun t => (.set t, rest)
  match skip f cs with
  | [] => .error .escapeUnfinished
  | '{' :: rest => (readQuery f (rest.length + 1) (skip f rest)).bind finish
  | '\\' :: _ => .error .propertyUnknown
  | c :: rest => finish ([c], skip f rest)

/-! ## Word edges -/

/-- Whether a character can stand in the name of a word edge. -/
def isEdgeLetter (c : Char) : Bool := c.isAlpha || c == '-'

/-- Reads the letters of a word edge's name. -/
def readEdgeName (f : Flags) : (fuel : Nat) → List Char → List Char × List Char
  | 0, cs => ([], cs)
  | _ + 1, [] => ([], [])
  | n + 1, c :: cs =>
    if isEdgeLetter c then
      let p := readEdgeName f n (skip f cs)
      (c :: p.1, p.2)
    else ([], c :: cs)

/-- The word edge of a name. -/
def edgeOfName? (name : List Char) : Option WordEdge :=
  let name := String.ofList name
  if name = "start" then some .start
  else if name = "end" then some .stop
  else if name = "start-half" then some .startHalf
  else if name = "end-half" then some .stopHalf
  else none

/-- What follows `\b`: the name of a word edge in braces, or nothing. Braces that do not start with
a letter are left for a counted repetition. -/
def readWordEdge (f : Flags) (cs : List Char) : Except SyntaxError (WordEdge × List Char) :=
  match cs with
  | '{' :: rest =>
    match skip f rest with
    | [] => .error .wordEdgeMalformed
    | c :: more =>
      if isEdgeLetter c then
        let (name, tail) := readEdgeName f (more.length + 2) (c :: more)
        match tail, edgeOfName? name with
        | '}' :: tail, some edge => .ok (edge, tail)
        | _, _ => .error .wordEdgeMalformed
      else .ok (.boundary, cs)
  | _ => .ok (.boundary, cs)

/-! ## Escapes -/

/-- Whether a backslash makes a character stand for itself: the ASCII characters that are neither
letters nor digits, except the angle brackets. -/
def isEscapable (c : Char) : Bool :=
  c.toNat < 128 && !c.isAlphanum && c != '<' && c != '>'

/-- Reads an escape, after its backslash. -/
def readEscape (f : Flags) : List Char → Except SyntaxError (Escape × List Char)
  | [] => .error .escapeUnfinished
  | c :: cs =>
    let char (d : Char) : Except SyntaxError (Escape × List Char) := .ok (.char d false, cs)
    let look (a : Assertion) : Except SyntaxError (Escape × List Char) := .ok (.look a, cs)
    if c.isDigit then .error .backreference
    else if isEscapable c then char c
    else
      match c with
      | 'x' | 'u' | 'U' => readHex f c cs
      | 'p' => readProperty f false cs
      | 'P' => readProperty f true cs
      | 'd' | 's' | 'w' | 'D' | 'S' | 'W' => (letterClass f c).map fun s => (.set s, cs)
      | 'a' => char '\x07'
      | 'f' => char '\x0c'
      | 't' => char '\t'
      | 'n' => char '\n'
      | 'r' => char '\r'
      | 'v' => char '\x0b'
      | 'A' => look .textStart
      | 'z' => look .textEnd
      | 'b' => (readWordEdge f cs).map fun p => (.look (.word p.1 f.unicode), p.2)
      | 'B' => look (.word .inside f.unicode)
      | '<' => look (.word .start f.unicode)
      | '>' => look (.word .stop f.unicode)
      | _ => .error .escapeUnknown

end LintServer.Regex
