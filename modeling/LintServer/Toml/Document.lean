import LintServer.Toml.Quoted
import LintServer.Toml.Scalar
import LintServer.Toml.Tree

/-!
# Documents

A document is a sequence of lines: each holds a header, a key with its value, or nothing, and may end
in a comment. Arrays and inline tables may run over several lines and may end in a comma. Brackets
and braces are nested at most 80 deep.
-/

namespace LintServer.Toml

/-! ## Blanks and comments -/

/-- What follows a comment, if one starts here: the rest of the line with its line end. -/
def afterComment (cs : List Char) : Result (List Char) :=
  match cs with
  | '#' :: cs =>
    let rest := cs.dropWhile isPlain
    if rest.isEmpty || (afterLineEnd? rest).isSome then .ok rest else .error .controlCharacter
  | cs => .ok cs

/-- What follows the rest of a line that holds nothing more. -/
def afterLine (cs : List Char) : Result (List Char) := do
  let rest ← afterComment (cs.dropWhile isBlank)
  match rest with
  | [] => return []
  | rest =>
    match afterLineEnd? rest with
    | some rest => return rest
    | none => .error .expectedLineEnd

/-- Drops blanks, line ends and comments. -/
def afterSpace : (fuel : Nat) → List Char → Result (List Char)
  | 0, cs => .ok cs
  | n + 1, cs => do
    let rest ← afterComment (dropLines cs)
    if rest.length = cs.length then return rest else afterSpace n rest

/-- Drops blanks, line ends and comments. -/
def skipSpace (cs : List Char) : Result (List Char) := afterSpace (cs.length + 1) cs

/-! ## Keys -/

/-- Whether a character may stand in a key without quotes. -/
def isKeyChar (c : Char) : Bool := c.isAlphanum || c == '_' || c == '-'

/-- Reads one part of a key. -/
def readKeyPart (cs : List Char) : Result (String × List Char) :=
  match cs with
  | '"' :: cs => readLineQuoted '"' cs
  | '\'' :: cs => readLineQuoted '\'' cs
  | cs =>
    let name := cs.takeWhile isKeyChar
    if name.isEmpty then .error .badKey
    else .ok (String.ofList name, cs.dropWhile isKeyChar)

/-- Reads a key, whose parts are separated by dots with blanks around them. -/
def readKey : (fuel : Nat) → List Char → Result (List String × List Char)
  | 0, _ => .error .badKey
  | n + 1, cs => do
    let (part, rest) ← readKeyPart cs
    match rest.dropWhile isBlank with
    | '.' :: rest =>
      let (parts, rest) ← readKey n (rest.dropWhile isBlank)
      return (part :: parts, rest)
    | rest => return ([part], rest)

/-- Reads a key and the sign after it. -/
def readKeyEquals (cs : List Char) : Result (List String × List Char) := do
  let (key, rest) ← readKey (cs.length + 1) cs
  match rest with
  | '=' :: rest => return (key, rest.dropWhile isBlank)
  | _ => .error .expectedEquals

/-! ## Values -/

/-- Whether a character belongs to a word: those that separate values end it. -/
def isWordChar (c : Char) : Bool :=
  !(isBlank c || c == '\n' || c == '\r' || c == ',' || c == ']' || c == '}' || c == '#' || c == '=' ||
    c == '[' || c == '{' || c == '"' || c == '\'')

/-- Splits a word off. A blank between a date and a time belongs to the word. -/
def splitWord (cs : List Char) : List Char × List Char :=
  let word := cs.takeWhile isWordChar
  let rest := cs.dropWhile isWordChar
  match skipDate? word, rest with
  | some [], ' ' :: d :: more =>
    if d.isDigit then
      let time := (d :: more).takeWhile isWordChar
      (word ++ ' ' :: time, (d :: more).dropWhile isWordChar)
    else (word, rest)
  | _, _ => (word, rest)

/-- How deep brackets and braces may be nested. -/
def depthLimit : Nat := 80

mutual
/-- Reads a value; `depth` counts the brackets and braces around it. -/
def readValue : (fuel depth : Nat) → List Char → Result (Value × List Char)
  | 0, _, _ => .error .badValue
  | n + 1, depth, cs =>
    match cs with
    | '"' :: rest => (readQuoted '"' rest).map fun r => (.string r.1, r.2)
    | '\'' :: rest => (readQuoted '\'' rest).map fun r => (.string r.1, r.2)
    | '[' :: rest =>
      if depth < depthLimit then
        (readItems n (depth + 1) [] rest).map fun r => (.array r.1.reverse, r.2)
      else .error .nestedTooDeep
    | '{' :: rest =>
      if depth < depthLimit then
        (readEntries n (depth + 1) [] rest).map fun r => (.table (entryValues r.1), r.2)
      else .error .nestedTooDeep
    | cs =>
      let (word, rest) := splitWord cs
      (readWord word).map fun v => (v, rest)

/-- Reads the items of an array up to the closing bracket; `done` holds those read, the last one
first. -/
def readItems : (fuel depth : Nat) → (done : List Value) → List Char →
    Result (List Value × List Char)
  | 0, _, _, _ => .error .badValue
  | n + 1, depth, done, cs =>
    match skipSpace cs with
    | .error e => .error e
    | .ok (']' :: rest) => .ok (done, rest)
    | .ok cs =>
      match readValue n depth cs with
      | .error e => .error e
      | .ok (v, rest) =>
        match skipSpace rest with
        | .error e => .error e
        | .ok (',' :: rest) => readItems n depth (v :: done) rest
        | .ok (']' :: rest) => .ok (v :: done, rest)
        | .ok _ => .error .expectedSeparator

/-- Reads the entries of an inline table up to the closing brace. -/
def readEntries : (fuel depth : Nat) → (done : Entries) → List Char → Result (Entries × List Char)
  | 0, _, _, _ => .error .badValue
  | n + 1, depth, done, cs =>
    match skipSpace cs with
    | .error e => .error e
    | .ok ('}' :: rest) => .ok (done, rest)
    | .ok cs =>
      match readKeyEquals cs with
      | .error e => .error e
      | .ok (key, rest) =>
        match readValue n depth rest with
        | .error e => .error e
        | .ok (v, rest) =>
          match done.putDotted .header true v key, skipSpace rest with
          | .error e, _ => .error e
          | _, .error e => .error e
          | .ok done, .ok (',' :: rest) => readEntries n depth done rest
          | .ok done, .ok ('}' :: rest) => .ok (done, rest)
          | .ok _, .ok _ => .error .expectedSeparator
end

/-! ## Lines -/

/-- What is read of a document: the tree, and the path of the header in force. -/
structure Draft where
  root : Entries := []
  header : List String := []
deriving Repr, Inhabited

/-- Reads a header, after its first bracket. -/
def readHeader (d : Draft) (cs : List Char) : Result (Draft × List Char) := do
  match cs with
  | '[' :: cs =>
    let (path, rest) ← readKey (cs.length + 1) (cs.dropWhile isBlank)
    match rest with
    | ']' :: ']' :: rest => return (⟨← d.root.openArrayTable path, path⟩, ← afterLine rest)
    | _ => .error .badHeader
  | cs =>
    let (path, rest) ← readKey (cs.length + 1) (cs.dropWhile isBlank)
    match rest with
    | ']' :: rest => return (⟨← d.root.openTable path, path⟩, ← afterLine rest)
    | _ => .error .badHeader

/-- Reads a key and its value. -/
def readEntry (d : Draft) (cs : List Char) : Result (Draft × List Char) := do
  let (key, rest) ← readKeyEquals cs
  let (v, rest) ← readValue (rest.length + 1) 0 rest
  let root ← d.root.put d.header key v
  return ({ d with root := root }, ← afterLine rest)

/-- Reads the lines of a document. -/
def readLines : (fuel : Nat) → Draft → List Char → Result Draft
  | 0, d, _ => .ok d
  | n + 1, d, cs =>
    match skipSpace cs with
    | .error e => .error e
    | .ok [] => .ok d
    | .ok (c :: rest) =>
      match if c = '[' then readHeader d rest else readEntry d (c :: rest) with
      | .error e => .error e
      | .ok (d, rest) => readLines n d rest

/-- A text without the mark of byte order at its start. -/
def withoutMark : List Char → List Char
  | c :: cs => if c.toNat = 0xFEFF then cs else c :: cs
  | [] => []

/-- The table that a document denotes. -/
def parse (text : String) : Result (List (String × Value)) :=
  let cs := withoutMark text.toList
  (readLines (cs.length + 1) {} cs).map fun d => entryValues d.root

end LintServer.Toml
