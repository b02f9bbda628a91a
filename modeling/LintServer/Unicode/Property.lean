import LintServer.Unicode.Table
import LintServer.Unicode.Table.Category
import LintServer.Unicode.Table.Script
import LintServer.Unicode.Table.ScriptExtensions
import LintServer.Unicode.Table.Binary
import LintServer.Unicode.Table.Age
import LintServer.Unicode.Table.Break

/-!
# Character properties by name

Names are compared loosely: case, blanks, underscores and hyphens are ignored, and so is a leading
`is`. A name alone selects a binary property, a general category or a script, in this order; a name
with a value selects a value of an enumerated property.
-/

namespace LintServer.Unicode

open Table

namespace Property

/-! ## Loose names -/

/-- Lower case of an ASCII capital; every other character unchanged. -/
def asciiLower (c : Char) : Char := if 'A' ≤ c ∧ c ≤ 'Z' then Char.ofNat (c.toNat + 32) else c

/-- Drops the separators and the characters outside ASCII, and lowers the capitals. -/
def squeeze (cs : List Char) : List Char :=
  (cs.filter fun c => c ≠ ' ' && c ≠ '_' && c ≠ '-' && c.toNat < 128).map asciiLower

/-- The form in which names are compared. The name `isc` keeps its `is`, since what would be left of
it is the name of a category. -/
def looseName (name : String) : String :=
  match name.toList with
  | i :: s :: rest =>
    if asciiLower i = 'i' ∧ asciiLower s = 's' then
      let short := squeeze rest
      String.ofList (if short = ['c'] then ['i', 's', 'c'] else short)
    else String.ofList (squeeze (i :: s :: rest))
  | cs => String.ofList (squeeze cs)

/-! ## General categories -/

/-- The code points of one general category, by a loose name. -/
def leaf (name : String) : CharSet := (row? category name).getD .empty

/-- The code points of some general categories. -/
def leaves (names : List String) : CharSet := CharSet.unionAll (names.map leaf)

/-- The surrogate code points, which are no characters. -/
def surrogates : CharSet := .range 0xD800 0xDFFF

/-- The code points that are assigned a category of their own. -/
def assigned : CharSet :=
  (CharSet.unionAll (category.map fun row => charSet row.2)).union surrogates

/-- General categories that are unions of others, with the names that select them. -/
def groups : List (List String × List String) := [
  (["l", "letter"], ["lu", "ll", "lt", "lm", "lo"]),
  (["lc", "casedletter"], ["lu", "ll", "lt"]),
  (["m", "mark", "combiningmark"], ["mn", "mc", "me"]),
  (["n", "number"], ["nd", "nl", "no"]),
  (["p", "punctuation", "punct"], ["pc", "pd", "ps", "pe", "pi", "pf", "po"]),
  (["s", "symbol"], ["sm", "sc", "sk", "so"]),
  (["z", "separator"], ["zs", "zl", "zp"])]

/-- The general category of a loose name. -/
def category? (name : String) : Option CharSet :=
  match groups.find? fun g => g.1.contains name with
  | some g => some (leaves g.2)
  | none =>
    if name = "any" then some .all
    else if name = "ascii" then some (.range 0 0x7F)
    else if name = "assigned" then some assigned
    else if name = "cn" || name = "unassigned" then some assigned.complement
    else if name = "c" || name = "other" then
      some ((leaves ["cc", "cf", "co"]).union assigned.complement)
    else row? category name

/-! ## Derived binary properties -/

/-- What a derived property needs beyond the categories. -/
def extra (name : String) : CharSet := (row? contributory name).getD .empty

/-- A binary property that is listed in full. -/
def listed (name : String) : CharSet := (row? binary name).getD .empty

def lowercase : CharSet := (leaf "ll").union (extra "otherlowercase")

def uppercase : CharSet := (leaf "lu").union (extra "otheruppercase")

def cased : CharSet := (lowercase.union uppercase).union (leaf "lt")

def alphabetic : CharSet :=
  (cased.union (leaves ["lm", "lo", "nl"])).union (extra "otheralphabetic")

def caseIgnorable : CharSet :=
  (leaves ["mn", "me", "cf", "lm", "sk"]).union (extra "othercaseignorable")

def graphemeExtend : CharSet := (leaves ["mn", "me"]).union (extra "othergraphemeextend")

def graphemeBase : CharSet :=
  ((assigned.diff surrogates).diff (leaves ["cc", "cf", "co", "zl", "zp"])).diff graphemeExtend

def patternCharacters : CharSet := (listed "patternsyntax").union (listed "patternwhitespace")

def idStart : CharSet :=
  ((leaves ["lu", "ll", "lt", "lm", "lo", "nl"]).diff patternCharacters).union (extra "otheridstart")

def idContinue : CharSet :=
  ((idStart.union (leaves ["mn", "mc", "nd", "pc"])).diff patternCharacters).union
    (extra "otheridcontinue")

/-- Binary properties that follow from the categories. -/
def derived? (name : String) : Option CharSet :=
  if name = "lower" || name = "lowercase" then some lowercase
  else if name = "upper" || name = "uppercase" then some uppercase
  else if name = "cased" then some cased
  else if name = "alpha" || name = "alphabetic" then some alphabetic
  else if name = "ci" || name = "caseignorable" then some caseIgnorable
  else if name = "grext" || name = "graphemeextend" then some graphemeExtend
  else if name = "grbase" || name = "graphemebase" then some graphemeBase
  else if name = "ids" || name = "idstart" then some idStart
  else if name = "idc" || name = "idcontinue" then some idContinue
  else if name = "xids" || name = "xidstart" then some (idStart.diff (extra "notxidstart"))
  else if name = "xidc" || name = "xidcontinue" then
    some (idContinue.diff (extra "notxidcontinue"))
  else none

/-- The binary property of a loose name. -/
def binary? (name : String) : Option CharSet :=
  match derived? name with
  | some s => some s
  | none => row? binary name

/-! ## Enumerated properties -/

/-- The script of a loose name. -/
def script? (name : String) : Option CharSet := row? script name

/-- The script extension of a loose name: the script with what the extension adds to it and without
what it lacks. -/
def scriptExtension? (name : String) : Option CharSet :=
  (script.find? fun row => row.1.contains name).map fun row =>
    let base := charSet row.2
    match scriptExtension.find? fun e => row.1.contains e.1 with
    | some e => (base.union (charSet e.2.1)).diff (charSet e.2.2)
    | none => base

/-- The code points assigned in the version of a loose name or in one before it. -/
def age? (name : String) : Option CharSet :=
  if age.any fun row => row.1.contains name then
    let older := age.takeWhile fun row => !row.1.contains name
    let own := (row? age name).getD .empty
    some ((CharSet.unionAll (older.map fun row => charSet row.2)).union own)
  else none

/-- The precomposed Hangul syllables that end in a vowel: the first of each run of 28. -/
def hangulOpen : CharSet :=
  ⟨(List.range 399).map fun k => ⟨0xAC00 + 28 * k, 0xAC00 + 28 * k⟩⟩

/-- The grapheme cluster break class of a loose name. -/
def graphemeBreak? (name : String) : Option CharSet :=
  if name = "lv" then some hangulOpen
  else if name = "lvt" then some ((CharSet.range 0xAC00 0xD7A3).diff hangulOpen)
  else row? graphemeBreak name

/-- The set that a value of an enumerated property selects, both by loose names. -/
def ofValue? (property value : String) : Option CharSet :=
  if property = "gc" || property = "generalcategory" then category? value
  else if property = "sc" || property = "script" then script? value
  else if property = "scx" || property = "scriptextensions" then scriptExtension? value
  else if property = "age" then age? value
  else if property = "gcb" || property = "graphemeclusterbreak" then graphemeBreak? value
  else if property = "wb" || property = "wordbreak" then row? wordBreak value
  else if property = "sb" || property = "sentencebreak" then row? sentenceBreak value
  else none

/-- The set that a single loose name selects. -/
def ofName? (name : String) : Option CharSet :=
  match binary? name with
  | some s => some s
  | none =>
    match category? name with
    | some s => some s
    | none => script? name

end Property

/-! ## The classes that patterns name by one letter -/

/-- The decimal digits. -/
def digitSet : CharSet := Property.leaf "nd"

/-- The white space characters. -/
def spaceSet : CharSet := Property.listed "whitespace"

/-- The characters of words: letters and other alphabetic characters, marks, decimal digits,
connectors and the two joiners. -/
def wordSet : CharSet :=
  ((Property.alphabetic.union (Property.leaves ["mn", "mc", "me", "nd", "pc"])).union
    (Property.listed "joincontrol"))

/-- The digits of ASCII. -/
def asciiDigitSet : CharSet := .range 0x30 0x39

/-- The white space of ASCII. -/
def asciiSpaceSet : CharSet := ⟨[⟨0x09, 0x0D⟩, ⟨0x20, 0x20⟩]⟩

/-- The word characters of ASCII. -/
def asciiWordSet : CharSet :=
  ⟨[⟨0x30, 0x39⟩, ⟨0x41, 0x5A⟩, ⟨0x5F, 0x5F⟩, ⟨0x61, 0x7A⟩]⟩

/-- Whether a character is white space. -/
def isSpace (c : Char) : Bool :=
  if c.toNat < 128 then asciiSpaceSet.contains c else spaceSet.contains c

/-- Whether a character is part of a word. -/
def isWord (c : Char) : Bool :=
  if c.toNat < 128 then asciiWordSet.contains c else wordSet.contains c

/-- Whether a character is alphabetic. -/
def isAlphabetic (c : Char) : Bool := Property.alphabetic.contains c

/-- Whether a character is alphabetic or a number. -/
def isAlphanumeric (c : Char) : Bool :=
  isAlphabetic c || (Property.leaves ["nd", "nl", "no"]).contains c

end LintServer.Unicode
