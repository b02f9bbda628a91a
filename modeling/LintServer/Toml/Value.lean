import LintServer.Decimal.Binary64

/-!
# TOML values

The tree that a TOML document denotes. A table lists its entries in ascending order of their keys,
each key once.
-/

namespace LintServer.Toml

/-- A value of a TOML document. Of dates and times only their presence matters. -/
inductive Value where
  | string (s : String)
  | integer (n : Int)
  | float (x : Binary64)
  | boolean (b : Bool)
  | datetime
  | array (items : List Value)
  | table (entries : List (String × Value))
deriving Repr, Inhabited

/-- What is wrong with the text of a document. -/
inductive SyntaxError where
  | badKey
  | badValue
  | badString
  | badEscape
  | badNumber
  | badDatetime
  | controlCharacter
  | expectedEquals
  | expectedLineEnd
  | expectedSeparator
  | badHeader
  | duplicateKey
  | extendsValue
  | nestedTooDeep
deriving Repr, DecidableEq, Inhabited

/-- Reading yields a value or tells what is wrong. -/
abbrev Result := Except SyntaxError

end LintServer.Toml
