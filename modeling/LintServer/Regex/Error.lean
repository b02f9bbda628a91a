/-!
# Why a pattern is refused
-/

namespace LintServer.Regex

/-- What is wrong with a pattern's text. -/
inductive SyntaxError where
  | classUnclosed
  | classRangeReversed
  | classRangeOfSets
  | classWithAssertion
  | escapeUnfinished
  | escapeUnknown
  | escapeNotHexadecimal
  | escapeNoCharacter
  | backreference
  | flagsUnfinished
  | flagUnknown
  | flagRepeated
  | flagsDanglingNegation
  | groupUnclosed
  | groupUnopened
  | groupNameMalformed
  | groupNameRepeated
  | lookAround
  | repetitionOfNothing
  | repetitionMalformed
  | repetitionReversed
  | wordEdgeMalformed
  | propertyUnknown
  | unicodeDisabled
  | notCharacters
  | nestedTooDeep
deriving Repr, DecidableEq, Inhabited

/-- Why a pattern is refused. -/
inductive Error where
  /-- The pattern is not well formed. -/
  | malformed (cause : SyntaxError)
  /-- The pattern is well formed, and its automaton would take more than `limit` bytes. -/
  | tooBig (limit : Nat)
deriving Repr, DecidableEq, Inhabited

end LintServer.Regex
