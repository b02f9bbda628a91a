/-!
# Hexadecimal digits

Escapes in patterns, in TOML and in JSON give characters by their codes, and addresses give bytes by
theirs, all of them in hexadecimal digits of either case.
-/

namespace LintServer

/-- The value of a hexadecimal digit. -/
def hexValue? (c : Char) : Option Nat :=
  if '0' ≤ c ∧ c ≤ '9' then some (c.toNat - '0'.toNat)
  else if 'a' ≤ c ∧ c ≤ 'f' then some (c.toNat - 'a'.toNat + 10)
  else if 'A' ≤ c ∧ c ≤ 'F' then some (c.toNat - 'A'.toNat + 10)
  else none

end LintServer
