import LintServer.Rule.Schema

/-!
# Base rules

The rules that come with the program. A project extends them unless it says otherwise. They are written
down like the rules of a project, and there is one rule to fall back on should that text have a fault.
-/

namespace LintServer

/-- The text of the rules that come with the program: merge conflict markers, blanks at the end of a
line, and indentation that mixes tabs and blanks. -/
def builtinText : String := "# Built-in rules appended to every project config unless it sets
# `extends_base = false`.
#
# A match is reported by the first rule whose `rule` accepts it, so each base
# rule carries a predicate that only accepts its own kind of match.

[[lints]]
test = '(?mR)^(<\x7b7\x7d|=\x7b7\x7d|>\x7b7\x7d)( .*)?$'
rule = '^(<\x7b7\x7d|=\x7b7\x7d|>\x7b7\x7d)'
message = \"Unresolved merge conflict marker\"
type = \"Error\"

[[lints]]
test = '(?mR)[ \\t]+$'
rule = '^[ \\t]+$'
message = \"Trailing whitespace\"
type = \"Warning\"

[[lints]]
test = '(?mR)^( +\\t|\\t+ )[ \\t]*'
rule = '^( +\\t|\\t+ )'
message = \"Indentation mixes tabs and spaces\"
type = \"Information\"
"

/-- The rule about blanks at the end of a line. -/
def trailingRule : Rule :=
  { test := "(?mR)[ \\t]+$"
    predicate := some "^[ \\t]+$"
    ownMessage := some "Trailing whitespace"
    ownSeverity := some .warning }

/-- The base rules that are built in: those of the text, or else a single one. -/
@[irreducible] def builtinRules : List Rule :=
  ((parseConfig builtinText).toOption.map (·.lints)).getD [trailingRule]

end LintServer
