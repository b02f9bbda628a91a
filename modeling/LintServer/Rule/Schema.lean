import LintServer.Rule.Basic
import LintServer.Text.Escaped
import LintServer.Toml.Document

/-!
# Configuration files

A configuration is a TOML document with the keys `extends_base`, which may also be spelled
`extendsBase`, and `lints`, a list of rules. A rule is a table with the keys `test`, `rule`,
`message` and `type`, or an array of these four in this order. A severity is its name, or a table
with that name as its only key and nothing in it.

Tables are checked key by key in ascending order, and the first fault is reported.
-/

namespace LintServer

open LintServer.Toml

/-! ## Faults -/

/-- What a place of a configuration has to hold. -/
inductive Expected where
  | boolean | string | list | rule
deriving Repr, DecidableEq, Inhabited

/-- Why a document is no configuration. -/
inductive SchemaError where
  | unknownField (name : String) (known : List String)
  | missingField (name : String)
  | duplicateField (name : String)
  | wrongType (found : Value) (expected : Expected)
  | unknownSeverity (name : String)
  | severityNotNamed
  | severityWithoutName
  | severityWithNames
  | severityWithArray
  | severityWithTable
  | severityWithValue (found : Value)
  | tooShort (length : Nat)
deriving Repr, Inhabited

/-- What a place holds, in words. -/
def describe : Value → String
  | .string s => "string " ++ quoted s
  | .integer n => "integer `" ++ toString n ++ "`"
  | .float x => "floating point `" ++ x.text ++ "`"
  | .boolean b => "boolean `" ++ (if b then "true" else "false") ++ "`"
  | .array _ => "sequence"
  | .datetime | .table _ => "map"

/-- The kind of a value, in one word. -/
def kindName : Value → String
  | .string _ => "string"
  | .integer _ => "integer"
  | .float _ => "float"
  | .boolean _ => "boolean"
  | .datetime => "datetime"
  | .array _ => "array"
  | .table _ => "table"

/-- What a place has to hold, in words. -/
def Expected.describe : Expected → String
  | .boolean => "a boolean"
  | .string => "a string"
  | .list => "a sequence"
  | .rule => "struct Rule"

/-- Names in backquotes, separated by commas. -/
def nameList (names : List String) : String := ", ".intercalate (names.map fun n => "`" ++ n ++ "`")

/-- The message of a fault. -/
def SchemaError.message : SchemaError → String
  | .unknownField name known => "unknown field `" ++ name ++ "`, expected one of " ++ nameList known
  | .missingField name => "missing field `" ++ name ++ "`"
  | .duplicateField name => "duplicate field `" ++ name ++ "`"
  | .wrongType found expected =>
    "invalid type: " ++ LintServer.describe found ++ ", expected " ++ expected.describe
  | .unknownSeverity name =>
    "unknown variant `" ++ name ++ "`, expected one of " ++ nameList (Severity.all.map (·.name))
  | .severityNotNamed => "wanted string or table"
  | .severityWithoutName => "wanted exactly 1 element, found 0 elements"
  | .severityWithNames => "wanted exactly 1 element, more than 1 element"
  | .severityWithArray => "expected empty array"
  | .severityWithTable => "expected empty table"
  | .severityWithValue found => "expected table, found " ++ kindName found
  | .tooShort n => "invalid length " ++ toString n ++ ", expected struct Rule with 4 elements"

/-! ## Places -/

/-- A text. -/
def readText : Value → Except SchemaError String
  | .string s => .ok s
  | v => .error (.wrongType v .string)

/-- A truth value. -/
def readBoolean : Value → Except SchemaError Bool
  | .boolean b => .ok b
  | v => .error (.wrongType v .boolean)

/-- A severity by its name. -/
def readSeverityName (name : String) : Except SchemaError Severity :=
  match Severity.ofName? name with
  | some s => .ok s
  | none => .error (.unknownSeverity name)

/-- A severity. -/
def readSeverity : Value → Except SchemaError Severity
  | .string name => readSeverityName name
  | .table [] => .error .severityWithoutName
  | .table [(name, v)] => do
    let s ← readSeverityName name
    match v with
    | .table [] | .array [] => return s
    | .table _ => .error .severityWithTable
    | .array _ => .error .severityWithArray
    | v => .error (.severityWithValue v)
  | .table _ => .error .severityWithNames
  | _ => .error .severityNotNamed

/-! ## Rules -/

/-- The keys of a rule. -/
def ruleKeys : List String := ["test", "rule", "message", "type"]

/-- The fields of a rule that were read. -/
structure RuleDraft where
  test : Option String := none
  predicate : Option String := none
  message : Option String := none
  severity : Option Severity := none
deriving Repr, Inhabited

/-- Reads one entry of a rule. -/
def RuleDraft.add (d : RuleDraft) (key : String) (v : Value) : Except SchemaError RuleDraft :=
  match key with
  | "test" => (readText v).map fun s => { d with test := some s }
  | "rule" => (readText v).map fun s => { d with predicate := some s }
  | "message" => (readText v).map fun s => { d with message := some s }
  | "type" => (readSeverity v).map fun s => { d with severity := some s }
  | key => .error (.unknownField key ruleKeys)

/-- Reads the entries of a rule. -/
def RuleDraft.addAll (d : RuleDraft) : List (String × Value) → Except SchemaError RuleDraft
  | [] => .ok d
  | (key, v) :: rest =>
    match d.add key v with
    | .ok d => RuleDraft.addAll d rest
    | .error e => .error e

/-- The rule of the fields that were read; only `test` has to be there. -/
def RuleDraft.finish (d : RuleDraft) : Except SchemaError Rule :=
  match d.test with
  | some test => .ok ⟨test, d.predicate, d.message, d.severity⟩
  | none => .error (.missingField "test")

/-- Reads a rule that is written as an array. Of the four elements only the second may be missing,
and only where nothing follows it; elements past the fourth are ignored. -/
def readRuleArray : List Value → Except SchemaError Rule
  | [] => .error (.tooShort 0)
  | test :: rest => do
    let test ← readText test
    match rest with
    | [] => .error (.tooShort 2)
    | predicate :: rest =>
      let predicate ← readText predicate
      match rest with
      | [] => .error (.tooShort 2)
      | message :: rest =>
        let message ← readText message
        match rest with
        | [] => .error (.tooShort 3)
        | severity :: _ =>
          let severity ← readSeverity severity
          return ⟨test, some predicate, some message, some severity⟩

/-- The key under which a date or time presents itself where a table is wanted. -/
def datetimeKey : String := "$__toml_private_datetime"

/-- Reads a rule. -/
def readRule : Value → Except SchemaError Rule
  | .table entries => (({} : RuleDraft).addAll entries).bind RuleDraft.finish
  | .array items => readRuleArray items
  | .datetime => .error (.unknownField datetimeKey ruleKeys)
  | v => .error (.wrongType v .rule)

/-- Reads a list of rules. -/
def readRules : List Value → Except SchemaError (List Rule)
  | [] => .ok []
  | v :: vs => do
    let r ← readRule v
    return r :: (← readRules vs)

/-! ## Configurations -/

/-- The keys of a configuration. -/
def configKeys : List String := ["extendsBase", "extends_base", "lints"]

/-- The fields of a configuration that were read. -/
structure ConfigDraft where
  extendsBase : Option Bool := none
  lints : Option (List Rule) := none
deriving Repr, Inhabited

/-- Reads one entry of a configuration. -/
def ConfigDraft.add (d : ConfigDraft) (key : String) (v : Value) : Except SchemaError ConfigDraft :=
  if key = "extends_base" ∨ key = "extendsBase" then
    match d.extendsBase with
    | some _ => .error (.duplicateField "extends_base")
    | none => (readBoolean v).map fun b => { d with extendsBase := some b }
  else if key = "lints" then
    match v with
    | .array items => (readRules items).map fun rs => { d with lints := some rs }
    | v => .error (.wrongType v .list)
  else .error (.unknownField key configKeys)

/-- Reads the entries of a configuration. -/
def ConfigDraft.addAll (d : ConfigDraft) : List (String × Value) → Except SchemaError ConfigDraft
  | [] => .ok d
  | (key, v) :: rest =>
    match d.add key v with
    | .ok d => ConfigDraft.addAll d rest
    | .error e => .error e

/-- The configuration of a table. -/
def readConfig (entries : List (String × Value)) : Except SchemaError Config :=
  (({} : ConfigDraft).addAll entries).map fun d => ⟨d.extendsBase.getD true, d.lints.getD []⟩

/-- Why a text is no configuration. -/
inductive ConfigError where
  | malformed (cause : Toml.SyntaxError)
  | schema (cause : SchemaError)
deriving Repr, Inhabited

/-- The configuration of a text. -/
def parseConfig (text : String) : Except ConfigError Config :=
  match Toml.parse text with
  | .error e => .error (.malformed e)
  | .ok entries => (readConfig entries).mapError .schema

end LintServer
