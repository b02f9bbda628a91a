import LintServer.Lint.Finding
import LintServer.Root.Find

/-!
# The command line

Options are spelled with two dashes. The value of an option follows it as the next argument or behind
an equals sign. Two options add to a list and may be repeated; all others may be given once.

An argument behind an option is looked at before the option is taken, and it is refused first if it
is none: so a value is judged only when the option after it, or the end, is reached.
-/

namespace LintServer

/-- What the program is asked to do. -/
structure Options where
  /-- How many findings are reported for a document. -/
  maxProblems : Nat := defaultLimit
  markers : List Marker := Marker.defaults
  /-- The files that may have the base rules, in order. -/
  baseRuleFiles : List Path := []
  logLevel : String := "info"
deriving Repr, DecidableEq, Inhabited

namespace CommandLine

/-- Why the arguments are not taken. -/
inductive Error where
  | unknownArgument
  /-- A value is missing, or may not be empty. -/
  | missingValue
  /-- A value is no number in range. -/
  | malformedValue
  /-- An option is given twice. -/
  | repeated
  /-- An option without a value is given one. -/
  | superfluousValue
  | help
  | version
  /-- A marker is no plain file name. -/
  | badMarker
deriving Repr, DecidableEq, Inhabited

/-- An option with a value. -/
inductive ValueOption where
  | maxProblems | rootMarker | weakRootMarker | baseRules | logLevel
deriving Repr, DecidableEq, Inhabited

/-- An option without a value. -/
inductive Flag where
  | stdio | help | version
deriving Repr, DecidableEq, Inhabited

/-- The options with a value and their names. -/
def valueOptions : List (String × ValueOption) :=
  [("max-problems", .maxProblems), ("root-marker", .rootMarker), ("weak-root-marker", .weakRootMarker),
    ("base-rules", .baseRules), ("log-level", .logLevel)]

/-- The options without a value and their names. -/
def flags : List (String × Flag) := [("stdio", .stdio), ("help", .help), ("version", .version)]

/-- The options without a value that have a letter. -/
def letters : List (Char × Flag) := [('h', .help), ('V', .version)]

/-- The values that were given. -/
structure Given where
  maxProblems : Option Nat := none
  rootMarkers : List String := []
  weakRootMarkers : List String := []
  baseRules : Option Path := none
  logLevel : Option String := none
  stdio : Bool := false
deriving Repr, DecidableEq, Inhabited

/-- The number of a text of decimal digits, possibly with a plus sign before them. -/
def natOfText? (s : String) : Option Nat :=
  let digits := match s.toList with
    | '+' :: cs => cs
    | cs => cs
  if digits.isEmpty || !digits.all Char.isDigit then none
  else
    let n := digits.foldl (fun n c => n * 10 + (c.toNat - 0x30)) 0
    if n < 0x10000000000000000 then some n else none

/-- Takes the value of an option. -/
def Given.take (g : Given) (o : ValueOption) (value : String) : Except Error Given :=
  match o with
  | .maxProblems =>
    if g.maxProblems.isSome then .error .repeated
    else
      match natOfText? value with
      | some n => .ok { g with maxProblems := some n }
      | none => .error .malformedValue
  | .rootMarker => .ok { g with rootMarkers := g.rootMarkers ++ [value] }
  | .weakRootMarker => .ok { g with weakRootMarkers := g.weakRootMarkers ++ [value] }
  | .baseRules =>
    if g.baseRules.isSome then .error .repeated
    else if value.isEmpty then .error .missingValue
    else .ok { g with baseRules := some (Path.ofString value) }
  | .logLevel =>
    if g.logLevel.isSome then .error .repeated else .ok { g with logLevel := some value }

/-- An option that was read last, with its value once that is read. -/
abbrev Pending := Option (ValueOption × Option String)

/-- Takes the option that was read last. -/
def Given.settle (g : Given) : Pending → Except Error Given
  | none => .ok g
  | some (_, none) => .error .missingValue
  | some (o, some value) => g.take o value

/-- Takes an option without a value. -/
def Given.raise (g : Given) : Flag → Except Error Given
  | .stdio => if g.stdio then .error .repeated else .ok { g with stdio := true }
  | .help => .error .help
  | .version => .error .version

/-- How an argument is spelled. -/
inductive Shape where
  /-- Two dashes. -/
  | divider
  /-- Two dashes and a name, and a value if there is an equals sign. -/
  | long (name : String) (value : Option String)
  /-- A dash and a letter. -/
  | short (letter : Char)
  | plain
deriving Repr, DecidableEq, Inhabited

/-- How an argument is spelled. -/
def Shape.of (arg : String) : Shape :=
  match arg.toList with
  | ['-', '-'] => .divider
  | '-' :: '-' :: cs =>
    let name := String.ofList (cs.takeWhile (· != '='))
    match cs.dropWhile (· != '=') with
    | _ :: value => .long name (some (String.ofList value))
    | [] => .long name none
  | '-' :: c :: _ => .short c
  | _ => .plain

/-- Reads arguments. -/
def read (g : Given) (pending : Pending) : List String → Except Error Given
  | [] => g.settle pending
  | arg :: rest =>
    match Shape.of arg with
    | .divider => if rest.isEmpty then g.settle pending else .error .unknownArgument
    | .long name value =>
      match valueOptions.lookup name, flags.lookup name with
      | some o, _ =>
        match g.settle pending, value with
        | .error e, _ => .error e
        | .ok g, none => read g (some (o, none)) rest
        | .ok g, some v =>
          match g.take o v with
          | .ok g => read g none rest
          | .error e => .error e
      | none, some f =>
        if value.isSome then .error .superfluousValue
        else
          match (g.settle pending).bind (·.raise f) with
          | .ok g => read g none rest
          | .error e => .error e
      | none, none => .error .unknownArgument
    | .short c =>
      match letters.lookup c with
      | some f =>
        match (g.settle pending).bind (·.raise f) with
        | .ok g => read g none rest
        | .error e => .error e
      | none => .error .unknownArgument
    | .plain =>
      match pending with
      | some (o, none) => read g (some (o, some arg)) rest
      | _ => .error .unknownArgument

/-- Whether a marker is the name of a file, without any directory. -/
def isPlainName (name : String) : Bool := !name.isEmpty && !name.toList.any fun c => c == '/' || c == '\\'

/-- The name of the file with the base rules of a user, below the directory of their settings. -/
def userBaseRules (settings : Path) : Path :=
  (settings.join (Utf8.encode "code-check".toList)).join (Utf8.encode "base-rules.toml".toList)

/-- What is asked for by the values that were given, if the settings of the user are in `settings`. -/
def Given.toOptions (g : Given) (settings : Option Path) : Except Error Options :=
  if (g.rootMarkers ++ g.weakRootMarkers).all isPlainName then
    .ok
      { maxProblems := g.maxProblems.getD defaultLimit
        markers := Marker.defaults ++ g.rootMarkers.map (⟨·, true⟩) ++ g.weakRootMarkers.map (⟨·, false⟩)
        baseRuleFiles := g.baseRules.toList ++ (settings.map userBaseRules).toList
        logLevel := g.logLevel.getD "info" }
  else .error .badMarker

end CommandLine

/-- What the arguments of the program ask for. -/
def Options.ofArgs (settings : Option Path) (args : List String) : Except CommandLine.Error Options :=
  (CommandLine.read {} none args).bind (·.toOptions settings)

namespace CommandLine

/-! ## Answers on the command line -/

/-- The name of the program. -/
def programName : String := "code-check-ls"

/-- The version of the program. -/
def programVersion : String := "0.1.0"

/-- What is printed when the version is asked for. -/
def versionText : String := programName ++ " " ++ programVersion ++ "\n"

/-- What is printed when help is asked for. -/
def helpText : String :=
  String.join <| List.map (· ++ "\n")
    ["Language server that lints documents with per-project regex rules",
      "",
      "Usage: code-check-ls [OPTIONS]",
      "",
      "Options:",
      "      --max-problems <MAX_PROBLEMS>   Maximum number of diagnostics reported per document [default: 100]",
      "      --root-marker <FILE_NAME>       Extra file name marking a project root (stops the upward search)",
      "      --weak-root-marker <FILE_NAME>  Extra file name marking a candidate project root (search continues upward)",
      "      --base-rules <BASE_RULES>       TOML file with [[lints]] replacing the built-in base rules",
      "      --log-level <LOG_LEVEL>         Log level (trace, debug, info, warn, error) [default: info]",
      "  -h, --help                          Print help",
      "  -V, --version                       Print version"]

/-- What is said about arguments that are not taken, or printed instead of taking them. -/
def Error.message : Error → String
  | .unknownArgument => "unexpected argument found"
  | .missingValue => "a value is required but none was supplied"
  | .malformedValue => "invalid value"
  | .repeated => "the argument cannot be used multiple times"
  | .superfluousValue => "unexpected value"
  | .help => helpText
  | .version => versionText
  | .badMarker => "Root markers must be plain file names"

/-- The code with which the program ends if its arguments are not taken. -/
def Error.exitCode : Error → Nat
  | .help | .version => 0
  | .badMarker => 1
  | _ => 2

end CommandLine

end LintServer
