import LintServer.Json.Basic
import LintServer.Settings
import LintServer.Text.Escaped

/-!
# Dialogues with the editor

While it handles a message the server tells the editor things, asks it questions and looks at the disk.
What it does next may depend on an answer, or on what is on the disk at that moment. So its side of the
dialogue is a tree, with a branch for every answer and for every disk.
-/

namespace LintServer

/-- How important a line of the log is. -/
inductive LogLevel where
  | error | warning | info | log
deriving Repr, DecidableEq, Inhabited

/-- The number of a level in messages to an editor. -/
def LogLevel.code : LogLevel → Nat
  | .error => 1
  | .warning => 2
  | .info => 3
  | .log => 4

/-- What the server tells an editor. -/
inductive Notice where
  | log (level : LogLevel) (text : String)
  | publish (p : Publication)
deriving Repr, DecidableEq, Inhabited

/-- What an editor is asked to notify the server of from now on. -/
inductive Registration where
  | configuration
  | configFiles
deriving Repr, DecidableEq, Inhabited

/-- What the server asks an editor. -/
inductive Question where
  /-- The folder that the editor works in. -/
  | workspaceFolder
  | register (registrations : List Registration)
deriving Repr, DecidableEq, Inhabited

/-- What an editor answers. -/
inductive Reply where
  | result (value : Json)
  | failure
deriving Repr, Inhabited

/-- The folder that an editor answers with: a text that is not empty, as the first of an array. -/
def Reply.folder? : Reply → Option Path
  | .result (.arr (.str s :: _)) => if s.isEmpty then none else some (Path.ofString s)
  | _ => none

/-- The server's side of a dialogue that ends with a value. -/
inductive Dialogue (α : Type) where
  | done (value : α)
  | tell (notice : Notice) (next : Dialogue α)
  | ask (question : Question) (next : Reply → Dialogue α)
  /-- Looks at some paths of the disk. -/
  | look (paths : List Path) (next : Disk → Dialogue α)

namespace Dialogue

/-- Goes on after a dialogue. -/
def andThen (d : Dialogue α) (f : α → Dialogue β) : Dialogue β :=
  match d with
  | .done a => f a
  | .tell n next => .tell n (next.andThen f)
  | .ask q next => .ask q fun r => (next r).andThen f
  | .look p next => .look p fun d => (next d).andThen f

instance : Monad Dialogue where
  pure := .done
  bind := andThen

/-- Tells the editor one thing. -/
def say (n : Notice) : Dialogue Unit := .tell n (.done ())

/-- What the server said. -/
inductive Sent where
  | notice (n : Notice)
  | question (q : Question)
deriving Repr, DecidableEq, Inhabited

/-- All that the server says to an editor that answers as given, while the disk stays as it is, and the
value at the end. -/
def run (d : Disk) (editor : Question → Reply) : Dialogue α → List Sent × α
  | .done a => ([], a)
  | .tell n next =>
    let (sent, a) := next.run d editor
    (.notice n :: sent, a)
  | .ask q next =>
    let (sent, a) := (next (editor q)).run d editor
    (.question q :: sent, a)
  | .look _ next => (next d).run d editor

end Dialogue

/-! ## Messages -/

/-- A position in a message. -/
def Position.toJson (p : Position) : Json := .obj [("line", .int p.line), ("character", .int p.column)]

/-- A range in a message. -/
def PositionRange.toJson (r : PositionRange) : Json :=
  .obj [("start", r.start.toJson), ("end", r.stop.toJson)]

/-- A related place in a message. -/
def RelatedPlace.toJson (r : RelatedPlace) : Json :=
  .obj [("location", .obj [("uri", .str r.uri.text), ("range", r.range.toJson)]), ("message", .str r.message)]

/-- A diagnostic in a message. -/
def Diagnostic.toJson (d : Diagnostic) : Json :=
  .obj ([("range", d.range.toJson), ("severity", .int d.severity.code), ("source", .str Diagnostic.source),
    ("message", .str d.message)] ++
    if d.related.isEmpty then [] else [("relatedInformation", .arr (d.related.map RelatedPlace.toJson))])

/-- A publication in a message. -/
def Publication.toJson (p : Publication) : Json :=
  .obj [("uri", .str p.uri.text), ("diagnostics", .arr (p.diagnostics.map Diagnostic.toJson))]

/-- The method and the parameters with which an editor is told something. -/
def Notice.message : Notice → String × Json
  | .log level text =>
    ("window/logMessage", .obj [("type", .int level.code), ("message", .str text)])
  | .publish p => ("textDocument/publishDiagnostics", p.toJson)

/-- The pattern of the paths of configuration files. -/
def configFilePattern : String := "**/" ++ configFileName

/-- A registration in a message. -/
def Registration.toJson : Registration → Json
  | .configuration =>
    .obj [("id", .str "code-check/configuration"), ("method", .str "workspace/didChangeConfiguration")]
  | .configFiles =>
    .obj [("id", .str "code-check/config-files"), ("method", .str "workspace/didChangeWatchedFiles"),
      ("registerOptions", .obj [("watchers", .arr [.obj [("globPattern", .str configFilePattern)]])])]

/-- The method and the parameters with which an editor is asked something. -/
def Question.message : Question → String × Json
  | .workspaceFolder =>
    ("workspace/configuration", .obj [("items", .arr [.obj [("section", .str "workspaceFolder")]])])
  | .register rs => ("client/registerCapability", .obj [("registrations", .arr (rs.map Registration.toJson))])

end LintServer
