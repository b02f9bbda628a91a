import LintServer.Server.Basic

/-!
# Sessions

A session is opened by one request, and before that every other request is refused and every
notification dropped. After the request to shut down, requests are invalid and notifications are
dropped, and after the notification to exit nothing is handled any more.

A method that is not known is reported at any time before the exit, except that methods whose names
start with `$/` may be ignored.
-/

namespace LintServer

open LintServer.Protocol

/-- A message from an editor. A request has an id, and a notification has none. -/
structure Message where
  id : Option Json := none
  method : String
  params : Option Json := none
deriving Repr, Inhabited

/-- Why a request is not carried out. -/
inductive RequestError where
  | notInitialized | invalidRequest | methodNotFound | invalidParams
deriving Repr, DecidableEq, Inhabited

/-- The number of an error in messages to an editor. -/
def RequestError.code : RequestError → Int
  | .notInitialized => -32002
  | .invalidRequest => -32600
  | .methodNotFound => -32601
  | .invalidParams => -32602

/-- What a request leads to. -/
inductive Outcome where
  | result (value : Json)
  | error (cause : RequestError)
deriving Repr, Inhabited

/-- An answer to a request. -/
structure Response where
  id : Json
  outcome : Outcome
deriving Repr, Inhabited

/-- What the server answers when a session is opened. -/
def openingResult (flags : ClientFlags) : Json :=
  let workspace : List (String × Json) :=
    if flags.workspaceFolders then
      [("workspace", .obj [("workspaceFolders",
        .obj [("supported", .bool true), ("changeNotifications", .bool true)])])]
    else []
  .obj
    [("capabilities", .obj ([("textDocumentSync", .obj [("openClose", .bool true), ("change", .int 1)])]
        ++ workspace)),
      ("serverInfo", .obj [("name", .str CommandLine.programName), ("version", .str CommandLine.programVersion)])]

/-- What becomes of a message at once. -/
inductive Admission where
  /-- It is settled: the session after it, and the answer if it is answered. -/
  | settled (s : Server) (outcome : Option Outcome)
  /-- A notification is to be handled. -/
  | notified (n : Notification)

namespace Server

/-- Does nothing. -/
def pass (s : Server) : Admission := .settled s none

/-- Refuses a message. -/
def refuse (s : Server) (cause : RequestError) : Admission := .settled s (some (.error cause))

/-- The reason for which a message is refused in a phase in which the session is not running. -/
def phaseError : Phase → RequestError
  | .unopened => .notInitialized
  | _ => .invalidRequest

/-- Opens the session. If the parameters have a fault, another attempt may follow. -/
def openSession (s : Server) (isRequest : Bool) (params : Option Json) : Admission :=
  match s.phase with
  | .unopened =>
    if isRequest then
      match Opening.read? params with
      | some o =>
        .settled { s with phase := .running, flags := o.flags, folder := o.folder? }
          (some (.result (openingResult o.flags)))
      | none => s.refuse .invalidParams
    else s.pass
  | _ => s.refuse .invalidRequest

/-- Ends the session. Watching ends with it, if the request has no fault. -/
def shutDown (s : Server) (isRequest : Bool) (params : Option Json) : Admission :=
  match s.phase with
  | .running =>
    let s := { s with phase := .shutDown }
    if isRequest then
      if params.isSome then s.refuse .invalidParams
      else .settled { s with watcher := none } (some (.result .null))
    else s.pass
  | phase => s.refuse (phaseError phase)

/-- Sees to a known method other than those that begin and end a session. -/
def serve (s : Server) (isRequest : Bool) (m : Message) : Admission :=
  match s.phase with
  | .running =>
    match declinedRequests.lookup m.method with
    | some shape =>
      if isRequest then
        s.refuse (if (m.params.bind shape.read).isSome then .methodNotFound else .invalidParams)
      else s.pass
    | none =>
      match isRequest, Notification.read? m.method m.params with
      | false, some n => .notified n
      | _, _ => s.pass
  | phase => s.refuse (phaseError phase)

/-- Whether a method is known, apart from those that begin and end a session. -/
def isServed (method : String) : Bool :=
  (declinedRequests.lookup method).isSome || (notificationShapes.lookup method).isSome ||
    ignoredNotifications.contains method

/-- What becomes of a message before the exit. -/
def accept (s : Server) (m : Message) : Admission :=
  let isRequest := m.id.isSome
  match m.method with
  | "initialize" => s.openSession isRequest m.params
  | "shutdown" => s.shutDown isRequest m.params
  | "exit" => .settled { s with phase := .exited } none
  | method =>
    if isServed method then s.serve isRequest m
    else if method.startsWith "$/" then s.pass
    else s.refuse .methodNotFound

/-- The answer to a message. Only requests are answered. -/
def responseTo (m : Message) (outcome : Option Outcome) : Option Response :=
  m.id.bind fun id => outcome.map (⟨id, ·⟩)

/-- Receives a message and handles it to the end: nothing after the exit, else the session after it and
the answer. -/
def receive? (s : Server) (m : Message) : Option (Dialogue (Server × Option Response)) :=
  if s.phase = .exited then none
  else
    some <|
      match s.accept m with
      | .settled s outcome => .done (s, responseTo m outcome)
      | .notified n => do return (← s.notify n, none)

end Server

end LintServer
