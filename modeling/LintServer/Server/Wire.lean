import LintServer.Json.Text
import LintServer.Server.Session

/-!
# Messages on the wire

Every message is a JSON object behind a header that says how many bytes it has. A message with a method
is a request or a notification; one without is an answer to a question.
-/

namespace LintServer.Wire

/-- What an editor sends. -/
inductive Incoming where
  | message (m : Message)
  /-- An answer to the question with a number. -/
  | reply (id : Json) (r : Reply)
deriving Repr, Inhabited

/-- What a JSON value says. -/
def Incoming.ofJson? (j : Json) : Option Incoming :=
  match (j.get? "method").bind Json.str?, j.get? "id" with
  | some method, id => some (.message ⟨id, method, j.get? "params"⟩)
  | none, some id =>
    match j.get? "result", j.get? "error" with
    | _, some _ => some (.reply id .failure)
    | some value, none => some (.reply id (.result value))
    | none, none => none
  | none, none => none

/-- What a text says. -/
def Incoming.parse? (s : String) : Option Incoming := (Json.parse? s).bind ofJson?

/-- The member that all messages have. -/
def version : String × Json := ("jsonrpc", .str "2.0")

/-- A notice as a message. -/
def noticeJson (n : Notice) : Json :=
  let (method, params) := n.message
  .obj [version, ("method", .str method), ("params", params)]

/-- A question with a number as a message. -/
def questionJson (number : Nat) (q : Question) : Json :=
  let (method, params) := q.message
  .obj [version, ("method", .str method), ("params", params), ("id", .int number)]

/-- What is said about a request that is not carried out. -/
def errorText : RequestError → String
  | .notInitialized => "Server not initialized"
  | .invalidRequest => "Invalid request"
  | .methodNotFound => "Method not found"
  | .invalidParams => "Invalid params"

/-- An answer as a message. -/
def responseJson (r : Response) : Json :=
  match r.outcome with
  | .result value => .obj [version, ("result", value), ("id", r.id)]
  | .error e =>
    .obj [version, ("error", .obj [("code", .int e.code), ("message", .str (errorText e))]), ("id", r.id)]

/-- What is answered to a text that is no message. -/
def parseErrorJson : Json :=
  .obj [version, ("error", .obj [("code", .int (-32700)), ("message", .str "Parse error")]), ("id", .null)]

/-- A message with its header. -/
def frame (j : Json) : String :=
  let body := j.text
  "Content-Length: " ++ toString body.utf8ByteSize ++ "\r\n\r\n" ++ body

/-- The number of bytes that a line of a header gives. -/
def contentLength? (line : String) : Option Nat :=
  let name := line.toList.takeWhile (· != ':')
  let value := ((line.toList.dropWhile (· != ':')).drop 1).filter fun c => !Json.isBlank c
  if String.ofList (name.map Char.toLower) = "content-length" then
    (Json.readDigits? value).bind fun (ds, rest) => if rest.isEmpty then some (Json.natOfDigits ds) else none
  else none

end LintServer.Wire
