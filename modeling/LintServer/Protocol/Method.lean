import LintServer.Protocol.Capabilities

/-!
# Methods

The methods that an editor may call, and the shapes of their parameters. A request is answered; a
notification is not. Of the requests this server carries out only those that begin and end a session,
and of the notifications those about documents, configuration, watched files and folders; the others
are known, but a request for one of them is declined.
-/

namespace LintServer.Protocol

open Shape

/-! ## Recurring parts -/

/-- A line and a column. -/
def position : Shape := fields [need "line" u32, need "character" u32]

/-- Two positions. -/
def range : Shape := fields [need "start" position, need "end" position]

/-- A document by its address. -/
def documentId : Shape := fields [need "uri" .uri]

/-- A number or a text. -/
def numberOrText : Shape := .oneOf [i32, .text]

/-- How progress is reported. -/
def progress : List (String × Bool × Shape) := [may "workDoneToken" numberOrText]

/-- How parts of a result are reported. -/
def partialResults : List (String × Bool × Shape) := [may "partialResultToken" numberOrText]

/-- The document of a request. -/
def inDocument : List (String × Bool × Shape) := [need "textDocument" documentId]

/-- The document and the position of a request. -/
def atPosition : List (String × Bool × Shape) := inDocument ++ [need "position" position]

/-- A request about a position. -/
def positionRequest (more : List (String × Bool × Shape)) : Shape := pieces [atPosition, progress, more]

/-- A request about a position with a result in parts. -/
def positionSearch (more : List (String × Bool × Shape)) : Shape :=
  pieces [atPosition, progress, partialResults, more]

/-- A request about a document with a result in parts. -/
def documentSearch (more : List (String × Bool × Shape)) : Shape :=
  pieces [inDocument, progress, partialResults, more]

/-- A folder of the workspace. -/
def workspaceFolder : Shape := fields [need "uri" .uri, need "name" .text]

/-- A symbol with its place. -/
def hierarchyItem (tags : Shape) : Shape :=
  fields [need "name" .text, need "kind" i32, may "tags" tags, may "detail" .text, need "uri" .uri,
    need "range" range, need "selectionRange" range, may "data" .any]

/-- A place in a document. -/
def location : Shape := fields [need "uri" .uri, need "range" range]

/-- A command of the editor. -/
def command : Shape := fields [need "title" .text, need "command" .text, may "arguments" (.list .any)]

/-- A diagnostic, as an editor sends it back. -/
def diagnostic : Shape :=
  fields [need "range" range, may "severity" i32, may "code" numberOrText,
    may "codeDescription" (fields [need "href" .uri]), may "source" .text, need "message" .text,
    may "relatedInformation" (.list (fields [need "location" location, need "message" .text])),
    may "tags" (.list i32), may "data" .any]

/-- How a document is to be formatted. -/
def formatting : Shape :=
  .record false [need "tabSize" u32, need "insertSpaces" .boolean, flag "trimTrailingWhitespace",
    flag "insertFinalNewline", flag "trimFinalNewlines"]

/-- Files that are created or deleted. -/
def namedFiles : Shape := fields [need "files" (.list (fields [need "uri" .text]))]

/-- Files that are renamed. -/
def renamedFiles : Shape := fields [need "files" (.list (fields [need "oldUri" .text, need "newUri" .text]))]

/-! ## Methods -/

/-- The parameters with which a session is opened. -/
def initializeShape : Shape :=
  fields [may "processId" u32, may "rootPath" .text, may "rootUri" .uri, may "initializationOptions" .any,
    need "capabilities" clientCapabilities, may "trace" (.word ["off", "messages", "verbose"]),
    may "workspaceFolders" (.list workspaceFolder),
    may "clientInfo" (fields [need "name" .text, may "version" .text]), may "locale" .text]

/-- The requests that this server declines, and the shapes of their parameters. -/
def declinedRequests : List (String × Shape) :=
  [("textDocument/willSaveWaitUntil", fields (inDocument ++ [need "reason" i32])),
    ("textDocument/declaration", positionSearch []),
    ("textDocument/definition", positionSearch []),
    ("textDocument/typeDefinition", positionSearch []),
    ("textDocument/implementation", positionSearch []),
    ("textDocument/references",
      positionSearch [need "context" (fields [need "includeDeclaration" .boolean])]),
    ("textDocument/prepareCallHierarchy", positionRequest []),
    ("callHierarchy/incomingCalls",
      pieces [[need "item" (hierarchyItem (.list i32))], progress, partialResults]),
    ("callHierarchy/outgoingCalls",
      pieces [[need "item" (hierarchyItem (.list i32))], progress, partialResults]),
    ("textDocument/prepareTypeHierarchy", positionRequest []),
    ("typeHierarchy/supertypes", pieces [[need "item" (hierarchyItem i32)], progress, partialResults]),
    ("typeHierarchy/subtypes", pieces [[need "item" (hierarchyItem i32)], progress, partialResults]),
    ("textDocument/documentHighlight", positionSearch []),
    ("textDocument/documentLink", documentSearch []),
    ("documentLink/resolve",
      fields [need "range" range, may "target" .uri, may "tooltip" .text, may "data" .any]),
    ("textDocument/hover", positionRequest []),
    ("textDocument/codeLens", documentSearch []),
    ("codeLens/resolve", fields [need "range" range, may "command" command, may "data" .any]),
    ("textDocument/foldingRange", documentSearch []),
    ("textDocument/selectionRange", documentSearch [need "positions" (.list position)]),
    ("textDocument/documentSymbol", documentSearch []),
    ("textDocument/semanticTokens/full", documentSearch []),
    ("textDocument/semanticTokens/full/delta", documentSearch [need "previousResultId" .text]),
    ("textDocument/semanticTokens/range", documentSearch [need "range" range]),
    ("textDocument/inlineValue",
      pieces [progress, inDocument, [need "range" range, need "context" (fields
        [need "frameId" i32, need "stoppedLocation" range])]]),
    ("textDocument/inlayHint", pieces [progress, inDocument, [need "range" range]]),
    ("inlayHint/resolve",
      fields [need "position" position,
        need "label" (.oneOf [.text, .list (fields [need "value" .text, may "tooltip" .any,
          may "location" location, may "command" command])]),
        may "kind" i32, may "textEdits" (.list (fields [need "range" range, need "newText" .text])),
        may "tooltip" .any, flag "paddingLeft", flag "paddingRight", may "data" .any]),
    ("textDocument/moniker", positionSearch []),
    ("textDocument/completion",
      positionSearch [may "context" (fields [need "triggerKind" i32, may "triggerCharacter" .text])]),
    ("completionItem/resolve", .record true [need "label" .text]),
    ("textDocument/diagnostic",
      documentSearch [may "identifier" .text, may "previousResultId" .text]),
    ("workspace/diagnostic",
      pieces [[may "identifier" .text,
        need "previousResultIds" (.list (fields [need "uri" .uri, need "value" .text]))],
        progress, partialResults]),
    ("textDocument/signatureHelp",
      positionRequest [may "context" (fields [need "triggerKind" i32, may "triggerCharacter" .text,
        need "isRetrigger" .boolean, may "activeSignatureHelp" .any])]),
    ("textDocument/codeAction",
      documentSearch [need "range" range, need "context" (fields [need "diagnostics" (.list diagnostic),
        may "only" (.list .text), may "triggerKind" i32])]),
    ("codeAction/resolve", .record true [need "title" .text]),
    ("textDocument/documentColor", documentSearch []),
    ("textDocument/colorPresentation",
      documentSearch [need "color" (fields [need "red" .number, need "green" .number, need "blue" .number,
        need "alpha" .number]), need "range" range]),
    ("textDocument/formatting", pieces [inDocument, [need "options" formatting], progress]),
    ("textDocument/rangeFormatting",
      pieces [inDocument, [need "range" range, need "options" formatting], progress]),
    ("textDocument/onTypeFormatting", pieces [atPosition, [need "ch" .text, need "options" formatting]]),
    ("textDocument/rename", positionRequest [need "newName" .text]),
    ("textDocument/prepareRename", fields atPosition),
    ("textDocument/linkedEditingRange", positionRequest []),
    ("workspace/symbol", pieces [partialResults, progress, [need "query" .text]]),
    ("workspaceSymbol/resolve",
      fields [need "name" .text, need "kind" i32, may "tags" (.list i32), may "containerName" .text,
        need "location" (.oneOf [location, documentId]), may "data" .any]),
    ("workspace/willCreateFiles", namedFiles),
    ("workspace/willRenameFiles", renamedFiles),
    ("workspace/willDeleteFiles", namedFiles),
    ("workspace/executeCommand",
      pieces [[need "command" .text, may "arguments" (.list .any)], progress])]

/-- The notifications that this server takes without doing anything. -/
def ignoredNotifications : List String :=
  ["textDocument/willSave", "textDocument/didSave", "workspace/didCreateFiles", "workspace/didRenameFiles",
    "workspace/didDeleteFiles"]

/-- The notifications that this server acts on, and the shapes of their parameters. -/
def notificationShapes : List (String × Shape) :=
  [("initialized", fields []),
    ("textDocument/didOpen", fields [need "textDocument" (fields
      [need "uri" .uri, need "languageId" .text, need "version" i32, need "text" .text])]),
    ("textDocument/didChange", fields
      [need "textDocument" (fields [need "uri" .uri, need "version" i32]),
        need "contentChanges" (.list (fields [may "range" range, may "rangeLength" u32, need "text" .text]))]),
    ("textDocument/didClose", fields inDocument),
    ("workspace/didChangeConfiguration", fields [need "settings" .any]),
    ("workspace/didChangeWatchedFiles", fields
      [need "changes" (.list (fields [need "uri" .uri, need "type" i32]))]),
    ("workspace/didChangeWorkspaceFolders", fields
      [need "event" (fields [need "added" (.list workspaceFolder), need "removed" (.list workspaceFolder)])])]

/-! ## Notifications -/

/-- What an editor notifies the server of. -/
inductive Notification where
  | initialized
  | opened (uri : Uri) (text : String)
  /-- Whole texts that a document had one after the other. -/
  | changed (uri : Uri) (texts : List String)
  | closed (uri : Uri)
  | configurationChanged
  | filesChanged (uris : List Uri)
  | foldersChanged (added removed : List Uri)
deriving Repr, DecidableEq, Inhabited

/-- The address in a member. -/
def uriIn? (j : Json) (name : String) : Option Uri :=
  ((j.get? name).bind Json.str?).bind fun s => (Uri.parse s).toOption

/-- The items in a member. -/
def itemsIn (j : Json) (name : String) : List Json := ((j.get? name).bind Json.arr?).getD []

/-- The notification of parameters that have their shape. -/
def Notification.ofRead? (method : String) (j : Json) : Option Notification :=
  match method with
  | "initialized" => some .initialized
  | "textDocument/didOpen" => do
    let item ← j.get? "textDocument"
    return .opened (← uriIn? item "uri") (← (item.get? "text").bind Json.str?)
  | "textDocument/didChange" => do
    let item ← j.get? "textDocument"
    let texts ← (itemsIn j "contentChanges").mapM fun c => (c.get? "text").bind Json.str?
    return .changed (← uriIn? item "uri") texts
  | "textDocument/didClose" => do
    let item ← j.get? "textDocument"
    return .closed (← uriIn? item "uri")
  | "workspace/didChangeConfiguration" => some .configurationChanged
  | "workspace/didChangeWatchedFiles" => do
    let uris ← (itemsIn j "changes").mapM (uriIn? · "uri")
    return .filesChanged uris
  | "workspace/didChangeWorkspaceFolders" => do
    let event ← j.get? "event"
    let added ← (itemsIn event "added").mapM (uriIn? · "uri")
    let removed ← (itemsIn event "removed").mapM (uriIn? · "uri")
    return .foldersChanged added removed
  | _ => none

/-- The notification of a method with parameters, unless these have a fault. -/
def Notification.read? (method : String) (params : Option Json) : Option Notification := do
  let shape ← notificationShapes.lookup method
  Notification.ofRead? method (← shape.read (← params))

/-! ## Opening a session -/

/-- What a session is opened with. -/
structure Opening where
  flags : ClientFlags := {}
  /-- The folders of the workspace, if they are listed. -/
  folders : Option (List Uri) := none
  /-- The one folder that older editors name. -/
  root : Option Uri := none
deriving Repr, DecidableEq, Inhabited

/-- What a session is opened with, unless the parameters have a fault. -/
def Opening.read? (params : Option Json) : Option Opening := do
  let j ← initializeShape.read (← params)
  return { flags := ClientFlags.ofRead ((j.get? "capabilities").getD .null)
           folders := (j.get? "workspaceFolders").map fun _ =>
             (itemsIn j "workspaceFolders").filterMap (uriIn? · "uri")
           root := uriIn? j "rootUri" }

end LintServer.Protocol
