import LintServer.Protocol.Shape

/-!
# What an editor can do

The shape of the capabilities that an editor announces, in the order of their members. Of all of them
only four have a bearing on this server, but a message with a fault anywhere in them is refused.
-/

namespace LintServer.Protocol

open Shape

/-- An optional truth value. -/
def flag (name : String) : String × Bool × Shape := may name .boolean

/-- Whether an editor can be asked for something later. -/
def dynamic : String × Bool × Shape := flag "dynamicRegistration"

/-- A capability that says no more than whether it can be asked for later. -/
def dynamicOnly : Shape := fields [dynamic]

/-- A capability that says whether the editor refreshes what it shows. -/
def refreshOnly : Shape := fields [flag "refreshSupport"]

/-- Values that are announced as a list. -/
def valueSet (item : Shape) : Shape := fields [may "valueSet" (.list item)]

/-- Tags that are announced as a list, or as a mere yes. -/
def tagSupport : Shape := .oneOf [fields [need "valueSet" (.list i32)], .boolean]

/-- Properties that are resolved later. -/
def resolveSupport : Shape := fields [need "properties" (.list .text)]

/-- The formats of longer texts. -/
def markupKind : Shape := .word ["plaintext", "markdown"]

/-- Capabilities of the workspace. -/
def workspaceCapabilities : Shape :=
  fields
    [flag "applyEdit",
      may "workspaceEdit" (fields
        [flag "documentChanges",
          may "resourceOperations" (.list (.word ["create", "rename", "delete"])),
          may "failureHandling" (.list (.word ["abort", "transactional", "textOnlyTransactional", "undo"])),
          flag "normalizesLineEndings",
          may "changeAnnotationSupport" (fields [flag "groupsOnLabel"])]),
      may "didChangeConfiguration" dynamicOnly,
      may "didChangeWatchedFiles" (fields [dynamic, flag "relativePatternSupport"]),
      may "symbol" (fields [dynamic, may "symbolKind" (valueSet i32), may "tagSupport" tagSupport,
        may "resolveSupport" resolveSupport]),
      may "executeCommand" dynamicOnly,
      flag "workspaceFolders",
      flag "configuration",
      may "semanticTokens" refreshOnly,
      may "codeLens" refreshOnly,
      may "fileOperations" (fields [dynamic, flag "didCreate", flag "willCreate", flag "didRename",
        flag "willRename", flag "didDelete", flag "willDelete"]),
      may "inlineValue" refreshOnly,
      may "inlayHint" refreshOnly,
      may "diagnostic" refreshOnly]

/-- Capabilities of completion. -/
def completionCapabilities : Shape :=
  fields
    [dynamic,
      may "completionItem" (fields [flag "snippetSupport", flag "commitCharactersSupport",
        may "documentationFormat" (.list markupKind), flag "deprecatedSupport", flag "preselectSupport",
        may "tagSupport" tagSupport, flag "insertReplaceSupport", may "resolveSupport" resolveSupport,
        may "insertTextModeSupport" (fields [need "valueSet" (.list i32)]), flag "labelDetailsSupport"]),
      may "completionItemKind" (valueSet i32),
      flag "contextSupport",
      may "insertTextMode" i32,
      may "completionList" (fields [may "itemDefaults" (.list .text)])]

/-- Capabilities of going to another place. -/
def gotoCapabilities : Shape := fields [dynamic, flag "linkSupport"]

/-- Capabilities of tokens with a meaning. -/
def semanticTokensCapabilities : Shape :=
  fields
    [dynamic,
      need "requests" (fields [flag "range", may "full" (.oneOf [.boolean, fields [flag "delta"]])]),
      need "tokenTypes" (.list .text),
      need "tokenModifiers" (.list .text),
      need "formats" (.list .text),
      flag "overlappingTokenSupport",
      flag "multilineTokenSupport",
      flag "serverCancelSupport",
      flag "augmentsSyntaxTokens"]

/-- Capabilities of documents. -/
def documentCapabilities : Shape :=
  fields
    [may "synchronization" (fields [dynamic, flag "willSave", flag "willSaveWaitUntil", flag "didSave"]),
      may "completion" completionCapabilities,
      may "hover" (fields [dynamic, may "contentFormat" (.list markupKind)]),
      may "signatureHelp" (fields [dynamic,
        may "signatureInformation" (fields [may "documentationFormat" (.list markupKind),
          may "parameterInformation" (fields [flag "labelOffsetSupport"]), flag "activeParameterSupport"]),
        flag "contextSupport"]),
      may "references" dynamicOnly,
      may "documentHighlight" dynamicOnly,
      may "documentSymbol" (fields [dynamic, may "symbolKind" (valueSet i32),
        flag "hierarchicalDocumentSymbolSupport", may "tagSupport" tagSupport]),
      may "formatting" dynamicOnly,
      may "rangeFormatting" dynamicOnly,
      may "onTypeFormatting" dynamicOnly,
      may "declaration" gotoCapabilities,
      may "definition" gotoCapabilities,
      may "typeDefinition" gotoCapabilities,
      may "implementation" gotoCapabilities,
      may "codeAction" (fields [dynamic,
        may "codeActionLiteralSupport" (fields
          [need "codeActionKind" (fields [need "valueSet" (.list .text)])]),
        flag "isPreferredSupport", flag "disabledSupport", flag "dataSupport",
        may "resolveSupport" resolveSupport, flag "honorsChangeAnnotations"]),
      may "codeLens" dynamicOnly,
      may "documentLink" (fields [dynamic, flag "tooltipSupport"]),
      may "colorProvider" dynamicOnly,
      may "rename" (fields [dynamic, flag "prepareSupport", may "prepareSupportDefaultBehavior" i32,
        flag "honorsChangeAnnotations"]),
      may "publishDiagnostics" (fields [flag "relatedInformation", may "tagSupport" tagSupport,
        flag "versionSupport", flag "codeDescriptionSupport", flag "dataSupport"]),
      may "foldingRange" (fields [dynamic, may "rangeLimit" u32, flag "lineFoldingOnly",
        may "foldingRangeKind" (fields [
          may "valueSet" (.list (.word ["comment", "imports", "region"]))]),
        may "foldingRange" (fields [flag "collapsedText"])]),
      may "selectionRange" dynamicOnly,
      may "linkedEditingRange" dynamicOnly,
      may "callHierarchy" dynamicOnly,
      may "semanticTokens" semanticTokensCapabilities,
      may "moniker" dynamicOnly,
      may "typeHierarchy" dynamicOnly,
      may "inlineValue" dynamicOnly,
      may "inlayHint" (fields [dynamic, may "resolveSupport" resolveSupport]),
      may "diagnostic" (fields [dynamic, flag "relatedDocumentSupport"])]

/-- Capabilities of the window. -/
def windowCapabilities : Shape :=
  fields
    [flag "workDoneProgress",
      may "showMessage" (fields
        [may "messageActionItem" (fields [flag "additionalPropertiesSupport"])]),
      may "showDocument" (fields [need "support" .boolean])]

/-- Capabilities of no place in particular. -/
def generalCapabilities : Shape :=
  fields
    [may "regularExpressions" (fields [need "engine" .text, may "version" .text]),
      may "markdown" (fields [need "parser" .text, may "version" .text, may "allowedTags" (.list .text)]),
      may "staleRequestSupport" (fields
        [need "cancel" .boolean, need "retryOnContentModified" (.list .text)]),
      may "positionEncodings" (.list .text)]

/-- All that an editor announces. -/
def clientCapabilities : Shape :=
  fields
    [may "workspace" workspaceCapabilities,
      may "textDocument" documentCapabilities,
      may "notebookDocument" (fields
        [need "synchronization" (fields [dynamic, flag "executionSummarySupport"])]),
      may "window" windowCapabilities,
      may "general" generalCapabilities,
      may "experimental" .any]

/-- What an editor can do, as far as this server cares. -/
structure ClientFlags where
  /-- The editor answers questions about its configuration. -/
  configuration : Bool := false
  workspaceFolders : Bool := false
  /-- The editor shows related places of diagnostics. -/
  relatedInformation : Bool := false
  /-- The editor watches files if it is asked to. -/
  watchedFiles : Bool := false
deriving Repr, DecidableEq, Inhabited

/-- The truth value at the end of a chain of members. -/
def flagAt (j : Json) : (names : List String) → Bool
  | [] => (j.bool?).getD false
  | name :: rest =>
    match j.get? name with
    | some inner => flagAt inner rest
    | none => false

/-- The flags of capabilities that have their shape. -/
def ClientFlags.ofRead (capabilities : Json) : ClientFlags :=
  { configuration := flagAt capabilities ["workspace", "configuration"]
    workspaceFolders := flagAt capabilities ["workspace", "workspaceFolders"]
    relatedInformation := flagAt capabilities ["textDocument", "publishDiagnostics", "relatedInformation"]
    watchedFiles := flagAt capabilities ["workspace", "didChangeWatchedFiles", "dynamicRegistration"] }

/-- The flags of what an editor announces, unless that has a fault. -/
def ClientFlags.ofCapabilities? (capabilities : Json) : Option ClientFlags :=
  (clientCapabilities.read capabilities).map ClientFlags.ofRead

end LintServer.Protocol
