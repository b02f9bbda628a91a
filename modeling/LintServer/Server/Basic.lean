import LintServer.Server.Dialogue
import LintServer.Server.Folder
import LintServer.Watch

/-!
# The server

The server knows the texts of the open documents. It checks a document when it is opened or changed,
and all open documents when a configuration may have changed. What it publishes for a document
replaces all that it published for it before; for a document that is closed it publishes nothing but
an empty list, once.
-/

namespace LintServer

open LintServer.Protocol

/-- A document that the editor has open. -/
structure Document where
  uri : Uri
  text : String
deriving Repr, DecidableEq, Inhabited

/-- How far a session is. -/
inductive Phase where
  | unopened | running | shutDown | exited
deriving Repr, DecidableEq, Inhabited

/-- A session with an editor. -/
structure Server where
  phase : Phase := .unopened
  settings : Settings := {}
  /-- How many findings are reported for a document. -/
  limit : Nat := defaultLimit
  documents : List Document := []
  flags : ClientFlags := {}
  /-- The folder that is taken if the editor names none. -/
  folder : Option Path := none
  watcher : Option Watcher := none
deriving Repr, Inhabited

namespace Server

/-- A session that is not opened yet. -/
def new (o : Options) (settings : Settings) : Server := { limit := o.maxProblems, settings }

/-! ## Documents -/

/-- The text of an open document. -/
def text? (s : Server) (uri : Uri) : Option String :=
  (s.documents.find? (·.uri.text == uri.text)).map (·.text)

/-- Keeps the text of a document, which is open from now on. -/
def keep (s : Server) (uri : Uri) (text : String) : Server :=
  if s.documents.any (·.uri.text == uri.text) then
    { s with documents := s.documents.map fun d => if d.uri.text == uri.text then ⟨uri, text⟩ else d }
  else { s with documents := s.documents ++ [⟨uri, text⟩] }

/-- Forgets a document. -/
def forget (s : Server) (uri : Uri) : Server :=
  { s with documents := s.documents.filter (·.uri.text != uri.text) }

/-! ## Checking documents -/

/-- What is asked of a pass over a document. -/
def passOptions (s : Server) : PassOptions := ⟨s.limit, s.flags.relatedInformation⟩

/-- The folder in which the root of a document is looked for. Nobody is asked if the root is known. -/
def folderFor (s : Server) (uri : Uri) : Dialogue (Option Path) :=
  if (s.settings.knownRoot? uri).isSome || !s.flags.configuration then .done s.folder
  else .ask .workspaceFolder fun reply => .done (reply.folder? <|> s.folder)

/-- Publishes the diagnostics of a text under the rules that the disk has for its document. -/
def publishText (s : Server) (folder : Option Path) (uri : Uri) (text : String) (d : Disk) : Dialogue Server :=
  let (publication, settings) := s.settings.lint d folder uri text s.passOptions
  .tell (.publish publication) (.done { s with settings })

/-- Checks a document, if it is open, and publishes its diagnostics. -/
def publish (s : Server) (uri : Uri) : Dialogue Server :=
  match s.text? uri with
  | none => .done s
  | some text => do
    let folder ← s.folderFor uri
    .look (s.settings.sight folder uri) (s.publishText folder uri text)

/-- Checks some documents one after the other. -/
def publishAll (s : Server) : (uris : List Uri) → Dialogue Server
  | [] => .done s
  | uri :: rest => do (← s.publish uri).publishAll rest

/-- Checks all open documents. -/
def revalidate (s : Server) : Dialogue Server := s.publishAll (s.documents.map (·.uri))

/-! ## Watching -/

/-- What the editor is asked to notify the server of. -/
def registrations (s : Server) : List Registration :=
  (if s.flags.configuration then [.configuration] else []) ++
    (if s.flags.watchedFiles then [.configFiles] else [])

/-- Asks the editor for notifications. -/
def register (s : Server) : Dialogue Unit :=
  if s.registrations.isEmpty then .done () else .ask (.register s.registrations) fun _ => .done ()

/-- What is said if the folder cannot be watched. -/
def watchingDisabled (e : WatchError) : String :=
  "Config file watching disabled: " ++ e.message ++ ": No path was found. about [" ++ quoted e.path.text ++ "]"

/-- Starts watching for configuration files, unless the editor does or there is no folder. -/
def startWatching (s : Server) : Dialogue Server :=
  if s.flags.watchedFiles then .done s
  else
    match s.folder with
    | none => .done s
    | some folder =>
      .look [folder] fun d =>
        match Watcher.start d folder with
        | .ok w => .done { s with watcher := some w }
        | .error e => .tell (.log .warning (watchingDisabled e)) (.done s)

/-- Watches a directory that is seen on a disk and all below it, as long as there is a watcher. -/
def watchAlso (s : Server) (d : Disk) (dir : Path) : Server :=
  { s with watcher := s.watcher.map (·.extend d dir) }

/-- What is said if watching has failed. -/
def watchingFailed (reason : String) : String := "Config file watcher error: " ++ reason

/-- Handles events that come together: whether a configuration may have changed, if that is so already or
not, and the server, which watches the directories that appeared. -/
def takeEvents (s : Server) (changed : Bool) : List WatchEvent → Dialogue (Bool × Server)
  | [] => .done (changed, s)
  | .configChanged _ :: rest => s.takeEvents true rest
  | .folderAppeared dir :: rest =>
    .look [dir, projectFile dir] fun d =>
      (s.watchAlso d dir).takeEvents (changed || d.isFile (projectFile dir)) rest
  | .failed reason :: rest => .tell (.log .error (watchingFailed reason)) (s.takeEvents changed rest)

/-- Checks all open documents if a configuration may have changed, unless the session is over. -/
def revalidateIf (s : Server) (changed : Bool) : Dialogue Server :=
  if changed && s.phase != .exited then s.revalidate else .done s

/-- Handles events that come together, with one check of all open documents at the end. The events are
handled even if there is no watcher any more. -/
def takeBurst (s : Server) (events : List WatchEvent) : Dialogue Server := do
  let (changed, s) ← s.takeEvents false events
  s.revalidateIf changed

/-- The paths that the rules of the open documents depend on. -/
def sight (s : Server) : List Path :=
  (s.documents.flatMap fun d => s.settings.sight s.folder d.uri).eraseDups

/-- Watches the directories below the watched folder that are seen on a disk. -/
def widenWatch (s : Server) (d : Disk) : Server :=
  { s with watcher := s.watcher.map fun w => w.extend d w.root }

/-- Handles a change of the disk, with the events in which the watcher sees it. -/
def diskChanged (s : Server) (before after : Disk) (e : Edit) : Dialogue Server :=
  match s.watcher with
  | none => .done s
  | some w =>
    let (events, w) := w.observe before after e
    { s with watcher := some w }.takeBurst events

/-! ## Notifications -/

/-- The server after folders were added and removed. -/
def changeFolder (s : Server) (added removed : List Uri) : Server :=
  let next := nextFolder s.folder added removed
  if sameFolder next s.folder then s else { s with folder := next }

/-- Handles a notification. -/
def notify (s : Server) : Notification → Dialogue Server
  | .initialized => do
    Dialogue.say (.log .info "code-check-ls initialized")
    s.register
    s.startWatching
  | .opened uri text => (s.keep uri text).publish uri
  | .changed uri texts =>
    match texts.getLast? with
    | none => .done s
    | some text => (s.keep uri text).publish uri
  | .closed uri => .tell (.publish ⟨uri, []⟩) (.done (s.forget uri))
  | .configurationChanged => s.revalidate
  | .filesChanged uris => if touchesConfig uris then s.revalidate else .done s
  | .foldersChanged added removed => do
    Dialogue.say (.log .log "Workspace folder change event received.")
    return s.changeFolder added removed

end Server

end LintServer
