import LintServer.Server.Session

/-!
# Handling several things at a time

The server does not wait for an answer of the editor before it sees to the next message: a handler
that waits is laid aside. So several handlers are at work on one server. Each takes its steps one after
the other, and between any two of them others may take theirs.

What a handler knows of the server is what it has read in a step; by its next step that may have
changed. In particular it goes on with the text of a document that it has read, and publishes the
diagnostics of this text, whatever became of the document.
-/

namespace LintServer

open LintServer.Protocol

/-! ## Handlers -/

/-- What a handler does next. -/
inductive Handler where
  /-- Checks documents one after the other, if they are open. -/
  | check (uris : List Uri)
  /-- Asks for the folder of a document whose text was read, to check others later. -/
  | ask (uri : Uri) (text : String) (fallback : Option Path) (later : List Uri)
  /-- Waits for the folder. -/
  | hear (uri : Uri) (text : String) (fallback : Option Path) (later : List Uri)
  /-- Looks up the rules for a text. -/
  | load (uri : Uri) (text : String) (folder : Option Path) (later : List Uri)
  | publish (p : Publication) (later : List Uri)
  /-- Takes back what was published for a document. -/
  | clear (uri : Uri)
  /-- Asks for notifications. -/
  | register
  /-- Waits for the editor to agree. -/
  | registered
  /-- Starts watching. -/
  | watch
  /-- Says that the folder cannot be watched. -/
  | warn (e : WatchError)
  /-- Takes note of folders that were added and removed. -/
  | refolder (added removed : List Uri)
  /-- Handles events of the watcher that come together; a configuration may have changed already. -/
  | heed (events : List WatchEvent) (changed : Bool)
  | finished
deriving Repr, Inhabited

/-- What a handler needs for its next step, and what it does after it. -/
inductive Handler.Action where
  | stop
  | tell (n : Notice) (next : Handler)
  | ask (q : Question) (next : Handler)
  /-- Needs an answer. -/
  | await (next : Reply → Handler)
  /-- Looks at some paths of the disk. -/
  | look (paths : List Path) (next : Disk → Server × Handler)
  | update (s : Server) (next : Handler)

namespace Server

/-- Reads the text of a document, if it is open, and goes on with the check of it. Nobody is asked for a
folder if the root is known. -/
def readToCheck (s : Server) (uri : Uri) (later : List Uri) : Handler :=
  match s.text? uri with
  | none => .check later
  | some text =>
    if (s.settings.knownRoot? uri).isSome || !s.flags.configuration then .load uri text s.folder later
    else .ask uri text s.folder later

/-- Checks a text under the rules that the disk has for its document. -/
def loadToPublish (s : Server) (uri : Uri) (text : String) (folder : Option Path) (later : List Uri)
    (d : Disk) : Server × Handler :=
  let (publication, settings) := s.settings.lint d folder uri text s.passOptions
  ({ s with settings }, .publish publication later)

/-- Starts watching a folder. -/
def watchFolder (s : Server) (folder : Path) (d : Disk) : Server × Handler :=
  match Watcher.start d folder with
  | .ok w => ({ s with watcher := some w }, .finished)
  | .error e => (s, .warn e)

end Server

/-- What a handler is about to do. -/
def Handler.action (s : Server) : Handler → Action
  | .check [] => .update s .finished
  | .check (uri :: later) => .update s (s.readToCheck uri later)
  | .ask uri text fallback later => .ask .workspaceFolder (.hear uri text fallback later)
  | .hear uri text fallback later => .await fun r => .load uri text (r.folder? <|> fallback) later
  | .load uri text folder later =>
    .look (s.settings.sight folder uri) (s.loadToPublish uri text folder later)
  | .publish p later => .tell (.publish p) (.check later)
  | .clear uri => .tell (.publish ⟨uri, []⟩) .finished
  | .register => if s.registrations.isEmpty then .update s .watch else .ask (.register s.registrations) .registered
  | .registered => .await fun _ => .watch
  | .watch =>
    if s.flags.watchedFiles then .update s .finished
    else
      match s.folder with
      | none => .update s .finished
      | some folder => .look [folder] (s.watchFolder folder)
  | .warn e => .tell (.log .warning (Server.watchingDisabled e)) .finished
  | .refolder added removed => .update (s.changeFolder added removed) .finished
  | .heed [] changed =>
    .update s (if changed && s.phase != .exited then .check (s.documents.map (·.uri)) else .finished)
  | .heed (.configChanged _ :: rest) _ => .update s (.heed rest true)
  | .heed (.folderAppeared dir :: rest) changed =>
    .look [dir, projectFile dir] fun d =>
      (s.watchAlso d dir, .heed rest (changed || d.isFile (projectFile dir)))
  | .heed (.failed reason :: rest) changed =>
    .tell (.log .error (Server.watchingFailed reason)) (.heed rest changed)
  | .finished => .stop

/-- The next step of a handler, if it has one: the server after it, what is sent, and what the handler
does then. It sees the disk `d` if it looks, and hears `r` if it waits for an answer. -/
def Handler.step (s : Server) (d : Disk) (r : Reply) (h : Handler) :
    Option (Server × Option Dialogue.Sent × Handler) :=
  match h.action s with
  | .stop => none
  | .tell n next => some (s, some (.notice n), next)
  | .ask q next => some (s, some (.question q), next)
  | .await next => some (s, none, next r)
  | .look _ next => some ((next d).1, none, (next d).2)
  | .update s next => some (s, none, next)

/-- Whether a handler can go on by itself. -/
def Handler.isReady (s : Server) (h : Handler) : Bool :=
  match h.action s with
  | .stop | .await _ => false
  | _ => true

/-! ## Beginnings -/

namespace Server

/-- What a handler begins with: the server after it, what is told, and the handler. -/
abbrev Begun := Server × Option Notice × Handler

/-- Begins to check all open documents. -/
def beginCheck (s : Server) : Begun := (s, none, .check (s.documents.map (·.uri)))

/-- Begins to handle a notification. What becomes of the text of a document is settled at once. -/
def beginNotified (s : Server) : Notification → Begun
  | .initialized => (s, some (.log .info "code-check-ls initialized"), .register)
  | .opened uri text => (s.keep uri text, none, .check [uri])
  | .changed uri texts =>
    match texts.getLast? with
    | none => (s, none, .finished)
    | some text => (s.keep uri text, none, .check [uri])
  | .closed uri => (s.forget uri, none, .clear uri)
  | .configurationChanged => s.beginCheck
  | .filesChanged uris => if touchesConfig uris then s.beginCheck else (s, none, .finished)
  | .foldersChanged added removed =>
    (s, some (.log .log "Workspace folder change event received."), .refolder added removed)

/-- Begins to handle a change of the disk. -/
def beginEdited (s : Server) (before after : Disk) (e : Edit) : Begun :=
  match s.watcher with
  | none => (s, none, .finished)
  | some w =>
    let (events, w) := w.observe before after e
    ({ s with watcher := some w }, none, .heed events false)

end Server

/-! ## Pools of handlers -/

/-- A server with handlers at work. -/
structure HandlerPool where
  server : Server
  /-- All handlers that have begun; each has its place here as its number. -/
  handlers : List Handler := []
  /-- What was sent, each with the number of the handler that sent it. -/
  sent : List (Nat × Dialogue.Sent) := []

namespace HandlerPool

/-- Adds a handler that has begun. -/
def spawn (k : HandlerPool) : Server.Begun → HandlerPool
  | (server, notice, h) =>
    ⟨server, k.handlers ++ [h], k.sent ++ notice.toList.map fun n => (k.handlers.length, .notice n)⟩

/-- Receives a message: the pool after it, and the answer. Nothing is received after the exit. -/
def receive (k : HandlerPool) (m : Message) : HandlerPool × Option Response :=
  if k.server.phase = .exited then (k, none)
  else
    match k.server.accept m with
    | .settled server outcome => ({ k with server }, Server.responseTo m outcome)
    | .notified n => (k.spawn (k.server.beginNotified n), none)

/-- Takes note of a change of the disk. -/
def edited (k : HandlerPool) (before after : Disk) (e : Edit) : HandlerPool :=
  k.spawn (k.server.beginEdited before after e)

/-- The handler with a number takes its next step. -/
def advance (k : HandlerPool) (i : Nat) (d : Disk) (r : Reply) : HandlerPool :=
  match k.handlers[i]?.bind (Handler.step k.server d r) with
  | none => k
  | some (server, sent, next) => ⟨server, k.handlers.set i next, k.sent ++ sent.toList.map (i, ·)⟩

/-- The number of the first handler that can go on by itself. -/
def ready? (k : HandlerPool) : Option Nat := k.handlers.findIdx? (·.isReady k.server)

/-- How many handlers have something left to do. -/
def busy (k : HandlerPool) : Nat :=
  k.handlers.countP fun h =>
    match h with
    | .finished => false
    | _ => true

/-- How many handlers are at work at a time. -/
def maxConcurrent : Nat := 4

end HandlerPool

end LintServer
