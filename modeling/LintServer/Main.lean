import LintServer.Disk.Edit
import LintServer.Server.HandlerPool
import LintServer.Server.Wire

/-!
# The program

Reads messages from standard input and writes messages to standard output until the session or the
input ends. This is all that the program does by itself: it lets handlers go on, fetches what they want
to look at on the disk, and carries questions and answers.

Before every message the program looks whether the files that the rules of the open documents depend on
have changed since the message before, and tells the server if it watches them.
-/

namespace LintServer.Main

/-! ## The disk -/

/-- Whether a file or a directory has a name. -/
def isThere (name : String) : IO Bool := do
  try
    discard (IO.FS.Handle.mk name .read)
    return true
  catch _ => return false

/-- The content of the file with a name. -/
def contentOf? (name : String) : IO (Option ByteArray) := do
  try return some (← IO.FS.readBinFile name)
  catch _ => return none

/-- How what is at a path comes onto an empty disk: what cannot be read is taken for a directory. -/
def fetch (p : Path) : IO (Option Edit) := do
  match p.text? with
  | none => return none
  | some name =>
    match ← contentOf? name with
    | some content => return some (.write p content.toList)
    | none => return if ← isThere name then some (.makeFolder p) else none

/-- An empty disk with the current directory of the program. -/
def emptyDisk : IO Disk := do
  let current := Path.ofString (← IO.currentDir).toString
  return if h : current.isAbsolute then { current, current_absolute := h } else default

/-- The part of the disk that some paths show. -/
def fetchAll (paths : List Path) : IO Disk := do
  paths.foldlM (fun d p => do
    match ← fetch p with
    | some e => return ((d.edit e).toOption).getD d
    | none => return d) (← emptyDisk)

/-! ## Messages -/

/-- A program that is running. -/
structure Running where
  input : IO.FS.Stream
  output : IO.FS.Stream
  pool : HandlerPool
  /-- The disk as it was last looked at. -/
  disk : Disk := default
  /-- Messages that wait for room in the pool. -/
  line : List Message := []
  /-- The numbers of the questions that are not answered yet, each with the number of its handler. -/
  questions : List (Int × Nat) := []
  /-- The number of the next question. -/
  nextQuestion : Nat := 0

/-- Writes a message. -/
def Running.send (r : Running) (j : Json) : IO Unit := do
  r.output.putStr (Wire.frame j)
  r.output.flush

/-- Reads lines up to an empty one, and gives the number of bytes that one of them names. At the end of
the input there is none. -/
partial def readHeader (input : IO.FS.Stream) (found : Option Nat) : IO (Option Nat) := do
  let line ← input.getLine
  if line.isEmpty then return none
  else if line.trimAscii.isEmpty then return some (found.getD 0)
  else readHeader input (Wire.contentLength? line <|> found)

/-- Reads a number of bytes, or less at the end of the input. -/
partial def readBytes (input : IO.FS.Stream) (n : Nat) (sofar : ByteArray) : IO ByteArray := do
  if n ≤ sofar.size then return sofar
  let more ← input.read (n - sofar.size).toUSize
  if more.isEmpty then return sofar else readBytes input n (sofar ++ more)

/-- Reads the next thing that the editor sends. -/
partial def Running.next? (r : Running) : IO (Option Wire.Incoming) := do
  match ← readHeader r.input none with
  | none => return none
  | some n =>
    let bytes ← readBytes r.input n .empty
    match (String.fromUTF8? bytes).bind Wire.Incoming.parse? with
    | some i => return some i
    | none =>
      r.send Wire.parseErrorJson
      r.next?

/-- Writes what the handlers have sent. -/
def Running.flush (r : Running) : IO Running := do
  let mut r := r
  for (i, sent) in r.pool.sent do
    match sent with
    | .notice n => r.send (Wire.noticeJson n)
    | .question q =>
      r.send (Wire.questionJson r.nextQuestion q)
      r := { r with questions := (r.nextQuestion, i) :: r.questions, nextQuestion := r.nextQuestion + 1 }
  return { r with pool := { r.pool with sent := [] } }

/-! ## Handlers -/

/-- Lets the handlers go on until all of them wait or have finished. -/
partial def Running.work (r : Running) : IO Running := do
  match r.pool.ready? with
  | none => return r
  | some i =>
    let paths := match (r.pool.handlers[i]?).map (·.action r.pool.server) with
      | some (.look paths _) => paths
      | _ => []
    (← Running.flush { r with pool := r.pool.advance i (← fetchAll paths) .failure }).work

/-- Goes on with a pool. -/
def Running.goOn (r : Running) (pool : HandlerPool) : IO Running := do
  (← Running.flush { r with pool }).work

/-! ## The session -/

/-- Tells the server what has changed on the disk since it last looked. -/
def Running.refresh (r : Running) : IO Running := do
  if r.pool.server.watcher.isNone then return r
  let mut r := r
  let sight := r.pool.server.sight
  let after ← fetchAll sight
  for e in after.changesSince r.disk sight do
    r ← r.goOn (r.pool.edited r.disk after e)
  return r

/-- Remembers what is on the disk now. -/
def Running.remember (r : Running) : IO Running := do
  if r.pool.server.watcher.isNone then return r
  let disk ← fetchAll r.pool.server.sight
  return { r with disk, pool := { r.pool with server := r.pool.server.widenWatch disk } }

/-- Sees to a message. -/
def Running.handle (r : Running) (m : Message) : IO Running := do
  let (pool, response) := r.pool.receive m
  match response with
  | some answer => r.send (Wire.responseJson answer)
  | none => pure ()
  r.goOn pool

/-- Sees to the messages for which there is room. A pool without work is cleared. -/
partial def Running.makeRoom (r : Running) : IO Running := do
  let r := if r.pool.busy = 0 then { r with pool := { r.pool with handlers := [] } } else r
  match r.line with
  | [] => return r
  | m :: line =>
    if r.pool.busy < HandlerPool.maxConcurrent then (← Running.handle { r with line } m).makeRoom
    else return r

/-- Gives the answer to a question to the handler that has asked it. -/
def Running.answer (r : Running) (number : Int) (reply : Reply) : IO Running := do
  match r.questions.lookup number with
  | none => return r
  | some i =>
    let r := { r with questions := r.questions.filter (·.1 != number) }
    (← r.goOn (r.pool.advance i default reply)).makeRoom

/-- Sees to messages until the session or the input ends. -/
partial def Running.loop (r : Running) : IO Unit := do
  if r.pool.server.phase = .exited then return
  match ← r.next? with
  | none => return
  | some (.reply (.int number) reply) => (← r.answer number reply).loop
  | some (.reply _ _) => r.loop
  | some (.message m) =>
    let r ← r.refresh
    (← (← Running.makeRoom { r with line := r.line ++ [m] }).remember).loop

/-- The directory with the settings of the user. -/
def settingsDir : IO (Option Path) := do
  match ← IO.getEnv "XDG_CONFIG_HOME", ← IO.getEnv "HOME" with
  | some dir, home =>
    if dir.startsWith "/" then return some (Path.ofString dir)
    else return home.map fun h => (Path.ofString h).join (Utf8.encode ".config".toList)
  | none, home => return home.map fun h => (Path.ofString h).join (Utf8.encode ".config".toList)

/-- Says why the arguments are not taken, or what they ask for. -/
def report (e : CommandLine.Error) : IO UInt32 := do
  if e.exitCode = 0 then IO.print e.message
  else if e.exitCode = 1 then IO.eprintln ("Error: " ++ e.message)
  else IO.eprintln ("error: " ++ e.message)
  return UInt32.ofNat e.exitCode

/-- Runs the program. -/
def run (args : List String) : IO UInt32 := do
  match Options.ofArgs (← settingsDir) args with
  | .error e => report e
  | .ok o =>
    let settings := Settings.ofOptions (← fetchAll o.baseRuleFiles) o
    Running.loop { input := ← IO.getStdin, output := ← IO.getStdout, pool := { server := Server.new o settings } }
    return 0

end LintServer.Main

/-- The program. -/
def main (args : List String) : IO UInt32 := LintServer.Main.run args
