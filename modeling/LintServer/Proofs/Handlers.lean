import LintServer.Proofs.Traces
import LintServer.Server.HandlerPool

/-!
# Handlers left alone

In a pool the steps of a handler come between those of others.  A handler that is left alone from its
beginning to its end says and does what the server's dialogue says: `Server.receive?` for a message, and
`Server.diskChanged` for a change of the disk.

* `HandlerPool.Move`, `HandlerPool.run` — messages, changes of the disk and steps of the handlers, in any order;
* `Handler.Performs` — the dialogue that the steps of a handler amount to;
* `Handler.performs_check` — to check documents one after the other is `Server.publishAll`;
* `Handler.performs_heed` — to handle events is `Server.takeEvents`, and the check that may follow;
* `Handler.Performs.ends` — whatever the environment, the handler's own steps lead to the end of its dialogue;
* `HandlerPool.received_alone`, `HandlerPool.edited_alone` — a message, and a change of the disk, handled alone.
-/

namespace LintServer

open LintServer.Protocol

/-! ## runs of a pool -/

namespace HandlerPool

/-- What happens in a pool. -/
inductive Move where
  | received (m : Message)
  | edited (before after : Disk) (e : Edit)
  | widened (d : Disk)
  /-- The handler with a number takes a step. -/
  | advanced (i : Nat) (d : Disk) (r : Reply)

/-- The pool after a move. -/
def step (k : HandlerPool) : Move → HandlerPool
  | .received m => (k.receive m).1
  | .edited before after e => k.edited before after e
  | .widened d => { k with server := k.server.widenWatch d }
  | .advanced i d r => k.advance i d r

/-- The pool after some moves. -/
def run (k : HandlerPool) (moves : List Move) : HandlerPool := moves.foldl step k

/-- Steps of one handler alone lead to its end: this is what it says meanwhile, and the server then. -/
def Ends (k : HandlerPool) (i : Nat) (said : List Dialogue.Sent) (s : Server) : Prop :=
  ∃ steps : List (Disk × Reply), k.run (steps.map fun (d, r) => .advanced i d r) =
    ⟨s, k.handlers.set i .finished, k.sent ++ said.map (i, ·)⟩

/-- A handler that has finished is at its end. -/
theorem ends_finished {k : HandlerPool} {i : Nat} (hget : k.handlers[i]? = some .finished) :
    k.Ends i [] k.server := by
  obtain ⟨hi, heq⟩ := List.getElem?_eq_some_iff.mp hget
  refine ⟨[], ?_⟩
  rw [← heq, List.set_getElem_self]
  simp [run]

/-- A step before the others. -/
theorem Ends.cons {k : HandlerPool} {i : Nat} {h h' : Handler} {s s' : Server} {sent : Option Dialogue.Sent}
    {said : List Dialogue.Sent} (hget : k.handlers[i]? = some h) (d : Disk) (r : Reply)
    (hstep : h.step k.server d r = some (s', sent, h'))
    (hrest : ∀ k' : HandlerPool, k'.server = s' → k'.handlers[i]? = some h' → k'.Ends i said s) :
    k.Ends i (sent.toList ++ said) s := by
  have hadvance : k.advance i d r = ⟨s', k.handlers.set i h', k.sent ++ sent.toList.map (i, ·)⟩ := by
    simp only [advance, hget, Option.bind_some, hstep]
  have hi : i < k.handlers.length := (List.getElem?_eq_some_iff.mp hget).1
  obtain ⟨steps, hsteps⟩ := hrest (k.advance i d r) (by rw [hadvance]) (by simp [hadvance, hi])
  refine ⟨(d, r) :: steps, ?_⟩
  calc k.run (((d, r) :: steps).map fun (d, r) => .advanced i d r)
      = (k.advance i d r).run (steps.map fun (d, r) => .advanced i d r) := rfl
    _ = ⟨s, k.handlers.set i .finished, k.sent ++ (sent.toList ++ said).map (i, ·)⟩ := by
        rw [hsteps, hadvance]
        simp

end HandlerPool

/-! ## what a handler says -/

namespace Handler

/-- The steps of a handler amount to a dialogue.  To ask and to wait for the answer is one thing in a dialogue, and
to update the server is not part of what is said. -/
inductive Performs : Server → Handler → Dialogue Server → Prop
  | finished (s : Server) : Performs s .finished (.done s)
  | tell {s : Server} {h next : Handler} {n : Notice} {dialogue : Dialogue Server}
      (haction : h.action s = .tell n next) (hnext : Performs s next dialogue) : Performs s h (.tell n dialogue)
  | ask {s : Server} {h waiting : Handler} {q : Question} {next : Reply → Handler}
      {dialogue : Reply → Dialogue Server} (haction : h.action s = .ask q waiting)
      (hwaiting : waiting.action s = .await next) (hnext : ∀ r, Performs s (next r) (dialogue r)) :
      Performs s h (.ask q dialogue)
  | look {s : Server} {h : Handler} {paths : List Path} {next : Disk → Server × Handler}
      {dialogue : Disk → Dialogue Server} (haction : h.action s = .look paths next)
      (hnext : ∀ d, Performs (next d).1 (next d).2 (dialogue d)) : Performs s h (.look paths dialogue)
  | update {s s' : Server} {h next : Handler} {dialogue : Dialogue Server}
      (haction : h.action s = .update s' next) (hnext : Performs s' next dialogue) : Performs s h dialogue

/-- To load the rules for a text and to publish is `Server.publishText`. -/
theorem performs_load {s : Server} {later : List Uri}
    (hlater : ∀ s : Server, (check later).Performs s (s.publishAll later)) (uri : Uri) (text : String)
    (folder : Option Path) :
    (load uri text folder later).Performs s
      (.look (s.settings.sight folder uri) fun d => do
        (← s.publishText folder uri text d).publishAll later) :=
  .look rfl fun _ => .tell rfl (hlater _)

/-- **To check documents one after the other** is `Server.publishAll`. -/
theorem performs_check (s : Server) (uris : List Uri) : (check uris).Performs s (s.publishAll uris) := by
  induction uris generalizing s with
  | nil => exact .update rfl (.finished s)
  | cons uri later ih =>
      refine .update rfl ?_
      unfold Server.readToCheck Server.publishAll Server.publish
      cases s.text? uri with
      | none => exact ih s
      | some text =>
          unfold Server.folderFor
          dsimp only
          split
          · exact performs_load ih uri text s.folder
          · exact .ask rfl rfl fun r => performs_load ih uri text (r.folder? <|> s.folder)

/-- To start watching is `Server.startWatching`. -/
theorem performs_watch (s : Server) : watch.Performs s s.startWatching := by
  unfold Server.startWatching
  by_cases hflag : s.flags.watchedFiles = true
  · rw [if_pos hflag]
    exact .update (by simp only [action, if_pos hflag]) (.finished s)
  · rw [if_neg hflag]
    cases hfolder : s.folder with
    | none => exact .update (by simp only [action, if_neg hflag, hfolder]) (.finished s)
    | some folder =>
        have haction : watch.action s = .look [folder] (s.watchFolder folder) := by
          simp only [action, if_neg hflag, hfolder]
        refine .look haction fun d => ?_
        unfold Server.watchFolder
        cases Watcher.start d folder with
        | ok watcher =>
            rw [← hfolder]
            exact .finished _
        | error e => exact .tell rfl (.finished s)

/-- To ask for notifications, and to start watching then. -/
theorem performs_register (s : Server) :
    register.Performs s (do s.register; s.startWatching) := by
  unfold Server.register
  by_cases hempty : s.registrations.isEmpty = true
  · rw [if_pos hempty]
    exact .update (by simp only [action, if_pos hempty]) (performs_watch s)
  · have haction : register.action s = .ask (.register s.registrations) .registered := by
      simp only [action, if_neg hempty]
    rw [if_neg hempty]
    exact .ask haction rfl fun _ => performs_watch s

/-- **To handle events of the watcher**, and then to check all documents, if a configuration may have changed. -/
theorem performs_heed (s : Server) (events : List WatchEvent) (changed : Bool) :
    (heed events changed).Performs s (do
      let (changed, s) ← s.takeEvents changed events
      s.revalidateIf changed) := by
  induction events generalizing s changed with
  | nil =>
      refine .update rfl ?_
      change Performs s _ (s.revalidateIf changed)
      unfold Server.revalidateIf
      split
      · exact performs_check s _
      · exact .finished s
  | cons e rest ih =>
      cases e with
      | configChanged path => exact .update rfl (ih s true)
      | folderAppeared dir => exact .look rfl fun d => ih (s.watchAlso d dir) _
      | failed reason => exact .tell rfl (ih s changed)

/-- **A handler alone carries its dialogue to its end**, whatever the environment. -/
theorem Performs.ends {s : Server} {h : Handler} {dialogue : Dialogue Server} (hperforms : Performs s h dialogue)
    (w : Environment) (time : Nat) {k : HandlerPool} {i : Nat} (hs : k.server = s)
    (hget : k.handlers[i]? = some h) :
    k.Ends i ((dialogue.trace w time).interactions.filterMap Interaction.sent?) (dialogue.trace w time).value := by
  induction hperforms generalizing k time with
  | finished s =>
      subst hs
      exact HandlerPool.ends_finished hget
  | tell haction hnext ih =>
      refine HandlerPool.Ends.cons hget {} .failure (by rw [step, hs, haction]) fun k' hs' hget' => ?_
      exact ih (time + 1) hs' hget'
  | @ask s h waiting q next dialogue haction hwaiting hnext ih =>
      refine HandlerPool.Ends.cons hget {} .failure (by rw [step, hs, haction]) fun k' hs' hget' => ?_
      refine HandlerPool.Ends.cons hget' {} (w.reply time q) (by rw [step, hs', hwaiting]) fun k'' hs'' hget'' => ?_
      exact ih (w.reply time q) (time + 1) hs'' hget''
  | look haction hnext ih =>
      refine HandlerPool.Ends.cons hget (w.disk time) .failure (by rw [step, hs, haction]) fun k' hs' hget' => ?_
      exact ih (w.disk time) (time + 1) hs' hget'
  | update haction hnext ih =>
      refine HandlerPool.Ends.cons hget {} .failure (by rw [step, hs, haction]) fun k' hs' hget' => ?_
      exact ih time hs' hget'

end Handler

/-! ## from the beginning to the end -/

namespace Server

/-- What is said at the beginning of a handler, and then the dialogue of its steps. -/
inductive Begun.Performs : Begun → Dialogue Server → Prop
  | silent {s : Server} {h : Handler} {dialogue : Dialogue Server} (hperforms : h.Performs s dialogue) :
      Begun.Performs (s, none, h) dialogue
  | tell {s : Server} {h : Handler} {dialogue : Dialogue Server} (n : Notice) (hperforms : h.Performs s dialogue) :
      Begun.Performs (s, some n, h) (.tell n dialogue)

/-- A check of all open documents. -/
theorem performs_beginCheck (s : Server) : Begun.Performs s.beginCheck s.revalidate :=
  .silent (Handler.performs_check s _)

/-- To open or change a document: the check of one is a check of all in a list of one. -/
theorem performs_keep (s : Server) (uri : Uri) (text : String) :
    Begun.Performs (s.keep uri text, none, .check [uri]) ((s.keep uri text).publish uri) := by
  have hcheck := Handler.performs_check (s.keep uri text) [uri]
  simp only [publishAll, Dialogue.bind_done] at hcheck
  exact .silent hcheck

/-- **Notifications.** -/
theorem performs_beginNotified (s : Server) (n : Notification) :
    Begun.Performs (s.beginNotified n) (s.notify n) := by
  cases n with
  | initialized => exact .tell _ (Handler.performs_register s)
  | opened uri text => exact performs_keep s uri text
  | changed uri texts =>
      simp only [beginNotified, notify]
      cases texts.getLast? with
      | none => exact .silent (.finished s)
      | some text => exact performs_keep s uri text
  | closed uri => exact .silent (.tell rfl (.finished _))
  | configurationChanged => exact performs_beginCheck s
  | filesChanged uris =>
      by_cases htouches : touchesConfig uris = true
      · simp only [beginNotified, notify, if_pos htouches]
        exact performs_beginCheck s
      · simp only [beginNotified, notify, if_neg htouches]
        exact .silent (.finished s)
  | foldersChanged added removed => exact .tell _ (.update rfl (.finished _))

/-- **Changes of the disk.** -/
theorem performs_beginEdited (s : Server) (before after : Disk) (e : Edit) :
    Begun.Performs (s.beginEdited before after e) (s.diskChanged before after e) := by
  unfold beginEdited diskChanged
  cases s.watcher with
  | none => exact .silent (.finished s)
  | some w => exact .silent (Handler.performs_heed _ _ false)

end Server

namespace HandlerPool

/-- What begins and is left alone is a dialogue, with all that is said under the number of the handler. -/
theorem ends_spawn {b : Server.Begun} {dialogue : Dialogue Server} (hb : Server.Begun.Performs b dialogue)
    (k : HandlerPool) (w : Environment) (time : Nat) :
    ∃ steps : List (Disk × Reply),
      (k.spawn b).run (steps.map fun (d, r) => .advanced k.handlers.length d r) =
        ⟨(dialogue.trace w time).value, k.handlers ++ [.finished],
          k.sent ++ ((dialogue.trace w time).interactions.filterMap Interaction.sent?).map (k.handlers.length, ·)⟩ := by
  cases hb with
  | @silent s h _ hperforms =>
      have hget : (k.spawn (s, none, h)).handlers[k.handlers.length]? = some h := by simp [spawn]
      obtain ⟨steps, hsteps⟩ := hperforms.ends w time rfl hget
      exact ⟨steps, by rw [hsteps]; simp [spawn]⟩
  | @tell s h dialogue n hperforms =>
      have hget : (k.spawn (s, some n, h)).handlers[k.handlers.length]? = some h := by simp [spawn]
      obtain ⟨steps, hsteps⟩ := hperforms.ends w (time + 1) rfl hget
      exact ⟨steps, by rw [hsteps]; simp [spawn, Dialogue.trace, Interaction.sent?]⟩

/-- A handler that has finished is not busy. -/
theorem busy_finished (k : HandlerPool) (s : Server) (sent : List (Nat × Dialogue.Sent)) :
    busy ⟨s, k.handlers ++ [.finished], sent⟩ = k.busy := by
  simp [busy, List.countP_append]

/-- **A message that is handled alone** is handled as `Server.receive?` says: the same is sent under the
number of the handler, the same is answered, and the server is the same in the end. -/
theorem received_alone (k : HandlerPool) {m : Message} {dialogue : Dialogue (Server × Option Response)}
    (hperforms : k.server.receive? m = some dialogue) (w : Environment) (time : Nat) :
    ∃ steps : List (Disk × Reply),
      let k' := (k.receive m).1.run (steps.map fun (d, r) => .advanced k.handlers.length d r)
      let p := dialogue.trace w time
      (k'.server, (k.receive m).2) = p.value ∧ k'.busy = k.busy ∧
        k'.sent = k.sent ++ (p.interactions.filterMap Interaction.sent?).map (k.handlers.length, ·) := by
  unfold Server.receive? at hperforms
  split at hperforms
  · cases hperforms
  · next hphase =>
      unfold receive
      rw [if_neg hphase]
      cases hm : k.server.accept m with
      | settled s outcome =>
          rw [hm] at hperforms
          cases hperforms
          exact ⟨[], rfl, rfl, by simp [run, Dialogue.trace]⟩
      | notified n =>
          rw [hm] at hperforms
          cases hperforms
          obtain ⟨steps, hsteps⟩ := ends_spawn (k.server.performs_beginNotified n) k w time
          refine ⟨steps, ?_⟩
          simp only [hsteps, busy_finished, Dialogue.trace_bind]
          refine ⟨rfl, trivial, ?_⟩
          simp [Trace.followedBy, pure, Dialogue.trace]

/-- **A change of the disk that is handled alone** is handled as `Server.diskChanged` says. -/
theorem edited_alone (k : HandlerPool) (before after : Disk) (e : Edit) (w : Environment) (time : Nat) :
    ∃ steps : List (Disk × Reply),
      (k.edited before after e).run (steps.map fun (d, r) => .advanced k.handlers.length d r) =
        ⟨((k.server.diskChanged before after e).trace w time).value, k.handlers ++ [.finished],
          k.sent ++ (((k.server.diskChanged before after e).trace w time).interactions.filterMap
            Interaction.sent?).map (k.handlers.length, ·)⟩ :=
  ends_spawn (k.server.performs_beginEdited before after e) k w time

end HandlerPool

end LintServer
