import LintServer.Proofs.Documents

/-!
# The life of documents

A session goes through notifications of the editor and changes of the disk, one after the other, and
each is handled to its end before the next.  While one is handled, the disk may change and the editor
may answer as it likes (`Environment`).

What a step can do is said once (`Server.reaction`): it is quiet, or it keeps a document and passes
over it, or it closes a document, or it passes over all open documents.  From this follow what one
step keeps (`Session.Faithful.step`) and what a session keeps (`Session.faithful_run`).  The main
statement is `Session.documents_and_publications`.
-/

namespace LintServer

open LintServer.Protocol

/-! ## sessions -/

/-- What a session goes through. -/
inductive Step where
  | notified (n : Notification)
  /-- Files change, in a way that a watcher may see. -/
  | edited (before after : Disk) (e : Edit)

/-- What the server does about a step. -/
def Server.react (s : Server) : Step → Dialogue Server
  | .notified n => s.notify n
  | .edited before after e => s.diskChanged before after e

/-- A session up to some moment: the time, the server, and all that happened. -/
structure Session where
  time : Nat
  server : Server
  log : List Interaction

namespace Session

/-- A session in which no document is open yet. -/
def start (server : Server) : Session := ⟨0, { server with documents := [] }, []⟩

/-- What happens in a step. -/
def happens (w : Environment) (x : Session) (e : Step) : List Interaction :=
  ((x.server.react e).trace w x.time).interactions

/-- The session after a step. -/
def step (w : Environment) (x : Session) (e : Step) : Session :=
  let p := (x.server.react e).trace w x.time
  ⟨p.time, p.value, x.log ++ p.interactions⟩

/-- The session after some steps. -/
def run (w : Environment) (x : Session) (steps : List Step) : Session := steps.foldl (step w) x

end Session

/-! ## what the editor says -/

/-- What a step says about a document: that it has a text (`some (some text)`), that it is closed
(`some none`), or nothing.  Of several changes in one notification the last counts. -/
def Step.word? (uri : Uri) : Step → Option (Option String)
  | .notified (.opened u text) => if uri.text = u.text then some (some text) else none
  | .notified (.changed u texts) => if uri.text = u.text then texts.getLast?.map some else none
  | .notified (.closed u) => if uri.text = u.text then some none else none
  | _ => none

/-- The last that is said about a document. -/
def lastWord? (uri : Uri) (steps : List Step) : Option (Option String) :=
  (steps.filterMap (Step.word? uri)).getLast?

/-- Whether a step tells that a configuration may have changed. -/
def Step.IsReload : Step → Prop
  | .notified .configurationChanged => True
  | .notified (.filesChanged uris) => ∃ u ∈ uris, u.lastSegment? = some configFileName
  | _ => False

/-- The latest that was published for a document. -/
def latest? (uri : Uri) (log : List Interaction) : Option Publication :=
  ((published log).filter (·.uri.text == uri.text)).getLast?

/-! ## what a step can do -/

namespace Server

/-- What may come of a step. -/
inductive Reaction (s : Server) (e : Step) (p : Trace Server) : Prop where
  | quiet (word : ∀ uri, e.word? uri = none) (silent : published p.interactions = []) (alike : s.Alike p.value)
  | keeps (uri : Uri) (text : String)
      (word : ∀ other, e.word? other = if other.text = uri.text then some (some text) else none)
      (passed : (s.keep uri text).Passed ⟨uri, text⟩ p.interactions p.value)
  | closes (uri : Uri)
      (word : ∀ other, e.word? other = if other.text = uri.text then some none else none)
      (clears : p.interactions = [.told (.publish ⟨uri, []⟩)]) (forgets : p.value = s.forget uri)
  | reloads (word : ∀ uri, e.word? uri = none)
      (revalidated : s.Revalidated s.documents p.interactions p.value)

/-- A quiet dialogue is a quiet reaction. -/
theorem reaction_of_quietly {s : Server} {e : Step} (word : ∀ uri, e.word? uri = none) {dialogue : Dialogue Server}
    (h : dialogue.Quietly s.Alike) (w : Environment) (time : Nat) : s.Reaction e (dialogue.trace w time) :=
  .quiet word (h w time).1 (h w time).2

/-- To ask for notifications is quiet. -/
theorem quietly_register (s : Server) : s.register.Quietly fun _ => True := by
  unfold register
  split
  · exact Dialogue.quietly_done trivial
  · exact Dialogue.quietly_ask (fun _ => Dialogue.quietly_done trivial) _

/-- To start watching is quiet, and touches nothing that a pass depends on. -/
theorem quietly_startWatching (s : Server) : s.startWatching.Quietly s.Alike := by
  unfold startWatching
  split
  · exact Dialogue.quietly_done (.refl s)
  · split
    · exact Dialogue.quietly_done (.refl s)
    · refine Dialogue.quietly_look (fun d => ?_) _
      split
      · exact Dialogue.quietly_done ⟨rfl, rfl, rfl, rfl⟩
      · exact (Dialogue.quietly_done (.refl s)).log _ _

/-- **What a notification can do.** -/
theorem reaction_notify {s : Server} (hs : s.Distinct) (n : Notification) (w : Environment) (time : Nat) :
    s.Reaction (.notified n) ((s.notify n).trace w time) := by
  cases n with
  | initialized =>
      refine reaction_of_quietly (fun _ => rfl) ?_ w time
      refine Dialogue.Quietly.bind (P := fun _ => True)
        ((Dialogue.quietly_done trivial).log _ _) fun _ _ => ?_
      exact (quietly_register s).bind fun _ _ => quietly_startWatching s
  | opened uri text => exact .keeps uri text (fun _ => rfl) (passed_keep hs uri text w time)
  | changed uri texts =>
      cases hlast : texts.getLast? with
      | none =>
          refine reaction_of_quietly (fun other => by simp [Step.word?, hlast]) ?_ w time
          simp only [notify, hlast]
          exact Dialogue.quietly_done (.refl s)
      | some text =>
          refine .keeps uri text (fun other => by simp [Step.word?, hlast]) ?_
          simp only [notify, hlast]
          exact passed_keep hs uri text w time
  | closed uri => exact .closes uri (fun _ => rfl) rfl rfl
  | configurationChanged => exact .reloads (fun _ => rfl) (revalidated hs w time)
  | filesChanged uris =>
      by_cases h : touchesConfig uris = true
      · refine .reloads (fun _ => rfl) ?_
        simp only [notify, h, if_true]
        exact revalidated hs w time
      · refine reaction_of_quietly (fun _ => rfl) ?_ w time
        simp only [notify, if_neg h]
        exact Dialogue.quietly_done (.refl s)
  | foldersChanged added removed =>
      refine reaction_of_quietly (fun _ => rfl) ?_ w time
      refine Dialogue.Quietly.bind (P := fun _ => True)
        ((Dialogue.quietly_done trivial).log _ _) fun _ _ => ?_
      refine Dialogue.quietly_done ?_
      unfold changeFolder
      dsimp only
      split
      · exact .refl s
      · exact ⟨rfl, rfl, rfl, rfl⟩

/-- **What a change of the disk can do.** -/
theorem reaction_diskChanged {s : Server} (hs : s.Distinct) (before after : Disk) (e : Edit) (w : Environment)
    (time : Nat) : s.Reaction (.edited before after e) ((s.diskChanged before after e).trace w time) := by
  unfold diskChanged
  cases s.watcher with
  | none => exact reaction_of_quietly (fun _ => rfl) (Dialogue.quietly_done (.refl s)) w time
  | some watcher =>
      dsimp only
      obtain ⟨silent, watcher', hvalue⟩ := quietly_takeEvents
        { s with watcher := some (watcher.observe before after e).2 } false (watcher.observe before after e).1 w time
      generalize hheard : Dialogue.trace w time _ = heard at silent hvalue
      rw [trace_takeBurst hheard]
      have alike : s.Alike heard.value.2 := hvalue ▸ ⟨rfl, rfl, rfl, rfl⟩
      rcases heard.value.2.revalidateIf_cases heard.value.1 with ⟨-, hcheck⟩ | ⟨-, hdone⟩
      · rw [hcheck]
        exact .reloads (fun _ => rfl)
          (alike.documents ▸ (revalidated (alike.distinct hs) w heard.time).after alike silent)
      · rw [hdone]
        exact .quiet (fun _ => rfl) (by simpa [Trace.followedBy, Dialogue.trace] using silent) alike

/-- **What a step can do.** -/
theorem reaction {s : Server} (hs : s.Distinct) (e : Step) (w : Environment) (time : Nat) :
    s.Reaction e ((s.react e).trace w time) := by
  cases e with
  | notified n => exact reaction_notify hs n w time
  | edited before after e => exact reaction_diskChanged hs before after e w time

end Server

/-! ## what is published -/

/-- What is published for other documents does not count. -/
theorem latest?_append_of_ne {uri : Uri} {ms : List Interaction}
    (h : ∀ p ∈ published ms, p.uri.text ≠ uri.text) (log : List Interaction) :
    latest? uri (log ++ ms) = latest? uri log := by
  have hnone : (published ms).filter (·.uri.text == uri.text) = [] := by
    rw [List.filter_eq_nil_iff]
    intro p hp
    simpa using h p hp
  simp only [latest?, published_append, List.filter_append, hnone, List.append_nil]

namespace Session

/-- What a session keeps: every document is there once, the latest that was published for an open
document is the result of a pass over its text, and for all others it is empty. -/
structure Faithful (x : Session) : Prop where
  distinct : x.server.Distinct
  current : ∀ doc ∈ x.server.documents, Server.Current x.log x.server doc
  cleared : ∀ uri, x.server.text? uri = none → ∀ p, latest? uri x.log = some p → p.diagnostics = []

/-- At the start no document is open and nothing is published. -/
theorem faithful_start (server : Server) : (start server).Faithful where
  distinct := List.nodup_nil
  current := by simp [start]
  cleared := by simp [start, latest?]

variable {w : Environment} {x : Session} {e : Step}

/-- What happens in a step is written down behind all that happened. -/
theorem log_step (w : Environment) (x : Session) (e : Step) : (x.step w e).log = x.log ++ x.happens w e := rfl

/-- **A quiet step** changes nothing. -/
theorem Faithful.step_quiet (h : x.Faithful) (silent : published (x.happens w e) = [])
    (alike : x.server.Alike (x.step w e).server) : (x.step w e).Faithful := by
  have hne (uri : Uri) : ∀ p ∈ published (x.happens w e), p.uri.text ≠ uri.text := by simp [silent]
  refine ⟨alike.distinct h.distinct, ?_, ?_⟩
  · intro doc hdoc
    rw [alike.documents] at hdoc
    exact (h.current doc hdoc).append (hne doc.uri) fun d => alike.resultFor d doc
  · intro uri hclosed p hp
    rw [Server.text?_congr alike.documents] at hclosed
    rw [log_step, latest?_append_of_ne (hne uri)] at hp
    exact h.cleared uri hclosed p hp

/-- **A document is kept** and passed over: it is current after that, and the others stay. -/
theorem Faithful.step_keeps (h : x.Faithful) {uri : Uri} {text : String}
    (passed : (x.server.keep uri text).Passed ⟨uri, text⟩ (x.happens w e) (x.step w e).server) :
    (x.step w e).Faithful := by
  have hne {other : Uri} (ho : other.text ≠ uri.text) :
      ∀ q ∈ published (x.happens w e), q.uri.text ≠ other.text := by
    intro q hq heq
    exact ho (by rw [← heq, passed.uri_of_mem hq])
  refine ⟨?_, ?_, ?_⟩
  · simpa only [Server.Distinct, Server.addresses, passed.documents] using h.distinct.keep uri text
  · intro doc hdoc
    rw [passed.documents, Server.mem_keep] at hdoc
    rcases hdoc with rfl | ⟨hmem, ho⟩
    · exact passed.current x.log
    · refine (h.current doc hmem).append (hne ho) fun d => ?_
      -- to keep a document changes no root
      rw [passed.others d doc ho]
      exact Server.resultFor_congr (by rw [Server.keep_settings]) (by rw [Server.keep_settings])
        (Server.keep_limit ..) (Server.keep_flags ..) d
  · intro other hclosed q hq
    rw [Server.text?_congr passed.documents, Server.text?_keep h.distinct] at hclosed
    split at hclosed
    · contradiction
    · next ho =>
        rw [log_step, latest?_append_of_ne (hne ho)] at hq
        exact h.cleared other hclosed q hq

/-- **A document is closed**: its latest list is empty, and the others stay. -/
theorem Faithful.step_closes (h : x.Faithful) {uri : Uri}
    (clears : x.happens w e = [.told (.publish ⟨uri, []⟩)])
    (forgets : (x.step w e).server = x.server.forget uri) : (x.step w e).Faithful := by
  have hne {other : Uri} (ho : other.text ≠ uri.text) :
      ∀ q ∈ published (x.happens w e), q.uri.text ≠ other.text := by
    intro q hq
    rw [clears, published_publish, List.mem_singleton] at hq
    rw [hq]
    exact ho.symm
  refine ⟨forgets ▸ h.distinct.forget uri, ?_, ?_⟩
  · intro doc hdoc
    rw [forgets] at hdoc ⊢
    simp only [Server.forget, List.mem_filter, bne_iff_ne] at hdoc
    exact (h.current doc hdoc.1).append (hne hdoc.2) fun d => Server.resultFor_congr rfl rfl rfl rfl d
  · intro other hclosed q hq
    rw [forgets, Server.text?_forget] at hclosed
    rw [log_step] at hq
    by_cases ho : other.text = uri.text
    · have hlast : latest? other (x.log ++ x.happens w e) = some ⟨uri, []⟩ := by
        simp [latest?, clears, ho]
      rw [hlast, Option.some.injEq] at hq
      rw [← hq]
    · rw [if_neg ho] at hclosed
      rw [latest?_append_of_ne (hne ho)] at hq
      exact h.cleared other hclosed q hq

/-- **All open documents are passed over**: all are current after that, and for others nothing is
published. -/
theorem Faithful.step_reloads (h : x.Faithful)
    (revalidated : x.server.Revalidated x.server.documents (x.happens w e) (x.step w e).server) :
    (x.step w e).Faithful := by
  refine ⟨?_, ?_, ?_⟩
  · simpa only [Server.Distinct, Server.addresses, revalidated.documents] using h.distinct
  · intro doc hdoc
    rw [revalidated.documents] at hdoc
    exact revalidated.current x.log doc hdoc
  · intro uri hclosed q hq
    rw [Server.text?_congr revalidated.documents] at hclosed
    have hne : ∀ q ∈ published (x.happens w e), q.uri.text ≠ uri.text := by
      intro q hq heq
      obtain ⟨doc, hdoc, hdu⟩ := revalidated.exists_of_mem hq
      have hopen := Server.text?_of_mem h.distinct hdoc
      have haddress : doc.uri.text = uri.text := by rw [hdu, heq]
      simp only [Server.text?, haddress] at hopen hclosed
      rw [hopen] at hclosed
      contradiction
    rw [log_step, latest?_append_of_ne hne] at hq
    exact h.cleared uri hclosed q hq

/-- **What one step keeps.** -/
theorem Faithful.step (h : x.Faithful) (w : Environment) (e : Step) : (x.step w e).Faithful := by
  cases Server.reaction h.distinct e w x.time with
  | quiet word silent alike => exact h.step_quiet silent alike
  | keeps uri text word passed => exact h.step_keeps passed
  | closes uri word clears forgets => exact h.step_closes clears forgets
  | reloads word revalidated => exact h.step_reloads revalidated

/-- **What a session keeps.** -/
theorem faithful_run (h : x.Faithful) (w : Environment) (steps : List Step) :
    (x.run w steps).Faithful := by
  induction steps generalizing x with
  | nil => exact h
  | cons e rest ih => exact ih (h.step w e)

/-! ## the texts of documents -/

/-- The last word about a document is said in a later step, or else in the first one. -/
theorem lastWord?_cons (uri : Uri) (e : Step) (rest : List Step) :
    lastWord? uri (e :: rest) = (lastWord? uri rest).or (e.word? uri) := by
  unfold lastWord?
  rw [List.filterMap_cons]
  cases e.word? uri with
  | none => simp
  | some said =>
      rw [List.getLast?_cons]
      cases (rest.filterMap (Step.word? uri)).getLast? <;> rfl

/-- **The text of a document after a step** is what the step says about it. -/
theorem Faithful.text?_step (h : x.Faithful) (w : Environment) (e : Step) (uri : Uri) :
    (x.step w e).server.text? uri = (e.word? uri).getD (x.server.text? uri) := by
  cases Server.reaction h.distinct e w x.time with
  | quiet word silent alike =>
      rw [word, Option.getD_none]
      exact Server.text?_congr alike.documents uri
  | keeps u text word passed =>
      have htext : (x.step w e).server.text? uri = (x.server.keep u text).text? uri :=
        Server.text?_congr passed.documents uri
      rw [htext, Server.text?_keep h.distinct, word]
      split <;> rfl
  | closes u word clears forgets =>
      have hstep : (x.step w e).server = x.server.forget u := forgets
      rw [hstep, Server.text?_forget, word]
      split <;> rfl
  | reloads word revalidated =>
      rw [word, Option.getD_none]
      exact Server.text?_congr revalidated.documents uri

/-- **The text of a document after some steps** is the last that they say about it. -/
theorem Faithful.text?_run (h : x.Faithful) (w : Environment) (steps : List Step) (uri : Uri) :
    (x.run w steps).server.text? uri = (lastWord? uri steps).getD (x.server.text? uri) := by
  induction steps generalizing x with
  | nil => rfl
  | cons e rest ih =>
      rw [lastWord?_cons]
      refine (ih (h.step w e)).trans ?_
      rw [h.text?_step]
      cases lastWord? uri rest <;> rfl

/-! ## what a step publishes -/

/-- Nothing but an empty list is published for a document that is not open. -/
theorem Faithful.isSome_text?_of_published (h : x.Faithful) (w : Environment) (e : Step)
    {p : Publication} (hp : p ∈ published (x.happens w e)) (hne : p.diagnostics ≠ []) :
    ((x.step w e).server.text? p.uri).isSome = true := by
  rw [h.text?_step]
  cases Server.reaction h.distinct e w x.time with
  | quiet word silent alike =>
      rw [happens, silent] at hp
      exact absurd hp List.not_mem_nil
  | keeps u text word passed =>
      rw [word, passed.uri_of_mem hp, if_pos rfl]
      rfl
  | closes u word clears forgets =>
      rw [happens, clears] at hp
      have hclear : p = ⟨u, []⟩ := List.mem_singleton.mp hp
      exact absurd (by rw [hclear]) hne
  | reloads word revalidated =>
      obtain ⟨doc, hdoc, hdu⟩ := revalidated.exists_of_mem hp
      have hopen := Server.text?_of_mem h.distinct hdoc
      rw [hdu] at hopen
      rw [word, Option.getD_none, hopen]
      rfl

/-- A step that tells of a configuration makes the server pass over all open documents. -/
theorem react_of_isReload {s : Server} (h : e.IsReload) : s.react e = s.revalidate := by
  cases e with
  | edited before after e => exact h.elim
  | notified n =>
      cases n with
      | configurationChanged => rfl
      | filesChanged uris =>
          have hnamed : ∃ u ∈ uris, u.lastSegment? = some configFileName := h
          have htouch : touchesConfig uris = true := by simpa [touchesConfig] using hnamed
          simp only [Server.react, Server.notify, htouch, if_true]
      | _ => exact h.elim

/-- Such a step publishes once for every open document, and for no other. -/
theorem Faithful.length_published_of_isReload (h : x.Faithful) (w : Environment) (he : e.IsReload)
    (uri : Uri) :
    ((published (x.happens w e)).filter (·.uri.text == uri.text)).length =
      if (x.server.text? uri).isSome then 1 else 0 := by
  have hall := Server.revalidated h.distinct w x.time
  have haddresses : (published (x.happens w e)).map (·.uri.text) = x.server.addresses := by
    rw [happens, react_of_isReload he, Server.addresses]
    simpa only [List.map_map, Function.comp_def] using congrArg (List.map Uri.text) hall.uris
  calc
    ((published (x.happens w e)).filter (·.uri.text == uri.text)).length
      = ((published (x.happens w e)).map (·.uri.text)).count uri.text := by
        rw [List.count, List.countP_map, List.countP_eq_length_filter]
        rfl
    _ = if uri.text ∈ x.server.addresses then 1 else 0 := by rw [haddresses, h.distinct.count]
    _ = if (x.server.text? uri).isSome then 1 else 0 := by
        simp only [Server.isSome_text?_iff]

/-! ## the main statement -/

/-- **Documents and publications** in a session, however the disk changes and the editor answers:

* a document has the text that the last word about it gives it, and only an open one has a text;
* the latest that was published for a document is empty if it is not open, and else the result of the
  latest pass over it, for its text, on the disk that this pass saw;
* in no step is anything but an empty list published for a document that is not open;
* a step that tells of a configuration publishes once for every open document and for no other. -/
theorem documents_and_publications (w : Environment) (server : Server) (steps : List Step) :
    let x := (start server).run w steps
    (∀ uri text, x.server.text? uri = some text ↔ lastWord? uri steps = some (some text)) ∧
    (∀ uri, match x.server.text? uri with
      | none => ∀ p, latest? uri x.log = some p → p.diagnostics = []
      | some text => ∃ u d before after, u.text = uri.text ∧
          x.log = before ++ .looked d :: .told (.publish (x.server.resultFor d ⟨u, text⟩)) :: after ∧
          ∀ p ∈ published after, p.uri.text ≠ uri.text) ∧
    (∀ e, ∀ p ∈ published (x.happens w e), p.diagnostics ≠ [] →
      ((x.step w e).server.text? p.uri).isSome = true) ∧
    (∀ e : Step, e.IsReload → ∀ uri,
      ((published (x.happens w e)).filter (·.uri.text == uri.text)).length =
        if (x.server.text? uri).isSome then 1 else 0) := by
  intro x
  have hx : x.Faithful := faithful_run (faithful_start server) w steps
  refine ⟨?_, ?_, ?_, ?_⟩
  · intro uri text
    have htext : x.server.text? uri = (lastWord? uri steps).getD none :=
      (faithful_start server).text?_run w steps uri
    rw [htext]
    cases lastWord? uri steps <;> simp
  · intro uri
    cases htext : x.server.text? uri with
    | none => exact hx.cleared uri htext
    | some text =>
        obtain ⟨doc, hdoc, haddress, rfl⟩ := (Server.text?_eq_some_iff hx.distinct _ _).mp htext
        obtain ⟨before, d, after, hlog, hafter⟩ := hx.current doc hdoc
        exact ⟨doc.uri, d, before, after, haddress, hlog, fun p hp => haddress ▸ hafter p hp⟩
  · exact fun e p hp hne => hx.isSome_text?_of_published w e hp hne
  · exact fun e he uri => hx.length_published_of_isReload w he uri

end Session

end LintServer
