import LintServer.Proofs.Handlers
import LintServer.Proofs.Lifecycle

/-!
# Closing a document while others are at work

A handler that checks a document reads its text in one step and publishes in a later one.  Between the
two it holds the text, and it goes on with it even if the document is closed meanwhile.

* `Handler.Holds` — the handler has read the text of a document and has not published yet;
* `Handler.stepped` — what one step of a handler can do about a document;
* `HandlerPool.ClosedSince` — what holds from the close of a document on, as long as nobody tells more about it;
* `ClosedSince.step`, `ClosedSince.run` — every move keeps it, so every run does;
* `HandlerPool.latest_after_close` — in the end the last that was published is empty, or it comes from a handler
  that held the text already at the close;
* `HandlerPool.marks_outlive_close` — such a handler may leave marks at a closed document.
-/

namespace LintServer

open LintServer.Protocol

/-! ## what messages tell -/

/-- The document that a notification is about. -/
def Protocol.Notification.document? : Notification → Option Uri
  | .opened uri _ | .changed uri _ | .closed uri => some uri
  | _ => none

/-- A message tells something about a document. -/
def Message.Concerns (m : Message) (uri : Uri) : Prop :=
  ((Notification.read? m.method m.params).bind Notification.document?).map (·.text) = some uri.text

instance (m : Message) (uri : Uri) : Decidable (m.Concerns uri) :=
  inferInstanceAs (Decidable (_ = _))

namespace Server

/-- What becomes of a message at once, in terms of what it says: it opens no document and closes none,
or it is a notification, taken as it reads. -/
inductive Accepted (s : Server) (m : Message) : Admission → Prop
  | settled (s' : Server) (outcome : Option Outcome) (documents : s'.documents = s.documents) :
      s.Accepted m (.settled s' outcome)
  | notified (n : Notification) (phase : s.phase = .running)
      (reads : Notification.read? m.method m.params = some n) : s.Accepted m (.notified n)

/-- To begin a session touches no document. -/
theorem accepted_openSession (s : Server) (m : Message) :
    s.Accepted m (s.openSession m.id.isSome m.params) := by
  unfold openSession
  split
  · split
    · split
      · exact .settled _ _ rfl
      · exact .settled _ _ rfl
    · exact .settled _ _ rfl
  · exact .settled _ _ rfl

/-- Neither does its end. -/
theorem accepted_shutDown (s : Server) (m : Message) :
    s.Accepted m (s.shutDown m.id.isSome m.params) := by
  unfold shutDown
  split
  · dsimp only
    split
    · split
      · exact .settled _ _ rfl
      · exact .settled _ _ rfl
    · exact .settled _ _ rfl
  · exact .settled _ _ rfl

/-- Of all other known methods, only the notifications are taken on, while the session is running. -/
theorem accepted_serve (s : Server) (m : Message) : s.Accepted m (s.serve m.id.isSome m) := by
  unfold serve
  split
  · next hphase =>
      split
      · split
        · exact .settled _ _ rfl
        · exact .settled _ _ rfl
      · split
        · next hread => exact .notified _ hphase hread
        · exact .settled _ _ rfl
  · exact .settled _ _ rfl

/-- **What becomes of a message at once.** -/
theorem accepted (s : Server) (m : Message) : s.Accepted m (s.accept m) := by
  unfold accept
  dsimp only
  split
  · exact accepted_openSession s m
  · exact accepted_shutDown s m
  · exact .settled _ _ rfl
  · split
    · exact accepted_serve s m
    · split
      · exact .settled _ _ rfl
      · exact .settled _ _ rfl

end Server

/-! ## what a handler holds -/

namespace Handler

/-- The document whose text a handler has read and for which it has not published yet. -/
def subject? : Handler → Option Uri
  | .ask uri _ _ _ | .hear uri _ _ _ | .load uri _ _ _ => some uri
  | .publish p _ => some p.uri
  | _ => none

/-- A handler holds the text of a document. -/
def Holds (h : Handler) (uri : Uri) : Prop := h.subject?.map (·.text) = some uri.text

/-- A handler without a subject holds nothing. -/
theorem not_holds {h : Handler} (hnone : h.subject? = none) (uri : Uri) : ¬ h.Holds uri := by
  simp [Holds, hnone]

/-- A handler that reads a text holds it only if the document is open. -/
theorem mem_addresses_of_readToCheck {s : Server} {uri other : Uri} {later : List Uri}
    (h : (s.readToCheck other later).Holds uri) : uri.text ∈ s.addresses := by
  unfold Server.readToCheck at h
  cases htext : s.text? other with
  | none => simp [htext, Holds, subject?] at h
  | some text =>
      have hopen : other.text ∈ s.addresses :=
        (Server.isSome_text?_iff s other).mp (by rw [htext]; rfl)
      have heq : other.text = uri.text := by
        simp only [htext] at h
        split at h
        · exact Option.some.inj h
        · exact Option.some.inj h
      exact heq ▸ hopen

/-- What a step can do, seen from a document: no document is opened or closed, the text is read only if
the document is open, and something other than an empty list is published only by a handler that holds
the text. -/
structure Stepped (uri : Uri) (s : Server) (h : Handler) (s' : Server) (sent : Option Dialogue.Sent)
    (h' : Handler) : Prop where
  documents : s'.documents = s.documents
  holds : h'.Holds uri → h.Holds uri ∨ uri.text ∈ s.addresses
  publishes : ∀ p, sent = some (.notice (.publish p)) → p.uri.text = uri.text →
    h.Holds uri ∨ p.diagnostics = []

/-- A step that sends nothing and after which no text is held that was not held before. -/
theorem Stepped.silent {uri : Uri} {s s' : Server} {h h' : Handler}
    (documents : s'.documents = s.documents) (holds : h'.subject? = none ∨ h'.subject? = h.subject?) :
    Stepped uri s h s' none h' where
  documents := documents
  holds hh := by
    rcases holds with hnone | hsame
    · exact absurd hh (not_holds hnone uri)
    · exact .inl (by simpa only [Holds, hsame] using hh)
  publishes p hp := by cases hp

/-- To read a text sends nothing. -/
theorem Stepped.reads {uri : Uri} {s : Server} {h h' : Handler}
    (holds : h'.Holds uri → uri.text ∈ s.addresses) : Stepped uri s h s none h' where
  documents := rfl
  holds hh := .inr (holds hh)
  publishes p hp := by cases hp

/-- A question publishes nothing. -/
theorem Stepped.asks {uri : Uri} {s : Server} {h h' : Handler} (q : Question)
    (holds : h'.subject? = h.subject?) : Stepped uri s h s (some (.question q)) h' where
  documents := rfl
  holds hh := .inl (by simpa only [Holds, holds] using hh)
  publishes p hp := by cases hp

/-- After a notice a handler holds nothing. -/
theorem Stepped.tells {uri : Uri} {s : Server} {h h' : Handler} {n : Notice} (holds : h'.subject? = none)
    (publishes : ∀ p, n = .publish p → p.uri.text = uri.text → h.Holds uri ∨ p.diagnostics = []) :
    Stepped uri s h s (some (.notice n)) h' where
  documents := rfl
  holds hh := absurd hh (not_holds holds uri)
  publishes p hp := publishes p (by cases hp; rfl)

/-- A line of the log publishes nothing. -/
theorem Stepped.logs {uri : Uri} {s : Server} {h h' : Handler} (level : LogLevel) (text : String)
    (holds : h'.subject? = none) : Stepped uri s h s (some (.notice (.log level text))) h' := by
  refine .tells holds fun p hp => ?_
  cases hp

/-- To take note of folders touches no document. -/
theorem documents_changeFolder (s : Server) (added removed : List Uri) :
    (s.changeFolder added removed).documents = s.documents := by
  unfold Server.changeFolder
  dsimp only
  split <;> rfl

/-- To start watching touches no document and holds no text. -/
theorem watchFolder_aside (s : Server) (folder : Path) (d : Disk) :
    (s.watchFolder folder d).1.documents = s.documents ∧ (s.watchFolder folder d).2.subject? = none := by
  unfold Server.watchFolder
  split <;> exact ⟨rfl, rfl⟩

/-- **What a step of a handler can do** about a document. -/
theorem stepped (uri : Uri) {s s' : Server} {d : Disk} {r : Reply} {h h' : Handler}
    {sent : Option Dialogue.Sent} (hstep : h.step s d r = some (s', sent, h')) :
    Stepped uri s h s' sent h' := by
  unfold step at hstep
  cases h with
  | check uris =>
      cases uris with
      | nil => cases hstep; exact .silent rfl (.inl rfl)
      | cons other later =>
          cases hstep
          exact .reads fun hh => mem_addresses_of_readToCheck hh
  | ask other text fallback later => cases hstep; exact .asks _ rfl
  | hear other text fallback later => cases hstep; exact .silent rfl (.inr rfl)
  | load other text folder later => cases hstep; exact .silent rfl (.inr rfl)
  | publish p later =>
      cases hstep
      refine .tells rfl fun q hq haddress => .inl ?_
      cases hq
      exact congrArg some haddress
  | clear other =>
      cases hstep
      refine .tells rfl fun q hq _ => .inr ?_
      cases hq
      rfl
  | register =>
      by_cases hempty : s.registrations.isEmpty = true
      · simp only [action, if_pos hempty] at hstep
        cases hstep
        exact .silent rfl (.inl rfl)
      · simp only [action, if_neg hempty] at hstep
        cases hstep
        exact .asks _ rfl
  | registered => cases hstep; exact .silent rfl (.inl rfl)
  | watch =>
      by_cases hflag : s.flags.watchedFiles = true
      · simp only [action, if_pos hflag] at hstep
        cases hstep
        exact .silent rfl (.inl rfl)
      · cases hfolder : s.folder with
        | none =>
            simp only [action, if_neg hflag, hfolder] at hstep
            cases hstep
            exact .silent rfl (.inl rfl)
        | some folder =>
            simp only [action, if_neg hflag, hfolder] at hstep
            cases hstep
            obtain ⟨hdocuments, hnone⟩ := watchFolder_aside s folder d
            exact .silent hdocuments (.inl hnone)
  | warn e => cases hstep; exact .logs _ _ rfl
  | refolder added removed =>
      cases hstep
      exact .silent (documents_changeFolder s added removed) (.inl rfl)
  | heed events changed =>
      cases events with
      | nil =>
          cases hstep
          refine .silent rfl (.inl ?_)
          split <;> rfl
      | cons e rest =>
          cases e with
          | configChanged path => cases hstep; exact .silent rfl (.inl rfl)
          | folderAppeared dir => cases hstep; exact .silent rfl (.inl rfl)
          | failed reason => cases hstep; exact .logs _ _ rfl
  | finished => cases hstep

end Handler

/-! ## what a handler begins with -/

namespace Server

/-- The addresses of the open documents without one that is forgotten. -/
theorem addresses_forget (s : Server) (uri : Uri) :
    (s.forget uri).addresses = s.addresses.filter (· != uri.text) := by
  unfold forget addresses
  rw [List.filter_map]
  rfl

/-- To keep a document opens no other. -/
theorem absent_keep {s : Server} {uri other : Uri} (hne : other.text ≠ uri.text)
    (habsent : uri.text ∉ s.addresses) (text : String) : uri.text ∉ (s.keep other text).addresses := by
  rw [addresses_keep]
  split
  · exact habsent
  · rw [List.mem_append, List.mem_singleton]
    rintro (hmem | heq)
    · exact habsent hmem
    · exact hne heq.symm

/-- A handler begins aside from a document: it holds no text, publishes nothing before its first step,
and does not open the document. -/
structure Aside (s : Server) (uri : Uri) (b : Begun) : Prop where
  subject : b.2.2.subject? = none
  quiet : ∀ p, b.2.1 ≠ some (.publish p)
  absent : uri.text ∉ s.addresses → uri.text ∉ b.1.addresses

/-- A handler may begin without a word. -/
theorem Aside.silent {s s' : Server} {uri : Uri} {h : Handler} (hsubject : h.subject? = none)
    (habsent : uri.text ∉ s.addresses → uri.text ∉ s'.addresses) : s.Aside uri (s', none, h) :=
  ⟨hsubject, by simp, habsent⟩

/-- A handler may begin with a line of the log. -/
theorem Aside.logs {s : Server} {uri : Uri} {h : Handler} (level : LogLevel) (text : String)
    (hsubject : h.subject? = none) : s.Aside uri (s, some (.log level text), h) :=
  ⟨hsubject, by simp, id⟩

/-- Notifications about other documents begin aside. -/
theorem aside_beginNotified (s : Server) {uri : Uri} {n : Notification}
    (hn : ∀ other, n.document? = some other → other.text ≠ uri.text) :
    s.Aside uri (s.beginNotified n) := by
  cases n with
  | initialized => exact .logs _ _ rfl
  | opened other text => exact .silent rfl fun h => absent_keep (hn other rfl) h text
  | changed other texts =>
      simp only [beginNotified]
      split
      · exact .silent rfl id
      · exact .silent rfl fun h => absent_keep (hn other rfl) h _
  | closed other =>
      refine .silent rfl fun h => ?_
      rw [addresses_forget]
      exact fun hmem => h (List.filter_sublist.mem hmem)
  | configurationChanged => exact .silent rfl id
  | filesChanged uris =>
      simp only [beginNotified]
      split
      · exact .silent rfl id
      · exact .silent rfl id
  | foldersChanged added removed => exact .logs _ _ rfl

/-- Changes of the disk begin aside from every document. -/
theorem aside_beginEdited (s : Server) (uri : Uri) (before after : Disk) (e : Edit) :
    s.Aside uri (s.beginEdited before after e) := by
  unfold beginEdited
  split
  · exact .silent rfl id
  · exact .silent rfl id

end Server

/-! ## what is published last -/

/-- What is published for a document. -/
def Dialogue.Sent.publicationFor? (uri : Uri) (x : Dialogue.Sent) : Option Publication :=
  x.publication?.filter (·.uri.text == uri.text)

/-- What is published for a document has its address. -/
theorem Dialogue.Sent.of_publicationFor? {uri : Uri} {x : Dialogue.Sent} {p : Publication}
    (h : x.publicationFor? uri = some p) : x = .notice (.publish p) ∧ p.uri.text = uri.text := by
  obtain ⟨hp, haddress⟩ := Option.filter_eq_some_iff.mp h
  exact ⟨of_publication? hp, by simpa using haddress⟩

namespace HandlerPool

/-- All that was published for a document, each with the number of the handler that published it. -/
def publicationsFor (k : HandlerPool) (uri : Uri) : List (Nat × Publication) :=
  k.sent.filterMap fun (i, x) => (x.publicationFor? uri).map (i, ·)

/-- What was published last for a document. -/
def latest? (k : HandlerPool) (uri : Uri) : Option (Nat × Publication) := (k.publicationsFor uri).getLast?

/-- The handler with a number holds the text of a document. -/
def Held (k : HandlerPool) (uri : Uri) (i : Nat) : Prop := ∃ h, k.handlers[i]? = some h ∧ h.Holds uri

/-- Something was published for a document, and the last of it is empty or comes from a handler that
held its text when the pool was `k₀`. -/
def Cleared (k₀ : HandlerPool) (uri : Uri) (k : HandlerPool) : Prop :=
  ∃ i p, k.latest? uri = some (i, p) ∧ (p.diagnostics = [] ∨ k₀.Held uri i)

/-- It stays so if nothing else is published for the document. -/
theorem Cleared.append {k₀ k k' : HandlerPool} {uri : Uri} (h : Cleared k₀ uri k)
    {more : List (Nat × Dialogue.Sent)} (hsent : k'.sent = k.sent ++ more)
    (hmore : ∀ i x, (i, x) ∈ more → ∀ p, x.publicationFor? uri = some p →
      p.diagnostics = [] ∨ k₀.Held uri i) : Cleared k₀ uri k' := by
  obtain ⟨i, p, hlast, hp⟩ := h
  have happend : k'.publicationsFor uri =
      k.publicationsFor uri ++ more.filterMap fun (i, x) => (x.publicationFor? uri).map (i, ·) := by
    simp only [publicationsFor, hsent, List.filterMap_append]
  cases hnew : (more.filterMap fun (i, x) => (x.publicationFor? uri).map (i, ·)).getLast? with
  | none =>
      refine ⟨i, p, ?_, hp⟩
      rw [latest?, happend, List.getLast?_append, hnew]
      exact hlast
  | some last =>
      obtain ⟨⟨j, x⟩, hmem, hx⟩ := List.mem_filterMap.mp (List.mem_of_getLast? hnew)
      obtain ⟨q, hq, rfl⟩ := Option.map_eq_some_iff.mp hx
      refine ⟨j, q, ?_, hmore j x hmem q hq⟩
      rw [latest?, happend, List.getLast?_append, hnew]
      rfl

/-- A handler that is taken on and holds nothing changes nothing about what others hold. -/
theorem held_spawn {k : HandlerPool} {b : Server.Begun} {uri : Uri} (hb : b.2.2.subject? = none) (i : Nat) :
    (k.spawn b).Held uri i ↔ k.Held uri i := by
  unfold Held
  simp only [spawn, List.getElem?_append]
  split
  · rfl
  · next hi =>
      rw [List.getElem?_eq_none (by omega : k.handlers.length ≤ i)]
      constructor
      · rintro ⟨h, hget, hholds⟩
        obtain rfl : h = b.2.2 := by
          have := List.mem_of_getElem? hget
          simpa using this
        exact absurd hholds (Handler.not_holds hb uri)
      · rintro ⟨h, hget, -⟩
        cases hget

/-- A handler that is taken on leaves the others at their places. -/
theorem getElem?_spawn {k : HandlerPool} {i : Nat} {h : Handler} (hget : k.handlers[i]? = some h)
    (b : Server.Begun) : (k.spawn b).handlers[i]? = some h := by
  obtain ⟨hi, -⟩ := List.getElem?_eq_some_iff.mp hget
  simp only [spawn]
  rw [List.getElem?_append_left hi]
  exact hget

/-! ## from the close on -/

/-- What holds from the moment on at which a pool `k₀` receives that a document is closed: the document
is not open, its text is held by none but those that held it at the close, and the handler of the close
has still to take back what was published, or has done so. -/
structure ClosedSince (k₀ : HandlerPool) (uri : Uri) (k : HandlerPool) : Prop where
  absent : uri.text ∉ k.server.addresses
  held : ∀ i, k.Held uri i → k₀.Held uri i
  clears : k.handlers[k₀.handlers.length]? = some (.clear uri) ∨
    k.handlers[k₀.handlers.length]? = some .finished ∧ Cleared k₀ uri k

/-- It holds right after the close. -/
theorem closedSince_receive {k : HandlerPool} {m : Message} {uri : Uri}
    (hm : k.server.accept m = .notified (.closed uri)) : ClosedSince k uri (k.receive m).1 := by
  have hphase : k.server.phase = .running := by
    have haccepted := k.server.accepted m
    rw [hm] at haccepted
    cases haccepted with
    | notified n hphase hread => exact hphase
  have hpool : (k.receive m).1 = k.spawn (k.server.beginNotified (.closed uri)) := by
    simp [receive, hphase, hm]
  rw [hpool]
  refine ⟨?_, ?_, .inl ?_⟩
  · simp [spawn, Server.beginNotified, Server.addresses_forget]
  · exact fun i => (held_spawn rfl i).mp
  · simp [spawn, Server.beginNotified]

/-- It does not matter what becomes of the server if no document is opened. -/
theorem ClosedSince.serve {k₀ k : HandlerPool} {uri : Uri} (h : ClosedSince k₀ uri k) {s : Server}
    (hs : s.documents = k.server.documents) : ClosedSince k₀ uri { k with server := s } where
  absent := by simpa only [Server.addresses, hs] using h.absent
  held := h.held
  clears := h.clears

/-- A handler that begins aside from the document keeps it. -/
theorem ClosedSince.spawn {k₀ k : HandlerPool} {uri : Uri} (h : ClosedSince k₀ uri k) {b : Server.Begun}
    (hb : k.server.Aside uri b) : ClosedSince k₀ uri (k.spawn b) where
  absent := hb.absent h.absent
  held i hi := h.held i ((held_spawn hb.subject i).mp hi)
  clears := by
    rcases h.clears with hclear | ⟨hfinished, hcleared⟩
    · exact .inl (getElem?_spawn hclear b)
    · refine .inr ⟨getElem?_spawn hfinished b, hcleared.append rfl ?_⟩
      intro i x hx p hp
      obtain ⟨n, hn, heq⟩ := List.mem_map.mp hx
      cases heq
      obtain ⟨hpublish, -⟩ := Dialogue.Sent.of_publicationFor? hp
      cases hpublish
      exact absurd (Option.mem_toList.mp hn) (hb.quiet p)

/-- So does a step of any handler.  The steps of the handler of the close itself are the only ones that
are looked at more closely: it takes back what was published, and then has no step left. -/
theorem ClosedSince.advance {k₀ k : HandlerPool} {uri : Uri} (h : ClosedSince k₀ uri k) (i : Nat) (d : Disk)
    (r : Reply) : ClosedSince k₀ uri (k.advance i d r) := by
  unfold HandlerPool.advance
  cases hnext : k.handlers[i]?.bind (Handler.step k.server d r) with
  | none => exact h
  | some next =>
      obtain ⟨s', sent, h'⟩ := next
      obtain ⟨h₁, hget, hstep⟩ := Option.bind_eq_some_iff.mp hnext
      have hstepped := Handler.stepped uri hstep
      have hi : i < k.handlers.length := (List.getElem?_eq_some_iff.mp hget).1
      refine ⟨?_, ?_, ?_⟩
      · simpa only [Server.addresses, hstepped.documents] using h.absent
      · rintro j ⟨h₂, hget₂, hholds⟩
        rw [List.getElem?_set] at hget₂
        split at hget₂
        · next heq =>
            subst heq
            obtain rfl : h' = h₂ := by simpa [hi] using hget₂
            rcases hstepped.holds hholds with hbefore | hopen
            · exact h.held i ⟨h₁, hget, hbefore⟩
            · exact absurd hopen h.absent
        · exact h.held j ⟨h₂, hget₂, hholds⟩
      · rcases h.clears with hclear | ⟨hfinished, hcleared⟩
        · by_cases heq : i = k₀.handlers.length
          · subst heq
            obtain rfl : h₁ = .clear uri := Option.some.inj (hget.symm.trans hclear)
            cases hstep
            refine .inr ⟨by simp [hi], k₀.handlers.length, ⟨uri, []⟩, ?_, .inl rfl⟩
            simp [latest?, publicationsFor, Dialogue.Sent.publicationFor?, Dialogue.Sent.publication?]
          · exact .inl (by simpa [heq] using hclear)
        · have hne : i ≠ k₀.handlers.length := by
            rintro rfl
            obtain rfl : h₁ = .finished := Option.some.inj (hget.symm.trans hfinished)
            cases hstep
          refine .inr ⟨by simpa [hne] using hfinished, hcleared.append rfl ?_⟩
          intro j x hx p hp
          obtain ⟨y, hy, heq⟩ := List.mem_map.mp hx
          cases heq
          obtain ⟨rfl, haddress⟩ := Dialogue.Sent.of_publicationFor? hp
          rcases hstepped.publishes p (Option.mem_toList.mp hy) haddress with hholds | hempty
          · exact .inr (h.held i ⟨h₁, hget, hholds⟩)
          · exact .inl hempty

/-- **Every move keeps it** that tells nothing more about the document. -/
theorem ClosedSince.step {k₀ k : HandlerPool} {uri : Uri} (h : ClosedSince k₀ uri k) {move : Move}
    (hmove : ∀ m, move = .received m → ¬ m.Concerns uri) : ClosedSince k₀ uri (k.step move) := by
  cases move with
  | received m =>
      simp only [HandlerPool.step, receive]
      split
      · exact h
      · have haccepted := k.server.accepted m
        cases hm : k.server.accept m with
        | settled s outcome =>
            rw [hm] at haccepted
            cases haccepted with
            | settled _ _ hdocuments => exact h.serve hdocuments
        | notified n =>
            rw [hm] at haccepted
            cases haccepted with
            | notified _ _ hread =>
                refine h.spawn (k.server.aside_beginNotified fun other hother heq => ?_)
                exact hmove m rfl (by simp [Message.Concerns, hread, hother, heq])
  | edited before after e => exact h.spawn (k.server.aside_beginEdited uri before after e)
  | widened d => exact h.serve rfl
  | advanced i d r => exact h.advance i d r

/-- **Every run keeps it** in which nothing more is told about the document. -/
theorem ClosedSince.run {k₀ k : HandlerPool} {uri : Uri} (h : ClosedSince k₀ uri k) {moves : List Move}
    (hmoves : ∀ m, .received m ∈ moves → ¬ m.Concerns uri) : ClosedSince k₀ uri (k.run moves) := by
  induction moves generalizing k with
  | nil => exact h
  | cons move moves ih =>
      refine ih (h.step ?_) fun m hm => hmoves m (List.mem_cons_of_mem _ hm)
      rintro m rfl
      exact hmoves m List.mem_cons_self

/-- A pool at which nobody is busy has nothing but handlers that have finished. -/
theorem eq_finished_of_busy {k : HandlerPool} (h : k.busy = 0) {i : Nat} {x : Handler}
    (hget : k.handlers[i]? = some x) : x = .finished := by
  have hx := List.countP_eq_zero.mp h x (List.mem_of_getElem? hget)
  cases x with
  | finished => rfl
  | _ => exact absurd rfl hx

/-- **The last that is published for a closed document.**  Whatever is at work when a document is closed,
and whatever happens after that, in whatever order: if nothing more is told about the document, then once
all handlers have finished, the last that was published for it is empty, or it comes from a handler that
held the document's text already at the close. -/
theorem latest_after_close {k : HandlerPool} {m : Message} {uri : Uri}
    (hm : k.server.accept m = .notified (.closed uri)) {after : List Move}
    (hafter : ∀ m', .received m' ∈ after → ¬ m'.Concerns uri)
    (hdone : ((k.receive m).1.run after).busy = 0) :
    ∃ i p, ((k.receive m).1.run after).latest? uri = some (i, p) ∧
      (p.diagnostics = [] ∨ k.Held uri i) := by
  have hsince := (closedSince_receive hm).run hafter
  rcases hsince.clears with hclear | ⟨-, hcleared⟩
  · cases eq_finished_of_busy hdone hclear
  · exact hcleared

/-- A document is closed while its text is held by a check of all documents, and another is opened. -/
theorem latest_after_close_during_check :
    let uri : Uri := ⟨"file", some {}, .segments ["a"], none, none⟩
    let reload : Message :=
      { method := "workspace/didChangeConfiguration", params := some (.obj [("settings", .null)]) }
    let closing : Message :=
      { method := "textDocument/didClose"
        params := some (.obj [("textDocument", .obj [("uri", .str "file:///a")])]) }
    let opening : Message :=
      { method := "textDocument/didOpen"
        params := some (.obj [("textDocument", .obj [("uri", .str "file:///c"), ("languageId", .str ""),
          ("version", .int 1), ("text", .str "")])]) }
    let server : Server := { phase := .running, documents := [⟨uri, "b"⟩] }
    let k := HandlerPool.run { server } [.received reload, .advanced 0 {} .failure]
    let after : List Move := .received opening ::
      [1, 0, 0, 0, 2, 2, 2, 2].map (.advanced · {} .failure)
    k.Held uri 0 ∧ k.server.accept closing = .notified (.closed uri) ∧
      (∀ m, .received m ∈ after → ¬ m.Concerns uri) ∧ ((k.receive closing).1.run after).busy = 0 ∧
      ∃ i p, ((k.receive closing).1.run after).latest? uri = some (i, p) ∧
        (p.diagnostics = [] ∨ k.Held uri i) := by
  intro uri reload closing opening server k after
  have hheld : k.Held uri 0 := ⟨.load uri "b" none [], by rfl, rfl⟩
  have hm : k.server.accept closing = .notified (.closed uri) := by rfl
  have hafter : ∀ m, .received m ∈ after → ¬ m.Concerns uri := by
    intro m hmem
    obtain rfl : m = opening := by simpa [after] using hmem
    decide +kernel
  have hdone : ((k.receive closing).1.run after).busy = 0 := by decide +kernel
  exact ⟨hheld, hm, hafter, hdone, latest_after_close hm hafter hdone⟩

/-- Marks stay at a closed document if the answer to a question that was asked before the close comes
after it. -/
theorem marks_outlive_close :
    let uri : Uri := ⟨"file", some {}, .segments ["a"], none, none⟩
    let opening : Message :=
      { method := "textDocument/didOpen"
        params := some (.obj [("textDocument", .obj [("uri", .str "file:///a"), ("languageId", .str ""),
          ("version", .int 1), ("text", .str "b")])]) }
    let closing : Message :=
      { method := "textDocument/didClose"
        params := some (.obj [("textDocument", .obj [("uri", .str "file:///a")])]) }
    let server : Server :=
      { phase := .running, flags := { configuration := true }
        settings := { base := ⟨[{ test := "b" }], none⟩ } }
    let d : Disk := { root := [("w".toUTF8.toList, .folder [(configName, .file [])])] }
    let r : Reply := .result (.arr [.str "/w"])
    let k := HandlerPool.run { server } [.received opening, .advanced 0 d r, .advanced 0 d r, .received closing]
    let k' := k.run ([1, 0, 0, 0, 0].map (.advanced · d r))
    k.server.text? uri = none ∧ k'.busy = 0 ∧
      (k'.publicationsFor uri).map (fun (i, p) => (i, p.diagnostics.length)) = [(1, 0), (0, 1)] := by
  decide +kernel

end HandlerPool

end LintServer
