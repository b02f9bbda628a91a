import LintServer.Proofs.Passes
import LintServer.Proofs.Traces

/-!
# Open documents

What the server does to its documents, and what a pass over some of them says:

* `Server.text?_keep`, `Server.text?_forget` — the documents are a map from addresses to texts;
* `Server.passed_publish` — one pass over an open document;
* `Server.revalidated_publishAll` — passes over some open documents, one after the other;
* `Server.quietly_takeEvents` — events that are handled before such passes make no difference to them.

The passes are described with `Server.resultFor`, which tells the result of a pass by what the server
remembers *after* it: the root of the document stays as it is, so the result can still be told when the pass
is long over.
-/

namespace LintServer

namespace Server

/-! ## the map of documents -/

/-- The addresses of the open documents. -/
def addresses (s : Server) : List String := s.documents.map (·.uri.text)

/-- Every open document is there once. -/
def Distinct (s : Server) : Prop := s.addresses.Nodup

/-- Among documents with different addresses, the one with an address is found. -/
theorem find?_document_iff {docs : List Document} (h : (docs.map (·.uri.text)).Nodup)
    (address : String) (doc : Document) :
    docs.find? (·.uri.text == address) = some doc ↔ doc ∈ docs ∧ doc.uri.text = address := by
  induction docs with
  | nil => simp
  | cons first rest ih =>
      rw [List.map_cons, List.nodup_cons] at h
      obtain ⟨hfirst, hrest⟩ := h
      rw [List.find?_cons]
      by_cases heq : first.uri.text = address
      · simp only [heq, BEq.rfl, Option.some.injEq, List.mem_cons]
        constructor
        · rintro rfl
          exact ⟨.inl rfl, heq⟩
        · rintro ⟨rfl | hmem, ha⟩
          · rfl
          · exact absurd (List.mem_map.mpr ⟨doc, hmem, ha.trans heq.symm⟩) hfirst
      · have hb : (first.uri.text == address) = false := by simpa using heq
        simp only [hb, ih hrest, List.mem_cons]
        constructor
        · rintro ⟨hmem, ha⟩
          exact ⟨.inr hmem, ha⟩
        · rintro ⟨rfl | hmem, ha⟩
          · exact absurd ha heq
          · exact ⟨hmem, ha⟩

/-- The text of a document is that of the one document with its address. -/
theorem text?_eq_some_iff {s : Server} (h : s.Distinct) (uri : Uri) (text : String) :
    s.text? uri = some text ↔ ∃ doc ∈ s.documents, doc.uri.text = uri.text ∧ doc.text = text := by
  unfold text?
  rw [Option.map_eq_some_iff]
  constructor
  · rintro ⟨doc, hdoc, htext⟩
    obtain ⟨hmem, haddress⟩ := (find?_document_iff h _ _).mp hdoc
    exact ⟨doc, hmem, haddress, htext⟩
  · rintro ⟨doc, hmem, haddress, htext⟩
    exact ⟨doc, (find?_document_iff h _ _).mpr ⟨hmem, haddress⟩, htext⟩

/-- The documents with a text are those with an address among the open ones. -/
theorem isSome_text?_iff (s : Server) (uri : Uri) :
    (s.text? uri).isSome = true ↔ uri.text ∈ s.addresses := by
  simp [text?, addresses]

/-- The server has the text of each of its documents. -/
theorem text?_of_mem {s : Server} (h : s.Distinct) {doc : Document} (hmem : doc ∈ s.documents) :
    s.text? doc.uri = some doc.text :=
  (text?_eq_some_iff h _ _).mpr ⟨doc, hmem, rfl, rfl⟩

/-- A document that is kept takes the place of the one with its address. -/
theorem mem_keep (s : Server) (uri : Uri) (text : String) (doc : Document) :
    doc ∈ (s.keep uri text).documents ↔
      doc = ⟨uri, text⟩ ∨ (doc ∈ s.documents ∧ doc.uri.text ≠ uri.text) := by
  unfold keep
  split
  · next hany =>
      obtain ⟨old, hold, haddress⟩ := List.any_eq_true.mp hany
      rw [List.mem_map]
      constructor
      · rintro ⟨d, hd, rfl⟩
        by_cases hd' : d.uri.text = uri.text
        · simp [hd']
        · exact .inr (by simpa [hd'] using hd)
      · rintro (rfl | ⟨hmem, hne⟩)
        · exact ⟨old, hold, by rw [if_pos haddress]⟩
        · exact ⟨doc, hmem, by simp [hne]⟩
  · next hany =>
      have hnone : ∀ d ∈ s.documents, d.uri.text ≠ uri.text := by simpa using hany
      rw [List.mem_append, List.mem_singleton]
      constructor
      · rintro (hmem | rfl)
        · exact .inr ⟨hmem, hnone doc hmem⟩
        · exact .inl rfl
      · rintro (rfl | ⟨hmem, -⟩)
        · exact .inr rfl
        · exact .inl hmem

/-- The addresses of the open documents with one that is kept. -/
theorem addresses_keep (s : Server) (uri : Uri) (text : String) :
    (s.keep uri text).addresses =
      if uri.text ∈ s.addresses then s.addresses else s.addresses ++ [uri.text] := by
  unfold keep addresses
  by_cases hany : s.documents.any (·.uri.text == uri.text) = true
  · have hmem : uri.text ∈ s.documents.map (·.uri.text) := by simpa using hany
    rw [if_pos hany, if_pos hmem, List.map_map]
    apply List.map_congr_left
    intro d _
    by_cases hd : d.uri.text = uri.text
    · simp [hd]
    · simp [hd]
  · have hmem : uri.text ∉ s.documents.map (·.uri.text) := by simpa using hany
    rw [if_neg hany, if_neg hmem, List.map_append]
    rfl

@[simp] theorem keep_settings (s : Server) (uri : Uri) (text : String) :
    (s.keep uri text).settings = s.settings := by
  unfold keep; split <;> rfl

@[simp] theorem keep_limit (s : Server) (uri : Uri) (text : String) :
    (s.keep uri text).limit = s.limit := by
  unfold keep; split <;> rfl

@[simp] theorem keep_flags (s : Server) (uri : Uri) (text : String) :
    (s.keep uri text).flags = s.flags := by
  unfold keep; split <;> rfl

/-- To keep a document gives none a second place. -/
theorem Distinct.keep {s : Server} (h : s.Distinct) (uri : Uri) (text : String) :
    (s.keep uri text).Distinct := by
  unfold Distinct
  rw [addresses_keep]
  split
  · exact h
  · next hmem =>
      refine List.nodup_append.mpr ⟨h, by simp, ?_⟩
      intro a ha b hb hab
      rw [List.mem_singleton] at hb
      exact hmem (hb ▸ hab ▸ ha)

/-- To forget a document gives none a second place. -/
theorem Distinct.forget {s : Server} (h : s.Distinct) (uri : Uri) : (s.forget uri).Distinct :=
  List.Nodup.sublist (List.filter_sublist.map _) h

/-- **To keep a document** changes its text and no other. -/
theorem text?_keep {s : Server} (h : s.Distinct) (uri other : Uri) (text : String) :
    (s.keep uri text).text? other = if other.text = uri.text then some text else s.text? other := by
  apply Option.ext
  intro t
  rw [text?_eq_some_iff (h.keep uri text)]
  simp only [mem_keep]
  split
  · next heq =>
      rw [Option.some.injEq]
      constructor
      · rintro ⟨doc, rfl | ⟨-, hne⟩, haddress, htext⟩
        · exact htext
        · exact absurd (haddress.trans heq) hne
      · rintro rfl
        exact ⟨⟨uri, text⟩, .inl rfl, heq.symm, rfl⟩
  · next hne =>
      rw [text?_eq_some_iff h]
      constructor
      · rintro ⟨doc, rfl | ⟨hmem, -⟩, haddress, htext⟩
        · exact absurd haddress.symm hne
        · exact ⟨doc, hmem, haddress, htext⟩
      · rintro ⟨doc, hmem, haddress, htext⟩
        exact ⟨doc, .inr ⟨hmem, fun heq => hne (haddress.symm.trans heq)⟩, haddress, htext⟩

/-- **To forget a document** takes its text away and no other. -/
theorem text?_forget (s : Server) (uri other : Uri) :
    (s.forget uri).text? other = if other.text = uri.text then none else s.text? other := by
  unfold text? forget
  rw [List.find?_filter]
  split
  · next heq => simp [heq]
  · next hne =>
      congr 2
      funext d
      by_cases hd : d.uri.text = other.text
      · simp [hd, hne]
      · simp [hd]

/-! ## one pass -/

/-- What a pass publishes for a document whose root stays as the server remembers it, if the pass sees
the disk `d`: the findings in the document's text under the rules that this disk has for the root. -/
def resultFor (s : Server) (d : Disk) (doc : Document) : Publication :=
  ⟨doc.uri, (Config.check ⟨false, rulesFor d (s.settings.knownRoot? doc.uri) s.settings.base.rules⟩
    s.limit doc.text.toList).filterMap
      (Finding.toDiagnostic? doc.text.toList doc.uri s.flags.relatedInformation)⟩

/-- The result depends on the document's root, and on what never changes. -/
theorem resultFor_congr {s s' : Server} {doc : Document}
    (hroot : s'.settings.knownRoot? doc.uri = s.settings.knownRoot? doc.uri)
    (hbase : s'.settings.base = s.settings.base) (hlimit : s'.limit = s.limit)
    (hflags : s'.flags = s.flags) (d : Disk) : s'.resultFor d doc = s.resultFor d doc := by
  simp only [resultFor, hroot, hbase, hlimit, hflags]

/-- `ms` is a pass over a document after which the server is `s'`: at last it looks at the disk and
publishes the result, and it has published nothing before. -/
structure Passed (s : Server) (doc : Document) (ms : List Interaction) (s' : Server) : Prop where
  documents : s'.documents = s.documents
  ends : ∃ asks d, published asks = [] ∧
    ms = asks ++ [.looked d, .told (.publish (s'.resultFor d doc))]
  others : ∀ d other, other.uri.text ≠ doc.uri.text → s'.resultFor d other = s.resultFor d other

/-- To find out the folder publishes nothing. -/
theorem quietly_folderFor (s : Server) (uri : Uri) :
    (s.folderFor uri).Quietly fun _ => True := by
  unfold folderFor
  split
  · exact Dialogue.quietly_done trivial
  · exact Dialogue.quietly_ask (fun _ => Dialogue.quietly_done trivial) _

/-- **A pass over an open document.** -/
theorem passed_publish {s : Server} (doc : Document) (h : s.text? doc.uri = some doc.text)
    (w : Environment) (time : Nat) :
    s.Passed doc ((s.publish doc.uri).trace w time).interactions ((s.publish doc.uri).trace w time).value := by
  obtain ⟨uri, text⟩ := doc
  unfold publish
  simp only at h
  simp only [h, Dialogue.trace_bind, Trace.followedBy]
  generalize hfolder : (s.folderFor uri).trace w time = asked
  have hquiet : published asked.interactions = [] := hfolder ▸ (quietly_folderFor s uri w time).1
  simp only [Dialogue.trace, publishText]
  refine ⟨rfl, ⟨asked.interactions, w.disk asked.time, hquiet, ?_⟩, ?_⟩
  · -- the root that the pass used is the one that it leaves behind
    simp only [Settings.lint_fst, Settings.lint_snd, resultFor, Settings.knownRoot?_projectRoot,
      Settings.projectRoot_base, if_true, passOptions]
  · intro d other hne
    simp only [Settings.lint_snd, resultFor, Settings.knownRoot?_projectRoot, if_neg hne,
      Settings.projectRoot_base]

/-- **A pass over a document that is kept right before.** -/
theorem passed_keep {s : Server} (h : s.Distinct) (uri : Uri) (text : String) (w : Environment)
    (time : Nat) :
    (s.keep uri text).Passed ⟨uri, text⟩ (((s.keep uri text).publish uri).trace w time).interactions
      (((s.keep uri text).publish uri).trace w time).value := by
  have htext : (s.keep uri text).text? uri = some text := by
    rw [text?_keep h, if_pos rfl]
  exact passed_publish ⟨uri, text⟩ htext w time

/-- A pass publishes once, and for its document. -/
theorem Passed.published_uris {s s' : Server} {doc : Document} {ms : List Interaction}
    (h : s.Passed doc ms s') : (published ms).map (·.uri) = [doc.uri] := by
  obtain ⟨asks, d, hasks, rfl⟩ := h.ends
  rw [published_append, hasks]
  rfl

/-- So what a pass publishes is for its document. -/
theorem Passed.uri_of_mem {s s' : Server} {doc : Document} {ms : List Interaction}
    (h : s.Passed doc ms s') {p : Publication} (hp : p ∈ published ms) : p.uri = doc.uri := by
  have hu : p.uri ∈ [doc.uri] := h.published_uris ▸ List.mem_map_of_mem hp
  exact List.mem_singleton.mp hu

/-! ## the latest pass -/

/-- The latest that was published for a document, in all that happened, is the result of a pass over
it: of the disk that the pass saw right before. -/
def Current (log : List Interaction) (s : Server) (doc : Document) : Prop :=
  ∃ before d after, log = before ++ .looked d :: .told (.publish (s.resultFor d doc)) :: after ∧
    ∀ p ∈ published after, p.uri.text ≠ doc.uri.text

/-- What happens later makes no difference, as long as nothing is published for the document and its
root stays. -/
theorem Current.append {log ms : List Interaction} {s s' : Server} {doc : Document}
    (h : Current log s doc) (hms : ∀ p ∈ published ms, p.uri.text ≠ doc.uri.text)
    (hs : ∀ d, s'.resultFor d doc = s.resultFor d doc) : Current (log ++ ms) s' doc := by
  obtain ⟨before, d, after, rfl, hafter⟩ := h
  refine ⟨before, d, after ++ ms, by simp [hs], ?_⟩
  intro p hp
  rw [published_append, List.mem_append] at hp
  cases hp with
  | inl hp => exact hafter p hp
  | inr hp => exact hms p hp

/-- After a pass over it, a document is current. -/
theorem Passed.current {s s' : Server} {doc : Document} {ms : List Interaction}
    (h : s.Passed doc ms s') (log : List Interaction) : Current (log ++ ms) s' doc := by
  obtain ⟨asks, d, -, rfl⟩ := h.ends
  exact ⟨log ++ asks, d, [], by simp, by simp⟩

/-! ## passes over several documents -/

/-- `ms` are passes over some documents, one after the other, after which the server is `s'`. -/
structure Revalidated (s : Server) (docs : List Document) (ms : List Interaction) (s' : Server) :
    Prop where
  documents : s'.documents = s.documents
  uris : (published ms).map (·.uri) = docs.map (·.uri)
  current : ∀ log, ∀ doc ∈ docs, Current (log ++ ms) s' doc
  others : ∀ d other, (∀ doc ∈ docs, other.uri.text ≠ doc.uri.text) →
    s'.resultFor d other = s.resultFor d other

/-- What such passes publish is for one of the documents. -/
theorem Revalidated.exists_of_mem {s s' : Server} {docs : List Document} {ms : List Interaction}
    (h : s.Revalidated docs ms s') {p : Publication} (hp : p ∈ published ms) :
    ∃ doc ∈ docs, doc.uri = p.uri := by
  have hu : p.uri ∈ docs.map (·.uri) := h.uris ▸ List.mem_map_of_mem hp
  exact List.mem_map.mp hu

/-- The texts of documents depend on the documents only. -/
theorem text?_congr {s s' : Server} (h : s'.documents = s.documents) (uri : Uri) :
    s'.text? uri = s.text? uri := by
  simp only [text?, h]

/-- **Passes over several open documents** with different addresses. -/
theorem revalidated_publishAll {s : Server} {docs : List Document}
    (hdocs : (docs.map (·.uri.text)).Nodup) (h : ∀ doc ∈ docs, s.text? doc.uri = some doc.text)
    (w : Environment) (time : Nat) :
    s.Revalidated docs ((s.publishAll (docs.map (·.uri))).trace w time).interactions
      ((s.publishAll (docs.map (·.uri))).trace w time).value := by
  induction docs generalizing s time with
  | nil => exact ⟨rfl, rfl, by simp, fun _ _ _ => rfl⟩
  | cons doc rest ih =>
      rw [List.map_cons, List.nodup_cons] at hdocs
      obtain ⟨hdoc, hrest⟩ := hdocs
      have hne : ∀ other ∈ rest, doc.uri.text ≠ other.uri.text := fun other hmem heq =>
        hdoc (List.mem_map.mpr ⟨other, hmem, heq.symm⟩)
      have hpass := passed_publish doc (h doc List.mem_cons_self) w time
      simp only [List.map_cons, publishAll, Dialogue.trace_bind, Trace.followedBy]
      generalize (s.publish doc.uri).trace w time = first at hpass ⊢
      have hopen : ∀ other ∈ rest, first.value.text? other.uri = some other.text :=
        fun other hmem => by
          rw [text?_congr hpass.documents]
          exact h other (List.mem_cons_of_mem doc hmem)
      have hmore := ih hrest hopen first.time
      generalize (first.value.publishAll (rest.map (·.uri))).trace w first.time = more at hmore ⊢
      refine ⟨hmore.documents.trans hpass.documents, ?_, ?_, ?_⟩
      · rw [published_append, List.map_append, hpass.published_uris, hmore.uris]
        rfl
      · intro log other hmem
        rw [← List.append_assoc]
        rcases List.mem_cons.mp hmem with rfl | hmem
        · -- later passes are over other documents
          refine (hpass.current log).append ?_ fun d => hmore.others d other hne
          intro p hp heq
          obtain ⟨later, hlater, hlu⟩ := hmore.exists_of_mem hp
          exact hne later hlater (by rw [hlu, heq])
        · exact hmore.current (log ++ first.interactions) other hmem
      · intro d other hother
        rw [hmore.others d other fun later hl => hother later (List.mem_cons_of_mem doc hl)]
        exact hpass.others d other (hother doc List.mem_cons_self)

/-- **Passes over all open documents.** -/
theorem revalidated {s : Server} (h : s.Distinct) (w : Environment) (time : Nat) :
    s.Revalidated s.documents (s.revalidate.trace w time).interactions (s.revalidate.trace w time).value :=
  revalidated_publishAll h (fun _ hdoc => text?_of_mem h hdoc) w time

/-! ## what makes no difference to a pass -/

/-- Two servers that agree in all that a pass depends on. -/
structure Alike (s s' : Server) : Prop where
  documents : s'.documents = s.documents
  settings : s'.settings = s.settings
  limit : s'.limit = s.limit
  flags : s'.flags = s.flags

/-- A server is like itself. -/
theorem Alike.refl (s : Server) : s.Alike s := ⟨rfl, rfl, rfl, rfl⟩

/-- Servers that agree have the same documents, each once. -/
theorem Alike.distinct {s s' : Server} (h : s.Alike s') (hs : s.Distinct) : s'.Distinct := by
  simpa only [Distinct, addresses, h.documents] using hs

/-- Servers that agree give documents the same result. -/
theorem Alike.resultFor {s s' : Server} (h : s.Alike s') (d : Disk) (doc : Document) :
    s'.resultFor d doc = s.resultFor d doc :=
  resultFor_congr (by rw [h.settings]) (by rw [h.settings]) h.limit h.flags d

/-- What is published before passes counts, and nothing else that happens before them does. -/
theorem Revalidated.after {s s₁ s' : Server} {docs : List Document} {first ms : List Interaction}
    (h : s₁.Revalidated docs ms s') (alike : s.Alike s₁) (silent : published first = []) :
    s.Revalidated docs (first ++ ms) s' where
  documents := h.documents.trans alike.documents
  uris := by rw [published_append, silent, List.nil_append, h.uris]
  current log doc hdoc := by
    rw [← List.append_assoc]
    exact h.current (log ++ first) doc hdoc
  others d other hother := (h.others d other hother).trans (alike.resultFor d other)

/-- **To handle events** publishes nothing, and has a bearing on nothing but what is watched. -/
theorem quietly_takeEvents (s : Server) (changed : Bool) (events : List WatchEvent) :
    (s.takeEvents changed events).Quietly fun r => ∃ w, r.2 = { s with watcher := w } := by
  induction events generalizing s changed with
  | nil => exact Dialogue.quietly_done ⟨s.watcher, rfl⟩
  | cons e rest ih =>
      cases e with
      | configChanged path => exact ih s true
      | folderAppeared dir => exact Dialogue.quietly_look (fun d => ih (s.watchAlso d dir) _) _
      | failed reason => exact (ih s changed).log _ _

/-- A burst is its events and what follows them. -/
theorem trace_takeBurst {s : Server} {events : List WatchEvent} {w : Environment} {time : Nat}
    {heard : Trace (Bool × Server)} (h : (s.takeEvents false events).trace w time = heard) :
    (s.takeBurst events).trace w time =
      heard.followedBy ((heard.value.2.revalidateIf heard.value.1).trace w heard.time) := by
  rw [takeBurst, Dialogue.trace_bind, h]

/-- What follows the events is a check of all open documents, or nothing. -/
theorem revalidateIf_cases (s : Server) (changed : Bool) :
    (changed = true ∧ s.phase ≠ .exited) ∧ s.revalidateIf changed = s.revalidate ∨
      ¬(changed = true ∧ s.phase ≠ .exited) ∧ s.revalidateIf changed = .done s := by
  have hiff : (changed && s.phase != .exited) = true ↔ changed = true ∧ s.phase ≠ .exited := by simp
  by_cases h : (changed && s.phase != .exited) = true
  · exact .inl ⟨hiff.mp h, if_pos h⟩
  · exact .inr ⟨mt hiff.mpr h, if_neg h⟩

end Server

end LintServer
