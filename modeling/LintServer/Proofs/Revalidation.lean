import Mathlib.Data.List.Perm.Basic
import LintServer.Proofs.Documents

/-!
# Passes in any order

When all open documents are checked, each pass may find a root and remember it, so every pass works with
what those before it have left.  While the disk stays as it is and the editor always answers the same,
that makes no difference.  A pass is told from the server as it was before all of them:

* `Server.sentFor` — what a pass over a document says;
* `Server.offerFor` — the root that it offers to the cache;
* `Server.run_publishAll` — so passes over some documents say and offer this, document by document.

For distinct documents the offers are for distinct addresses, and then their order does not matter to the
cache (`RootCache.entries_offerAll`, `RootCache.get?_offerAll_perm`).  The main statement is
`Server.revalidate_in_any_order`.
-/

namespace LintServer

/-! ## offers in any order -/

/-- In a list with distinct keys, the order does not matter. -/
theorem lookup_eq_of_perm {α β : Type} [BEq α] [LawfulBEq α] {xs ys : List (α × β)} (h : xs.Perm ys)
    (hkeys : (xs.map (·.1)).Nodup) (k : α) : xs.lookup k = ys.lookup k := by
  induction h with
  | nil => rfl
  | cons x _ ih =>
      obtain ⟨a, b⟩ := x
      rw [List.map_cons, List.nodup_cons] at hkeys
      rw [List.lookup_cons, List.lookup_cons, ih hkeys.2]
  | swap x y zs =>
      obtain ⟨a, b⟩ := x
      obtain ⟨a', b'⟩ := y
      have hne : a' ≠ a := fun heq => by simp [heq] at hkeys
      simp only [List.lookup_cons]
      by_cases ha : k = a
      · subst ha
        have ha' : (k == a') = false := by simpa using hne.symm
        simp [ha']
      · have hb : (k == a) = false := by simpa using ha
        simp [hb]
  | trans h₁ _ ih₁ ih₂ => rw [ih₁ hkeys, ih₂ ((h₁.map _).nodup_iff.mp hkeys)]

namespace RootCache

/-- **Offers for distinct documents** are added behind the others, as far as the documents have no root
yet. -/
theorem entries_offerAll (c : RootCache) {offers : List (String × Path)}
    (h : (offers.map (·.1)).Nodup) :
    (c.offerAll offers).entries =
      c.entries ++ offers.filter fun offer => (c.get? offer.1).isNone := by
  induction offers generalizing c with
  | nil => simp [offerAll]
  | cons offer rest ih =>
      rw [List.map_cons, List.nodup_cons] at h
      have hne : ∀ other ∈ rest, other.1 ≠ offer.1 := fun other hmem heq =>
        h.1 (heq ▸ List.mem_map_of_mem hmem)
      have hrest := ih (c.getOrInsert offer.1 offer.2).2 h.2
      -- the first offer changes nothing for the documents of the others
      have hfilter : (rest.filter fun other =>
            ((c.getOrInsert offer.1 offer.2).2.get? other.1).isNone) =
          rest.filter fun other => (c.get? other.1).isNone := by
        apply List.filter_congr
        intro other hmem
        rw [get?_getOrInsert, if_neg (hne other hmem)]
      rw [hfilter] at hrest
      rw [offerAll, List.foldl_cons]
      refine hrest.trans ?_
      cases hc : c.get? offer.1 with
      | some known => simp [getOrInsert_snd_of_some hc, hc]
      | none => simp [getOrInsert_snd_of_none hc, hc]

theorem size_offerAll_perm (c : RootCache) {offers offers' : List (String × Path)}
    (h : offers.Perm offers') (hkeys : (offers.map (·.1)).Nodup) :
    (c.offerAll offers).size = (c.offerAll offers').size := by
  rw [size, size, c.entries_offerAll hkeys, c.entries_offerAll ((h.map _).nodup_iff.mp hkeys)]
  exact ((h.filter _).append_left _).length_eq

/-- **The order of such offers does not matter** to what is remembered. -/
theorem get?_offerAll_perm (c : RootCache) {offers offers' : List (String × Path)}
    (h : offers.Perm offers') (hkeys : (offers.map (·.1)).Nodup) (uri : String) :
    (c.offerAll offers).get? uri = (c.offerAll offers').get? uri := by
  rw [get?_offerAll, get?_offerAll, lookup_eq_of_perm h hkeys]

end RootCache

/-! ## one pass -/

namespace Settings

/-- The root that is found for a document in a folder, as an offer to the cache. -/
def offer (s : Settings) (d : Disk) (uri : Uri) (folder : Path) : String × Path :=
  (uri.text, findRoot d folder uri.filePath? s.markers)

/-- **What asking for a root leaves behind**: the root in the folder was offered, if there is a folder. -/
theorem projectRoot_snd (s : Settings) (d : Disk) (folder : Option Path) (uri : Uri) :
    (s.projectRoot d folder uri).2 =
      { s with roots := s.roots.offerAll (folder.map (s.offer d uri)).toList } := by
  unfold projectRoot
  cases h : s.knownRoot? uri with
  | some root =>
      cases folder with
      | none => rfl
      | some folder =>
          have hkept := RootCache.getOrInsert_snd_of_some h (s.offer d uri folder).2
          simp only [Option.map_some, Option.toList_some, RootCache.offerAll, List.foldl_cons,
            List.foldl_nil]
          rw [show (s.offer d uri folder).1 = uri.text from rfl, hkept]
  | none =>
      cases folder with
      | none => rfl
      | some folder => rfl

/-- With a known root, the folder makes no difference. -/
theorem lint_of_known {s : Settings} {uri : Uri} (h : (s.knownRoot? uri).isSome = true) (d : Disk)
    (folder folder' : Option Path) (text : String) (o : PassOptions) :
    s.lint d folder uri text o = s.lint d folder' uri text o := by
  obtain ⟨root, hroot⟩ := Option.isSome_iff_exists.mp h
  simp only [lint, resolve, projectRoot, hroot]

end Settings

namespace Server

/-- The folder in which roots are looked for, if the editor always answers the same. -/
def folderHeard (s : Server) (editor : Question → Reply) : Option Path :=
  (if s.flags.configuration then (editor .workspaceFolder).folder? else none) <|> s.folder

/-- What a pass over a document says. -/
def sentFor (s : Server) (d : Disk) (editor : Question → Reply) (doc : Document) : List Dialogue.Sent :=
  (if (s.settings.knownRoot? doc.uri).isSome || !s.flags.configuration then []
    else [.question .workspaceFolder]) ++
  [.notice (.publish (s.settings.lint d (s.folderHeard editor) doc.uri doc.text s.passOptions).1)]

/-- The root that a pass over a document offers to the cache. -/
def offerFor (s : Server) (d : Disk) (editor : Question → Reply) (doc : Document) :
    Option (String × Path) :=
  (s.folderHeard editor).map (s.settings.offer d doc.uri)

/-- It is offered for the address of the document. -/
theorem address_of_offerFor {s : Server} {d : Disk} {editor : Question → Reply} {doc : Document}
    {offer : String × Path} (h : s.offerFor d editor doc = some offer) : offer.1 = doc.uri.text := by
  obtain ⟨folder, -, rfl⟩ := Option.map_eq_some_iff.mp h
  rfl

/-- The server after some roots were offered. -/
def offered (s : Server) (offers : List (String × Path)) : Server :=
  { s with settings := { s.settings with roots := s.settings.roots.offerAll offers } }

/-- To find out the folder: nobody is asked if the root is known, or if the editor does not answer. -/
theorem run_folderFor (s : Server) (d : Disk) (editor : Question → Reply) (uri : Uri) :
    (s.folderFor uri).run d editor =
      if (s.settings.knownRoot? uri).isSome || !s.flags.configuration then ([], s.folder)
      else ([.question .workspaceFolder], s.folderHeard editor) := by
  unfold folderFor
  split
  · rfl
  · next hask =>
      have hflag : s.flags.configuration = true := by
        rw [Bool.or_eq_true, not_or] at hask
        simpa using hask.2
      simp [Dialogue.run, folderHeard, hflag]

/-- **A pass over an open document.** -/
theorem run_publish {s : Server} {doc : Document} (h : s.text? doc.uri = some doc.text) (d : Disk)
    (editor : Question → Reply) :
    (s.publish doc.uri).run d editor =
      (s.sentFor d editor doc, s.offered (s.offerFor d editor doc).toList) := by
  have hlint : s.settings.lint d ((s.folderFor doc.uri).run d editor).2 doc.uri doc.text s.passOptions =
      s.settings.lint d (s.folderHeard editor) doc.uri doc.text s.passOptions := by
    rw [run_folderFor]
    split
    · next hskip =>
        rcases Bool.or_eq_true_iff.mp hskip with hknown | hflag
        · exact Settings.lint_of_known hknown ..
        · have hflag' : s.flags.configuration = false := by simpa using hflag
          simp [folderHeard, hflag']
    · rfl
  have hsnd := Settings.lint_snd s.settings d (s.folderHeard editor) doc.uri doc.text s.passOptions
  rw [Settings.projectRoot_snd] at hsnd
  simp only [publish, h, Dialogue.run_bind, Dialogue.run, publishText, hlint, hsnd, sentFor, offered,
    offerFor]
  rw [run_folderFor]
  split <;> rfl

/-! ## passes over several documents -/

/-- Offers after offers. -/
theorem offered_offered (s : Server) (offers more : List (String × Path)) :
    (s.offered offers).offered more = s.offered (offers ++ more) := by
  simp only [offered, RootCache.offerAll_append]

/-- The root of a document does not depend on offers for others. -/
theorem knownRoot?_offered {s : Server} {uri : Uri} {offers : List (String × Path)}
    (h : ∀ offer ∈ offers, offer.1 ≠ uri.text) :
    (s.offered offers).settings.knownRoot? uri = s.settings.knownRoot? uri := by
  have hnone : offers.lookup uri.text = none := by
    rw [List.lookup_eq_none_iff]
    intro offer hoffer
    simpa using (h offer hoffer).symm
  simp only [offered, Settings.knownRoot?, RootCache.get?_offerAll, hnone, Option.or_none]

/-- Neither does what a pass over it says. -/
theorem sentFor_offered {s : Server} {doc : Document} {offers : List (String × Path)}
    (h : ∀ offer ∈ offers, offer.1 ≠ doc.uri.text) (d : Disk) (editor : Question → Reply) :
    (s.offered offers).sentFor d editor doc = s.sentFor d editor doc := by
  have hroot := knownRoot?_offered (s := s) h
  simp only [sentFor, Settings.lint_fst, Settings.rootWith, hroot]
  rfl

/-- **Passes over several open documents** with different addresses: each says and offers what it would
by itself. -/
theorem run_publishAll {s : Server} {docs : List Document} (hdocs : (docs.map (·.uri.text)).Nodup)
    (h : ∀ doc ∈ docs, s.text? doc.uri = some doc.text) (d : Disk) (editor : Question → Reply) :
    (s.publishAll (docs.map (·.uri))).run d editor =
      (docs.flatMap (s.sentFor d editor), s.offered (docs.filterMap (s.offerFor d editor))) := by
  induction docs generalizing s with
  | nil => rfl
  | cons doc rest ih =>
      rw [List.map_cons, List.nodup_cons] at hdocs
      rw [List.forall_mem_cons] at h
      have hrest := ih (s := s.offered (s.offerFor d editor doc).toList) hdocs.2 h.2
      -- the pass over the first document offers a root for its address only
      have hsent : rest.flatMap ((s.offered (s.offerFor d editor doc).toList).sentFor d editor) =
          rest.flatMap (s.sentFor d editor) := by
        apply List.flatMap_congr
        intro other hmem
        apply sentFor_offered
        intro offer hoffer heq
        have hdoc := address_of_offerFor (Option.mem_toList.mp hoffer)
        exact hdocs.1 (List.mem_map.mpr ⟨other, hmem, heq.symm.trans hdoc⟩)
      rw [hsent, offered_offered] at hrest
      rw [List.map_cons, publishAll, Dialogue.run_bind, run_publish h.1, hrest, List.flatMap_cons]
      congr 2
      cases hoffer : s.offerFor d editor doc with
      | none => simp [hoffer]; rfl
      | some offer => simp [hoffer]; rfl

/-- A pass publishes once, and for its document. -/
theorem publications_sentFor (s : Server) (d : Disk) (editor : Question → Reply) (doc : Document) :
    (publications (s.sentFor d editor doc)).map (·.uri) = [doc.uri] := by
  unfold sentFor
  split <;> rfl

/-- Passes publish once for each document, in order. -/
theorem publications_flatMap_sentFor (s : Server) (d : Disk) (editor : Question → Reply)
    (docs : List Document) :
    (publications (docs.flatMap (s.sentFor d editor))).map (·.uri) = docs.map (·.uri) := by
  induction docs with
  | nil => rfl
  | cons doc rest ih =>
      have hfirst := s.publications_sentFor d editor doc
      rw [publications] at ih hfirst
      rw [publications, List.flatMap_cons, List.filterMap_append, List.map_append, hfirst, ih]
      rfl

/-- Passes over documents with different addresses offer roots for different addresses. -/
theorem nodup_offers (s : Server) (d : Disk) (editor : Question → Reply) {docs : List Document}
    (h : (docs.map (·.uri.text)).Nodup) :
    ((docs.filterMap (s.offerFor d editor)).map (·.1)).Nodup := by
  rw [List.Nodup, List.pairwise_map] at h ⊢
  refine h.filterMap _ ?_
  intro doc doc' hne offer hoffer offer' hoffer'
  rwa [address_of_offerFor hoffer, address_of_offerFor hoffer']

/-! ## the main statement -/

/-- Any order of the addresses is that of the documents in some order. -/
theorem exists_documents_of_perm {docs : List Document} {uris : List Uri}
    (h : uris.Perm (docs.map (·.uri))) :
    ∃ others : List Document, others.Perm docs ∧ uris = others.map (·.uri) := by
  have hdocs : List.Forall₂ (fun uri doc => uri = Document.uri doc) (docs.map (·.uri)) docs := by
    rw [List.forall₂_map_left_iff, List.forall₂_same]
    simp
  obtain ⟨others, hothers, hperm⟩ := List.perm_comp_forall₂ h hdocs
  refine ⟨others, hperm, ?_⟩
  rw [← List.forall₂_eq_eq_eq, List.forall₂_map_right_iff]
  exact hothers

/-- **The order of documents does not matter** when all of them are checked, while the disk stays as it is
and the editor always answers the same.  In any order of the open documents exactly one list is published
for each of them, and the lists are the same; afterwards the same roots are remembered and the same
documents are open, and nothing else differs. -/
theorem revalidate_in_any_order (s : Server) (hs : s.Distinct) (d : Disk) (editor : Question → Reply)
    (uris : List Uri) (h : uris.Perm (s.documents.map (·.uri))) :
    let now := s.revalidate.run d editor
    let other := (s.publishAll uris).run d editor
    (publications other.1).map (·.uri) = uris ∧
      (publications other.1).Perm (publications now.1) ∧
      (∀ uri, other.2.settings.roots.get? uri = now.2.settings.roots.get? uri) ∧
      other.2.settings.roots.size = now.2.settings.roots.size ∧
      now.2.documents = s.documents ∧
      other.2 = { now.2 with settings := { now.2.settings with roots := other.2.settings.roots } } := by
  intro now other
  obtain ⟨docs, hperm, rfl⟩ := exists_documents_of_perm h
  have hdocs : (docs.map (·.uri.text)).Nodup := (hperm.map _).nodup_iff.mpr hs
  have hopen : ∀ doc ∈ s.documents, s.text? doc.uri = some doc.text := fun doc => text?_of_mem hs
  have hnow : now = _ := run_publishAll hs hopen d editor
  have hother : other = _ :=
    run_publishAll hdocs (fun doc hdoc => hopen doc (hperm.mem_iff.mp hdoc)) d editor
  have hoffers := hperm.filterMap (s.offerFor d editor)
  have hkeys := s.nodup_offers d editor hdocs
  rw [hnow, hother]
  refine ⟨s.publications_flatMap_sentFor d editor docs, ?_, ?_, ?_, rfl, rfl⟩
  · exact (hperm.flatMap_right _).filterMap _
  · exact s.settings.roots.get?_offerAll_perm hoffers hkeys
  · exact s.settings.roots.size_offerAll_perm hoffers hkeys

/-- Two documents in the other order, one with a root that is remembered and one whose root is found. -/
theorem revalidate_swapped_documents :
    let a : Uri := ⟨"file", some {}, .segments ["ws", "a"], none, none⟩
    let b : Uri := ⟨"file", some {}, .segments ["ws", "sub", "b"], none, none⟩
    let s : Server :=
      { documents := [⟨a, "x"⟩, ⟨b, "y"⟩], flags := ⟨true, false, false, false⟩, phase := .running,
        settings := ⟨Marker.defaults, {}, ⟨[(a.text, .ofString "/old")]⟩⟩ }
    let sub : Entry := .folder [(configFileName.toUTF8.toList, .file [])]
    let d : Disk := { root := [("ws".toUTF8.toList, .folder [("sub".toUTF8.toList, sub)])] }
    let editor : Question → Reply := fun _ => .result (.arr [.str "/ws"])
    (publications ((s.publishAll [b, a]).run d editor).1).map (·.uri) = [b, a] ∧
      (publications ((s.publishAll [b, a]).run d editor).1).Perm
        (publications (s.revalidate.run d editor).1) ∧
      ((s.publishAll [b, a]).run d editor).2.settings.roots.get? a.text = some (.ofString "/old") ∧
      ((s.publishAll [b, a]).run d editor).2.settings.roots.get? b.text = some (.ofString "/ws/sub") := by
  intro a b s sub d editor
  have hs : s.Distinct := by
    unfold Distinct addresses
    decide +kernel
  obtain ⟨huris, hsets, hroots, -⟩ := revalidate_in_any_order s hs d editor [b, a] (.swap ..)
  refine ⟨huris, hsets, ?_, ?_⟩
  · rw [hroots]
    decide +kernel
  · rw [hroots]
    decide +kernel

end Server

end LintServer
