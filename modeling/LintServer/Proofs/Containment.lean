import LintServer.Proofs.Addresses
import LintServer.Proofs.RootCalls

/-!
# Roots stay in the workspace

A root is found in the folder that the editor names at that moment, and is remembered for the text of
an address.  So what a call returns may have been found by another call, in a folder that the editor has
long given up, for another spelling of the address.  It still lies in a folder that was named, and
around the file of the call itself:

* `RootCalls.placed_run` — what a call searches, and what it has found, belongs to a folder that was named;
* `RootCalls.uris_run` — a call stays with the document that it began with;
* `RootCalls.placed_of_mem_offers` — so every root that is offered to the cache lies where it should, for some
  address of the same text, and that is the same file (`Uri.filePath?_eq_of_text_eq`).

The main statement is `RootCalls.roots_contained`.
-/

namespace LintServer

deriving instance DecidableEq for Call

/-- The document that a call is for. -/
def Call.uri : Call → Uri
  | .begun uri | .asking uri | .searching uri _ | .found uri _ | .returned uri _ => uri

/-- The document for which a call begins with a move. -/
def RootCalls.Move.begins? : RootCalls.Move → Option Uri
  | .call uri => some uri
  | _ => none

/-- What a call searches, or has found, belongs to one of some folders. -/
def Call.Placed (folders : List Path) : Call → Prop
  | .searching _ folder => folder ∈ folders
  | .found uri root => ∃ folder ∈ folders, RootBetween folder uri.filePath? root
  | _ => True

theorem Call.Placed.mono {folders more : List Path} {c : Call} (h : c.Placed folders)
    (hsub : folders ⊆ more) : c.Placed more := by
  cases c with
  | searching uri folder => exact hsub h
  | found uri root =>
      obtain ⟨folder, hmem, hroot⟩ := h
      exact ⟨folder, hsub hmem, hroot⟩
  | begun uri => trivial
  | asking uri => trivial
  | returned uri root => trivial

namespace RootCalls

/-! ## the folders that are named -/

/-- The folder that the editor names to a call with a move. -/
def answer? (r : RootCalls) : Move → Option Path
  | .advance i =>
    match r.calls[i]? with
    | some (.asking _) => r.folder
    | _ => none
  | _ => none

/-- The folders that the editor names to calls during moves, in order. -/
def answers (r : RootCalls) : List Move → List Path
  | [] => []
  | m :: rest => (r.answer? m).toList ++ (r.step m).answers rest

/-- Answers to moves after moves. -/
theorem answers_append (r : RootCalls) (moves more : List Move) :
    r.answers (moves ++ more) = r.answers moves ++ (r.run moves).answers more := by
  induction moves generalizing r with
  | nil => rfl
  | cons m rest ih =>
      rw [List.cons_append, answers, answers, ih, List.append_assoc]
      rfl

/-- **What one move keeps.** -/
theorem placed_step {r : RootCalls} {folders : List Path} (h : ∀ c ∈ r.calls, c.Placed folders) (m : Move) :
    ∀ c ∈ (r.step m).calls, c.Placed (folders ++ (r.answer? m).toList) := by
  intro c hc
  obtain ⟨i, hi⟩ := List.mem_iff_getElem?.mp hc
  have hstays {old : Call} (hold : r.calls[i]? = some old) :
      old.Placed (folders ++ (r.answer? m).toList) :=
    (h old (List.mem_of_getElem? hold)).mono (List.subset_append_left _ _)
  rcases calls_step hi with hold | ⟨uri, rfl⟩ | ⟨old, rfl, hold, hadv⟩
  · exact hstays hold
  · trivial
  · cases hadv with
    | known _ => trivial
    | unknown _ => trivial
    | folder hfolder => simp [Call.Placed, answer?, hold, hfolder]
    | noFolder _ => trivial
    | search => exact ⟨_, hstays hold, rootBetween_findRoot _ _ _ _⟩
    | offer => trivial
    | ended => trivial

/-- **What a run keeps.** -/
theorem placed_run {r : RootCalls} {folders : List Path} (h : ∀ c ∈ r.calls, c.Placed folders)
    (moves : List Move) : ∀ c ∈ (r.run moves).calls, c.Placed (folders ++ r.answers moves) := by
  induction moves generalizing r folders with
  | nil =>
      rw [answers, List.append_nil]
      exact h
  | cons m rest ih =>
      rw [answers, ← List.append_assoc]
      exact ih (placed_step h m)

/-! ## the documents of calls -/

theorem Advanced.uri_eq {r : RootCalls} {c c' : Call} (h : r.Advanced c c') : c'.uri = c.uri := by
  cases h <;> rfl

/-- A move leaves the calls with their documents, and may begin one more. -/
theorem uris_step (r : RootCalls) (m : Move) :
    (r.step m).calls.map Call.uri = r.calls.map Call.uri ++ m.begins?.toList := by
  cases m with
  | call uri => simp [step, Move.begins?, Call.uri]
  | change disk folder documents => simp [step, Move.begins?]
  | advance i =>
      simp only [step, Move.begins?, Option.toList_none, List.append_nil]
      cases hc : r.calls[i]? with
      | none => rfl
      | some c =>
          obtain ⟨hi, rfl⟩ := List.getElem?_eq_some_iff.mp hc
          have hlen : i < (r.calls.map Call.uri).length := by simpa using hi
          have hself := List.set_getElem_self hlen
          rw [List.getElem_map] at hself
          rw [List.map_set, (r.advanced_advance _).uri_eq, hself]

/-- **A call stays with its document.** -/
theorem uris_run (r : RootCalls) (moves : List Move) :
    (r.run moves).calls.map Call.uri = r.calls.map Call.uri ++ moves.filterMap Move.begins? := by
  induction moves generalizing r with
  | nil => simp [run]
  | cons m rest ih =>
      have hcons : (m :: rest).filterMap Move.begins? =
          m.begins?.toList ++ rest.filterMap Move.begins? := by
        cases h : m.begins? <;> simp [h]
      rw [run, List.foldl_cons, hcons, ← List.append_assoc, ← uris_step]
      exact ih (r.step m)

/-- A call in a run from the start began with one of the moves. -/
theorem mem_moves_of_mem_calls {settings : Settings} {disk : Disk} {folder : Option Path}
    {documents : List Document} {moves : List Move} {c : Call}
    (h : c ∈ ((start settings disk folder documents).run moves).calls) : .call c.uri ∈ moves := by
  have huri := List.mem_map_of_mem (f := Call.uri) h
  rw [uris_run] at huri
  obtain ⟨m, hm, hbegins⟩ := List.mem_filterMap.mp huri
  cases m with
  | call uri => exact Option.some.inj hbegins ▸ hm
  | advance i => simp [Move.begins?] at hbegins
  | change disk folder documents => simp [Move.begins?] at hbegins

/-! ## the roots that are offered -/

/-- A root that is offered was found by a call, which offers it with one of the moves. -/
theorem exists_found_of_mem_offers {r : RootCalls} {moves : List Move} {text : String} {root : Path}
    (h : (text, root) ∈ r.offers moves) :
    ∃ before after uri, moves = before ++ after ∧ uri.text = text ∧
      .found uri root ∈ (r.run before).calls := by
  induction moves generalizing r with
  | nil => simp [offers] at h
  | cons m rest ih =>
      rcases List.mem_append.mp h with hnow | hlater
      · have hoffer : r.offer? m = some (text, root) := by simpa using hnow
        unfold offer? at hoffer
        split at hoffer
        · split at hoffer
          · next hc =>
              obtain ⟨rfl, rfl⟩ := Prod.mk.inj (Option.some.inj hoffer)
              exact ⟨[], _, _, rfl, rfl, List.mem_of_getElem? hc⟩
          · simp at hoffer
        · simp at hoffer
      · obtain ⟨before, after, uri, rfl, htext, hfound⟩ := ih hlater
        exact ⟨m :: before, after, uri, rfl, htext, hfound⟩

/-- **Every root that is offered** lies in a folder that was named, and around the file of an address
for which a call began. -/
theorem placed_of_mem_offers {settings : Settings} {disk : Disk} {folder : Option Path}
    {documents : List Document} {moves : List Move} {text : String} {root : Path}
    (h : (text, root) ∈ (start settings disk folder documents).offers moves) :
    ∃ uri, .call uri ∈ moves ∧ uri.text = text ∧
      ∃ named ∈ (start settings disk folder documents).answers moves,
        RootBetween named uri.filePath? root := by
  obtain ⟨before, after, uri, rfl, htext, hfound⟩ := exists_found_of_mem_offers h
  have hplaced : ∀ c ∈ (start settings disk folder documents).calls, c.Placed [] := by
    simp [start]
  obtain ⟨named, hnamed, hroot⟩ := placed_run hplaced before _ hfound
  refine ⟨uri, List.mem_append_left _ (mem_moves_of_mem_calls hfound), htext, named, ?_, hroot⟩
  rw [answers_append]
  exact List.mem_append_left _ hnamed

/-- **Roots stay in the workspace**, however the steps of calls and the changes around them follow each
other.  Every root that is returned for a document lies inside a folder that the editor has named, and
around the directory of the document if that lies inside the same folder.  It is the folder itself for
a document that is no file or has no directory, one on a share, one below installed packages, and one
outside of the folder. -/
theorem roots_contained (settings : Settings) (disk : Disk) (folder : Option Path)
    (documents : List Document) (moves : List Move)
    (hread : ∀ uri, .call uri ∈ moves → ∃ t, Uri.parse t = .ok uri) :
    let first := start settings disk folder documents
    ∀ (i : Nat) (uri : Uri) (root : Path),
      (first.run moves).calls[i]? = some (.returned uri (some root)) →
      ∃ named ∈ first.answers moves, root.isWithin named = true ∧
        (∀ file dir, uri.filePath? = some file → file.parent? = some dir →
          dir.isWithin named = true → dir.isWithin root = true) ∧
        ((∀ file dir, uri.filePath? = some file → file.parent? = some dir →
          file.isNetworkShare = true ∨ file.isInPackages = true ∨ dir.isWithin named = false) →
          root = named) := by
  intro first i uri root hcall
  have hstart : first.Agreed := by
    intro i uri root hcall
    simp [first, start] at hcall
  -- the root was offered for the text of the address
  have hoffered : (uri.text, root) ∈ first.offers moves := by
    have hknown := hstart.run moves i uri root hcall
    rw [Settings.knownRoot?, roots_run_start, RootCache.get?_offerAll] at hknown
    obtain ⟨earlier, later, hoffers, -⟩ := List.lookup_eq_some_iff.mp hknown
    rw [hoffers]
    exact List.mem_append_right earlier List.mem_cons_self
  obtain ⟨other, hother, htext, named, hnamed, hroot⟩ := placed_of_mem_offers hoffered
  -- the text is that of this document too, so the file is the same
  obtain ⟨t, ht⟩ := hread uri (mem_moves_of_mem_calls (List.mem_of_getElem? hcall))
  obtain ⟨t', ht'⟩ := hread other hother
  rw [Uri.filePath?_eq_of_text_eq ht' ht htext] at hroot
  exact ⟨named, hnamed, hroot.inside, hroot.around, hroot.eq_folder⟩

/-- A root that is returned when the editor has turned to another folder and the disk is empty: it was
found in the first folder. -/
theorem root_of_earlier_folder :
    let uri : Uri := ⟨"file", some {}, .segments ["w", "a", "f.txt"], none, none⟩
    let project : Entry := .folder [("package.json".toUTF8.toList, .file [])]
    let disk : Disk := { root := [("w".toUTF8.toList, .folder [("a".toUTF8.toList, project)])] }
    let first := start {} disk (some (.ofString "/w")) []
    let moves := .call uri :: List.replicate 4 (.advance 0) ++
      .change {} (some (.ofString "/v")) [] :: .call uri :: List.replicate 4 (.advance 1)
    (∀ other, .call other ∈ moves → ∃ t, Uri.parse t = .ok other) ∧
    (first.run moves).calls[1]? = some (.returned uri (some (.ofString "/w/a"))) ∧
    ∃ named ∈ first.answers moves, (Path.ofString "/w/a").isWithin named = true ∧
      ∀ file dir, uri.filePath? = some file → file.parent? = some dir →
        dir.isWithin named = true → dir.isWithin (.ofString "/w/a") = true := by
  intro uri project disk first moves
  have hread : ∀ other, .call other ∈ moves → ∃ t, Uri.parse t = .ok other := by
    intro other hmem
    have hother : other = uri := by simpa [moves] using hmem
    exact ⟨"file:///w/./a/f.txt", hother ▸ rfl⟩
  have hcall : (first.run moves).calls[1]? = some (.returned uri (some (.ofString "/w/a"))) := by
    decide +kernel
  obtain ⟨named, hnamed, hinside, haround, -⟩ :=
    roots_contained {} disk (some (.ofString "/w")) [] moves hread 1 uri (.ofString "/w/a") hcall
  exact ⟨hread, hcall, named, hnamed, hinside, haround⟩

end RootCalls

end LintServer
