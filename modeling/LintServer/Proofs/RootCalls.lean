import LintServer.Proofs.Roots
import LintServer.Server.Basic

/-!
# Calls for roots that run at the same time

A call for the root of a document (`Settings.projectRoot`) takes several steps: it looks whether a root
is remembered, waits for the folder that the editor names, searches the disk, and offers what it found
to the cache.  Between any two of these steps other calls may take theirs, and the disk, the folder
and the open documents may change.

* `RootCalls.advance` — the next step of a call; a call that nobody disturbs does what
  `Settings.projectRoot` does (`run_undisturbed`);
* `RootCalls.advanced_advance` — what such a step can make of a call, said once;
* `RootCalls.settings_run` — all that a run does to the cache is to offer the roots that were found;
* `RootCalls.Agreed.run` — so a call that has returned a root keeps agreeing with the cache.

The main statement is `RootCalls.roots_write_once`.
-/

namespace LintServer

/-! ## calls -/

/-- How far a call for the root of a document is. -/
inductive Call where
  /-- It has not looked into the cache yet. -/
  | begun (uri : Uri)
  /-- No root was remembered, and the editor is asked for the folder. -/
  | asking (uri : Uri)
  /-- The editor has named a folder. -/
  | searching (uri : Uri) (folder : Path)
  /-- A root was found, which was not offered to the cache yet. -/
  | found (uri : Uri) (root : Path)
  | returned (uri : Uri) (root : Option Path)

/-- The call has looked for the root of a document in vain, and has no folder. -/
def Call.Missed (uri : Uri) (c : Call) : Prop := c = .asking uri ∨ c = .returned uri none

/-- Calls that run at the same time, and all around them. -/
structure RootCalls where
  settings : Settings
  disk : Disk
  /-- What the editor answers at the moment. -/
  folder : Option Path
  documents : List Document
  calls : List Call

/-- What may happen next. -/
inductive RootCalls.Move where
  /-- A call begins. -/
  | call (uri : Uri)
  /-- The call with a number takes its next step. -/
  | advance (i : Nat)
  /-- Everything around the calls changes. -/
  | change (disk : Disk) (folder : Option Path) (documents : List Document)

namespace RootCalls

/-- A call after its next step, and the settings after it. -/
def advance (r : RootCalls) : Call → Call × Settings
  | .begun uri =>
    match r.settings.knownRoot? uri with
    | some root => (.returned uri (some root), r.settings)
    | none => (.asking uri, r.settings)
  | .asking uri =>
    match r.folder with
    | some folder => (.searching uri folder, r.settings)
    | none => (.returned uri none, r.settings)
  | .searching uri folder =>
    (.found uri (findRoot r.disk folder uri.filePath? r.settings.markers), r.settings)
  | .found uri root =>
    let (root, roots) := r.settings.roots.getOrInsert uri.text root
    (.returned uri (some root), { r.settings with roots })
  | .returned uri root => (.returned uri root, r.settings)

/-- What is there after a move. -/
def step (r : RootCalls) : Move → RootCalls
  | .call uri => { r with calls := r.calls ++ [.begun uri] }
  | .advance i =>
    match r.calls[i]? with
    | none => r
    | some c => { r with settings := (r.advance c).2, calls := r.calls.set i (r.advance c).1 }
  | .change disk folder documents => { r with disk, folder, documents }

/-- What is there after some moves. -/
def run (r : RootCalls) (moves : List Move) : RootCalls := moves.foldl step r

/-- What is there when no root is remembered and no call has begun. -/
def start (settings : Settings) (disk : Disk) (folder : Option Path) (documents : List Document) : RootCalls :=
  ⟨{ settings with roots := {} }, disk, folder, documents, []⟩

/-- The root that a move offers to the cache, and the document for which it does. -/
def offer? (r : RootCalls) : Move → Option (String × Path)
  | .advance i =>
    match r.calls[i]? with
    | some (.found uri root) => some (uri.text, root)
    | _ => none
  | _ => none

/-- The roots that moves offer to the cache, in order. -/
def offers (r : RootCalls) : List Move → List (String × Path)
  | [] => []
  | m :: rest => (r.offer? m).toList ++ (r.step m).offers rest

/-- Moves after moves. -/
theorem run_append (r : RootCalls) (moves more : List Move) :
    r.run (moves ++ more) = (r.run moves).run more := List.foldl_append

/-- **A call that nobody disturbs** does what `Settings.projectRoot` does. -/
theorem run_undisturbed (r : RootCalls) (uri : Uri) :
    (r.run (.call uri :: List.replicate 4 (.advance r.calls.length))).calls =
        r.calls ++ [.returned uri (r.settings.projectRoot r.disk r.folder uri).1] ∧
      (r.run (.call uri :: List.replicate 4 (.advance r.calls.length))).settings =
        (r.settings.projectRoot r.disk r.folder uri).2 := by
  obtain ⟨settings, disk, folder, documents, calls⟩ := r
  simp only [run, List.replicate, List.foldl_cons, List.foldl_nil, step, List.getElem?_concat_length,
    Settings.projectRoot]
  cases hknown : settings.knownRoot? uri with
  | some root => simp [advance, hknown]
  | none =>
      cases folder with
      | none => simp [advance, hknown]
      | some folder => simp [advance, hknown, Settings.placeRoot]

/-! ## the cache -/

/-- **What a move does to the settings**: it offers a root to the cache, or nothing. -/
theorem settings_step (r : RootCalls) (m : Move) :
    (r.step m).settings =
      { r.settings with roots := r.settings.roots.offerAll (r.offer? m).toList } := by
  cases m with
  | call uri => rfl
  | change disk folder documents => rfl
  | advance i =>
      simp only [step, offer?]
      cases r.calls[i]? with
      | none => rfl
      | some c =>
          cases c with
          | begun uri =>
              simp only [advance]
              cases r.settings.knownRoot? uri <;> rfl
          | asking uri =>
              simp only [advance]
              cases r.folder <;> rfl
          | searching uri folder => rfl
          | found uri root => rfl
          | returned uri root => rfl

/-- **What a run does to the settings**: it offers the roots that were found to the cache, one after
the other. -/
theorem settings_run (r : RootCalls) (moves : List Move) :
    (r.run moves).settings =
      { r.settings with roots := r.settings.roots.offerAll (r.offers moves) } := by
  induction moves generalizing r with
  | nil => rfl
  | cons m rest ih =>
      rw [run, List.foldl_cons, offers, RootCache.offerAll_append]
      refine (ih (r.step m)).trans ?_
      rw [settings_step]

/-- A root that is remembered stays. -/
theorem get?_run_of_some {r : RootCalls} {uri : String} {root : Path}
    (h : r.settings.roots.get? uri = some root) (moves : List Move) :
    (r.run moves).settings.roots.get? uri = some root := by
  rw [settings_run, RootCache.get?_offerAll, h, Option.some_or]

/-- **After a run from the start** the cache has the roots that were offered, the first for each
document. -/
theorem roots_run_start (settings : Settings) (disk : Disk) (folder : Option Path)
    (documents : List Document) (moves : List Move) :
    ((start settings disk folder documents).run moves).settings.roots =
      RootCache.offerAll {} ((start settings disk folder documents).offers moves) := by
  rw [settings_run]
  rfl

/-! ## the calls -/

/-- What the next step of a call may make of it, and when. -/
inductive Advanced (r : RootCalls) : Call → Call → Prop
  | known {uri root} (h : r.settings.knownRoot? uri = some root) :
      Advanced r (.begun uri) (.returned uri (some root))
  | unknown {uri} (h : r.settings.knownRoot? uri = none) : Advanced r (.begun uri) (.asking uri)
  | folder {uri folder} (h : r.folder = some folder) :
      Advanced r (.asking uri) (.searching uri folder)
  | noFolder {uri} (h : r.folder = none) : Advanced r (.asking uri) (.returned uri none)
  | search {uri folder} :
      Advanced r (.searching uri folder)
        (.found uri (findRoot r.disk folder uri.filePath? r.settings.markers))
  /-- What is returned is what the cache has, and only else what was found. -/
  | offer {uri root} :
      Advanced r (.found uri root)
        (.returned uri (some ((r.settings.knownRoot? uri).getD root)))
  | ended {uri root} : Advanced r (.returned uri root) (.returned uri root)

/-- **Every step of a call** is one of these. -/
theorem advanced_advance (r : RootCalls) (c : Call) : r.Advanced c (r.advance c).1 := by
  cases c with
  | begun uri =>
      simp only [advance]
      cases h : r.settings.knownRoot? uri with
      | none => exact .unknown h
      | some root => exact .known h
  | asking uri =>
      simp only [advance]
      cases h : r.folder with
      | none => exact .noFolder h
      | some folder => exact .folder h
  | searching uri folder => exact .search
  | found uri root =>
      simp only [advance, RootCache.getOrInsert_fst]
      exact .offer
  | returned uri root => exact .ended

/-- **What a move does to a call**: nothing, or it begins the call, or it is the call's next step. -/
theorem calls_step {r : RootCalls} {m : Move} {i : Nat} {c : Call}
    (h : (r.step m).calls[i]? = some c) :
    r.calls[i]? = some c ∨ (∃ uri, c = .begun uri) ∨
      ∃ old, m = .advance i ∧ r.calls[i]? = some old ∧ r.Advanced old c := by
  cases m with
  | change disk folder documents => exact .inl h
  | call uri =>
      simp only [step] at h
      by_cases hi : i < r.calls.length
      · rw [List.getElem?_append_left hi] at h
        exact .inl h
      · rw [List.getElem?_append_right (Nat.le_of_not_lt hi)] at h
        exact .inr (.inl ⟨uri, List.mem_singleton.mp (List.mem_of_getElem? h)⟩)
  | advance j =>
      simp only [step] at h
      cases hj : r.calls[j]? with
      | none =>
          simp only [hj] at h
          exact .inl h
      | some old =>
          simp only [hj] at h
          by_cases hij : j = i
          · subst hij
            have hlt : j < r.calls.length := (List.getElem?_eq_some_iff.mp hj).1
            rw [List.getElem?_set_self hlt, Option.some.injEq] at h
            exact .inr (.inr ⟨old, rfl, hj, h ▸ r.advanced_advance old⟩)
          · rw [List.getElem?_set_ne hij] at h
            exact .inl h

/-- A call that takes its next step is what that step makes of it. -/
theorem calls_step_advance {r : RootCalls} {i : Nat} {c : Call} (h : r.calls[i]? = some c) :
    (r.step (.advance i)).calls[i]? = some (r.advance c).1 := by
  have hlt : i < r.calls.length := (List.getElem?_eq_some_iff.mp h).1
  simp only [step, h]
  exact List.getElem?_set_self hlt

/-- What a call has returned stays. -/
theorem calls_step_of_returned {r : RootCalls} {i : Nat} {uri : Uri} {root : Option Path}
    (h : r.calls[i]? = some (.returned uri root)) (m : Move) :
    (r.step m).calls[i]? = some (.returned uri root) := by
  have hlt : i < r.calls.length := (List.getElem?_eq_some_iff.mp h).1
  cases m with
  | change disk folder documents => exact h
  | call other =>
      simp only [step]
      rw [List.getElem?_append_left hlt]
      exact h
  | advance j =>
      by_cases hij : j = i
      · subst hij
        exact calls_step_advance h
      · simp only [step]
        split
        · exact h
        · rw [List.getElem?_set_ne hij]
          exact h

theorem calls_run_of_returned {r : RootCalls} {i : Nat} {uri : Uri} {root : Option Path}
    (h : r.calls[i]? = some (.returned uri root)) (moves : List Move) :
    (r.run moves).calls[i]? = some (.returned uri root) := by
  induction moves generalizing r with
  | nil => exact h
  | cons m rest ih => exact ih (calls_step_of_returned h m)

/-! ## calls that return a root -/

/-- Every call that has returned a root has returned the one that is remembered. -/
def Agreed (r : RootCalls) : Prop :=
  ∀ (i : Nat) (uri : Uri) (root : Path), r.calls[i]? = some (.returned uri (some root)) →
    r.settings.knownRoot? uri = some root

/-- **What one move keeps.**  What a call found itself does not matter: it returns what the cache has
after its offer. -/
theorem Agreed.step {r : RootCalls} (h : r.Agreed) (m : Move) : (r.step m).Agreed := by
  intro i uri root hcall
  have hstays : r.settings.knownRoot? uri = some root →
      (r.step m).settings.knownRoot? uri = some root := fun hknown =>
    get?_run_of_some hknown [m]
  rcases calls_step hcall with hold | ⟨other, hc⟩ | ⟨old, rfl, hold, hadv⟩
  · exact hstays (h i uri root hold)
  · exact Call.noConfusion hc
  · cases hadv with
    | known hknown => exact hstays hknown
    | @offer _ found =>
        simp only [Settings.knownRoot?, settings_step, offer?, hold, Option.toList_some,
          RootCache.get?_offerAll]
        cases r.settings.roots.get? uri.text <;> simp
    | ended => exact hstays (h i uri root hold)

/-- **What a run keeps.** -/
theorem Agreed.run {r : RootCalls} (h : r.Agreed) (moves : List Move) : (r.run moves).Agreed := by
  induction moves generalizing r with
  | nil => exact h
  | cons m rest ih => exact ih (h.step m)

/-! ## calls that return none -/

/-- A call that has no folder got into this state by its last move: it was in it before, or it has just
looked for the root in vain. -/
theorem missed_step {r : RootCalls} {m : Move} {i : Nat} {uri : Uri} {c : Call}
    (h : (r.step m).calls[i]? = some c) (hc : c.Missed uri) :
    (∃ old : Call, r.calls[i]? = some old ∧ old.Missed uri) ∨
      (m = .advance i ∧ r.calls[i]? = some (.begun uri) ∧ r.settings.knownRoot? uri = none) := by
  rcases calls_step h with hold | ⟨other, rfl⟩ | ⟨old, rfl, hold, hadv⟩
  · exact .inl ⟨c, hold, hc⟩
  · exact absurd hc (by simp [Call.Missed])
  · rcases hc with rfl | rfl
    · cases hadv with
      | unknown hnone => exact .inr ⟨rfl, hold, hnone⟩
    · cases hadv with
      | noFolder _ => exact .inl ⟨.asking uri, hold, .inl rfl⟩
      | ended => exact .inl ⟨.returned uri none, hold, .inr rfl⟩

/-- **A call without a folder** was in this state from the beginning, or at some move it looked for the
root of its document, which was not remembered then. -/
theorem exists_lookup_of_missed {r : RootCalls} {moves : List Move} {i : Nat} {uri : Uri} {c : Call}
    (h : (r.run moves).calls[i]? = some c) (hc : c.Missed uri) :
    (∃ old : Call, r.calls[i]? = some old ∧ old.Missed uri) ∨
      ∃ before after, moves = before ++ .advance i :: after ∧
        (r.run before).calls[i]? = some (.begun uri) ∧
        (r.run before).settings.knownRoot? uri = none := by
  induction moves generalizing r with
  | nil => exact .inl ⟨c, h, hc⟩
  | cons m rest ih =>
      rcases ih h with ⟨old, hold, hmissed⟩ | ⟨before, after, rfl, hbegun, hnone⟩
      · rcases missed_step hold hmissed with hfirst | ⟨rfl, hbegun, hnone⟩
        · exact .inl hfirst
        · exact .inr ⟨[], rest, rfl, hbegun, hnone⟩
      · exact .inr ⟨m :: before, after, rfl, hbegun, hnone⟩

/-- **A call that returns none leaves the cache as it is**: none of its steps offers anything. -/
theorem roots_step_of_returned_none {r : RootCalls} {i : Nat} {uri : Uri} {after : List Move}
    (h : ((r.step (.advance i)).run after).calls[i]? = some (.returned uri none)) :
    (r.step (.advance i)).settings.roots = r.settings.roots := by
  have hoffer : r.offer? (.advance i) = none := by
    cases hc : r.calls[i]? with
    | none => simp [offer?, hc]
    | some c =>
        cases c with
        | found other root =>
            -- such a call would have returned a root, and still would
            have hreturned := calls_run_of_returned (calls_step_advance hc) after
            rw [h, Option.some.injEq, Call.returned.injEq] at hreturned
            exact absurd hreturned.2 (by simp)
        | _ => simp [offer?, hc]
  rw [settings_step, hoffer]
  rfl

/-! ## the main statement -/

/-- **Roots are written once**, however the steps of calls and the changes around them follow each
other, from a start with no remembered roots and no calls:

* the cache has the roots that were offered first, and every call that returns a root returns that
  one, so that two calls for a document agree;
* a call that gets no folder returns none; a call that returns none found no root remembered when it
  looked, and none of its steps changes the cache;
* a root that is remembered is so ever after;
* there are as many entries as documents for which a root was offered. -/
theorem roots_write_once (settings : Settings) (disk : Disk) (folder : Option Path)
    (documents : List Document) (moves : List Move) :
    let first := start settings disk folder documents
    let last := first.run moves
    (∀ uri, last.settings.roots.get? uri = (first.offers moves).lookup uri) ∧
    (∀ (i : Nat) (uri : Uri) (root : Path), last.calls[i]? = some (.returned uri (some root)) →
      (first.offers moves).lookup uri.text = some root) ∧
    (∀ (i j : Nat) (uri other : Uri) (root root' : Path), uri.text = other.text →
      last.calls[i]? = some (.returned uri (some root)) →
      last.calls[j]? = some (.returned other (some root')) → root = root') ∧
    (∀ (i : Nat) (uri : Uri) before after, moves = before ++ .advance i :: after →
      (first.run before).calls[i]? = some (.asking uri) → (first.run before).folder = none →
      last.calls[i]? = some (.returned uri none)) ∧
    (∀ (i : Nat) (uri : Uri), last.calls[i]? = some (.returned uri none) →
      (∃ before after, moves = before ++ .advance i :: after ∧
        (first.run before).calls[i]? = some (.begun uri) ∧
        (first.run before).settings.knownRoot? uri = none) ∧
      ∀ before after, moves = before ++ .advance i :: after →
        (first.run (before ++ [.advance i])).settings.roots = (first.run before).settings.roots) ∧
    (∀ before after, moves = before ++ after → ∀ uri root,
      (first.run before).settings.roots.get? uri = some root →
      last.settings.roots.get? uri = some root) ∧
    last.settings.roots.size = ((first.offers moves).map (·.1)).eraseDups.length := by
  intro first last
  have hroots : last.settings.roots = RootCache.offerAll {} (first.offers moves) :=
    roots_run_start settings disk folder documents moves
  have hcache : ∀ uri, last.settings.roots.get? uri = (first.offers moves).lookup uri := by
    intro uri
    rw [hroots, RootCache.get?_offerAll]
    exact Option.none_or
  have hstart : first.Agreed := by
    intro i uri root hcall
    simp [first, start] at hcall
  have hreturned : ∀ (i : Nat) (uri : Uri) (root : Path),
      last.calls[i]? = some (.returned uri (some root)) →
      (first.offers moves).lookup uri.text = some root := by
    intro i uri root hcall
    rw [← hcache]
    exact hstart.run moves i uri root hcall
  -- the run, cut at a step of a call
  have hcut : ∀ {i : Nat} {before after : List Move}, moves = before ++ .advance i :: after →
      last = ((first.run before).step (.advance i)).run after := by
    intro i before after hmoves
    simp only [last, hmoves, run_append]
    rfl
  refine ⟨hcache, hreturned, ?_, ?_, ?_, ?_, ?_⟩
  · intro i j uri other root root' hsame hi hj
    have hroot := hreturned i uri root hi
    rw [hsame, hreturned j other root' hj, Option.some.injEq] at hroot
    exact hroot.symm
  · intro i uri before after hmoves hasking hnone
    have hnow := calls_step_advance hasking
    simp only [advance, hnone] at hnow
    rw [hcut hmoves]
    exact calls_run_of_returned hnow after
  · intro i uri hcall
    refine ⟨?_, ?_⟩
    · rcases exists_lookup_of_missed hcall (.inr rfl) with ⟨old, hold, -⟩ | hlookup
      · simp [first, start] at hold
      · exact hlookup
    · intro before after hmoves
      rw [hcut hmoves] at hcall
      rw [run_append]
      exact roots_step_of_returned_none hcall
  · intro before after hmoves uri root hroot
    simp only [last, hmoves, run_append]
    exact get?_run_of_some hroot after
  · have hfresh : (((first.offers moves).map (·.1)).filter fun uri =>
        !(RootCache.uris {}).contains uri) = (first.offers moves).map (·.1) :=
      List.filter_eq_self.mpr fun _ _ => rfl
    rw [hroots, RootCache.size_eq_length_uris, RootCache.uris_offerAll, hfresh]
    rfl

end RootCalls

end LintServer
