import Mathlib.Data.List.Basic
import LintServer.Proofs.Lifecycle
import LintServer.Server.Session

/-!
# The folder of a session

An editor may have several folders open, and the server works in one of them.  Which folders are open is
told here from what the editor says alone: those that a session is opened with, then event by event less
those that are removed and with those that are added (`Opening.openFolders`).

* `Server.endsIn_react` — of all steps only a change of folders touches the folder of the server;
* `folderAfter_cases` — what such a change can do to it;
* `IsOpen.step`, `IsOpen.run` — so the folder is an open one, after one step and after all.

The path of a folder is taken from its address, whatever scheme the address has.  So a folder that is no
file may stand in for one that is, and the main statement, `Session.folder_follows_open_ones`, is made twice:
for paths of all addresses, and for paths of files if no other address has one.
-/

namespace LintServer

open LintServer.Protocol

/-! ## the open folders -/

/-- The addresses of the folders that a session is opened with. -/
def Protocol.Opening.named (o : Opening) : List Uri :=
  match o.folders with
  | some (first :: rest) => first :: rest
  | _ => o.root.toList

/-- The addresses of the folders that a step tells of. -/
def Step.named : Step → List Uri
  | .notified (.foldersChanged added removed) => added ++ removed
  | _ => []

/-- Whether a path is one of some others, in whatever spelling. -/
def Path.isAmong (p : Path) (others : List Path) : Bool := others.any p.same

section

variable (path? : Uri → Option Path)

/-- The open folders after a step, where `path?` tells the path of a folder: those that are removed are taken
out, and then those that are added are put in. -/
def openAfter (opened : List Path) : Step → List Path
  | .notified (.foldersChanged added removed) =>
    (opened.filter fun p => !p.isAmong (removed.filterMap path?)) ++ added.filterMap path?
  | _ => opened

/-- The open folders of a session after some steps. -/
def Protocol.Opening.openFolders (o : Opening) (steps : List Step) : List Path :=
  steps.foldl (openAfter path?) (o.named.filterMap path?)

/-- A step leaves no folder to work in: it changes folders, and the one so far is removed or was not set. -/
def Step.Vacates (folder : Option Path) : Step → Prop
  | .notified (.foldersChanged _ removed) =>
    ∀ p, folder = some p → p.isAmong (removed.filterMap path?) = true
  | _ => False

end

/-! ## what a step does to the folder -/

namespace Dialogue

/-- A dialogue that ends with a value of some kind, whatever the environment. -/
def EndsIn (P : α → Prop) (dialogue : Dialogue α) : Prop := ∀ w time, P (dialogue.trace w time).value

variable {P : α → Prop}

theorem endsIn_done {a : α} (h : P a) : (done a).EndsIn P := fun _ _ => h

theorem endsIn_tell {n : Notice} {next : Dialogue α} (h : next.EndsIn P) : (tell n next).EndsIn P :=
  fun w time => h w (time + 1)

theorem endsIn_look {paths : List Path} {next : Disk → Dialogue α} (h : ∀ d, (next d).EndsIn P) :
    (look paths next).EndsIn P :=
  fun w time => h (w.disk time) w (time + 1)

/-- A dialogue after any other dialogue. -/
theorem endsIn_bind {dialogue : Dialogue β} {f : β → Dialogue α} (h : ∀ b, (f b).EndsIn P) :
    (dialogue >>= f).EndsIn P := by
  intro w time
  rw [trace_bind]
  exact h _ w _

end Dialogue

/-- The folder after a step. -/
def folderAfter (folder : Option Path) : Step → Option Path
  | .notified (.foldersChanged added removed) =>
    let next := nextFolder folder added removed
    if sameFolder next folder then folder else next
  | _ => folder

namespace Server

open Dialogue

/-- A pass over a document leaves the folder as it is. -/
theorem endsIn_publish (s : Server) (uri : Uri) :
    (s.publish uri).EndsIn fun s' => s'.folder = s.folder := by
  unfold publish
  cases s.text? uri with
  | none => exact endsIn_done rfl
  | some text =>
      exact endsIn_bind fun folder => endsIn_look fun d => endsIn_tell (endsIn_done rfl)

/-- So do passes one after the other. -/
theorem endsIn_publishAll (s : Server) (uris : List Uri) :
    (s.publishAll uris).EndsIn fun s' => s'.folder = s.folder := by
  induction uris generalizing s with
  | nil => exact endsIn_done rfl
  | cons uri rest ih =>
      intro w time
      rw [publishAll, trace_bind]
      exact (ih _ w _).trans (endsIn_publish s uri w time)

theorem folder_keep (s : Server) (uri : Uri) (text : String) : (s.keep uri text).folder = s.folder := by
  unfold keep
  split <;> rfl

/-- Events of the watcher, and the passes that may follow them, leave the folder as it is. -/
theorem endsIn_takeBurst (s : Server) (events : List WatchEvent) :
    (s.takeBurst events).EndsIn fun s' => s'.folder = s.folder := by
  intro w time
  obtain ⟨-, watcher, hvalue⟩ := quietly_takeEvents s false events w time
  generalize hheard : (s.takeEvents false events).trace w time = heard at hvalue
  have hfolder : heard.value.2.folder = s.folder := by rw [hvalue]
  rw [trace_takeBurst hheard]
  rcases heard.value.2.revalidateIf_cases heard.value.1 with ⟨-, hcheck⟩ | ⟨-, hdone⟩
  · rw [hcheck]
    exact (endsIn_publishAll _ _ w heard.time).trans hfolder
  · rw [hdone]
    exact hfolder

theorem endsIn_startWatching (s : Server) : s.startWatching.EndsIn fun s' => s'.folder = s.folder := by
  unfold startWatching
  split
  · exact endsIn_done rfl
  · split
    · exact endsIn_done rfl
    · refine endsIn_look fun d => ?_
      split
      · exact endsIn_done rfl
      · exact endsIn_tell (endsIn_done rfl)

/-- A document that is kept and passed over changes no folder. -/
theorem endsIn_keep_publish (s : Server) (uri : Uri) (text : String) :
    ((s.keep uri text).publish uri).EndsIn fun s' => s'.folder = s.folder :=
  fun w time => (endsIn_publish _ uri w time).trans (s.folder_keep uri text)

/-- **What a notification does to the folder.** -/
theorem endsIn_notify (s : Server) (n : Notification) :
    (s.notify n).EndsIn fun s' => s'.folder = folderAfter s.folder (.notified n) := by
  cases n with
  | initialized => exact endsIn_bind fun _ => endsIn_bind fun _ => s.endsIn_startWatching
  | opened uri text => exact s.endsIn_keep_publish uri text
  | changed uri texts =>
      unfold notify
      dsimp only
      split
      · exact endsIn_done rfl
      · exact s.endsIn_keep_publish uri _
  | closed uri => exact endsIn_tell (endsIn_done rfl)
  | configurationChanged => exact s.endsIn_publishAll _
  | filesChanged uris =>
      unfold notify
      dsimp only
      split
      · exact s.endsIn_publishAll _
      · exact endsIn_done rfl
  | foldersChanged added removed =>
      refine endsIn_bind fun _ => endsIn_done ?_
      unfold changeFolder folderAfter
      dsimp only
      split <;> rfl

/-- **What a step does to the folder.** -/
theorem endsIn_react (s : Server) (e : Step) :
    (s.react e).EndsIn fun s' => s'.folder = folderAfter s.folder e := by
  cases e with
  | notified n => exact s.endsIn_notify n
  | edited before after e =>
      unfold react diskChanged
      cases s.watcher with
      | none => exact endsIn_done rfl
      | some watcher => exact endsIn_takeBurst _ _

end Server

namespace Session

theorem folder_step (w : Environment) (x : Session) (e : Step) :
    (x.step w e).server.folder = folderAfter x.server.folder e :=
  x.server.endsIn_react e w x.time

/-- **The folder after some steps.** -/
theorem folder_run (w : Environment) (x : Session) (steps : List Step) :
    (x.run w steps).server.folder = steps.foldl folderAfter x.server.folder := by
  induction steps generalizing x with
  | nil => rfl
  | cons e rest ih =>
      rw [List.foldl_cons, ← folder_step w]
      exact ih (x.step w e)

end Session

/-! ## the folder is an open one -/

/-- Two spellings of a path are among the same others. -/
theorem Path.isAmong_congr {p q : Path} (h : p.same q = true) (others : List Path) :
    p.isAmong others = q.isAmong others := by
  have hcomponents : p.components = q.components := by simpa [same] using h
  unfold isAmong
  congr 1
  funext other
  rw [same, same, hcomponents]

/-- A folder is removed if its path is among those of the removed ones. -/
theorem isRemoved_eq_isAmong {path? : Uri → Option Path} {removed : List Uri}
    (h : ∀ u ∈ removed, path? u = u.localPath?) (folder : Path) :
    isRemoved folder removed = folder.isAmong (removed.filterMap path?) := by
  rw [isRemoved, Path.isAmong, List.filterMap_congr h, List.any_filterMap]
  congr 1
  funext u
  cases u.localPath? <;> rfl

theorem sameFolder_comm (p q : Option Path) : sameFolder p q = sameFolder q p := by
  cases p <;> cases q <;> simp [sameFolder, Path.same, BEq.comm]

theorem sameFolder_refl (folder : Option Path) : sameFolder folder folder = true := by
  cases folder <;> simp [sameFolder, Path.same]

section

variable {path? : Uri → Option Path}

/-- **What a change of folders does**: the folder stays unless the change leaves none, and then the first
one that is added takes its place. -/
theorem nextFolder_cases {added removed : List Uri} (h : ∀ u ∈ added ++ removed, path? u = u.localPath?)
    (folder : Option Path) :
    (∃ p, folder = some p ∧ p.isAmong (removed.filterMap path?) = false) ∧
        nextFolder folder added removed = folder ∨
      (∀ p, folder = some p → p.isAmong (removed.filterMap path?) = true) ∧
        nextFolder folder added removed = added.head?.bind path? := by
  have hadded : added.head?.bind path? = added.head?.bind Uri.localPath? := by
    cases added with
    | nil => rfl
    | cons u rest => exact h u List.mem_cons_self
  cases folder with
  | none => exact .inr ⟨by simp, hadded.symm⟩
  | some p =>
      have hremoved : isRemoved p removed = p.isAmong (removed.filterMap path?) :=
        isRemoved_eq_isAmong (fun u hu => h u (List.mem_append_right added hu)) p
      unfold nextFolder
      cases hp : isRemoved p removed with
      | false => exact .inl ⟨⟨p, rfl, hremoved ▸ hp⟩, by simp [hp]⟩
      | true => exact .inr ⟨by simp [← hremoved, hp], by simp [hp, hadded]⟩

/-- **What a step can do to the folder.** -/
theorem folderAfter_cases {e : Step} (h : ∀ u ∈ e.named, path? u = u.localPath?) (folder : Option Path) :
    ¬ e.Vacates path? folder ∧ folderAfter folder e = folder ∨
      ∃ added removed, e = .notified (.foldersChanged added removed) ∧ e.Vacates path? folder ∧
        sameFolder (folderAfter folder e) (added.head?.bind path?) = true := by
  cases e with
  | edited before after e => exact .inl ⟨id, rfl⟩
  | notified n =>
      cases n with
      | foldersChanged added removed =>
          rcases nextFolder_cases h folder with ⟨⟨p, hp, hstays⟩, hnext⟩ | ⟨hvacates, hnext⟩
          · refine .inl ⟨fun hvacates => ?_, ?_⟩
            · simp [hvacates p hp] at hstays
            · simp only [folderAfter, hnext, ite_self]
          · refine .inr ⟨added, removed, rfl, hvacates, ?_⟩
            simp only [folderAfter, hnext]
            split
            · next hsame => rwa [sameFolder_comm]
            · exact sameFolder_refl _
      | _ => exact .inl ⟨id, rfl⟩

/-- An open folder that a step does not take away stays open. -/
theorem isAmong_openAfter {p : Path} {opened : List Path} (hp : p.isAmong opened = true) {e : Step}
    (h : ¬ e.Vacates path? (some p)) : p.isAmong (openAfter path? opened e) = true := by
  cases e with
  | edited before after e => exact hp
  | notified n =>
      cases n with
      | foldersChanged added removed =>
          have hstays : p.isAmong (removed.filterMap path?) = false := by
            simpa [Step.Vacates] using h
          obtain ⟨q, hq, hsame⟩ := List.any_eq_true.mp hp
          have hkept : q ∈ opened.filter fun p => !p.isAmong (removed.filterMap path?) := by
            rw [List.mem_filter, ← Path.isAmong_congr hsame, hstays]
            exact ⟨hq, rfl⟩
          exact List.any_eq_true.mpr ⟨q, List.mem_append_left _ hkept, hsame⟩
      | _ => exact hp

/-- The folder, if there is one, is among the open ones. -/
def IsOpen (folder : Option Path) (opened : List Path) : Prop :=
  ∀ p, folder = some p → p.isAmong opened = true

/-- The first of some folders is one of them. -/
theorem isOpen_of_sameFolder {folder : Option Path} {uris : List Uri}
    (h : sameFolder folder (uris.head?.bind path?) = true) : IsOpen folder (uris.filterMap path?) := by
  rintro p rfl
  cases hfirst : uris.head?.bind path? with
  | none => simp [hfirst, sameFolder] at h
  | some q =>
      rw [hfirst] at h
      obtain ⟨u, hu, hq⟩ := Option.bind_eq_some_iff.mp hfirst
      exact List.any_eq_true.mpr ⟨q, List.mem_filterMap.mpr ⟨u, List.mem_of_mem_head? hu, hq⟩, h⟩

/-- **One step** leaves the folder an open one. -/
theorem IsOpen.step {folder : Option Path} {opened : List Path} (hopen : IsOpen folder opened) {e : Step}
    (h : ∀ u ∈ e.named, path? u = u.localPath?) :
    IsOpen (folderAfter folder e) (openAfter path? opened e) := by
  intro p hp
  rcases folderAfter_cases h folder with ⟨hstays, hafter⟩ | ⟨added, removed, rfl, -, hfirst⟩
  · rw [hafter] at hp
    exact isAmong_openAfter (hopen p hp) (hp ▸ hstays)
  · have hadded := isOpen_of_sameFolder hfirst p hp
    rw [openAfter, Path.isAmong, List.any_append]
    exact Bool.or_eq_true_iff.mpr (.inr hadded)

/-- **Any number of steps** leaves the folder an open one. -/
theorem IsOpen.run {folder : Option Path} {opened : List Path} (hopen : IsOpen folder opened)
    {steps : List Step} (h : ∀ e ∈ steps, ∀ u ∈ e.named, path? u = u.localPath?) :
    IsOpen (steps.foldl folderAfter folder) (steps.foldl (openAfter path?) opened) := by
  induction steps generalizing folder opened with
  | nil => exact hopen
  | cons e rest ih =>
      rw [List.forall_mem_cons] at h
      exact ih (hopen.step h.1) h.2

end

/-! ## the main statement -/

/-- **The folder of a session follows the open ones**, where `path?` tells the paths of folders: it starts as
the first one that the session is opened with, it is an open one after all steps, and it changes only if a
step leaves none, and then to the first one that is added. -/
structure Session.FollowsOpenFolders (path? : Uri → Option Path) (w : Environment) (o : Opening)
    (first : Server) (steps : List Step) : Prop where
  starts : first.folder = o.named.head?.bind path?
  is_open : IsOpen ((start first).run w steps).server.folder (o.openFolders path? steps)
  stays : ∀ before e after, steps = before ++ e :: after →
    let x := (start first).run w before
    (x.step w e).server.folder ≠ x.server.folder → e.Vacates path? x.server.folder
  moves : ∀ before added removed after,
    let e := Step.notified (.foldersChanged added removed)
    steps = before ++ e :: after →
    let x := (start first).run w before
    e.Vacates path? x.server.folder →
      sameFolder (x.step w e).server.folder (added.head?.bind path?) = true

/-- A session starts in the first folder that it is opened with. -/
theorem Protocol.Opening.folder?_eq {path? : Uri → Option Path} {o : Opening}
    (h : ∀ u ∈ o.named, path? u = u.localPath?) : o.folder? = o.named.head?.bind path? := by
  have hhead : o.folder? = o.named.head?.bind Uri.localPath? := by
    obtain ⟨flags, folders, root⟩ := o
    match folders with
    | some (first :: rest) => rfl
    | some [] => cases root <;> rfl
    | none => cases root <;> rfl
  rw [hhead]
  cases hnamed : o.named.head? with
  | none => rfl
  | some u => exact (h u (List.mem_of_mem_head? hnamed)).symm

namespace Session

/-- **The folder follows the open ones** for all paths that are those that the server takes. -/
theorem followsOpenFolders {path? : Uri → Option Path} {o : Opening} {steps : List Step}
    (h : ∀ u ∈ o.named ++ steps.flatMap Step.named, path? u = u.localPath?) (w : Environment)
    {first : Server} (hfirst : first.folder = o.folder?) :
    FollowsOpenFolders path? w o first steps := by
  have hnamed : ∀ u ∈ o.named, path? u = u.localPath? := fun u hu => h u (List.mem_append_left _ hu)
  have hsteps : ∀ e ∈ steps, ∀ u ∈ e.named, path? u = u.localPath? := fun e he u hu =>
    h u (List.mem_append_right _ (List.mem_flatMap.mpr ⟨e, he, hu⟩))
  have hstarts := hfirst.trans (Opening.folder?_eq hnamed)
  refine ⟨hstarts, ?_, ?_, ?_⟩
  · have hopen : IsOpen first.folder (o.named.filterMap path?) :=
      isOpen_of_sameFolder (hstarts ▸ sameFolder_refl _)
    rw [folder_run]
    exact hopen.run hsteps
  · intro before e after hcut x hne
    have he : e ∈ steps := hcut ▸ List.mem_append_right _ List.mem_cons_self
    rw [folder_step] at hne
    rcases folderAfter_cases (hsteps e he) x.server.folder with ⟨-, hafter⟩ | ⟨_, _, -, hvacates, -⟩
    · exact absurd hafter hne
    · exact hvacates
  · intro before added removed after e hcut x hvacates
    have he : e ∈ steps := hcut ▸ List.mem_append_right _ List.mem_cons_self
    rw [folder_step]
    rcases folderAfter_cases (hsteps e he) x.server.folder with ⟨hstays, -⟩ | ⟨_, _, heq, -, hsame⟩
    · exact absurd hvacates hstays
    · rw [Step.notified.injEq, Notification.foldersChanged.injEq] at heq
      rwa [heq.1]

/-- **The folder of a session follows the open ones**, whatever it is opened with and whatever happens then:
documents come and go, files change, and folders are added and removed.  That holds for the paths of all
addresses, and for those of files as long as no address with another scheme has a path. -/
theorem folder_follows_open_ones (w : Environment) (s : Server) (hs : s.phase = .unopened)
    (params : Option Json) (o : Opening) (ho : Opening.read? params = some o) (steps : List Step) :
    ∃ first answer, s.openSession true params = .settled first (some (.result answer)) ∧
      FollowsOpenFolders Uri.localPath? w o first steps ∧
      ((∀ u ∈ o.named ++ steps.flatMap Step.named, u.scheme ≠ "file" → u.localPath? = none) →
        FollowsOpenFolders Uri.filePath? w o first steps) := by
  refine ⟨{ s with phase := .running, flags := o.flags, folder := o.folder? }, openingResult o.flags, ?_,
    followsOpenFolders (fun _ _ => rfl) w rfl, fun hfiles => followsOpenFolders (fun u hu => ?_) w rfl⟩
  · simp only [Server.openSession, hs, ho, if_true]
  · unfold Uri.filePath?
    split
    · rfl
    · next hscheme => exact (hfiles u hu hscheme).symm

/-- A session in `/a` and `/b`: both are removed, the first one in another spelling, and `/c` is added. -/
theorem folder_follows_in_other_spelling :
    let folder (uri : String) : Json := .obj [("name", .str "n"), ("uri", .str uri)]
    let params : Json := .obj [("capabilities", .obj []),
      ("workspaceFolders", .arr [folder "file:///a", folder "file:///b"])]
    let uri (names : List String) : Uri := ⟨"file", some {}, .segments names, none, none⟩
    let w : Environment := ⟨fun _ => {}, fun _ _ => .failure⟩
    let steps : List Step := [.notified (.foldersChanged [uri ["c"]] [uri ["b"], uri ["a", ""]])]
    ∃ first answer,
      Server.openSession {} true (some params) = .settled first (some (.result answer)) ∧
        first.folder = some (.ofString "/a") ∧
        sameFolder ((start first).run w steps).server.folder (some (.ofString "/c")) = true ∧
        IsOpen ((start first).run w steps).server.folder [.ofString "/c"] := by
  intro folder params uri w steps
  have ho : Opening.read? (some params) = some { folders := some [uri ["a"], uri ["b"]] } := by
    decide +kernel
  obtain ⟨first, answer, hopens, -, hfiles⟩ := folder_follows_open_ones w {} rfl (some params) _ ho steps
  have hfollows := hfiles (by decide +kernel)
  have hstarts : first.folder = some (.ofString "/a") := hfollows.starts.trans (by decide +kernel)
  have hopen := hfollows.is_open
  have hmoves := hfollows.moves [] [uri ["c"]] [uri ["b"], uri ["a", ""]] [] rfl
  refine ⟨first, answer, hopens, hstarts, hmoves ?_, ?_⟩
  · intro p hp
    obtain rfl : Path.ofString "/a" = p := Option.some.inj (hstarts.symm.trans hp)
    decide +kernel
  · have hlast : Opening.openFolders Uri.filePath? { folders := some [uri ["a"], uri ["b"]] } steps =
        [.ofString "/c"] := by decide +kernel
    rwa [hlast] at hopen

/-- A session that is opened with a folder that is no file: none that is a file is open, and the server
works in one. -/
theorem folder_that_is_no_file :
    let folder : Json := .obj [("name", .str "n"), ("uri", .str "memfs:/ws")]
    let params : Json := .obj [("capabilities", .obj []), ("workspaceFolders", .arr [folder])]
    let w : Environment := ⟨fun _ => {}, fun _ _ => .failure⟩
    ∃ o first answer, Opening.read? (some params) = some o ∧
      Server.openSession {} true (some params) = .settled first (some (.result answer)) ∧
        o.openFolders Uri.filePath? [] = [] ∧
        ((start first).run w []).server.folder = some (.ofString "/ws") := by
  intro folder params w
  have ho : Opening.read? (some params) =
      some { folders := some [⟨"memfs", none, .segments ["ws"], none, none⟩] } := by decide +kernel
  have hfolder : Opening.folder? { folders := some [⟨"memfs", none, .segments ["ws"], none, none⟩] } =
      some (.ofString "/ws") := by decide +kernel
  refine ⟨_, { phase := .running, folder := some (.ofString "/ws") }, openingResult {}, ho, ?_,
    by decide +kernel, rfl⟩
  simp only [Server.openSession, ho, if_true, hfolder]

end Session

end LintServer
