import LintServer.Proofs.Documents
import LintServer.Proofs.WatchLoop

/-!
# Configurations that arrive with their directory

No event tells of the files that are in a directory when it appears, so a configuration among them is
noticed from the directory itself.  Events come in bursts, and a burst is handled as a whole, event by event
and then with one check of the open documents, or none:

* `WatchEvent.Concerns` — an event tells of a configuration: of its file, or of the directory that the
  file is right in;
* `Noticed` — one of the events does, at the time when its turn comes;
* `Server.takeEvents_spec` — the events are handled in their turn, and nothing is sent in it but what failed;
* `Entry.HoldsConfig` — a tree has a configuration in it, at any depth.

The main statement, `Server.burst_revalidates`, is that the open documents are checked if and only if an
event of the burst tells of a configuration.  A configuration deeper in a tree is not among them
(`Server.nested_configuration_unnoticed`).
-/

namespace LintServer

/-! ## trees with a configuration -/

/-- A tree has a configuration in it, and no skipped directory is on the way there. -/
inductive Entry.HoldsConfig : Entry → Prop
  | here {es : List (Name × Entry)} {content : List UInt8} (h : (configName, .file content) ∈ es) :
      HoldsConfig (.folder es)
  | inside {es : List (Name × Entry)} {n : Name} {e : Entry} (hmem : (n, e) ∈ es) (hn : n ∉ skippedNames)
      (h : e.HoldsConfig) : HoldsConfig (.folder es)

/-! ## events of a burst -/

namespace WatchEvent

/-- **An event tells of a configuration.** -/
inductive Concerns (d : Disk) : WatchEvent → Prop
  | changed (path : Path) : Concerns d (.configChanged path)
  | arrived {dir : Path} {es : List (Name × Entry)} {content : List UInt8}
      (hdir : d.entry? (d.absolute dir) = some (.folder es)) (hfile : es.lookup configName = some (.file content)) :
      Concerns d (.folderAppeared dir)

/-- How long it takes to handle an event: to look at a directory takes time, and so does to say that watching
failed. -/
def duration : WatchEvent → Nat
  | .configChanged _ => 0
  | .folderAppeared _ | .failed _ => 1

/-- What is said about an event. -/
def complaint? : WatchEvent → Option Dialogue.Sent
  | .configChanged _ | .folderAppeared _ => none
  | .failed reason => some (.notice (.log .error (Server.watchingFailed reason)))

end WatchEvent

/-- **One of the events tells of a configuration**, on the disk as it is when the event is handled. -/
inductive Noticed (w : Environment) : Nat → List WatchEvent → Prop
  | now {time : Nat} {e : WatchEvent} {rest : List WatchEvent} (h : e.Concerns (w.disk time)) :
      Noticed w time (e :: rest)
  | later {time : Nat} {e : WatchEvent} {rest : List WatchEvent} (h : Noticed w (time + e.duration) rest) :
      Noticed w time (e :: rest)

theorem not_noticed_nil (w : Environment) (time : Nat) : ¬Noticed w time [] := nofun

theorem noticed_cons_iff {w : Environment} {time : Nat} {e : WatchEvent} {rest : List WatchEvent} :
    Noticed w time (e :: rest) ↔ e.Concerns (w.disk time) ∨ Noticed w (time + e.duration) rest := by
  constructor
  · intro h
    cases h with
    | now h => exact .inl h
    | later h => exact .inr h
  · exact fun h => h.elim .now .later

/-- On a disk that stays as it is, the time makes no difference. -/
theorem noticed_iff_of_disk_eq {w : Environment} {d : Disk} (hdisk : ∀ time, w.disk time = d) (time : Nat)
    (events : List WatchEvent) : Noticed w time events ↔ ∃ e ∈ events, e.Concerns d := by
  induction events generalizing time with
  | nil => simp [not_noticed_nil]
  | cons e rest ih => simp [noticed_cons_iff, hdisk, ih]

/-! ## files right in a directory -/

theorem isName_configName : Path.IsName configName := by decide +kernel

/-- A name behind a path leads to a file if the path leads to a directory that has a file under it. -/
theorem Disk.isFile_join_iff {d : Disk} {p : Path} {n : Name} (hn : Path.IsName n) :
    d.isFile (p.join n) = true ↔
      ∃ es content, d.entry? (d.absolute p) = some (.folder es) ∧ es.lookup n = some (.file content) := by
  rw [isFile, entry?_join d p hn]
  cases d.entry? (d.absolute p) with
  | none => simp
  | some e =>
      cases e with
      | file content => simp [Entry.entries]
      | folder es =>
          cases hlookup : es.lookup n with
          | none => simp [Entry.entries, hlookup]
          | some e => cases e <;> simp [Entry.entries, Entry.isFolder, hlookup]

/-- A directory that appears tells of a configuration if its configuration is a file. -/
theorem concerns_folderAppeared_iff {d : Disk} {dir : Path} :
    (WatchEvent.folderAppeared dir).Concerns d ↔ d.isFile (projectFile dir) = true := by
  rw [projectFile, Disk.isFile_join_iff isName_configName]
  constructor
  · intro h
    cases h with
    | arrived hdir hfile => exact ⟨_, _, hdir, hfile⟩
  · rintro ⟨es, content, hdir, hfile⟩
    exact .arrived hdir hfile

namespace Server

/-! ## bursts -/

/-- **The events of a burst** are handled one after the other: what is sent says what failed, and a burst
counts if one of its events does. -/
theorem takeEvents_spec (s : Server) (changed : Bool) (events : List WatchEvent) (w : Environment) (time : Nat) :
    let heard := (s.takeEvents changed events).trace w time
    heard.interactions.filterMap Interaction.sent? = events.filterMap WatchEvent.complaint? ∧
      (heard.value.1 = true ↔ changed = true ∨ Noticed w time events) := by
  induction events generalizing s changed time with
  | nil => exact ⟨rfl, by simp [takeEvents, Dialogue.trace, not_noticed_nil]⟩
  | cons e rest ih =>
      rw [noticed_cons_iff]
      cases e with
      | configChanged path =>
          obtain ⟨hsent, hvalue⟩ := ih s true time
          refine ⟨hsent, ?_⟩
          simp [takeEvents, hvalue, WatchEvent.Concerns.changed]
      | folderAppeared dir =>
          obtain ⟨hsent, hvalue⟩ := ih (s.watchAlso (w.disk time) dir)
            (changed || (w.disk time).isFile (projectFile dir)) (time + 1)
          refine ⟨hsent, hvalue.trans ?_⟩
          rw [concerns_folderAppeared_iff, Bool.or_eq_true, or_assoc]
          rfl
      | failed reason =>
          obtain ⟨hsent, hvalue⟩ := ih s changed (time + 1)
          refine ⟨?_, hvalue.trans ?_⟩
          · simpa [takeEvents, Dialogue.trace, Interaction.sent?, WatchEvent.complaint?] using hsent
          · have hnot : ¬(WatchEvent.failed reason).Concerns (w.disk time) := by
              intro hconcerns
              cases hconcerns
            rw [or_iff_right hnot]
            rfl

/-- **A burst revalidates** the open documents if and only if one of its events tells of a configuration,
whichever the others are, however the disk changes in the meantime and whatever the editor answers.  Before that
it is said of each failure among the events, in their order, and nothing else is sent; if no event tells of a
configuration, nothing more happens. -/
theorem burst_revalidates {s : Server} (hphase : s.phase ≠ .exited) (hs : s.Distinct) (events : List WatchEvent)
    (w : Environment) (time : Nat) :
    ∃ heard checked, ((s.takeBurst events).trace w time).interactions = heard ++ checked ∧
      heard.filterMap Interaction.sent? = events.filterMap WatchEvent.complaint? ∧
      (Noticed w time events → s.Revalidated s.documents checked ((s.takeBurst events).trace w time).value) ∧
      (¬Noticed w time events → checked = []) := by
  obtain ⟨hsent, hchanged⟩ := takeEvents_spec s false events w time
  obtain ⟨-, watcher, hvalue⟩ := quietly_takeEvents s false events w time
  generalize hheard : (s.takeEvents false events).trace w time = heard at hsent hchanged hvalue
  rw [Bool.false_eq_true, false_or] at hchanged
  have alike : s.Alike heard.value.2 := hvalue ▸ ⟨rfl, rfl, rfl, rfl⟩
  have hrunning : heard.value.2.phase ≠ .exited := hvalue ▸ hphase
  rw [trace_takeBurst hheard]
  refine ⟨heard.interactions, _, rfl, hsent, ?_⟩
  rcases heard.value.2.revalidateIf_cases heard.value.1 with ⟨⟨htrue, -⟩, hcheck⟩ | ⟨hfalse, hdone⟩
  · refine ⟨fun _ => ?_, fun hunnoticed => absurd (hchanged.mp htrue) hunnoticed⟩
    rw [hcheck]
    have hall := (revalidated (alike.distinct hs) w heard.time).after alike published_nil
    exact alike.documents ▸ hall
  · refine ⟨fun hnoticed => absurd ⟨hchanged.mpr hnoticed, hrunning⟩ hfalse, fun _ => ?_⟩
    rw [hdone]
    rfl

/-- A configuration right in a directory that appears is noticed, though another directory is gone and watching
failed. -/
theorem arriving_configuration_noticed :
    let uri : Uri := ⟨"file", some {}, .segments ["ws", "a"], none, none⟩
    let s : Server :=
      { documents := [⟨uri, "x"⟩], watcher := some ⟨.ofString "/ws", [.ofString "/ws"]⟩, phase := .running }
    let new : Entry := .folder [(configName, .file [])]
    let d : Disk := { root := [("ws".toUTF8.toList, .folder [("new".toUTF8.toList, new)])] }
    let events : List WatchEvent :=
      [.folderAppeared (.ofString "/ws/gone"), .failed "overflow", .folderAppeared (.ofString "/ws/new")]
    let happened := ((s.takeBurst events).trace ⟨fun _ => d, fun _ _ => .failure⟩ 0).interactions
    (published happened).map (·.uri) = [uri] := by
  intro uri s new d events happened
  obtain ⟨heard, checked, hsplit, hsent, hnoticed, -⟩ :=
    burst_revalidates (s := s) (by decide) (by simp [Distinct, addresses, s]) events ⟨fun _ => d, fun _ _ => .failure⟩ 0
  have hconcerns : (WatchEvent.folderAppeared (.ofString "/ws/new")).Concerns d :=
    concerns_folderAppeared_iff.mpr (by decide +kernel)
  have hall := hnoticed ((noticed_iff_of_disk_eq (fun _ => rfl) 0 events).mpr ⟨_, by simp [events], hconcerns⟩)
  have hsilent : published heard = [] := by
    rw [published, hsent]
    rfl
  rw [show happened = heard ++ checked from hsplit, published_append, hsilent, List.nil_append, hall.uris]
  rfl

/-- A configuration deeper in a tree that is moved in is not noticed. -/
theorem nested_configuration_unnoticed :
    let uri : Uri := ⟨"file", some {}, .segments ["ws", "a"], none, none⟩
    let s : Server :=
      { documents := [⟨uri, "x"⟩], watcher := some ⟨.ofString "/ws", [.ofString "/ws"]⟩, phase := .running }
    let tree : Entry := .folder [("deep".toUTF8.toList, .folder [(configName, .file [])])]
    let before : Disk := { root := [("ws".toUTF8.toList, .folder []), ("new".toUTF8.toList, tree)] }
    let after : Disk := { root := [("ws".toUTF8.toList, .folder [("new".toUTF8.toList, tree)])] }
    let e : Edit := .rename (.ofString "/new") (.ofString "/ws/new")
    tree.HoldsConfig ∧
      (s.watcher.map fun w => (w.observe before after e).1) = some [.folderAppeared (.ofString "/ws/new")] ∧
      published ((s.diskChanged before after e).trace ⟨fun _ => after, fun _ _ => .failure⟩ 0).interactions = [] := by
  refine ⟨?_, ?_, ?_⟩
  · exact .inside List.mem_cons_self (by decide +kernel) (.here List.mem_cons_self)
  · decide +kernel
  · decide +kernel

end Server

end LintServer
