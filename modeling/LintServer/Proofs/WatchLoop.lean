import LintServer.Proofs.Places
import LintServer.Server.Basic
import Mathlib.Data.List.Induction

/-!
# Watching while directories appear

`Watcher.watchTree` watches a directory and all below it at once.  But directories appear while it is at
work, and while it works events queue up that it will see to only later.  Here the work is cut into
steps, to watch one directory, to list one, to take the next event, and between any two of them
directories may be made, or moved in from outside, and watching may fail:

* `WatchLoop`, `WatchLoop.Move`, `WatchLoop.run` — the steps and what may come between them;
* `WatchLoop.run_undisturbed` — if nothing comes between, they amount to `Watcher.watchTree`;
* `WatchLoop.Sound` — what is watched, and what is going to be, lies below the root and outside of the
  skipped directories;
* `WatchLoop.Covered` — a directory below the root is watched, or something above it is still to be done.

A directory with the name of a configuration file is reported as such a file, and not as a directory, so
there the cover has a hole.  The main statement, `WatchLoop.directories_watched`, says that it is the only
one.
-/

namespace LintServer

/-! ## steps -/

/-- What is left to do of a directory. -/
inductive WatchTask where
  | watch (dir : Path)
  | list (dir : Path)
deriving Repr, DecidableEq

/-- The directory of a task. -/
def WatchTask.dir : WatchTask → Path
  | .watch dir | .list dir => dir

/-- A task takes care of a place: to watch a directory leads to all that is at or below it, and to list
it to all that is below it. -/
def WatchTask.Covers (d : Disk) : WatchTask → Location → Prop
  | .watch dir, l => d.place dir <+: l
  | .list dir, l => d.place dir <+: l ∧ d.place dir ≠ l

theorem WatchTask.Covers.mono {d : Disk} {c : WatchTask} {l l' : Location} (h : c.Covers d l) (hl : l <+: l') :
    c.Covers d l' := by
  cases c with
  | watch dir => exact List.IsPrefix.trans h hl
  | list dir =>
      refine ⟨h.1.trans hl, ?_⟩
      rintro rfl
      exact h.2 (h.1.eq_of_length_le hl.length_le)

/-- A watcher at work. -/
structure WatchLoop where
  disk : Disk
  watcher : Watcher
  /-- What is left to do, the next first. -/
  tasks : List WatchTask
  /-- The events that are not taken yet. -/
  queue : List WatchEvent
  /-- All events that there were. -/
  reported : List WatchEvent

/-- The disk without what is at a path. -/
def Disk.without (d : Disk) (p : Path) : Disk := { d with root := erase d.root (d.place p) }

/-- A change of the disk by which directories appear and nothing below the root goes away: a directory is
made, and no file is in its way, or one is moved in from outside to where nothing is yet, and the path of the
root does not lead through it. -/
def Edit.Arrives (d : Disk) (root : Path) : Edit → Prop
  | .makeFolder p => ∀ n ≤ (d.place p).length, (d.at? ((d.place p).take n)).all Entry.isFolder = true
  | .rename source target =>
    d.HasFolder (d.place source) ∧ ¬d.place root <+: d.place source ∧ (d.without source).isFolder root = true ∧
      d.place root <+: d.place target ∧ (d.at? (d.place target)).isNone
  | .write _ _ | .remove _ => False

instance (d : Disk) (root : Path) : (e : Edit) → Decidable (e.Arrives d root)
  | .makeFolder _ => inferInstanceAs (Decidable (∀ n ≤ _, _))
  | .rename _ _ => inferInstanceAs (Decidable (_ ∧ _))
  | .write _ _ | .remove _ => inferInstanceAs (Decidable False)

/-- The directories right in a directory that are watched with it. -/
def Disk.foldersIn (d : Disk) (dir : Path) : List Path :=
  match d.entry? dir with
  | some e => (e.entries.filter fun p => p.2.isFolder && !(dir.join p.1).isSkipped).map fun p => dir.join p.1
  | none => []

namespace WatchLoop

/-- What happens next. -/
inductive Move where
  | work
  | take
  | arrive (e : Edit)
  | fail (reason : String)

/-- A watcher that is about to start. -/
def start (d : Disk) (root : Path) : WatchLoop := ⟨d, ⟨root, []⟩, [.watch root], [], []⟩

/-- Does the next of what is left to do. -/
def work (p : WatchLoop) : WatchLoop :=
  match p.tasks with
  | [] => p
  | .watch dir :: rest =>
    if p.disk.has dir then
      { p with watcher := p.watcher.watch (p.disk.absolute dir), tasks := .list dir :: rest }
    else { p with tasks := rest }
  | .list dir :: rest => { p with tasks := (p.disk.foldersIn dir).map .watch ++ rest }

/-- Takes the next event, if there is nothing left to do. -/
def take (p : WatchLoop) : WatchLoop :=
  match p.tasks, p.queue with
  | [], .folderAppeared dir :: rest => { p with tasks := [.watch dir], queue := rest }
  | [], _ :: rest => { p with queue := rest }
  | _, _ => p

/-- Changes the disk, which the watcher observes. -/
def arrive (p : WatchLoop) (e : Edit) : WatchLoop :=
  match p.disk.edit e with
  | .ok after =>
    let (events, w) := p.watcher.observe p.disk after e
    ⟨after, w, p.tasks, p.queue ++ events, p.reported ++ events⟩
  | .error _ => p

/-- Fails to watch, which is reported. -/
def fail (p : WatchLoop) (reason : String) : WatchLoop :=
  { p with queue := p.queue ++ [.failed reason], reported := p.reported ++ [.failed reason] }

/-- What happens next, and what then is. -/
def step (p : WatchLoop) : Move → WatchLoop
  | .work => p.work
  | .take => p.take
  | .arrive e => if e.Arrives p.disk p.watcher.root then p.arrive e else p
  | .fail reason => p.fail reason

/-- Everything that happens. -/
def run (p : WatchLoop) (moves : List Move) : WatchLoop := moves.foldl step p

end WatchLoop

/-! ## what arrives -/

/-- **Directories appeared** on a disk, and below the root none went away: where a directory is new, the
outermost new one on the way to it was touched. -/
structure Grown (before after : Disk) (root : Path) (e : Edit) : Prop where
  current : after.current = before.current
  leads : before.isFolder root = true → after.isFolder root = true
  keeps : ∀ l, before.place root <+: l → before.HasFolder l → after.HasFolder l
  touched : ∀ l, before.place root <+: l → after.HasFolder l → ¬before.HasFolder l →
    ∃ t ∈ before.touches e, t.appeared = true ∧ t.location <+: l ∧ before.HasFolder t.location.dropLast ∧
      ¬before.HasFolder t.location
  names : ∀ t ∈ before.touches e, ∀ n ∈ t.location, Path.IsName n
  lost : ∀ l, before.place root <+: l → before.HasFolder l → ∀ gone ∈ Watcher.lost before e, ¬gone <+: l

/-- Every path spells the location that it spelled. -/
theorem Grown.place_eq {before after : Disk} {root : Path} {e : Edit} (h : Grown before after root e) (p : Path) :
    after.place p = before.place p := congrArg Disk.spelled (Disk.absolute_congr h.current p)

namespace Disk

theorem hasFolder_nil (d : Disk) : d.HasFolder [] := ⟨d.root, rfl⟩

/-- What is on the way to a place is on the way to its parent. -/
theorem prefix_dropLast {l m : Location} (h : l <+: m) (hne : l ≠ m) : l <+: m.dropLast := by
  rcases List.eq_nil_or_concat m with rfl | ⟨m, n, rfl⟩
  · exact absurd (List.prefix_nil.mp h) hne
  · rw [List.concat_eq_append] at h hne ⊢
    rw [List.dropLast_concat]
    exact (List.prefix_concat_iff.mp h).resolve_left hne

/-- The outermost place on the way to one without a directory. -/
theorem exists_outermost {d : Disk} {l : Location} (h : ¬d.HasFolder l) :
    ∃ m, m <+: l ∧ d.HasFolder m.dropLast ∧ ¬d.HasFolder m := by
  induction l using List.reverseRecOn with
  | nil => exact absurd d.hasFolder_nil h
  | append_singleton l n ih =>
      by_cases hl : d.HasFolder l
      · exact ⟨l ++ [n], List.prefix_refl _, by simpa using hl, h⟩
      · obtain ⟨m, hm, hfolder, hnone⟩ := ih hl
        exact ⟨m, hm.trans (List.prefix_append l [n]), hfolder, hnone⟩

/-- A place on the way where nothing is is among the missing ones. -/
theorem mem_missing {d : Disk} {l m : Location} (hm : m <+: l) (hne : m ≠ []) (hnone : d.at? m = none) :
    ⟨m, true⟩ ∈ d.missing l := by
  have hpos := List.length_pos_iff.mpr hne
  have hle := hm.length_le
  refine List.mem_filterMap.mpr ⟨m, ?_, by simp [hnone]⟩
  refine List.mem_map.mpr ⟨m.length - 1, List.mem_range.mpr (by omega), ?_⟩
  rw [Nat.sub_add_cancel hpos]
  exact (List.prefix_iff_eq_take.mp hm).symm

theorem prefix_of_mem_missing {d : Disk} {l : Location} {t : Touch} (h : t ∈ d.missing l) :
    t.location <+: l := by
  obtain ⟨m, hm, ht⟩ := List.mem_filterMap.mp h
  obtain ⟨n, -, rfl⟩ := List.mem_map.mp hm
  split at ht
  · simp at ht
  · rw [← Option.some.inj ht]
    exact List.take_prefix _ _

/-- To put something where no directory is keeps all directories. -/
theorem exists_find?_put_of_exists {es : List (Name × Entry)} {l l' : Location} (e : Entry)
    (hfree : ¬∃ inner, find? es l = some (.folder inner)) (h : ∃ inner, find? es l' = some (.folder inner)) :
    ∃ inner, find? (put es l e) l' = some (.folder inner) := by
  by_cases hbelow : l <+: l'
  · exact absurd (HasFolder.of_prefix (d := ⟨es, ⟨[Path.slash]⟩, rfl⟩) h hbelow) hfree
  · by_cases habove : l' <+: l
    · refine exists_find?_put _ habove ?_
      rintro rfl
      exact hbelow habove
    · obtain ⟨inner, hinner⟩ := h
      exact ⟨inner, (find?_put_of_apart _ hbelow habove).trans hinner⟩

/-- **A directory was made.** -/
theorem grown_makeFolder {d d' : Disk} {root p : Path} (h : (Edit.makeFolder p).Arrives d root)
    (he : d.edit (.makeFolder p) = .ok d') : Grown d d' root (.makeFolder p) := by
  have hnames : ∀ t ∈ d.touches (.makeFolder p), ∀ n ∈ t.location, Path.IsName n :=
    fun t ht n hn => isName_of_mem_spelled ((prefix_of_mem_missing ht).subset hn)
  have hfree : ∀ m, m <+: d.place p → ¬d.HasFolder m → d.at? m = none := by
    intro m hm hnone
    have hall := h m.length hm.length_le
    rw [← List.prefix_iff_eq_take.mp hm] at hall
    cases hat : d.at? m with
    | none => rfl
    | some e =>
        rw [hat] at hall
        exact absurd (hasFolder_iff.mpr (by rw [hat]; exact hall)) hnone
  have hlost : ∀ l, d.place root <+: l → d.HasFolder l → ∀ gone ∈ Watcher.lost d (.makeFolder p), ¬gone <+: l :=
    fun _ _ _ _ hgone => by simp [Watcher.lost] at hgone
  rw [Disk.edit] at he
  split at he
  · obtain rfl := Except.ok.inj he
    exact ⟨rfl, id, fun _ _ h => h, fun _ _ h hnone => absurd h hnone, hnames, hlost⟩
  · next hother =>
      obtain rfl := Except.ok.inj he
      have hnone : ¬d.HasFolder (d.place p) := by
        rintro ⟨es, hes⟩
        exact hother es hes
      have hkeeps : ∀ l, d.HasFolder l →
          HasFolder { d with root := put d.root (d.place p) (.folder []) } l :=
        fun l hl => exists_find?_put_of_exists _ hnone hl
      refine ⟨rfl, isFolder_of_hasFolder hkeeps rfl, fun l _ => hkeeps l, ?_, hnames, hlost⟩
      intro l _ hl hold
      have hway : l <+: d.place p := by
        by_cases hbelow : d.place p <+: l
        · obtain ⟨more, rfl⟩ := hbelow
          obtain ⟨es, hes⟩ := hl
          rw [at?, find?_put_append] at hes
          cases more with
          | nil => simp
          | cons n more => simp [find?] at hes
        · by_cases habove : l <+: d.place p
          · exact habove
          · obtain ⟨es, hes⟩ := hl
            exact absurd ⟨es, (find?_put_of_apart _ hbelow habove).symm.trans hes⟩ hold
      obtain ⟨m, hm, hfolder, hmissing⟩ := exists_outermost hold
      have hne : m ≠ [] := by
        rintro rfl
        exact hmissing d.hasFolder_nil
      exact ⟨⟨m, true⟩, mem_missing (hm.trans hway) hne (hfree m (hm.trans hway) hmissing), rfl, hm,
        hfolder, hmissing⟩

/-- If the path of the root does not lead through something outside of it, then nothing below the root is
there. -/
theorem not_prefix_of_without {d : Disk} {root source : Path} (houtside : ¬d.place root <+: d.place source)
    (hleads : (d.without source).isFolder root = true) {l : Location} (hl : d.place root <+: l) :
    ¬d.place source <+: l := by
  intro hs
  rcases List.prefix_or_prefix_of_prefix hl hs with hinside | habove
  · exact houtside hinside
  · have hne : d.place root ≠ [] := fun hnil => houtside (hnil ▸ List.nil_prefix)
    obtain ⟨es, hes⟩ : (d.without source).HasFolder (d.place root) := hasFolder_place hleads
    simp [at?, without, find?_erase_of_prefix habove hne] at hes

/-- **A directory was moved in.** -/
theorem grown_rename {d d' : Disk} {root source target : Path} (h : (Edit.rename source target).Arrives d root)
    (he : d.edit (.rename source target) = .ok d') : Grown d d' root (.rename source target) := by
  obtain ⟨hsource, houtside, hleads, hinside, hfree⟩ := h
  rw [Disk.edit] at he
  split at he
  case h_2 => simp at he
  next l hl =>
    obtain rfl := eq_place_of_locate? hl
    split at he
    case h_2 => simp at he
    next e es hes hparent =>
      obtain rfl := Except.ok.inj he
      obtain ⟨inner, hinner⟩ := hsource
      obtain rfl : e = .folder inner := by simpa [hes] using hinner
      have hnone : ¬d.HasFolder (d.place target) := by
        rintro ⟨es, hes⟩
        simp [hes] at hfree
      have hapart : ∀ l, d.place root <+: l → ¬d.place source <+: l :=
        fun l hl => not_prefix_of_without houtside hleads hl
      have hput : ∀ l, (d.without source).HasFolder l →
          HasFolder { d with root := put (erase d.root (d.place source)) (d.place target) (.folder inner) } l :=
        fun l hl => exists_find?_put_of_exists _ (mt (find?_erase_iff (hapart _ hinside)).mp hnone) hl
      refine ⟨rfl, fun _ => isFolder_of_hasFolder hput rfl hleads, ?_, ?_, ?_, ?_⟩
      · exact fun l hroot hl => hput l ((find?_erase_iff (hapart l hroot)).mpr hl)
      · intro l hroot hl hold
        by_cases hbelow : d.place target <+: l
        · exact ⟨⟨d.place target, true⟩, by simp [touches], rfl, hbelow, ⟨_, hparent⟩, hnone⟩
        · exfalso
          apply hold
          by_cases hway : l <+: d.place target
          · refine HasFolder.of_prefix ⟨_, hparent⟩ (prefix_dropLast hway ?_)
            rintro rfl
            exact hbelow hway
          · obtain ⟨es, hes⟩ := hl
            exact (find?_erase_iff (hapart l hroot)).mp ⟨es, (find?_put_of_apart _ hbelow hway).symm.trans hes⟩
      · intro t ht n hn
        simp only [touches, List.mem_cons, List.not_mem_nil, or_false] at ht
        rcases ht with rfl | rfl
        · exact isName_of_mem_spelled hn
        · exact isName_of_mem_spelled hn
      · intro l hroot hl gone hgone
        simp only [Watcher.lost, List.mem_cons, List.not_mem_nil, or_false] at hgone
        rcases hgone with rfl | rfl
        · exact hapart l hroot
        · exact fun hbelow => hnone (hl.of_prefix hbelow)

/-- **Directories appear** by every change that lets some arrive. -/
theorem grown_edit {d d' : Disk} {root : Path} {e : Edit} (h : e.Arrives d root)
    (he : d.edit e = .ok d') : Grown d d' root e := by
  cases e with
  | makeFolder p => exact grown_makeFolder h he
  | rename source target => exact grown_rename h he
  | write p content => exact h.elim
  | remove p => exact h.elim

end Disk

/-! ## directories that may be watched -/

namespace Disk

/-- What is in a directory of a tidy disk is found under its name. -/
theorem Tidy.at?_of_mem {d : Disk} (h : d.Tidy) {l : Location} {es : List (Name × Entry)}
    (hes : d.at? l = some (.folder es)) {e : Name × Entry} (he : e ∈ es) :
    Path.IsName e.1 ∧ d.at? (l ++ [e.1]) = some e.2 := by
  have hfolder : (Entry.folder es).Tidy := (tidy_of_find? h hes).2
  cases hfolder with
  | folder once names inner =>
      refine ⟨names e he, ?_⟩
      rw [at?, find?_append hes, find?_cons, lookup_of_mem once he]
      rfl

/-- So it is behind a path to the directory. -/
theorem Tidy.entry?_of_mem {d : Disk} (h : d.Tidy) {dir : Path} {es : List (Name × Entry)}
    (hes : d.entry? dir = some (.folder es)) {e : Name × Entry} (he : e ∈ es) :
    d.entry? (dir.join e.1) = some e.2 := by
  have hfolder : (Entry.folder es).Tidy := (tidy_of_find? h (at?_place hes)).2
  cases hfolder with
  | folder once names inner => exact (entry?_join_of_some hes (names e he)).trans (lookup_of_mem once he)

/-- A path to a directory below the root, and in no skipped directory. -/
structure Watchable (d : Disk) (root dir : Path) : Prop where
  leads : d.isFolder dir = true
  below : ∃ names, d.absolute dir = (d.absolute root).below names ∧ ∀ n ∈ names, Path.IsName n ∧ n ∉ skippedNames

namespace Watchable

variable {d d' : Disk} {root dir : Path}

theorem refl (h : d.isFolder root = true) : d.Watchable root root := ⟨h, [], rfl, by simp⟩

theorem has (h : d.Watchable root dir) : d.has dir = true := by
  obtain ⟨es, hes⟩ := isFolder_iff.mp h.leads
  simp [Disk.has, hes]

/-- The location of the directory, seen from that of the root. -/
theorem exists_place (h : d.Watchable root dir) :
    ∃ names, d.place dir = d.place root ++ names ∧ ∀ n ∈ names, n ∉ skippedNames := by
  obtain ⟨names, hnames, hall⟩ := h.below
  exact ⟨names, by rw [place, hnames, spelled_below _ fun n hn => (hall n hn).1]; rfl, fun n hn => (hall n hn).2⟩

theorem prefix_place (h : d.Watchable root dir) : d.place root <+: d.place dir := by
  obtain ⟨names, hnames, -⟩ := h.exists_place
  exact ⟨names, hnames.symm⟩

/-- The absolute path leads to it too. -/
theorem absolute (h : d.Watchable root dir) : d.Watchable root (d.absolute dir) := by
  obtain ⟨es, hes⟩ := isFolder_iff.mp h.leads
  refine ⟨isFolder_iff.mpr ⟨es, ?_⟩, ?_⟩
  · rw [d.entry?_absolute (ne_nil_of_entry hes), hes]
  · rw [absolute_absolute]
    exact h.below

/-- It stays one when directories appear. -/
theorem grown (h : d.Watchable root dir) (hroot : d.isFolder root = true) {e : Edit} (hgrown : Grown d d' root e) :
    d'.Watchable root dir := by
  obtain ⟨es, hes⟩ := isFolder_iff.mp h.leads
  obtain ⟨names, hnames, hall⟩ := h.below
  have hkept := hgrown.keeps _ h.prefix_place (hasFolder_place h.leads)
  rw [place, hnames, spelled_below _ fun n hn => (hall n hn).1] at hkept
  -- the root leads to a directory, and so do the names behind it
  obtain ⟨es', hes'⟩ := isFolder_iff.mp (hgrown.leads hroot)
  rw [← d'.entry?_absolute (ne_nil_of_entry hes'), absolute_congr hgrown.current] at hes'
  have hat := at?_place hes'
  rw [d'.place_of_isAbsolute (d.isAbsolute_absolute root)] at hat
  obtain ⟨inner, hinner⟩ := hkept
  rw [at?, find?_append hat] at hinner
  have hleads := isFolder_below (fun n hn => (hall n hn).1) hes' ⟨inner, hinner⟩
  rw [← hnames, ← absolute_congr hgrown.current] at hleads
  refine ⟨?_, names, ?_, hall⟩
  · rwa [isFolder, d'.entry?_absolute (ne_nil_of_entry hes)] at hleads
  · rw [absolute_congr hgrown.current, absolute_congr hgrown.current, hnames]

/-- What is right in it is one, unless it is skipped. -/
theorem join (h : d.Watchable root dir) {n : Name} (hn : Path.IsName n) (hskipped : n ∉ skippedNames)
    (hfolder : d.HasFolder (d.place dir ++ [n])) : d.Watchable root (dir.join n) := by
  obtain ⟨es, hes⟩ := isFolder_iff.mp h.leads
  obtain ⟨names, hnames, hall⟩ := h.below
  refine ⟨?_, names ++ [n], ?_, ?_⟩
  · obtain ⟨inner, hinner⟩ := hfolder
    rw [at?, find?_append (at?_place hes), find?_cons] at hinner
    have hlookup : es.lookup n = some (.folder inner) := by simpa using hinner
    exact isFolder_iff.mpr ⟨inner, (entry?_join_of_some hes hn).trans hlookup⟩
  · rw [d.absolute_join dir hn.head?_ne, hnames, Path.below_concat]
  · intro m hm
    rcases List.mem_append.mp hm with hm | hm
    · exact hall m hm
    · exact List.mem_singleton.mp hm ▸ ⟨hn, hskipped⟩

/-- **The directories right in a directory** that are watched with it. -/
theorem mem_foldersIn (h : d.Watchable root dir) (htidy : d.Tidy) (q : Path) :
    q ∈ d.foldersIn dir ↔
      ∃ n, Path.IsName n ∧ n ∉ skippedNames ∧ d.HasFolder (d.place dir ++ [n]) ∧ q = dir.join n := by
  obtain ⟨es, hentry⟩ := isFolder_iff.mp h.leads
  have hes := at?_place hentry
  have hskipped {n : Name} (hn : Path.IsName n) :
      (!(dir.join n).isSkipped) = true ↔ n ∉ skippedNames := by
    simp [Path.isSkipped_join dir hn]
  simp only [foldersIn, hentry, Entry.entries, List.mem_map, List.mem_filter, Bool.and_eq_true]
  constructor
  · rintro ⟨⟨n, e⟩, ⟨hmem, hisFolder, hnot⟩, rfl⟩
    obtain ⟨hn, hat⟩ := htidy.at?_of_mem hes hmem
    refine ⟨n, hn, (hskipped hn).mp hnot, ?_, rfl⟩
    rw [hasFolder_iff, hat]
    exact hisFolder
  · rintro ⟨n, hn, hnot, ⟨inner, hinner⟩, rfl⟩
    rw [at?, find?_append hes, find?_cons] at hinner
    have hlookup : es.lookup n = some (.folder inner) := by simpa using hinner
    exact ⟨(n, .folder inner), ⟨mem_of_lookup hlookup, rfl, (hskipped hn).mpr hnot⟩, rfl⟩

/-- On the way to a directory further below, the next one is among them. -/
theorem exists_mem_foldersIn (h : d.Watchable root dir) (htidy : d.Tidy) {names : Location}
    (hnames : ∀ n ∈ names, n ∉ skippedNames) (hfolder : d.HasFolder (d.place root ++ names))
    (habove : d.place dir <+: d.place root ++ names) (hne : d.place dir ≠ d.place root ++ names) :
    ∃ q ∈ d.foldersIn dir, d.place q <+: d.place root ++ names := by
  obtain ⟨above, hplace, -⟩ := h.exists_place
  obtain ⟨more, hmore⟩ := habove
  cases more with
  | nil => exact absurd (by simpa using hmore) hne
  | cons n more =>
      have hsplit : names = above ++ n :: more := by
        rw [hplace, List.append_assoc] at hmore
        exact (List.append_cancel_left hmore).symm
      have hnext : d.place dir ++ [n] <+: d.place root ++ names := ⟨more, by simpa using hmore⟩
      have hfolder' := hfolder.of_prefix hnext
      have hn : Path.IsName n := by
        obtain ⟨es, hes⟩ := hfolder'
        exact (tidy_of_find? htidy hes).1 n (by simp)
      have hskipped : n ∉ skippedNames := hnames n (by simp [hsplit])
      refine ⟨dir.join n, (h.mem_foldersIn htidy _).mpr ⟨n, hn, hskipped, hfolder', rfl⟩, ?_⟩
      rwa [place_join _ dir hn]

end Watchable

end Disk

/-! ## events -/

namespace Watcher

theorem mem_watch {w : Watcher} {dir q : Path} :
    q ∈ (w.watch dir).watched ↔ (q ∈ w.watched ∧ q.same dir = false) ∨ q = dir := by
  simp [watch]

/-- A watched directory stays watched, if only under another spelling. -/
theorem exists_mem_watch {w : Watcher} {q : Path} (h : q ∈ w.watched) (dir : Path) :
    ∃ q' ∈ (w.watch dir).watched, Disk.spelled q' = Disk.spelled q := by
  by_cases hsame : q.same dir = true
  · exact ⟨dir, mem_watch.mpr (.inr rfl), (Disk.spelled_congr hsame).symm⟩
  · exact ⟨q, mem_watch.mpr (.inl ⟨h, by simpa using hsame⟩), rfl⟩

theorem of_dirAt? {w : Watcher} {l : Location} {dir : Path} (h : w.dirAt? l = some dir) :
    dir ∈ w.watched ∧ Disk.spelled dir = l := by
  have hspelled := List.find?_some h
  exact ⟨List.mem_of_find?_eq_some h, by simpa using hspelled⟩

theorem isSome_dirAt?_iff {w : Watcher} {l : Location} :
    (w.dirAt? l).isSome = true ↔ ∃ dir ∈ w.watched, Disk.spelled dir = l := by
  simp [dirAt?, List.find?_isSome]

/-- **What is reported**: an entry of a watched directory, as a configuration file if it has the name of
one, and else as a directory that appeared. -/
inductive Reports (w : Watcher) (after : Disk) (t : Touch) : WatchEvent → Prop
  | config {dir : Path} {n : Name} (hdir : dir ∈ w.watched) (hlocation : t.location = Disk.spelled dir ++ [n])
      (hconfig : (dir.join n).isConfigFile = true) : Reports w after t (.configChanged (dir.join n))
  | folder {dir : Path} {n : Name} (hdir : dir ∈ w.watched) (hlocation : t.location = Disk.spelled dir ++ [n])
      (hfolder : after.HasFolder t.location) (hskipped : (dir.join n).isSkipped = false) :
      Reports w after t (.folderAppeared (dir.join n))

theorem reports_of_report? {w : Watcher} {after : Disk} {t : Touch} {e : WatchEvent}
    (h : w.report? after t = some e) : w.Reports after t e := by
  unfold report? at h
  split at h
  · next dir n hdir hn =>
      obtain ⟨hmem, hspelled⟩ := of_dirAt? hdir
      have hlocation : t.location = Disk.spelled dir ++ [n] := by
        obtain ⟨above, habove⟩ := List.getLast?_eq_some_iff.mp hn
        rw [hspelled, habove, List.dropLast_concat]
      dsimp only at h
      split at h
      · next hconfig =>
          obtain rfl := Option.some.inj h
          exact .config hmem hlocation hconfig
      · split at h
        · next hfolder =>
            obtain rfl := Option.some.inj h
            simp only [Bool.and_eq_true, Bool.not_eq_true'] at hfolder
            exact .folder hmem hlocation (Disk.hasFolder_iff.mpr hfolder.1.2) hfolder.2
        · simp at h
  · simp at h

/-- **A directory that appears** in a watched one is reported, unless it is skipped. -/
theorem exists_report? {w : Watcher} {after : Disk} {t : Touch} {l : Location} {n : Name}
    (hwatched : (w.dirAt? l).isSome = true) (hlocation : t.location = l ++ [n])
    (hn : Path.IsName n) (hskipped : n ∉ skippedNames) (happeared : t.appeared = true)
    (hfolder : after.HasFolder t.location) :
    ∃ dir ∈ w.watched, Disk.spelled (dir.join n) = t.location ∧
      w.report? after t =
        some (if n = configName then .configChanged (dir.join n) else .folderAppeared (dir.join n)) := by
  obtain ⟨dir, hdir⟩ := Option.isSome_iff_exists.mp hwatched
  obtain ⟨hmem, hspelled⟩ := of_dirAt? hdir
  refine ⟨dir, hmem, by rw [Disk.spelled_join dir hn, hspelled, hlocation], ?_⟩
  have hlast : t.location.getLast? = some n := by rw [hlocation, List.getLast?_concat]
  have hfirst : t.location.dropLast = l := by rw [hlocation, List.dropLast_concat]
  have hconfig : (dir.join n).isConfigFile = true ↔ n = configName := by
    rw [Path.isConfigFile_join dir hn, beq_iff_eq]
  have hnot : (dir.join n).isSkipped = false := by simpa [Path.isSkipped_join dir hn] using hskipped
  unfold report?
  rw [hfirst, hdir, hlast]
  dsimp only
  by_cases hc : n = configName
  · rw [if_pos (hconfig.mpr hc), if_pos hc]
  · rw [if_neg (fun h => hc (hconfig.mp h)), if_neg hc, happeared, Disk.hasFolder_iff.mp hfolder, hnot]
    rfl

end Watcher

namespace WatchLoop

/-- The location of the root. -/
abbrev base (p : WatchLoop) : Location := p.disk.place p.watcher.root

/-! ## what is watched -/

/-- **What is watched or is going to be** may be watched, what is watched and what is reported is known by
absolute paths, and what was reported as a configuration file has the name of one. -/
structure Sound (p : WatchLoop) : Prop where
  tidy : p.disk.Tidy
  root : p.disk.isFolder p.watcher.root = true
  watched : ∀ dir ∈ p.watcher.watched, dir.isAbsolute = true ∧ p.disk.Watchable p.watcher.root dir
  tasks : ∀ c ∈ p.tasks, p.disk.Watchable p.watcher.root c.dir
  queue : ∀ dir, .folderAppeared dir ∈ p.queue → dir.isAbsolute = true ∧ p.disk.Watchable p.watcher.root dir
  reported : ∀ path, .configChanged path ∈ p.reported →
    ∃ names, Disk.spelled path = p.base ++ names ++ [configName]

theorem sound_start {d : Disk} {root : Path} (hd : d.Tidy) (hroot : d.isFolder root = true) :
    (start d root).Sound where
  tidy := hd
  root := hroot
  watched := by simp [start]
  tasks := by
    intro c hc
    rw [List.mem_singleton.mp hc]
    exact .refl hroot
  queue := by simp [start]
  reported := by simp [start]

theorem Sound.work {p : WatchLoop} (h : p.Sound) : p.work.Sound := by
  unfold WatchLoop.work
  split
  · exact h
  · next dir rest htasks =>
      obtain ⟨hdir, hrest⟩ := List.forall_mem_cons.mp (htasks ▸ h.tasks)
      have hhas : p.disk.has dir = true := hdir.has
      rw [if_pos hhas]
      refine ⟨h.tidy, h.root, ?_, ?_, h.queue, h.reported⟩
      · intro q hq
        rcases Watcher.mem_watch.mp hq with hq | rfl
        · exact h.watched q hq.1
        · exact ⟨p.disk.isAbsolute_absolute dir, hdir.absolute⟩
      · exact List.forall_mem_cons.mpr ⟨hdir, hrest⟩
  · next dir rest htasks =>
      obtain ⟨hdir, hrest⟩ := List.forall_mem_cons.mp (htasks ▸ h.tasks)
      refine ⟨h.tidy, h.root, h.watched, ?_, h.queue, h.reported⟩
      intro c hc
      rcases List.mem_append.mp hc with hc | hc
      · obtain ⟨q, hq, rfl⟩ := List.mem_map.mp hc
        obtain ⟨n, hn, hskipped, hfolder, rfl⟩ := (hdir.mem_foldersIn h.tidy q).mp hq
        exact hdir.join hn hskipped hfolder
      · exact hrest c hc

theorem Sound.take {p : WatchLoop} (h : p.Sound) : p.take.Sound := by
  unfold WatchLoop.take
  split
  · next dir rest htasks hqueue =>
      refine ⟨h.tidy, h.root, h.watched, ?_, ?_, h.reported⟩
      · intro c hc
        rw [List.mem_singleton.mp hc]
        exact (h.queue dir (hqueue ▸ List.mem_cons_self)).2
      · exact fun other hother => h.queue other (hqueue ▸ List.mem_cons_of_mem _ hother)
  · next hqueue =>
      refine ⟨h.tidy, h.root, h.watched, h.tasks, ?_, h.reported⟩
      exact fun dir hdir => h.queue dir (hqueue ▸ List.mem_cons_of_mem _ hdir)
  · exact h

theorem Sound.fail {p : WatchLoop} (h : p.Sound) (reason : String) : (p.fail reason).Sound := by
  refine ⟨h.tidy, h.root, h.watched, h.tasks, ?_, ?_⟩
  · exact fun dir hdir => h.queue dir (by simpa [WatchLoop.fail] using hdir)
  · exact fun path hpath => h.reported path (by simpa [WatchLoop.fail] using hpath)

/-- The location of a watched directory. -/
theorem Sound.spelled_eq {p : WatchLoop} (h : p.Sound) {dir : Path} (hdir : dir ∈ p.watcher.watched) :
    Disk.spelled dir = p.disk.place dir := (p.disk.place_of_isAbsolute (h.watched dir hdir).1).symm

/-- When directories appear, the watcher goes on watching all that it watched. -/
theorem Sound.observe_snd {p : WatchLoop} (h : p.Sound) {after : Disk} {e : Edit}
    (hgrown : Grown p.disk after p.watcher.root e) : (p.watcher.observe p.disk after e).2 = p.watcher := by
  have hall : p.watcher.watched.filter
      (fun q => !(Watcher.lost p.disk e).any (·.isPrefixOf (Disk.spelled q))) = p.watcher.watched := by
    rw [List.filter_eq_self]
    intro q hq
    have hq' := (h.watched q hq).2
    rw [Bool.not_eq_true', List.any_eq_false]
    intro gone hgone
    rw [List.isPrefixOf_iff_prefix, h.spelled_eq hq]
    exact hgrown.lost _ hq'.prefix_place (Disk.hasFolder_place hq'.leads) gone hgone
  simp only [Watcher.observe, hall]

theorem Sound.arrive {p : WatchLoop} (h : p.Sound) {e : Edit} (he : e.Arrives p.disk p.watcher.root) :
    (p.arrive e).Sound := by
  unfold WatchLoop.arrive
  split
  · next after hafter =>
      have hgrown := Disk.grown_edit he hafter
      have hreports : ∀ event ∈ (p.watcher.observe p.disk after e).1,
          ∃ t ∈ p.disk.touches e, p.watcher.Reports after t event := by
        intro event hevent
        obtain ⟨t, ht, hreport⟩ := List.mem_filterMap.mp hevent
        exact ⟨t, ht, Watcher.reports_of_report? hreport⟩
      have hname : ∀ t ∈ p.disk.touches e, ∀ {l : Location} {n : Name}, t.location = l ++ [n] → Path.IsName n :=
        fun t ht l n hl => hgrown.names t ht n (hl ▸ by simp)
      have hkept {dir : Path} (hdir : p.disk.Watchable p.watcher.root dir) :
          after.Watchable p.watcher.root dir := hdir.grown h.root hgrown
      simp only [h.observe_snd hgrown]
      refine ⟨h.tidy.edit hafter, hgrown.leads h.root, ?_, ?_, ?_, ?_⟩
      · exact fun dir hdir => ⟨(h.watched dir hdir).1, hkept (h.watched dir hdir).2⟩
      · exact fun c hc => hkept (h.tasks c hc)
      · intro dir hdir
        rcases List.mem_append.mp hdir with hdir | hdir
        · exact ⟨(h.queue dir hdir).1, hkept (h.queue dir hdir).2⟩
        · obtain ⟨t, ht, hreport⟩ := hreports _ hdir
          cases hreport with
          | folder hmem hlocation hfolder hskipped =>
              have hn := hname t ht hlocation
              obtain ⟨habsolute, hwatched⟩ := h.watched _ hmem
              refine ⟨Path.isAbsolute_join habsolute _, (hkept hwatched).join hn ?_ ?_⟩
              · simpa [Path.isSkipped_join _ hn] using hskipped
              · rw [hgrown.place_eq, ← h.spelled_eq hmem, ← hlocation]
                exact hfolder
      · intro path hpath
        simp only [hgrown.place_eq]
        rcases List.mem_append.mp hpath with hpath | hpath
        · exact h.reported path hpath
        · obtain ⟨t, ht, hreport⟩ := hreports _ hpath
          cases hreport with
          | @config dir n hmem hlocation hconfig =>
              have hn := hname t ht hlocation
              obtain ⟨names, hnames, -⟩ := (h.watched _ hmem).2.exists_place
              rw [Path.isConfigFile_join dir hn, beq_iff_eq] at hconfig
              exact ⟨names, by rw [Disk.spelled_join dir hn, h.spelled_eq hmem, hnames, hconfig]⟩
  · exact h

/-! ## what is covered -/

/-- **A place is covered**: it is watched, or something above it is still to be done, or something above
it was taken for a configuration file. -/
inductive Covered (p : WatchLoop) (l : Location) : Prop
  | watched (dir : Path) (hmem : dir ∈ p.watcher.watched) (hdir : Disk.spelled dir = l)
  | task (c : WatchTask) (hmem : c ∈ p.tasks) (hcovers : c.Covers p.disk l)
  | queued (dir : Path) (hmem : .folderAppeared dir ∈ p.queue) (habove : Disk.spelled dir <+: l)
  | mistaken (path : Path) (hmem : .configChanged path ∈ p.reported) (habove : Disk.spelled path <+: l)

/-- Every directory below the root is covered, unless it is in a skipped directory. -/
def Complete (p : WatchLoop) : Prop :=
  ∀ names, (∀ n ∈ names, n ∉ skippedNames) → p.disk.HasFolder (p.base ++ names) → p.Covered (p.base ++ names)

/-- At the start everything is covered by what is to be done first. -/
theorem complete_start (d : Disk) (root : Path) : (start d root).Complete :=
  fun names _ _ => .task (.watch root) List.mem_cons_self (List.prefix_append _ names)

theorem Complete.work {p : WatchLoop} (hsound : p.Sound) (h : p.Complete) : p.work.Complete := by
  unfold WatchLoop.work
  split
  · exact h
  · next dir rest htasks =>
      have hdir : p.disk.Watchable p.watcher.root dir := hsound.tasks (.watch dir) (htasks ▸ List.mem_cons_self)
      rw [if_pos hdir.has]
      intro names hnames hfolder
      cases h names hnames hfolder with
      | watched q hmem hq =>
          obtain ⟨q', hmem', hq'⟩ := Watcher.exists_mem_watch hmem (p.disk.absolute dir)
          exact .watched q' hmem' (hq'.trans hq)
      | task c hmem hcovers =>
          rcases List.mem_cons.mp (htasks ▸ hmem) with rfl | hmem
          · by_cases heq : p.disk.place dir = p.base ++ names
            · exact .watched (p.disk.absolute dir) (Watcher.mem_watch.mpr (.inr rfl)) heq
            · exact .task (.list dir) List.mem_cons_self ⟨hcovers, heq⟩
          · exact .task c (List.mem_cons_of_mem _ hmem) hcovers
      | queued dir' hmem habove => exact .queued dir' hmem habove
      | mistaken path hmem habove => exact .mistaken path hmem habove
  · next dir rest htasks =>
      have hdir : p.disk.Watchable p.watcher.root dir := hsound.tasks (.list dir) (htasks ▸ List.mem_cons_self)
      intro names hnames hfolder
      cases h names hnames hfolder with
      | watched q hmem hq => exact .watched q hmem hq
      | task c hmem hcovers =>
          rcases List.mem_cons.mp (htasks ▸ hmem) with rfl | hmem
          · obtain ⟨q, hq, hway⟩ := hdir.exists_mem_foldersIn hsound.tidy hnames hfolder hcovers.1 hcovers.2
            exact .task (.watch q) (List.mem_append_left _ (List.mem_map_of_mem hq)) hway
          · exact .task c (List.mem_append_right _ hmem) hcovers
      | queued dir' hmem habove => exact .queued dir' hmem habove
      | mistaken path hmem habove => exact .mistaken path hmem habove

theorem Complete.take {p : WatchLoop} (hsound : p.Sound) (h : p.Complete) : p.take.Complete := by
  unfold WatchLoop.take
  split
  · next dir rest htasks hqueue =>
      intro names hnames hfolder
      cases h names hnames hfolder with
      | watched q hmem hq => exact .watched q hmem hq
      | task c hmem hcovers => simp [htasks] at hmem
      | queued dir' hmem habove =>
          have habsolute := (hsound.queue dir' hmem).1
          rw [hqueue, List.mem_cons, WatchEvent.folderAppeared.injEq] at hmem
          rcases hmem with rfl | hmem
          · refine .task (.watch dir') List.mem_cons_self ?_
            rw [WatchTask.Covers, p.disk.place_of_isAbsolute habsolute]
            exact habove
          · exact .queued dir' hmem habove
      | mistaken path hmem habove => exact .mistaken path hmem habove
  · next other rest hother htasks hqueue =>
      intro names hnames hfolder
      cases h names hnames hfolder with
      | watched q hmem hq => exact .watched q hmem hq
      | task c hmem hcovers => exact .task c hmem hcovers
      | queued dir hmem habove =>
          rw [hqueue, List.mem_cons] at hmem
          exact .queued dir (hmem.resolve_left fun heq => hother dir heq.symm) habove
      | mistaken path hmem habove => exact .mistaken path hmem habove
  · exact h

theorem Complete.fail {p : WatchLoop} (h : p.Complete) (reason : String) : (p.fail reason).Complete := by
  intro names hnames hfolder
  cases h names hnames hfolder with
  | watched q hmem hq => exact .watched q hmem hq
  | task c hmem hcovers => exact .task c hmem hcovers
  | queued dir hmem habove => exact .queued dir (List.mem_append_left _ hmem) habove
  | mistaken path hmem habove => exact .mistaken path (List.mem_append_left _ hmem) habove

/-- A place below the root without a directory lies in another place below the root. -/
theorem Sound.exists_location {p : WatchLoop} (h : p.Sound) {l names : Location} (hl : l <+: p.base ++ names)
    (hnone : ¬p.disk.HasFolder l) :
    ∃ above n, l = p.base ++ above ++ [n] ∧ above ⊆ names ∧ n ∈ names := by
  have hfolder := Disk.hasFolder_place h.root
  have hroot : p.base <+: l := by
    rcases List.prefix_or_prefix_of_prefix (List.prefix_append p.base names) hl with hroot | habove
    · exact hroot
    · exact absurd (hfolder.of_prefix habove) hnone
  obtain ⟨below, rfl⟩ := hroot
  rcases List.eq_nil_or_concat below with rfl | ⟨above, n, rfl⟩
  · exact absurd (by simpa using hfolder) hnone
  · rw [List.concat_eq_append] at hl ⊢
    have hsub := ((List.prefix_append_right_inj p.base).mp hl).subset
    refine ⟨above, n, (List.append_assoc ..).symm, fun m hm => hsub ?_, hsub ?_⟩
    · exact List.mem_append_left [n] hm
    · exact List.mem_append_right above List.mem_cons_self

theorem Complete.arrive {p : WatchLoop} (hsound : p.Sound) (h : p.Complete) {e : Edit}
    (he : e.Arrives p.disk p.watcher.root) : (p.arrive e).Complete := by
  unfold WatchLoop.arrive
  split
  · next after hafter =>
      have hgrown := Disk.grown_edit he hafter
      have hcovers' {c : WatchTask} {l : Location} (hc : c.Covers p.disk l) : c.Covers after l := by
        cases c <;> simpa only [WatchTask.Covers, hgrown.place_eq] using hc
      simp only [hsound.observe_snd hgrown]
      intro names hnames hfolder
      simp only [hgrown.place_eq] at hfolder ⊢
      by_cases hold : p.disk.HasFolder (p.base ++ names)
      · cases h names hnames hold with
        | watched q hmem hq => exact .watched q hmem hq
        | task c hmem hcovers => exact .task c hmem (hcovers' hcovers)
        | queued dir hmem habove => exact .queued dir (List.mem_append_left _ hmem) habove
        | mistaken path hmem habove => exact .mistaken path (List.mem_append_left _ hmem) habove
      · -- the outermost new directory on the way was touched, and the one it is in is covered
        obtain ⟨t, ht, happeared, habove, hparent, hnew⟩ :=
          hgrown.touched _ (List.prefix_append _ names) hfolder hold
        obtain ⟨above, n, hlocation, hbefore, hn⟩ := hsound.exists_location habove hnew
        have hfolder' := hfolder.of_prefix habove
        have hname : Path.IsName n := hgrown.names t ht n (by simp [hlocation])
        rw [hlocation, List.dropLast_concat] at hparent
        have hway : p.base ++ above <+: p.base ++ names :=
          (List.prefix_append _ [n]).trans (hlocation ▸ habove)
        cases h above (fun m hm => hnames m (hbefore hm)) hparent with
        | watched q hmem hq =>
            obtain ⟨dir, -, hspelled, hreport⟩ := Watcher.exists_report?
              (Watcher.isSome_dirAt?_iff.mpr ⟨q, hmem, hq⟩) hlocation hname (hnames n hn) happeared hfolder'
            have hevent := List.mem_filterMap.mpr ⟨t, ht, hreport⟩
            split at hevent
            · exact .mistaken _ (List.mem_append_right _ hevent) (hspelled ▸ habove)
            · exact .queued _ (List.mem_append_right _ hevent) (hspelled ▸ habove)
        | task c hmem hcovers => exact .task c hmem (hcovers' (hcovers.mono hway))
        | queued dir hmem habove' => exact .queued dir (List.mem_append_left _ hmem) (habove'.trans hway)
        | mistaken path hmem habove' =>
            exact .mistaken path (List.mem_append_left _ hmem) (habove'.trans hway)
  · exact h

/-! ## undisturbed work -/

theorem run_append (p : WatchLoop) (moves more : List Move) :
    p.run (moves ++ more) = (p.run moves).run more := List.foldl_append

/-- One task, and then others. -/
theorem exists_run_cons {p q r : WatchLoop} (hfirst : p.work = q)
    (h : ∃ n, q.run (List.replicate n .work) = r) : ∃ n, p.run (List.replicate n .work) = r := by
  obtain ⟨n, hn⟩ := h
  subst hfirst
  exact ⟨n + 1, hn⟩

/-- Some tasks, and then others. -/
theorem exists_run_trans {p q r : WatchLoop} (hfirst : ∃ n, p.run (List.replicate n .work) = q)
    (h : ∃ n, q.run (List.replicate n .work) = r) : ∃ n, p.run (List.replicate n .work) = r := by
  obtain ⟨n, rfl⟩ := hfirst
  obtain ⟨m, hm⟩ := h
  exact ⟨n + m, by rw [← List.replicate_append_replicate, run_append, hm]⟩

section Undisturbed

variable {d : Disk} (queue reported : List WatchEvent)

mutual

/-- To watch the tree of a directory. -/
theorem exists_run_tree (htidy : d.Tidy) (w : Watcher) (rest : List WatchTask) (dir : Path) :
    (e : Entry) → d.entry? dir = some e → e.isFolder = true →
      ∃ n, (⟨d, w, .watch dir :: rest, queue, reported⟩ : WatchLoop).run (List.replicate n .work) =
        ⟨d, w.add ((Reach.full.tree dir e).map d.absolute), rest, queue, reported⟩
  | .file _, _, hfolder => by simp [Entry.isFolder] at hfolder
  | .folder es, hentry, _ => by
      refine exists_run_cons (q := ⟨d, w.watch (d.absolute dir), .list dir :: rest, queue, reported⟩) ?_ ?_
      · simp [WatchLoop.work, Disk.has, hentry]
      refine exists_run_cons rfl ?_
      have hamong := exists_run_among htidy (w.watch (d.absolute dir)) rest dir es fun e he =>
        htidy.entry?_of_mem hentry he
      simpa [WatchLoop.work, Disk.foldersIn, hentry, Entry.entries, Reach.tree, Reach.full, Watcher.add] using hamong
termination_by structural e => e

/-- To watch the trees of the directories right in one. -/
theorem exists_run_among (htidy : d.Tidy) (w : Watcher) (rest : List WatchTask) (dir : Path) :
    (es : List (Name × Entry)) → (∀ e ∈ es, d.entry? (dir.join e.1) = some e.2) →
      ∃ n, (⟨d, w, ((es.filter fun p => p.2.isFolder && !(dir.join p.1).isSkipped).map
          fun p => dir.join p.1).map .watch ++ rest, queue, reported⟩ : WatchLoop).run (List.replicate n .work) =
        ⟨d, w.add ((Reach.full.among dir es).map d.absolute), rest, queue, reported⟩
  | [], _ => ⟨0, rfl⟩
  | (n, e) :: es, hes => by
      obtain ⟨hentry, hrest⟩ := List.forall_mem_cons.mp hes
      rw [Reach.among]
      by_cases hwatch : (e.isFolder && !(dir.join n).isSkipped) = true
      · have hfolder : e.isFolder = true := (Bool.and_eq_true _ _ ▸ hwatch).1
        rw [List.filter_cons, if_pos hwatch, if_pos hwatch]
        refine exists_run_trans (exists_run_tree htidy w _ (dir.join n) e hentry hfolder) ?_
        have hmore := exists_run_among htidy (w.add ((Reach.full.tree (dir.join n) e).map d.absolute)) rest dir es hrest
        simpa [Watcher.add, List.foldl_append] using hmore
      · rw [List.filter_cons, if_neg hwatch, if_neg hwatch]
        exact exists_run_among htidy w rest dir es hrest
termination_by structural es => es

end

end Undisturbed

/-- **Undisturbed**, the tasks that begin with a directory amount to watching its tree at once. -/
theorem run_undisturbed {p : WatchLoop} (h : p.Sound) {dir : Path} {rest : List WatchTask}
    (htasks : p.tasks = .watch dir :: rest) :
    ∃ n w, p.watcher.watchTree p.disk dir = .ok w ∧
      p.run (List.replicate n .work) = { p with watcher := w, tasks := rest } := by
  have hdir : p.disk.Watchable p.watcher.root dir := h.tasks (.watch dir) (htasks ▸ List.mem_cons_self)
  obtain ⟨es, hes⟩ := Disk.isFolder_iff.mp hdir.leads
  obtain ⟨d, w, tasks, queue, reported⟩ := p
  dsimp only at htasks hes h
  subst htasks
  obtain ⟨n, hn⟩ := exists_run_tree queue reported h.tidy w rest dir _ hes rfl
  refine ⟨n, _, ?_, hn⟩
  rw [Watcher.watchTree, Watcher.watchTreeWithin, hes]
  rfl

/-- **To take a directory that appeared undisturbed** is what the server does with it. -/
theorem run_take_undisturbed {p : WatchLoop} (h : p.Sound) (hidle : p.tasks = []) {dir : Path}
    {rest : List WatchEvent} (hqueue : p.queue = .folderAppeared dir :: rest) :
    ∃ n, p.run (.take :: List.replicate n .work) =
      { p with watcher := p.watcher.extend p.disk dir, queue := rest } := by
  have htake : p.take = { p with tasks := [.watch dir], queue := rest } := by
    simp only [WatchLoop.take, hidle, hqueue]
  obtain ⟨n, w, hw, hn⟩ := run_undisturbed (htake ▸ h.take) rfl
  refine ⟨n, ?_⟩
  have hw' : p.watcher.watchTree p.disk dir = .ok w := hw
  change p.take.run _ = _
  rw [htake, hn, Watcher.extend, hw', hidle]
  rfl

/-! ## everything that happens -/

/-- The root stays where it is. -/
theorem base_step (p : WatchLoop) (m : Move) : (p.step m).base = p.base := by
  have hstays : (p.step m).watcher.root = p.watcher.root ∧ (p.step m).disk.current = p.disk.current := by
    cases m with
    | work =>
        simp only [step, WatchLoop.work]
        split
        · exact ⟨rfl, rfl⟩
        · split <;> exact ⟨rfl, rfl⟩
        · exact ⟨rfl, rfl⟩
    | take =>
        simp only [step, WatchLoop.take]
        split <;> exact ⟨rfl, rfl⟩
    | arrive e =>
        simp only [step, WatchLoop.arrive]
        split
        · split
          · next hafter => exact ⟨rfl, Disk.current_edit hafter⟩
          · exact ⟨rfl, rfl⟩
        · exact ⟨rfl, rfl⟩
    | fail reason => exact ⟨rfl, rfl⟩
  rw [base, hstays.1, Disk.place, Disk.absolute_congr hstays.2]
  rfl

/-- **One step** keeps what is watched sound, and what is covered complete. -/
theorem step_keeps {p : WatchLoop} (hsound : p.Sound) (h : p.Complete) (m : Move) :
    (p.step m).Sound ∧ (p.step m).Complete := by
  cases m with
  | work => exact ⟨hsound.work, h.work hsound⟩
  | take => exact ⟨hsound.take, h.take hsound⟩
  | arrive e =>
      rw [step]
      split
      · next he => exact ⟨hsound.arrive he, h.arrive hsound he⟩
      · exact ⟨hsound, h⟩
  | fail reason => exact ⟨hsound.fail reason, h.fail reason⟩

/-- **So does everything that happens.** -/
theorem run_keeps {p : WatchLoop} (hsound : p.Sound) (h : p.Complete) (moves : List Move) :
    (p.run moves).Sound ∧ (p.run moves).Complete ∧ (p.run moves).base = p.base := by
  induction moves generalizing p with
  | nil => exact ⟨hsound, h, rfl⟩
  | cons m rest ih =>
      obtain ⟨hsound', h'⟩ := step_keeps hsound h m
      obtain ⟨hsound', h', hbase⟩ := ih hsound' h'
      exact ⟨hsound', h', hbase.trans (p.base_step m)⟩

/-- **Every directory is watched.**  However directories appear while the watcher is at work, and however often
watching fails: when nothing is left to do and no event is waiting, every directory below the root that is in no
skipped directory is watched, or lies in one that was reported as a configuration file because of its name.  And
what is watched is never in a skipped directory. -/
theorem directories_watched {d : Disk} {root : Path} (hd : d.Tidy) (hroot : d.isFolder root = true)
    (moves : List Move) :
    let p := (start d root).run moves
    (p.tasks = [] → p.queue = [] → ∀ names, (∀ n ∈ names, n ∉ skippedNames) →
      p.disk.HasFolder (d.place root ++ names) →
        (p.watcher.dirAt? (d.place root ++ names)).isSome = true ∨
          ∃ path above below, .configChanged path ∈ p.reported ∧ names = above ++ configName :: below ∧
            Disk.spelled path = d.place root ++ above ++ [configName]) ∧
      ∀ dir ∈ p.watcher.watched, ∃ names, Disk.spelled dir = d.place root ++ names ∧
        ∀ n ∈ names, n ∉ skippedNames := by
  intro p
  obtain ⟨hsound, hcomplete, hbase⟩ := run_keeps (sound_start hd hroot) (complete_start d root) moves
  have hplace : d.place root = p.base := hbase.symm
  rw [hplace]
  constructor
  · intro htasks hqueue names hnames hhas
    cases hcomplete names hnames hhas with
    | watched dir hmem hdir => exact .inl (Watcher.isSome_dirAt?_iff.mpr ⟨dir, hmem, hdir⟩)
    | task c hmem hcovers => exact absurd hmem (by rw [htasks]; exact List.not_mem_nil)
    | queued dir hmem habove => exact absurd hmem (by rw [hqueue]; exact List.not_mem_nil)
    | mistaken path hmem habove =>
        obtain ⟨above, hpath⟩ := hsound.reported path hmem
        rw [hpath, List.append_assoc, List.prefix_append_right_inj] at habove
        obtain ⟨below, hbelow⟩ := habove
        exact .inr ⟨path, above, below, hmem, by simpa using hbelow.symm, hpath⟩
  · intro dir hmem
    rw [hsound.spelled_eq hmem]
    exact (hsound.watched dir hmem).2.exists_place

/-- A directory that is made in one that was made before it is watched, below a root with a relative path. -/
theorem nested_directory_watched :
    let d : Disk := { root := [("ws".toUTF8.toList, .folder [])] }
    let root : Path := .ofString "ws/../ws"
    let p := (start d root).run [.work, .work, .fail "overflow", .arrive (.makeFolder (.ofString "/ws/a/b")),
      .take, .take, .work, .work, .work, .work]
    p.tasks = [] ∧ p.queue = [] ∧
      (p.watcher.dirAt? (d.place root ++ ["a".toUTF8.toList, "b".toUTF8.toList])).isSome = true := by
  intro d root p
  have hd : d.Tidy := .folder (by decide +kernel) (by decide +kernel) (by simp [d, Disk.tidy_nil])
  have htasks : p.tasks = [] := by decide +kernel
  have hqueue : p.queue = [] := by decide +kernel
  have hidle := (directories_watched hd (by decide +kernel : d.isFolder root = true) _).1 htasks hqueue
  refine ⟨htasks, hqueue, (hidle ["a".toUTF8.toList, "b".toUTF8.toList] ?_ ?_).resolve_right ?_⟩
  · decide +kernel
  · decide +kernel
  · rintro ⟨path, above, below, -, hnames, -⟩
    have hmem : configName ∈ ["a".toUTF8.toList, "b".toUTF8.toList] := hnames ▸ by simp
    exact absurd hmem (by decide +kernel)

/-- A directory with the name of a configuration file is not watched. -/
theorem directory_named_as_configuration :
    let d : Disk := { root := [("ws".toUTF8.toList, .folder [])] }
    let root : Path := .ofString "/ws"
    let p := (start d root).run
      [.work, .work, .arrive (.makeFolder (.ofString "/ws/.code-check.toml")), .take]
    p.tasks = [] ∧ p.queue = [] ∧ configName ∉ skippedNames ∧
      p.disk.HasFolder (d.place root ++ [configName]) ∧
      p.watcher.dirAt? (d.place root ++ [configName]) = none := by
  decide +kernel

end WatchLoop

end LintServer
