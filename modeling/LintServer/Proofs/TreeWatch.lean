import LintServer.Proofs.WatchLoop
import Mathlib.Data.List.Basic

/-!
# Watching a tree where not all is permitted

A directory that cannot be watched is an error only where watching starts: further down it is left out with
all that is below it, and its siblings follow.  Of a directory that cannot be listed what is below it is left
out, and that is never an error.  `Watcher.watchTreeWithin` collects the directories of a tree and then
watches them, so the errors further down do not show.  Here they do:

* `Reach.visitTree` — the directories are watched one after the other, by a watcher that stays behind when
  there is an error, and errors further down are caught;
* `Reach.run_visitTree` — this amounts to `Watcher.watchTreeWithin`;
* `Reach.Passes` — what is asked of the way down to a directory;
* `Reach.mem_tree_iff` — the directories of a tree that are watched are those with such a way.

The main statement is `Watcher.reached_directories_watched`.
-/

namespace LintServer

/-! ## the way down -/

namespace Disk

/-- The directories below an entry, seen from the disk. -/
theorem exists_find?_entries_iff {d : Disk} {l : Location} {e : Entry} (h : d.at? l = some e) {names : Location}
    (hne : names ≠ []) :
    (∃ inner, find? e.entries names = some (.folder inner)) ↔ d.HasFolder (l ++ names) := by
  cases e with
  | folder es => rw [HasFolder, at?, find?_append h, Entry.entries]
  | file content =>
      -- there is nothing below a file
      obtain ⟨n, rest, rfl⟩ := List.exists_cons_of_ne_nil hne
      constructor
      · rintro ⟨inner, hinner⟩
        simp [Entry.entries, find?] at hinner
      · rintro ⟨es, hes⟩
        obtain ⟨inner, hinner⟩ := exists_of_find?_append hes
        simp [at?, hinner] at h

end Disk

/-! ## watched directories -/

namespace Watcher

theorem add_append (w : Watcher) (dirs more : List Path) : w.add (dirs ++ more) = (w.add dirs).add more :=
  List.foldl_append

theorem root_add (w : Watcher) (dirs : List Path) : (w.add dirs).root = w.root := by
  induction dirs generalizing w with
  | nil => rfl
  | cons dir rest ih => exact ih (w.watch dir)

/-- One more directory is watched, and all that were. -/
theorem isSome_dirAt?_watch {w : Watcher} {dir : Path} {l : Location} :
    ((w.watch dir).dirAt? l).isSome = true ↔ (w.dirAt? l).isSome = true ∨ Disk.spelled dir = l := by
  simp only [isSome_dirAt?_iff]
  constructor
  · rintro ⟨q, hq, rfl⟩
    rcases mem_watch.mp hq with hq | rfl
    · exact .inl ⟨q, hq.1, rfl⟩
    · exact .inr rfl
  · rintro (⟨q, hq, rfl⟩ | rfl)
    · exact exists_mem_watch hq dir
    · exact ⟨dir, mem_watch.mpr (.inr rfl), rfl⟩

/-- **More directories are watched**, and all that were. -/
theorem isSome_dirAt?_add {w : Watcher} {dirs : List Path} {l : Location} :
    ((w.add dirs).dirAt? l).isSome = true ↔
      (w.dirAt? l).isSome = true ∨ ∃ dir ∈ dirs, Disk.spelled dir = l := by
  induction dirs generalizing w with
  | nil => simp [add]
  | cons dir rest ih =>
      rw [add, List.foldl_cons, ← add, ih, isSome_dirAt?_watch, List.exists_mem_cons_iff, or_assoc]

end Watcher

/-! ## one directory after the other -/

/-- To watch something, with a watcher that is there after an error too. -/
abbrev Watching := ExceptT WatchError (StateM Watcher)

namespace Reach

/-- Watches one directory. -/
def watchOne (r : Reach) (d : Disk) (dir : Path) : Watching Unit :=
  if r.canWatch dir then modify (·.watch (d.absolute dir)) else throw ⟨dir⟩

mutual

/-- Watches the entry at `path` and then the directories in it. -/
def visit (r : Reach) (d : Disk) (path : Path) : Entry → Watching Unit
  | .file _ => r.watchOne d path
  | .folder es => do
    r.watchOne d path
    if r.canList path then r.visitAmong d path es
termination_by structural e => e

/-- Watches the directories among the entries of `dir`, each with those in it.  An error ends the visit of
the one directory and no other. -/
def visitAmong (r : Reach) (d : Disk) (dir : Path) : List (Name × Entry) → Watching Unit
  | [] => pure ()
  | (n, e) :: rest => do
    if e.isFolder && !(dir.join n).isSkipped then
      try r.visit d (dir.join n) e catch _ => pure ()
    r.visitAmong d dir rest
termination_by structural es => es

end

/-- Watches a directory and all below it, one after the other. -/
def visitTree (r : Reach) (d : Disk) (dir : Path) : Watching Unit :=
  match d.entry? dir with
  | some e => r.visit d dir e
  | none => throw ⟨dir⟩

theorem run_watchOne (r : Reach) (d : Disk) (dir : Path) (w : Watcher) :
    (r.watchOne d dir).run.run w =
      if r.canWatch dir then (.ok (), w.watch (d.absolute dir)) else (.error ⟨dir⟩, w) := by
  unfold watchOne
  split <;> rfl

/-- Nothing of a tree is watched if its root cannot be. -/
theorem tree_of_not_canWatch {r : Reach} {path : Path} (h : ¬r.canWatch path = true) (e : Entry) :
    r.tree path e = [] := by
  cases e <;> simp [tree, h]

mutual

/-- **To visit an entry** is to watch its tree, and an error if the entry itself cannot be watched. -/
theorem run_visit (r : Reach) (d : Disk) (w : Watcher) (path : Path) :
    (e : Entry) → (r.visit d path e).run.run w =
      if r.canWatch path then (.ok (), w.add ((r.tree path e).map d.absolute)) else (.error ⟨path⟩, w)
  | .file _ => by
      rw [visit, run_watchOne, tree]
      split <;> rfl
  | .folder es => by
      rw [visit, ExceptT.run_bind, StateT.run_bind, run_watchOne, tree]
      split
      · split
        · exact run_visitAmong r d (w.watch (d.absolute path)) path es
        · rfl
      · rfl
termination_by structural e => e

/-- To visit the directories among entries is never an error. -/
theorem run_visitAmong (r : Reach) (d : Disk) (w : Watcher) (dir : Path) :
    (es : List (Name × Entry)) →
      (r.visitAmong d dir es).run.run w = (.ok (), w.add ((r.among dir es).map d.absolute))
  | [] => rfl
  | (n, e) :: rest => by
      rw [visitAmong, among]
      split
      · rw [ExceptT.run_bind, StateT.run_bind, ExceptT.run_tryCatch, StateT.run_bind, run_visit,
          List.map_append, Watcher.add_append]
        split
        · exact run_visitAmong r d (w.add ((r.tree (dir.join n) e).map d.absolute)) dir rest
        · next hwatch =>
            -- the error is caught, and the watcher is what it was
            rw [tree_of_not_canWatch hwatch]
            exact run_visitAmong r d w dir rest
      · exact run_visitAmong r d w dir rest
termination_by structural es => es

end

/-- To watch a tree is an error only at its root. -/
theorem watchTreeWithin_eq (r : Reach) (w : Watcher) (d : Disk) (dir : Path) :
    w.watchTreeWithin r d dir =
      match d.entry? dir with
      | some e => if r.canWatch dir then .ok (w.add ((r.tree dir e).map d.absolute)) else .error ⟨dir⟩
      | none => .error ⟨dir⟩ := by
  unfold Watcher.watchTreeWithin
  cases d.entry? dir with
  | none => rfl
  | some e =>
      dsimp only
      split
      · next hnil =>
          have hwatch : ¬r.canWatch dir = true := by
            intro hwatch
            cases e <;> simp [tree, hwatch] at hnil
          rw [if_neg hwatch]
      · next hcons =>
          have hwatch : r.canWatch dir = true := by
            by_contra hwatch
            exact hcons (tree_of_not_canWatch hwatch e)
          rw [if_pos hwatch]

/-- A tree is watched, or its root cannot be. -/
theorem watchTreeWithin_cases (r : Reach) (w : Watcher) (d : Disk) (dir : Path) :
    (d.has dir = true ∧ r.canWatch dir = true) ∧
        (∃ after, w.watchTreeWithin r d dir = .ok after ∧ after.root = w.root) ∨
      ¬(d.has dir = true ∧ r.canWatch dir = true) ∧ w.watchTreeWithin r d dir = .error ⟨dir⟩ := by
  rw [watchTreeWithin_eq, Disk.has]
  cases d.entry? dir with
  | none => exact .inr ⟨by simp, rfl⟩
  | some e =>
      by_cases hwatch : r.canWatch dir = true
      · exact .inl ⟨⟨rfl, hwatch⟩, _, if_pos hwatch, w.root_add _⟩
      · exact .inr ⟨fun h => hwatch h.2, if_neg hwatch⟩

/-- **One after the other or at once** is the same, and after an error the watcher is what it was. -/
theorem run_visitTree (r : Reach) (w : Watcher) (d : Disk) (dir : Path) :
    (r.visitTree d dir).run.run w =
      match w.watchTreeWithin r d dir with
      | .ok after => (.ok (), after)
      | .error e => (.error e, w) := by
  rw [watchTreeWithin_eq, visitTree]
  cases d.entry? dir with
  | none => rfl
  | some e =>
      dsimp only
      rw [run_visit]
      split <;> rfl

/-! ## directories that are reached -/

/-- **The way down is free** from a directory along names: none of them is skipped, what they lead to can be
watched at each step, and what the step is made from can be listed. -/
structure Passes (r : Reach) (dir : Path) (names : Location) : Prop where
  kept : ∀ n ∈ names, n ∉ skippedNames
  watched : ∀ k < names.length, r.canWatch (dir.below (names.take (k + 1))) = true
  listed : ∀ k < names.length, r.canList (dir.below (names.take k)) = true

instance (r : Reach) (dir : Path) (names : Location) : Decidable (r.Passes dir names) :=
  decidable_of_iff
    ((∀ n ∈ names, n ∉ skippedNames) ∧
      (∀ k < names.length, r.canWatch (dir.below (names.take (k + 1))) = true) ∧
      ∀ k < names.length, r.canList (dir.below (names.take k)) = true)
    ⟨fun h => ⟨h.1, h.2.1, h.2.2⟩, fun h => ⟨h.kept, h.watched, h.listed⟩⟩

theorem passes_nil (r : Reach) (dir : Path) : r.Passes dir [] := ⟨by simp, by simp, by simp⟩

/-- One step of the way. -/
theorem passes_cons_iff {r : Reach} {dir : Path} {n : Name} {rest : Location} :
    r.Passes dir (n :: rest) ↔
      r.canList dir = true ∧ n ∉ skippedNames ∧ r.canWatch (dir.join n) = true ∧ r.Passes (dir.join n) rest := by
  constructor
  · rintro ⟨hkept, hwatched, hlisted⟩
    rw [List.forall_mem_cons] at hkept
    rw [List.length_cons, Nat.forall_lt_succ_left] at hwatched hlisted
    exact ⟨hlisted.1, hkept.1, hwatched.1, hkept.2, hwatched.2, hlisted.2⟩
  · rintro ⟨hlist, hn, hwatch, hkept, hwatched, hlisted⟩
    refine ⟨List.forall_mem_cons.mpr ⟨hn, hkept⟩, ?_, ?_⟩
    · exact Nat.forall_lt_succ_left.mpr ⟨hwatch, hwatched⟩
    · exact Nat.forall_lt_succ_left.mpr ⟨hlist, hlisted⟩

theorem mem_among_iff {r : Reach} {dir : Path} {es : List (Name × Entry)} {q : Path} :
    q ∈ r.among dir es ↔
      ∃ n e, (n, e) ∈ es ∧ e.isFolder = true ∧ (dir.join n).isSkipped = false ∧ q ∈ r.tree (dir.join n) e := by
  induction es with
  | nil => simp [among]
  | cons first rest ih =>
      obtain ⟨n, e⟩ := first
      rw [among, List.mem_append, ih]
      constructor
      · rintro (hfirst | ⟨m, e', hmem, h⟩)
        · rw [List.mem_ite_nil_right, Bool.and_eq_true, Bool.not_eq_true'] at hfirst
          exact ⟨n, e, List.mem_cons_self, hfirst.1.1, hfirst.1.2, hfirst.2⟩
        · exact ⟨m, e', List.mem_cons_of_mem _ hmem, h⟩
      · rintro ⟨m, e', hmem, hfolder, hskipped, hq⟩
        rcases List.mem_cons.mp hmem with heq | hmem
        · obtain ⟨rfl, rfl⟩ := Prod.mk.inj heq
          left
          rw [hfolder, hskipped]
          exact hq
        · exact .inr ⟨m, e', hmem, hfolder, hskipped, hq⟩

/-- **What is watched of a tree** are its root, if that can be watched, and the directories below to which
the way is free. -/
theorem mem_tree_iff (r : Reach) {e : Entry} (h : e.Tidy) (dir q : Path) :
    q ∈ r.tree dir e ↔ r.canWatch dir = true ∧ ∃ names,
      (∃ inner, Disk.find? e.entries names = some (.folder inner)) ∧ r.Passes dir names ∧ q = dir.below names := by
  induction h generalizing dir with
  | file content =>
      rw [tree, List.mem_ite_nil_right, List.mem_singleton]
      refine and_congr_right fun _ => ⟨?_, ?_⟩
      · rintro rfl
        exact ⟨[], ⟨[], rfl⟩, r.passes_nil q, rfl⟩
      · rintro ⟨names, hfind, -, rfl⟩
        cases names with
        | nil => rfl
        | cons n rest => simp [Entry.entries, Disk.find?] at hfind
  | @folder es once names inner ih =>
      rw [tree, List.mem_ite_nil_right, List.mem_cons, List.mem_ite_nil_right, mem_among_iff]
      have hskipped {n : Name} (hn : Path.IsName n) : (dir.join n).isSkipped = false ↔ n ∉ skippedNames := by
        simp [Path.isSkipped_join dir hn]
      refine and_congr_right fun _ => ⟨?_, ?_⟩
      · rintro (rfl | ⟨hlist, n, e, hmem, hfolder, hkept, hq⟩)
        · exact ⟨[], ⟨es, rfl⟩, r.passes_nil q, rfl⟩
        · have hn : Path.IsName n := names _ hmem
          obtain ⟨hwatch, rest, hfind, hpasses, rfl⟩ := (ih _ hmem (dir.join n)).mp hq
          refine ⟨n :: rest, ?_, passes_cons_iff.mpr ⟨hlist, (hskipped hn).mp hkept, hwatch, hpasses⟩, rfl⟩
          exact Disk.exists_find?_cons_iff.mpr ⟨e, lookup_of_mem once hmem, hfolder, hfind⟩
      · rintro ⟨way, hfind, hpasses, rfl⟩
        cases way with
        | nil => exact .inl rfl
        | cons n rest =>
            obtain ⟨e, hlookup, hfolder, hfind⟩ := Disk.exists_find?_cons_iff.mp hfind
            obtain ⟨hlist, hkept, hwatch, hpasses⟩ := passes_cons_iff.mp hpasses
            have hmem := mem_of_lookup hlookup
            have hn : Path.IsName n := names _ hmem
            have hq := (ih _ hmem (dir.join n)).mpr ⟨hwatch, rest, hfind, hpasses, rfl⟩
            exact .inr ⟨hlist, n, e, hmem, hfolder, (hskipped hn).mpr hkept, hq⟩

/-- **A directory is reached** from the one at `dir`: it is that one, or there is a free way down to it. -/
def Reaches (r : Reach) (d : Disk) (dir : Path) (l : Location) : Prop :=
  l = d.place dir ∨ ∃ names, names ≠ [] ∧ l = d.place dir ++ names ∧ d.HasFolder l ∧ r.Passes dir names

/-- What is watched of the tree at a path is what is reached from there. -/
theorem exists_mem_tree_iff (r : Reach) {d : Disk} (hd : d.Tidy) {dir : Path} {e : Entry}
    (he : d.entry? dir = some e) (hwatch : r.canWatch dir = true) (l : Location) :
    (∃ q ∈ r.tree dir e, d.place q = l) ↔ r.Reaches d dir l := by
  have hat := Disk.at?_place he
  have htidy : e.Tidy := (Disk.tidy_of_find? hd hat).2
  have hplace {names : Location} (h : d.HasFolder (d.place dir ++ names)) :
      d.place (dir.below names) = d.place dir ++ names := by
    obtain ⟨es, hes⟩ := h
    refine Disk.place_below d dir fun n hn => ?_
    exact (Disk.tidy_of_find? hd hes).1 n (List.mem_append_right _ hn)
  constructor
  · rintro ⟨q, hq, rfl⟩
    obtain ⟨-, names, hfind, hpasses, rfl⟩ := (r.mem_tree_iff htidy dir q).mp hq
    by_cases hne : names = []
    · exact .inl (by rw [hne, Path.below_nil])
    · have hfolder := (Disk.exists_find?_entries_iff hat hne).mp hfind
      rw [hplace hfolder]
      exact .inr ⟨names, hne, rfl, hfolder, hpasses⟩
  · rintro (rfl | ⟨names, hne, rfl, hfolder, hpasses⟩)
    · exact ⟨dir, (r.mem_tree_iff htidy dir dir).mpr ⟨hwatch, [], ⟨_, rfl⟩, r.passes_nil dir, rfl⟩, rfl⟩
    · have hfind := (Disk.exists_find?_entries_iff hat hne).mpr hfolder
      exact ⟨dir.below names, (r.mem_tree_iff htidy dir _).mpr ⟨hwatch, names, hfind, hpasses, rfl⟩,
        hplace hfolder⟩

/-- **What is watched after a tree was visited**: what was, and what is reached if the visit can start. -/
theorem isSome_dirAt?_visitTree (r : Reach) (w : Watcher) {d : Disk} (hd : d.Tidy) (dir : Path) (l : Location) :
    (((r.visitTree d dir).run.run w).2.dirAt? l).isSome = true ↔
      (w.dirAt? l).isSome = true ∨ (d.has dir = true ∧ r.canWatch dir = true) ∧ r.Reaches d dir l := by
  rw [run_visitTree, watchTreeWithin_eq, Disk.has]
  cases he : d.entry? dir with
  | none => simp
  | some e =>
      by_cases hwatch : r.canWatch dir = true
      · have hreaches := r.exists_mem_tree_iff hd he hwatch l
        simp only [Disk.place] at hreaches
        simp [hwatch, Watcher.isSome_dirAt?_add, hreaches]
      · simp [hwatch]

/-! ## what is elsewhere -/

/-- Two reaches agree from `dir` on, except at and below what `sub` leads to. -/
def AgreeBeside (r r' : Reach) (dir : Path) (sub : Location) : Prop :=
  ∀ names, ¬sub <+: names →
    r'.canWatch (dir.below names) = r.canWatch (dir.below names) ∧
      r'.canList (dir.below names) = r.canList (dir.below names)

namespace AgreeBeside

variable {r r' : Reach} {dir : Path} {sub : Location}

theorem symm (h : r.AgreeBeside r' dir sub) : r'.AgreeBeside r dir sub :=
  fun names hbeside => ⟨(h names hbeside).1.symm, (h names hbeside).2.symm⟩

/-- A way beside it that is free stays free. -/
theorem passes (h : r.AgreeBeside r' dir sub) {names : Location} (hbeside : ¬sub <+: names)
    (hpasses : r.Passes dir names) : r'.Passes dir names := by
  have htake (k : Nat) : ¬sub <+: names.take k := fun hsub => hbeside (hsub.trans (List.take_prefix k names))
  refine ⟨hpasses.kept, fun k hk => ?_, fun k hk => ?_⟩
  · rw [(h _ (htake (k + 1))).1]
    exact hpasses.watched k hk
  · rw [(h _ (htake k)).2]
    exact hpasses.listed k hk

/-- What is reached beside it stays reached. -/
theorem reaches (h : r.AgreeBeside r' dir sub) {d : Disk} {l : Location} (hbeside : ¬d.place dir ++ sub <+: l)
    (hreaches : r.Reaches d dir l) : r'.Reaches d dir l := by
  rcases hreaches with rfl | ⟨names, hne, rfl, hfolder, hpasses⟩
  · exact .inl rfl
  · rw [List.prefix_append_right_inj] at hbeside
    exact .inr ⟨names, hne, rfl, hfolder, h.passes hbeside hpasses⟩

end AgreeBeside

end Reach

/-! ## the main statement -/

/-- **Exactly the directories that are reached are watched**, whatever cannot be watched and whatever cannot be
listed.  If there is nothing at the root of a tree, or the root cannot be watched, then to watch the tree is an
error, and the watcher is what it was.  Else it is none, and what is watched is what was, the root, and every
directory below it to which the way is free: neither it nor anything between is skipped or cannot be watched,
and nothing from the root down to its parent cannot be listed.

So what fails at and below one directory makes no difference to what is watched beside it. -/
theorem Watcher.reached_directories_watched (r : Reach) (w : Watcher) {d : Disk} (hd : d.Tidy) (dir : Path) :
    (¬(d.has dir = true ∧ r.canWatch dir = true) →
      w.watchTreeWithin r d dir = .error ⟨dir⟩ ∧ (r.visitTree d dir).run.run w = (.error ⟨dir⟩, w)) ∧
    (d.has dir = true ∧ r.canWatch dir = true →
      ∃ after, w.watchTreeWithin r d dir = .ok after ∧ (r.visitTree d dir).run.run w = (.ok (), after) ∧
        after.root = w.root ∧
        ∀ l, (after.dirAt? l).isSome = true ↔ (w.dirAt? l).isSome = true ∨ r.Reaches d dir l) ∧
    ∀ r' sub, sub ≠ [] → r.AgreeBeside r' dir sub → ∀ l, ¬d.place dir ++ sub <+: l →
      ((((r'.visitTree d dir).run.run w).2.dirAt? l).isSome = true ↔
        (((r.visitTree d dir).run.run w).2.dirAt? l).isSome = true) := by
  have hcases := r.watchTreeWithin_cases w d dir
  refine ⟨?_, ?_, ?_⟩
  · intro hfail
    obtain ⟨-, herror⟩ := hcases.resolve_left fun h => hfail h.1
    exact ⟨herror, by rw [Reach.run_visitTree, herror]⟩
  · intro hstart
    obtain ⟨-, after, hok, hroot⟩ := hcases.resolve_right fun h => h.1 hstart
    have hrun : (r.visitTree d dir).run.run w = (.ok (), after) := by rw [Reach.run_visitTree, hok]
    refine ⟨after, hok, hrun, hroot, fun l => ?_⟩
    have hwatched := r.isSome_dirAt?_visitTree w hd dir l
    rwa [hrun, and_iff_right hstart] at hwatched
  · intro r' sub hsub hagree l hbeside
    have hroot : r'.canWatch dir = r.canWatch dir :=
      (hagree [] fun hnil => hsub (List.prefix_nil.mp hnil)).1
    rw [r'.isSome_dirAt?_visitTree w hd, r.isSome_dirAt?_visitTree w hd, hroot]
    refine or_congr_right (and_congr_right fun _ => ⟨?_, ?_⟩)
    · exact hagree.symm.reaches hbeside
    · exact hagree.reaches hbeside

/-- Of two directories with one in it each, one cannot be watched and the other cannot be listed, and neither
keeps the third one from being watched with what is in it. -/
theorem Watcher.third_directory_watched :
    let place (names : List String) : Location := names.map fun name => name.toUTF8.toList
    let sub (name : String) (es : List (Name × Entry)) : Name × Entry := (name.toUTF8.toList, .folder es)
    let d : Disk := { root := [sub "ws" [sub "a" [sub "b" []], sub "c" [sub "d" []], sub "e" [sub "f" []]]] }
    let r : Reach := ⟨(Disk.spelled · != place ["ws", "a"]), (Disk.spelled · != place ["ws", "c"])⟩
    d.Tidy ∧ ∃ after, Watcher.watchTreeWithin r ⟨.ofString "/ws", []⟩ d (.ofString "/ws/./") = .ok after ∧
      (after.dirAt? (place ["ws", "a"])).isSome = false ∧ (after.dirAt? (place ["ws", "c"])).isSome = true ∧
      (after.dirAt? (place ["ws", "c", "d"])).isSome = false ∧
      (after.dirAt? (place ["ws", "e", "f"])).isSome = true := by
  intro place sub d r
  have hone {name inner : String} (h : Path.IsName inner.toUTF8.toList) :
      (sub name [sub inner []]).2.Tidy :=
    .folder (by simp) (by simpa [sub] using h) (by simp [sub, Disk.tidy_nil])
  have hws : (sub "ws" [sub "a" [sub "b" []], sub "c" [sub "d" []], sub "e" [sub "f" []]]).2.Tidy := by
    refine .folder (by decide +kernel) (by decide +kernel) ?_
    simp only [List.forall_mem_cons]
    exact ⟨hone (by decide +kernel), hone (by decide +kernel), hone (by decide +kernel), by simp⟩
  have hd : d.Tidy := .folder (by decide +kernel) (by decide +kernel) (List.forall_mem_singleton.mpr hws)
  obtain ⟨-, hstart, -⟩ :=
    Watcher.reached_directories_watched r ⟨.ofString "/ws", []⟩ hd (.ofString "/ws/./")
  obtain ⟨after, hok, -, -, hwatched⟩ := hstart (by decide +kernel)
  have hway (names : List String) (hne : names ≠ []) :
      (after.dirAt? (place ("ws" :: names))).isSome = true ↔
        d.HasFolder (place ("ws" :: names)) ∧ r.Passes (.ofString "/ws/./") (place names) := by
    have hroot : d.place (.ofString "/ws/./") = place ["ws"] := by decide +kernel
    rw [hwatched, Reach.Reaches, hroot]
    constructor
    · rintro (hbefore | hroot | ⟨way, -, hplace, hfolder, hpasses⟩)
      · simp [dirAt?] at hbefore
      · simp [place, hne] at hroot
      · have hsplit : place ["ws"] ++ place names = place ["ws"] ++ way := hplace
        obtain rfl := List.append_cancel_left hsplit
        exact ⟨hfolder, hpasses⟩
    · rintro ⟨hfolder, hpasses⟩
      exact .inr (.inr ⟨place names, by simpa [place] using hne, rfl, hfolder, hpasses⟩)
  refine ⟨hd, after, hok, ?_, ?_, ?_, ?_⟩
  · rw [Bool.eq_false_iff, ne_eq, hway ["a"] (by simp)]
    decide +kernel
  · rw [hway ["c"] (by simp)]
    decide +kernel
  · rw [Bool.eq_false_iff, ne_eq, hway ["c", "d"] (by simp)]
    decide +kernel
  · rw [hway ["e", "f"] (by simp)]
    decide +kernel

end LintServer
