import LintServer.Proofs.RootSearch
import Mathlib.Data.List.Forall2

/-!
# Roots and spellings

Repeated slashes, slashes at the end and a `.` on the way make another spelling of a path, with the same
components.  In the search for a root some questions are asked of the components of a path and some of its
spelling: whether it is on a share, and what is there when the name of a marker is put behind it.  The root
that is found is spelled like the file or like the workspace folder.  Here two searches run side by side, for
two spellings of one file and of one workspace folder:

* `Path.Respelled` — two spellings of an absolute path;
* `Path.Respelled.parents` — the ways up from them are spellings of each other, step by step;
* `Disk.follow_append_eq` — what makes no component makes no difference on the way to something;
* `Path.Respelled.has_join` — so two spellings of a directory hold the same markers;
* `chooseRoot_respelled` — and the two searches end at two spellings of one directory.

The main statement is `findRoot_ignores_spelling`.
-/

namespace LintServer

namespace Path

/-! ## two spellings -/

/-- Two spellings of a path from the root of the disk. -/
structure Respelled (p q : Path) : Prop where
  absolute : p.isAbsolute = true
  components_eq : p.components = q.components

theorem ofSegment?_ne_root (s : Name) : Component.ofSegment? s ≠ some .root := by
  unfold Component.ofSegment?
  split
  · simp
  · split <;> simp

/-- A path is absolute if its components begin with the root. -/
theorem isAbsolute_iff {p : Path} : p.isAbsolute = true ↔ p.components.head? = some .root := by
  obtain ⟨start, rest, first, hl⟩ := p.exists_leads
  rw [hl.components_eq]
  cases hl with
  | absolute => simp [isAbsolute]
  | here hrest => simp [isAbsolute_here]
  | plain hslash hhere =>
      have hroot : (steps rest).head? ≠ some .root := by
        intro hhead
        obtain ⟨s, -, hs⟩ := List.mem_filterMap.mp (List.mem_of_head? hhead)
        exact ofSegment?_ne_root s hs
      simp [isAbsolute_plain hslash, hroot]

/-- No absolute path is on a share. -/
theorem isNetworkShare_of_isAbsolute {p : Path} (h : p.isAbsolute = true) : p.isNetworkShare = false := by
  obtain ⟨rest, rfl⟩ := exists_of_isAbsolute h
  rfl

/-! ## the way up -/

theorem isAbsolute_of_parent? {p q : Path} (hp : p.isAbsolute = true) (h : p.parent? = some q) :
    q.isAbsolute = true := by
  obtain ⟨rest, rfl⟩ := exists_of_isAbsolute hp
  rw [parent?, (Leads.absolute rest).lead_eq] at h
  dsimp only at h
  split at h
  · have hslash : [slash] ≠ here := by decide
    simp [hslash] at h
  · obtain rfl := Option.some.inj h
    rfl

/-- Of the absolute paths only the root has no parent. -/
theorem parent?_eq_none_iff {p : Path} (hp : p.isAbsolute = true) :
    p.parent? = none ↔ p.components = [.root] := by
  rw [isAbsolute_iff] at hp
  constructor
  · intro h
    refine (components_of_parent?_eq_none h).resolve_left fun hnil => ?_
    simp [hnil] at hp
  · intro hroot
    cases h : p.parent? with
    | none => rfl
    | some q =>
        obtain ⟨c, hc⟩ := components_of_parent? h
        have hq := isAbsolute_iff.mp (isAbsolute_of_parent? (isAbsolute_iff.mpr hp) h)
        have hnil : q.components = [] := by
          have hlen := congrArg List.length (hroot.symm.trans hc)
          simpa using hlen
        simp [hnil] at hq

namespace Respelled

variable {p q : Path}

theorem symm (h : p.Respelled q) : q.Respelled p where
  absolute := by
    rw [isAbsolute_iff, ← h.components_eq, ← isAbsolute_iff]
    exact h.absolute
  components_eq := h.components_eq.symm

/-- **The parents** of two spellings are two spellings, if there are any. -/
theorem parent? (h : p.Respelled q) : Option.Rel Respelled p.parent? q.parent? := by
  have hnone := parent?_eq_none_iff h.absolute
  rw [h.components_eq, ← parent?_eq_none_iff h.symm.absolute] at hnone
  cases hp : p.parent? with
  | none =>
      rw [hnone.mp hp]
      exact .none
  | some dir =>
      cases hq : q.parent? with
      | none => simp [hnone.mpr hq] at hp
      | some dir' =>
          obtain ⟨c, hc⟩ := components_of_parent? hp
          obtain ⟨c', hc'⟩ := components_of_parent? hq
          refine .some ⟨isAbsolute_of_parent? h.absolute hp, ?_⟩
          exact List.append_inj_left' (hc.symm.trans (h.components_eq.trans hc')) rfl

theorem parentsUpTo (h : p.Respelled q) (fuel : Nat) :
    List.Forall₂ Respelled (p.parentsUpTo fuel) (q.parentsUpTo fuel) := by
  induction fuel generalizing p q with
  | zero => exact .nil
  | succ fuel ih =>
      have hparent := h.parent?
      rw [Path.parentsUpTo, Path.parentsUpTo]
      generalize p.parent? = dir, q.parent? = dir' at hparent
      cases hparent with
      | none => exact .nil
      | some hdir => exact .cons hdir (ih hdir)

/-- **The ways up** are spellings of each other, step by step. -/
theorem parents (h : p.Respelled q) : List.Forall₂ Respelled p.parents q.parents := by
  rw [Path.parents, Path.parents, h.components_eq]
  exact h.parentsUpTo _

/-- To be below installed packages does not depend on the spelling. -/
theorem isInPackages (h : p.Respelled q) : p.isInPackages = q.isInPackages := by
  have hparent := h.parent?
  rw [Path.isInPackages, Path.isInPackages]
  generalize p.parent? = dir, q.parent? = dir' at hparent
  cases hparent with
  | none => rfl
  | some hdir => simp only [hdir.components_eq]

end Respelled

/-- To be in a folder does not depend on the spellings. -/
theorem isWithin_congr {p q folder folder' : Path} (h : p.components = q.components)
    (hfolder : folder.components = folder'.components) : p.isWithin folder = q.isWithin folder' := by
  rw [isWithin, isWithin, h, hfolder]

end Path

/-! ## the way down -/

/-- The segment of a component. -/
def Path.Component.segment : Path.Component → Name
  | .root => []
  | .here => Path.here
  | .up => Path.up
  | .name n => n

theorem Path.segment_of_ofSegment? {s : Name} {c : Path.Component} (h : Path.Component.ofSegment? s = some c) :
    c.segment = s := by
  unfold Path.Component.ofSegment? at h
  split at h
  · simp at h
  · split at h
    · next hup =>
        obtain rfl := Option.some.inj h
        exact hup.symm
    · obtain rfl := Option.some.inj h
      rfl

namespace Disk

/-- From something that is no directory no segment leads on, not even an idle one. -/
theorem follow_eq_none {d : Disk} {upward : Location} (h : ¬d.HasFolder upward.reverse) {ss : List Name}
    (hne : ss ≠ []) : d.follow upward ss = none := by
  obtain ⟨s, ss, rfl⟩ := List.exists_cons_of_ne_nil hne
  rw [follow, if_neg (mt hasFolder_iff.mpr h)]

/-- **On the way to something** only components count: a segment that is none needs a directory, and so does
the next one. -/
theorem follow_append_eq (d : Disk) (upward : Location) (ss : List Name) {more : List Name} (hmore : more ≠ []) :
    d.follow upward (ss ++ more) =
      d.follow upward ((ss.filterMap Path.Component.ofSegment?).map Path.Component.segment ++ more) := by
  induction ss generalizing upward with
  | nil => rfl
  | cons s ss ih =>
      by_cases hidle : Path.isIdle s = true
      · rw [List.filterMap_cons_none (Path.ofSegment?_of_idle hidle), ← ih, List.cons_append, follow, if_pos hidle]
        split
        · rfl
        · next hfile => rw [follow_eq_none (mt hasFolder_iff.mp hfile) (by simp [hmore])]
      · obtain ⟨c, hc⟩ := Path.exists_ofSegment? (by simpa using hidle)
        rw [List.filterMap_cons_some hc, List.map_cons, Path.segment_of_ofSegment? hc, List.cons_append,
          List.cons_append, follow, follow]
        simp only [ih]

/-- What is found behind a path depends on the components of the path, and not on its spelling. -/
theorem locate?_join_eq (d : Disk) (rest : List UInt8) {n : Name} (hn : n.head? ≠ some Path.slash) :
    d.locate? (Path.join ⟨Path.slash :: rest⟩ n) =
      d.follow [] ((Path.steps rest).map Path.Component.segment ++ Path.segments n) := by
  obtain ⟨rest', ss, hjoin, hsegments, hss⟩ := Path.exists_join_eq rest hn
  rw [hjoin, locate?_slash, hsegments, d.follow_append_eq [] ss (Path.segments_ne_nil n),
    Path.steps_eq_filterMap hss]

end Disk

namespace Path.Respelled

variable {p q : Path}

/-- **Behind two spellings** of a directory the same things are there. -/
theorem has_join (h : p.Respelled q) (d : Disk) (n : Name) : d.has (p.join n) = d.has (q.join n) := by
  have hlocate : d.locate? (p.join n) = d.locate? (q.join n) := by
    by_cases hn : n.head? = some slash
    · rw [join, join, if_pos hn, if_pos hn]
    · obtain ⟨rest, rfl⟩ := exists_of_isAbsolute h.absolute
      obtain ⟨rest', rfl⟩ := exists_of_isAbsolute h.symm.absolute
      have hsteps : steps rest = steps rest' := by
        have hcomponents := h.components_eq
        rw [(Leads.absolute rest).components_eq, (Leads.absolute rest').components_eq] at hcomponents
        exact List.append_cancel_left hcomponents
      rw [d.locate?_join_eq rest hn, d.locate?_join_eq rest' hn, hsteps]
  rw [Disk.has, Disk.has, Disk.entry?, Disk.entry?, hlocate]

/-! ## the search -/

/-- Two spellings of a directory hold the same markers. -/
theorem markerIn?_eq (h : p.Respelled q) (d : Disk) (markers : List Marker) :
    markerIn? d markers p = markerIn? d markers q :=
  find?_congr fun m _ => h.has_join d (Utf8.encode m.name.toList)

/-- The directories that are searched are spellings of each other, step by step. -/
theorem candidateDirs (h : p.Respelled q) {workspace workspace' : Path}
    (hworkspace : workspace.components = workspace'.components) :
    List.Forall₂ Respelled (LintServer.candidateDirs workspace p) (LintServer.candidateDirs workspace' q) := by
  have hparents := h.parents
  rw [LintServer.candidateDirs, LintServer.candidateDirs]
  generalize p.parents = dirs, q.parents = dirs' at hparents
  induction hparents with
  | nil => exact .nil
  | cons hdir _ ih =>
      rw [List.takeWhile_cons, List.takeWhile_cons, isWithin_congr hdir.components_eq hworkspace]
      split
      · exact .cons hdir ih
      · exact .nil

end Path.Respelled

/-- **Two searches side by side** end at two spellings of one directory. -/
theorem chooseRoot_respelled {mark? : Path → Option Marker}
    (hmark : ∀ {p q : Path}, p.Respelled q → mark? p = mark? q) {dirs dirs' : List Path}
    (h : List.Forall₂ Path.Respelled dirs dirs') {fallback fallback' : Path}
    (hfallback : fallback.components = fallback'.components) :
    (chooseRoot mark? fallback dirs).components = (chooseRoot mark? fallback' dirs').components := by
  induction h generalizing fallback fallback' with
  | nil => exact hfallback
  | @cons dir dir' above above' hdir _ ih =>
      rw [chooseRoot, chooseRoot, hmark hdir]
      cases mark? dir' with
      | none => exact ih hfallback
      | some m =>
          dsimp only
          split
          · exact hdir.components_eq
          · exact ih hdir.components_eq

/-! ## the main statement -/

/-- **A root does not depend on spellings.**  For two spellings of the path of a file, from the root of the
disk, and two spellings of the workspace folder, the roots that are found are two spellings of one directory,
whatever is on the disk and whatever the markers are. -/
theorem findRoot_ignores_spelling (d : Disk) (markers : List Marker) {workspace workspace' file file' : Path}
    (hworkspace : workspace.same workspace' = true) (hfile : file.same file' = true)
    (habsolute : file.isAbsolute = true) :
    (findRoot d workspace (some file) markers).same (findRoot d workspace' (some file') markers) = true := by
  have hfolder : workspace.components = workspace'.components := eq_of_beq hworkspace
  have hspelling : file.Respelled file' := ⟨habsolute, eq_of_beq hfile⟩
  rw [Path.same, beq_iff_eq]
  simp only [findRoot, Path.isNetworkShare_of_isAbsolute habsolute,
    Path.isNetworkShare_of_isAbsolute hspelling.symm.absolute, hspelling.isInPackages, Bool.false_or]
  split
  · exact hfolder
  · exact chooseRoot_respelled (fun h => h.markerIn?_eq d markers) (hspelling.candidateDirs hfolder) hfolder

/-- The roots that are found for two spellings are not spelled alike. -/
theorem root_in_two_spellings :
    let file (name : String) : Name × Entry := (name.toUTF8.toList, .file [])
    let sub (name : String) (es : List (Name × Entry)) : Name × Entry := (name.toUTF8.toList, .folder es)
    let d : Disk := { root := [sub "w" [sub "a" [file "m", sub "b" [file "f"]]]] }
    let root := findRoot d (.ofString "/w/") (some (.ofString "/w//a/./b/f")) [⟨"m", true⟩]
    let root' := findRoot d (.ofString "//w/.") (some (.ofString "/./w/a/b//f/")) [⟨"m", true⟩]
    (Path.ofString "/w/").same (.ofString "//w/.") = true ∧
      (Path.ofString "/w//a/./b/f").same (.ofString "/./w/a/b//f/") = true ∧
      root = .ofString "/w//a" ∧ root' = .ofString "/./w/a" ∧ root.same root' = true := by
  intro file sub d root root'
  have hfolder : (Path.ofString "/w/").same (.ofString "//w/.") = true := by decide
  have hfile : (Path.ofString "/w//a/./b/f").same (.ofString "/./w/a/b//f/") = true := by decide
  exact ⟨hfolder, hfile, by decide +kernel, by decide +kernel,
    findRoot_ignores_spelling d [⟨"m", true⟩] hfolder hfile (by decide)⟩

-- a path that is not absolute may be on a share in one spelling and not in another
example :
    let d : Disk := { root := [("m".toUTF8.toList, .file [])] }
    let file : Path := .ofString "\\\\s/b\\"
    let file' : Path := .ofString "\\\\s/b\\/"
    let root (file : Path) : Path := findRoot d (.ofString "") (some file) [⟨"/m", true⟩]
    file.same file' = true ∧ (root file).same (root file') = false := by
  decide +kernel

end LintServer
