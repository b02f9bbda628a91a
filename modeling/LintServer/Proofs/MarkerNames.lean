import LintServer.Proofs.ConfigNames
import LintServer.Proofs.Markers

/-!
# Names of markers

The command line takes a marker if its name is not empty and has neither a slash nor a backslash in it.  That
is asked of the characters of the name; what it is good for is said of the places where the marker is looked
for, which are found by joining paths:

* `Path.isChild_iff` — a place is directly in a directory if its components are one name more;
* `CommandLine.isPlainName_of_toOptions` — all markers have passed the test, the ones that are always there
  too;
* `steps_encode_of_isPlainName` — what passes the test is one name, or `.`, or `..`.

The main statement, `Options.markers_in_directories`, says which markers are looked for in the directory that
is searched: all but the two last ones.
-/

namespace LintServer

namespace Path

/-! ## entries of a directory -/

/-- A path is that of something directly in a directory, under a name. -/
structure IsChild (p dir : Path) (n : Name) : Prop where
  fileName?_eq : p.fileName? = some n
  exists_parent : ∃ q, p.parent? = some q ∧ q.same dir = true

/-- **What is directly in a directory** has one component more. -/
theorem isChild_iff {p dir : Path} {n : Name} :
    p.IsChild dir n ↔ p.components = dir.components ++ [.name n] := by
  constructor
  · rintro ⟨hname, q, hparent, hsame⟩
    obtain ⟨c, hc⟩ := components_of_parent? hparent
    have hlast : c = .name n := by
      rw [fileName?, hc, List.getLast?_concat] at hname
      cases c <;> simp_all
    rw [hc, hlast, eq_of_beq hsame]
  · intro h
    refine ⟨by simp [fileName?, h], ?_⟩
    cases hparent : p.parent? with
    | none =>
        -- neither an empty path nor the root ends with a name
        have hmem : .name n ∈ p.components := by simp [h]
        rcases components_of_parent?_eq_none hparent with hnone | hroot
        · simp [hnone] at hmem
        · simp [hroot] at hmem
    | some q =>
        obtain ⟨c, hc⟩ := components_of_parent? hparent
        have hdir : q.components = dir.components := List.append_inj_left' (hc.symm.trans h) rfl
        exact ⟨q, rfl, beq_iff_eq.mpr hdir⟩

end Path

/-! ## plain names -/

namespace CommandLine

/-- A plain name is not empty and has no slash in it. -/
theorem no_slash_of_isPlainName {name : String} (h : isPlainName name = true) :
    name ≠ "" ∧ '/' ∉ name.toList := by
  have hchars : name ≠ "" ∧ ∀ c ∈ name.toList, c ≠ '/' ∧ c ≠ '\\' := by simpa [isPlainName] using h
  exact ⟨hchars.1, fun hslash => (hchars.2 '/' hslash).1 rfl⟩

/-- **All markers have plain names**, those that are given and those that are always there. -/
theorem isPlainName_of_toOptions {g : Given} {settings : Option Path} {o : Options}
    (h : g.toOptions settings = .ok o) {m : Marker} (hm : m ∈ o.markers) : isPlainName m.name = true := by
  have hgiven := Given.exists_toOptions_iff.mp ⟨o, h⟩
  have halways : ∀ name ∈ alwaysStrong, isPlainName name = true := by decide
  rw [Given.markers_of_toOptions h, markersOf, List.mem_append, List.mem_map, List.mem_map] at hm
  rcases hm with ⟨name, hname, rfl⟩ | ⟨name, hname, rfl⟩
  · rcases List.mem_append.mp hname with hname | hname
    · exact halways name hname
    · exact hgiven name (List.mem_append_left _ hname)
  · exact hgiven name (List.mem_append_right _ hname)

/-- **A plain name** is one step of a path, or none if it is `.`; and if it is `..`, it is a step upward. -/
theorem steps_encode_of_isPlainName {name : String} (h : isPlainName name = true) :
    Path.steps (Utf8.encode name.toList) =
      if name = "." then [] else if name = ".." then [.up] else [.name (Utf8.encode name.toList)] := by
  obtain ⟨hne, hslash⟩ := no_slash_of_isPlainName h
  split
  · next hhere => rw [hhere]; rfl
  · next hhere =>
      split
      · next hup => rw [hup]; rfl
      · next hup =>
          have hname : Path.IsName (Utf8.encode name.toList) := by
            refine ⟨slash_not_mem_encode hslash, isIdle_encode ?_ ?_, ?_⟩
            · exact fun hnil => hne (String.toList_inj.mp hnil)
            · exact fun hdot => hhere (String.toList_inj.mp hdot)
            · exact fun hdots => hup (String.toList_inj.mp (Utf8.encode_inj.mp hdots))
          rw [Path.steps, hname.segments, List.filterMap_cons_some hname.ofSegment?, List.filterMap_nil]

end CommandLine

/-! ## the main statement -/

/-- **Where markers are looked for.**  Of the markers that the command line takes, each one is looked for
directly in the directory that is searched, under its own name, unless this is `.` or `..`.  These two are
taken as well, although they are no names of files: the first is looked for at the directory itself, and the
second above it.  So no marker is looked for at a place that does not depend on the directory. -/
theorem Options.markers_in_directories (g : CommandLine.Given) (settings : Option Path) (o : Options)
    (h : g.toOptions settings = .ok o) (m : Marker) (hm : m ∈ o.markers) (dir : Path) (hdir : dir.bytes ≠ []) :
    ((m.pathIn dir).IsChild dir (Utf8.encode m.name.toList) ↔ m.name ≠ "." ∧ m.name ≠ "..") ∧
    (m.name = "." → (m.pathIn dir).same dir = true) ∧
    (m.name = ".." → (m.pathIn dir).components = dir.components ++ [.up]) := by
  have hplain := CommandLine.isPlainName_of_toOptions h hm
  have hslash : (Utf8.encode m.name.toList).head? ≠ some Path.slash := fun hhead =>
    slash_not_mem_encode (CommandLine.no_slash_of_isPlainName hplain).2 (List.mem_of_head? hhead)
  have hcomponents : (m.pathIn dir).components = dir.components ++
      if m.name = "." then [] else if m.name = ".." then [.up] else [.name (Utf8.encode m.name.toList)] := by
    rw [Marker.pathIn, Path.components_join_of_relative hdir hslash,
      CommandLine.steps_encode_of_isPlainName hplain]
  refine ⟨?_, ?_, ?_⟩
  · rw [Path.isChild_iff, hcomponents, List.append_cancel_left_eq]
    split
    · next hhere => simp [hhere]
    · next hhere =>
        split
        · next hup => simp [hup]
        · next hup => simp [hhere, hup]
  · intro hhere
    rw [Path.same, hcomponents, if_pos hhere, List.append_nil]
    exact beq_self_eq_true _
  · intro hup
    have hhere : m.name ≠ "." := by
      rw [hup]
      decide
    rw [hcomponents, if_neg hhere, if_pos hup]

/-- Three dots are the name of a file, and are looked for as such from a path with a dot at its start and
slashes at its end. -/
theorem Options.marker_of_three_dots :
    let g : CommandLine.Given := { weakRootMarkers := ["..."] }
    let m : Marker := ⟨"...", false⟩
    let dir : Path := .ofString "./a//"
    ∃ o, g.toOptions none = .ok o ∧ m ∈ o.markers ∧ m.pathIn dir = .ofString "./a//..." ∧
      (m.pathIn dir).IsChild dir (Utf8.encode "...".toList) := by
  intro g m dir
  have hoptions : g.toOptions none = .ok { markers := Marker.defaults ++ [m] } := rfl
  have hm : m ∈ Marker.defaults ++ [m] := by decide
  obtain ⟨hchild, -⟩ := Options.markers_in_directories g none _ hoptions m hm dir (by decide)
  exact ⟨_, hoptions, hm, by decide, hchild.mpr (by decide)⟩

/-- Both names that are none are taken, and neither is looked for in the directory.  What is above a directory
is always there, so that a file with no marker anywhere has the directory next to it as its root. -/
theorem Options.markers_that_are_no_names :
    let args := ["--root-marker", "..", "--weak-root-marker=."]
    let up : Marker := ⟨"..", true⟩
    let here : Marker := ⟨".", false⟩
    let o : Options := { markers := Marker.defaults ++ [up, here] }
    let dir : Path := .ofString "/ws/a"
    let ws : Entry := .folder [("a".toUTF8.toList, .folder [("f".toUTF8.toList, .file [])])]
    let root (markers : List Marker) : Path :=
      findRoot { root := [("ws".toUTF8.toList, ws)] } (.ofString "/ws") (some (.ofString "/ws/a/f")) markers
    Options.ofArgs none args = .ok o ∧
      ¬ (up.pathIn dir).IsChild dir (Utf8.encode up.name.toList) ∧
      ¬ (here.pathIn dir).IsChild dir (Utf8.encode here.name.toList) ∧
      root Marker.defaults = .ofString "/ws" ∧ root o.markers = dir := by
  intro args up here o dir ws root
  refine ⟨rfl, ?_, ?_, by decide +kernel, by decide +kernel⟩
  · rw [Path.isChild_iff]
    decide
  · rw [Path.isChild_iff]
    decide

end LintServer
