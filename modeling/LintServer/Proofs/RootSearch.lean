import LintServer.Proofs.Markers
import LintServer.Proofs.Places

/-!
# Where the root of a file is looked for

The walk up from a file keeps the last directory with a weak marker until it meets one with a strong
marker or leaves the workspace folder.  Seen from its end it is a choice among the directories on the way:

* `Disk.isMarked` — in one directory the first marker of the list that is there decides;
* `chooseRoot_markerIn?` — the root is the nearest directory with a strong mark, or else the outermost one
  with a weak mark;
* `findRoot_congr_disk` — of the disk only the places of the markers in these directories count;
* `isWithin_pathIn` — and these places are in the workspace folder, unless the name of a marker is absolute.

The main statement is `findRoot_by_first_markers`.
-/

namespace LintServer

/-! ## marks -/

/-- Whether the first of the markers that a directory holds is strong, or whether it is weak. -/
def Disk.isMarked (d : Disk) (markers : List Marker) (strong : Bool) (dir : Path) : Bool :=
  (markers.find? fun m => d.has (m.pathIn dir)).any (·.strong == strong)

/-- Chooses among directories, of which the nearest comes first: the nearest one that is marked strong, or
else the outermost one that is marked weak, or else `fallback`. -/
def rootByMarks (d : Disk) (markers : List Marker) (fallback : Path) (dirs : List Path) : Path :=
  ((dirs.find? (d.isMarked markers true)).or (dirs.reverse.find? (d.isMarked markers false))).getD fallback

theorem any_strong_markerIn? (d : Disk) (markers : List Marker) (dir : Path) :
    (markerIn? d markers dir).any (·.strong) = d.isMarked markers true dir := by
  simp [Disk.isMarked, markerIn?]

/-- A directory that is not marked strong is marked weak if it is marked at all. -/
theorem isSome_markerIn?_of_not_strong {d : Disk} {markers : List Marker} {dir : Path}
    (h : d.isMarked markers true dir = false) :
    (markerIn? d markers dir).isSome = d.isMarked markers false dir := by
  rw [← any_strong_markerIn?] at h
  rw [Disk.isMarked, ← markerIn?]
  cases hmark : markerIn? d markers dir with
  | none => rfl
  | some m =>
      rw [hmark, Option.any_some] at h
      simp [h]

/-- **The root that is chosen** by the first markers of the directories. -/
theorem chooseRoot_markerIn? (d : Disk) (markers : List Marker) (fallback : Path) (dirs : List Path) :
    chooseRoot (markerIn? d markers) fallback dirs = rootByMarks d markers fallback dirs := by
  simp only [chooseRoot_eq, any_strong_markerIn?, rootByMarks]
  cases hfind : dirs.find? fun dir => d.isMarked markers true dir with
  | some dir => simp
  | none =>
      -- no directory is marked strong, so what is marked is marked weak
      have hweak : ∀ dir ∈ dirs.reverse, (markerIn? d markers dir).isSome = d.isMarked markers false dir := by
        intro dir hdir
        apply isSome_markerIn?_of_not_strong
        simpa using List.find?_eq_none.mp hfind dir (List.mem_reverse.mp hdir)
      rw [find?_congr hweak]

/-! ## what is looked at -/

/-- Directories that are marked alike lead to the same root. -/
theorem chooseRoot_congr {mark? mark'? : Path → Option Marker} {dirs : List Path}
    (h : ∀ dir ∈ dirs, mark'? dir = mark? dir) (fallback : Path) :
    chooseRoot mark'? fallback dirs = chooseRoot mark? fallback dirs := by
  induction dirs generalizing fallback with
  | nil => rfl
  | cons dir above ih =>
      rw [List.forall_mem_cons] at h
      simp only [chooseRoot, h.1, ih h.2]

/-- **Of the disk only the places of markers count**, in the directories on the way up. -/
theorem findRoot_congr_disk {d d' : Disk} {workspace file : Path} {markers : List Marker}
    (h : ∀ dir ∈ candidateDirs workspace file, ∀ m ∈ markers,
      d'.has (m.pathIn dir) = d.has (m.pathIn dir)) :
    findRoot d' workspace (some file) markers = findRoot d workspace (some file) markers := by
  have hmark : ∀ dir ∈ candidateDirs workspace file, markerIn? d' markers dir = markerIn? d markers dir :=
    fun dir hdir => find?_congr (h dir hdir)
  simp only [findRoot, chooseRoot_congr hmark]

/-- **The place of a marker** in a directory of a folder is in the folder, unless its name is absolute; then
it is the same place for every directory. -/
theorem isWithin_pathIn {dir folder : Path} (h : dir.isWithin folder = true) (m : Marker) :
    (m.pathIn dir).isWithin folder = true ∨
      (Path.ofString m.name).isAbsolute = true ∧ m.pathIn dir = .ofString m.name := by
  by_cases habsolute : (Path.ofString m.name).isAbsolute = true
  · have hhead : (Utf8.encode m.name.toList).head? = some Path.slash := by
      simpa [Path.isAbsolute, Path.ofString] using habsolute
    exact .inr ⟨habsolute, by rw [Marker.pathIn, Path.join, if_pos hhead]; rfl⟩
  · refine .inl (Path.isWithin_join h ?_)
    simpa [Path.isAbsolute, Path.ofString] using habsolute

/-! ## the main statement -/

/-- **How the root of a file is found**, whatever the markers are and in whatever order.  Without a file, for
a file on a share and for one below installed packages it is the workspace folder, whatever is on the disk.
Else it is chosen among the directories on the way up, as far as they are in the workspace folder, by the
first marker that is in each of them: it is the nearest one that is marked strong, or else the outermost one
that is marked weak, or else the workspace folder.

Nothing counts but whether the places of the markers in these directories exist.  Such a place is in the
workspace folder, unless the name of the marker is absolute. -/
theorem findRoot_by_first_markers (d : Disk) (workspace : Path) (file : Option Path) (markers : List Marker) :
    ((∀ f, file = some f → f.isNetworkShare = true ∨ f.isInPackages = true) →
      findRoot d workspace file markers = workspace) ∧
    ∀ f, file = some f → f.isNetworkShare = false → f.isInPackages = false →
      ∃ dirs, Path.Ascent workspace f.parent? dirs ∧
        findRoot d workspace file markers = rootByMarks d markers workspace dirs ∧
        (∀ d' : Disk,
          (∀ dir ∈ dirs, ∀ m ∈ markers, d'.has (m.pathIn dir) = d.has (m.pathIn dir)) →
          findRoot d' workspace file markers = findRoot d workspace file markers) ∧
        ∀ dir ∈ dirs, ∀ m ∈ markers, (m.pathIn dir).isWithin workspace = true ∨
          (Path.ofString m.name).isAbsolute = true ∧ m.pathIn dir = .ofString m.name := by
  constructor
  · intro hskip
    cases file with
    | none => rfl
    | some f =>
        have hshort : (f.isNetworkShare || f.isInPackages) = true := by simpa using hskip f rfl
        simp only [findRoot, hshort, if_true]
  · rintro f rfl hshare hpackages
    refine ⟨candidateDirs workspace f, ascent_candidateDirs workspace f, ?_, fun d' => findRoot_congr_disk, ?_⟩
    · simp only [findRoot, hshare, hpackages, Bool.or_self, Bool.false_eq_true, if_false,
        chooseRoot_markerIn?]
    · intro dir hdir m _
      have hin : dir.isWithin workspace = true := List.all_eq_true.mp List.all_takeWhile dir hdir
      exact isWithin_pathIn hin m

/-- A weak marker that is listed before a strong one hides it in the directory that holds both, so that the
root is further out. -/
theorem root_beyond_hidden_marker :
    let file (name : String) : Name × Entry := (name.toUTF8.toList, .file [])
    let sub (name : String) (es : List (Name × Entry)) : Name × Entry := (name.toUTF8.toList, .folder es)
    let d : Disk := { root := [sub "p" [file "w", sub "a" [file "s", file "w", sub "b" [file "f"]]]] }
    let markers : List Marker := [⟨"w", false⟩, ⟨"s", true⟩]
    let root := findRoot d (.ofString "/p") (some (.ofString "/p/a/b/f")) markers
    root = .ofString "/p" ∧
      ∃ dirs, Path.Ascent (.ofString "/p") (Path.ofString "/p/a/b/f").parent? dirs ∧
        root = rootByMarks d markers (.ofString "/p") dirs := by
  intro file sub d markers root
  obtain ⟨-, hfound⟩ := findRoot_by_first_markers d (.ofString "/p") (some (.ofString "/p/a/b/f")) markers
  obtain ⟨dirs, hascent, hroot, -⟩ := hfound _ rfl (by decide) (by decide)
  exact ⟨by decide +kernel, dirs, hascent, hroot⟩

/-- A marker with an absolute name is outside of the workspace folder, where nothing else is different, and
yet decides on the root. -/
theorem root_by_marker_outside :
    let file (name : String) : Name × Entry := (name.toUTF8.toList, .file [])
    let sub (name : String) (es : List (Name × Entry)) : Name × Entry := (name.toUTF8.toList, .folder es)
    let ws := sub "ws" [sub "a" [file "f"]]
    let root (d : Disk) : Path := findRoot d (.ofString "/ws") (some (.ofString "/ws/a/f")) [⟨"/m", true⟩]
    (Path.ofString "/m").isWithin (.ofString "/ws") = false ∧
      root { root := [ws] } = .ofString "/ws" ∧ root { root := [ws, file "m"] } = .ofString "/ws/a" := by
  decide +kernel

end LintServer
