import LintServer.Proofs.Ancestors
import LintServer.Proofs.Arguments

/-!
# Strong markers win

In one directory the first marker of the list decides, so a weak marker that is listed before a strong
one hides it.  The command line never gives such a list: its strong markers come first, whatever the
order of the options.  So a directory that holds a strong marker counts as strong:

* `ascent_candidateDirs` — the directories that are searched are all on the way up, as far as it stays in
  the workspace folder;
* `chooseRoot_eq` — the root is the nearest directory with a strong mark, or else the outermost one with
  any mark;
* `strong_markerIn?` — with the strong markers first, a mark is strong if any strong marker is there;
* `findRoot_markersOf` — hence the root depends on the names of the markers only, and not on their order.

The main statement is `Options.root_by_marker_names`.
-/

namespace LintServer

/-! ## the way up -/

/-- `dirs` are the directories from one upward, the nearest first, up to the last before the way leaves
the folder. -/
inductive Path.Ascent (folder : Path) : (dir : Option Path) → (dirs : List Path) → Prop
  | top : Ascent folder none []
  | outside {dir : Path} (h : dir.isWithin folder = false) : Ascent folder (some dir) []
  | inside {dir : Path} {above : List Path} (h : dir.isWithin folder = true)
      (rest : Ascent folder dir.parent? above) : Ascent folder (some dir) (dir :: above)

/-- As many parents as there are components are all parents. -/
theorem Path.ascent_parentsUpTo (folder : Path) {fuel : Nat} {p : Path} (h : p.components.length ≤ fuel) :
    Ascent folder p.parent? ((parentsUpTo fuel p).takeWhile (·.isWithin folder)) := by
  induction fuel generalizing p with
  | zero =>
      cases hq : p.parent? with
      | none => exact .top
      | some q =>
          obtain ⟨c, hc⟩ := components_of_parent? hq
          simp [hc] at h
  | succ fuel ih =>
      rw [parentsUpTo]
      cases hq : p.parent? with
      | none => exact .top
      | some q =>
          obtain ⟨c, hc⟩ := components_of_parent? hq
          have hlen : q.components.length ≤ fuel := by
            rw [hc, List.length_append, List.length_singleton] at h
            omega
          dsimp only
          rw [List.takeWhile_cons]
          split
          · next hin => exact .inside hin (ih hlen)
          · next hin => exact .outside (by simpa using hin)

/-- **Where a root is searched**: on the whole way up from the file, inside the workspace folder. -/
theorem ascent_candidateDirs (workspace file : Path) :
    Path.Ascent workspace file.parent? (candidateDirs workspace file) :=
  Path.ascent_parentsUpTo workspace (Nat.le_refl _)

/-! ## choosing a root -/

/-- What is found in a list depends on what holds of its elements only. -/
theorem find?_congr {α : Type} {p q : α → Bool} {xs : List α} (h : ∀ x ∈ xs, p x = q x) :
    xs.find? p = xs.find? q := by
  rw [← List.head?_filter, ← List.head?_filter, List.filter_congr h]

/-- **The root that is chosen**: the nearest directory with a strong mark, or else the outermost one with
a mark, or else the fallback. -/
theorem chooseRoot_eq (mark? : Path → Option Marker) (fallback : Path) (dirs : List Path) :
    chooseRoot mark? fallback dirs =
      ((dirs.find? fun dir => (mark? dir).any (·.strong)).or
        (dirs.reverse.find? fun dir => (mark? dir).isSome)).getD fallback := by
  induction dirs generalizing fallback with
  | nil => rfl
  | cons dir above ih =>
      rw [chooseRoot, List.find?_cons, List.reverse_cons, List.find?_append]
      cases hmark : mark? dir with
      | none => simp [ih, hmark]
      | some m =>
          cases hstrong : m.strong with
          | true => simp [hstrong]
          | false =>
              -- the mark is kept for the case that there is none above
              simp only [hstrong, ih, Option.any_some, Bool.false_eq_true, if_false]
              cases above.find? fun dir => (mark? dir).any (·.strong) with
              | some strong => simp
              | none =>
                  cases above.reverse.find? fun dir => (mark? dir).isSome with
                  | some weak => simp
                  | none => simp [hmark]

/-! ## marks by name -/

/-- Whether a directory holds a file with one of some names. -/
def Disk.holdsAny (d : Disk) (names : List String) (dir : Path) : Bool :=
  names.any fun name => d.has (dir.join (Utf8.encode name.toList))

/-- Only the names count, and not their order. -/
theorem Disk.holdsAny_congr (d : Disk) {names names' : List String} (h : names.Perm names') :
    d.holdsAny names = d.holdsAny names' := by
  funext dir
  exact h.any_eq

/-- Markers of some names, the strong ones first. -/
def markersOf (strong weak : List String) : List Marker :=
  strong.map (⟨·, true⟩) ++ weak.map (⟨·, false⟩)

/-- The first of these markers in a directory. -/
theorem markerIn?_markersOf (d : Disk) (strong weak : List String) (dir : Path) :
    markerIn? d (markersOf strong weak) dir =
      ((strong.find? fun name => d.has (dir.join (Utf8.encode name.toList))).map (⟨·, true⟩)).or
        ((weak.find? fun name => d.has (dir.join (Utf8.encode name.toList))).map (⟨·, false⟩)) := by
  rw [markerIn?, markersOf, List.find?_append, List.find?_map, List.find?_map]
  rfl

/-- **With the strong markers first**, a mark is strong if any strong marker is there. -/
theorem strong_markerIn? (d : Disk) (strong weak : List String) (dir : Path) :
    (markerIn? d (markersOf strong weak) dir).any (·.strong) = d.holdsAny strong dir := by
  rw [markerIn?_markersOf, Disk.holdsAny, ← List.isSome_find?]
  cases strong.find? fun name => d.has (dir.join (Utf8.encode name.toList)) with
  | some name => simp
  | none => cases weak.find? fun name => d.has (dir.join (Utf8.encode name.toList)) <;> simp

/-- There is a mark if any marker is there. -/
theorem isSome_markerIn? (d : Disk) (strong weak : List String) (dir : Path) :
    (markerIn? d (markersOf strong weak) dir).isSome = (d.holdsAny strong dir || d.holdsAny weak dir) := by
  rw [markerIn?_markersOf, Disk.holdsAny, Disk.holdsAny, ← List.isSome_find?, ← List.isSome_find?]
  simp

/-- Chooses among directories, of which the nearest comes first, by the names of markers: the nearest one
that holds a strong marker, or else the outermost one that holds a weak one, or else `fallback`. -/
def rootByNames (d : Disk) (strong weak : List String) (fallback : Path) (dirs : List Path) : Path :=
  ((dirs.find? (d.holdsAny strong)).or (dirs.reverse.find? (d.holdsAny weak))).getD fallback

/-- **The root of a file** with the strong markers first. -/
theorem findRoot_markersOf (d : Disk) (workspace : Path) {file : Path} (strong weak : List String)
    (hshare : file.isNetworkShare = false) (hpackages : file.isInPackages = false) :
    findRoot d workspace (some file) (markersOf strong weak) =
      rootByNames d strong weak workspace (candidateDirs workspace file) := by
  simp only [findRoot, hshare, hpackages, Bool.or_self, Bool.false_eq_true, if_false, chooseRoot_eq,
    strong_markerIn?, isSome_markerIn?, rootByNames]
  cases hfind : (candidateDirs workspace file).find? fun dir => d.holdsAny strong dir with
  | some dir => simp
  | none =>
      -- no directory has a strong marker, so what is marked is marked weak
      have hweak : ∀ dir ∈ (candidateDirs workspace file).reverse,
          (d.holdsAny strong dir || d.holdsAny weak dir) = d.holdsAny weak dir := by
        intro dir hdir
        have hnone : d.holdsAny strong dir = false := by
          simpa using List.find?_eq_none.mp hfind dir (List.mem_reverse.mp hdir)
        rw [hnone, Bool.false_or]
      rw [find?_congr hweak]

/-- Only the names of the markers count, and not their order. -/
theorem findRoot_congr (d : Disk) (workspace : Path) (file : Option Path)
    {strong strong' weak weak' : List String} (hstrong : strong.Perm strong') (hweak : weak.Perm weak') :
    findRoot d workspace file (markersOf strong weak) =
      findRoot d workspace file (markersOf strong' weak') := by
  cases file with
  | none => rfl
  | some file =>
      by_cases hskip : (file.isNetworkShare || file.isInPackages) = true
      · simp only [findRoot, hskip, if_true]
      · rw [Bool.not_eq_true, Bool.or_eq_false_iff] at hskip
        rw [findRoot_markersOf d workspace strong weak hskip.1 hskip.2,
          findRoot_markersOf d workspace strong' weak' hskip.1 hskip.2, rootByNames, rootByNames,
          d.holdsAny_congr hstrong, d.holdsAny_congr hweak]

/-! ## the command line -/

open CommandLine

/-- The names of the markers that are always strong. -/
def alwaysStrong : List String := ["package.json", configFileName]

namespace CommandLine

/-- The options of values that were given have the strong markers first. -/
theorem Given.markers_of_toOptions {g : Given} {settings : Option Path} {o : Options}
    (h : g.toOptions settings = .ok o) :
    o.markers = markersOf (alwaysStrong ++ g.rootMarkers) g.weakRootMarkers := by
  unfold Given.toOptions at h
  split at h
  · obtain rfl := Except.ok.inj h
    simp [markersOf, alwaysStrong, Marker.defaults]
  · contradiction

/-- Values that were given are refused only for the name of a marker. -/
theorem Given.exists_toOptions_iff {g : Given} {settings : Option Path} :
    (∃ o, g.toOptions settings = .ok o) ↔
      ∀ name ∈ g.rootMarkers ++ g.weakRootMarkers, isPlainName name = true := by
  unfold Given.toOptions
  rw [← List.all_eq_true]
  split
  · next hall => simp [hall]
  · next hall => simp [hall]

/-- **Arguments ask for something** if their options can be taken and all markers are plain names. -/
theorem ofArgs_eq_ok_iff {settings : Option Path} {cs : List Choice} {args : List String} {o : Options}
    (h : Spells cs args) :
    Options.ofArgs settings args = .ok o ↔
      Given.Admits {} cs ∧ (cs.foldl Given.put {}).toOptions settings = .ok o := by
  unfold Options.ofArgs
  cases hread : read {} none args with
  | error e =>
      have hrefused : ¬ Given.Admits {} cs := fun hadmits => by
        simpa [hread] using (read_eq_ok_iff h).mpr ⟨hadmits, rfl⟩
      simp [hrefused, Except.bind]
  | ok g =>
      obtain ⟨hadmits, rfl⟩ := (read_eq_ok_iff h).mp hread
      simp [hadmits, Except.bind]

/-- **Options in another order** are accepted too, with the same markers in another order. -/
theorem exists_ofArgs_of_perm {settings : Option Path} {cs cs' : List Choice} {args args' : List String}
    {o : Options} (hperm : cs'.Perm cs) (h : Spells cs args) (h' : Spells cs' args')
    (ho : Options.ofArgs settings args = .ok o) : ∃ o', Options.ofArgs settings args' = .ok o' := by
  obtain ⟨hadmits, ho⟩ := (ofArgs_eq_ok_iff h).mp ho
  obtain ⟨hstrong, hweak⟩ := markers_foldl_put (g := {}) cs
  obtain ⟨hstrong', hweak'⟩ := markers_foldl_put (g := {}) cs'
  have hplain := Given.exists_toOptions_iff.mp ⟨o, ho⟩
  have hplain' : ∀ name ∈ (cs'.foldl Given.put {}).rootMarkers ++ (cs'.foldl Given.put {}).weakRootMarkers,
      isPlainName name = true := by
    intro name hname
    apply hplain name
    rw [hstrong', hweak'] at hname
    rw [hstrong, hweak]
    exact (((hperm.filterMap _).append_left _).append ((hperm.filterMap _).append_left _)).mem_iff.mp hname
  obtain ⟨o', ho'⟩ := Given.exists_toOptions_iff.mpr hplain'
  exact ⟨o', (ofArgs_eq_ok_iff h').mpr ⟨hadmits.perm hperm.symm, ho'⟩⟩

/-- The markers that arguments ask for. -/
theorem markers_of_ofArgs {settings : Option Path} {cs : List Choice} {args : List String} {o : Options}
    (h : Spells cs args) (ho : Options.ofArgs settings args = .ok o) :
    o.markers =
      markersOf (alwaysStrong ++ cs.filterMap Choice.strongName?) (cs.filterMap Choice.weakName?) := by
  obtain ⟨-, ho⟩ := (ofArgs_eq_ok_iff h).mp ho
  obtain ⟨hstrong, hweak⟩ := markers_foldl_put (g := {}) cs
  rw [Given.markers_of_toOptions ho, hstrong, hweak]
  rfl

end CommandLine

/-! ## the main statement -/

/-- **Strong markers win on every command line.**  Arguments that are accepted are the spelling of some
options.  With the markers of these options, the root of a file (on no share, and not below installed
packages) is the nearest directory above it in the workspace folder that holds any strong marker,
whichever weak markers are there or nearer; if there is none, the outermost one that holds a weak marker,
or else the workspace folder.  The same options in any other order are accepted too, and lead to the
same roots. -/
theorem Options.root_by_marker_names (settings : Option Path) (args : List String) (o : Options)
    (h : Options.ofArgs settings args = .ok o) :
    (∃ cs, Spells cs args) ∧ ∀ cs, Spells cs args →
      (∀ (d : Disk) (workspace file : Path), file.isNetworkShare = false → file.isInPackages = false →
        ∃ dirs, Path.Ascent workspace file.parent? dirs ∧
          findRoot d workspace (some file) o.markers =
            rootByNames d (alwaysStrong ++ cs.filterMap Choice.strongName?)
              (cs.filterMap Choice.weakName?) workspace dirs) ∧
      ∀ cs' args', cs'.Perm cs → Spells cs' args' →
        ∃ o', Options.ofArgs settings args' = .ok o' ∧
          ∀ (d : Disk) (workspace : Path) (file : Option Path),
            findRoot d workspace file o'.markers = findRoot d workspace file o.markers := by
  refine ⟨?_, fun cs hcs => ⟨?_, ?_⟩⟩
  · cases hread : read {} none args with
    | error e => simp [Options.ofArgs, hread, Except.bind] at h
    | ok g => exact exists_spells_of_read hread
  · intro d workspace file hshare hpackages
    refine ⟨candidateDirs workspace file, ascent_candidateDirs workspace file, ?_⟩
    rw [markers_of_ofArgs hcs h]
    exact findRoot_markersOf d workspace _ _ hshare hpackages
  · intro cs' args' hperm hcs'
    obtain ⟨o', ho'⟩ := exists_ofArgs_of_perm hperm hcs hcs' h
    refine ⟨o', ho', fun d workspace file => ?_⟩
    rw [markers_of_ofArgs hcs h, markers_of_ofArgs hcs' ho']
    exact findRoot_congr d workspace file ((hperm.filterMap _).append_left _) (hperm.filterMap _)

/-- A directory that holds a strong marker beside a weak one, below another one with the weak marker and
above a third: it is the root, in whatever order the two markers are given. -/
theorem Options.root_beside_weak_marker :
    let args := ["--weak-root-marker", "w", "--root-marker=s"]
    let args' := ["--root-marker=s", "--weak-root-marker", "w", "--"]
    let mark (name : String) : Name × Entry := (name.toUTF8.toList, .file [])
    let sub (name : String) (es : List (Name × Entry)) : Name × Entry := (name.toUTF8.toList, .folder es)
    let d : Disk := { root := [sub "p" [mark "w", sub "a" [mark "s", mark "w", sub "b" [mark "w"]]]] }
    let root (o : Options) : Path := findRoot d (.ofString "/p") (some (.ofString "/p/a/b/f")) o.markers
    ∃ o o', Options.ofArgs none args = .ok o ∧ Options.ofArgs none args' = .ok o' ∧
      root o = .ofString "/p/a" ∧ root o' = root o ∧
      ∃ dirs, Path.Ascent (.ofString "/p") (Path.ofString "/p/a/b/f").parent? dirs ∧
        root o = rootByNames d (alwaysStrong ++ ["s"]) ["w"] (.ofString "/p") dirs := by
  intro args args' mark sub d root
  have hargs : Options.ofArgs none args = .ok
      { markers := [⟨"package.json", true⟩, ⟨configFileName, true⟩, ⟨"s", true⟩, ⟨"w", false⟩] } := rfl
  obtain ⟨-, hall⟩ := Options.root_by_marker_names none args _ hargs
  have hspells : Spells [.spaced .weakRootMarker "w", .joined .rootMarker "s"] args :=
    ⟨[], .inl rfl, by decide⟩
  have hspells' : Spells [.joined .rootMarker "s", .spaced .weakRootMarker "w"] args' :=
    ⟨["--"], .inr rfl, by decide⟩
  obtain ⟨hroot, hperm⟩ := hall _ hspells
  obtain ⟨o', ho', hsame⟩ := hperm _ args' (.swap ..) hspells'
  exact ⟨_, o', hargs, ho', by decide +kernel, hsame d _ _,
    hroot d _ _ (by decide) (by decide)⟩

end LintServer
