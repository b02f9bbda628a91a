import LintServer.Proofs.Addresses
import LintServer.Proofs.Places
import LintServer.Server.Folder

/-!
# Addresses of configuration files

The server learns of a changed configuration file in two ways.  Its own watcher is told a path and asks for
the name of the file; an editor tells an address, and there the last segment is compared as it is written.
An address is written in more ways than one, and only some of them are recognised:

* `Uri.components_pathOfSegments` — the path of an address consists of what its segments say when they are
  decoded;
* `Uri.IsFile.lastSegment?_eq_iff` — so the last segment is the name of the file if nothing in it is escaped.

The main statement, `touchesConfig_iff_endsPlainly`, says which addresses of configuration files are
recognised: those that end plainly.
-/

namespace LintServer

/-! ## texts as bytes -/

/-- Texts with the same bytes are equal. -/
theorem Utf8.encode_inj {cs ds : List Char} : encode cs = encode ds ↔ cs = ds := by
  constructor
  · intro h
    have hbytes : (String.ofList cs).toByteArray = (String.ofList ds).toByteArray := by
      rw [String.toByteArray_ofList, String.toByteArray_ofList]
      exact congrArg List.toByteArray h
    exact String.ofList_inj.mp (String.toByteArray_inj.mp hbytes)
  · exact congrArg _

/-- The byte of a slash stands for nothing else: longer characters have greater bytes only. -/
theorem slash_mem_utf8EncodeChar {c : Char} (h : Path.slash ∈ String.utf8EncodeChar c) : c = '/' := by
  have hslash (n : Nat) : Path.slash = UInt8.ofNat n ↔ n % 256 = 47 := by
    rw [← UInt8.toNat_inj, UInt8.toNat_ofNat']
    exact eq_comm
  simp only [String.utf8EncodeChar] at h
  split at h
  · simp only [List.mem_singleton, hslash] at h
    apply Char.ext
    apply UInt32.toNat_inj.mp
    show _ = 47
    omega
  · repeat' split at h
    all_goals
      simp only [List.mem_cons, List.not_mem_nil, or_false, hslash] at h
      omega

theorem slash_not_mem_encode {cs : List Char} (h : '/' ∉ cs) : Path.slash ∉ Utf8.encode cs := by
  intro hslash
  obtain ⟨c, hc, hbyte⟩ := List.mem_flatMap.mp hslash
  exact h (slash_mem_utf8EncodeChar hbyte ▸ hc)

/-- A text that is neither empty nor a `.` counts as a segment. -/
theorem isIdle_encode {cs : List Char} (hne : cs ≠ []) (hhere : cs ≠ ['.']) :
    Path.isIdle (Utf8.encode cs) = false := by
  have hempty : Utf8.encode cs ≠ Utf8.encode [] := fun h => hne (Utf8.encode_inj.mp h)
  have hdot : Utf8.encode cs ≠ Utf8.encode ['.'] := fun h => hhere (Utf8.encode_inj.mp h)
  rw [Path.isIdle, Bool.or_eq_false_iff, List.isEmpty_eq_false_iff, beq_eq_false_iff_ne]
  exact ⟨hempty, hdot⟩

/-- **A text without slashes** is one step of a path, if it is neither empty nor a `.`. -/
theorem exists_steps_encode {cs : List Char} (hslash : '/' ∉ cs) (hne : cs ≠ []) (hhere : cs ≠ ['.']) :
    ∃ c, Path.steps (Utf8.encode cs) = [c] ∧ ∀ n, c = .name n → n = Utf8.encode cs := by
  have hsegments : Path.segments (Utf8.encode cs) = [Utf8.encode cs] := by
    rw [Path.segments_eq_splitOn]
    exact List.splitOn_eq_singleton (slash_not_mem_encode hslash)
  have hidle : Path.isIdle (Utf8.encode cs) = false := isIdle_encode hne hhere
  simp only [Path.steps, hsegments, Path.Component.ofSegment?, hidle, List.filterMap_cons, List.filterMap_nil]
  by_cases hup : Utf8.encode cs = Path.up
  · exact ⟨.up, by simp [hup], by simp⟩
  · exact ⟨.name (Utf8.encode cs), by simp [hup], by simp⟩

namespace Uri

/-! ## the path of segments -/

/-- Segments behind some bytes. -/
theorem steps_append_segments (bs : List UInt8) (ss : List (List Char)) :
    Path.steps (bs ++ ss.flatMap fun s => Path.slash :: percentDecode s) =
      Path.steps bs ++ ss.flatMap fun s => Path.steps (percentDecode s) := by
  induction ss generalizing bs with
  | nil => simp
  | cons s ss ih =>
      rw [List.flatMap_cons, List.flatMap_cons, List.cons_append, Path.steps_append_slash, ih]

/-- **The path of segments** consists of what the segments say when they are decoded. -/
theorem components_pathOfSegments {ss : List (List Char)} (hne : ss ≠ []) :
    (pathOfSegments (ss.map String.ofList)).components =
      .root :: ss.flatMap fun s => Path.steps (percentDecode s) := by
  obtain ⟨s, ss, rfl⟩ := List.exists_cons_of_ne_nil hne
  have hbytes : ((s :: ss).map String.ofList).flatMap (fun s => Path.slash :: percentDecode s.toList) =
      Path.slash :: (percentDecode s ++ ss.flatMap fun s => Path.slash :: percentDecode s) := by
    simp [List.flatMap_map]
  have hsteps := steps_append_segments (percentDecode s) ss
  simp only [pathOfSegments, hbytes]
  split
  · -- a slash behind what looks like a drive is no step
    rw [List.cons_append, (Path.Leads.absolute _).components_eq, Path.steps_append_slash, hsteps]
    simp
  · rw [(Path.Leads.absolute _).components_eq, hsteps]
    rfl

/-! ## the name at the end -/

/-- **An address ends plainly**: its last segment is not empty, and nothing in it is escaped. -/
def EndsPlainly (u : Uri) : Prop :=
  ∃ s, u.lastSegment? = some s ∧ s ≠ "" ∧ percentDecode s.toList = Utf8.encode s.toList

/-- A path is that of a configuration file if its last component is the name of one. -/
theorem isConfigFile_iff (p : Path) :
    p.isConfigFile = true ↔ p.components.getLast? = some (.name configName) := by
  rw [Path.isConfigFile, beq_iff_eq, Path.fileName?]
  split
  · next n hlast => simp [hlast]
  · next hlast =>
      simp only [reduceCtorEq, false_iff]
      exact hlast _

/-- Only the scheme of files has paths of files. -/
theorem scheme_of_filePath? {u : Uri} {p : Path} (h : u.filePath? = some p) : u.scheme = "file" := by
  unfold filePath? at h
  split at h
  · assumption
  · simp at h

/-- The last segment of an address of a file, and the path of the file if that segment is one step of it. -/
theorem IsFile.exists_last {u : Uri} {ss : List (List Char)} (h : IsFile u none ss) :
    ∃ s ∈ ss, u.lastSegment? = some (String.ofList s) ∧
      ∀ p c, u.filePath? = some p → Path.steps (percentDecode s) = [c] → p.components.getLast? = some c := by
  obtain ⟨first, s, rfl⟩ : ∃ first s, ss = first ++ [s] := by
    simpa using (List.eq_nil_or_concat ss).resolve_left h.ne_nil
  refine ⟨s, by simp, ?_, ?_⟩
  · simp [lastSegment?, h.route_eq, routeOf]
  · intro p c hp hc
    obtain rfl := Option.some.inj (h.filePath?_of_local.symm.trans hp)
    rw [components_pathOfSegments h.ne_nil, List.flatMap_append, List.flatMap_singleton, hc,
      ← List.cons_append, List.getLast?_concat]

/-- **The last segment of an address is the name of configuration files** exactly if the path is that of a
configuration file and the address ends plainly. -/
theorem IsFile.lastSegment?_eq_iff {u : Uri} {ss : List (List Char)} (h : IsFile u none ss) {p : Path}
    (hp : u.filePath? = some p) :
    u.lastSegment? = some configFileName ↔ p.isConfigFile = true ∧ u.EndsPlainly := by
  obtain ⟨s, hs, hlast, hcomponents⟩ := h.exists_last
  rw [isConfigFile_iff]
  constructor
  · intro hname
    obtain rfl : s = configFileName.toList := by
      rw [← Option.some.inj (hlast.symm.trans hname), String.toList_ofList]
    exact ⟨hcomponents p _ hp (by decide), configFileName, hname, by decide, by decide⟩
  · rintro ⟨hconfig, t, ht, hne, hplain⟩
    obtain rfl : String.ofList s = t := Option.some.inj (hlast.symm.trans ht)
    rw [String.toList_ofList] at hplain
    have hslash : '/' ∉ s := fun hmem => (h.isSegment s hs '/' hmem).1 rfl
    have hempty : s ≠ [] := by
      rintro rfl
      exact hne rfl
    have hhere : s ≠ ['.'] := by
      rintro rfl
      exact absurd (h.settled _ hs) (by decide)
    obtain ⟨c, hsteps, hname⟩ := exists_steps_encode hslash hempty hhere
    have hc : c = .name configName :=
      Option.some.inj ((hcomponents p c hp (hplain ▸ hsteps)).symm.trans hconfig)
    rw [hlast, ← Utf8.encode_inj.mp (hname _ hc), String.ofList_toList]

end Uri

/-! ## the main statement -/

/-- **Which configuration files an editor can tell of**: of the addresses of files in a list, one is recognised
as that of a configuration file exactly if its path is the path of one, as the watcher of the server would
see it, and the address ends plainly. -/
theorem touchesConfig_iff_endsPlainly (uris : List Uri)
    (h : ∀ u ∈ uris, (∃ t, Uri.parse t = .ok u) ∧ ∃ p, u.filePath? = some p) :
    touchesConfig uris = true ↔
      ∃ u ∈ uris, ∃ p, u.filePath? = some p ∧ p.isConfigFile = true ∧ u.EndsPlainly := by
  have hone : ∀ u ∈ uris, u.lastSegment? = some configFileName ↔
      ∃ p, u.filePath? = some p ∧ p.isConfigFile = true ∧ u.EndsPlainly := by
    intro u hu
    obtain ⟨⟨t, ht⟩, p, hp⟩ := h u hu
    obtain ⟨host, ss, hfile⟩ := (Uri.isFile_of_parse ht).2 (Uri.scheme_of_filePath? hp)
    cases host with
    | some host => simp [hfile.filePath?_of_remote] at hp
    | none => simp [hfile.lastSegment?_eq_iff hp, hp]
  simp only [touchesConfig, List.any_eq_true, beq_iff_eq]
  exact exists_congr fun u => and_congr_right (hone u)

/-- Of two files one is a configuration file, and its address is recognised once its `..` is carried out. -/
theorem touchesConfig_behind_up :
    let uri (names : List String) : Uri := ⟨"file", some {}, .segments names, none, none⟩
    let readme := uri ["ws", "readme%2Emd"]
    let config := uri ["ws", ".code-check.toml"]
    Uri.parse "file:///ws/readme%2Emd" = .ok readme ∧
      Uri.parse "file:///ws/a/../.code-check.toml" = .ok config ∧ touchesConfig [readme, config] = true := by
  intro uri readme config
  have hreadme : Uri.parse "file:///ws/readme%2Emd" = .ok readme := by rfl
  have hconfig : Uri.parse "file:///ws/a/../.code-check.toml" = .ok config := by rfl
  have hfiles : ∀ u ∈ [readme, config], (∃ t, Uri.parse t = .ok u) ∧ ∃ p, u.filePath? = some p := by
    simp only [List.forall_mem_cons]
    exact ⟨⟨⟨_, hreadme⟩, .ofString "/ws/readme.md", by decide⟩,
      ⟨⟨_, hconfig⟩, .ofString "/ws/.code-check.toml", by decide⟩, by simp⟩
  refine ⟨hreadme, hconfig, (touchesConfig_iff_endsPlainly _ hfiles).mpr ⟨config, by simp, ?_⟩⟩
  exact ⟨.ofString "/ws/.code-check.toml", by decide, by decide, ".code-check.toml", by decide, by decide, by decide⟩

/-- Two addresses of a configuration file that are not recognised: a character of its name is escaped, or a
slash is behind it. -/
theorem configuration_unrecognised :
    let uri (names : List String) : Uri := ⟨"file", some {}, .segments names, none, none⟩
    let escaped := uri ["ws", "%2Ecode-check.toml"]
    let slashed := uri ["ws", ".code-check.toml", ""]
    Uri.parse "file:///ws/%2Ecode-check.toml" = .ok escaped ∧
      Uri.parse "file:///ws/.code-check.toml/" = .ok slashed ∧
      (∀ u ∈ [escaped, slashed], u.filePath?.map Path.isConfigFile = some true) ∧
      touchesConfig [escaped, slashed] = false := by
  refine ⟨by rfl, by rfl, by decide, by decide⟩

end LintServer
