import LintServer.Proofs.Ancestors
import LintServer.Proofs.Lookup
import LintServer.Watch

/-!
# Places on the disk

A path spells a location, and a disk has an entry at a location or has none.  Here the two are brought
together, and it is said what a change of the disk does to the directories at all locations:

* `Path.components_join`, `Disk.place_join` — a name behind a path is one more name of its location;
* `Disk.at?_place` — what a path leads to is at the location that it spells;
* `Disk.entry?_join` — behind a path to a directory, a name leads to what the directory has under it;
* `Disk.HasFolder` — where the directories are, and what `put` and `erase` make of that;
* `Disk.Tidy` — every name is a name and no directory has it twice, which every change keeps.

A relative path is looked up behind the current directory, and all of this is so for it too, because a path
may be taken apart from what it stands behind (`Path.join_assoc`).
-/

namespace LintServer

namespace Path

/-! ## names -/

/-- What can be the name of an entry. -/
structure IsName (n : Name) : Prop where
  solid : slash ∉ n
  busy : isIdle n = false
  ne_up : n ≠ up

instance (n : Name) : Decidable (IsName n) :=
  decidable_of_iff (slash ∉ n ∧ isIdle n = false ∧ n ≠ up)
    ⟨fun h => ⟨h.1, h.2.1, h.2.2⟩, fun h => ⟨h.solid, h.busy, h.ne_up⟩⟩

/-- A name is the component of itself. -/
theorem IsName.ofSegment? {n : Name} (h : IsName n) : Component.ofSegment? n = some (.name n) := by
  simp [Component.ofSegment?, h.busy, h.ne_up]

/-- A name is one segment. -/
theorem IsName.segments {n : Name} (h : IsName n) : segments n = [n] := by
  rw [segments_eq_splitOn]
  exact List.splitOn_eq_singleton h.solid

/-- A name is a relative path. -/
theorem IsName.head?_ne {n : Name} (h : IsName n) : n.head? ≠ some slash :=
  fun hslash => h.solid (List.mem_of_head? hslash)

/-- A name that is a component is a name. -/
theorem isName_of_mem_components {p : Path} {n : Name} (h : .name n ∈ p.components) : IsName n := by
  obtain ⟨start, rest, first, hl⟩ := p.exists_leads
  rw [hl.components_eq, List.mem_append] at h
  have hfirst : .name n ∉ first := by cases hl <;> simp
  obtain ⟨s, hs, hc⟩ := List.mem_filterMap.mp (h.resolve_left hfirst)
  unfold Component.ofSegment? at hc
  split at hc
  · simp at hc
  · next hidle =>
      split at hc
      · simp at hc
      · next hup =>
          obtain rfl : s = n := by simpa using hc
          exact ⟨not_mem_of_mem_segments hs, by simpa using hidle, hup⟩

theorem ofSegment?_up : Component.ofSegment? up = some .up := by decide

theorem segments_ne_nil (bs : List UInt8) : segments bs ≠ [] := by
  rw [segments_eq_splitOn]
  exact List.splitOn_ne_nil slash bs

theorem segments_append_slash (bs more : List UInt8) :
    segments (bs ++ slash :: more) = segments bs ++ segments more := by
  induction bs with
  | nil => simp [segments]
  | cons b bs ih =>
      rw [List.cons_append, segments, segments, ih]
      split
      · rfl
      · cases hbs : segments bs with
        | nil => exact absurd hbs (segments_ne_nil bs)
        | cons s ss => rfl

@[simp] theorem steps_nil : steps [] = [] := rfl

theorem steps_append_slash (bs more : List UInt8) : steps (bs ++ slash :: more) = steps bs ++ steps more := by
  rw [steps, segments_append_slash, List.filterMap_append]
  rfl

/-! ## a name behind a path -/

/-- A path from the root of the disk is a slash and what is behind it. -/
theorem exists_of_isAbsolute {p : Path} (h : p.isAbsolute = true) : ∃ rest, p = ⟨slash :: rest⟩ := by
  obtain ⟨bytes⟩ := p
  cases bytes with
  | nil => simp [isAbsolute] at h
  | cons b rest =>
      obtain rfl : b = slash := by simpa [isAbsolute] using h
      exact ⟨rest, rfl⟩

/-- An absolute path does not depend on what it stands behind. -/
theorem join_of_isAbsolute {q : Path} (h : q.isAbsolute = true) (p : Path) : p.join q.bytes = q := by
  rw [join, if_pos (by simpa [isAbsolute] using h)]

/-- Whatever stands behind a path from the root of the disk, that is one too. -/
theorem isAbsolute_join {p : Path} (h : p.isAbsolute = true) (n : Name) : (p.join n).isAbsolute = true := by
  obtain ⟨rest, rfl⟩ := exists_of_isAbsolute h
  unfold join
  split
  · next hn => simpa [isAbsolute] using hn
  · split <;> rfl

/-- What is behind the slash of a path with a relative path behind it: its segments are more segments, and a
slash at the end of the path makes no difference to that. -/
theorem exists_join_eq (rest : List UInt8) {n : Name} (hn : n.head? ≠ some slash) :
    ∃ rest' ss, join ⟨slash :: rest⟩ n = ⟨slash :: rest'⟩ ∧ segments rest' = ss ++ segments n ∧
      (segments rest = ss ∨ segments rest = ss ++ [[]]) := by
  rw [join, if_neg hn]
  split
  · next hslash =>
      -- the slash in front of the name is there already
      rcases List.eq_nil_or_concat rest with rfl | ⟨bs, b, rfl⟩
      · exact ⟨n, [], rfl, rfl, .inr rfl⟩
      · have hlast : (slash :: bs ++ [b]).getLast? = some b := List.getLast?_concat
        rw [List.concat_eq_append, ← List.cons_append, hlast] at hslash
        obtain rfl : b = slash := by simpa using hslash
        refine ⟨bs ++ slash :: n, segments bs, by simp, segments_append_slash bs n, .inr ?_⟩
        rw [List.concat_eq_append, segments_append_slash]
        rfl
  · exact ⟨rest ++ slash :: n, segments rest, rfl, segments_append_slash rest n, .inl rfl⟩

/-- A slash at the end makes no component. -/
theorem steps_eq_filterMap {rest : List UInt8} {ss : List Name}
    (h : segments rest = ss ∨ segments rest = ss ++ [[]]) :
    steps rest = ss.filterMap Component.ofSegment? := by
  rcases h with h | h
  · rw [steps, h]
  · rw [steps, h, List.filterMap_append]
    exact List.append_nil _

/-- **What is behind what is behind a path** is behind the path with that. -/
theorem join_assoc (p q : Path) {n : Name} (hn : n.head? ≠ some slash) :
    p.join (q.join n).bytes = (p.join q.bytes).join n := by
  by_cases hq : q.isAbsolute = true
  · rw [join_of_isAbsolute hq, join_of_isAbsolute (isAbsolute_join hq n)]
  · obtain ⟨bytes⟩ := p
    obtain ⟨more⟩ := q
    have hmore : more.head? ≠ some slash := by simpa [isAbsolute] using hq
    cases more with
    | nil =>
        by_cases hend : (bytes.isEmpty || bytes.getLast? == some slash) = true
        · simp [join, hn, hend]
        · simp [join, hn, hend]
    | cons b more =>
        have hb : b ≠ slash := by simpa using hmore
        by_cases hend : (bytes.isEmpty || bytes.getLast? == some slash) = true
        · by_cases hlast : (b :: more).getLast? = some slash
          · simp [join, hn, hb, hend, hlast]
          · simp [join, hn, hb, hend, hlast]
        · by_cases hlast : (b :: more).getLast? = some slash
          · simp [join, hn, hb, hend, hlast]
          · simp [join, hn, hb, hend, hlast]

/-- A slash and more behind a path leave it the way in which it starts. -/
theorem Leads.extend {p : Path} {start rest : List UInt8} {first : List Component}
    (h : p.Leads start rest first) (hne : p.bytes ≠ []) (more : List UInt8) :
    Leads ⟨p.bytes ++ slash :: more⟩ start (rest ++ slash :: more) first := by
  have hhead : (segments (rest ++ slash :: more)).head? = (segments rest).head? := by
    obtain ⟨s, ss, hsegments⟩ := List.exists_cons_of_ne_nil (segments_ne_nil rest)
    rw [segments_append_slash, hsegments]
    rfl
  cases h with
  | absolute => exact .absolute _
  | here hrest =>
      rw [List.append_assoc]
      exact .here (hhead.trans hrest)
  | plain hslash hhere => exact .plain (.inr (hhead ▸ hslash.resolve_left hne)) (hhead ▸ hhere)

/-- A slash and more behind a path are more components. -/
theorem components_append_slash {p : Path} (hne : p.bytes ≠ []) (more : List UInt8) :
    components ⟨p.bytes ++ slash :: more⟩ = p.components ++ steps more := by
  obtain ⟨start, rest, first, hl⟩ := p.exists_leads
  rw [(hl.extend hne more).components_eq, hl.components_eq, List.append_assoc, steps_append_slash]

/-- **A relative path behind a path** has its components behind those of the path. -/
theorem components_join_of_relative {p : Path} {n : Name} (hp : p.bytes ≠ []) (hn : n.head? ≠ some slash) :
    (p.join n).components = p.components ++ steps n := by
  have hempty : p.bytes.isEmpty = false := by simpa using hp
  rw [join, if_neg hn, hempty, Bool.false_or]
  split
  · next hslash =>
      -- the slash in front of the name is there already
      obtain ⟨bs, hbs⟩ := List.getLast?_eq_some_iff.mp (eq_of_beq hslash)
      obtain ⟨bytes⟩ := p
      dsimp only at hbs
      subst hbs
      rw [List.append_assoc, List.singleton_append]
      by_cases hroot : bs = []
      · subst hroot
        rw [List.nil_append, List.nil_append, (Leads.absolute n).components_eq,
          (Leads.absolute []).components_eq]
        rfl
      · have hsame := components_append_slash (p := ⟨bs⟩) hroot []
        have hmore := components_append_slash (p := ⟨bs⟩) hroot n
        rw [hmore, hsame, steps_nil, List.append_nil]
  · exact components_append_slash hp n

/-- The steps of a name. -/
theorem IsName.steps {n : Name} (h : IsName n) : steps n = [.name n] := by
  simp [Path.steps, h.segments, h.ofSegment?]

/-- **A name behind a path** is one more component. -/
theorem components_join (p : Path) {n : Name} (hn : IsName n) :
    (p.join n).components = p.components ++ [.name n] := by
  by_cases hp : p.bytes = []
  · have hjoin : p.join n = ⟨n⟩ := by simp [join, hn.head?_ne, hp]
    have hhead : (Path.segments n).head? = some n := by rw [hn.segments]; rfl
    have hbusy := hn.busy
    simp only [isIdle, Bool.or_eq_false_iff] at hbusy
    have hname : Leads ⟨n⟩ [] n [] := by
      refine .plain (.inr ?_) ?_
      · rw [hhead]
        simpa using hbusy.1
      · rw [hhead]
        simpa using hbusy.2
    obtain ⟨bytes⟩ := p
    dsimp only at hp
    subst hp
    rw [hjoin, hname.components_eq, hn.steps]
    rfl
  · rw [components_join_of_relative hp hn.head?_ne, hn.steps]

/-- A relative path behind a path in a folder is in the folder. -/
theorem isWithin_join {p folder : Path} {n : Name} (h : p.isWithin folder = true) (hn : n.head? ≠ some slash) :
    (p.join n).isWithin folder = true := by
  rw [isWithin_iff] at h ⊢
  by_cases hp : p.bytes = []
  · obtain ⟨bytes⟩ := p
    dsimp only at hp
    subst hp
    have hnil : folder.components = [] := List.prefix_nil.mp h
    rw [hnil]
    exact List.nil_prefix
  · rw [components_join_of_relative hp hn]
    exact h.trans (List.prefix_append _ _)

/-- The name is the one of the file. -/
theorem fileName?_join (p : Path) {n : Name} (hn : IsName n) : (p.join n).fileName? = some n := by
  simp [fileName?, components_join p hn]

theorem isSkipped_join (p : Path) {n : Name} (hn : IsName n) :
    (p.join n).isSkipped = skippedNames.contains n := by
  simp [isSkipped, fileName?_join p hn]

theorem isConfigFile_join (p : Path) {n : Name} (hn : IsName n) :
    (p.join n).isConfigFile = (n == configName) := by
  simp [isConfigFile, fileName?_join p hn]

/-- The path of what names lead to from a directory. -/
def below (dir : Path) (names : Location) : Path := names.foldl join dir

@[simp] theorem below_nil (dir : Path) : dir.below [] = dir := rfl

@[simp] theorem below_cons (dir : Path) (n : Name) (names : Location) :
    dir.below (n :: names) = (dir.join n).below names := rfl

theorem below_concat (dir : Path) (names : Location) (n : Name) :
    dir.below (names ++ [n]) = (dir.below names).join n := List.foldl_append

end Path

namespace Disk

/-! ## absolute paths -/

theorem isAbsolute_absolute (d : Disk) (p : Path) : (d.absolute p).isAbsolute = true :=
  Path.isAbsolute_join d.current_absolute p.bytes

theorem absolute_of_isAbsolute (d : Disk) {p : Path} (h : p.isAbsolute = true) : d.absolute p = p :=
  Path.join_of_isAbsolute h d.current

@[simp] theorem absolute_absolute (d : Disk) (p : Path) : d.absolute (d.absolute p) = d.absolute p :=
  d.absolute_of_isAbsolute (d.isAbsolute_absolute p)

theorem absolute_join (d : Disk) (p : Path) {n : Name} (hn : n.head? ≠ some Path.slash) :
    d.absolute (p.join n) = (d.absolute p).join n := Path.join_assoc d.current p hn

/-- A path from the root of the disk is looked up there. -/
theorem locate?_slash (d : Disk) (rest : List UInt8) :
    d.locate? ⟨Path.slash :: rest⟩ = d.follow [] (Path.segments rest) := by
  rw [locate?, d.absolute_of_isAbsolute rfl, (Path.Leads.absolute rest).lead_eq]
  rfl

/-- A path that is not empty leads where the absolute path leads. -/
theorem entry?_absolute (d : Disk) {p : Path} (h : p.bytes ≠ []) : d.entry? (d.absolute p) = d.entry? p := by
  obtain ⟨rest, hrest⟩ := Path.exists_of_isAbsolute (d.isAbsolute_absolute p)
  have hlocate : d.locate? (d.absolute p) = d.locate? p := by
    rw [hrest, locate?_slash, locate?, if_neg (by simpa using h), hrest, (Path.Leads.absolute rest).lead_eq]
  rw [ entry?, entry?, hlocate]

/-- There is nothing at the empty path. -/
theorem ne_nil_of_entry {d : Disk} {p : Path} {e : Entry} (h : d.entry? p = some e) : p.bytes ≠ [] := by
  intro hnil
  simp [ entry?, locate?, hnil] at h

/-! ## the location of a path -/

theorem place_of_isAbsolute (d : Disk) {p : Path} (h : p.isAbsolute = true) : d.place p = spelled p := by
  rw [place, d.absolute_of_isAbsolute h]

/-- Only the current directory has a bearing on the location that a path spells. -/
theorem absolute_congr {d d' : Disk} (h : d'.current = d.current) (p : Path) : d'.absolute p = d.absolute p := by
  rw [absolute, absolute, h]

/-- One more component of a path, and the location that it then spells. -/
def stride (l : Location) : Path.Component → Location
  | .name n => l ++ [n]
  | .up => l.dropLast
  | .root | .here => l

theorem spelled_eq_foldl (p : Path) : spelled p = p.components.foldl stride [] := by
  unfold spelled
  congr 1

/-- **A name behind a path** is one more name of its location. -/
theorem spelled_join (p : Path) {n : Name} (hn : Path.IsName n) : spelled (p.join n) = spelled p ++ [n] := by
  rw [spelled_eq_foldl, spelled_eq_foldl, Path.components_join p hn, List.foldl_append]
  rfl

/-- Names behind a path are more names of its location. -/
theorem spelled_below (p : Path) {names : Location} (hnames : ∀ n ∈ names, Path.IsName n) :
    spelled (p.below names) = spelled p ++ names := by
  induction names generalizing p with
  | nil => rw [Path.below_nil, List.append_nil]
  | cons n rest ih =>
      obtain ⟨hn, hrest⟩ := List.forall_mem_cons.mp hnames
      rw [Path.below_cons, ih (p.join n) hrest, spelled_join p hn, List.append_assoc]
      rfl

theorem place_join (d : Disk) (p : Path) {n : Name} (hn : Path.IsName n) :
    d.place (p.join n) = d.place p ++ [n] := by
  rw [place, d.absolute_join p hn.head?_ne, spelled_join _ hn]
  rfl

theorem place_below (d : Disk) (p : Path) {names : Location} (hnames : ∀ n ∈ names, Path.IsName n) :
    d.place (p.below names) = d.place p ++ names := by
  have habsolute : d.absolute (p.below names) = (d.absolute p).below names := by
    induction names generalizing p with
    | nil => rfl
    | cons n rest ih =>
        obtain ⟨hn, hrest⟩ := List.forall_mem_cons.mp hnames
        rw [Path.below_cons, ih (p.join n) hrest, d.absolute_join p hn.head?_ne, Path.below_cons]
  rw [place, habsolute, spelled_below _ hnames]
  rfl

/-- Paths with the same components spell the same location. -/
theorem spelled_congr {p q : Path} (h : p.same q = true) : spelled p = spelled q := by
  rw [spelled_eq_foldl, spelled_eq_foldl, eq_of_beq h]

/-- A location that a path spells has names in it only. -/
theorem isName_of_mem_spelled {p : Path} {n : Name} (h : n ∈ spelled p) : Path.IsName n := by
  have hfold : ∀ (cs : List Path.Component) (l : Location), n ∈ cs.foldl stride l →
      n ∈ l ∨ .name n ∈ cs := by
    intro cs
    induction cs with
    | nil => exact fun l h => .inl h
    | cons c cs ih =>
        intro l h
        rcases ih _ h with h | h
        · cases c with
          | name m =>
              rcases List.mem_append.mp h with h | h
              · exact .inl h
              · exact .inr (by simp [List.mem_singleton.mp h])
          | up => exact .inl ((List.dropLast_sublist _).mem h)
          | root => exact .inl h
          | here => exact .inl h
        · exact .inr (List.mem_cons_of_mem c h)
  rw [spelled_eq_foldl] at h
  exact Path.isName_of_mem_components ((hfold _ [] h).resolve_left (by simp))

/-- Segments that lead to something lead to the location that they spell. -/
theorem eq_foldl_of_follow {d : Disk} {upward l : Location} {ss : List Name} (h : d.follow upward ss = some l) :
    l = (ss.filterMap Path.Component.ofSegment?).foldl stride upward.reverse := by
  induction ss generalizing upward with
  | nil => simpa [follow, eq_comm] using h
  | cons s ss ih =>
      rw [follow] at h
      split at h
      · split at h
        · next hidle =>
            rw [List.filterMap_cons_none (Path.ofSegment?_of_idle hidle)]
            exact ih h
        · next hidle =>
            split at h
            · next hup =>
                subst hup
                rw [List.filterMap_cons_some (Path.ofSegment?_up), List.foldl_cons, stride,
                  List.dropLast_reverse]
                exact ih h
            · next hup =>
                split at h
                · have hc : Path.Component.ofSegment? s = some (.name s) := by
                    simp [Path.Component.ofSegment?, hidle, hup]
                  rw [List.filterMap_cons_some hc, List.foldl_cons, stride, ← List.reverse_cons]
                  exact ih h
                · simp at h
      · simp at h

/-- A path that leads to something leads to the location that it spells. -/
theorem eq_place_of_locate? {d : Disk} {p : Path} {l : Location} (h : d.locate? p = some l) : l = d.place p := by
  obtain ⟨rest, hrest⟩ := Path.exists_of_isAbsolute (d.isAbsolute_absolute p)
  have hl := Path.Leads.absolute rest
  rw [locate?, hrest, hl.lead_eq, Option.ite_none_left_eq_some] at h
  rw [place, hrest, spelled_eq_foldl, hl.components_eq]
  exact eq_foldl_of_follow h.2

/-- **What a path leads to** is at the location that it spells. -/
theorem at?_place {d : Disk} {p : Path} {e : Entry} (h : d.entry? p = some e) : d.at? (d.place p) = some e := by
  obtain ⟨l, hl, he⟩ := Option.bind_eq_some_iff.mp h
  rwa [← eq_place_of_locate? hl]

/-! ## directories -/

/-- There is a directory at a location. -/
def HasFolder (d : Disk) (l : Location) : Prop := ∃ es, d.at? l = some (.folder es)

theorem hasFolder_iff {d : Disk} {l : Location} :
    d.HasFolder l ↔ ((d.at? l).map Entry.isFolder).getD false = true := by
  unfold HasFolder
  cases d.at? l with
  | none => simp
  | some e => cases e <;> simp [Entry.isFolder]

instance (d : Disk) (l : Location) : Decidable (d.HasFolder l) := decidable_of_iff _ hasFolder_iff.symm

/-- The way from a directory on. -/
theorem find?_append {es inner : List (Name × Entry)} {l : Location} (h : find? es l = some (.folder inner))
    (more : Location) : find? es (l ++ more) = find? inner more := by
  induction l generalizing es with
  | nil =>
      obtain rfl : es = inner := by simpa [find?] using h
      rfl
  | cons n rest ih =>
      rw [find?] at h
      rw [List.cons_append, find?]
      cases hn : es.lookup n with
      | none => simp [hn] at h
      | some e =>
          rw [hn] at h
          cases rest with
          | nil =>
              obtain rfl : e = .folder inner := by simpa using h
              cases more with
              | nil => rfl
              | cons m more => simp [Entry.isFolder, Entry.entries]
          | cons n' rest =>
              simp only [Option.ite_none_right_eq_some] at h
              simp only [List.cons_append, if_pos h.1]
              exact ih h.2

/-- What has something in it is a directory. -/
theorem exists_of_find?_append {es : List (Name × Entry)} {l : Location} {n : Name} {rest : Location}
    {e : Entry} (h : find? es (l ++ n :: rest) = some e) : ∃ inner, find? es l = some (.folder inner) := by
  induction l generalizing es with
  | nil => exact ⟨es, rfl⟩
  | cons m l ih =>
      rw [List.cons_append, find?] at h
      rw [find?]
      cases hm : es.lookup m with
      | none => simp [hm] at h
      | some e' =>
          rw [hm] at h
          have h' : (if e'.isFolder then find? e'.entries (l ++ n :: rest) else none) = some e := by
            cases l <;> exact h
          rw [Option.ite_none_right_eq_some] at h'
          cases l with
          | nil =>
              cases e' with
              | file content => simp [Entry.isFolder] at h'
              | folder inner => exact ⟨inner, rfl⟩
          | cons m' l =>
              simp only [if_pos h'.1]
              exact ih h'.2

/-- **The way to a directory** leads through directories. -/
theorem HasFolder.of_prefix {d : Disk} {l l' : Location} (h : d.HasFolder l') (hl : l <+: l') :
    d.HasFolder l := by
  obtain ⟨more, rfl⟩ := hl
  cases more with
  | nil => simpa using h
  | cons n rest =>
      obtain ⟨es, hes⟩ := h
      exact exists_of_find?_append hes

/-- To follow segments and then others. -/
theorem follow_append (d : Disk) (upward : Location) (ss more : List Name) :
    d.follow upward (ss ++ more) = (d.follow upward ss).bind fun l => d.follow l.reverse more := by
  induction ss generalizing upward with
  | nil => simp [follow]
  | cons s ss ih =>
      rw [List.cons_append, follow, follow]
      split
      · split
        · exact ih upward
        · split
          · exact ih upward.tail
          · split
            · exact ih (s :: upward)
            · rfl
      · rfl

/-- What a name leads to from a location is what a directory there has under it. -/
theorem follow_name_bind (d : Disk) (l : Location) {n : Name} (hn : Path.IsName n) :
    (d.follow l.reverse [n]).bind d.at? = (d.at? l).bind fun e => e.entries.lookup n := by
  rw [follow, List.reverse_reverse]
  cases hat : d.at? l with
  | none => rfl
  | some e =>
      cases e with
      | file content => rfl
      | folder es =>
          have hnext : d.at? (l ++ [n]) = es.lookup n := by
            rw [at?, find?_append hat, find?]
            cases es.lookup n <;> rfl
          rw [hn.busy, List.reverse_cons, List.reverse_reverse, hnext]
          cases hlookup : es.lookup n with
          | none => simp [Entry.isFolder, Entry.entries, hn.ne_up, hlookup]
          | some e => simp [Entry.isFolder, Entry.entries, hn.ne_up, hlookup, follow, hnext]

/-- A slash at the end of a path makes no difference to what is behind it. -/
theorem follow_slash_bind (d : Disk) (l : Location) (n : Name) :
    ((d.follow l.reverse [[]]).bind d.at?).bind (fun e => e.entries.lookup n) =
      (d.at? l).bind fun e => e.entries.lookup n := by
  rw [follow, List.reverse_reverse]
  cases hat : d.at? l with
  | none => rfl
  | some e => cases e <;> simp [Entry.isFolder, Entry.entries, Path.isIdle, follow, hat]

/-- **A name behind a path** leads to what the directory that the path leads to has under it. -/
theorem entry?_join (d : Disk) (p : Path) {n : Name} (hn : Path.IsName n) :
    d.entry? (p.join n) = (d.entry? (d.absolute p)).bind fun e => e.entries.lookup n := by
  have hne : (p.join n).bytes ≠ [] := by
    intro hnil
    have hcomponents := Path.components_join p hn
    rw [show p.join n = ⟨[]⟩ from congrArg Path.mk hnil] at hcomponents
    simp [(Path.Leads.plain (.inl rfl) (by decide)).components_eq] at hcomponents
  obtain ⟨rest, hrest⟩ := Path.exists_of_isAbsolute (d.isAbsolute_absolute p)
  obtain ⟨rest', ss, hjoin, hsegments, hss⟩ := Path.exists_join_eq rest hn.head?_ne
  rw [← d.entry?_absolute hne, d.absolute_join p hn.head?_ne, hrest, hjoin, entry?, entry?, locate?_slash,
    locate?_slash, hsegments, hn.segments, follow_append, Option.bind_assoc]
  simp only [follow_name_bind d _ hn]
  rcases hss with hss | hss
  · rw [hss, Option.bind_assoc]
  · rw [hss, follow_append]
    cases d.follow [] ss with
    | none => rfl
    | some l => exact (follow_slash_bind d l n).symm

/-- A name behind a path to something. -/
theorem entry?_join_of_some {d : Disk} {p : Path} {e : Entry} (h : d.entry? p = some e) {n : Name}
    (hn : Path.IsName n) : d.entry? (p.join n) = e.entries.lookup n := by
  rw [entry?_join d p hn, d.entry?_absolute (ne_nil_of_entry h), h]
  rfl

theorem isFolder_iff {d : Disk} {p : Path} : d.isFolder p = true ↔ ∃ es, d.entry? p = some (.folder es) := by
  unfold isFolder
  cases d.entry? p with
  | none => simp
  | some e => cases e <;> simp [Entry.isFolder]

/-- There is a directory at the location that a path to a directory spells. -/
theorem hasFolder_place {d : Disk} {p : Path} (h : d.isFolder p = true) : d.HasFolder (d.place p) := by
  obtain ⟨es, hes⟩ := isFolder_iff.mp h
  exact ⟨es, at?_place hes⟩

/-- The way to a directory begins with a directory. -/
theorem exists_find?_cons_iff {es : List (Name × Entry)} {n : Name} {rest : Location} :
    (∃ inner, find? es (n :: rest) = some (.folder inner)) ↔
      ∃ e, es.lookup n = some e ∧ e.isFolder = true ∧ ∃ inner, find? e.entries rest = some (.folder inner) := by
  rw [find?]
  cases es.lookup n with
  | none => simp
  | some e =>
      cases rest with
      | nil => cases e <;> simp [find?, Entry.isFolder]
      | cons m rest => cases e <;> simp [Entry.isFolder]

/-- **Names behind a path to a directory** lead to the directories below it. -/
theorem isFolder_below {d : Disk} {p : Path} {names : Location} (hnames : ∀ n ∈ names, Path.IsName n)
    {es : List (Name × Entry)} (h : d.entry? p = some (.folder es))
    (hfind : ∃ inner, find? es names = some (.folder inner)) :
    d.isFolder (p.below names) = true := by
  induction names generalizing p es with
  | nil => exact isFolder_iff.mpr ⟨es, h⟩
  | cons n rest ih =>
      obtain ⟨hn, hrest⟩ := List.forall_mem_cons.mp hnames
      obtain ⟨e, hlookup, hfolder, hinner⟩ := exists_find?_cons_iff.mp hfind
      cases e with
      | file content => simp [Entry.isFolder] at hfolder
      | folder inner => exact ih hrest ((entry?_join_of_some h hn).trans hlookup) hinner

/-- Where segments lead to a directory, they start from one. -/
theorem hasFolder_of_follow {d : Disk} {upward l : Location} {ss : List Name} (h : d.follow upward ss = some l)
    (hl : d.HasFolder l) : d.HasFolder upward.reverse := by
  cases ss with
  | nil =>
      obtain rfl : upward.reverse = l := by simpa [follow] using h
      exact hl
  | cons s ss =>
      rw [follow, Option.ite_none_right_eq_some] at h
      exact hasFolder_iff.mpr h.1

/-- Where directories stay, segments lead to them. -/
theorem follow_of_hasFolder {d d' : Disk} (hkeeps : ∀ l, d.HasFolder l → d'.HasFolder l) {upward l : Location}
    {ss : List Name} (h : d.follow upward ss = some l) (hl : d.HasFolder l) : d'.follow upward ss = some l := by
  induction ss generalizing upward with
  | nil => exact h
  | cons s ss ih =>
      have hhere := hasFolder_iff.mp (hkeeps _ (hasFolder_of_follow h hl))
      rw [follow, Option.ite_none_right_eq_some] at h
      rw [follow, if_pos hhere]
      obtain ⟨-, h⟩ := h
      split at h
      · next hidle =>
          rw [if_pos hidle]
          exact ih h
      · next hidle =>
          rw [if_neg hidle]
          split at h
          · next hup =>
              rw [if_pos hup]
              exact ih h
          · next hup =>
              rw [Option.ite_none_right_eq_some] at h
              obtain ⟨es, hes⟩ := hkeeps _ (hasFolder_of_follow h.2 hl)
              rw [if_neg hup, hes]
              exact ih h.2

/-- **Where directories stay**, a path that leads to one leads to one. -/
theorem isFolder_of_hasFolder {d d' : Disk} (hkeeps : ∀ l, d.HasFolder l → d'.HasFolder l)
    (hcurrent : d'.current = d.current) {p : Path} (h : d.isFolder p = true) : d'.isFolder p = true := by
  obtain ⟨es, hes⟩ := isFolder_iff.mp h
  have hfolder := hkeeps _ (hasFolder_place h)
  obtain ⟨l, hl, -⟩ := Option.bind_eq_some_iff.mp hes
  obtain rfl := eq_place_of_locate? hl
  have hlocate : d'.locate? p = some (d.place p) := by
    rw [locate?, Option.ite_none_left_eq_some] at hl ⊢
    rw [absolute_congr hcurrent]
    exact ⟨hl.1, follow_of_hasFolder hkeeps hl.2 (hasFolder_place h)⟩
  obtain ⟨es', hes'⟩ := hfolder
  exact isFolder_iff.mpr ⟨es', by rw [ entry?, hlocate]; exact hes'⟩

/-! ## entries under a name -/

/-- One name has what was put under it, and the others have what they had. -/
theorem lookup_setEntry (es : List (Name × Entry)) (n m : Name) (e : Entry) :
    (setEntry es n e).lookup m = if m = n then some e else es.lookup m := by
  unfold setEntry
  split
  · next hany =>
      obtain ⟨p, hp, hpn⟩ := List.any_eq_true.mp hany
      have hsome : (es.lookup n).isSome = true := by
        rw [List.lookup_isSome_iff]
        exact ⟨p, hp, by simp [eq_of_beq hpn]⟩
      obtain ⟨old, hold⟩ := Option.isSome_iff_exists.mp hsome
      rw [lookup_map_replace, hold]
      rfl
  · next hnone =>
      rw [List.lookup_append, List.lookup_cons, List.lookup_nil]
      by_cases hm : m = n
      · simp [hm, lookup_eq_none_of_not_any hnone]
      · have hb : (m == n) = false := by simpa using hm
        simp [hb, hm]

/-! ## directories after a change -/

/-- The way from a directory begins with one of its entries. -/
theorem find?_cons (es : List (Name × Entry)) (n : Name) (rest : Location) :
    find? es (n :: rest) = (es.lookup n).bind fun e =>
      if rest = [] then some e else if e.isFolder then find? e.entries rest else none := by
  rw [find?]
  cases es.lookup n with
  | none => rfl
  | some e => cases rest <;> rfl

/-- What was put somewhere is there. -/
theorem find?_put_append (es inner : List (Name × Entry)) (l more : Location) :
    find? (put es l (.folder inner)) (l ++ more) = find? inner more := by
  induction l generalizing es with
  | nil => rfl
  | cons n rest ih =>
      cases rest with
      | nil =>
          rw [put, List.cons_append, find?_cons, lookup_setEntry, if_pos rfl]
          cases more <;> rfl
      | cons n' rest =>
          rw [put, List.cons_append, find?_cons, lookup_setEntry, if_pos rfl]
          · exact ih _
          · simp

/-- On the way to it are directories. -/
theorem exists_find?_put {es : List (Name × Entry)} {l p : Location} (e : Entry) (hp : p <+: l)
    (hne : p ≠ l) : ∃ inner, find? (put es l e) p = some (.folder inner) := by
  fun_induction put es l e generalizing p with
  | case1 => exact absurd (List.prefix_nil.mp hp) hne
  | case2 es n =>
      cases p with
      | nil => exact ⟨_, rfl⟩
      | cons m p =>
          rw [List.cons_prefix_cons, List.prefix_nil] at hp
          exact absurd (by rw [hp.1, hp.2]) hne
  | case3 es n e rest hrest ih =>
      cases p with
      | nil => exact ⟨_, rfl⟩
      | cons m p =>
          rw [List.cons_prefix_cons] at hp
          obtain ⟨rfl, hp⟩ := hp
          rw [find?_cons, lookup_setEntry, if_pos rfl]
          cases p with
          | nil => exact ⟨_, rfl⟩
          | cons m' p =>
              obtain ⟨inner, hinner⟩ := ih hp (by simpa using hne)
              exact ⟨inner, by simpa [Entry.isFolder, Entry.entries] using hinner⟩

/-- Everywhere else is what was there. -/
theorem find?_put_of_apart {es : List (Name × Entry)} {l p : Location} (e : Entry) (hl : ¬l <+: p)
    (hp : ¬p <+: l) : find? (put es l e) p = find? es p := by
  fun_induction put es l e generalizing p with
  | case1 => exact absurd List.nil_prefix hl
  | case2 es n =>
      cases p with
      | nil => exact absurd List.nil_prefix hp
      | cons m p =>
          have hm : m ≠ n := by
            rintro rfl
            exact hl (by simp)
          rw [find?_cons, find?_cons, lookup_setEntry, if_neg hm]
  | case3 es n e rest hrest ih =>
      cases p with
      | nil => exact absurd List.nil_prefix hp
      | cons m p =>
          rw [find?_cons, find?_cons, lookup_setEntry]
          split
          · next hm =>
              subst hm
              have hpne : p ≠ [] := by
                rintro rfl
                exact hp (by simp)
              have hinner := ih (p := p) (by simpa using hl) (by simpa using hp)
              simp only [Option.bind_some, if_neg hpne, Entry.isFolder, if_true, Entry.entries, hinner]
              obtain ⟨m', p, rfl⟩ := List.exists_cons_of_ne_nil hpne
              cases hm : es.lookup m with
              | none => simp [find?]
              | some e' => cases e' <;> simp [find?, Entry.isFolder, Entry.entries]
          · rfl

/-- To take something away keeps the directories at all other places, and brings none. -/
theorem find?_erase_iff {es : List (Name × Entry)} {l p : Location} (h : ¬l <+: p) :
    (∃ inner, find? (erase es l) p = some (.folder inner)) ↔ ∃ inner, find? es p = some (.folder inner) := by
  fun_induction erase es l generalizing p with
  | case1 => exact absurd List.nil_prefix h
  | case2 es n =>
      cases p with
      | nil => simp [find?]
      | cons m p =>
          have hm : m ≠ n := by
            rintro rfl
            exact h (by simp)
          rw [find?_cons, find?_cons, lookup_filter_ne, if_neg hm]
  | case3 es n rest hrest inner hn ih =>
      cases p with
      | nil => simp [find?]
      | cons m p =>
          rw [find?_cons, find?_cons, lookup_setEntry]
          split
          · next hm =>
              subst hm
              rw [hn]
              cases p with
              | nil => simp
              | cons m' p =>
                  have hinner := ih (p := m' :: p) (by simpa using h)
                  simpa [Entry.isFolder, Entry.entries] using hinner
          · rfl
  | case4 => rfl

/-- What was taken away is gone, and so is what was below it. -/
theorem find?_erase_of_prefix {es : List (Name × Entry)} {l p : Location} (h : l <+: p) (hne : p ≠ []) :
    find? (erase es l) p = none := by
  obtain ⟨m, p, rfl⟩ := List.exists_cons_of_ne_nil hne
  fun_induction erase es l generalizing m p with
  | case1 => rfl
  | case2 es n =>
      obtain ⟨rfl, -⟩ := List.cons_prefix_cons.mp h
      rw [find?_cons, lookup_filter_ne, if_pos rfl]
      rfl
  | case3 es n rest hrest inner hn ih =>
      obtain ⟨rfl, hbelow⟩ := List.cons_prefix_cons.mp h
      have hp : p ≠ [] := by
        rintro rfl
        exact hrest (List.prefix_nil.mp hbelow)
      obtain ⟨m', p, rfl⟩ := List.exists_cons_of_ne_nil hp
      rw [find?_cons, lookup_setEntry, if_pos rfl]
      exact ih m' p hbelow hp
  | case4 es n rest hrest hn =>
      obtain ⟨rfl, hbelow⟩ := List.cons_prefix_cons.mp h
      have hp : p ≠ [] := by
        rintro rfl
        exact hrest (List.prefix_nil.mp hbelow)
      rw [find?_cons]
      cases hlookup : es.lookup n with
      | none => rfl
      | some e =>
          cases e with
          | file content => simp [hp, Entry.isFolder]
          | folder inner => exact absurd hlookup (hn inner)

end Disk

/-! ## tidy disks -/

/-- In an entry and in all that is below it, every name is a name and no directory has it twice. -/
inductive Entry.Tidy : Entry → Prop
  | file (content : List UInt8) : Tidy (.file content)
  | folder {es : List (Name × Entry)} (once : (es.map (·.1)).Nodup) (names : ∀ e ∈ es, Path.IsName e.1)
      (inner : ∀ e ∈ es, e.2.Tidy) : Tidy (.folder es)

/-- Every name on a disk is a name, and no directory has it twice. -/
def Disk.Tidy (d : Disk) : Prop := (Entry.folder d.root).Tidy

namespace Disk

variable {es : List (Name × Entry)}

/-- **On a tidy disk** the way to an entry has names on it only, and the entry is tidy. -/
theorem tidy_of_find? (h : (Entry.folder es).Tidy) {l : Location} {e : Entry} (he : find? es l = some e) :
    (∀ n ∈ l, Path.IsName n) ∧ e.Tidy := by
  induction l generalizing es with
  | nil =>
      obtain rfl : .folder es = e := by simpa [find?] using he
      exact ⟨by simp, h⟩
  | cons n rest ih =>
      rw [find?_cons, Option.bind_eq_some_iff] at he
      obtain ⟨e', hn, he⟩ := he
      cases h with
      | folder once names inner =>
          have hmem := mem_of_lookup hn
          have hname : Path.IsName n := names _ hmem
          have htidy : e'.Tidy := inner _ hmem
          split at he
          · next hrest =>
              subst hrest
              obtain rfl : e' = e := by simpa using he
              exact ⟨by simpa using hname, htidy⟩
          · cases e' with
            | file content => simp [Entry.isFolder] at he
            | folder es' =>
                obtain ⟨hnames, hrest⟩ := ih htidy he
                exact ⟨List.forall_mem_cons.mpr ⟨hname, hnames⟩, hrest⟩

theorem mem_setEntry {n : Name} {e : Entry} {p : Name × Entry} (h : p ∈ setEntry es n e) :
    p = (n, e) ∨ p ∈ es := by
  unfold setEntry at h
  split at h
  · obtain ⟨q, hq, rfl⟩ := List.mem_map.mp h
    split
    · exact .inl rfl
    · exact .inr hq
  · rcases List.mem_append.mp h with h | h
    · exact .inr h
    · exact .inl (List.mem_singleton.mp h)

/-- The names stay, or there is one more. -/
theorem map_setEntry (n : Name) (e : Entry) :
    (setEntry es n e).map (·.1) =
      if es.any (·.1 == n) then es.map (·.1) else es.map (·.1) ++ [n] := by
  unfold setEntry
  split
  · rw [List.map_map]
    refine List.map_congr_left fun p hp => ?_
    by_cases hpn : p.1 = n
    · simp [hpn]
    · simp [hpn]
  · simp

theorem tidy_setEntry (h : (Entry.folder es).Tidy) {n : Name} (hn : Path.IsName n) {e : Entry}
    (he : e.Tidy) : (Entry.folder (setEntry es n e)).Tidy := by
  cases h with
  | folder once names inner =>
      refine .folder ?_ ?_ ?_
      · rw [map_setEntry]
        split
        · exact once
        · next hnone =>
            refine List.nodup_append.mpr ⟨once, by simp, ?_⟩
            rintro a ha b hb rfl
            obtain ⟨p, hp, rfl⟩ := List.mem_map.mp ha
            exact hnone (List.any_eq_true.mpr ⟨p, hp, by simpa using hb⟩)
      · intro p hp
        rcases mem_setEntry hp with rfl | hp
        · exact hn
        · exact names p hp
      · intro p hp
        rcases mem_setEntry hp with rfl | hp
        · exact he
        · exact inner p hp

theorem tidy_nil : (Entry.folder []).Tidy := .folder (by simp) (by simp) (by simp)

/-- What is in an entry is tidy if the entry is. -/
theorem tidy_entries {e : Entry} (h : e.Tidy) : (Entry.folder e.entries).Tidy := by
  cases e with
  | file content => exact tidy_nil
  | folder es => exact h

/-- To put something tidy somewhere keeps a disk tidy. -/
theorem tidy_put (h : (Entry.folder es).Tidy) {l : Location} (hl : ∀ n ∈ l, Path.IsName n) {e : Entry}
    (he : e.Tidy) : (Entry.folder (put es l e)).Tidy := by
  fun_induction put es l e with
  | case1 => exact tidy_entries he
  | case2 es n => exact tidy_setEntry h (hl n (by simp)) he
  | case3 es n rest e hrest ih =>
      rw [List.forall_mem_cons] at hl
      refine tidy_setEntry h hl.1 (ih ?_ hl.2 he)
      cases hn : es.lookup n with
      | none => exact tidy_nil
      | some e' =>
          cases h with
          | folder once names inner => exact tidy_entries (inner _ (mem_of_lookup hn))

/-- So does to take something away. -/
theorem tidy_erase (h : (Entry.folder es).Tidy) (l : Location) : (Entry.folder (erase es l)).Tidy := by
  fun_induction erase es l with
  | case1 => exact tidy_nil
  | case2 es n =>
      cases h with
      | folder once names inner =>
          refine .folder (once.sublist (List.filter_sublist.map _)) ?_ ?_
          · exact fun p hp => names p ((List.filter_sublist).mem hp)
          · exact fun p hp => inner p ((List.filter_sublist).mem hp)
  | case3 es n rest hrest inner hn ih =>
      have hinner := tidy_of_find? h (l := [n]) (by rw [find?_cons, hn]; rfl)
      exact tidy_setEntry h (hinner.1 n (by simp)) (ih hinner.2)
  | case4 => exact h

/-- A change leaves the current directory what it is. -/
theorem current_edit {d d' : Disk} {e : Edit} (h : d.edit e = .ok d') : d'.current = d.current := by
  cases e with
  | write p content => exact (Except.ok.inj h) ▸ rfl
  | makeFolder p =>
      rw [Disk.edit] at h
      split at h <;> exact (Except.ok.inj h) ▸ rfl
  | remove p =>
      rw [Disk.edit] at h
      split at h
      · exact (Except.ok.inj h) ▸ rfl
      · simp at h
  | rename source target =>
      rw [Disk.edit] at h
      split at h
      · split at h
        · exact (Except.ok.inj h) ▸ rfl
        · simp at h
      · simp at h

/-- **Every change keeps a disk tidy.** -/
theorem Tidy.edit {d d' : Disk} (h : d.Tidy) {e : Edit} (he : d.edit e = .ok d') : d'.Tidy := by
  have hplace (p : Path) : ∀ n ∈ d.place p, Path.IsName n := fun n hn => isName_of_mem_spelled hn
  cases e with
  | write p content =>
      obtain rfl := Except.ok.inj he
      exact tidy_put h (hplace p) (.file content)
  | makeFolder p =>
      rw [Disk.edit] at he
      split at he
      · exact Except.ok.inj he ▸ h
      · obtain rfl := Except.ok.inj he
        exact tidy_put h (hplace p) tidy_nil
  | remove p =>
      rw [Disk.edit] at he
      split at he
      · obtain rfl := Except.ok.inj he
        exact tidy_erase h _
      · simp at he
  | rename source target =>
      rw [Disk.edit] at he
      split at he
      · split at he
        · next hsource _ =>
            obtain rfl := Except.ok.inj he
            exact tidy_put (tidy_erase h _) (hplace target) (tidy_of_find? h hsource).2
        · simp at he
      · simp at he

end Disk

end LintServer
