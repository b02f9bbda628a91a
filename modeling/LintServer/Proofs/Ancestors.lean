import LintServer.Root.Find

/-!
# The directories above a file

A path is spelled with slashes, and its parent is cut out of that spelling; whether it lies in a folder
is asked of its components.  The two belong together:

* `Path.Leads` — a path is what it starts with and the segments behind that;
* `Path.components_of_parent?` — the parent of a path has all components but the last;
* `Path.isWithin_of_mem_parentsUpTo` — so every directory above a file holds the directory of the file.

The root of a file is such a directory inside the workspace folder, or the workspace folder itself
(`rootBetween_findRoot`).
-/

namespace LintServer

/-! ## splitting lists -/

/-- A function that splits element by element does what `List.splitOn` does. -/
theorem eq_splitOn {α : Type} [BEq α] [LawfulBEq α] {sep : α} {f : List α → List (List α)}
    (hnil : f [] = [[]]) (hsep : ∀ xs, f (sep :: xs) = [] :: f xs)
    (hcons : ∀ x xs s ss, x ≠ sep → f xs = s :: ss → f (x :: xs) = (x :: s) :: ss) (xs : List α) :
    f xs = xs.splitOn sep := by
  induction xs with
  | nil => exact hnil
  | cons x xs ih =>
      rw [List.splitOn_cons_eq_if_modifyHead]
      split
      · next hx => rw [eq_of_beq hx, hsep, ih]
      · next hx =>
          cases hsplit : xs.splitOn sep with
          | nil => exact absurd hsplit (List.splitOn_ne_nil sep xs)
          | cons s ss =>
              rw [hsplit] at ih
              exact hcons x xs s ss (by simpa using hx) ih

/-- No piece of a list that is split has the separator in it. -/
theorem not_mem_of_mem_splitOn {α : Type} [BEq α] [LawfulBEq α] {sep : α} {xs piece : List α}
    (h : piece ∈ xs.splitOn sep) : sep ∉ piece := by
  induction xs generalizing piece with
  | nil =>
      rw [List.splitOn_nil, List.mem_singleton] at h
      simp [h]
  | cons x xs ih =>
      rw [List.splitOn_cons_eq_if_modifyHead] at h
      split at h
      · rcases List.mem_cons.mp h with rfl | h
        · simp
        · exact ih h
      · next hx =>
          cases hsplit : xs.splitOn sep with
          | nil => exact absurd hsplit (List.splitOn_ne_nil sep xs)
          | cons first rest =>
              rw [hsplit] at h ih
              rcases List.mem_cons.mp h with rfl | h
              · have hne : sep ≠ x := by
                  rintro rfl
                  simp at hx
                exact List.not_mem_cons_of_ne_of_not_mem hne (ih List.mem_cons_self)
              · exact ih (List.mem_cons_of_mem first h)

namespace Path

/-! ## segments -/

theorem segments_eq_splitOn (bs : List UInt8) : segments bs = bs.splitOn slash := by
  refine eq_splitOn rfl (fun bs => by simp [segments]) ?_ bs
  intro b bs s ss hb h
  simp [segments, hb, h]

theorem unsegment_eq_intercalate (ss : List Name) : unsegment ss = [slash].intercalate ss := by
  fun_induction unsegment ss with
  | case1 => rfl
  | case2 s => rw [List.intercalate_singleton]
  | case3 s ss hne ih =>
      rw [List.intercalate_cons_of_ne_nil (fun hnil => hne hnil), ih]
      simp

theorem not_mem_of_mem_segments {bs : List UInt8} {s : Name} (h : s ∈ segments bs) : slash ∉ s := by
  rw [segments_eq_splitOn] at h
  exact not_mem_of_mem_splitOn h

/-- The first segments of a path, put together and split again. -/
theorem segments_unsegment {bs : List UInt8} {kept more : List Name} (h : segments bs = kept ++ more)
    (hne : kept ≠ []) : segments (unsegment kept) = kept := by
  have hfree : ∀ s ∈ kept, slash ∉ s := fun s hs =>
    not_mem_of_mem_segments (h ▸ List.mem_append_left more hs)
  rw [segments_eq_splitOn, unsegment_eq_intercalate, List.splitOn_intercalate slash hfree hne]

/-- The first segment begins with the first byte, unless that is a slash. -/
theorem head?_segments_cons {b : UInt8} (hb : b ≠ slash) (bs : List UInt8) :
    (segments (b :: bs)).head? = (segments bs).head?.map (b :: ·) := by
  simp only [segments_eq_splitOn, List.splitOn_cons_eq_if_modifyHead]
  rw [if_neg (by simpa using hb), List.head?_modifyHead]

theorem head?_segments_slash (bs : List UInt8) : (segments (slash :: bs)).head? = some [] := by
  simp [segments]

/-- The components of what stands behind the start of a path. -/
def steps (bs : List UInt8) : List Component := (segments bs).filterMap Component.ofSegment?

/-! ## the start of a path -/

/-- **The ways in which a path starts**: with a slash, with a dot, or with neither.  `start` is what it
starts with, `rest` is behind that, and `first` are the components of the start. -/
inductive Leads : (p : Path) → (start rest : List UInt8) → (first : List Component) → Prop
  | absolute (rest : List UInt8) : Leads ⟨slash :: rest⟩ [slash] rest [.root]
  | here {rest : List UInt8} (h : (segments rest).head? = some []) :
      Leads ⟨here ++ rest⟩ here rest [.here]
  | plain {rest : List UInt8} (hslash : rest = [] ∨ (segments rest).head? ≠ some [])
      (hhere : (segments rest).head? ≠ some Path.here) : Leads ⟨rest⟩ [] rest []

/-- A path starts in one of these ways. -/
theorem exists_leads (p : Path) : ∃ start rest first, p.Leads start rest first := by
  obtain ⟨bytes⟩ := p
  cases bytes with
  | nil => exact ⟨[], [], [], .plain (.inl rfl) (by decide)⟩
  | cons b rest =>
      by_cases hslash : b = slash
      · subst hslash
        exact ⟨_, _, _, .absolute rest⟩
      · have hhead := head?_segments_cons hslash rest
        by_cases hhere : (segments (b :: rest)).head? = some Path.here
        · rw [hhead, Option.map_eq_some_iff] at hhere
          obtain ⟨s, hs, hbs⟩ := hhere
          obtain ⟨rfl, rfl⟩ := List.cons.inj hbs
          exact ⟨_, _, _, .here hs⟩
        · refine ⟨_, _, _, .plain (.inr ?_) hhere⟩
          rw [hhead]
          simp

theorem isAbsolute_here (rest : List UInt8) : isAbsolute ⟨here ++ rest⟩ = false := by
  simp [isAbsolute, here, slash]

theorem isAbsolute_plain {rest : List UInt8} (h : rest = [] ∨ (segments rest).head? ≠ some []) :
    isAbsolute ⟨rest⟩ = false := by
  cases rest with
  | nil => rfl
  | cons b rest =>
      have hb : b ≠ slash := by
        rintro rfl
        exact h.elim (by simp) (· (head?_segments_slash rest))
      simp [isAbsolute, hb]

namespace Leads

variable {p : Path} {start rest : List UInt8} {first : List Component}

theorem lead_eq (h : p.Leads start rest first) : p.lead = (start, rest) := by
  cases h with
  | absolute => simp [lead, isAbsolute]
  | here hrest =>
      have hhead : (segments (Path.here ++ rest)).head? = some Path.here := by
        rw [Path.here, List.singleton_append, head?_segments_cons (by decide), hrest]
        rfl
      rw [lead, isAbsolute_here, if_neg Bool.false_ne_true, if_pos hhead]
      rfl
  | plain hslash hhere => simp [lead, isAbsolute_plain hslash, hhere]

/-- **The components of a path** are those of its start and those behind it. -/
theorem components_eq (h : p.Leads start rest first) : p.components = first ++ steps rest := by
  have hlead := h.lead_eq
  cases h with
  | absolute =>
      rw [components, hlead]
      simp [isAbsolute, steps]
  | here hrest =>
      rw [components, hlead]
      simp [isAbsolute_here, steps]
  | plain hslash hhere =>
      rw [components, hlead]
      simp [isAbsolute_plain hslash, Path.here, steps]

/-- What is behind the start may be cut off before any segment. -/
theorem shorten (h : p.Leads start rest first) {kept more : List Name}
    (hkept : segments rest = kept ++ more) (hmore : more ≠ []) :
    Leads ⟨start ++ unsegment kept⟩ start (unsegment kept) first := by
  by_cases hne : kept = []
  · subst hne
    cases h with
    | absolute => exact .absolute []
    | here _ => exact .here rfl
    | plain _ _ => exact .plain (.inl rfl) (by decide)
  · -- the first segment stays, and with it the way in which the path starts
    have hhead : (segments (unsegment kept)).head? = (segments rest).head? := by
      rw [segments_unsegment hkept hne, hkept]
      obtain ⟨s, kept, rfl⟩ := List.exists_cons_of_ne_nil hne
      rfl
    cases h with
    | absolute => exact .absolute _
    | here hempty => exact .here (hhead.trans hempty)
    | plain hslash hhere =>
        have hrest : rest ≠ [] := by
          rintro rfl
          have hlen := congrArg List.length hkept
          rw [List.length_append] at hlen
          have hpos := List.length_pos_iff.mpr hne
          have hpos' := List.length_pos_iff.mpr hmore
          simp only [segments, List.length_singleton] at hlen
          omega
        rw [← hhead] at hslash hhere
        exact .plain (.inr (hslash.resolve_left hrest)) hhere

end Leads

/-! ## parents -/

theorem ofSegment?_of_idle {s : Name} (h : isIdle s = true) : Component.ofSegment? s = none := by
  simp [Component.ofSegment?, h]

theorem exists_ofSegment? {s : Name} (h : isIdle s = false) : ∃ c, Component.ofSegment? s = some c := by
  unfold Component.ofSegment?
  rw [if_neg (by simp [h])]
  split
  · exact ⟨_, rfl⟩
  · exact ⟨_, rfl⟩

theorem filterMap_idle {ss : List Name} (h : ∀ s ∈ ss, isIdle s = true) :
    ss.filterMap Component.ofSegment? = [] :=
  List.filterMap_eq_nil_iff.mpr fun s hs => ofSegment?_of_idle (h s hs)

/-- The end of a list of segments that makes no components. -/
theorem exists_idle_end (ss : List Name) :
    ∃ idle, ss = (ss.reverse.dropWhile isIdle).reverse ++ idle ∧ ∀ s ∈ idle, isIdle s = true := by
  refine ⟨(ss.reverse.takeWhile isIdle).reverse, ?_, ?_⟩
  · rw [← List.reverse_append, List.takeWhile_append_dropWhile, List.reverse_reverse]
  · intro s hs
    exact List.all_eq_true.mp List.all_takeWhile s (List.mem_reverse.mp hs)

/-- The components of the first segments of a path, put together. -/
theorem steps_unsegment {bs : List UInt8} {kept more : List Name} (h : segments bs = kept ++ more) :
    steps (unsegment kept) = kept.filterMap Component.ofSegment? := by
  by_cases hne : kept = []
  · subst hne
    rfl
  · rw [steps, segments_unsegment h hne]

/-- **The parent of a path** has all its components but the last. -/
theorem components_of_parent? {p q : Path} (h : p.parent? = some q) :
    ∃ c, p.components = q.components ++ [c] := by
  obtain ⟨start, rest, first, hl⟩ := p.exists_leads
  obtain ⟨idle, hsegments, hidle⟩ := exists_idle_end (segments rest)
  rw [parent?, hl.lead_eq] at h
  cases hdrop : (segments rest).reverse.dropWhile isIdle with
  | nil =>
      -- nothing but the dot at the start
      simp only [hdrop, Option.ite_none_right_eq_some, Option.some.injEq] at h hsegments
      obtain ⟨rfl, rfl⟩ := h
      have hsteps : steps rest = [] := by
        rw [steps, hsegments]
        exact filterMap_idle hidle
      cases hl with
      | here hrest => exact ⟨.here, by rw [(Leads.here hrest).components_eq, hsteps]; rfl⟩
  | cons s above =>
      simp only [hdrop, Option.some.injEq] at h hsegments
      subst h
      obtain ⟨between, habove, hbetween⟩ := exists_idle_end above.reverse
      rw [List.reverse_reverse] at habove
      generalize (above.dropWhile isIdle).reverse = kept at habove ⊢
      rw [List.reverse_cons, habove, List.append_assoc, List.append_assoc] at hsegments
      have hs : isIdle s = false := by
        have hhead := List.head?_dropWhile_not isIdle (segments rest).reverse
        simpa [hdrop] using hhead
      obtain ⟨c, hc⟩ := exists_ofSegment? hs
      have hsteps : steps rest = steps (unsegment kept) ++ [c] := by
        rw [steps_unsegment hsegments, steps, hsegments]
        simp [filterMap_idle hidle, filterMap_idle hbetween, hc]
      have hshort := hl.shorten hsegments (by simp)
      rw [hl.components_eq, hshort.components_eq, hsteps]
      exact ⟨c, (List.append_assoc ..).symm⟩

/-- A path without a parent is empty, or the root. -/
theorem components_of_parent?_eq_none {p : Path} (h : p.parent? = none) :
    p.components = [] ∨ p.components = [.root] := by
  obtain ⟨start, rest, first, hl⟩ := p.exists_leads
  obtain ⟨idle, hsegments, hidle⟩ := exists_idle_end (segments rest)
  rw [parent?, hl.lead_eq] at h
  cases hdrop : (segments rest).reverse.dropWhile isIdle with
  | cons s above => simp [hdrop] at h
  | nil =>
      simp only [hdrop, List.reverse_nil, List.nil_append] at h hsegments
      have hsteps : steps rest = [] := by
        rw [steps, hsegments]
        exact filterMap_idle hidle
      rw [hl.components_eq, hsteps, List.append_nil]
      cases hl with
      | absolute => exact .inr rfl
      | here hrest => simp at h
      | plain hslash hhere => exact .inl rfl

/-! ## being inside a folder -/

theorem isWithin_iff {p folder : Path} :
    p.isWithin folder = true ↔ folder.components <+: p.components := List.isPrefixOf_iff_prefix

theorem isWithin_self (p : Path) : p.isWithin p = true := isWithin_iff.mpr (List.prefix_refl _)

/-- **The directories above a file** hold the one that it is in. -/
theorem isWithin_of_mem_parentsUpTo {fuel : Nat} {file q : Path} (h : q ∈ parentsUpTo fuel file) :
    ∃ dir, file.parent? = some dir ∧ dir.isWithin q = true := by
  induction fuel generalizing file with
  | zero => simp [parentsUpTo] at h
  | succ fuel ih =>
      rw [parentsUpTo] at h
      cases hdir : file.parent? with
      | none => simp [hdir] at h
      | some dir =>
          simp only [hdir, List.mem_cons] at h
          refine ⟨dir, rfl, ?_⟩
          rcases h with rfl | h
          · exact q.isWithin_self
          · obtain ⟨above, habove, hq⟩ := ih h
            obtain ⟨c, hc⟩ := components_of_parent? habove
            rw [isWithin_iff] at hq ⊢
            rw [hc]
            exact hq.trans (List.prefix_append _ _)

/-- The way up from a file begins with the directory that it is in. -/
theorem head?_parents (file : Path) : file.parents.head? = file.parent? := by
  rw [parents]
  cases hdir : file.parent? with
  | none => cases file.components.length <;> simp [parentsUpTo, hdir]
  | some dir =>
      obtain ⟨c, hc⟩ := components_of_parent? hdir
      rw [hc, List.length_append, List.length_singleton, parentsUpTo, hdir]
      rfl

end Path

/-! ## roots -/

/-- The root that is chosen is one of the directories, or the fallback. -/
theorem chooseRoot_mem (mark? : Path → Option Marker) (fallback : Path) (dirs : List Path) :
    chooseRoot mark? fallback dirs ∈ fallback :: dirs := by
  induction dirs generalizing fallback with
  | nil => exact List.mem_singleton.mpr rfl
  | cons dir above ih =>
      rw [chooseRoot]
      cases mark? dir with
      | none => exact List.cons_subset_cons fallback (List.subset_cons_self dir above) (ih fallback)
      | some m =>
          dsimp only
          split
          · exact List.mem_cons_of_mem _ List.mem_cons_self
          · exact List.mem_cons_of_mem _ (ih dir)

/-- **Where a root lies**: in the workspace folder, and around the directory of the file if that lies
in the workspace folder too.  Where nothing is searched, the workspace folder is the root. -/
structure RootBetween (folder : Path) (file : Option Path) (root : Path) : Prop where
  inside : root.isWithin folder = true
  around : ∀ f dir, file = some f → f.parent? = some dir → dir.isWithin folder = true →
    dir.isWithin root = true
  eq_folder : (∀ f dir, file = some f → f.parent? = some dir →
    f.isNetworkShare = true ∨ f.isInPackages = true ∨ dir.isWithin folder = false) → root = folder

/-- The workspace folder itself lies there. -/
theorem RootBetween.folder (folder : Path) (file : Option Path) : RootBetween folder file folder :=
  ⟨folder.isWithin_self, fun _ _ _ _ h => h, fun _ => rfl⟩

/-- **The root of a file** lies between the workspace folder and the file. -/
theorem rootBetween_findRoot (d : Disk) (folder : Path) (file : Option Path) (markers : List Marker) :
    RootBetween folder file (findRoot d folder file markers) := by
  unfold findRoot
  cases file with
  | none => exact .folder folder none
  | some file =>
      dsimp only
      split
      · exact .folder folder file
      · next hsearch =>
          have hmem := chooseRoot_mem (markerIn? d markers) folder (candidateDirs folder file)
          rcases List.mem_cons.mp hmem with hroot | hroot
          · rw [hroot]
            exact .folder folder file
          · generalize chooseRoot (markerIn? d markers) folder (candidateDirs folder file) = root at hroot
            have hin : root.isWithin folder = true :=
              List.all_eq_true.mp List.all_takeWhile root hroot
            obtain ⟨dir, hdir, hheld⟩ :=
              Path.isWithin_of_mem_parentsUpTo ((List.takeWhile_sublist _).mem hroot)
            refine ⟨hin, ?_, ?_⟩
            · rintro f dir' hf hdir' -
              obtain rfl := Option.some.inj hf
              rw [hdir, Option.some.injEq] at hdir'
              exact hdir' ▸ hheld
            · intro hunsearched
              -- the walk ends before it begins, so the root is not on it
              have hout : dir.isWithin folder = false := by
                rw [Bool.or_eq_true, not_or] at hsearch
                have hcases := hunsearched file dir rfl hdir
                exact (hcases.resolve_left hsearch.1).resolve_left hsearch.2
              have hhead := file.head?_parents
              rw [hdir] at hhead
              obtain ⟨above, habove⟩ := List.head?_eq_some_iff.mp hhead
              simp [candidateDirs, habove, hout] at hroot

end LintServer
