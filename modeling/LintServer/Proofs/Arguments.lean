import LintServer.CommandLine
import LintServer.Proofs.Lookup

/-!
# Arguments as options

Arguments are read one by one, and an option is taken only when the next one is reached.  Here a list
of arguments is seen as what it is made of, a list of options (`Choice`), each with its spelling:

* `Choice.words` — the arguments that an option is spelled with;
* `read_words_append_iff` — to read them is to take the option, if it can be taken;
* `exists_spells_of_read` — arguments that are accepted are the spelling of some options;
* `read_eq_ok_iff` — and they are accepted under a condition that has nothing to do with the order of the
  options (`Given.Admits`).
-/

namespace LintServer.CommandLine

/-! ## options and their spelling -/

/-- The name of an option with a value. -/
def ValueOption.name : ValueOption → String
  | .maxProblems => "max-problems"
  | .rootMarker => "root-marker"
  | .weakRootMarker => "weak-root-marker"
  | .baseRules => "base-rules"
  | .logLevel => "log-level"

/-- An option as it is given. -/
inductive Choice where
  /-- An option with its value as the next argument. -/
  | spaced (o : ValueOption) (value : String)
  /-- An option with its value behind an equals sign. -/
  | joined (o : ValueOption) (value : String)
  | stdio
deriving Repr, DecidableEq

/-- The arguments that an option is spelled with. -/
def Choice.words : Choice → List String
  | .spaced o value => ["--" ++ o.name, value]
  | .joined o value => ["--" ++ o.name ++ "=" ++ value]
  | .stdio => ["--stdio"]

/-- Arguments spell some options, in order.  Two dashes may stand behind the last one. -/
def Spells (cs : List Choice) (args : List String) : Prop :=
  ∃ tail, (tail = [] ∨ tail = ["--"]) ∧ args = cs.flatMap Choice.words ++ tail

/-! ## shapes of arguments -/

theorem Shape.of_name (o : ValueOption) : Shape.of ("--" ++ o.name) = .long o.name none := by
  cases o <;> decide

theorem Shape.of_name_value (o : ValueOption) (value : String) :
    Shape.of ("--" ++ o.name ++ "=" ++ value) = .long o.name (some value) := by
  cases o <;> simp [Shape.of, ValueOption.name]

theorem Shape.eq_of_divider {arg : String} (h : Shape.of arg = .divider) : arg = "--" := by
  unfold Shape.of at h
  split at h
  · next harg => exact String.toList_injective (harg.trans (by decide))
  · dsimp only at h
    split at h <;> contradiction
  · contradiction
  · contradiction

/-- An argument with two dashes and a name is spelled in one of two ways. -/
theorem Shape.eq_of_long {arg name : String} {value : Option String}
    (h : Shape.of arg = .long name value) :
    arg = "--" ++ name ++ (value.map ("=" ++ ·)).getD "" := by
  unfold Shape.of at h
  split at h
  · contradiction
  · next cs _ harg =>
      have hsplit := List.takeWhile_append_dropWhile (p := (· != '=')) (l := cs)
      apply String.toList_injective
      dsimp only at h
      split at h
      · next c rest hdrop =>
          have hc : c = '=' := by
            have hhead := List.head?_dropWhile_not (· != '=') cs
            simpa [hdrop] using hhead
          obtain ⟨rfl, rfl⟩ := Shape.long.inj h
          rw [hdrop, hc] at hsplit
          simp [harg, hsplit]
      · next hdrop =>
          obtain ⟨rfl, rfl⟩ := Shape.long.inj h
          rw [hdrop, List.append_nil] at hsplit
          simp [harg, hsplit]
  · contradiction
  · contradiction

theorem lookup_name (o : ValueOption) : valueOptions.lookup o.name = some o := by
  cases o <;> decide

theorem eq_name_of_lookup {name : String} {o : ValueOption} (h : valueOptions.lookup name = some o) :
    name = o.name := by
  have hnames : ∀ entry ∈ valueOptions, entry.1 = entry.2.name := by decide
  exact hnames (name, o) (mem_of_lookup h)

/-! ## reading an option -/

/-- Takes an option. -/
def Given.choose (g : Given) : Choice → Except Error Given
  | .spaced o value | .joined o value => g.take o value
  | .stdio => g.raise .stdio

/-- Whether the value of an option can be told from the next option. -/
def Choice.isApart : Choice → Bool
  | .spaced _ value => Shape.of value == .plain
  | _ => true

variable {g r : Given}

/-- What cannot be taken is an error, whatever follows.  Only a plain argument may still be the value
that is missing. -/
theorem read_ne_ok_of_settle {p : Pending} {e : Error} {args : List String} (h : g.settle p = .error e)
    (hargs : ∀ o arg rest, p = some (o, none) → args = arg :: rest → Shape.of arg ≠ .plain) :
    read g p args ≠ .ok r := by
  cases args with
  | nil => simp [read, h]
  | cons arg rest =>
      rw [read.eq_def]
      dsimp only
      cases hshape : Shape.of arg with
      | divider => cases rest <;> simp [h]
      | long name v =>
          simp only [h, Except.bind]
          split
          · simp
          · split <;> simp
          · simp
      | short c =>
          simp only [h, Except.bind]
          split <;> simp
      | plain =>
          dsimp only
          split
          · exact absurd hshape (hargs _ arg rest rfl rfl)
          · simp

/-- An option whose value was read is taken before anything else. -/
theorem read_settled_iff {o : ValueOption} {value : String} {rest : List String} :
    read g (some (o, some value)) rest = .ok r ↔
      ∃ g', g.take o value = .ok g' ∧ read g' none rest = .ok r := by
  cases htake : g.take o value with
  | error e =>
      have hne : read g (some (o, some value)) rest ≠ .ok r :=
        read_ne_ok_of_settle htake (by simp)
      simp [hne]
  | ok g' =>
      have hsame : read g (some (o, some value)) rest = read g' none rest := by
        cases rest with
        | nil => simp [read, Given.settle, htake]
        | cons arg rest =>
            rw [read.eq_def, read.eq_def g']
            simp [Given.settle, htake]
      simp [hsame]

/-- An option without its value takes the next argument for it, which has to be plain. -/
theorem read_awaiting_iff {o : ValueOption} {arg : String} {rest : List String} :
    read g (some (o, none)) (arg :: rest) = .ok r ↔
      Shape.of arg = .plain ∧ read g (some (o, some arg)) rest = .ok r := by
  by_cases hplain : Shape.of arg = .plain
  · rw [read]
    simp [hplain]
  · have hne : read g (some (o, none)) (arg :: rest) ≠ .ok r := by
      refine read_ne_ok_of_settle rfl ?_
      rintro _ _ _ - ⟨⟩
      exact hplain
    simp [hne, hplain]

/-- **To read the arguments of an option** is to take the option. -/
theorem read_words_append_iff {c : Choice} {rest : List String} :
    read g none (c.words ++ rest) = .ok r ↔
      c.isApart = true ∧ ∃ g', g.choose c = .ok g' ∧ read g' none rest = .ok r := by
  cases c with
  | spaced o value =>
      have hread : read g none ((Choice.spaced o value).words ++ rest) =
          read g (some (o, none)) (value :: rest) := by
        rw [Choice.words, List.cons_append, read.eq_def]
        simp [Shape.of_name, lookup_name, Given.settle]
      rw [hread, read_awaiting_iff, read_settled_iff]
      simp [Choice.isApart, Given.choose]
  | joined o value =>
      rw [Choice.words, List.singleton_append, read.eq_def]
      simp only [Shape.of_name_value, lookup_name, Given.settle, Choice.isApart, Given.choose]
      cases g.take o value <;> simp
  | stdio =>
      have hshape : Shape.of "--stdio" = .long "stdio" none := by decide
      have hname : valueOptions.lookup "stdio" = none := by decide
      have hflag : flags.lookup "stdio" = some .stdio := by decide
      rw [Choice.words, List.singleton_append, read.eq_def]
      simp only [hshape, hname, hflag, Given.settle, Choice.isApart, Given.choose, Except.bind]
      cases g.raise .stdio <;> simp

/-! ## all arguments -/

/-- Two dashes behind the last option make no difference. -/
theorem read_tail {tail : List String} (h : tail = [] ∨ tail = ["--"]) : read g none tail = .ok g := by
  rcases h with rfl | rfl
  · rfl
  · have hshape : Shape.of "--" = .divider := by decide
    rw [read.eq_def]
    simp [hshape, Given.settle]

/-- The arguments that were read already of an option that is not taken yet. -/
def Pending.words : Pending → List String
  | none => []
  | some (o, none) => ["--" ++ o.name]
  | some (o, some value) => ["--" ++ o.name, value]

/-- What can be taken is an option with all its arguments, or nothing. -/
theorem exists_words_of_settle {p : Pending} {g' : Given} (h : g.settle p = .ok g') :
    ∃ cs : List Choice, Pending.words p = cs.flatMap Choice.words := by
  match p, h with
  | none, _ => exact ⟨[], rfl⟩
  | some (o, some value), _ => exact ⟨[.spaced o value], by simp [Pending.words, Choice.words]⟩

/-- Arguments that spell some options, behind those of an option that can be taken. -/
theorem Spells.settled {p : Pending} {g' : Given} {args : List String} (h : g.settle p = .ok g')
    (hargs : ∃ cs, Spells cs args) : ∃ cs, Spells cs (Pending.words p ++ args) := by
  obtain ⟨before, hbefore⟩ := exists_words_of_settle h
  obtain ⟨cs, tail, htail, rfl⟩ := hargs
  exact ⟨before ++ cs, tail, htail, by simp [hbefore]⟩

/-- Arguments that spell some options, behind those of one more option. -/
theorem Spells.cons {cs : List Choice} {args : List String} (c : Choice) (h : Spells cs args) :
    Spells (c :: cs) (c.words ++ args) := by
  obtain ⟨tail, htail, rfl⟩ := h
  exact ⟨tail, htail, by simp⟩

/-- A flag is raised when the option before it is taken, and it is the one for the standard streams. -/
theorem exists_settle_of_raise {p : Pending} {f : Flag} {g₂ : Given}
    (h : (g.settle p).bind (·.raise f) = .ok g₂) :
    f = .stdio ∧ ∃ g₁, g.settle p = .ok g₁ ∧ g₁.choose .stdio = .ok g₂ := by
  cases hsettle : g.settle p with
  | error e => simp [hsettle, Except.bind] at h
  | ok g₁ =>
      simp only [hsettle, Except.bind] at h
      cases f with
      | stdio => exact ⟨rfl, g₁, rfl, h⟩
      | help => contradiction
      | version => contradiction

/-- **What becomes of an argument** that is accepted: it is the end, or it begins an option with a value,
or it is an option, or it is the value of the option before it. -/
theorem read_cons_cases {p : Pending} {arg : String} {rest : List String}
    (h : read g p (arg :: rest) = .ok r) :
    (arg = "--" ∧ rest = [] ∧ g.settle p = .ok r) ∨
      (∃ o g₁, arg = "--" ++ o.name ∧ g.settle p = .ok g₁ ∧ read g₁ (some (o, none)) rest = .ok r) ∨
      (∃ c g₁ g₂, [arg] = Choice.words c ∧ g.settle p = .ok g₁ ∧ g₁.choose c = .ok g₂ ∧
        read g₂ none rest = .ok r) ∨
      ∃ o, p = some (o, none) ∧ read g (some (o, some arg)) rest = .ok r := by
  rw [read.eq_def] at h
  dsimp only at h
  cases hshape : Shape.of arg with
  | divider =>
      simp only [hshape, List.isEmpty_iff] at h
      split at h
      · next hrest => exact .inl ⟨Shape.eq_of_divider hshape, hrest, h⟩
      · contradiction
  | long name value =>
      have harg := Shape.eq_of_long hshape
      simp only [hshape] at h
      split at h
      · next o ho =>
          obtain rfl := eq_name_of_lookup ho
          split at h
          · contradiction
          · next g₁ hsettle =>
              exact .inr (.inl ⟨o, g₁, by simpa using harg, hsettle, h⟩)
          · next g₁ v hsettle =>
              split at h
              · next g₂ htake =>
                  have hwords : [arg] = (Choice.joined o v).words := by
                    simp [harg, Choice.words, String.append_assoc]
                  exact .inr (.inr (.inl ⟨.joined o v, g₁, g₂, hwords, hsettle, htake, h⟩))
              · contradiction
      · next f _ hf =>
          split at h
          · contradiction
          · next hvalue =>
              split at h
              · next g₂ hraise =>
                  obtain ⟨rfl, g₁, hsettle, hchoose⟩ := exists_settle_of_raise hraise
                  have hnames : ∀ entry ∈ flags, entry.2 = .stdio → entry.1 = "stdio" := by decide
                  have hname : name = "stdio" := hnames _ (mem_of_lookup hf) rfl
                  have hwords : [arg] = Choice.stdio.words := by
                    simp [harg, hname, Option.not_isSome_iff_eq_none.mp hvalue, Choice.words]
                  exact .inr (.inr (.inl ⟨.stdio, g₁, g₂, hwords, hsettle, hchoose, h⟩))
              · contradiction
      · contradiction
  | short c =>
      simp only [hshape] at h
      split at h
      · next f hf =>
          split at h
          · next g₂ hraise =>
              -- the letters ask for help or the version
              obtain ⟨rfl, -⟩ := exists_settle_of_raise hraise
              have hletters : ∀ entry ∈ letters, entry.2 ≠ .stdio := by decide
              exact absurd rfl (hletters _ (mem_of_lookup hf))
          · contradiction
      · contradiction
  | plain =>
      simp only [hshape] at h
      split at h
      · next o => exact .inr (.inr (.inr ⟨o, rfl, h⟩))
      · contradiction

/-- **Arguments that are accepted** are the spelling of some options. -/
theorem exists_spells_of_read {p : Pending} {args : List String} (h : read g p args = .ok r) :
    ∃ cs, Spells cs (Pending.words p ++ args) := by
  induction args generalizing g p with
  | nil => exact Spells.settled h ⟨[], [], .inl rfl, rfl⟩
  | cons arg rest ih =>
      rcases read_cons_cases h with ⟨rfl, rfl, hsettle⟩ | ⟨o, g₁, rfl, hsettle, hrest⟩ |
        ⟨c, g₁, g₂, harg, hsettle, -, hrest⟩ | ⟨o, rfl, hrest⟩
      · exact Spells.settled hsettle ⟨[], ["--"], .inr rfl, rfl⟩
      · exact Spells.settled hsettle (ih hrest)
      · obtain ⟨cs, hcs⟩ := ih hrest
        rw [← List.singleton_append, harg]
        exact Spells.settled hsettle ⟨c :: cs, hcs.cons c⟩
      · exact ih hrest

/-! ## options in any order -/

/-- What may be given once. -/
inductive Once where
  | maxProblems | baseRules | logLevel | stdio
deriving Repr, DecidableEq

/-- Which of the things that may be given once an option gives. -/
def Choice.once? : Choice → Option Once
  | .spaced o _ | .joined o _ =>
    match o with
    | .maxProblems => some .maxProblems
    | .baseRules => some .baseRules
    | .logLevel => some .logLevel
    | .rootMarker | .weakRootMarker => none
  | .stdio => some .stdio

/-- Whether something was given. -/
def Given.has (g : Given) : Once → Bool
  | .maxProblems => g.maxProblems.isSome
  | .baseRules => g.baseRules.isSome
  | .logLevel => g.logLevel.isSome
  | .stdio => g.stdio

/-- Whether a value is one that an option can have. -/
def ValueOption.allows (o : ValueOption) (value : String) : Bool :=
  match o with
  | .maxProblems => (natOfText? value).isSome
  | .baseRules => !value.isEmpty
  | .rootMarker | .weakRootMarker | .logLevel => true

/-- Whether an option can be taken, unless it was given before. -/
def Choice.isSound : Choice → Bool
  | .spaced o value => Shape.of value == .plain && o.allows value
  | .joined o value => o.allows value
  | .stdio => true

/-- The values that were given, with one more. -/
def Given.put (g : Given) : Choice → Given
  | .spaced o value | .joined o value =>
    match o with
    | .maxProblems => { g with maxProblems := some ((natOfText? value).getD 0) }
    | .rootMarker => { g with rootMarkers := g.rootMarkers ++ [value] }
    | .weakRootMarker => { g with weakRootMarkers := g.weakRootMarkers ++ [value] }
    | .baseRules => { g with baseRules := some (Path.ofString value) }
    | .logLevel => { g with logLevel := some value }
  | .stdio => { g with stdio := true }

theorem take_eq_ok_iff {o : ValueOption} {value : String} {g' : Given} :
    g.take o value = .ok g' ↔ o.allows value = true ∧
      (∀ k, (Choice.joined o value).once? = some k → g.has k = false) ∧ g.put (.joined o value) = g' := by
  cases o with
  | maxProblems =>
      simp only [Given.take, ValueOption.allows, Choice.once?, Given.put, Option.some.injEq, forall_eq',
        Given.has]
      cases g.maxProblems <;> cases natOfText? value <;> simp
  | rootMarker => simp [Given.take, ValueOption.allows, Choice.once?, Given.put]
  | weakRootMarker => simp [Given.take, ValueOption.allows, Choice.once?, Given.put]
  | baseRules =>
      simp only [Given.take, ValueOption.allows, Choice.once?, Given.put, Option.some.injEq, forall_eq',
        Given.has]
      cases g.baseRules <;> cases value.isEmpty <;> simp
  | logLevel =>
      simp only [Given.take, ValueOption.allows, Choice.once?, Given.put, Option.some.injEq, forall_eq',
        Given.has]
      cases g.logLevel <;> simp

/-- **An option can be taken** if its value is sound and it was not given before. -/
theorem choose_eq_ok_iff {c : Choice} {g' : Given} :
    c.isApart = true ∧ g.choose c = .ok g' ↔
      c.isSound = true ∧ (∀ k, c.once? = some k → g.has k = false) ∧ g.put c = g' := by
  cases c with
  | spaced o value =>
      simp only [Given.choose, take_eq_ok_iff, Choice.isApart, Choice.isSound, Bool.and_eq_true, and_assoc]
      rfl
  | joined o value => simp [Given.choose, take_eq_ok_iff, Choice.isApart, Choice.isSound]
  | stdio =>
      simp only [Given.choose, Given.raise, Choice.isApart, Choice.isSound, Choice.once?, Given.put,
        Option.some.injEq, forall_eq', Given.has]
      cases g.stdio <;> simp

theorem has_put (c : Choice) (k : Once) : (g.put c).has k = (g.has k || c.once? == some k) := by
  cases c with
  | spaced o value => cases o <;> cases k <;> simp [Given.put, Given.has, Choice.once?]
  | joined o value => cases o <;> cases k <;> simp [Given.put, Given.has, Choice.once?]
  | stdio => cases k <;> simp [Given.put, Given.has, Choice.once?]

/-- Options can be taken one after the other: each of them can be taken, and nothing is given twice. -/
structure Given.Admits (g : Given) (cs : List Choice) : Prop where
  sound : ∀ c ∈ cs, c.isSound = true
  once : (cs.filterMap Choice.once?).Nodup
  fresh : ∀ k ∈ cs.filterMap Choice.once?, g.has k = false

/-- The order of options does not matter. -/
theorem Given.Admits.perm {cs cs' : List Choice} (h : g.Admits cs) (hperm : cs.Perm cs') :
    g.Admits cs' where
  sound := fun c hc => h.sound c (hperm.mem_iff.mpr hc)
  once := (hperm.filterMap _).nodup_iff.mp h.once
  fresh := fun k hk => h.fresh k ((hperm.filterMap _).mem_iff.mpr hk)

theorem admits_cons_iff {c : Choice} {cs : List Choice} :
    g.Admits (c :: cs) ↔
      (c.isSound = true ∧ ∀ k, c.once? = some k → g.has k = false) ∧ (g.put c).Admits cs := by
  constructor
  · rintro ⟨hsound, honce, hfresh⟩
    rw [List.forall_mem_cons] at hsound
    cases hk : c.once? with
    | none =>
        rw [List.filterMap_cons_none hk] at honce hfresh
        refine ⟨⟨hsound.1, by simp⟩, hsound.2, honce, fun k' hk' => ?_⟩
        simp [has_put, hk, hfresh k' hk']
    | some k =>
        rw [List.filterMap_cons_some hk, List.nodup_cons] at honce
        rw [List.filterMap_cons_some hk, List.forall_mem_cons] at hfresh
        refine ⟨⟨hsound.1, by simpa using hfresh.1⟩, hsound.2, honce.2, fun k' hk' => ?_⟩
        have hne : k ≠ k' := fun heq => honce.1 (heq ▸ hk')
        simp [has_put, hk, hfresh.2 k' hk', hne]
  · rintro ⟨⟨hsound, hfresh⟩, hcs⟩
    refine ⟨List.forall_mem_cons.mpr ⟨hsound, hcs.sound⟩, ?_, ?_⟩
    · cases hk : c.once? with
      | none => simpa [List.filterMap_cons_none hk] using hcs.once
      | some k =>
          rw [List.filterMap_cons_some hk, List.nodup_cons]
          refine ⟨fun hmem => ?_, hcs.once⟩
          simpa [has_put, hk] using hcs.fresh k hmem
    · intro k hk
      rw [List.mem_filterMap] at hk
      obtain ⟨c', hc', hk⟩ := hk
      rcases List.mem_cons.mp hc' with rfl | hmem
      · exact hfresh k hk
      · have hput := hcs.fresh k (List.mem_filterMap.mpr ⟨c', hmem, hk⟩)
        rw [has_put, Bool.or_eq_false_iff] at hput
        exact hput.1

/-- **Arguments are accepted** if the options that they spell can be taken, and then all are taken. -/
theorem read_eq_ok_iff {cs : List Choice} {args : List String} (h : Spells cs args) :
    read g none args = .ok r ↔ g.Admits cs ∧ cs.foldl Given.put g = r := by
  obtain ⟨tail, htail, rfl⟩ := h
  induction cs generalizing g with
  | nil =>
      have hnone : g.Admits [] := ⟨by simp, by simp, by simp⟩
      simp [read_tail htail, hnone]
  | cons c cs ih =>
      rw [List.flatMap_cons, List.append_assoc, read_words_append_iff, admits_cons_iff, List.foldl_cons]
      constructor
      · rintro ⟨hapart, g', hchoose, hread⟩
        obtain ⟨hsound, hfresh, rfl⟩ := choose_eq_ok_iff.mp ⟨hapart, hchoose⟩
        obtain ⟨hcs, hr⟩ := ih.mp hread
        exact ⟨⟨⟨hsound, hfresh⟩, hcs⟩, hr⟩
      · rintro ⟨⟨⟨hsound, hfresh⟩, hcs⟩, hr⟩
        obtain ⟨hapart, hchoose⟩ := choose_eq_ok_iff.mpr ⟨hsound, hfresh, rfl⟩
        exact ⟨hapart, _, hchoose, ih.mpr ⟨hcs, hr⟩⟩

/-! ## markers -/

/-- The name of the strong marker that an option adds. -/
def Choice.strongName? : Choice → Option String
  | .spaced .rootMarker value | .joined .rootMarker value => some value
  | _ => none

/-- The name of the weak marker that an option adds. -/
def Choice.weakName? : Choice → Option String
  | .spaced .weakRootMarker value | .joined .weakRootMarker value => some value
  | _ => none

/-- An option adds the marker that it names. -/
theorem Given.markers_put (g : Given) (c : Choice) :
    (g.put c).rootMarkers = g.rootMarkers ++ c.strongName?.toList ∧
      (g.put c).weakRootMarkers = g.weakRootMarkers ++ c.weakName?.toList := by
  cases c with
  | spaced o value => cases o <;> simp [Given.put, Choice.strongName?, Choice.weakName?]
  | joined o value => cases o <;> simp [Given.put, Choice.strongName?, Choice.weakName?]
  | stdio => simp [Given.put, Choice.strongName?, Choice.weakName?]

/-- **The markers of options** are collected in order, the strong and the weak ones apart. -/
theorem markers_foldl_put (cs : List Choice) :
    (cs.foldl Given.put g).rootMarkers = g.rootMarkers ++ cs.filterMap Choice.strongName? ∧
      (cs.foldl Given.put g).weakRootMarkers = g.weakRootMarkers ++ cs.filterMap Choice.weakName? := by
  induction cs generalizing g with
  | nil => simp
  | cons c cs ih =>
      obtain ⟨hstrong, hweak⟩ := ih (g := g.put c)
      obtain ⟨hstrong', hweak'⟩ := g.markers_put c
      rw [List.foldl_cons, hstrong, hweak, hstrong', hweak']
      constructor
      · cases h : c.strongName? <;> simp [h]
      · cases h : c.weakName? <;> simp [h]

end LintServer.CommandLine
