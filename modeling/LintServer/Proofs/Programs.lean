import LintServer.Regex.Program

/-!
# What programs match

An expression says which stretches of a text it matches (`Expr.Matches`); a program says it step by
step (`Completes`).  Here the two are shown to agree:

* `Writer.Writes` — what a writer of code has to keep: it adds code behind the old one, and to run the
  new code to where it continues is to match something;
* `Writes.cat`, `Writes.alt`, `Writes.loop` and so on — one statement for each way of putting
  writers together;
* `Expr.writes` — so the code of an expression matches what the expression matches.

The main statement is `completes_ofExpr_iff`.  Preferences play no part in it: it tells which matches
there are, not which of them is found.
-/

namespace LintServer.Regex

/-! ## what an expression matches -/

/-- Some copies of a relation between places, one after the other. -/
def Copies (R : Cursor → Cursor → Prop) : Nat → Cursor → Cursor → Prop
  | 0, a, b => b = a
  | n + 1, a, c => ∃ b, R a b ∧ Copies R n b c

/-- An expression matches the stretch from a place to another. -/
def Expr.Matches : Expr → Cursor → Cursor → Prop
  | .empty, a, b => b = a
  | .chars s, a, b => ∃ c cs, a.rest = c :: cs ∧ s.contains c = true ∧ b = ⟨some c, cs⟩
  | .look t, a, b => t.holds a = true ∧ b = a
  | .group e, a, b => e.Matches a b
  | .cat x y, a, c => ∃ b, x.Matches a b ∧ y.Matches b c
  | .alt x y, a, b => x.Matches a b ∨ y.Matches a b
  | .rep least most _ e, a, b =>
    ∃ n, least ≤ n ∧ (∀ m, most = some m → n ≤ max least m) ∧ Copies e.Matches n a b

/-- Copies after copies. -/
theorem Copies.append {R : Cursor → Cursor → Prop} {m n : Nat} {a b c : Cursor}
    (h : Copies R m a b) (h' : Copies R n b c) : Copies R (m + n) a c := by
  induction m generalizing a with
  | zero =>
      cases h
      rwa [Nat.zero_add]
  | succ m ih =>
      obtain ⟨d, hd, hrest⟩ := h
      rw [Nat.add_right_comm]
      exact ⟨d, hd, ih hrest⟩

/-- Copies can be cut everywhere. -/
theorem Copies.split {R : Cursor → Cursor → Prop} {m n : Nat} {a c : Cursor}
    (h : Copies R (m + n) a c) : ∃ b, Copies R m a b ∧ Copies R n b c := by
  induction m generalizing a with
  | zero =>
      rw [Nat.zero_add] at h
      exact ⟨a, rfl, h⟩
  | succ m ih =>
      rw [Nat.add_right_comm] at h
      obtain ⟨d, hd, hrest⟩ := h
      obtain ⟨b, hm, hn⟩ := ih hrest
      exact ⟨b, ⟨d, hd, hm⟩, hn⟩

/-! ## what a program matches -/

/-- Code that is run from an instruction at a place completes the match, after some steps, at another
place. -/
inductive Completes (code : Code) : Nat → Nat → Cursor → Cursor → Prop
  | done {pc a} (h : code[pc]? = some .done) : Completes code 0 pc a a
  | char {n pc set next before c cs z} (h : code[pc]? = some (.char set next))
      (hc : set.contains c = true) (hrest : Completes code n next ⟨some c, cs⟩ z) :
      Completes code (n + 1) pc ⟨before, c :: cs⟩ z
  | look {n pc t next a z} (h : code[pc]? = some (.look t next)) (ht : t.holds a = true)
      (hrest : Completes code n next a z) : Completes code (n + 1) pc a z
  | first {n pc first second a z} (h : code[pc]? = some (.split first second))
      (hrest : Completes code n first a z) : Completes code (n + 1) pc a z
  | second {n pc first second a z} (h : code[pc]? = some (.split first second))
      (hrest : Completes code n second a z) : Completes code (n + 1) pc a z

namespace Completes

variable {code : Code} {n pc next x y : Nat} {a z : Cursor}

/-- At the end of a program the match is complete. -/
theorem done_iff (h : code[pc]? = some .done) : Completes code n pc a z ↔ n = 0 ∧ z = a := by
  constructor
  · intro hc
    cases hc <;> simp_all
  · rintro ⟨rfl, rfl⟩
    exact .done h

/-- An instruction that consumes a character. -/
theorem char_iff {set : Unicode.CharSet} (h : code[pc]? = some (.char set next)) :
    Completes code n pc a z ↔
      ∃ m c cs, n = m + 1 ∧ a.rest = c :: cs ∧ set.contains c = true ∧
        Completes code m next ⟨some c, cs⟩ z := by
  constructor
  · intro hc
    cases hc with
    | char h' hset hrest =>
        rw [h, Option.some.injEq, Instr.char.injEq] at h'
        obtain ⟨rfl, rfl⟩ := h'
        exact ⟨_, _, _, rfl, rfl, hset, hrest⟩
    | _ h' => simp [h] at h'
  · rintro ⟨m, c, cs, rfl, hrest, hset, hc⟩
    obtain ⟨before, rest⟩ := a
    cases hrest
    exact .char h hset hc

/-- An instruction that tests an assertion. -/
theorem look_iff {t : Assertion} (h : code[pc]? = some (.look t next)) :
    Completes code n pc a z ↔ ∃ m, n = m + 1 ∧ t.holds a = true ∧ Completes code m next a z := by
  constructor
  · intro hc
    cases hc with
    | look h' ht hrest =>
        rw [h, Option.some.injEq, Instr.look.injEq] at h'
        obtain ⟨rfl, rfl⟩ := h'
        exact ⟨_, rfl, ht, hrest⟩
    | _ h' => simp [h] at h'
  · rintro ⟨m, rfl, ht, hc⟩
    exact .look h ht hc

/-- An instruction that goes on in two ways. -/
theorem split_iff (h : code[pc]? = some (.split x y)) :
    Completes code n pc a z ↔
      ∃ m, n = m + 1 ∧ (Completes code m x a z ∨ Completes code m y a z) := by
  constructor
  · intro hc
    cases hc with
    | first h' hrest =>
        rw [h, Option.some.injEq, Instr.split.injEq] at h'
        obtain ⟨rfl, rfl⟩ := h'
        exact ⟨_, rfl, .inl hrest⟩
    | second h' hrest =>
        rw [h, Option.some.injEq, Instr.split.injEq] at h'
        obtain ⟨rfl, rfl⟩ := h'
        exact ⟨_, rfl, .inr hrest⟩
    | _ h' => simp [h] at h'
  · rintro ⟨m, rfl, hc | hc⟩
    · exact .first h hc
    · exact .second h hc

/-- Which of the two ways is preferred makes no difference. -/
theorem choose_iff {greedy : Bool} (h : code[pc]? = some (choose greedy x y)) :
    Completes code n pc a z ↔
      ∃ m, n = m + 1 ∧ (Completes code m x a z ∨ Completes code m y a z) := by
  cases greedy with
  | true => exact split_iff h
  | false =>
      rw [split_iff h]
      simp only [or_comm]

end Completes

/-! ## writers -/

/-- Code that has other code in front. -/
structure Extends (old new : Code) : Prop where
  size : old.size ≤ new.size
  same : ∀ pc, pc < old.size → new[pc]? = old[pc]?

theorem Extends.refl (code : Code) : Extends code code := ⟨Nat.le_refl _, fun _ _ => rfl⟩

theorem Extends.trans {a b c : Code} (h : Extends a b) (h' : Extends b c) : Extends a c :=
  ⟨Nat.le_trans h.size h'.size,
    fun pc hpc => (h'.same pc (Nat.lt_of_lt_of_le hpc h.size)).trans (h.same pc hpc)⟩

theorem Extends.push (code : Code) (i : Instr) : Extends code (code.push i) := by
  refine ⟨by simp, fun pc hpc => ?_⟩
  rw [Array.getElem?_push, if_neg (Nat.ne_of_lt hpc)]

/-- A program has the instructions that were written from a number on. -/
def Contains (program written : Code) (start : Nat) : Prop :=
  ∀ pc, start ≤ pc → pc < written.size → program[pc]? = written[pc]?

/-- What was written before something was added. -/
theorem Contains.of_extends {program old new : Code} {start : Nat} (h : Contains program new start)
    (hext : Extends old new) : Contains program old start := fun pc hle hlt =>
  (h pc hle (Nat.lt_of_lt_of_le hlt hext.size)).trans (hext.same pc hlt)

/-- What was written later. -/
theorem Contains.of_le {program written : Code} {start later : Nat}
    (h : Contains program written start) (hle : start ≤ later) : Contains program written later :=
  fun pc hpc => h pc (Nat.le_trans hle hpc)

/-- **What a writer of a relation keeps**: it adds code behind the old one, and running the new code
from its start to where it continues is to go from a place to one that is related to it.  That a run
does not get longer on the way is what an induction on loops needs. -/
structure Writer.Writes (w : Writer) (R : Cursor → Cursor → Prop) : Prop where
  keeps : ∀ next code, Extends code (w next code).code
  sound : ∀ {next code program n a z}, Contains program (w next code).code code.size →
    Completes program n (w next code).start a z →
    ∃ b m, m ≤ n ∧ R a b ∧ Completes program m next b z
  complete : ∀ {next code program n a b z}, Contains program (w next code).code code.size →
    R a b → Completes program n next b z → ∃ m, Completes program m (w next code).start a z

namespace Writer.Writes

variable {w v : Writer} {R S : Cursor → Cursor → Prop}

/-- Writing nothing is to stay at a place. -/
theorem skip : Writes (fun next code => ⟨next, code⟩) fun a b => b = a where
  keeps _ code := .refl code
  sound _ hc := ⟨_, _, Nat.le_refl _, rfl, hc⟩
  complete _ hab hc := ⟨_, hab ▸ hc⟩

/-- The instruction that was written last. -/
theorem getElem?_emit {program code : Code} {i : Instr}
    (h : Contains program (code.emit i).code code.size) : program[code.size]? = some i := by
  rw [h code.size (Nat.le_refl _) (by simp [Code.emit]), Code.emit, Array.getElem?_push_size]

theorem chars (s : Unicode.CharSet) :
    Writes (fun next code => code.emit (.char s next)) (Expr.chars s).Matches where
  keeps _ code := .push code _
  sound h hc := by
    obtain ⟨m, c, cs, rfl, hrest, hset, hm⟩ := (Completes.char_iff (getElem?_emit h)).mp hc
    exact ⟨_, m, Nat.le_succ m, ⟨c, cs, hrest, hset, rfl⟩, hm⟩
  complete h hab hc := by
    obtain ⟨c, cs, hrest, hset, rfl⟩ := hab
    exact ⟨_, (Completes.char_iff (getElem?_emit h)).mpr ⟨_, c, cs, rfl, hrest, hset, hc⟩⟩

theorem look (t : Assertion) :
    Writes (fun next code => code.emit (.look t next)) (Expr.look t).Matches where
  keeps _ code := .push code _
  sound h hc := by
    obtain ⟨m, rfl, ht, hm⟩ := (Completes.look_iff (getElem?_emit h)).mp hc
    exact ⟨_, m, Nat.le_succ m, ⟨ht, rfl⟩, hm⟩
  complete h hab hc := by
    obtain ⟨ht, rfl⟩ := hab
    exact ⟨_, (Completes.look_iff (getElem?_emit h)).mpr ⟨_, rfl, ht, hc⟩⟩

/-- One writer after the other; the code of the second is written first. -/
theorem cat (hw : w.Writes R) (hv : v.Writes S) :
    Writes (fun next code => w (v next code).start (v next code).code)
      fun a c => ∃ b, R a b ∧ S b c where
  keeps next code := (hv.keeps next code).trans (hw.keeps _ _)
  sound {next code _ _ _ _} h hc := by
    have hsecond := h.of_extends (hw.keeps _ _)
    have hfirst := h.of_le (hv.keeps next code).size
    obtain ⟨b, m, hm, hab, hb⟩ := hw.sound hfirst hc
    obtain ⟨d, k, hk, hbd, hd⟩ := hv.sound hsecond hb
    exact ⟨d, k, Nat.le_trans hk hm, ⟨b, hab, hbd⟩, hd⟩
  complete {next code _ _ _ _ _} h hab hc := by
    have hsecond := h.of_extends (hw.keeps _ _)
    have hfirst := h.of_le (hv.keeps next code).size
    obtain ⟨d, had, hdb⟩ := hab
    obtain ⟨m, hm⟩ := hv.complete hsecond hdb hc
    exact hw.complete hfirst had hm

/-- Either of two writers. -/
theorem alt (hw : w.Writes R) (hv : v.Writes S) :
    Writes
      (fun next code =>
        let second := v next code
        let first := w next second.code
        first.code.emit (.split first.start second.start))
      fun a b => R a b ∨ S a b where
  keeps next code :=
    ((hv.keeps next code).trans (hw.keeps _ _)).trans (.push _ _)
  sound {next code _ _ _ _} h hc := by
    have hsize := (hv.keeps next code).size
    have hsize' := (hw.keeps next (v next code).code).size
    have hfirst := (h.of_extends (.push _ _)).of_le hsize
    have hsecond := (h.of_extends (.push _ _)).of_extends (hw.keeps next (v next code).code)
    have hentry := getElem?_emit (h.of_le (Nat.le_trans hsize hsize'))
    obtain ⟨m, rfl, hm | hm⟩ := (Completes.split_iff hentry).mp hc
    · obtain ⟨b, k, hk, hab, hb⟩ := hw.sound hfirst hm
      exact ⟨b, k, Nat.le_succ_of_le hk, .inl hab, hb⟩
    · obtain ⟨b, k, hk, hab, hb⟩ := hv.sound hsecond hm
      exact ⟨b, k, Nat.le_succ_of_le hk, .inr hab, hb⟩
  complete {next code _ _ _ _ _} h hab hc := by
    have hsize := (hv.keeps next code).size
    have hsize' := (hw.keeps next (v next code).code).size
    have hfirst := (h.of_extends (.push _ _)).of_le hsize
    have hsecond := (h.of_extends (.push _ _)).of_extends (hw.keeps next (v next code).code)
    have hentry := getElem?_emit (h.of_le (Nat.le_trans hsize hsize'))
    rcases hab with hab | hab
    · obtain ⟨m, hm⟩ := hw.complete hfirst hab hc
      exact ⟨m + 1, (Completes.split_iff hentry).mpr ⟨m, rfl, .inl hm⟩⟩
    · obtain ⟨m, hm⟩ := hv.complete hsecond hab hc
      exact ⟨m + 1, (Completes.split_iff hentry).mpr ⟨m, rfl, .inr hm⟩⟩

/-- A writer of a relation writes every relation that says the same. -/
theorem congr (hw : w.Writes R) (h : ∀ a b, R a b ↔ S a b) : w.Writes S := by
  have hRS : R = S := funext fun a => funext fun b => propext (h a b)
  exact hRS ▸ hw

/-! ## repetitions -/

/-- A number of copies; the code of the last one is written first. -/
theorem copies (hw : w.Writes R) (n : Nat) : (w.copies n).Writes (Copies R n) := by
  induction n with
  | zero => exact skip
  | succ n ih =>
      refine (ih.cat hw).congr fun a b => ?_
      constructor
      · rintro ⟨d, had, hdb⟩
        exact had.append ⟨b, hdb, rfl⟩
      · intro h
        obtain ⟨d, had, e, hde, rfl⟩ := h.split
        exact ⟨d, had, hde⟩

/-- What is written for optional copies comes behind the old code. -/
theorem extends_optional (hw : w.Writes R) (greedy : Bool) (past n next : Nat) (code : Code) :
    Extends code (w.optional greedy past n next code).code := by
  induction n generalizing next code with
  | zero => exact .refl code
  | succ n ih => exact ((hw.keeps next code).trans (.push _ _)).trans (ih _ _)

/-- What is needed of the code of optional copies, seen from the one that is written first. -/
theorem contains_optional_succ (hw : w.Writes R) {greedy : Bool} {past n next : Nat}
    {code program : Code}
    (h : Contains program (w.optional greedy past (n + 1) next code).code code.size) :
    let last := w next code
    let entry := last.code.emit (choose greedy last.start past)
    Contains program last.code code.size ∧
      program[entry.start]? = some (choose greedy last.start past) ∧
      Contains program (w.optional greedy past n entry.start entry.code).code entry.code.size := by
  intro last entry
  have hsize : code.size ≤ last.code.size := (hw.keeps next code).size
  have hentry : Extends last.code entry.code := .push _ _
  have hentry' : Contains program entry.code code.size :=
    h.of_extends (extends_optional hw greedy past n _ _)
  exact ⟨hentry'.of_extends hentry, getElem?_emit (hentry'.of_le hsize),
    h.of_le (Nat.le_trans hsize hentry.size)⟩

/-- **Optional copies, run**: after some copies the run goes past the others, or after all of them it
continues. -/
theorem sound_optional (hw : w.Writes R) {greedy : Bool} {past n next : Nat} {code program : Code}
    {k : Nat} {a z : Cursor}
    (h : Contains program (w.optional greedy past n next code).code code.size)
    (hc : Completes program k (w.optional greedy past n next code).start a z) :
    ∃ b m j, m ≤ k ∧ Copies R j a b ∧
      (j < n ∧ Completes program m past b z ∨ j = n ∧ Completes program m next b z) := by
  induction n generalizing next code with
  | zero => exact ⟨a, k, 0, Nat.le_refl k, rfl, .inr ⟨rfl, hc⟩⟩
  | succ n ih =>
      obtain ⟨hlast, hentry, houter⟩ := contains_optional_succ hw h
      obtain ⟨b, m, j, hm, hab, ⟨hj, hb⟩ | ⟨rfl, hb⟩⟩ := ih houter hc
      · exact ⟨b, m, j, hm, hab, .inl ⟨Nat.lt_succ_of_lt hj, hb⟩⟩
      · obtain ⟨i, rfl, hi | hi⟩ := (Completes.choose_iff hentry).mp hb
        · obtain ⟨d, l, hl, hbd, hd⟩ := hw.sound hlast hi
          exact ⟨d, l, j + 1, by omega, hab.append ⟨d, hbd, rfl⟩, .inr ⟨rfl, hd⟩⟩
        · exact ⟨b, i, j, by omega, hab, .inl ⟨Nat.lt_succ_self j, hi⟩⟩

/-- **Optional copies, matched**: the copies can be run, and the others passed over. -/
theorem complete_optional (hw : w.Writes R) {greedy : Bool} {past n next : Nat} {code program : Code}
    {m j : Nat} {a b z : Cursor}
    (h : Contains program (w.optional greedy past n next code).code code.size) (hab : Copies R j a b)
    (hb : j < n ∧ Completes program m past b z ∨ j = n ∧ Completes program m next b z) :
    ∃ k, Completes program k (w.optional greedy past n next code).start a z := by
  induction n generalizing next code m j b with
  | zero =>
      obtain ⟨hj, -⟩ | ⟨rfl, hb⟩ := hb
      · exact absurd hj (Nat.not_lt_zero j)
      · cases hab
        exact ⟨m, hb⟩
  | succ n ih =>
      obtain ⟨hlast, hentry, houter⟩ := contains_optional_succ hw h
      obtain ⟨hj, hb⟩ | ⟨rfl, hb⟩ := hb
      · rcases Nat.lt_succ_iff_lt_or_eq.mp hj with hlt | rfl
        · exact ih houter hab (.inl ⟨hlt, hb⟩)
        · exact ih houter hab (.inr ⟨rfl, (Completes.choose_iff hentry).mpr ⟨m, rfl, .inr hb⟩⟩)
      · obtain ⟨d, had, e, hde, rfl⟩ := hab.split
        obtain ⟨l, hl⟩ := hw.complete hlast hde hb
        exact ih houter had (.inr ⟨rfl, (Completes.choose_iff hentry).mpr ⟨l, rfl, .inl hl⟩⟩)

/-- At most so many copies. -/
theorem optional (hw : w.Writes R) (greedy : Bool) (n : Nat) :
    Writes (fun next code => w.optional greedy next n next code)
      fun a b => ∃ j, j ≤ n ∧ Copies R j a b where
  keeps next code := extends_optional hw greedy next n next code
  sound h hc := by
    obtain ⟨b, m, j, hm, hab, ⟨hj, hb⟩ | ⟨rfl, hb⟩⟩ := sound_optional hw h hc
    · exact ⟨b, m, hm, ⟨j, Nat.le_of_lt hj, hab⟩, hb⟩
    · exact ⟨b, m, hm, ⟨j, Nat.le_refl j, hab⟩, hb⟩
  complete h hab hc := by
    obtain ⟨j, hj, hab⟩ := hab
    rcases Nat.lt_or_eq_of_le hj with hlt | rfl
    · exact complete_optional hw h hab (.inl ⟨hlt, hc⟩)
    · exact complete_optional hw h hab (.inr ⟨rfl, hc⟩)

/-! ## loops -/

section Loop

variable {program code : Code} {greedy : Bool} {next : Nat}

/-- What is written for a loop comes behind the old code. -/
theorem extends_loop (hw : w.Writes R) (greedy : Bool) (next : Nat) (code : Code) :
    Extends code (w.loop greedy next code).code := by
  have hinner := (Extends.push code .done).trans (hw.keeps code.size (code.push .done))
  refine ⟨by simpa [Writer.loop] using hinner.size, fun pc hpc => ?_⟩
  rw [Writer.loop, Array.getElem?_setIfInBounds_ne (Nat.ne_of_gt hpc), hinner.same pc hpc]

/-- What is needed of the code of a loop: the choice after each copy, and the body, which continues at
that choice. -/
theorem contains_loop (hw : w.Writes R) (h : Contains program (w.loop greedy next code).code code.size) :
    let inner := w code.size (code.push .done)
    program[code.size]? = some (choose greedy inner.start next) ∧
      Contains program inner.code (code.push .done).size := by
  intro inner
  have hlen : (w.loop greedy next code).code.size = inner.code.size := by simp [Writer.loop, inner]
  have hinner : code.size + 1 ≤ inner.code.size := by
    simpa using (hw.keeps code.size (code.push .done)).size
  refine ⟨?_, fun pc hle hlt => ?_⟩
  · have hsize : code.size < (w.loop greedy next code).code.size := hlen ▸ hinner
    rw [h code.size (Nat.le_refl _) hsize, Writer.loop, Array.getElem?_setIfInBounds_self_of_lt hinner]
  · rw [Array.size_push] at hle
    have hsize : pc < (w.loop greedy next code).code.size := hlen ▸ hlt
    rw [h pc (by omega) hsize, Writer.loop, Array.getElem?_setIfInBounds_ne (by omega)]

/-- **A loop, run** from its choice: some copies, and then it continues.  The induction is on the
length of the run, which gets shorter at every choice. -/
theorem sound_loop (hw : w.Writes R) (h : Contains program (w.loop greedy next code).code code.size)
    {n : Nat} {a z : Cursor} (hc : Completes program n code.size a z) :
    ∃ b m j, m ≤ n ∧ Copies R j a b ∧ Completes program m next b z := by
  obtain ⟨hchoice, hbody⟩ := contains_loop hw h
  induction n using Nat.strongRecOn generalizing a with
  | ind n ih =>
      obtain ⟨m, rfl, hm | hm⟩ := (Completes.choose_iff hchoice).mp hc
      · obtain ⟨b, k, hk, hab, hb⟩ := hw.sound hbody hm
        obtain ⟨d, l, j, hl, hbd, hd⟩ := ih k (Nat.lt_succ_of_le hk) hb
        exact ⟨d, l, j + 1, by omega, ⟨b, hab, hbd⟩, hd⟩
      · exact ⟨a, m, 0, Nat.le_succ m, rfl, hm⟩

/-- **A loop, matched** from its choice. -/
theorem complete_loop (hw : w.Writes R) (h : Contains program (w.loop greedy next code).code code.size)
    {m j : Nat} {a b z : Cursor} (hab : Copies R j a b) (hb : Completes program m next b z) :
    ∃ n, Completes program n code.size a z := by
  obtain ⟨hchoice, hbody⟩ := contains_loop hw h
  induction j generalizing a with
  | zero =>
      cases hab
      exact ⟨m + 1, (Completes.choose_iff hchoice).mpr ⟨m, rfl, .inr hb⟩⟩
  | succ j ih =>
      obtain ⟨d, had, hdb⟩ := hab
      obtain ⟨k, hk⟩ := ih hdb
      obtain ⟨l, hl⟩ := hw.complete hbody had hk
      exact ⟨l + 1, (Completes.choose_iff hchoice).mpr ⟨l, rfl, .inl hl⟩⟩

end Loop

/-- Any number of copies: a loop that is entered at its choice. -/
theorem star (hw : w.Writes R) (greedy : Bool) :
    Writes (fun next code => ⟨code.size, (w.loop greedy next code).code⟩)
      fun a b => ∃ j, Copies R j a b where
  keeps next code := extends_loop hw greedy next code
  sound h hc := by
    obtain ⟨b, m, j, hm, hab, hb⟩ := sound_loop hw h hc
    exact ⟨b, m, hm, ⟨j, hab⟩, hb⟩
  complete h hab hc := by
    obtain ⟨j, hab⟩ := hab
    exact complete_loop hw h hab hc

/-- One copy or more: a loop that is entered at its body. -/
theorem loop (hw : w.Writes R) (greedy : Bool) :
    (w.loop greedy).Writes fun a b => ∃ j, Copies R (j + 1) a b where
  keeps next code := extends_loop hw greedy next code
  sound h hc := by
    obtain ⟨-, hbody⟩ := contains_loop hw h
    obtain ⟨b, m, hm, hab, hb⟩ := hw.sound hbody hc
    obtain ⟨d, k, j, hk, hbd, hd⟩ := sound_loop hw h hb
    exact ⟨d, k, Nat.le_trans hk hm, ⟨j, b, hab, hbd⟩, hd⟩
  complete h hab hc := by
    obtain ⟨-, hbody⟩ := contains_loop hw h
    obtain ⟨j, d, had, hdb⟩ := hab
    obtain ⟨k, hk⟩ := complete_loop hw h hdb hc
    exact hw.complete hbody had hk

/-- A writer that can be passed over. -/
theorem orSkip (hw : w.Writes R) (greedy : Bool) :
    Writes
      (fun next code => (w next code).code.emit (choose greedy (w next code).start next))
      fun a b => R a b ∨ b = a where
  keeps next code := (hw.keeps next code).trans (.push _ _)
  sound {next code _ _ _ _} h hc := by
    have hentry := getElem?_emit (h.of_le (hw.keeps next code).size)
    obtain ⟨m, rfl, hm | hm⟩ := (Completes.choose_iff hentry).mp hc
    · obtain ⟨b, k, hk, hab, hb⟩ := hw.sound (h.of_extends (.push _ _)) hm
      exact ⟨b, k, Nat.le_succ_of_le hk, .inl hab, hb⟩
    · exact ⟨_, m, Nat.le_succ m, .inr rfl, hm⟩
  complete {next code _ _ _ _ _} h hab hc := by
    have hentry := getElem?_emit (h.of_le (hw.keeps next code).size)
    rcases hab with hab | rfl
    · obtain ⟨m, hm⟩ := hw.complete (h.of_extends (.push _ _)) hab hc
      exact ⟨m + 1, (Completes.choose_iff hentry).mpr ⟨m, rfl, .inl hm⟩⟩
    · exact ⟨_, (Completes.choose_iff hentry).mpr ⟨_, rfl, .inr hc⟩⟩

end Writer.Writes

/-! ## expressions -/

open Writer.Writes in
/-- **The code of an expression** matches what the expression matches. -/
theorem Expr.writes (e : Expr) : e.write.Writes e.Matches := by
  induction e with
  | empty => exact skip
  | chars s => exact Writer.Writes.chars s
  | look t => exact Writer.Writes.look t
  | group e ih => exact ih
  | cat x y ihx ihy => exact ihx.cat ihy
  | alt x y ihx ihy => exact ihx.alt ihy
  | rep least most greedy e ih =>
      cases most with
      | some most =>
          -- the copies that are needed, and behind them those that are not
          refine ((ih.copies least).cat (ih.optional greedy (most - least))).congr fun a b => ?_
          constructor
          · rintro ⟨d, had, j, hj, hdb⟩
            refine ⟨least + j, by omega, ?_, had.append hdb⟩
            rintro m ⟨⟩
            omega
          · rintro ⟨n, hleast, hmost, hab⟩
            have hn : n ≤ max least most := hmost most rfl
            rw [← Nat.add_sub_cancel' hleast] at hab
            obtain ⟨d, had, hdb⟩ := hab.split
            exact ⟨d, had, n - least, by omega, hdb⟩
      | none =>
          by_cases hleast : 0 < least
          · -- one copy less than is needed, and behind them the loop
            have hwrite : (Expr.rep least none greedy e).write = fun next code =>
                e.write.copies (least - 1) (e.write.loop greedy next code).start
                  (e.write.loop greedy next code).code := by
              funext next code
              simp only [Expr.write, hleast, if_true]
            rw [hwrite]
            refine ((ih.copies (least - 1)).cat (ih.loop greedy)).congr fun a b => ?_
            constructor
            · rintro ⟨d, had, j, hdb⟩
              exact ⟨least - 1 + (j + 1), by omega, nofun, had.append hdb⟩
            · rintro ⟨n, hn, -, hab⟩
              have hsum : n = least - 1 + (n - least + 1) := by omega
              rw [hsum] at hab
              obtain ⟨d, had, hdb⟩ := hab.split
              exact ⟨d, had, n - least, hdb⟩
          · cases hnull : e.isNullable with
            | true =>
                have hwrite : (Expr.rep least none greedy e).write = fun next code =>
                    (e.write.loop greedy next code).code.emit
                      (choose greedy (e.write.loop greedy next code).start next) := by
                  funext next code
                  simp only [Expr.write, hleast, if_false, hnull, if_true]
                rw [hwrite]
                refine ((ih.loop greedy).orSkip greedy).congr fun a b => ?_
                constructor
                · rintro (⟨j, hab⟩ | rfl)
                  · exact ⟨j + 1, by omega, nofun, hab⟩
                  · exact ⟨0, by omega, nofun, rfl⟩
                · rintro ⟨n, -, -, hab⟩
                  cases n with
                  | zero => exact .inr hab
                  | succ n => exact .inl ⟨n, hab⟩
            | false =>
                have hwrite : (Expr.rep least none greedy e).write = fun next code =>
                    ⟨code.size, (e.write.loop greedy next code).code⟩ := by
                  funext next code
                  simp [Expr.write, hleast, hnull]
                rw [hwrite]
                refine (ih.star greedy).congr fun a b => ?_
                constructor
                · rintro ⟨j, hab⟩
                  exact ⟨j, by omega, nofun, hab⟩
                · rintro ⟨n, -, -, hab⟩
                  exact ⟨n, hab⟩

/-- **The program of an expression** completes a match where the expression matches. -/
theorem completes_ofExpr_iff (e : Expr) (a z : Cursor) :
    (∃ n, Completes (Program.ofExpr e).code n (Program.ofExpr e).start a z) ↔ e.Matches a z := by
  have hdone : (Program.ofExpr e).code[0]? = some .done :=
    (e.writes.keeps 0 #[.done]).same 0 (by decide)
  have hall : Contains (Program.ofExpr e).code (e.write 0 #[.done]).code 1 := fun _ _ _ => rfl
  constructor
  · rintro ⟨n, hc⟩
    obtain ⟨b, m, -, hab, hb⟩ := e.writes.sound hall hc
    obtain ⟨-, rfl⟩ := (Completes.done_iff hdone).mp hb
    exact hab
  · intro h
    exact e.writes.complete hall h (.done hdone)

end LintServer.Regex
