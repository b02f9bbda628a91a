import Mathlib.Data.Finset.Card
import Mathlib.Data.Finset.Range
import LintServer.Proofs.Programs
import LintServer.Regex.Search

/-!
# What a search finds

A search runs a program on all places of a text at once.  Here its answer is compared with the matches
that the program has (`Completes`):

* `Program.onward` — where an instruction leads without a character; `Program.follow` goes on there
  with every thread that it meets for the first time (`follow_of_fresh`);
* `Covered` — what the marks of a place stand for: all that can be reached from a mark is marked, or
  waits for a character, or is still to be done;
* `Justified` — what a thread stands for: all that it can complete is a match from its start.

The main statements are that what is found is a match (`completes_of_find?`), and that something is
found wherever there is a match (`isSome_find?_iff`).
-/

namespace LintServer.Regex

/-! ## places -/

@[simp] theorem Cursor.advance_zero (a : Cursor) : a.advance 0 = a := rfl

theorem Cursor.advance_add (a : Cursor) (m n : Nat) : a.advance (m + n) = (a.advance m).advance n := by
  induction m generalizing a with
  | zero => rw [Nat.zero_add, advance_zero]
  | succ m ih =>
      rw [Nat.add_right_comm]
      exact ih a.next

/-- The place one character further on. -/
@[simp] theorem Cursor.next_cons (before : Option Char) (c : Char) (cs : List Char) :
    (⟨before, c :: cs⟩ : Cursor).next = ⟨some c, cs⟩ := rfl

/-! ## marks -/

namespace Marks

theorem has_add_self {m : Marks} {pc : Nat} (h : pc < m.entries.size) : (m.add pc).has pc = true := by
  simp [has, add, h]

theorem has_add_of_ne {m : Marks} {pc q : Nat} (h : q ≠ pc) : (m.add pc).has q = m.has q := by
  simp [has, add, Array.getElem?_setIfInBounds_ne h.symm]

/-- Marks stay. -/
theorem has_add_of_has {m : Marks} {pc q : Nat} (h : m.has q = true) : (m.add pc).has q = true := by
  by_cases hq : q = pc
  · subst hq
    refine has_add_self ?_
    simp only [has, beq_iff_eq] at h
    exact (Array.getElem?_eq_some_iff.mp h).1
  · rw [has_add_of_ne hq, h]

/-- A mark that is there was there before, or is the new one. -/
theorem has_of_has_add {m : Marks} {pc q : Nat} (h : (m.add pc).has q = true) :
    m.has q = true ∨ q = pc ∧ pc < m.entries.size := by
  by_cases hq : q = pc
  · subst hq
    simp only [has, add, beq_iff_eq, Array.getElem?_eq_some_iff, Array.size_setIfInBounds] at h
    exact .inr ⟨rfl, h.1⟩
  · exact .inl (has_add_of_ne hq ▸ h)

/-- Marks for a program of some size, none of them from a later place. -/
structure Fit (m : Marks) (size : Nat) : Prop where
  size_eq : m.entries.size = size
  le_place : ∀ pc e : Nat, m.entries[pc]? = some e → e ≤ m.place

theorem Fit.add {m : Marks} {size : Nat} (h : m.Fit size) (pc : Nat) : (m.add pc).Fit size := by
  refine ⟨by simp [Marks.add, h.size_eq], fun q e he => ?_⟩
  simp only [Marks.add, Array.getElem?_setIfInBounds] at he ⊢
  split at he
  · split at he
    · simp_all
    · simp at he
  · exact h.le_place q e he

/-- At the next place nothing is marked yet. -/
theorem Fit.has_next {m : Marks} {size : Nat} (h : m.Fit size) (pc : Nat) :
    (⟨m.entries, m.place + 1⟩ : Marks).has pc = false := by
  rw [Bool.eq_false_iff]
  intro hhas
  have hle := h.le_place pc (m.place + 1) (by simpa [has] using hhas)
  omega

theorem Fit.next {m : Marks} {size : Nat} (h : m.Fit size) :
    (⟨m.entries, m.place + 1⟩ : Marks).Fit size :=
  ⟨h.size_eq, fun pc e he => Nat.le_succ_of_le (h.le_place pc e he)⟩

/-- The number of instructions without a mark. -/
def unmarked (m : Marks) (size : Nat) : Nat :=
  ((Finset.range size).filter fun pc => m.has pc = false).card

theorem unmarked_le (m : Marks) (size : Nat) : m.unmarked size ≤ size := by
  simpa [unmarked] using Finset.card_filter_le (Finset.range size) _

/-- A new mark leaves fewer instructions without one. -/
theorem unmarked_add_lt {m : Marks} {size pc : Nat} (h : m.Fit size) (hpc : pc < size)
    (hm : m.has pc = false) : (m.add pc).unmarked size < m.unmarked size := by
  refine Finset.card_lt_card ((Finset.ssubset_iff_of_subset fun q hq => ?_).mpr ⟨pc, ?_, ?_⟩)
  · rw [Finset.mem_filter] at hq ⊢
    refine ⟨hq.1, Bool.eq_false_iff.mpr fun hq' => ?_⟩
    rw [has_add_of_has hq'] at hq
    exact absurd hq.2 (by decide)
  · simp [hpc, hm]
  · simp [has_add_self (h.size_eq ▸ hpc)]

/-- A mark that is not there leaves as many. -/
theorem unmarked_add_le (m : Marks) (size pc : Nat) : (m.add pc).unmarked size ≤ m.unmarked size := by
  refine Finset.card_le_card fun q hq => ?_
  rw [Finset.mem_filter] at hq ⊢
  refine ⟨hq.1, Bool.eq_false_iff.mpr fun hq' => ?_⟩
  rw [has_add_of_has hq'] at hq
  exact absurd hq.2 (by decide)

end Marks

/-! ## instructions that consume nothing -/

/-- Where an instruction leads at a place without a character. -/
def Program.onward (p : Program) (a : Cursor) (pc : Nat) : List Nat :=
  match p.code[pc]? with
  | some (.look t next) => if t.holds a then [next] else []
  | some (.split first second) => [first, second]
  | _ => []

/-- Whether an instruction waits for a character. -/
def Program.waits (p : Program) (pc : Nat) : Bool :=
  match p.code[pc]? with
  | some (.char _ _) => true
  | _ => false

namespace Program

variable {p : Program} {a z : Cursor} {pc n : Nat}

theorem length_onward_le (p : Program) (a : Cursor) (pc : Nat) : (p.onward a pc).length ≤ 2 := by
  unfold onward
  split
  · split <;> simp
  · simp
  · simp

/-- There is nothing behind the last instruction. -/
theorem onward_of_none (h : p.code[pc]? = none) : p.onward a pc = [] := by
  simp [onward, h]

/-- **What a completed match did first**: it was complete, or it consumed a character, or it went on
without one. -/
theorem completes_cases (h : Completes p.code n pc a z) :
    p.code[pc]? = some .done ∧ z = a ∨
      (∃ set next c cs m, p.code[pc]? = some (.char set next) ∧ a.rest = c :: cs ∧
        set.contains c = true ∧ Completes p.code m next ⟨some c, cs⟩ z) ∨
      ∃ q ∈ p.onward a pc, ∃ m < n, Completes p.code m q a z := by
  cases h with
  | done h => exact .inl ⟨h, rfl⟩
  | char h hc hrest => exact .inr (.inl ⟨_, _, _, _, _, h, rfl, hc, hrest⟩)
  | look h ht hrest => exact .inr (.inr ⟨_, by simp [onward, h, ht], _, Nat.lt_succ_self _, hrest⟩)
  | first h hrest => exact .inr (.inr ⟨_, by simp [onward, h], _, Nat.lt_succ_self _, hrest⟩)
  | second h hrest => exact .inr (.inr ⟨_, by simp [onward, h], _, Nat.lt_succ_self _, hrest⟩)

/-- What can be completed further on can be completed from here. -/
theorem completes_of_onward {q : Nat} (hq : q ∈ p.onward a pc) (h : Completes p.code n q a z) :
    Completes p.code (n + 1) pc a z := by
  unfold onward at hq
  split at hq
  · next t next heq =>
      split at hq
      · next ht =>
          rw [List.mem_singleton] at hq
          exact .look heq ht (hq ▸ h)
      · simp at hq
  · next first second heq =>
      rcases List.mem_cons.mp hq with rfl | hq
      · exact .first heq h
      · rw [List.mem_singleton] at hq
        exact .second heq (hq ▸ h)
  · simp at hq

/-! ## following threads -/

section Follow

variable {t : Thread} {todo waiting : List Thread} {marks : Marks}

/-- A thread at a marked instruction is dropped. -/
theorem follow_of_marked (h : marks.has t.pc = true) :
    p.follow a (n + 1) (t :: todo) waiting marks = p.follow a n todo waiting marks := by
  rw [follow, if_pos h]

/-- A thread that completes the match ends the work. -/
theorem follow_of_done (h : marks.has t.pc = false) (hdone : p.code[t.pc]? = some .done) :
    p.follow a (n + 1) (t :: todo) waiting marks =
      ⟨waiting.reverse, some t.start, marks.add t.pc⟩ := by
  simp [follow, h, hdone]

/-- **A thread that is met for the first time** is marked, and goes on or waits. -/
theorem follow_of_fresh (h : marks.has t.pc = false) (hdone : p.code[t.pc]? ≠ some .done) :
    p.follow a (n + 1) (t :: todo) waiting marks =
      p.follow a n ((p.onward a t.pc).map (fun q => { t with pc := q }) ++ todo)
        (if p.waits t.pc then t :: waiting else waiting) (marks.add t.pc) := by
  rw [follow, h, if_neg Bool.false_ne_true]
  unfold onward waits
  cases hcode : p.code[t.pc]? with
  | none => simp
  | some i =>
      cases i with
      | done => exact absurd hcode hdone
      | char set next => simp
      | look u next => cases hu : u.holds a <;> simp [hu]
      | split first second => simp

/-- An instruction is marked, or there is none of that number, or a thread at it is still to be
followed. -/
def Pending (p : Program) (todo : List Thread) (marks : Marks) (pc : Nat) : Prop :=
  marks.has pc = true ∨ p.code[pc]? = none ∨ ∃ t ∈ todo, t.pc = pc

/-- **What holds while threads are followed** at a place: all of them are of one kind (`J`), and what
can be reached from a mark without a character is pending; a mark that waits for a character has its
thread.  `asked` are the instructions that have to be looked at. -/
structure Pursuit (p : Program) (a : Cursor) (J : Thread → Prop) (asked : List Nat) (place : Nat)
    (todo waiting : List Thread) (marks : Marks) : Prop where
  fit : marks.Fit p.code.size
  place_eq : marks.place = place
  todo_kind : ∀ t ∈ todo, J t
  waiting_kind : ∀ t ∈ waiting, J t
  not_done : ∀ pc, marks.has pc = true → p.code[pc]? ≠ some .done
  waiting_of_waits : ∀ pc, marks.has pc = true → p.waits pc = true → ∃ t ∈ waiting, t.pc = pc
  pending_onward : ∀ pc, marks.has pc = true → ∀ q ∈ p.onward a pc, p.Pending todo marks q
  pending_asked : ∀ pc ∈ asked, p.Pending todo marks pc

namespace Pursuit

variable {J : Thread → Prop} {asked : List Nat} {place : Nat}

/-- What is pending stays so when a marked thread is dropped. -/
theorem pending_of_marked {q : Nat} (hm : marks.has t.pc = true) (h : p.Pending (t :: todo) marks q) :
    p.Pending todo marks q := by
  rcases h with h | h | ⟨u, hu, rfl⟩
  · exact .inl h
  · exact .inr (.inl h)
  · rcases List.mem_cons.mp hu with rfl | hu
    · exact .inl hm
    · exact .inr (.inr ⟨u, hu, rfl⟩)

/-- **A marked thread is dropped.** -/
theorem marked (h : p.Pursuit a J asked place (t :: todo) waiting marks)
    (hm : marks.has t.pc = true) : p.Pursuit a J asked place todo waiting marks where
  fit := h.fit
  place_eq := h.place_eq
  todo_kind u hu := h.todo_kind u (List.mem_cons_of_mem t hu)
  waiting_kind := h.waiting_kind
  not_done := h.not_done
  waiting_of_waits := h.waiting_of_waits
  pending_onward pc hpc q hq := pending_of_marked hm (h.pending_onward pc hpc q hq)
  pending_asked pc hpc := pending_of_marked hm (h.pending_asked pc hpc)

/-- What is pending stays so when a thread is marked and goes on. -/
theorem pending_of_fresh {q : Nat} (hfit : marks.Fit p.code.size) (more : List Thread)
    (h : p.Pending (t :: todo) marks q) : p.Pending (more ++ todo) (marks.add t.pc) q := by
  rcases h with h | h | ⟨u, hu, rfl⟩
  · exact .inl (Marks.has_add_of_has h)
  · exact .inr (.inl h)
  · rcases List.mem_cons.mp hu with rfl | hu
    · by_cases hlt : u.pc < p.code.size
      · exact .inl (Marks.has_add_self (hfit.size_eq ▸ hlt))
      · exact .inr (.inl (Array.getElem?_eq_none (Nat.le_of_not_lt hlt)))
    · exact .inr (.inr ⟨u, List.mem_append_right more hu, rfl⟩)

/-- **A thread that is met for the first time is marked**, and goes on or waits. -/
theorem fresh (hJ : ∀ t, J t → ∀ q ∈ p.onward a t.pc, J { t with pc := q })
    (h : p.Pursuit a J asked place (t :: todo) waiting marks) (hdone : p.code[t.pc]? ≠ some .done) :
    p.Pursuit a J asked place ((p.onward a t.pc).map (fun q => { t with pc := q }) ++ todo)
      (if p.waits t.pc then t :: waiting else waiting) (marks.add t.pc) where
  fit := h.fit.add t.pc
  place_eq := h.place_eq
  todo_kind u hu := by
    rcases List.mem_append.mp hu with hu | hu
    · obtain ⟨q, hq, rfl⟩ := List.mem_map.mp hu
      exact hJ t (h.todo_kind t List.mem_cons_self) q hq
    · exact h.todo_kind u (List.mem_cons_of_mem t hu)
  waiting_kind u hu := by
    split at hu
    · rcases List.mem_cons.mp hu with rfl | hu
      · exact h.todo_kind u List.mem_cons_self
      · exact h.waiting_kind u hu
    · exact h.waiting_kind u hu
  not_done pc hpc := by
    rcases Marks.has_of_has_add hpc with hpc | ⟨rfl, -⟩
    · exact h.not_done pc hpc
    · exact hdone
  waiting_of_waits pc hpc hw := by
    rcases Marks.has_of_has_add hpc with hpc | ⟨rfl, -⟩
    · obtain ⟨u, hu, rfl⟩ := h.waiting_of_waits pc hpc hw
      refine ⟨u, ?_, rfl⟩
      split
      · exact List.mem_cons_of_mem t hu
      · exact hu
    · exact ⟨t, by rw [if_pos hw]; exact List.mem_cons_self, rfl⟩
  pending_onward pc hpc q hq := by
    rcases Marks.has_of_has_add hpc with hpc | ⟨rfl, -⟩
    · exact pending_of_fresh h.fit _ (h.pending_onward pc hpc q hq)
    · exact .inr (.inr ⟨{ t with pc := q },
        List.mem_append_left _ (List.mem_map.mpr ⟨q, hq, rfl⟩), rfl⟩)
  pending_asked pc hpc := pending_of_fresh h.fit _ (h.pending_asked pc hpc)

/-- **When all is done**, a match that can be completed from what was asked for goes on with a
character, from a thread that waits for it.  The induction is on the length of the match. -/
theorem exists_waiting (h : p.Pursuit a J asked place [] waiting marks) {pc : Nat}
    (hpc : p.Pending [] marks pc) (hc : Completes p.code n pc a z) :
    ∃ t ∈ waiting, ∃ set next c cs m, p.code[t.pc]? = some (.char set next) ∧ a.rest = c :: cs ∧
      set.contains c = true ∧ Completes p.code m next ⟨some c, cs⟩ z := by
  induction n using Nat.strongRecOn generalizing pc with
  | ind n ih =>
      rcases hpc with hpc | hnone | ⟨u, hu, -⟩
      · rcases completes_cases hc with ⟨hdone, -⟩ | ⟨set, next, c, cs, m, hchar, hrest⟩ |
          ⟨q, hq, m, hm, hcq⟩
        · exact absurd hdone (h.not_done pc hpc)
        · obtain ⟨t, ht, rfl⟩ := h.waiting_of_waits pc hpc (by simp [waits, hchar])
          exact ⟨t, ht, set, next, c, cs, m, hchar, hrest⟩
        · exact ih m hm (h.pending_onward pc hpc q hq) hcq
      · rcases completes_cases hc with ⟨hdone, -⟩ | ⟨set, next, c, cs, m, hchar, -⟩ | ⟨q, hq, -⟩
        · simp [hnone] at hdone
        · simp [hnone] at hchar
        · simp [onward_of_none hnone] at hq
      · simp at hu

end Pursuit

/-- **Following threads to the end**: either all are done, or one completes the match.  There is fuel
enough, for a thread that goes on uses up an instruction without a mark. -/
theorem pursuit_follow {J : Thread → Prop} {asked : List Nat} {place : Nat}
    (hJ : ∀ t, J t → ∀ q ∈ p.onward a t.pc, J { t with pc := q })
    (h : p.Pursuit a J asked place todo waiting marks)
    (hfuel : todo.length + 2 * marks.unmarked p.code.size < n) :
    (∃ waiting' marks', p.Pursuit a J asked place [] waiting' marks' ∧
      p.follow a n todo waiting marks = ⟨waiting'.reverse, none, marks'⟩) ∨
    ∃ t todo' waiting' marks', p.Pursuit a J asked place (t :: todo') waiting' marks' ∧
      p.code[t.pc]? = some .done ∧
      p.follow a n todo waiting marks = ⟨waiting'.reverse, some t.start, marks'.add t.pc⟩ := by
  induction n generalizing todo waiting marks with
  | zero => exact absurd hfuel (Nat.not_lt_zero _)
  | succ n ih =>
      cases todo with
      | nil => exact .inl ⟨waiting, marks, h, rfl⟩
      | cons t todo =>
          rw [List.length_cons] at hfuel
          cases hm : marks.has t.pc with
          | true =>
              rw [follow_of_marked hm]
              exact ih (h.marked hm) (by omega)
          | false =>
              by_cases hdone : p.code[t.pc]? = some .done
              · exact .inr ⟨t, todo, waiting, marks, h, hdone, follow_of_done hm hdone⟩
              · rw [follow_of_fresh hm hdone]
                refine ih (h.fresh hJ hdone) ?_
                rw [List.length_append, List.length_map]
                by_cases hlt : t.pc < p.code.size
                · have hless := Marks.unmarked_add_lt h.fit hlt hm
                  have htwo := p.length_onward_le a t.pc
                  omega
                · have hnone := Array.getElem?_eq_none (Nat.le_of_not_lt hlt)
                  have hless := marks.unmarked_add_le p.code.size t.pc
                  rw [onward_of_none hnone, List.length_nil]
                  omega

end Follow

/-! ## one place -/

section Place

variable {before : Option Char} {rest : List Char} {place : Nat} {arrived : List Thread}
  {best : Option Found} {entries : Array Nat}

/-- The threads at a place: those that arrived, and as long as nothing is found a new one. -/
def front (p : Program) (place : Nat) (arrived : List Thread) (best : Option Found) : List Thread :=
  if best.isNone then arrived ++ [⟨p.start, place⟩] else arrived

/-- What the threads at a place reach. -/
def reach (p : Program) (a : Cursor) (place : Nat) (arrived : List Thread) (best : Option Found)
    (entries : Array Nat) : Reached :=
  p.follow a ((p.front place arrived best).length + 2 * p.code.size + 1) (p.front place arrived best) []
    ⟨entries, place + 1⟩

/-- The match that is known after a place. -/
def bestAfter (r : Reached) (place : Nat) (best : Option Found) : Option Found :=
  match r.complete with
  | some start => some ⟨start, place - start⟩
  | none => best

/-- Without threads the search is over. -/
theorem scan_of_front_eq_nil (h : p.front place arrived best = []) :
    p.scan before rest place arrived best entries = best := by
  have hempty : (p.front place arrived best).isEmpty = true := by rw [h]; rfl
  cases rest with
  | nil => exact if_pos hempty
  | cons c cs => exact if_pos hempty

/-- The search at the end of the text. -/
theorem scan_nil (h : p.front place arrived best ≠ []) :
    p.scan before [] place arrived best entries =
      bestAfter (p.reach ⟨before, []⟩ place arrived best entries) place best := by
  have hempty : ¬(p.front place arrived best).isEmpty = true := by simpa using h
  exact if_neg hempty

/-- The search before a character. -/
theorem scan_cons (h : p.front place arrived best ≠ []) (c : Char) (cs : List Char) :
    p.scan before (c :: cs) place arrived best entries =
      let r := p.reach ⟨before, c :: cs⟩ place arrived best entries
      p.scan (some c) cs (place + 1) (r.waiting.filterMap (p.consume? c)) (bestAfter r place best)
        r.marks.entries := by
  have hempty : ¬(p.front place arrived best).isEmpty = true := by simpa using h
  exact if_neg hempty

/-- A thread that consumes a character. -/
theorem consume?_eq_some_iff {c : Char} {t u : Thread} :
    p.consume? c t = some u ↔
      ∃ set next, p.code[t.pc]? = some (.char set next) ∧ set.contains c = true ∧
        u = { t with pc := next } := by
  unfold consume?
  split
  · next set next heq =>
      simp only [heq, Option.some.injEq, Instr.char.injEq]
      constructor
      · intro h
        split at h
        · next hc => exact ⟨set, next, ⟨rfl, rfl⟩, hc, (Option.some.inj h).symm⟩
        · exact absurd h (by simp)
      · rintro ⟨set', next', ⟨rfl, rfl⟩, hc, rfl⟩
        rw [if_pos hc]
  · next hne =>
      simp only [reduceCtorEq, false_iff, not_exists, not_and]
      intro set next heq
      exact absurd heq (hne set next)

/-- **What the threads at a place reach**: threads of their kind, one of which completes the match; if
none does, every match that can be completed from this place goes on with a character. -/
theorem reach_spec {a : Cursor} {J : Thread → Prop} (arrived : List Thread) (best : Option Found)
    (hJ : ∀ t, J t → ∀ q ∈ p.onward a t.pc, J { t with pc := q })
    (hfront : ∀ t ∈ p.front place arrived best, J t)
    (hfit : (⟨entries, place⟩ : Marks).Fit p.code.size) :
    let r := p.reach a place arrived best entries
    (⟨r.marks.entries, place + 1⟩ : Marks).Fit p.code.size ∧
    (∀ t ∈ r.waiting, J t) ∧
    (∀ start, r.complete = some start → ∃ t, J t ∧ p.code[t.pc]? = some .done ∧ t.start = start) ∧
    (r.complete = none → ∀ t ∈ p.front place arrived best, ∀ n z, Completes p.code n t.pc a z →
      ∃ c cs, a.rest = c :: cs ∧ ∃ u ∈ r.waiting.filterMap (p.consume? c), ∃ m,
        Completes p.code m u.pc ⟨some c, cs⟩ z) := by
  intro r
  have hunmarked : ∀ pc, (⟨entries, place + 1⟩ : Marks).has pc = false := hfit.has_next
  have hstart : p.Pursuit a J ((p.front place arrived best).map (·.pc)) (place + 1)
      (p.front place arrived best) [] ⟨entries, place + 1⟩ :=
    { fit := hfit.next
      place_eq := rfl
      todo_kind := hfront
      waiting_kind := by simp
      not_done := fun pc hpc => by simp [hunmarked] at hpc
      waiting_of_waits := fun pc hpc => by simp [hunmarked] at hpc
      pending_onward := fun pc hpc => by simp [hunmarked] at hpc
      pending_asked := fun pc hpc => .inr (.inr (by simpa using hpc)) }
  have hfuel := (⟨entries, place + 1⟩ : Marks).unmarked_le p.code.size
  rcases pursuit_follow hJ hstart (n := (p.front place arrived best).length + 2 * p.code.size + 1)
    (by omega) with ⟨waiting, marks, h, heq⟩ | ⟨t, todo, waiting, marks, h, hdone, heq⟩
  · have hr : r = ⟨waiting.reverse, none, marks⟩ := heq
    have hmarks : (⟨marks.entries, place + 1⟩ : Marks) = marks := by rw [← h.place_eq]
    rw [hr]
    refine ⟨hmarks ▸ h.fit, fun t ht => h.waiting_kind t (List.mem_reverse.mp ht), nofun, ?_⟩
    intro _ t ht n z hc
    have hpending := h.pending_asked t.pc (List.mem_map_of_mem ht)
    obtain ⟨u, hu, set, next, c, cs, m, hchar, hrest, hset, hm⟩ := h.exists_waiting hpending hc
    refine ⟨c, cs, hrest, { u with pc := next }, ?_, m, hm⟩
    rw [List.mem_filterMap]
    exact ⟨u, List.mem_reverse.mpr hu, consume?_eq_some_iff.mpr ⟨set, next, hchar, hset, rfl⟩⟩
  · have hr : r = ⟨waiting.reverse, some t.start, marks.add t.pc⟩ := heq
    have hmarks : (⟨(marks.add t.pc).entries, place + 1⟩ : Marks) = marks.add t.pc := by
      rw [← h.place_eq]
      rfl
    rw [hr]
    refine ⟨hmarks ▸ h.fit.add t.pc, fun u hu => h.waiting_kind u (List.mem_reverse.mp hu), ?_, nofun⟩
    rintro start ⟨⟩
    exact ⟨t, h.todo_kind t List.mem_cons_self, hdone, rfl⟩

end Place

/-! ## all places: what is found -/

section Sound

variable {a : Cursor} {before : Option Char} {rest : List Char} {place : Nat}
  {arrived : List Thread} {best : Option Found} {entries : Array Nat}

/-- What a thread stands for at a place of a search that began at `a`: all that it can complete is a
match from its start. -/
def Justified (p : Program) (a : Cursor) (place : Nat) (t : Thread) : Prop :=
  t.start ≤ place ∧ ∀ n z, Completes p.code n t.pc (a.advance place) z →
    ∃ m, Completes p.code m p.start (a.advance t.start) z

/-- A match lies in the text, and the program completes it. -/
def Holds (p : Program) (a : Cursor) (m : Found) : Prop :=
  m.skipped + m.length ≤ a.rest.length ∧
    ∃ n, Completes p.code n p.start (a.advance m.skipped) (a.advance (m.skipped + m.length))

theorem Justified.onward {t : Thread} (h : p.Justified a place t) {q : Nat}
    (hq : q ∈ p.onward (a.advance place) t.pc) : p.Justified a place { t with pc := q } :=
  ⟨h.1, fun _ z hc => h.2 _ z (completes_of_onward hq hc)⟩

/-- A thread that has consumed the next character. -/
theorem Justified.consume {t u : Thread} {c : Char} {cs : List Char} (h : p.Justified a place t)
    (hat : a.advance place = ⟨before, c :: cs⟩) (hu : p.consume? c t = some u) :
    p.Justified a (place + 1) u := by
  obtain ⟨set, next, hchar, hset, rfl⟩ := consume?_eq_some_iff.mp hu
  have hnext : a.advance (place + 1) = ⟨some c, cs⟩ := by
    rw [Cursor.advance_add, hat]
    rfl
  refine ⟨Nat.le_succ_of_le h.1, fun n z hc => h.2 (n + 1) z ?_⟩
  rw [hnext] at hc
  rw [hat]
  exact .char hchar hset hc

/-- The threads at a place are justified if those that arrived are. -/
theorem justified_front (h : ∀ t ∈ arrived, p.Justified a place t) :
    ∀ t ∈ p.front place arrived best, p.Justified a place t := by
  intro t ht
  unfold front at ht
  split at ht
  · rcases List.mem_append.mp ht with ht | ht
    · exact h t ht
    · rw [List.mem_singleton] at ht
      subst ht
      exact ⟨Nat.le_refl place, fun n z hc => ⟨n, hc⟩⟩
  · exact h t ht

/-- **What is known after a place is a match.** -/
theorem holds_bestAfter {r : Reached} (hplace : place ≤ a.rest.length)
    (hbest : ∀ m, best = some m → p.Holds a m)
    (hcomplete : ∀ start, r.complete = some start →
      ∃ t, p.Justified a place t ∧ p.code[t.pc]? = some .done ∧ t.start = start) :
    ∀ m, bestAfter r place best = some m → p.Holds a m := by
  intro m hm
  unfold bestAfter at hm
  split at hm
  · next start hstart =>
      obtain ⟨t, ⟨hle, hjust⟩, hdone, rfl⟩ := hcomplete start hstart
      obtain ⟨n, hn⟩ := hjust 0 _ (.done hdone)
      obtain rfl := Option.some.inj hm
      have hsum : t.start + (place - t.start) = place := Nat.add_sub_cancel' hle
      refine ⟨?_, n, ?_⟩
      · simpa [hsum] using hplace
      · simpa [hsum] using hn
  · exact hbest m hm

/-- **What a search finds is a match.**  The induction is on the text that is left. -/
theorem holds_scan (hat : a.advance place = ⟨before, rest⟩)
    (hlen : place + rest.length = a.rest.length) (hfit : (⟨entries, place⟩ : Marks).Fit p.code.size)
    (harrived : ∀ t ∈ arrived, p.Justified a place t) (hbest : ∀ m, best = some m → p.Holds a m) :
    ∀ m, p.scan before rest place arrived best entries = some m → p.Holds a m := by
  induction rest generalizing before place arrived best entries with
  | nil =>
      by_cases hfront : p.front place arrived best = []
      · rw [scan_of_front_eq_nil hfront]
        exact hbest
      · rw [scan_nil hfront, ← hat]
        obtain ⟨-, -, hcomplete, -⟩ :=
          reach_spec arrived best (fun t ht q hq => ht.onward hq) (justified_front harrived) hfit
        exact holds_bestAfter (by omega) hbest hcomplete
  | cons c cs ih =>
      by_cases hfront : p.front place arrived best = []
      · rw [scan_of_front_eq_nil hfront]
        exact hbest
      · rw [scan_cons hfront, ← hat]
        rw [List.length_cons] at hlen
        obtain ⟨hfit', hwaiting, hcomplete, -⟩ :=
          reach_spec arrived best (fun t ht q hq => ht.onward hq) (justified_front harrived) hfit
        refine ih ?_ (by omega) hfit' ?_ (holds_bestAfter (by omega) hbest hcomplete)
        · rw [Cursor.advance_add, hat]
          rfl
        · intro u hu
          obtain ⟨t, ht, htu⟩ := List.mem_filterMap.mp hu
          exact (hwaiting t ht).consume hat htu

end Sound

/-! ## all places: that something is found -/

section Complete

variable {before : Option Char} {rest : List Char} {place : Nat} {arrived : List Thread}
  {best : Option Found} {entries : Array Nat}

/-- A match that is known is never forgotten. -/
theorem isSome_bestAfter (r : Reached) (place : Nat) (h : best.isSome = true) :
    (bestAfter r place best).isSome = true := by
  unfold bestAfter
  split <;> simp [h]

theorem isSome_scan_of_isSome (h : best.isSome = true) :
    (p.scan before rest place arrived best entries).isSome = true := by
  induction rest generalizing before place arrived best entries with
  | nil =>
      by_cases hfront : p.front place arrived best = []
      · rwa [scan_of_front_eq_nil hfront]
      · rw [scan_nil hfront]
        exact isSome_bestAfter _ place h
  | cons c cs ih =>
      by_cases hfront : p.front place arrived best = []
      · rwa [scan_of_front_eq_nil hfront]
      · rw [scan_cons hfront]
        exact ih (isSome_bestAfter _ place h)

/-- As long as nothing is found, a match may start at every place. -/
theorem front_none : p.front place arrived none = arrived ++ [⟨p.start, place⟩] := by
  simp [front]

/-- **A search finds something** if a thread can complete a match, or if a match starts at a place that
is still to come. -/
theorem isSome_scan (hfit : (⟨entries, place⟩ : Marks).Fit p.code.size)
    (h : (∃ t ∈ arrived, ∃ n z, Completes p.code n t.pc ⟨before, rest⟩ z) ∨
      ∃ k ≤ rest.length, ∃ n z, Completes p.code n p.start ((⟨before, rest⟩ : Cursor).advance k) z) :
    (p.scan before rest place arrived none entries).isSome = true := by
  induction rest generalizing before place arrived entries with
  | nil =>
      have hfront : p.front place arrived none ≠ [] := by simp [front_none]
      rw [scan_nil hfront]
      obtain ⟨-, -, -, hnone⟩ := reach_spec (a := ⟨before, []⟩) (J := fun _ => True) arrived none
        (fun _ _ _ _ => trivial) (fun _ _ => trivial) hfit
      cases hr : (p.reach ⟨before, []⟩ place arrived none entries).complete with
      | some start => simp [bestAfter, hr]
      | none =>
          have hthread : ∃ t ∈ p.front place arrived none, ∃ n z,
              Completes p.code n t.pc ⟨before, []⟩ z := by
            rw [front_none]
            rcases h with ⟨t, ht, hc⟩ | ⟨k, hk, hc⟩
            · exact ⟨t, List.mem_append_left _ ht, hc⟩
            · obtain rfl : k = 0 := Nat.le_zero.mp hk
              exact ⟨⟨p.start, place⟩, by simp, hc⟩
          obtain ⟨t, ht, n, z, hc⟩ := hthread
          obtain ⟨c, cs, hrest, -⟩ := hnone hr t ht n z hc
          exact absurd hrest (by simp)
  | cons c cs ih =>
      have hfront : p.front place arrived none ≠ [] := by simp [front_none]
      rw [scan_cons hfront]
      obtain ⟨hfit', -, -, hnone⟩ := reach_spec (a := ⟨before, c :: cs⟩) (J := fun _ => True)
        arrived none (fun _ _ _ _ => trivial) (fun _ _ => trivial) hfit
      cases hr : (p.reach ⟨before, c :: cs⟩ place arrived none entries).complete with
      | some start => exact isSome_scan_of_isSome (by simp [bestAfter, hr])
      | none =>
          have hbest : bestAfter (p.reach ⟨before, c :: cs⟩ place arrived none entries) place none =
              none := by simp [bestAfter, hr]
          -- a thread at this place goes on with the character
          have hgoes : ∀ t ∈ p.front place arrived none, ∀ n z,
              Completes p.code n t.pc ⟨before, c :: cs⟩ z →
              ∃ u ∈ (p.reach ⟨before, c :: cs⟩ place arrived none entries).waiting.filterMap
                (p.consume? c), ∃ m z, Completes p.code m u.pc ⟨some c, cs⟩ z := by
            intro t ht n z hc
            obtain ⟨d, ds, hrest, u, hu, m, hm⟩ := hnone hr t ht n z hc
            cases hrest
            exact ⟨u, hu, m, z, hm⟩
          rw [front_none] at hgoes
          simp only [hbest]
          refine ih hfit' ?_
          rcases h with ⟨t, ht, n, z, hc⟩ | ⟨k, hk, n, z, hc⟩
          · exact .inl (hgoes t (List.mem_append_left _ ht) n z hc)
          · cases k with
            | zero => exact .inl (hgoes ⟨p.start, place⟩ (by simp) n z hc)
            | succ k => exact .inr ⟨k, Nat.le_of_succ_le_succ hk, n, z, hc⟩

end Complete

/-! ## the main statements -/

/-- Before the first place nothing is marked. -/
theorem fit_replicate (size : Nat) : (⟨Array.replicate size 0, 0⟩ : Marks).Fit size := by
  refine ⟨by simp, fun pc e he => ?_⟩
  rw [Array.getElem?_replicate] at he
  split at he
  · exact Nat.le_of_eq (Option.some.inj he).symm
  · exact absurd he (by simp)

/-- **What is found is a match**, and it lies in the text. -/
theorem completes_of_find? {m : Found} (h : p.find? a = some m) :
    m.skipped + m.length ≤ a.rest.length ∧
      ∃ n, Completes p.code n p.start (a.advance m.skipped) (a.advance (m.skipped + m.length)) := by
  have hstart : a.advance 0 = ⟨a.before, a.rest⟩ := rfl
  exact holds_scan hstart (Nat.zero_add _) (fit_replicate _) (by simp) (by simp) m h

/-- **Something is found** if there is a match at or after a place. -/
theorem isSome_find?_iff :
    (p.find? a).isSome = true ↔
      ∃ k ≤ a.rest.length, ∃ n z, Completes p.code n p.start (a.advance k) z := by
  constructor
  · intro h
    obtain ⟨m, hm⟩ := Option.isSome_iff_exists.mp h
    obtain ⟨hle, n, hn⟩ := completes_of_find? hm
    exact ⟨m.skipped, by omega, n, _, hn⟩
  · intro h
    exact isSome_scan (fit_replicate _) (.inr h)

end Program

end LintServer.Regex
