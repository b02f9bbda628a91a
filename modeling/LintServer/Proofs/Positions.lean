import LintServer.Proofs.Matches
import LintServer.Text.Position

/-!
# Positions in a text

The position of an offset is found by a walk over the text before it, character by character.  Here
the text is cut at the offset, and the walk becomes a function of its two parts:

* `Position.behind` — the position behind a word, which depends on what follows only where a `\r` may
  be the first half of a line end;
* `positionAt_byteLength` — every cut between two characters has this position;
* `Position.notAfter_behind` — a walk never goes back;
* `Position.behind_eq_self_iff` — and it stays where it is only over the `\r` of a `\r\n`.
-/

namespace LintServer

open Regex

/-- A position is not after another one: its line comes first, or its column on the same line. -/
def Position.NotAfter (p q : Position) : Prop :=
  p.line < q.line ∨ p.line = q.line ∧ p.column ≤ q.column

namespace Position

theorem NotAfter.refl (p : Position) : p.NotAfter p := .inr ⟨rfl, Nat.le_refl _⟩

theorem NotAfter.trans {p q r : Position} (h : p.NotAfter q) (h' : q.NotAfter r) : p.NotAfter r := by
  unfold NotAfter at *
  omega

theorem NotAfter.antisymm {p q : Position} (h : p.NotAfter q) (h' : q.NotAfter p) : p = q := by
  obtain ⟨line, column⟩ := p
  obtain ⟨line', column'⟩ := q
  simp only [NotAfter] at h h'
  rw [Position.mk.injEq]
  omega

/-! ## walks -/

/-- The position behind a word that stands at `p` and is followed by `post`. -/
def behind (p : Position) : (word post : List Char) → Position
  | [], _ => p
  | c :: word, post => (p.past c (word ++ post)).behind word post

/-- A word after a word. -/
theorem behind_append (p : Position) (u v post : List Char) :
    p.behind (u ++ v) post = (p.behind u (v ++ post)).behind v post := by
  induction u generalizing p with
  | nil => rfl
  | cons c u ih => simp [behind, ih]

/-- A walk over the bytes of a word. -/
theorem advance_byteLength (p : Position) (word post : List Char) :
    p.advance (byteLength word) (word ++ post) = some (p.behind word post) := by
  induction word generalizing p with
  | nil => cases post <;> rfl
  | cons c word ih =>
      have hpos := c.utf8Size_pos
      rw [byteLength_cons, List.cons_append, advance, if_neg (by omega), if_neg (by omega),
        Nat.add_sub_cancel_left, ih]
      rfl

/-! ## walks go on -/

theorem one_le_utf16Size (c : Char) : 1 ≤ utf16Size c := by
  unfold utf16Size
  split <;> omega

/-- A character does not lead back. -/
theorem notAfter_past (p : Position) (c : Char) (rest : List Char) : p.NotAfter (p.past c rest) := by
  unfold past
  split
  · split
    · exact .refl p
    · exact .inl (Nat.lt_succ_self p.line)
  · split
    · exact .inl (Nat.lt_succ_self p.line)
    · exact .inr ⟨rfl, Nat.le_add_right _ _⟩

/-- A character takes no room if it is the `\r` of a `\r\n`, and else it does. -/
theorem past_eq_self_iff (p : Position) (c : Char) (rest : List Char) :
    p.past c rest = p ↔ c = '\r' ∧ rest.head? = some '\n' := by
  obtain ⟨line, column⟩ := p
  have hsize := one_le_utf16Size c
  unfold past
  split
  · next hcr =>
      split
      · next hlf => simp [hcr, hlf]
      · next hlf => simp [hlf]
  · next hcr =>
      split
      · simp [hcr]
      · simp only [Position.mk.injEq, hcr, false_and, iff_false, not_and]
        omega

/-- **A walk never goes back.** -/
theorem notAfter_behind (p : Position) (word post : List Char) : p.NotAfter (p.behind word post) := by
  induction word generalizing p with
  | nil => exact .refl p
  | cons c word ih => exact (p.notAfter_past c _).trans (ih _)

/-- A walk that ends where it began did not leave with its first character. -/
theorem past_eq_self_of_behind {p : Position} {c : Char} {word post : List Char}
    (h : p.behind (c :: word) post = p) : p.past c (word ++ post) = p := by
  have hback := (p.past c (word ++ post)).notAfter_behind word post
  rw [behind] at h
  rw [h] at hback
  exact hback.antisymm (p.notAfter_past c _)

/-- **A walk stays where it is** over nothing, and over the `\r` of a `\r\n`. -/
theorem behind_eq_self_iff (p : Position) (word post : List Char) :
    p.behind word post = p ↔ word = [] ∨ word = ['\r'] ∧ post.head? = some '\n' := by
  constructor
  · intro h
    cases word with
    | nil => exact .inl rfl
    | cons c word =>
        have hpast := past_eq_self_of_behind h
        obtain ⟨rfl, hlf⟩ := (p.past_eq_self_iff c _).mp hpast
        cases word with
        | nil => exact .inr ⟨rfl, hlf⟩
        | cons d word =>
            -- the second character would be the `\n`, which begins a line
            rw [List.cons_append, List.head?_cons, Option.some.injEq] at hlf
            subst hlf
            rw [behind, hpast] at h
            obtain ⟨hcr, -⟩ := (p.past_eq_self_iff '\n' _).mp (past_eq_self_of_behind h)
            exact absurd hcr (by decide)
  · rintro (rfl | ⟨rfl, hlf⟩)
    · rfl
    · exact (p.past_eq_self_iff '\r' _).mpr ⟨rfl, hlf⟩

/-! ## bounds -/

theorem utf16Size_le_utf8Size (c : Char) : utf16Size c ≤ c.utf8Size := by
  have hpos := c.utf8Size_pos
  unfold utf16Size
  split
  · exact hpos
  · next hbig =>
      have hne : c.utf8Size ≠ 1 := by
        intro hone
        have hval := Char.utf8Size_eq_one_iff.mp hone
        rw [UInt32.le_iff_toNat_le] at hval
        have hnat : c.val.toNat = c.toNat := rfl
        have hsmall : (127 : UInt32).toNat = 127 := rfl
        omega
      omega

/-- A walk over a word gets no further than the word has bytes. -/
theorem behind_le_byteLength (p : Position) (word post : List Char) :
    (p.behind word post).line ≤ p.line + byteLength word ∧
      (p.behind word post).column ≤ p.column + byteLength word := by
  induction word generalizing p with
  | nil => exact ⟨Nat.le_refl _, Nat.le_refl _⟩
  | cons c word ih =>
      obtain ⟨hline, hcolumn⟩ := ih (p.past c (word ++ post))
      have hpos := c.utf8Size_pos
      have hsize := utf16Size_le_utf8Size c
      have hpast : (p.past c (word ++ post)).line ≤ p.line + c.utf8Size ∧
          (p.past c (word ++ post)).column ≤ p.column + c.utf8Size := by
        unfold past
        split
        · split
          · exact ⟨Nat.le_add_right _ _, Nat.le_add_right _ _⟩
          · exact ⟨Nat.add_le_add_left hpos _, Nat.zero_le _⟩
        · split
          · exact ⟨Nat.add_le_add_left hpos _, Nat.zero_le _⟩
          · exact ⟨Nat.le_add_right _ _, Nat.add_le_add_left hsize _⟩
      rw [behind, byteLength_cons]
      omega

end Position

/-- **Every cut between two characters has a position.** -/
theorem positionAt_byteLength (pre post : List Char) :
    positionAt (pre ++ post) (byteLength pre) = some ((⟨0, 0⟩ : Position).behind pre post) :=
  Position.advance_byteLength ⟨0, 0⟩ pre post

end LintServer
