import LintServer.Proofs.LineTable

/-!
# Ranges between offsets

A range has the positions of two offsets, each found by a walk of its own from the start of the text.  The
two walks look ahead at different places, and a `\r` at the end of the shorter one may or may not be half of
a line end.  Yet they agree as far as both go:

* `IsCut.notAfter_of_le` — a cut that is not behind another one has a position that is not after the other's;
* `samePlace_iff_of_le` — of two cuts in order, only the two sides of the `\r` of a `\r\n` share a position;
* `rangeBetween_eq_some_iff` — a range is there if both of its offsets are cuts.

The main statement is `positions_follow_offsets`.
-/

namespace LintServer

open Regex

variable {text : List Char} {a b : Nat}

/-! ## offsets in order -/

/-- A `\r` has two sides, and the first comes first. -/
theorem Span.IsHalfLineEnd.start_lt_stop {s : Span} (h : s.IsHalfLineEnd text) : s.start < s.stop := by
  obtain ⟨pre, post, hcuts⟩ := h
  have hsize : byteLength ['\r'] = 1 := rfl
  have hstart := hcuts.start_eq
  have hstop := hcuts.stop_eq
  omega

/-- Two offsets in order are at one place if they are equal, or the two sides of the `\r` of a `\r\n`. -/
theorem samePlace_iff_of_le (hab : a ≤ b) :
    SamePlace text a b ↔ a = b ∨ Span.IsHalfLineEnd ⟨a, b⟩ text := by
  constructor
  · rintro (heq | hhalf | hhalf)
    · exact .inl heq
    · exact .inr hhalf
    · -- the sides of a `\r` in the other order
      exact absurd hhalf.start_lt_stop (Nat.not_lt.mpr hab)
  · exact Or.imp_right .inl

/-- **Positions are in the order of their offsets.** -/
theorem IsCut.notAfter_of_le (ha : IsCut text a) (hb : IsCut text b) (hab : a ≤ b) {p q : Position}
    (hp : positionAt text a = some p) (hq : positionAt text b = some q) : p.NotAfter q := by
  obtain ⟨pre, word, post, hcuts⟩ := ha.exists_cuts hb hab
  -- seen from the start of the word between the two cuts, the longer walk only goes on
  have hstart : p = (⟨0, 0⟩ : Position).behind pre (word ++ post) :=
    Option.some.inj (hp.symm.trans hcuts.positionAt_start)
  have hstop : q = p.behind word post := by
    rw [hstart]
    exact Option.some.inj (hq.symm.trans hcuts.positionAt_stop)
  rw [hstop]
  exact p.notAfter_behind word post

/-! ## ranges -/

/-- **A range** has the positions of its offsets, and is there if both of them have one. -/
theorem rangeBetween_eq_some_iff (text : List Char) (a b : Nat) (r : PositionRange) :
    rangeBetween text a b = some r ↔ positionAt text a = some r.start ∧ positionAt text b = some r.stop := by
  obtain ⟨start, stop⟩ := r
  unfold rangeBetween
  cases positionAt text a with
  | none => simp
  | some p =>
      cases positionAt text b with
      | none => simp
      | some q => simp

/-- A range from an offset to one that is not before it is never turned round. -/
theorem notAfter_of_rangeBetween (hab : a ≤ b) {r : PositionRange} (hr : rangeBetween text a b = some r) :
    r.start.NotAfter r.stop := by
  obtain ⟨hstart, hstop⟩ := (rangeBetween_eq_some_iff text a b r).mp hr
  exact (Position.isCut_of_advance hstart).notAfter_of_le (Position.isCut_of_advance hstop) hab hstart hstop

/-! ## the main statement -/

/-- **Positions follow offsets.**  Two boundaries of characters in order have positions in order, by line and
then by column, and these make a range.  They are equal exactly if the two offsets are equal, or if they are
the two sides of a `\r` that is followed by a `\n`.  Hence no range from an offset to one that is not before
it is turned round, whether the offsets are boundaries or not.  In a text of less than 2³² bytes no line and
no column that a walk passes needs more than 32 bits. -/
theorem positions_follow_offsets (text : String) (hsize : text.utf8ByteSize < UInt32.size) (a b : Nat)
    (hab : a ≤ b) :
    ((⟨a⟩ : String.Pos.Raw).IsValid text → (⟨b⟩ : String.Pos.Raw).IsValid text →
      ∃ p q, positionAt text.toList a = some p ∧ positionAt text.toList b = some q ∧
        rangeBetween text.toList a b = some ⟨p, q⟩ ∧ p.NotAfter q ∧
        (p = q ↔ a = b ∨ Span.IsHalfLineEnd ⟨a, b⟩ text.toList)) ∧
    (∀ r, rangeBetween text.toList a b = some r → r.start.NotAfter r.stop) ∧
    ∀ passed p, positionAt text.toList passed = some p → p.Fits := by
  rw [← byteLength_toList] at hsize
  refine ⟨?_, fun r => notAfter_of_rangeBetween hab, fun passed p => fits_of_positionAt hsize⟩
  intro hvalid hvalid'
  have ha : IsCut text.toList a := (isCut_iff_isValid text a).mpr hvalid
  have hb : IsCut text.toList b := (isCut_iff_isValid text b).mpr hvalid'
  obtain ⟨p, hp⟩ := ha.exists_positionAt
  obtain ⟨q, hq⟩ := hb.exists_positionAt
  refine ⟨p, q, hp, hq, (rangeBetween_eq_some_iff ..).mpr ⟨hp, hq⟩, ha.notAfter_of_le hb hab hp hq, ?_⟩
  rw [← samePlace_iff_of_le hab, ← positionAt_eq_iff ha hb, hp, hq, Option.some.injEq]

/-- Before, inside and behind a `\r\n` that follows a character of two code units and a `\r`: the first two
offsets are at one position, and the third is on the next line. -/
theorem positions_around_line_end :
    let text := "😀\r😀\r\nx"
    let place (offset : Nat) : String.Pos.Raw := ⟨offset⟩
    text.utf8ByteSize < UInt32.size ∧ (place 9).IsValid text ∧ (place 10).IsValid text ∧ (place 11).IsValid text ∧
      rangeBetween text.toList 9 10 = some ⟨⟨1, 2⟩, ⟨1, 2⟩⟩ ∧ Span.IsHalfLineEnd ⟨9, 10⟩ text.toList ∧
      rangeBetween text.toList 10 11 = some ⟨⟨1, 2⟩, ⟨2, 0⟩⟩ ∧ (Position.mk 1 2).NotAfter ⟨2, 0⟩ := by
  intro text place
  have hsize : text.utf8ByteSize < UInt32.size := by decide
  have h9 : (place 9).IsValid text :=
    (isCut_iff_isValid text 9).mp ⟨"😀\r😀".toList, "\r\nx".toList, by decide, by decide⟩
  have h10 : (place 10).IsValid text :=
    (isCut_iff_isValid text 10).mp ⟨"😀\r😀\r".toList, "\nx".toList, by decide, by decide⟩
  have h11 : (place 11).IsValid text :=
    (isCut_iff_isValid text 11).mp ⟨"😀\r😀\r\n".toList, "x".toList, by decide, by decide⟩
  have hinside : rangeBetween text.toList 9 10 = some ⟨⟨1, 2⟩, ⟨1, 2⟩⟩ := by decide
  have hbehind : rangeBetween text.toList 10 11 = some ⟨⟨1, 2⟩, ⟨2, 0⟩⟩ := by decide
  obtain ⟨hfirst, -, -⟩ := positions_follow_offsets text hsize 9 10 (by decide)
  obtain ⟨-, hsecond, -⟩ := positions_follow_offsets text hsize 10 11 (by decide)
  obtain ⟨p, q, -, -, hrange, -, heq⟩ := hfirst h9 h10
  obtain ⟨rfl, rfl⟩ := PositionRange.mk.inj (Option.some.inj (hrange.symm.trans hinside))
  exact ⟨hsize, h9, h10, h11, hinside, (heq.mp rfl).resolve_left (by decide), hbehind, hsecond _ hbehind⟩

end LintServer
