import LintServer.Proofs.Repeats

/-!
# Positions by a table of lines

The position of an offset is found by a walk that ends at the offset and looks one character ahead.  What
it means is said of the whole text: the text is cut into its line ends, each one as long as it can be, and
the position counts the line ends that are over and the code units behind the last of them.

* `lineEnds`, `tableAt` — the table of a text and the position that is read off it;
* `SplitsLineEnd` — the only cuts at which the table of what is before them is not the first part of the
  table of the text (`lineEndsFrom_append`);
* `Position.follows_behind` — a walk counts line ends, and the code units behind the last of them.

The main statement is `positionAt_eq_tableAt`.
-/

namespace LintServer

open Regex

/-! ## the table -/

/-- The line ends of a text that begins at an offset: `\r\n`, or else `\r`, or else `\n`. -/
def lineEndsFrom (offset : Nat) : List Char → List Span
  | '\r' :: '\n' :: rest => ⟨offset, offset + 2⟩ :: lineEndsFrom (offset + 2) rest
  | '\r' :: rest => ⟨offset, offset + 1⟩ :: lineEndsFrom (offset + 1) rest
  | '\n' :: rest => ⟨offset, offset + 1⟩ :: lineEndsFrom (offset + 1) rest
  | c :: rest => lineEndsFrom (offset + c.utf8Size) rest
  | [] => []

/-- The line ends of a text. -/
def lineEnds (text : List Char) : List Span := lineEndsFrom 0 text

/-- The line ends that are over at an offset. -/
def lineEndsBefore (text : List Char) (offset : Nat) : List Span :=
  (lineEnds text).filter (·.stop ≤ offset)

/-- Where the last of some spans stops, or `start` if there is none. -/
def lastStop (start : Nat) (spans : List Span) : Nat := (spans.getLast?.map Span.stop).getD start

/-- The part of a line that is before an offset.  A `\r` right before the offset is none of it if a `\n` is
right behind the offset. -/
def lineBefore (text : List Char) (offset : Nat) : List Char :=
  let word := Span.slice ⟨lastStop 0 (lineEndsBefore text offset), offset⟩ text
  if word.getLast? = some '\r' ∧ (dropBytes offset text).head? = some '\n' then word.dropLast else word

/-- The number of UTF-16 code units of a text. -/
def utf16Length : List Char → Nat
  | [] => 0
  | c :: rest => utf16Size c + utf16Length rest

/-- The position of an offset by the table of lines. -/
def tableAt (text : List Char) (offset : Nat) : Position :=
  ⟨(lineEndsBefore text offset).length, utf16Length (lineBefore text offset)⟩

@[simp] theorem lastStop_nil (start : Nat) : lastStop start [] = start := rfl

@[simp] theorem lastStop_cons (start : Nat) (s : Span) (spans : List Span) :
    lastStop start (s :: spans) = lastStop s.stop spans := by
  cases spans <;> simp [lastStop, List.getLast?_cons]

/-! ## cuts inside a line end -/

/-- Between two parts of a text a `\r\n` is split. -/
def SplitsLineEnd (pre post : List Char) : Prop := pre.getLast? = some '\r' ∧ post.head? = some '\n'

/-- A cut that splits nothing does not do so after fewer characters. -/
theorem not_splitsLineEnd_of_cons {c : Char} {pre post : List Char} (h : ¬SplitsLineEnd (c :: pre) post) :
    ¬SplitsLineEnd pre post := by
  rintro ⟨hcr, hlf⟩
  exact h ⟨by rw [List.getLast?_cons, hcr]; rfl, hlf⟩

/-- A `\r` with no `\n` behind it before a cut has none behind the cut either, unless the cut splits them. -/
theorem head?_append_ne_of_not_splitsLineEnd {rest post : List Char} (hrest : rest.head? ≠ some '\n')
    (h : ¬SplitsLineEnd ('\r' :: rest) post) : (rest ++ post).head? ≠ some '\n' := by
  cases rest with
  | nil => exact fun hlf => h ⟨rfl, hlf⟩
  | cons c rest => exact hrest

@[simp] theorem utf8Size_cr : '\r'.utf8Size = 1 := rfl

@[simp] theorem utf8Size_lf : '\n'.utf8Size = 1 := rfl

/-! ## tables of the parts of a text -/

/-- A text that does not begin with a `\n`, said of its first character. -/
theorem head?_ne_of_forall {text : List Char} (h : ∀ rest, text = '\n' :: rest → False) :
    text.head? ≠ some '\n' := by
  intro hhead
  obtain ⟨rest, rfl⟩ := List.head?_eq_some_iff.mp hhead
  exact h rest rfl

theorem lineEndsFrom_cr {rest : List Char} (h : rest.head? ≠ some '\n') (offset : Nat) :
    lineEndsFrom offset ('\r' :: rest) = ⟨offset, offset + 1⟩ :: lineEndsFrom (offset + 1) rest := by
  rw [lineEndsFrom]
  rintro tail rfl
  exact h rfl

theorem lineEndsFrom_of_ne {c : Char} (hcr : c ≠ '\r') (hlf : c ≠ '\n') (rest : List Char) (offset : Nat) :
    lineEndsFrom offset (c :: rest) = lineEndsFrom (offset + c.utf8Size) rest := by
  rw [lineEndsFrom]
  · rintro tail rfl
    exact absurd rfl hcr
  · exact fun h => hcr h
  · exact fun h => hlf h

/-- **The table of a text** is that of its two parts, if no line end is split. -/
theorem lineEndsFrom_append (offset : Nat) {pre post : List Char} (h : ¬SplitsLineEnd pre post) :
    lineEndsFrom offset (pre ++ post) =
      lineEndsFrom offset pre ++ lineEndsFrom (offset + byteLength pre) post := by
  fun_induction lineEndsFrom offset pre with
  | case1 offset rest ih =>
      have hrest := ih (not_splitsLineEnd_of_cons (not_splitsLineEnd_of_cons h))
      simp only [List.cons_append, lineEndsFrom, hrest, byteLength_cons, utf8Size_cr, utf8Size_lf]
      rw [← Nat.add_assoc, ← Nat.add_assoc]
  | case2 offset rest hlf ih =>
      have hhead := head?_append_ne_of_not_splitsLineEnd (head?_ne_of_forall hlf) h
      have hrest := ih (not_splitsLineEnd_of_cons h)
      rw [List.cons_append, lineEndsFrom_cr hhead, hrest, byteLength_cons, utf8Size_cr, List.cons_append,
        Nat.add_assoc]
  | case3 offset rest ih =>
      have hrest := ih (not_splitsLineEnd_of_cons h)
      rw [List.cons_append, lineEndsFrom, hrest, byteLength_cons, utf8Size_lf, List.cons_append,
        Nat.add_assoc]
  | case4 offset c rest _ hcr hlf ih =>
      have hrest := ih (not_splitsLineEnd_of_cons h)
      rw [List.cons_append, lineEndsFrom_of_ne hcr hlf, hrest, byteLength_cons, Nat.add_assoc]
  | case5 offset => simp

/-- A line end of a text stops behind its start, and not behind its end. -/
theorem stop_of_mem_lineEndsFrom {offset : Nat} {text : List Char} {s : Span}
    (h : s ∈ lineEndsFrom offset text) : offset < s.stop ∧ s.stop ≤ offset + byteLength text := by
  fun_induction lineEndsFrom offset text with
  | case1 offset rest ih => grind [byteLength_cons, utf8Size_cr, utf8Size_lf]
  | case2 offset rest _ ih => grind [byteLength_cons, utf8Size_cr]
  | case3 offset rest ih => grind [byteLength_cons, utf8Size_lf]
  | case4 offset c rest _ _ _ ih => grind [byteLength_cons, Char.utf8Size_pos]
  | case5 offset => simp at h

/-- **The line ends that are over** at an offset are those of the text before a cut, if the cut splits no line
end and all that are behind it stop later. -/
theorem lineEndsBefore_eq {pre post : List Char} {offset : Nat} (h : ¬SplitsLineEnd pre post)
    (hpre : byteLength pre ≤ offset) (hpost : ∀ s ∈ lineEndsFrom (byteLength pre) post, offset < s.stop) :
    lineEndsBefore (pre ++ post) offset = lineEnds pre := by
  have hover : ∀ s ∈ lineEndsFrom 0 pre, s.stop ≤ offset := by
    intro s hs
    have := (stop_of_mem_lineEndsFrom hs).2
    omega
  rw [lineEndsBefore, lineEnds, lineEndsFrom_append 0 h, List.filter_append, Nat.zero_add,
    List.filter_eq_self.mpr (by simpa using hover),
    List.filter_eq_nil_iff.mpr (by simpa using hpost), List.append_nil]
  rfl

/-! ## walks and tables -/

/-- **A walk over a word follows a table**, from `p` to `q`: it goes down a line at each of the line ends, and
then over the code units of what is behind the last of them. -/
structure Position.Follows (p q : Position) (offset : Nat) (word : List Char) (ends : List Span) : Prop where
  line_eq : q.line = p.line + ends.length
  exists_tail : ∃ head tail, word = head ++ tail ∧ lastStop offset ends = offset + byteLength head ∧
    q.column = (if ends = [] then p.column else 0) + utf16Length tail

namespace Position

/-- A line end before a word. -/
theorem Follows.lineEnd {p q : Position} {offset size : Nat} {ends : List Span} {word : List Char}
    (first : List Char) (hsize : byteLength first = size)
    (h : Follows ⟨p.line + 1, 0⟩ q (offset + size) word ends) :
    Follows p q offset (first ++ word) (⟨offset, offset + size⟩ :: ends) := by
  obtain ⟨hline, head, tail, rfl, hstop, hcolumn⟩ := h
  refine ⟨?_, first ++ head, tail, by simp, ?_, ?_⟩
  · rw [hline, List.length_cons]
    dsimp only
    omega
  · rw [lastStop_cons, hstop, byteLength_append, hsize, Nat.add_assoc]
  · rw [hcolumn, ite_self, if_neg (List.cons_ne_nil _ _)]

/-- A character before a word. -/
theorem Follows.char {p q : Position} {offset : Nat} {ends : List Span} {c : Char} {word : List Char}
    (h : Follows ⟨p.line, p.column + utf16Size c⟩ q (offset + c.utf8Size) word ends) :
    Follows p q offset (c :: word) ends := by
  obtain ⟨hline, head, tail, rfl, hstop, hcolumn⟩ := h
  refine ⟨hline, ?_⟩
  cases ends with
  | nil =>
      -- the character is on the last line, as all of the word is
      rw [lastStop_nil] at hstop
      obtain rfl : head = [] := by
        cases head with
        | nil => rfl
        | cons d head =>
            have := d.utf8Size_pos
            rw [byteLength_cons] at hstop
            omega
      refine ⟨[], c :: tail, rfl, rfl, ?_⟩
      rw [hcolumn, utf16Length]
      simp only [if_true]
      omega
  | cons s ends =>
      refine ⟨c :: head, tail, rfl, ?_, hcolumn⟩
      rw [lastStop_cons] at hstop ⊢
      rw [hstop, byteLength_cons, Nat.add_assoc]

/-- **A walk follows the table** of what it goes over, if it does not end inside a line end. -/
theorem follows_behind (p : Position) (offset : Nat) {word post : List Char}
    (h : ¬SplitsLineEnd word post) :
    p.Follows (p.behind word post) offset word (lineEndsFrom offset word) := by
  fun_induction lineEndsFrom offset word generalizing p with
  | case1 offset rest ih =>
      have hwalk : p.behind ('\r' :: '\n' :: rest) post = behind ⟨p.line + 1, 0⟩ rest post := by
        simp [behind, past]
      rw [hwalk]
      exact (ih _ (not_splitsLineEnd_of_cons (not_splitsLineEnd_of_cons h))).lineEnd ['\r', '\n'] rfl
  | case2 offset rest hlf ih =>
      have hhead := head?_append_ne_of_not_splitsLineEnd (head?_ne_of_forall hlf) h
      have hwalk : p.behind ('\r' :: rest) post = behind ⟨p.line + 1, 0⟩ rest post := by
        simp only [behind, past, if_true, if_neg hhead]
      rw [hwalk]
      exact (ih _ (not_splitsLineEnd_of_cons h)).lineEnd ['\r'] rfl
  | case3 offset rest ih =>
      have hwalk : p.behind ('\n' :: rest) post = behind ⟨p.line + 1, 0⟩ rest post := by
        simp [behind, past]
      rw [hwalk]
      exact (ih _ (not_splitsLineEnd_of_cons h)).lineEnd ['\n'] rfl
  | case4 offset c rest _ hcr hlf ih =>
      have hwalk : p.behind (c :: rest) post = behind ⟨p.line, p.column + utf16Size c⟩ rest post := by
        rw [behind, past, if_neg hcr, if_neg hlf]
      rw [hwalk]
      exact (ih _ (not_splitsLineEnd_of_cons h)).char
  | case5 offset => exact ⟨rfl, [], [], rfl, rfl, rfl⟩

end Position

/-- A position is read off the table if the walk to it follows the table, and the line before it is what the
walk has behind the last line end. -/
theorem tableAt_eq_of_follows {pre post : List Char} {offset : Nat} {q : Position}
    (hends : lineEndsBefore (pre ++ post) offset = lineEnds pre)
    (hq : Position.Follows ⟨0, 0⟩ q 0 pre (lineEnds pre))
    (hline : ∀ head tail, pre = head ++ tail → lastStop 0 (lineEnds pre) = byteLength head →
      lineBefore (pre ++ post) offset = tail) :
    tableAt (pre ++ post) offset = q := by
  obtain ⟨hlines, head, tail, hpre, hstop, hcolumn⟩ := hq
  obtain ⟨line, column⟩ := q
  rw [Nat.zero_add] at hlines hstop
  rw [ite_self, Nat.zero_add] at hcolumn
  rw [tableAt, hends, hline head tail hpre hstop, ← hlines, ← hcolumn]

/-- **A cut that splits no line end** is where the table says. -/
theorem tableAt_of_not_splitsLineEnd {pre post : List Char} (h : ¬SplitsLineEnd pre post) :
    tableAt (pre ++ post) (byteLength pre) = (⟨0, 0⟩ : Position).behind pre post := by
  have hends : lineEndsBefore (pre ++ post) (byteLength pre) = lineEnds pre :=
    lineEndsBefore_eq h (Nat.le_refl _) fun s hs => (stop_of_mem_lineEndsFrom hs).1
  refine tableAt_eq_of_follows hends (Position.follows_behind _ 0 h) ?_
  rintro head tail rfl hstop
  have hcuts : Span.Cuts ⟨byteLength head, byteLength (head ++ tail)⟩ (head ++ tail ++ post) head tail post :=
    ⟨List.append_assoc .., rfl, byteLength_append ..⟩
  have hkept : ¬(tail.getLast? = some '\r' ∧ post.head? = some '\n') := by
    rintro ⟨hcr, hlf⟩
    exact h ⟨by rw [List.getLast?_append, hcr]; rfl, hlf⟩
  rw [lineBefore, hends, hstop, Span.slice_of_cuts hcuts, dropBytes_append]
  exact if_neg hkept

/-- **A cut inside a `\r\n`** is at the end of its line. -/
theorem tableAt_of_splitsLineEnd (pre post : List Char) :
    tableAt (pre ++ '\r' :: '\n' :: post) (byteLength (pre ++ ['\r'])) =
      (⟨0, 0⟩ : Position).behind pre ('\r' :: '\n' :: post) := by
  have h : ¬SplitsLineEnd pre ('\r' :: '\n' :: post) := by simp [SplitsLineEnd]
  have hsize : byteLength (pre ++ ['\r']) = byteLength pre + 1 := by simp
  have hends : lineEndsBefore (pre ++ '\r' :: '\n' :: post) (byteLength (pre ++ ['\r'])) = lineEnds pre := by
    refine lineEndsBefore_eq h (by omega) ?_
    intro s hs
    rcases List.mem_cons.mp hs with rfl | hs
    · dsimp only
      omega
    · have := (stop_of_mem_lineEndsFrom hs).1
      omega
  refine tableAt_eq_of_follows hends (Position.follows_behind _ 0 h) ?_
  rintro head tail rfl hstop
  have hcuts : Span.Cuts ⟨byteLength head, byteLength (head ++ tail ++ ['\r'])⟩
      (head ++ tail ++ '\r' :: '\n' :: post) head (tail ++ ['\r']) ('\n' :: post) :=
    ⟨by simp, rfl, by simp⟩
  have hbehind : dropBytes (byteLength (head ++ tail ++ ['\r'])) (head ++ tail ++ '\r' :: '\n' :: post) =
      '\n' :: post := by
    have hcut := dropBytes_append (head ++ tail ++ ['\r']) ('\n' :: post)
    rwa [List.append_assoc (head ++ tail)] at hcut
  rw [lineBefore, hends, hstop, Span.slice_of_cuts hcuts, hbehind]
  simp

/-- **Every cut of a text** is where the table says. -/
theorem tableAt_byteLength (pre post : List Char) :
    tableAt (pre ++ post) (byteLength pre) = (⟨0, 0⟩ : Position).behind pre post := by
  by_cases h : SplitsLineEnd pre post
  · obtain ⟨hcr, hlf⟩ := h
    obtain ⟨pre, rfl⟩ := List.getLast?_eq_some_iff.mp hcr
    obtain ⟨post, rfl⟩ := List.head?_eq_some_iff.mp hlf
    have hstays : (⟨0, 0⟩ : Position).behind (pre ++ ['\r']) ('\n' :: post) =
        (⟨0, 0⟩ : Position).behind pre ('\r' :: '\n' :: post) := by
      rw [Position.behind_append]
      exact (Position.behind_eq_self_iff _ _ _).mpr (.inr ⟨rfl, rfl⟩)
    rw [hstays, ← tableAt_of_splitsLineEnd, List.append_assoc]
    rfl
  · exact tableAt_of_not_splitsLineEnd h

/-! ## offsets that have a position -/

/-- Where a walk ends, the text is cut. -/
theorem Position.isCut_of_advance {p q : Position} {offset : Nat} {text : List Char}
    (h : p.advance offset text = some q) : IsCut text offset := by
  induction text generalizing p offset with
  | nil =>
      simp only [advance, Option.ite_none_right_eq_some] at h
      exact ⟨[], [], rfl, h.1⟩
  | cons c rest ih =>
      rw [advance] at h
      split at h
      · next hzero => exact ⟨[], c :: rest, rfl, hzero⟩
      · split at h
        · simp at h
        · next hinside =>
            obtain ⟨pre, post, rfl, hsize⟩ := ih h
            refine ⟨c :: pre, post, rfl, ?_⟩
            rw [byteLength_cons, ← hsize]
            omega

/-- In a text that is not too long, all positions are numbers of 32 bits. -/
theorem fits_of_positionAt {text : List Char} (hsize : byteLength text < UInt32.size) {offset : Nat} {p : Position}
    (hp : positionAt text offset = some p) : p.Fits := by
  obtain ⟨pre, post, rfl, rfl⟩ := Position.isCut_of_advance hp
  rw [positionAt_byteLength] at hp
  exact Option.some.inj hp ▸ Position.fits_behind hsize

/-- The bytes of a text are those of its characters. -/
theorem byteLength_toList (text : String) : byteLength text.toList = text.utf8ByteSize := by
  suffices h : ∀ cs : List Char, byteLength cs = (String.ofList cs).utf8ByteSize by
    rw [h, String.ofList_toList]
  intro cs
  induction cs with
  | nil => rfl
  | cons c cs ih =>
      rw [byteLength_cons, ih, ← String.utf8ByteSize_singleton, String.singleton_eq_ofList,
        ← String.utf8ByteSize_append, ← String.ofList_append]
      rfl

/-- **A cut of a text** is a boundary of its characters in UTF-8. -/
theorem isCut_iff_isValid (text : String) (offset : Nat) :
    IsCut text.toList offset ↔ (⟨offset⟩ : String.Pos.Raw).IsValid text := by
  rw [String.Pos.Raw.isValid_iff_exists_append]
  constructor
  · rintro ⟨pre, post, htext, rfl⟩
    refine ⟨String.ofList pre, String.ofList post, ?_, ?_⟩
    · rw [← String.ofList_append, ← htext, String.ofList_toList]
    · rw [String.Pos.Raw.ext_iff, String.byteIdx_rawEndPos, ← byteLength_toList, String.toList_ofList]
  · rintro ⟨pre, post, rfl, hoffset⟩
    refine ⟨pre.toList, post.toList, String.toList_append, ?_⟩
    rw [byteLength_toList, ← String.byteIdx_rawEndPos, ← hoffset]

/-! ## the main statement -/

/-- **The position of an offset is the one that the table of lines gives.**  Exactly the offsets up to the
end of the text that are boundaries of characters have a position.  Its line is the number of the line ends
of the whole text that are over at the offset; its column is the number of code units between the last of
them and the offset, without a `\r` right before the offset whose `\n` is right behind it.  In a text of
less than 2³² bytes no line and no column that a walk passes needs more than 32 bits. -/
theorem positionAt_eq_tableAt (text : String) (hsize : text.utf8ByteSize < UInt32.size) (offset : Nat) :
    (∀ p, positionAt text.toList offset = some p ↔
      (offset ≤ text.utf8ByteSize ∧ (⟨offset⟩ : String.Pos.Raw).IsValid text) ∧
        p = tableAt text.toList offset) ∧
    ∀ passed p, positionAt text.toList passed = some p → p.Fits := by
  constructor
  · intro p
    rw [← isCut_iff_isValid]
    constructor
    · intro hp
      have hcut := Position.isCut_of_advance hp
      obtain ⟨pre, post, htext, rfl⟩ := id hcut
      refine ⟨⟨?_, hcut⟩, ?_⟩
      · rw [← byteLength_toList, htext, byteLength_append]
        exact Nat.le_add_right _ _
      · rw [htext, positionAt_byteLength] at hp
        rw [htext, tableAt_byteLength, Option.some.inj hp]
    · rintro ⟨⟨-, pre, post, htext, rfl⟩, rfl⟩
      rw [htext, positionAt_byteLength, tableAt_byteLength]
  · rw [← byteLength_toList] at hsize
    exact fun passed p => fits_of_positionAt hsize

/-- An offset inside a `\r\n` that follows a `\r` and a character of two code units. -/
theorem positionAt_inside_line_end :
    let text := "😀\r😀\r\nx"
    text.utf8ByteSize < UInt32.size ∧ (⟨10⟩ : String.Pos.Raw).IsValid text ∧
      tableAt text.toList 10 = ⟨1, 2⟩ ∧ positionAt text.toList 10 = some ⟨1, 2⟩ ∧
      (Position.mk 1 2).Fits := by
  intro text
  have hsize : text.utf8ByteSize < UInt32.size := by decide
  have hvalid : (⟨10⟩ : String.Pos.Raw).IsValid text :=
    (isCut_iff_isValid text 10).mp ⟨"😀\r😀\r".toList, "\nx".toList, by decide, by decide⟩
  have htable : tableAt text.toList 10 = ⟨1, 2⟩ := by decide
  obtain ⟨hposition, hfits⟩ := positionAt_eq_tableAt text hsize 10
  have hp := (hposition ⟨1, 2⟩).mpr ⟨⟨by decide, hvalid⟩, htable.symm⟩
  exact ⟨hsize, hvalid, htable, hp, hfits 10 _ hp⟩

end LintServer
