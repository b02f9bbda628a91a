import LintServer.Lint.Finding
import LintServer.Proofs.Search

/-!
# Matches as parts of a text

A search speaks of places and a finding of byte offsets.  Here both become a text that is cut into what
stands before a match, the match, and what stands behind it:

* `Regex.mem_spans` — every span that is reported cuts the text in this way, at places between which
  the program completes a match;
* `Span.slice_of_cuts` — the text of the match is then what lies between the cuts;
* `Expr.Words` — what an expression without assertions matches does not depend on what is around it
  (`Expr.matches_iff_words`).

The main statements for compiled patterns are `mem_spans_ofExpr` and `isMatch_ofExpr_iff`.
-/

namespace LintServer

namespace Regex

/-! ## byte offsets -/

theorem foldl_utf8Size (n : Nat) (cs : List Char) :
    cs.foldl (fun n c => n + c.utf8Size) n = n + byteLength cs := by
  induction cs generalizing n with
  | nil => rfl
  | cons c cs ih =>
      rw [byteLength, List.foldl_cons, List.foldl_cons, ih, ih (0 + c.utf8Size)]
      omega

@[simp] theorem byteLength_nil : byteLength [] = 0 := rfl

@[simp] theorem byteLength_cons (c : Char) (cs : List Char) :
    byteLength (c :: cs) = c.utf8Size + byteLength cs := by
  rw [byteLength, List.foldl_cons, foldl_utf8Size, Nat.zero_add]

@[simp] theorem byteLength_append (cs ds : List Char) :
    byteLength (cs ++ ds) = byteLength cs + byteLength ds := by
  rw [byteLength, List.foldl_append, foldl_utf8Size, foldl_utf8Size, Nat.zero_add]

end Regex

open Regex

/-- Behind its first bytes a text is what follows them. -/
theorem dropBytes_append (pre post : List Char) : dropBytes (byteLength pre) (pre ++ post) = post := by
  induction pre with
  | nil => cases post <;> simp [dropBytes]
  | cons c pre ih =>
      have hpos : c.utf8Size + byteLength pre ≠ 0 := by
        have := c.utf8Size_pos
        omega
      rw [byteLength_cons, List.cons_append, dropBytes, if_neg hpos, Nat.add_sub_cancel_left, ih]

/-- The first bytes of a text. -/
theorem takeBytes_append (word post : List Char) :
    takeBytes (byteLength word) (word ++ post) = word := by
  induction word with
  | nil => cases post <;> simp [takeBytes]
  | cons c word ih =>
      have hpos : c.utf8Size + byteLength word ≠ 0 := by
        have := c.utf8Size_pos
        omega
      rw [byteLength_cons, List.cons_append, takeBytes, if_neg hpos, Nat.add_sub_cancel_left, ih]

/-- A span cuts a text into what is before it, what it covers and what is behind it. -/
structure Span.Cuts (s : Span) (text pre word post : List Char) : Prop where
  text_eq : text = pre ++ (word ++ post)
  start_eq : s.start = byteLength pre
  stop_eq : s.stop = byteLength pre + byteLength word

/-- The part of the text that a span covers is what lies between the cuts. -/
theorem Span.slice_of_cuts {s : Span} {text pre word post : List Char} (h : s.Cuts text pre word post) :
    s.slice text = word := by
  rw [slice, h.start_eq, h.stop_eq, Nat.add_sub_cancel_left, h.text_eq, dropBytes_append,
    takeBytes_append]

namespace Regex

/-! ## places in a text -/

/-- The place between two parts of a text. -/
def Cursor.between (pre post : List Char) : Cursor := ⟨pre.getLast?, post⟩

@[simp] theorem Cursor.rest_between (pre post : List Char) : (Cursor.between pre post).rest = post := rfl

/-- Over a word. -/
theorem Cursor.advance_between (pre word post : List Char) :
    (Cursor.between pre (word ++ post)).advance word.length = Cursor.between (pre ++ word) post := by
  induction word generalizing pre with
  | nil => simp
  | cons c word ih =>
      have hnext : (Cursor.between pre (c :: (word ++ post))).next =
          Cursor.between (pre ++ [c]) (word ++ post) := by simp [between]
      rw [List.cons_append, List.length_cons, advance, hnext, ih, List.append_assoc]
      rfl

/-- A place in a text, by the number of characters before it. -/
theorem Cursor.advance_between_eq {pre rest : List Char} {k : Nat} (h : k ≤ rest.length) :
    (Cursor.between pre rest).advance k = Cursor.between (pre ++ rest.take k) (rest.drop k) := by
  have hadvance := advance_between pre (rest.take k) (rest.drop k)
  rwa [List.take_append_drop, List.length_take, Nat.min_eq_left h] at hadvance

/-! ## spans -/

/-- **Every span that is reported** from a place on cuts the text at two places between which the
program completes a match. -/
theorem mem_spansFrom {p : Program} {fuel : Nat} {pre rest : List Char} {fresh : Bool} {s : Span}
    (h : s ∈ spansFrom p fuel (Cursor.between pre rest) (byteLength pre) fresh) :
    ∃ before word post, s.Cuts (pre ++ rest) before word post ∧
      ∃ n, Completes p.code n p.start (Cursor.between before (word ++ post))
        (Cursor.between (before ++ word) post) := by
  induction fuel generalizing pre rest fresh with
  | zero => simp [spansFrom] at h
  | succ fuel ih =>
      rw [spansFrom] at h
      cases hfind : p.find? (Cursor.between pre rest) with
      | none => simp [hfind] at h
      | some m =>
          obtain ⟨hle, n, hn⟩ := Program.completes_of_find? hfind
          rw [Cursor.rest_between] at hle
          -- the match and what is before and behind it
          obtain ⟨skipped, word, post, hrest, hskipped, hword⟩ :
              ∃ skipped word post, rest = skipped ++ (word ++ post) ∧ skipped.length = m.skipped ∧
                word.length = m.length :=
            ⟨rest.take m.skipped, (rest.drop m.skipped).take m.length,
              (rest.drop m.skipped).drop m.length, by simp, by simp; omega, by simp; omega⟩
          subst hrest
          have htail : (skipped ++ (word ++ post)).drop m.skipped = word ++ post := by
            rw [← hskipped, List.drop_left]
          have hfirst : (skipped ++ (word ++ post)).take m.skipped = skipped := by
            rw [← hskipped, List.take_left]
          have hmatch : (word ++ post).take m.length = word := by rw [← hword, List.take_left]
          have hstart : (Cursor.between pre (skipped ++ (word ++ post))).advance m.skipped =
              Cursor.between (pre ++ skipped) (word ++ post) := by
            rw [← hskipped, Cursor.advance_between]
          have hstop : (Cursor.between pre (skipped ++ (word ++ post))).advance
              (m.skipped + m.length) = Cursor.between (pre ++ skipped ++ word) post := by
            rw [Cursor.advance_add, hstart, ← hword, Cursor.advance_between]
          simp only [hfind, Cursor.rest_between, hfirst, htail, hmatch, hstop] at h
          split at h
          · -- an empty match right behind the last one: the search goes on one character later
            cases hc : skipped ++ (word ++ post) with
            | nil => simp [hc] at h
            | cons c cs =>
                have hnext : (Cursor.between pre (c :: cs)).next = Cursor.between (pre ++ [c]) cs := by
                  simp [Cursor.between]
                have hoffset : byteLength pre + c.utf8Size = byteLength (pre ++ [c]) := by simp
                simp only [hc, hnext, hoffset] at h
                have hlater := ih h
                rwa [List.append_assoc] at hlater
          · rcases List.mem_cons.mp h with rfl | h
            · refine ⟨pre ++ skipped, word, post, ⟨by simp, by simp, by simp⟩, n, ?_⟩
              rw [hstart, hstop] at hn
              exact hn
            · have hoffset : byteLength pre + byteLength skipped + byteLength word =
                  byteLength (pre ++ skipped ++ word) := by
                rw [byteLength_append, byteLength_append]
              rw [hoffset] at h
              have hlater := ih h
              rwa [List.append_assoc, List.append_assoc] at hlater

/-- **Every span that is reported** cuts the text at two places between which the program completes a
match. -/
theorem mem_spans {r : Regex} {text : List Char} {s : Span} (h : s ∈ r.spans text) :
    ∃ pre word post, s.Cuts text pre word post ∧
      ∃ n, Completes r.program.code n r.program.start (Cursor.between pre (word ++ post))
        (Cursor.between (pre ++ word) post) := by
  have hstart : s ∈ spansFrom r.program (2 * text.length + 2) (Cursor.between [] text)
      (byteLength []) true := h
  exact mem_spansFrom hstart

/-! ## words -/

/-- A word leads from a place to another. -/
def Cursor.Spells (a z : Cursor) (w : List Char) : Prop :=
  a.rest = w ++ z.rest ∧ z.before = w.getLast?.or a.before

/-- The empty word stays at its place. -/
theorem Cursor.spells_nil_iff {a z : Cursor} : a.Spells z [] ↔ z = a := by
  obtain ⟨before, rest⟩ := a
  obtain ⟨before', rest'⟩ := z
  simp only [Spells, List.nil_append, List.getLast?_nil, Option.none_or, Cursor.mk.injEq]
  exact ⟨fun h => ⟨h.2, h.1.symm⟩, fun h => ⟨h.2.symm, h.1⟩⟩

/-- A word after a word. -/
theorem Cursor.Spells.append {a b z : Cursor} {u v : List Char} (h : a.Spells b u)
    (h' : b.Spells z v) : a.Spells z (u ++ v) := by
  refine ⟨by rw [h.1, h'.1, List.append_assoc], ?_⟩
  rw [h'.2, h.2, List.getLast?_append, Option.or_assoc]

/-- A word that is put together leads over a place between. -/
theorem Cursor.Spells.split {a z : Cursor} {u v : List Char} (h : a.Spells z (u ++ v)) :
    ∃ b : Cursor, a.Spells b u ∧ b.Spells z v := by
  refine ⟨⟨u.getLast?.or a.before, v ++ z.rest⟩, ⟨by rw [h.1, List.append_assoc], rfl⟩, rfl, ?_⟩
  rw [h.2, List.getLast?_append, Option.or_assoc]

/-- The word between two places of a text. -/
theorem Cursor.spells_between (pre word post : List Char) :
    (Cursor.between pre (word ++ post)).Spells (Cursor.between (pre ++ word) post) word :=
  ⟨rfl, by simp only [between, List.getLast?_append]⟩

/-- There is one word between two places. -/
theorem Cursor.Spells.eq {a z : Cursor} {u v : List Char} (h : a.Spells z u) (h' : a.Spells z v) :
    u = v := List.append_cancel_right (h.1.symm.trans h'.1)

/-- The words of an expression, seen as a set of texts: what it matches if it has no assertions. -/
def Expr.Words : Expr → List Char → Prop
  | .empty, w => w = []
  | .chars s, w => ∃ c, s.contains c = true ∧ w = [c]
  | .look _, _ => False
  | .group e, w => e.Words w
  | .cat x y, w => ∃ u v, x.Words u ∧ y.Words v ∧ w = u ++ v
  | .alt x y, w => x.Words w ∨ y.Words w
  | .rep least most _ e, w =>
    ∃ ws : List (List Char), least ≤ ws.length ∧ (∀ m, most = some m → ws.length ≤ max least m) ∧
      (∀ u ∈ ws, e.Words u) ∧ w = ws.flatten

/-- Whether an expression has no assertions. -/
def Expr.isPlain : Expr → Bool
  | .empty | .chars _ => true
  | .look _ => false
  | .group e | .rep _ _ _ e => e.isPlain
  | .cat x y | .alt x y => x.isPlain && y.isPlain

/-- Copies of an expression that matches words match the words put together. -/
theorem copies_iff_words {R : Cursor → Cursor → Prop} {W : List Char → Prop}
    (h : ∀ a z, R a z ↔ ∃ w, a.Spells z w ∧ W w) (n : Nat) (a z : Cursor) :
    Copies R n a z ↔
      ∃ ws : List (List Char), ws.length = n ∧ (∀ u ∈ ws, W u) ∧ a.Spells z ws.flatten := by
  induction n generalizing a with
  | zero =>
      constructor
      · intro hz
        exact ⟨[], rfl, by simp, Cursor.spells_nil_iff.mpr hz⟩
      · rintro ⟨ws, hlen, -, hspells⟩
        rw [List.length_eq_zero_iff] at hlen
        subst hlen
        exact Cursor.spells_nil_iff.mp hspells
  | succ n ih =>
      constructor
      · rintro ⟨b, hab, hbz⟩
        obtain ⟨w, haw, hw⟩ := (h a b).mp hab
        obtain ⟨ws, hlen, hws, hspells⟩ := (ih b).mp hbz
        refine ⟨w :: ws, by rw [List.length_cons, hlen], ?_, haw.append hspells⟩
        rw [List.forall_mem_cons]
        exact ⟨hw, hws⟩
      · rintro ⟨ws, hlen, hws, hspells⟩
        cases ws with
        | nil => simp at hlen
        | cons w ws =>
            rw [List.forall_mem_cons] at hws
            obtain ⟨b, hab, hbz⟩ := hspells.split
            exact ⟨b, (h a b).mpr ⟨w, hab, hws.1⟩,
              (ih b).mpr ⟨ws, Nat.succ.inj hlen, hws.2, hbz⟩⟩

/-- **An expression without assertions** matches its words, wherever they stand. -/
theorem Expr.matches_iff_words {e : Expr} (he : e.isPlain = true) (a z : Cursor) :
    e.Matches a z ↔ ∃ w, a.Spells z w ∧ e.Words w := by
  induction e generalizing a z with
  | empty =>
      constructor
      · intro h
        exact ⟨[], Cursor.spells_nil_iff.mpr h, rfl⟩
      · rintro ⟨w, hw, rfl⟩
        exact Cursor.spells_nil_iff.mp hw
  | chars s =>
      constructor
      · rintro ⟨c, cs, hrest, hc, rfl⟩
        exact ⟨[c], ⟨hrest, by simp⟩, c, hc, rfl⟩
      · rintro ⟨w, ⟨hrest, hbefore⟩, c, hc, rfl⟩
        refine ⟨c, z.rest, hrest, hc, ?_⟩
        rw [List.getLast?_singleton, Option.some_or] at hbefore
        rw [← hbefore]
  | look t => exact absurd he (by simp [isPlain])
  | group e ih => exact ih he a z
  | cat x y ihx ihy =>
      obtain ⟨hx, hy⟩ := Bool.and_eq_true_iff.mp he
      constructor
      · rintro ⟨b, hab, hbz⟩
        obtain ⟨u, hau, hu⟩ := (ihx hx a b).mp hab
        obtain ⟨v, hbv, hv⟩ := (ihy hy b z).mp hbz
        exact ⟨u ++ v, hau.append hbv, u, v, hu, hv, rfl⟩
      · rintro ⟨w, hw, u, v, hu, hv, rfl⟩
        obtain ⟨b, hab, hbz⟩ := hw.split
        exact ⟨b, (ihx hx a b).mpr ⟨u, hab, hu⟩, (ihy hy b z).mpr ⟨v, hbz, hv⟩⟩
  | alt x y ihx ihy =>
      obtain ⟨hx, hy⟩ := Bool.and_eq_true_iff.mp he
      constructor
      · rintro (h | h)
        · obtain ⟨w, hw, hx⟩ := (ihx hx a z).mp h
          exact ⟨w, hw, .inl hx⟩
        · obtain ⟨w, hw, hy⟩ := (ihy hy a z).mp h
          exact ⟨w, hw, .inr hy⟩
      · rintro ⟨w, hw, h | h⟩
        · exact .inl ((ihx hx a z).mpr ⟨w, hw, h⟩)
        · exact .inr ((ihy hy a z).mpr ⟨w, hw, h⟩)
  | rep least most greedy e ih =>
      constructor
      · rintro ⟨n, hleast, hmost, hcopies⟩
        obtain ⟨ws, rfl, hws, hspells⟩ := (copies_iff_words (ih he) n a z).mp hcopies
        exact ⟨ws.flatten, hspells, ws, hleast, hmost, hws, rfl⟩
      · rintro ⟨w, hw, ws, hleast, hmost, hws, rfl⟩
        exact ⟨ws.length, hleast, hmost, (copies_iff_words (ih he) _ a z).mpr ⟨ws, rfl, hws, hw⟩⟩

/-- The words of a repetition of one character. -/
theorem Expr.words_rep_chars_iff {least : Nat} {most : Option Nat} {greedy : Bool}
    {s : Unicode.CharSet} {w : List Char} :
    (Expr.rep least most greedy (.chars s)).Words w ↔
      least ≤ w.length ∧ (∀ m, most = some m → w.length ≤ max least m) ∧
        ∀ c ∈ w, s.contains c = true := by
  have hsingle (ws : List (List Char)) (hws : ∀ u ∈ ws, (Expr.chars s).Words u) :
      ws.flatten.length = ws.length ∧ ∀ c ∈ ws.flatten, s.contains c = true := by
    induction ws with
    | nil => simp
    | cons u ws ih =>
        rw [List.forall_mem_cons] at hws
        obtain ⟨⟨c, hc, rfl⟩, hrest⟩ := hws
        obtain ⟨hlen, hall⟩ := ih hrest
        rw [List.flatten_cons, List.singleton_append, List.forall_mem_cons]
        exact ⟨by simp [hlen], hc, hall⟩
  constructor
  · rintro ⟨ws, hleast, hmost, hws, rfl⟩
    obtain ⟨hlen, hall⟩ := hsingle ws hws
    exact ⟨hlen ▸ hleast, fun m hm => hlen ▸ hmost m hm, hall⟩
  · rintro ⟨hleast, hmost, hall⟩
    refine ⟨w.map fun c => [c], by simpa using hleast, by simpa using hmost, ?_, ?_⟩
    · intro u hu
      obtain ⟨c, hc, rfl⟩ := List.mem_map.mp hu
      exact ⟨c, hall c hc, rfl⟩
    · rw [← List.flatMap_def, List.flatMap_singleton']

/-! ## compiled patterns -/

/-- A pattern that can be compiled is run as the program of its expression. -/
theorem compile_of_readPattern {pattern : String} {e : Expr} (h : readPattern pattern = .ok e)
    (hsize : e.isTooBig = false) : compile pattern = .ok ⟨Program.ofExpr e⟩ := by
  simp [compile, h, hsize]

/-- **A pattern matches somewhere in a text** if its expression matches at some place of it. -/
theorem isMatch_ofExpr_iff (e : Expr) (text : List Char) :
    (⟨Program.ofExpr e⟩ : Regex).isMatch text = true ↔
      ∃ pre post z, text = pre ++ post ∧ e.Matches (Cursor.between pre post) z := by
  have hstart : Cursor.ofList text = Cursor.between [] text := rfl
  rw [isMatch, hstart, Program.isSome_find?_iff, Cursor.rest_between]
  constructor
  · rintro ⟨k, hk, n, z, hc⟩
    rw [Cursor.advance_between_eq hk] at hc
    exact ⟨text.take k, text.drop k, z, (List.take_append_drop k text).symm,
      (completes_ofExpr_iff e _ z).mp ⟨n, hc⟩⟩
  · rintro ⟨pre, post, z, rfl, hm⟩
    obtain ⟨n, hc⟩ := (completes_ofExpr_iff e _ z).mpr hm
    refine ⟨pre.length, by simp, n, z, ?_⟩
    rw [Cursor.advance_between, List.nil_append]
    exact hc

/-- **A span of a pattern** cuts the text at two places between which its expression matches. -/
theorem mem_spans_ofExpr {e : Expr} {text : List Char} {s : Span}
    (h : s ∈ (⟨Program.ofExpr e⟩ : Regex).spans text) :
    ∃ pre word post, s.Cuts text pre word post ∧
      e.Matches (Cursor.between pre (word ++ post)) (Cursor.between (pre ++ word) post) := by
  obtain ⟨pre, word, post, hcuts, hc⟩ := mem_spans h
  exact ⟨pre, word, post, hcuts, (completes_ofExpr_iff e _ _).mp hc⟩

/-- A pattern that is bound to the start of the text matches if a word of the rest of it starts the
text. -/
theorem isMatch_anchored_iff {e : Expr} (he : e.isPlain = true) (text : List Char) :
    (⟨Program.ofExpr (.cat (.look .textStart) e)⟩ : Regex).isMatch text = true ↔
      ∃ w post, text = w ++ post ∧ e.Words w := by
  rw [isMatch_ofExpr_iff]
  constructor
  · rintro ⟨pre, post, z, rfl, b, ⟨hstart, rfl⟩, hm⟩
    have hpre : pre = [] := by simpa [Assertion.holds, Cursor.between] using hstart
    obtain ⟨w, hw, hwords⟩ := (Expr.matches_iff_words he _ z).mp hm
    exact ⟨w, z.rest, by rw [hpre]; exact hw.1, hwords⟩
  · rintro ⟨w, post, rfl, hwords⟩
    refine ⟨[], w ++ post, Cursor.between w post, rfl, Cursor.between [] (w ++ post), ⟨rfl, rfl⟩, ?_⟩
    exact (Expr.matches_iff_words he _ _).mpr ⟨w, Cursor.spells_between [] w post, hwords⟩

end Regex

end LintServer
