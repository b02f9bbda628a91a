import Mathlib.Data.List.Induction
import Mathlib.Data.List.Nodup
import LintServer.Proofs.Delivery

/-!
# Diagnostics that repeat

Of equal findings only the first one stays, but findings have offsets and diagnostics have positions.
The offsets before and behind the `\r` of a `\r\n` are two, and their position is one.  So findings that
differ may be told to the editor in the same words:

* `positionAt_eq_iff` — a `\r\n` is the only way for two cuts of a text to share a position;
* `Finding.toDiagnostic?_eq_iff` — findings are told in the same words if they look alike;
* `Config.nodup_check` — no finding is reported twice;
* `Config.eq_of_span_eq` — and what is reported of a span does not depend on the rule that found it.

The main statements are `Config.spans_reported_once` and `Settings.lint_repeats_iff`.
-/

namespace LintServer

open Regex

/-! ## offsets that share a position -/

/-- Two offsets are equal, or they are the two sides of the `\r` of a `\r\n`. -/
def SamePlace (text : List Char) (a b : Nat) : Prop :=
  a = b ∨ Span.IsHalfLineEnd ⟨a, b⟩ text ∨ Span.IsHalfLineEnd ⟨b, a⟩ text

/-- An offset cuts a text between two characters, or at one of its ends. -/
def IsCut (text : List Char) (offset : Nat) : Prop :=
  ∃ pre post, text = pre ++ post ∧ offset = byteLength pre

namespace Span

variable {s : Span} {text pre word post : List Char}

theorem Cuts.isCut_start (h : s.Cuts text pre word post) : IsCut text s.start :=
  ⟨pre, word ++ post, h.text_eq, h.start_eq⟩

theorem Cuts.isCut_stop (h : s.Cuts text pre word post) : IsCut text s.stop :=
  ⟨pre ++ word, post, by rw [h.text_eq, List.append_assoc], by rw [h.stop_eq, byteLength_append]⟩

/-- Both sides of the `\r` of a `\r\n` are at one position. -/
theorem IsHalfLineEnd.positionAt_eq (h : s.IsHalfLineEnd text) :
    positionAt text s.start = positionAt text s.stop := by
  obtain ⟨pre, post, hcuts⟩ := id h
  exact (hcuts.positionAt_start_eq_stop_iff (List.cons_ne_nil _ _)).mpr h

/-- A `\r` that is covered so is followed by its `\n`. -/
theorem IsHalfLineEnd.exists_crlf (h : s.IsHalfLineEnd text) : ['\r', '\n'] <:+: text := by
  obtain ⟨pre, post, hcuts⟩ := h
  exact ⟨pre, post, by simp [hcuts.text_eq]⟩

/-- A span whose ends are at one position is empty, or it covers the `\r` of a `\r\n`. -/
theorem Cuts.eq_or_isHalfLineEnd (h : s.Cuts text pre word post)
    (heq : positionAt text s.start = positionAt text s.stop) :
    s.start = s.stop ∨ s.IsHalfLineEnd text := by
  cases word with
  | nil =>
      left
      rw [h.start_eq, h.stop_eq]
      rfl
  | cons c word => exact .inr ((h.positionAt_start_eq_stop_iff (List.cons_ne_nil c word)).mp heq)

end Span

/-- **Two cuts of a text** have a word between them, of which the earlier one is the start. -/
theorem IsCut.exists_cuts {text : List Char} {a b : Nat} (ha : IsCut text a) (hb : IsCut text b) (hab : a ≤ b) :
    ∃ pre word post, Span.Cuts ⟨a, b⟩ text pre word post := by
  obtain ⟨pre, post, htext, rfl⟩ := ha
  obtain ⟨pre', post', htext', rfl⟩ := hb
  have hcut := List.append_eq_append_iff.mp (htext.symm.trans htext')
  rcases hcut with ⟨word, hpre, hpost⟩ | ⟨word, hpre, hpost⟩
  · exact ⟨pre, word, post', by rw [htext, hpost], rfl, by rw [hpre, byteLength_append]⟩
  · -- the cut that comes first is not before the other, so nothing is between them
    have hword : word = [] := by
      cases word with
      | nil => rfl
      | cons c word =>
          have := c.utf8Size_pos
          rw [hpre, byteLength_append, byteLength_cons] at hab
          omega
    subst hword
    exact ⟨pre, [], post, htext, rfl, by rw [hpre, List.append_nil]; rfl⟩

/-- **Two cuts of a text are at one position** if they are equal or a `\r\n` makes them so, and else not. -/
theorem positionAt_eq_iff {text : List Char} {a b : Nat} (ha : IsCut text a) (hb : IsCut text b) :
    positionAt text a = positionAt text b ↔ SamePlace text a b := by
  constructor
  · intro heq
    rcases Nat.le_total a b with hab | hba
    · obtain ⟨pre, word, post, hcuts⟩ := ha.exists_cuts hb hab
      exact (hcuts.eq_or_isHalfLineEnd heq).imp_right .inl
    · obtain ⟨pre, word, post, hcuts⟩ := hb.exists_cuts ha hba
      exact (hcuts.eq_or_isHalfLineEnd heq.symm).imp Eq.symm .inr
  · rintro (rfl | hhalf | hhalf)
    · rfl
    · exact hhalf.positionAt_eq
    · exact hhalf.positionAt_eq.symm

/-- Without a `\r\n`, only an offset is at its own position. -/
theorem SamePlace.eq_of_no_crlf {text : List Char} {a b : Nat} (h : SamePlace text a b)
    (htext : ¬ ['\r', '\n'] <:+: text) : a = b := by
  rcases h with heq | hhalf | hhalf
  · exact heq
  · exact absurd hhalf.exists_crlf htext
  · exact absurd hhalf.exists_crlf htext

/-! ## findings that look alike -/

/-- **Two findings look alike** to an editor: they say the same, and start and stop at the same places. -/
structure Finding.LooksLike (text : List Char) (f g : Finding) : Prop where
  message_eq : f.message = g.message
  severity_eq : f.severity = g.severity
  start : SamePlace text f.span.start g.span.start
  stop : SamePlace text f.span.stop g.span.stop

/-- Without a `\r\n`, findings that look alike are equal. -/
theorem Finding.LooksLike.eq_of_no_crlf {text : List Char} {f g : Finding} (h : f.LooksLike text g)
    (htext : ¬ ['\r', '\n'] <:+: text) : f = g := by
  obtain ⟨⟨start, stop⟩, message, severity⟩ := f
  obtain ⟨⟨start', stop'⟩, message', severity'⟩ := g
  obtain ⟨hmessage, hseverity, hstart, hstop⟩ := h
  rw [Finding.mk.injEq, Span.mk.injEq]
  exact ⟨⟨hstart.eq_of_no_crlf htext, hstop.eq_of_no_crlf htext⟩, hmessage, hseverity⟩

/-- A finding starts and stops at cuts of the text. -/
def Finding.IsPlaced (text : List Char) (f : Finding) : Prop :=
  IsCut text f.span.start ∧ IsCut text f.span.stop

/-- **Every finding of a check is placed.** -/
theorem Config.isPlaced_of_mem_check {c : Config} {limit : Nat} {text : List Char} {f : Finding}
    (h : f ∈ c.check limit text) : f.IsPlaced text := by
  obtain ⟨pre, word, post, hcuts, -⟩ := exists_cuts_of_mem_check h
  exact ⟨hcuts.isCut_start, hcuts.isCut_stop⟩

/-- A cut has a position. -/
theorem IsCut.exists_positionAt {text : List Char} {offset : Nat} (h : IsCut text offset) :
    ∃ p, positionAt text offset = some p := by
  obtain ⟨pre, post, rfl, rfl⟩ := h
  exact ⟨_, positionAt_byteLength pre post⟩

theorem Finding.toDiagnostic?_of_positionAt {text : List Char} {f : Finding} {start stop : Position}
    (hstart : positionAt text f.span.start = some start)
    (hstop : positionAt text f.span.stop = some stop) (uri : Uri) (related : Bool) :
    f.toDiagnostic? text uri related =
      some ⟨⟨start, stop⟩, f.severity, f.message,
        if related then [⟨uri, ⟨start, stop⟩, f.message⟩] else []⟩ := by
  rw [toDiagnostic?, rangeBetween, hstart, hstop]
  rfl

/-- A finding that is placed is told to the editor. -/
theorem Finding.IsPlaced.exists_toDiagnostic? {text : List Char} {f : Finding} (h : f.IsPlaced text)
    (uri : Uri) (related : Bool) : ∃ d, f.toDiagnostic? text uri related = some d := by
  obtain ⟨start, hstart⟩ := h.1.exists_positionAt
  obtain ⟨stop, hstop⟩ := h.2.exists_positionAt
  exact ⟨_, toDiagnostic?_of_positionAt hstart hstop uri related⟩

/-- **Findings that look alike are told in the same words**, and others are not. -/
theorem Finding.toDiagnostic?_eq_iff {text : List Char} {f g : Finding} (hf : f.IsPlaced text)
    (hg : g.IsPlaced text) (uri : Uri) (related : Bool) :
    f.toDiagnostic? text uri related = g.toDiagnostic? text uri related ↔ f.LooksLike text g := by
  have hplaces : f.LooksLike text g ↔ f.message = g.message ∧ f.severity = g.severity ∧
      positionAt text f.span.start = positionAt text g.span.start ∧
      positionAt text f.span.stop = positionAt text g.span.stop := by
    rw [positionAt_eq_iff hf.1 hg.1, positionAt_eq_iff hf.2 hg.2]
    exact ⟨fun h => ⟨h.1, h.2, h.3, h.4⟩, fun h => ⟨h.1, h.2.1, h.2.2.1, h.2.2.2⟩⟩
  obtain ⟨start, hstart⟩ := hf.1.exists_positionAt
  obtain ⟨stop, hstop⟩ := hf.2.exists_positionAt
  obtain ⟨start', hstart'⟩ := hg.1.exists_positionAt
  obtain ⟨stop', hstop'⟩ := hg.2.exists_positionAt
  rw [hplaces, toDiagnostic?_of_positionAt hstart hstop, toDiagnostic?_of_positionAt hstart' hstop',
    hstart, hstop, hstart', hstop']
  simp only [Option.some.injEq, Diagnostic.mk.injEq, PositionRange.mk.injEq]
  constructor
  · rintro ⟨⟨hs, he⟩, hseverity, hmessage, -⟩
    exact ⟨hmessage, hseverity, hs, he⟩
  · rintro ⟨hmessage, hseverity, rfl, rfl⟩
    exact ⟨⟨rfl, rfl⟩, hseverity, hmessage, by rw [hmessage]⟩

/-! ## findings that are kept -/

theorem nodup_eraseDups {α : Type} [BEq α] [LawfulBEq α] (xs : List α) : xs.eraseDups.Nodup := by
  induction xs using List.reverseRecOn with
  | nil => exact .nil
  | append_singleton xs x ih =>
      rw [eraseDups_concat]
      split
      · exact ih
      · next hx =>
          have hnew : x ∉ xs.eraseDups := by simpa using hx
          exact ih.append (List.nodup_singleton x) (by simpa using hnew)

/-- **No finding is reported twice.** -/
theorem Config.nodup_check (c : Config) (limit : Nat) (text : List Char) :
    (c.check limit text).Nodup := by
  rw [Config.check, checkCompiled_eq_take]
  exact (nodup_eraseDups _).take

/-- **A span tells the finding**: it is reported by the first rule that accepts its text, whichever rule
found it. -/
theorem Config.eq_of_span_eq {c : Config} {limit : Nat} {text : List Char} {f g : Finding}
    (hf : f ∈ c.check limit text) (hg : g ∈ c.check limit text) (h : f.span = g.span) : f = g := by
  obtain ⟨_, -, -, hreport⟩ := exists_rule_of_mem_checkCompiled hf
  obtain ⟨_, -, -, hreport'⟩ := exists_rule_of_mem_checkCompiled hg
  rw [h, hreport'] at hreport
  exact (Option.some.inj hreport).symm

/-- **No span is reported twice**, whichever rules find it and whatever messages and severities they have:
although only equal findings are left out, all findings of a check have spans of their own. -/
theorem Config.spans_reported_once (c : Config) (limit : Nat) (text : List Char) :
    ((c.check limit text).map Finding.span).Nodup := by
  have hspan : ∀ f ∈ c.check limit text, ∀ g ∈ c.check limit text, f.span = g.span → f = g :=
    fun f hf g hg => eq_of_span_eq hf hg
  exact (c.nodup_check limit text).map_on hspan

/-- What every element of a list is mapped to, at its place. -/
theorem getElem?_filterMap_of_forall {α β : Type} {g : α → Option β} {xs : List α}
    (h : ∀ x ∈ xs, ∃ y, g x = some y) (i : Nat) : (xs.filterMap g)[i]? = xs[i]?.bind g := by
  induction xs generalizing i with
  | nil => rfl
  | cons x xs ih =>
      rw [List.forall_mem_cons] at h
      obtain ⟨⟨y, hy⟩, hrest⟩ := h
      rw [List.filterMap_cons_some hy]
      cases i with
      | zero => simp [hy]
      | succ i => simpa using ih hrest i

/-! ## the main statement -/

/-- **What an editor is told twice.**  A pass sends one diagnostic for each finding, no two findings are
equal, and two diagnostics are equal exactly if their findings look alike.  So without a `\r\n` in the text
all diagnostics differ.  An editor is told positions as numbers of 32 bits, which is enough for a text that
is not longer. -/
theorem Settings.lint_repeats_iff (s : Settings) (d : Disk) (folder : Option Path) (uri : Uri)
    (text : String) (o : PassOptions) :
    let found := (s.resolve d folder uri).1.check o.limit text.toList
    let sent := (s.lint d folder uri text o).1.diagnostics
    sent.length = found.length ∧ found.Nodup ∧
    (∀ (i j : Nat) (f g : Finding), found[i]? = some f → found[j]? = some g →
      (sent[i]? = sent[j]? ↔ f.LooksLike text.toList g)) ∧
    (¬ ['\r', '\n'] <:+: text.toList → sent.Nodup) ∧
    (byteLength text.toList < UInt32.size → ∀ x ∈ sent, x.range.start.Fits ∧ x.range.stop.Fits) := by
  intro found sent
  have hplaced : ∀ f ∈ found, f.IsPlaced text.toList := fun f hf => Config.isPlaced_of_mem_check hf
  have hsent : ∀ f ∈ found, ∃ x, f.toDiagnostic? text.toList uri o.related = some x := fun f hf =>
    (hplaced f hf).exists_toDiagnostic? uri o.related
  have hat (i : Nat) : sent[i]? = found[i]?.bind (Finding.toDiagnostic? text.toList uri o.related) :=
    getElem?_filterMap_of_forall hsent i
  have hlength : sent.length = found.length :=
    List.filterMap_length_eq_length.mpr fun f hf => Option.isSome_iff_exists.mpr (hsent f hf)
  have hfound : found.Nodup := Config.nodup_check ..
  have hrepeat : ∀ (i j : Nat) (f g : Finding), found[i]? = some f → found[j]? = some g →
      (sent[i]? = sent[j]? ↔ f.LooksLike text.toList g) := by
    intro i j f g hf hg
    rw [hat, hat, hf, hg]
    exact Finding.toDiagnostic?_eq_iff (hplaced f (List.mem_of_getElem? hf))
      (hplaced g (List.mem_of_getElem? hg)) uri o.related
  refine ⟨hlength, hfound, hrepeat, ?_, ?_⟩
  · intro hcrlf
    rw [List.nodup_iff_getElem?_ne_getElem?] at hfound ⊢
    intro i j hij hj heq
    rw [hlength] at hj
    have hi := List.getElem?_eq_getElem (Nat.lt_trans hij hj)
    have hlike := (hrepeat i j _ _ hi (List.getElem?_eq_getElem hj)).mp heq
    apply hfound i j hij hj
    rw [hi, hlike.eq_of_no_crlf hcrlf, List.getElem?_eq_getElem hj]
  · intro hsize x hx
    obtain ⟨f, hf, hfx⟩ := List.mem_filterMap.mp hx
    obtain ⟨pre, word, post, hcuts, hne⟩ := Config.exists_cuts_of_mem_check hf
    obtain ⟨y, hfy, hconveyed⟩ := Finding.exists_conveyed hcuts hne hsize uri o.related
    obtain rfl : y = x := Option.some.inj (hfy.symm.trans hfx)
    exact hconveyed.fits

/-- One rule finds what is before the `\r` of a `\r\n`, and another one that with the `\r`: both findings
are told in the same words. -/
theorem Settings.lint_repeats_before_line_end :
    let uri : Uri := ⟨"file", some {}, .segments ["ws", "f"], none, none⟩
    let rules := "extends_base = false\n[[lints]]\ntest = 'a'\n[[lints]]\ntest = 'a\\r'\n"
    let ws : Entry := .folder [(configFileName.toUTF8.toList, .file rules.toUTF8.toList)]
    let told : Diagnostic := ⟨⟨⟨0, 0⟩, ⟨0, 1⟩⟩, .error, "Unexpected Item", []⟩
    (({} : Settings).lint { root := [("ws".toUTF8.toList, ws)] } (some (.ofString "/ws")) uri "a\r\n" {}).1 =
      ⟨uri, [told, told]⟩ := by
  decide +kernel

end LintServer
