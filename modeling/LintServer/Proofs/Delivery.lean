import Mathlib.Data.List.Forall2
import LintServer.Proofs.Findings
import LintServer.Proofs.Positions
import LintServer.Settings

/-!
# Findings on their way to the editor

A finding has byte offsets and a diagnostic has positions.  An offset inside a character has no
position, and a finding without positions would be left out silently.  That does not happen, for the
scan for matches and the scan for positions agree on where characters begin:

* `Config.exists_cuts_of_mem_check` — every finding covers at least one character, and whole
  characters only;
* `Finding.exists_conveyed` — so it has positions, which are in order and differ, unless it covers just the
  `\r` of a `\r\n`.

The main statement is `Config.diagnostics_convey_findings`.
-/

namespace LintServer

open Regex

/-- A span covers exactly the `\r` of a `\r\n`. -/
def Span.IsHalfLineEnd (s : Span) (text : List Char) : Prop :=
  ∃ pre post, s.Cuts text pre ['\r'] ('\n' :: post)

/-- A line and a column that are numbers of 32 bits. -/
def Position.Fits (p : Position) : Prop := p.line < UInt32.size ∧ p.column < UInt32.size

/-- **What a diagnostic tells of a finding** in the document `uri`. -/
structure Finding.Conveyed (text : List Char) (uri : Uri) (related : Bool) (f : Finding)
    (d : Diagnostic) : Prop where
  message_eq : d.message = f.message
  severity_eq : d.severity = f.severity
  start_eq : positionAt text f.span.start = some d.range.start
  stop_eq : positionAt text f.span.stop = some d.range.stop
  ordered : d.range.start.NotAfter d.range.stop
  start_eq_stop_iff : d.range.start = d.range.stop ↔ f.span.IsHalfLineEnd text
  fits : d.range.start.Fits ∧ d.range.stop.Fits
  related_eq : d.related = if related then [⟨uri, d.range, d.message⟩] else []

/-! ## where findings are -/

/-- **Every finding** covers at least one character, and whole characters only. -/
theorem Config.exists_cuts_of_mem_check {c : Config} {limit : Nat} {text : List Char} {f : Finding}
    (h : f ∈ c.check limit text) : ∃ pre word post, f.span.Cuts text pre word post ∧ word ≠ [] := by
  obtain ⟨r, -, hspan, hreport⟩ := exists_rule_of_mem_checkCompiled h
  obtain ⟨pre, word, post, hcuts, -⟩ := mem_spans hspan
  refine ⟨pre, word, post, hcuts, ?_⟩
  rintro rfl
  have hempty : f.span.isEmpty = true := by simp [Span.isEmpty, hcuts.start_eq, hcuts.stop_eq]
  simp [report?, hempty] at hreport

namespace Span.Cuts

variable {s : Span} {text pre word post : List Char}

theorem positionAt_start (h : s.Cuts text pre word post) :
    positionAt text s.start = some ((⟨0, 0⟩ : Position).behind pre (word ++ post)) := by
  rw [h.text_eq, h.start_eq, positionAt_byteLength]

/-- A span stops behind the word that it covers, seen from where it starts. -/
theorem positionAt_stop (h : s.Cuts text pre word post) :
    positionAt text s.stop =
      some (((⟨0, 0⟩ : Position).behind pre (word ++ post)).behind word post) := by
  rw [h.text_eq, h.stop_eq, ← byteLength_append, ← List.append_assoc, positionAt_byteLength,
    Position.behind_append]

/-- **A span stops at the position where it starts** only if it covers the `\r` of a `\r\n`. -/
theorem positionAt_start_eq_stop_iff (h : s.Cuts text pre word post) (hne : word ≠ []) :
    positionAt text s.start = positionAt text s.stop ↔ s.IsHalfLineEnd text := by
  constructor
  · intro heq
    rw [h.positionAt_start, h.positionAt_stop, Option.some.injEq, eq_comm,
      Position.behind_eq_self_iff] at heq
    obtain ⟨rfl, hlf⟩ := heq.resolve_left hne
    obtain ⟨tail, rfl⟩ := List.head?_eq_some_iff.mp hlf
    exact ⟨pre, tail, h⟩
  · rintro ⟨pre', tail, h'⟩
    rw [h'.positionAt_start, h'.positionAt_stop, Option.some.injEq, eq_comm,
      Position.behind_eq_self_iff]
    exact .inr ⟨rfl, rfl⟩

end Span.Cuts

/-- A cut of a text that is not too long has a position of 32 bits. -/
theorem Position.fits_behind {pre post : List Char} (h : byteLength (pre ++ post) < UInt32.size) :
    ((⟨0, 0⟩ : Position).behind pre post).Fits := by
  obtain ⟨hline, hcolumn⟩ := (⟨0, 0⟩ : Position).behind_le_byteLength pre post
  rw [byteLength_append] at h
  simp only [Nat.zero_add] at hline hcolumn
  exact ⟨by omega, by omega⟩

/-! ## what is sent of them -/

/-- **A finding that covers whole characters is conveyed.** -/
theorem Finding.exists_conveyed {f : Finding} {text pre word post : List Char}
    (h : f.span.Cuts text pre word post) (hne : word ≠ []) (hsize : byteLength text < UInt32.size)
    (uri : Uri) (related : Bool) :
    ∃ d, f.toDiagnostic? text uri related = some d ∧ f.Conveyed text uri related d := by
  have hstart := h.positionAt_start
  have hstop := h.positionAt_stop
  let start := (⟨0, 0⟩ : Position).behind pre (word ++ post)
  let range : PositionRange := ⟨start, start.behind word post⟩
  have hfits : range.start.Fits := by
    rw [h.text_eq] at hsize
    exact Position.fits_behind hsize
  have hfits' : range.stop.Fits := by
    have hstop_eq : range.stop = (⟨0, 0⟩ : Position).behind (pre ++ word) post :=
      (Position.behind_append _ pre word post).symm
    rw [h.text_eq, ← List.append_assoc] at hsize
    rw [hstop_eq]
    exact Position.fits_behind hsize
  refine ⟨⟨range, f.severity, f.message, if related then [⟨uri, range, f.message⟩] else []⟩, ?_,
    rfl, rfl, hstart, hstop, ?_, ?_, ⟨hfits, hfits'⟩, rfl⟩
  · rw [toDiagnostic?, rangeBetween, hstart, hstop]
    rfl
  · exact Position.notAfter_behind _ word post
  · rw [← h.positionAt_start_eq_stop_iff hne, hstart, hstop, Option.some.injEq]

/-- What every element of a list is mapped to, one by one. -/
theorem forall₂_filterMap {α β : Type} {R : α → β → Prop} {g : α → Option β} {xs : List α}
    (h : ∀ x ∈ xs, ∃ y, g x = some y ∧ R x y) : List.Forall₂ R xs (xs.filterMap g) := by
  induction xs with
  | nil => exact .nil
  | cons x xs ih =>
      rw [List.forall_mem_cons] at h
      obtain ⟨⟨y, hy, hR⟩, hrest⟩ := h
      rw [List.filterMap_cons_some hy]
      exact .cons hR (ih hrest)

/-- There are no more findings than are wanted. -/
theorem Config.length_check_le (c : Config) (limit : Nat) (text : List Char) :
    (c.check limit text).length ≤ limit := by
  rw [Config.check, checkCompiled_eq_take]
  exact List.length_take_le _ _

/-- **No finding is lost or bent on its way to the editor.**  A pass sends one diagnostic for each
finding of the configuration, in the order of the findings and no more than are wanted, and each of
them conveys its finding. -/
theorem Config.diagnostics_convey_findings (c : Config) (limit : Nat) (text : String) (uri : Uri)
    (related : Bool) (hsize : byteLength text.toList < UInt32.size) :
    let found := c.check limit text.toList
    let sent := c.diagnostics limit text.toList uri related
    (∀ (s : Settings) (d : Disk) (folder : Option Path), (s.resolve d folder uri).1 = c →
      (s.lint d folder uri text ⟨limit, related⟩).1 = ⟨uri, sent⟩) ∧
    sent.length = found.length ∧ sent.length ≤ limit ∧
    List.Forall₂ (Finding.Conveyed text.toList uri related) found sent := by
  have hall : List.Forall₂ (Finding.Conveyed text.toList uri related) (c.check limit text.toList)
      (c.diagnostics limit text.toList uri related) := by
    apply forall₂_filterMap
    intro f hf
    obtain ⟨pre, word, post, hcuts, hne⟩ := exists_cuts_of_mem_check hf
    exact Finding.exists_conveyed hcuts hne hsize uri related
  refine ⟨?_, hall.length_eq.symm, ?_, hall⟩
  · rintro s d folder rfl
    rfl
  · rw [← hall.length_eq]
    exact c.length_check_le limit text.toList

/-- A text with a character of two code units, a `\r\n` and a rule that finds its first half. -/
theorem half_line_end_conveyed :
    let c : Config := ⟨false, [{ test := "\r" }]⟩
    let uri : Uri := default
    let sent : List Diagnostic := [⟨⟨⟨0, 2⟩, ⟨0, 2⟩⟩, .error, "Unexpected Item",
      [⟨uri, ⟨⟨0, 2⟩, ⟨0, 2⟩⟩, "Unexpected Item"⟩]⟩]
    byteLength "𐐷\r\nb".toList < UInt32.size ∧ c.diagnostics 100 "𐐷\r\nb".toList uri true = sent ∧
      List.Forall₂ (Finding.Conveyed "𐐷\r\nb".toList uri true) (c.check 100 "𐐷\r\nb".toList) sent := by
  intro c uri sent
  have hsize : byteLength "𐐷\r\nb".toList < UInt32.size := by decide
  have hsent : c.diagnostics 100 "𐐷\r\nb".toList uri true = sent := by decide +kernel
  obtain ⟨-, -, -, hall⟩ := c.diagnostics_convey_findings 100 "𐐷\r\nb" uri true hsize
  rw [hsent] at hall
  exact ⟨hsize, hsent, hall⟩

end LintServer
