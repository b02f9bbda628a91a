import LintServer.Proofs.Findings
import LintServer.Proofs.Matches
import LintServer.Proofs.Tables
import LintServer.Rule.Base

/-!
# The built-in rules

The built-in rules are read from a text that comes with the program.  It has no fault and holds three
rules (`builtinRules_eq`).  Each of them has a predicate that accepts the matches of its own test.
Which rule reports a match is not decided by that alone: it is the first rule whose predicate accepts
it.

* a conflict marker is accepted by the first rule (`conflict_approves_iff`);
* a match of the two other rules consists of blanks and tabs, which the first rule rejects
  (`not_conflict_approves`) and the second accepts (`trailing_approves`).

So the second rule reports the matches of the third as well, and the message of the third rule is never
seen: `Builtin.matches_reported` says who reports what, and `Builtin.mixed_indentation_as_trailing`
shows it on a line.
-/

namespace LintServer.Builtin

open Regex Unicode

/-! ## the rules and their expressions -/

/-- The rule about conflict markers. -/
def conflict : Rule :=
  { test := "(?mR)^(<\x7b7\x7d|=\x7b7\x7d|>\x7b7\x7d)( .*)?$"
    predicate := some "^(<\x7b7\x7d|=\x7b7\x7d|>\x7b7\x7d)"
    ownMessage := some "Unresolved merge conflict marker"
    ownSeverity := some .error }

/-- The rule about blanks at the end of a line, which is also the one to fall back on. -/
def trailing : Rule := trailingRule

/-- The rule about indentation that mixes tabs and blanks. -/
def mixed : Rule :=
  { test := "(?mR)^( +\\t|\\t+ )[ \\t]*"
    predicate := some "^( +\\t|\\t+ )"
    ownMessage := some "Indentation mixes tabs and spaces"
    ownSeverity := some .information }

/-- The configuration of a text is found from its characters. -/
theorem parseConfig_ofList (cs : List Char) :
    (parseConfig (String.ofList cs)).toOption =
      (Toml.readLines ((Toml.withoutMark cs).length + 1) {} (Toml.withoutMark cs)).toOption.bind
        fun draft => (readConfig (Toml.entryValues draft.root)).toOption := by
  rw [parseConfig, Toml.parse_ofList]
  cases Toml.readLines ((Toml.withoutMark cs).length + 1) {} (Toml.withoutMark cs) with
  | error e => rfl
  | ok draft =>
      simp only [Except.map, Except.toOption, Option.bind_some]
      cases readConfig (Toml.entryValues draft.root) <;> rfl

set_option maxRecDepth 4000 in
/-- **The text of the built-in rules has no fault**, and these are its rules. -/
theorem builtinRules_eq : builtinRules = [conflict, trailing, mixed] := by
  unfold builtinRules
  -- unification gives the characters of the literal, which are not computed from its bytes
  refine (congrArg (fun c => (c.map Config.lints).getD [trailingRule]) (parseConfig_ofList _)).trans ?_
  decide +kernel

/-- Blanks and tabs. -/
def blank : CharSet := ⟨[⟨0x09, 0x09⟩, ⟨0x20, 0x20⟩]⟩

/-- A character seven times. -/
def seven (c : Char) : Expr := .rep 7 (some 7) true (.chars (.single c))

/-- One of the three signs of a conflict. -/
def sign : Expr := .group (.alt (seven '<') (.alt (seven '=') (seven '>')))

/-- What may stand behind the sign of a conflict on its line. -/
def label : Expr :=
  .rep 0 (some 1) true (.group (.cat (.chars (.single ' '))
    (.rep 0 none true (.chars (CharSet.complement ⟨[⟨0x0A, 0x0A⟩, ⟨0x0D, 0x0D⟩]⟩)))))

/-- Blanks and then a tab, or tabs and then a blank. -/
def mixture : Expr :=
  .group (.alt (.cat (.rep 1 none true (.chars (.single ' '))) (.chars (.single '\t')))
    (.cat (.rep 1 none true (.chars (.single '\t'))) (.chars (.single ' '))))

/-- The expression that a rule searches for. -/
theorem matchesOf_eq {pattern : String} {e : Expr} (h : readPattern pattern = .ok e)
    (hsize : e.isTooBig = false) (text : List Char) :
    matchesOf pattern text = (⟨Program.ofExpr e⟩ : Regex).spans text := by
  simp [matchesOf, compile_of_readPattern h hsize]

/-- The expression that a rule asks for in the text of a match. -/
theorem approves_eq {r : Rule} {pattern : String} {e : Expr} (hr : r.predicate = some pattern)
    (h : readPattern pattern = .ok e) (hsize : e.isTooBig = false) (w : List Char) :
    r.approves w = (⟨Program.ofExpr e⟩ : Regex).isMatch w := by
  simp [Rule.approves, occursIn, hr, compile_of_readPattern h hsize]

/-! ## words -/

/-- A text of blanks and tabs, at least one. -/
def IsBlank (w : List Char) : Prop := w ≠ [] ∧ ∀ c ∈ w, blank.contains c = true

theorem contains_single_iff {c d : Char} : (CharSet.single c).contains d = true ↔ d = c := by
  rw [← Char.toNat_inj]
  simp only [CharSet.contains, CharSet.containsCode, CharSet.single, CharSet.range, CharSet.memRanges]
  split
  · simp only [Bool.false_eq_true, false_iff]
    omega
  · split
    · simp only [true_iff]
      omega
    · simp only [Bool.false_eq_true, false_iff]
      omega

/-- The words of a sign: seven times the same character. -/
theorem words_sign_iff {w : List Char} :
    sign.Words w ↔
      w = List.replicate 7 '<' ∨ w = List.replicate 7 '=' ∨ w = List.replicate 7 '>' := by
  have hseven (c : Char) : (seven c).Words w ↔ w = List.replicate 7 c := by
    rw [seven, Expr.words_rep_chars_iff, List.eq_replicate_iff]
    simp only [contains_single_iff]
    constructor
    · rintro ⟨hmin, hmax, hall⟩
      exact ⟨Nat.le_antisymm (hmax 7 rfl) hmin, hall⟩
    · rintro ⟨hlen, hall⟩
      refine ⟨Nat.le_of_eq hlen.symm, ?_, hall⟩
      rintro m ⟨⟩
      exact Nat.le_of_eq hlen
  exact or_congr (hseven '<') (or_congr (hseven '=') (hseven '>'))

/-- A sign does not start a text of blanks and tabs. -/
theorem not_words_sign_of_isBlank {u v : List Char} (h : IsBlank (u ++ v)) : ¬ sign.Words u := by
  rw [words_sign_iff]
  rintro (rfl | rfl | rfl)
  · exact absurd (h.2 '<' (by simp)) (by decide)
  · exact absurd (h.2 '=' (by simp)) (by decide)
  · exact absurd (h.2 '>' (by simp)) (by decide)

/-- A mixture consists of blanks and tabs. -/
theorem isBlank_of_words_mixture {w : List Char} (h : mixture.Words w) : IsBlank w := by
  have hboth (c d : Char) (hc : blank.contains c = true) (hd : blank.contains d = true)
      (hw : (Expr.cat (.rep 1 none true (.chars (.single c))) (.chars (.single d))).Words w) :
      IsBlank w := by
    obtain ⟨u, v, hu, ⟨x, hx, rfl⟩, rfl⟩ := hw
    rw [contains_single_iff] at hx
    subst hx
    obtain ⟨-, -, hall⟩ := Expr.words_rep_chars_iff.mp hu
    refine ⟨by simp, fun y hy => ?_⟩
    rcases List.mem_append.mp hy with hy | hy
    · rw [contains_single_iff.mp (hall y hy)]
      exact hc
    · rw [List.mem_singleton.mp hy]
      exact hd
  rcases h with h | h
  · exact hboth ' ' '\t' (by decide) (by decide) h
  · exact hboth '\t' ' ' (by decide) (by decide) h

/-! ## what the rules approve of -/

/-- The first rule approves of what starts with a sign. -/
theorem conflict_approves_iff {w : List Char} :
    conflict.approves w = true ↔ ∃ u v, w = u ++ v ∧ sign.Words u := by
  have hread : readPattern "^(<\x7b7\x7d|=\x7b7\x7d|>\x7b7\x7d)" = .ok (.cat (.look .textStart) sign) := rfl
  rw [approves_eq rfl hread (by decide), isMatch_anchored_iff (by decide)]

/-- The third rule approves of what starts with a mixture. -/
theorem mixed_approves_iff {w : List Char} :
    mixed.approves w = true ↔ ∃ u v, w = u ++ v ∧ mixture.Words u := by
  have hread : readPattern "^( +\\t|\\t+ )" = .ok (.cat (.look .textStart) mixture) := rfl
  rw [approves_eq rfl hread (by decide), isMatch_anchored_iff (by decide)]

/-- The first rule rejects blanks and tabs. -/
theorem not_conflict_approves {w : List Char} (h : IsBlank w) : conflict.approves w = false := by
  rw [Bool.eq_false_iff]
  intro happ
  obtain ⟨u, v, rfl, hu⟩ := conflict_approves_iff.mp happ
  exact not_words_sign_of_isBlank h hu

/-- **The second rule approves of blanks and tabs**, wherever they were found. -/
theorem trailing_approves {w : List Char} (h : IsBlank w) : trailing.approves w = true := by
  have hread : readPattern "^[ \\t]+$" =
      .ok (.cat (.look .textStart) (.cat (.rep 1 none true (.chars blank)) (.look .textEnd))) := rfl
  rw [approves_eq rfl hread (by decide), isMatch_ofExpr_iff]
  refine ⟨[], w, Cursor.between w [], rfl, Cursor.between [] w, ⟨rfl, rfl⟩, Cursor.between w [], ?_,
    rfl, rfl⟩
  rw [Expr.matches_iff_words (by decide)]
  refine ⟨w, by simpa using Cursor.spells_between [] w [], ?_⟩
  rw [Expr.words_rep_chars_iff]
  exact ⟨List.length_pos_iff.mpr h.1, nofun, h.2⟩

/-! ## what the rules find -/

variable {text : List Char} {s : Span}

/-- A match of the first rule starts with a sign. -/
theorem word_of_conflict (h : s ∈ matchesOf conflict.test text) :
    ∃ u v, s.slice text = u ++ v ∧ sign.Words u := by
  have hread : readPattern conflict.test =
      .ok (.cat (.look (.lineStart true)) (.cat sign (.cat label (.look (.lineEnd true))))) := rfl
  rw [matchesOf_eq hread (by decide +kernel)] at h
  obtain ⟨pre, word, post, hcuts, a, ⟨-, rfl⟩, b, hsign, z, hlabel, -, hz⟩ := mem_spans_ofExpr h
  obtain ⟨u, hu, hwords⟩ := (Expr.matches_iff_words (by decide) _ _).mp hsign
  obtain ⟨v, hv, -⟩ := (Expr.matches_iff_words (by decide) _ _).mp hlabel
  have hword : word = u ++ v := by
    refine Cursor.Spells.eq (Cursor.spells_between pre word post) ?_
    rw [hz]
    exact hu.append hv
  exact ⟨u, v, by rw [Span.slice_of_cuts hcuts, hword], hwords⟩

/-- A match of the second rule consists of blanks and tabs. -/
theorem word_of_trailing (h : s ∈ matchesOf trailing.test text) : IsBlank (s.slice text) := by
  have hread : readPattern trailing.test =
      .ok (.cat (.rep 1 none true (.chars blank)) (.look (.lineEnd true))) := rfl
  rw [matchesOf_eq hread (by decide)] at h
  obtain ⟨pre, word, post, hcuts, z, hblanks, -, hz⟩ := mem_spans_ofExpr h
  obtain ⟨w, hw, hwords⟩ := (Expr.matches_iff_words (by decide) _ _).mp hblanks
  have hword : word = w := by
    refine Cursor.Spells.eq (Cursor.spells_between pre word post) ?_
    rw [hz]
    exact hw
  obtain ⟨hlen, -, hall⟩ := Expr.words_rep_chars_iff.mp hwords
  rw [Span.slice_of_cuts hcuts, hword]
  exact ⟨List.length_pos_iff.mp hlen, hall⟩

/-- A match of the third rule starts with a mixture, and consists of blanks and tabs. -/
theorem word_of_mixed (h : s ∈ matchesOf mixed.test text) :
    (∃ u v, s.slice text = u ++ v ∧ mixture.Words u) ∧ IsBlank (s.slice text) := by
  have hread : readPattern mixed.test =
      .ok (.cat (.look (.lineStart true)) (.cat mixture (.rep 0 none true (.chars blank)))) := rfl
  rw [matchesOf_eq hread (by decide)] at h
  obtain ⟨pre, word, post, hcuts, a, ⟨-, rfl⟩, hmatch⟩ := mem_spans_ofExpr h
  obtain ⟨w, hw, u, v, hu, hv, rfl⟩ := (Expr.matches_iff_words (by decide) _ _).mp hmatch
  have hword : word = u ++ v := Cursor.Spells.eq (Cursor.spells_between pre word post) hw
  obtain ⟨-, -, hall⟩ := Expr.words_rep_chars_iff.mp hv
  obtain ⟨hne, hblank⟩ := isBlank_of_words_mixture hu
  rw [Span.slice_of_cuts hcuts, hword]
  refine ⟨⟨u, v, rfl, hu⟩, by simp [hne], fun c hc => ?_⟩
  rcases List.mem_append.mp hc with hc | hc
  · exact hblank c hc
  · exact hall c hc

/-! ## who reports what -/

/-- The rule that reports the matches of a built-in rule. -/
def reporter (r : Rule) : Rule := if r = mixed then trailing else r

/-- **Each rule approves of its own matches**, but the third rule is not the first to do so. -/
theorem find?_approves {r : Rule} (hr : r ∈ builtinRules) (hs : s ∈ matchesOf r.test text) :
    r.approves (s.slice text) = true ∧
      builtinRules.find? (·.approves (s.slice text)) = some (reporter r) := by
  rw [builtinRules_eq] at hr ⊢
  simp only [List.mem_cons, List.not_mem_nil, or_false] at hr
  rcases hr with rfl | rfl | rfl
  · have hown := conflict_approves_iff.mpr (word_of_conflict hs)
    refine ⟨hown, ?_⟩
    simp only [List.find?_cons, hown]
    rfl
  · have hblank := word_of_trailing hs
    have hown := trailing_approves hblank
    refine ⟨hown, ?_⟩
    simp only [List.find?_cons, not_conflict_approves hblank, hown]
    rfl
  · obtain ⟨hmixture, hblank⟩ := word_of_mixed hs
    refine ⟨mixed_approves_iff.mpr hmixture, ?_⟩
    simp only [List.find?_cons, not_conflict_approves hblank, trailing_approves hblank]
    rfl

/-- Both patterns of each built-in rule can be compiled. -/
theorem usable_builtinRules {c : Config} (h : c.lints = builtinRules) : c.usable = builtinRules := by
  rw [Config.usable, h, builtinRules_eq, List.filter_eq_self]
  decide +kernel

/-- **Who reports the matches of the built-in rules** in a document with fewer findings than are wanted.
Every rule approves of its own matches; a match is reported with the message and the severity of the
rule that found it if and only if that is not the rule about mixed indentation, whose matches are
reported as blanks at the end of a line. -/
theorem matches_reported (c : Config) (hlints : c.lints = builtinRules) (limit : Nat)
    (text : List Char) (hlimit : (c.check limit text).length < limit) (r : Rule)
    (hr : r ∈ builtinRules) (s : Span) (hs : s ∈ matchesOf r.test text) (hne : s.isEmpty = false) :
    r.approves (s.slice text) = true ∧
    (⟨s, r.message, r.severity⟩ ∈ c.check limit text ↔ r ≠ mixed) ∧
    (r = mixed → ⟨s, trailing.message, trailing.severity⟩ ∈ c.check limit text) := by
  obtain ⟨hown, hfind⟩ := find?_approves hr hs
  have hclass : classify? builtinRules text s =
      some ⟨s, (reporter r).message, (reporter r).severity⟩ := by
    rw [classify?, hfind]
    rfl
  have hmem (message : String) (severity : Severity) :
      ⟨s, message, severity⟩ ∈ c.check limit text ↔
        (reporter r).message = message ∧ (reporter r).severity = severity := by
    rw [Config.mem_check_iff hlimit, usable_builtinRules hlints]
    simp only [hclass, hne, Option.some.injEq, Finding.mk.injEq, true_and, and_iff_right_iff_imp]
    exact fun _ => ⟨r, hr, hs⟩
  refine ⟨hown, ?_, ?_⟩
  · rw [hmem]
    by_cases hmixed : r = mixed
    · subst hmixed
      decide
    · simp [reporter, hmixed]
  · rintro rfl
    rw [hmem]
    decide

/-- A conflict marker is reported as such; a mixed indentation on the next line is reported as blanks
at the end of a line. -/
theorem conflict_and_indentation_reported :
    let c : Config := ⟨false, builtinRules⟩
    let text := "<<<<<<< a\n \tx".toList
    (c.check 100 text).length < 100 ∧
    (⟨0, 9⟩ ∈ matchesOf conflict.test text ∧
      ⟨⟨0, 9⟩, conflict.message, conflict.severity⟩ ∈ c.check 100 text) ∧
    (⟨10, 12⟩ ∈ matchesOf mixed.test text ∧
      ⟨⟨10, 12⟩, mixed.message, mixed.severity⟩ ∉ c.check 100 text ∧
      ⟨⟨10, 12⟩, trailing.message, trailing.severity⟩ ∈ c.check 100 text) := by
  intro c text
  have hlints : c.lints = builtinRules := by simp only [c]
  have hlimit : (c.check 100 text).length < 100 := by
    simp only [c, builtinRules_eq]
    decide +kernel
  have hconflict : ⟨0, 9⟩ ∈ matchesOf conflict.test text := by decide +kernel
  have hmixed : ⟨10, 12⟩ ∈ matchesOf mixed.test text := by decide +kernel
  have hfirst := matches_reported c hlints 100 text hlimit conflict (by simp [builtinRules_eq]) ⟨0, 9⟩
    hconflict rfl
  have hthird := matches_reported c hlints 100 text hlimit mixed (by simp [builtinRules_eq]) ⟨10, 12⟩
    hmixed rfl
  refine ⟨hlimit, ⟨hconflict, hfirst.2.1.mpr (by decide)⟩, hmixed, ?_, hthird.2.2 rfl⟩
  exact fun h => hthird.2.1.mp h rfl

/-- **The rule about mixed indentation does not report its own match**: the line is reported as one
with blanks at its end, though there are none. -/
theorem mixed_indentation_as_trailing :
    let c : Config := ⟨false, builtinRules⟩
    let text := " \tx".toList
    mixed ∈ builtinRules ∧ ⟨0, 2⟩ ∈ matchesOf mixed.test text ∧ (c.check 100 text).length < 100 ∧
      ⟨⟨0, 2⟩, mixed.message, mixed.severity⟩ ∉ c.check 100 text ∧
      c.check 100 text = [⟨⟨0, 2⟩, "Trailing whitespace", .warning⟩] := by
  intro c text
  simp only [c, builtinRules_eq]
  decide +kernel

end LintServer.Builtin
