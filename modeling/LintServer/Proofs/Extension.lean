import Mathlib.Data.List.Induction
import LintServer.Proofs.Findings

/-!
# Extending the base rules

The base rules stand behind a project's own rules.  There they take part in everything: they find
matches of their own, and they may report matches that the project's rules found and did not accept.
Here is shown that they take nothing away:

* `report?_append` — what a rule of the project reports, it reports in front of any other rules;
* `filterMap_report?_append` — so the project's own findings are those of all findings whose match
  one of its rules accepts;
* `eraseDups_filter` — and to leave out repetitions does not depend on what is left out otherwise.

The main statement is `Config.base_rules_add_only`.
-/

namespace LintServer

/-! ## rules behind other rules -/

/-- To leave out repetitions and then some elements is to leave out these elements first. -/
theorem eraseDups_filter {α : Type} [BEq α] [LawfulBEq α] (p : α → Bool) (xs : List α) :
    (xs.filter p).eraseDups = xs.eraseDups.filter p := by
  induction xs using List.reverseRecOn with
  | nil => rfl
  | append_singleton xs x ih =>
      rw [eraseDups_concat, List.filter_append]
      cases hp : p x with
      | false =>
          have hnew : [x].filter p = [] := by simp [hp]
          rw [hnew, List.append_nil, ih]
          split
          · rfl
          · rw [List.filter_append, hnew, List.append_nil]
      | true =>
          have hnew : [x].filter p = [x] := by simp [hp]
          have hmem : (xs.filter p).contains x = xs.contains x := by simp [List.mem_filter, hp]
          rw [hnew, eraseDups_concat, ih, hmem]
          split
          · rfl
          · rw [List.filter_append, hnew]

variable (own base : List CompiledRule) (text : List Char)

/-- **What a rule reports**, it reports in front of any other rules. -/
theorem report?_append (s : Span) :
    report? (own ++ base) text s = (report? own text s).or (report? base text s) := by
  unfold report?
  cases s.isEmpty with
  | true => rfl
  | false => simp [List.find?_append, Option.map_or]

/-- **A list of matches**: its findings with some rules are those of its findings with more rules whose
match one of the former accepts. -/
theorem filterMap_report?_append (spans : List Span) :
    spans.filterMap (report? own text) =
      (spans.filterMap (report? (own ++ base) text)).filter
        fun f => (report? own text f.span).isSome := by
  induction spans with
  | nil => rfl
  | cons s spans ih =>
      cases hown : report? own text s with
      | some f =>
          have hspan : f.span = s := span_of_report? hown
          have hall : report? (own ++ base) text s = some f := by rw [report?_append, hown, Option.some_or]
          rw [List.filterMap_cons_some hown, List.filterMap_cons_some hall,
            List.filter_cons_of_pos (by rw [hspan, hown]; rfl), ih]
      | none =>
          rw [List.filterMap_cons_none hown, ih]
          cases hall : report? (own ++ base) text s with
          | none => rw [List.filterMap_cons_none hall]
          | some f =>
              -- a base rule reports the match: this is not one of the project's own findings
              have hspan : f.span = s := span_of_report? hall
              rw [List.filterMap_cons_some hall,
                List.filter_cons_of_neg (by rw [hspan, hown]; decide)]

/-- **Rules behind other rules** leave the findings of the others where they are. -/
theorem checkCompiled_sublist_append {limit : Nat}
    (h : (checkCompiled limit (own ++ base) text).length < limit) :
    (checkCompiled limit own text).Sublist (checkCompiled limit (own ++ base) text) := by
  rw [checkCompiled_eq_of_length_lt h, checkCompiled_eq_take]
  refine (List.take_sublist _ _).trans ?_
  have hown : (own.flatMap fun r => (r.test.spans text).filterMap (report? own text)) =
      (own.flatMap fun r => (r.test.spans text).filterMap (report? (own ++ base) text)).filter
        fun f => (report? own text f.span).isSome := by
    rw [List.filter_flatMap]
    congr 1
    funext r
    exact filterMap_report?_append own base text _
  rw [hown, eraseDups_filter, List.flatMap_append, List.eraseDups_append]
  exact List.filter_sublist.trans (List.sublist_append_left _ _)

/-! ## extending a configuration -/

/-- A configuration that is extended is so only once. -/
theorem Config.applyBase_applyBase (c : Config) (base more : List Rule) :
    (c.applyBase base).applyBase more = c.applyBase base := by
  unfold applyBase
  cases h : c.extendsBase with
  | true => simp
  | false => simp [h]

/-- **Only the first base rules count**, however often a configuration is extended. -/
theorem Config.foldl_applyBase (c : Config) (base : List Rule) (more : List (List Rule)) :
    (base :: more).foldl applyBase c = c.applyBase base := by
  induction more with
  | nil => rfl
  | cons next more ih =>
      rw [List.foldl_cons] at ih
      rw [List.foldl_cons, List.foldl_cons, applyBase_applyBase, ih]

/-- The configuration that comes of extending another. -/
theorem Config.applyBase_eq (c : Config) (base : List Rule) :
    c.applyBase base = ⟨false, c.lints ++ if c.extendsBase then base else []⟩ := by
  obtain ⟨extendsBase, lints⟩ := c
  cases extendsBase <;> simp [applyBase]

/-- **Base rules only add.**  A configuration that is extended, any number of times and with any rules,
has its own rules and behind them the first base rules if it wanted any; and as long as fewer findings
are there than are reported, the findings of its own rules are among them, in order and as they
were. -/
theorem Config.base_rules_add_only (c : Config) (base : List Rule) (more : List (List Rule))
    (limit : Nat) (text : List Char) :
    let extended := (base :: more).foldl applyBase c
    extended = c.applyBase base ∧
    extended = ⟨false, c.lints ++ if c.extendsBase then base else []⟩ ∧
    ((extended.check limit text).length < limit →
      (c.check limit text).Sublist (extended.check limit text)) := by
  intro extended
  have hfirst : extended = c.applyBase base := c.foldl_applyBase base more
  have hrules := hfirst.trans (c.applyBase_eq base)
  refine ⟨hfirst, hrules, ?_⟩
  have hcompile (lints more : List Rule) :
      compileRules (lints ++ more) = compileRules lints ++ compileRules more :=
    List.filterMap_append
  rw [hrules]
  simp only [check, hcompile]
  exact checkCompiled_sublist_append _ _ text

/-- A match that its own rule does not approve of becomes a finding of the base rules, before the
finding that was there. -/
theorem Config.base_rule_adds_before :
    let c : Config := ⟨true, [{ test := "b+", predicate := some "^b$" }]⟩
    let base : List Rule := [{ test := "a", predicate := some "bb", ownMessage := some "twice" }]
    let extended := [base, [{ test := "c" }]].foldl applyBase c
    let text := "bb b".toList
    c.check 100 text = [⟨⟨3, 4⟩, "Unexpected Item", .error⟩] ∧
    extended.check 100 text = [⟨⟨0, 2⟩, "twice", .error⟩, ⟨⟨3, 4⟩, "Unexpected Item", .error⟩] ∧
    (extended.check 100 text).length < 100 ∧
    (c.check 100 text).Sublist (extended.check 100 text) := by
  intro c base extended text
  have hown : c.check 100 text = [⟨⟨3, 4⟩, "Unexpected Item", .error⟩] := by decide +kernel
  have hall : extended.check 100 text =
      [⟨⟨0, 2⟩, "twice", .error⟩, ⟨⟨3, 4⟩, "Unexpected Item", .error⟩] := by decide +kernel
  have hlimit : (extended.check 100 text).length < 100 := by
    rw [hall]
    decide
  exact ⟨hown, hall, hlimit, (c.base_rules_add_only base [[{ test := "c" }]] 100 text).2.2 hlimit⟩

end LintServer
