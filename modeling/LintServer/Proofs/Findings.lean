import LintServer.Lint.Finding

/-!
# Findings as one list

`Config.check` collects findings match by match: it leaves out what it has already, and ends as soon
as it has enough.  `Config.findings` lists all findings of a configuration without regard to how they
are collected:

1. the rules that count are those whose patterns can both be compiled (`Config.usable`);
2. their matches are those of the first rule, then those of the second, and so on, less the empty
   ones (`Config.hits`);
3. a match is reported by the first rule that approves of its text, among all rules that count
   (`classify?`);
4. of equal findings the first one stays.

The main statement is that to check a document is to take the first findings of this list
(`check_eq_take_findings`).  It rests on one invariant of the collection (`Collected`), which every
match and every rule keeps.
-/

namespace LintServer

/-! ## all findings of a configuration -/

/-- Whether both patterns of a rule can be compiled. -/
def Rule.isUsable (r : Rule) : Bool :=
  (Regex.compile r.test).isOk && r.predicate.all fun p => (Regex.compile p).isOk

/-- The matches of a pattern in a text, from left to right. -/
def matchesOf (pattern : String) (text : List Char) : List Span :=
  match Regex.compile pattern with
  | .ok r => r.spans text
  | .error _ => []

/-- Whether a pattern matches somewhere in a text. -/
def occursIn (pattern : String) (text : List Char) : Bool :=
  match Regex.compile pattern with
  | .ok r => r.isMatch text
  | .error _ => false

/-- Whether a rule approves of the text of a match.  A rule without a predicate approves of all. -/
def Rule.approves (r : Rule) (text : List Char) : Bool := r.predicate.all (occursIn · text)

/-- What a match is reported as: with the message and the severity of the first rule that approves
of its text. -/
def classify? (rules : List Rule) (text : List Char) (s : Span) : Option Finding :=
  (rules.find? (·.approves (s.slice text))).map fun r => ⟨s, r.message, r.severity⟩

/-- The rules of a configuration that count, in order. -/
def Config.usable (c : Config) : List Rule := c.lints.filter Rule.isUsable

/-- The matches of the rules that count, rule by rule, less the empty ones. -/
def Config.hits (c : Config) (text : List Char) : List Span :=
  c.usable.flatMap fun r => (matchesOf r.test text).filter (! ·.isEmpty)

/-- All findings of a configuration in a text. -/
def Config.findings (c : Config) (text : List Char) : List Finding :=
  ((c.hits text).filterMap (classify? c.usable text)).eraseDups

/-! ## collecting findings -/

/-- One more element adds itself to the list without repetitions, unless it is there already. -/
theorem eraseDups_concat [BEq α] [LawfulBEq α] (xs : List α) (x : α) :
    (xs ++ [x]).eraseDups = if xs.contains x then xs.eraseDups else xs.eraseDups ++ [x] := by
  rw [List.eraseDups_append, List.removeAll, List.filter_cons, List.filter_nil]
  cases hx : xs.contains x with
  | false => simp_all [List.eraseDups_cons]
  | true => simp_all

/-- `found`, whose last finding comes first, is what is wanted of `all`: the first `limit` findings,
without repetitions. -/
def Collected (limit : Nat) (all found : List Finding) : Prop :=
  found.reverse = all.eraseDups.take limit

/-- When there are enough findings, further ones make no difference. -/
theorem Collected.append_of_full {limit : Nat} {all found : List Finding}
    (h : Collected limit all found) (hfull : limit ≤ found.length) (more : List Finding) :
    Collected limit (all ++ more) found := by
  have hlen : limit ≤ all.eraseDups.length := by
    have heq : found.length = (all.eraseDups.take limit).length := by
      rw [← h, List.length_reverse]
    rw [List.length_take] at heq
    omega
  unfold Collected at h ⊢
  rw [h, List.eraseDups_append, List.take_append_of_le_length hlen]

/-- As long as there are not enough findings, all of them are there. -/
theorem Collected.reverse_eq_of_lt {limit : Nat} {all found : List Finding}
    (h : Collected limit all found) (hlt : found.length < limit) :
    found.reverse = all.eraseDups := by
  have heq : found.length = (all.eraseDups.take limit).length := by
    rw [← h, List.length_reverse]
  rw [List.length_take] at heq
  have hall : all.eraseDups.length ≤ limit := by omega
  rw [h, List.take_of_length_le hall]

variable {limit : Nat} (rules : List CompiledRule) (text : List Char)

/-- **One match**: what it is reported as is collected. -/
theorem Collected.addMatch {all found : List Finding} (h : Collected limit all found) (s : Span) :
    Collected limit (all ++ (report? rules text s).toList) (addMatch limit rules text found s) := by
  unfold LintServer.addMatch
  by_cases hfull : limit ≤ found.length
  · rw [if_pos hfull]
    exact h.append_of_full hfull _
  · rw [if_neg hfull]
    have hlt : found.length < limit := Nat.lt_of_not_le hfull
    have hrev : found.reverse = all.eraseDups := h.reverse_eq_of_lt hlt
    cases hr : report? rules text s with
    | none => simpa using h
    | some f =>
        -- not full means nothing was cut off, so to be collected is to be in `all`
        have hmem : found.contains f = all.contains f := by
          rw [Bool.eq_iff_iff, List.contains_iff_mem, List.contains_iff_mem,
            ← List.mem_reverse, hrev, List.mem_eraseDups]
        simp only [Option.toList_some, Collected, hmem]
        rw [eraseDups_concat]
        split
        · exact h
        · rw [List.reverse_cons, hrev, List.take_of_length_le]
          have hlen : all.eraseDups.length = found.length := by rw [← hrev, List.length_reverse]
          rw [List.length_append, List.length_singleton]
          omega

/-- **A list of matches**: what they are reported as is collected, in order. -/
theorem Collected.foldl_addMatch {all found : List Finding} (h : Collected limit all found)
    (spans : List Span) :
    Collected limit (all ++ spans.filterMap (report? rules text))
      (spans.foldl (LintServer.addMatch limit rules text) found) := by
  induction spans generalizing all found with
  | nil => simpa using h
  | cons s spans ih =>
      have hs := ih (h.addMatch rules text s)
      rw [List.append_assoc] at hs
      rw [List.foldl_cons]
      cases hr : report? rules text s with
      | none => simpa [hr] using hs
      | some f => simpa [hr] using hs

/-- **One rule**: what its matches are reported as is collected.  If there are enough findings before
it, its matches are not looked at, which makes no difference. -/
theorem Collected.addRule {all found : List Finding} (h : Collected limit all found)
    (r : CompiledRule) :
    Collected limit (all ++ (r.test.spans text).filterMap (report? rules text))
      (addRule limit rules text found r) := by
  unfold LintServer.addRule
  by_cases hfull : limit ≤ found.length
  · rw [if_pos hfull]
    exact h.append_of_full hfull _
  · rw [if_neg hfull]
    exact h.foldl_addMatch rules text _

/-- **A list of rules**: what their matches are reported as is collected, rule by rule.  The rules
that report (`rules`) stay the same while those that match are gone through. -/
theorem Collected.foldl_addRule {all found : List Finding} (h : Collected limit all found)
    (rs : List CompiledRule) :
    Collected limit
      (all ++ rs.flatMap fun r => (r.test.spans text).filterMap (report? rules text))
      (rs.foldl (LintServer.addRule limit rules text) found) := by
  induction rs generalizing all found with
  | nil => simpa using h
  | cons r rs ih =>
      have hr := ih (h.addRule rules text r)
      rw [List.append_assoc] at hr
      rw [List.foldl_cons, List.flatMap_cons]
      exact hr

/-- The findings of compiled rules: those of all matches, without repetitions, as far as they are
wanted. -/
theorem checkCompiled_eq_take (limit : Nat) (rules : List CompiledRule) (text : List Char) :
    checkCompiled limit rules text =
      (rules.flatMap fun r =>
        (r.test.spans text).filterMap (report? rules text)).eraseDups.take limit := by
  have hnil : Collected limit [] [] := by simp [Collected]
  exact hnil.foldl_addRule rules text rules

/-- A finding has the span of the match that it reports. -/
theorem span_of_report? {rules : List CompiledRule} {text : List Char} {s : Span} {f : Finding}
    (h : report? rules text s = some f) : f.span = s := by
  unfold report? at h
  split at h
  · exact absurd h (by simp)
  · obtain ⟨r, -, rfl⟩ := Option.map_eq_some_iff.mp h
    rfl

/-- **Every finding** is what a match of one of the rules is reported as. -/
theorem exists_rule_of_mem_checkCompiled {limit : Nat} {rules : List CompiledRule} {text : List Char}
    {f : Finding} (h : f ∈ checkCompiled limit rules text) :
    ∃ r ∈ rules, f.span ∈ r.test.spans text ∧ report? rules text f.span = some f := by
  rw [checkCompiled_eq_take] at h
  have hmem := List.mem_eraseDups.mp (List.mem_of_mem_take h)
  obtain ⟨r, hr, hf⟩ := List.mem_flatMap.mp hmem
  obtain ⟨s, hs, hreport⟩ := List.mem_filterMap.mp hf
  obtain rfl := span_of_report? hreport
  exact ⟨r, hr, hs, hreport⟩

/-- **With fewer findings than are wanted**, none is left out. -/
theorem checkCompiled_eq_of_length_lt {limit : Nat} {rules : List CompiledRule} {text : List Char}
    (h : (checkCompiled limit rules text).length < limit) :
    checkCompiled limit rules text =
      (rules.flatMap fun r => (r.test.spans text).filterMap (report? rules text)).eraseDups := by
  rw [checkCompiled_eq_take, List.length_take] at h
  rw [checkCompiled_eq_take, List.take_of_length_le (by omega)]

/-! ## compiled rules -/

/-- A compiled rule does what the rule asks for. -/
structure Rule.RunsAs (r : Rule) (k : CompiledRule) : Prop where
  spans (text : List Char) : k.test.spans text = matchesOf r.test text
  accepts (text : List Char) : k.accepts text = r.approves text
  message : k.message = r.message
  severity : k.severity = r.severity

/-- **What compiling a rule gives**: a rule that counts is compiled to one that does what it asks
for, and one that does not count is not compiled. -/
theorem Rule.compile_cases (r : Rule) :
    (r.isUsable = true ∧ ∃ k, r.compile.toOption = some k ∧ r.RunsAs k) ∨
      (r.isUsable = false ∧ r.compile.toOption = none) := by
  cases ht : Regex.compile r.test with
  | error e =>
      refine .inr ⟨by simp [Rule.isUsable, ht, Except.isOk, Except.toBool], ?_⟩
      simp [Rule.compile, ht, bind, Except.bind, Except.toOption]
  | ok t =>
      have hspans (text : List Char) : t.spans text = matchesOf r.test text := by
        simp [matchesOf, ht]
      cases hp : r.predicate with
      | none =>
          have haccepts (text : List Char) : true = r.approves text := by simp [Rule.approves, hp]
          refine .inl ⟨by simp [Rule.isUsable, ht, hp, Except.isOk, Except.toBool],
            ⟨t, none, r.message, r.severity⟩, ?_, hspans, haccepts, rfl, rfl⟩
          simp [Rule.compile, ht, hp, bind, Except.bind, pure, Except.pure, Except.toOption]
      | some p =>
          cases hq : Regex.compile p with
          | error e =>
              refine .inr ⟨by simp [Rule.isUsable, hp, hq, Except.isOk, Except.toBool], ?_⟩
              simp [Rule.compile, ht, hp, hq, bind, Except.bind, Except.map, Except.toOption]
          | ok q =>
              have haccepts (text : List Char) : q.isMatch text = r.approves text := by
                simp [Rule.approves, occursIn, hp, hq]
              refine .inl ⟨by simp [Rule.isUsable, ht, hp, hq, Except.isOk, Except.toBool],
                ⟨t, some q, r.message, r.severity⟩, ?_, hspans, haccepts, rfl, rfl⟩
              simp [Rule.compile, ht, hp, hq, bind, Except.bind, pure, Except.pure, Except.map,
                Except.toOption]

/-- **Compiling a list of rules**, seen from its first rule. -/
theorem compileRules_cons_cases (r : Rule) (rest : List Rule) :
    (r.isUsable = true ∧ ∃ k, compileRules (r :: rest) = k :: compileRules rest ∧ r.RunsAs k) ∨
      (r.isUsable = false ∧ compileRules (r :: rest) = compileRules rest) := by
  rcases r.compile_cases with ⟨hu, k, hk, hrun⟩ | ⟨hu, hk⟩
  · exact .inl ⟨hu, k, by simp [compileRules, hk], hrun⟩
  · exact .inr ⟨hu, by simp [compileRules, hk]⟩

/-- A match is reported by the compiled rules as it is by the rules that count. -/
theorem report?_compileRules (lints : List Rule) (text : List Char) (s : Span) :
    report? (compileRules lints) text s =
      if s.isEmpty then none else classify? (lints.filter Rule.isUsable) text s := by
  unfold report? classify?
  congr 1
  induction lints with
  | nil => rfl
  | cons r rest ih =>
      rcases compileRules_cons_cases r rest with ⟨hu, k, hk, hrun⟩ | ⟨hu, hk⟩
      · rw [hk, List.filter_cons_of_pos hu, List.find?_cons, List.find?_cons, hrun.accepts]
        cases r.approves (s.slice text) with
        | true => simp [hrun.message, hrun.severity]
        | false => exact ih
      · rw [hk, List.filter_cons_of_neg (by simp [hu]), ih]

/-- The matches of the compiled rules are those of the rules that count. -/
theorem flatMap_spans_compileRules (lints : List Rule) (text : List Char) :
    ((compileRules lints).flatMap fun k => k.test.spans text) =
      (lints.filter Rule.isUsable).flatMap fun r => matchesOf r.test text := by
  induction lints with
  | nil => rfl
  | cons r rest ih =>
      rcases compileRules_cons_cases r rest with ⟨hu, k, hk, hrun⟩ | ⟨hu, hk⟩
      · rw [hk, List.filter_cons_of_pos hu, List.flatMap_cons, List.flatMap_cons, hrun.spans, ih]
      · rw [hk, List.filter_cons_of_neg (by simp [hu]), ih]

/-- To report matches is to classify those that are not empty. -/
theorem filterMap_report? (lints : List Rule) (text : List Char) (spans : List Span) :
    spans.filterMap (report? (compileRules lints) text) =
      (spans.filter (! ·.isEmpty)).filterMap (classify? (lints.filter Rule.isUsable) text) := by
  rw [List.filterMap_filter]
  congr 1
  funext s
  rw [report?_compileRules]
  cases s.isEmpty <;> rfl

/-- **What is reported** while there are fewer findings than are wanted: every match of a rule that
counts, as the rules that count classify it. -/
theorem Config.mem_check_iff {c : Config} {limit : Nat} {text : List Char}
    (h : (c.check limit text).length < limit) (f : Finding) :
    f ∈ c.check limit text ↔
      (∃ r ∈ c.usable, f.span ∈ matchesOf r.test text) ∧ f.span.isEmpty = false ∧
        classify? c.usable text f.span = some f := by
  rw [Config.check] at h
  rw [Config.check, checkCompiled_eq_of_length_lt h, List.mem_eraseDups, ← List.filterMap_flatMap,
    flatMap_spans_compileRules, List.mem_filterMap]
  simp only [report?_compileRules, List.mem_flatMap]
  constructor
  · rintro ⟨s, hs, hreport⟩
    split at hreport
    · exact absurd hreport (by simp)
    · next hempty =>
        have hspan : f.span = s := by
          obtain ⟨r, -, rfl⟩ := Option.map_eq_some_iff.mp hreport
          rfl
        subst hspan
        exact ⟨hs, by simpa using hempty, hreport⟩
  · rintro ⟨hs, hempty, hclass⟩
    exact ⟨f.span, hs, by rw [if_neg (by simp [hempty])]; exact hclass⟩

/-! ## the main statement -/

/-- **To check a document is to take the first of all its findings**, as many as are wanted. -/
theorem Config.check_eq_take_findings (c : Config) (limit : Nat) (text : List Char) :
    c.check limit text = (c.findings text).take limit := by
  have hhits : c.hits text =
      ((compileRules c.lints).flatMap fun k => k.test.spans text).filter (! ·.isEmpty) := by
    rw [flatMap_spans_compileRules, List.filter_flatMap]
    rfl
  calc
    c.check limit text
      = (((compileRules c.lints).flatMap fun k => k.test.spans text).filterMap
          (report? (compileRules c.lints) text)).eraseDups.take limit := by
        rw [Config.check, checkCompiled_eq_take, List.filterMap_flatMap]
    _ = (c.findings text).take limit := by
        rw [filterMap_report?, ← hhits]
        rfl

end LintServer
