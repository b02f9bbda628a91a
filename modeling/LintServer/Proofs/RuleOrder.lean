import LintServer.Proofs.Repeats

/-!
# Rules in another order

The order of rules decides which of them reports a match, in which order matches are collected, which of
several equal findings stays and where the limit cuts.  It does not decide what is found:

* `IsReported` — a span becomes a finding if some rule finds it and some rule accepts its text;
* `mem_map_span_allFindings_iff`, `nodup_map_span_allFindings` — every such span becomes one finding, and
  nothing else does;
* `report?_eq_of_perm` — which finding that is depends on the order only if rules that accept its text differ
  in what they say of it.

The main statement is `Config.order_only_attributes`.
-/

namespace LintServer

/-! ## all findings of compiled rules -/

/-- All findings of compiled rules in a text, however many are wanted. -/
def allFindings (rules : List CompiledRule) (text : List Char) : List Finding :=
  (rules.flatMap fun r => (r.test.spans text).filterMap (report? rules text)).eraseDups

/-- A span covers something, some rule finds it, and some rule accepts its text, which need not be the one
that found it. -/
structure IsReported (rules : List CompiledRule) (text : List Char) (s : Span) : Prop where
  found : ∃ r ∈ rules, s ∈ r.test.spans text
  nonempty : s.isEmpty = false
  accepted : ∃ r ∈ rules, r.accepts (s.slice text) = true

/-- Rules that accept the text of a match say the same of it, whichever rule found it. -/
def Unanimous (rules : List CompiledRule) (text : List Char) : Prop :=
  ∀ finder ∈ rules, ∀ s ∈ finder.test.spans text, ∀ r ∈ rules, ∀ r' ∈ rules,
    r.accepts (s.slice text) = true → r'.accepts (s.slice text) = true →
    r.message = r'.message ∧ r.severity = r'.severity

instance (rules : List CompiledRule) (text : List Char) : Decidable (Unanimous rules text) :=
  inferInstanceAs (Decidable (∀ finder ∈ rules, ∀ s ∈ finder.test.spans text, ∀ r ∈ rules, ∀ r' ∈ rules,
    r.accepts (s.slice text) = true → r'.accepts (s.slice text) = true →
    r.message = r'.message ∧ r.severity = r'.severity))

variable {rules rules' : List CompiledRule} {text : List Char}

theorem mem_allFindings_iff {f : Finding} :
    f ∈ allFindings rules text ↔
      (∃ r ∈ rules, f.span ∈ r.test.spans text) ∧ report? rules text f.span = some f := by
  rw [allFindings, List.mem_eraseDups, List.mem_flatMap]
  constructor
  · rintro ⟨r, hr, hf⟩
    obtain ⟨s, hs, hreport⟩ := List.mem_filterMap.mp hf
    obtain rfl := span_of_report? hreport
    exact ⟨⟨r, hr, hs⟩, hreport⟩
  · rintro ⟨⟨r, hr, hs⟩, hreport⟩
    exact ⟨r, hr, List.mem_filterMap.mpr ⟨f.span, hs, hreport⟩⟩

/-- A span that is not empty is reported as something if a rule accepts its text. -/
theorem exists_report?_iff {s : Span} :
    (∃ f, report? rules text s = some f) ↔
      s.isEmpty = false ∧ ∃ r ∈ rules, r.accepts (s.slice text) = true := by
  unfold report?
  cases s.isEmpty with
  | true => simp
  | false => simp [← Option.isSome_iff_exists]

/-- What a match is reported as is said by a rule that accepts its text. -/
theorem exists_rule_of_report? {s : Span} {f : Finding} (h : report? rules text s = some f) :
    ∃ r ∈ rules, r.accepts (s.slice text) = true ∧ f = ⟨s, r.message, r.severity⟩ := by
  unfold report? at h
  split at h
  · exact absurd h (by simp)
  · obtain ⟨r, hr, rfl⟩ := Option.map_eq_some_iff.mp h
    have haccepts := List.find?_some hr
    exact ⟨r, List.mem_of_find?_eq_some hr, haccepts, rfl⟩

/-- **The spans of all findings** are those that some rule finds and some rule accepts. -/
theorem mem_map_span_allFindings_iff {s : Span} :
    s ∈ (allFindings rules text).map Finding.span ↔ IsReported rules text s := by
  rw [List.mem_map]
  constructor
  · rintro ⟨f, hf, rfl⟩
    obtain ⟨hfound, hreport⟩ := mem_allFindings_iff.mp hf
    obtain ⟨hnonempty, haccepted⟩ := exists_report?_iff.mp ⟨f, hreport⟩
    exact ⟨hfound, hnonempty, haccepted⟩
  · rintro ⟨hfound, hnonempty, haccepted⟩
    obtain ⟨f, hreport⟩ := exists_report?_iff.mpr ⟨hnonempty, haccepted⟩
    obtain rfl := span_of_report? hreport
    exact ⟨f, mem_allFindings_iff.mpr ⟨hfound, hreport⟩, rfl⟩

/-- No two of all findings have the same span. -/
theorem nodup_map_span_allFindings (rules : List CompiledRule) (text : List Char) :
    ((allFindings rules text).map Finding.span).Nodup := by
  have hspan : ∀ f ∈ allFindings rules text, ∀ g ∈ allFindings rules text, f.span = g.span → f = g := by
    intro f hf g hg heq
    have hreport := (mem_allFindings_iff.mp hf).2
    rw [heq, (mem_allFindings_iff.mp hg).2] at hreport
    exact (Option.some.inj hreport).symm
  exact (nodup_eraseDups _).map_on hspan

/-! ## another order -/

theorem IsReported.perm {s : Span} (h : IsReported rules text s) (hperm : rules.Perm rules') :
    IsReported rules' text s := by
  obtain ⟨⟨r, hr, hfound⟩, hnonempty, r', hr', haccepted⟩ := h
  exact ⟨⟨r, hperm.mem_iff.mp hr, hfound⟩, hnonempty, r', hperm.mem_iff.mp hr', haccepted⟩

/-- **The same spans** are reported in every order. -/
theorem map_span_allFindings_perm (hperm : rules.Perm rules') (text : List Char) :
    ((allFindings rules text).map Finding.span).Perm ((allFindings rules' text).map Finding.span) := by
  rw [List.perm_ext_iff_of_nodup (nodup_map_span_allFindings _ _) (nodup_map_span_allFindings _ _)]
  intro s
  rw [mem_map_span_allFindings_iff, mem_map_span_allFindings_iff]
  exact ⟨fun h => h.perm hperm, fun h => h.perm hperm.symm⟩

/-- **Where rules agree on a match**, it is reported in the same words in every order. -/
theorem report?_eq_of_perm (hperm : rules.Perm rules') (hsame : Unanimous rules text) {s : Span}
    (hfound : ∃ r ∈ rules, s ∈ r.test.spans text) : report? rules' text s = report? rules text s := by
  have hsome : (∃ f, report? rules' text s = some f) ↔ ∃ f, report? rules text s = some f := by
    simp only [exists_report?_iff, hperm.mem_iff]
  cases hreport : report? rules text s with
  | none =>
      cases hreport' : report? rules' text s with
      | none => rfl
      | some f' =>
          obtain ⟨f, hf⟩ := hsome.mp ⟨f', hreport'⟩
          simp [hreport] at hf
  | some f =>
      obtain ⟨f', hreport'⟩ := hsome.mpr ⟨f, hreport⟩
      obtain ⟨r, hr, haccepts, rfl⟩ := exists_rule_of_report? hreport
      obtain ⟨r', hr', haccepts', rfl⟩ := exists_rule_of_report? hreport'
      obtain ⟨finder, hfinder, hs⟩ := hfound
      obtain ⟨hmessage, hseverity⟩ :=
        hsame finder hfinder s hs r hr r' (hperm.mem_iff.mpr hr') haccepts haccepts'
      rw [hreport', hmessage, hseverity]

/-- **The same findings** are reported in every order, where rules agree. -/
theorem mem_allFindings_of_perm (hperm : rules.Perm rules') (hsame : Unanimous rules text) (f : Finding) :
    f ∈ allFindings rules text ↔ f ∈ allFindings rules' text := by
  rw [mem_allFindings_iff, mem_allFindings_iff]
  simp only [← hperm.mem_iff]
  exact and_congr_right fun hfound => by rw [report?_eq_of_perm hperm hsame hfound]

/-! ## the main statement -/

/-- **The order of rules decides on nothing but the rule that reports a match.**  With the same rules in
another order a document has as many findings, whatever the limit.  As long as the limit is not reached, the
findings have the same spans; and they are the same findings, if rules that accept the text of a match have
the same message and severity. -/
theorem Config.order_only_attributes (c c' : Config) (h : c.lints.Perm c'.lints) (limit : Nat)
    (text : List Char) :
    (c.check limit text).length = (c'.check limit text).length ∧
    ((c.check limit text).length < limit →
      ((c.check limit text).map Finding.span).Perm ((c'.check limit text).map Finding.span) ∧
      (Unanimous (compileRules c.lints) text → (c.check limit text).Perm (c'.check limit text))) := by
  have hperm : (compileRules c.lints).Perm (compileRules c'.lints) := h.filterMap _
  have hspans := map_span_allFindings_perm hperm text
  have hlength : (c.check limit text).length = (c'.check limit text).length := by
    have hall := hspans.length_eq
    rw [List.length_map, List.length_map] at hall
    rw [check, check, checkCompiled_eq_take, checkCompiled_eq_take, List.length_take, List.length_take]
    exact congrArg (min limit) hall
  refine ⟨hlength, fun hlt => ?_⟩
  have hall : c.check limit text = allFindings (compileRules c.lints) text :=
    checkCompiled_eq_of_length_lt hlt
  have hall' : c'.check limit text = allFindings (compileRules c'.lints) text :=
    checkCompiled_eq_of_length_lt (hlength ▸ hlt)
  constructor
  · rw [hall, hall']
    exact hspans
  · intro hsame
    rw [List.perm_ext_iff_of_nodup (c.nodup_check limit text) (c'.nodup_check limit text), hall, hall']
    exact mem_allFindings_of_perm hperm hsame

/-- Two rules that accept different texts, one of which finds a match of the other's: in the other order the
findings are the same, and the last one comes first. -/
theorem Config.swapped_rules_agree :
    let single : Rule := { test := "a|bb", predicate := some "^a$", ownMessage := some "single" }
    let several : Rule := { test := "b+", predicate := some "^b+$", ownSeverity := some .hint }
    let c : Config := ⟨false, [single, several]⟩
    let c' : Config := ⟨true, [several, single]⟩
    let text := "abb b".toList
    let a : Finding := ⟨⟨0, 1⟩, "single", .error⟩
    let bb : Finding := ⟨⟨1, 3⟩, "Unexpected Item", .hint⟩
    let b : Finding := ⟨⟨4, 5⟩, "Unexpected Item", .hint⟩
    c.check 100 text = [a, bb, b] ∧ c'.check 100 text = [bb, b, a] ∧
      Unanimous (compileRules c.lints) text ∧ (c.check 100 text).Perm (c'.check 100 text) := by
  intro single several c c' text a bb b
  have hcheck : c.check 100 text = [a, bb, b] := by decide +kernel
  have hcheck' : c'.check 100 text = [bb, b, a] := by decide +kernel
  have hsame : Unanimous (compileRules c.lints) text := by decide +kernel
  obtain ⟨-, hreported⟩ := order_only_attributes c c' (.swap ..) 100 text
  exact ⟨hcheck, hcheck', hsame, (hreported (by rw [hcheck]; decide)).2 hsame⟩

end LintServer
