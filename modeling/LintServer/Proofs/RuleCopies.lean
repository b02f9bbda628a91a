import LintServer.Proofs.Extension

/-!
# Copies of rules

A rule may look for the same as a rule before it: it has the same patterns, whatever its message and
severity.  Such a copy takes part in everything.  It finds matches, it is asked whether it accepts those of
all other rules, and the limit may be reached while its matches are gone through.  Yet it makes no difference:

* `report?_copy` — whatever it accepts, the rule before it has accepted;
* `eraseDups_append_of_subset` — what it finds is there already;
* `checkCompiled_copy` — so the findings are the same without it, in the same order and with every limit.

The main statement is `Config.copies_change_nothing`.
-/

namespace LintServer

/-- A rule looks for the same as another one, whatever the two say of it. -/
def Rule.Copies (copy r : Rule) : Prop := copy.test = r.test ∧ copy.predicate = r.predicate

instance (copy r : Rule) : Decidable (copy.Copies r) :=
  inferInstanceAs (Decidable (copy.test = r.test ∧ copy.predicate = r.predicate))

/-! ## compiled rules -/

/-- Elements that are in a list already add nothing to it when repetitions are left out. -/
theorem eraseDups_append_of_subset {α : Type} [BEq α] [LawfulBEq α] {xs ys : List α} (h : ys ⊆ xs)
    (zs : List α) : (xs ++ (ys ++ zs)).eraseDups = (xs ++ zs).eraseDups := by
  have hnone : ys.removeAll xs = [] := by
    rw [List.removeAll, List.filter_eq_nil_iff]
    intro y hy
    simp [h hy]
  rw [List.eraseDups_append, List.eraseDups_append, List.removeAll, List.filter_append, ← List.removeAll,
    ← List.removeAll, hnone, List.nil_append]

variable {before after : List CompiledRule} {r copy : CompiledRule} {text : List Char}

/-- A copy is never the first rule that accepts a text. -/
theorem find?_accepts_copy (hr : r ∈ before) (h : copy.predicate = r.predicate) (word : List Char) :
    (before ++ copy :: after).find? (·.accepts word) = (before ++ after).find? (·.accepts word) := by
  have hsame : copy.accepts word = r.accepts word := by rw [CompiledRule.accepts, h, CompiledRule.accepts]
  rw [List.find?_append, List.find?_append]
  cases hfirst : before.find? (·.accepts word) with
  | some first => rfl
  | none =>
      have hrefused : ¬ r.accepts word = true := List.find?_eq_none.mp hfirst r hr
      rw [List.find?_cons_of_neg (by rw [hsame]; exact hrefused)]

/-- **A match is reported** as it is without the copy. -/
theorem report?_copy (hr : r ∈ before) (h : copy.predicate = r.predicate) :
    report? (before ++ copy :: after) text = report? (before ++ after) text := by
  funext s
  rw [report?, report?, find?_accepts_copy hr h]

/-- **A copy of a rule makes no difference** behind it, with any limit. -/
theorem checkCompiled_copy (hr : r ∈ before) (htest : copy.test = r.test)
    (hpredicate : copy.predicate = r.predicate) (limit : Nat) (text : List Char) :
    checkCompiled limit (before ++ copy :: after) text = checkCompiled limit (before ++ after) text := by
  rw [checkCompiled_eq_take, checkCompiled_eq_take, report?_copy hr hpredicate, List.flatMap_append,
    List.flatMap_cons, List.flatMap_append]
  congr 1
  apply eraseDups_append_of_subset
  -- the matches of the copy are those of the rule
  rw [htest]
  exact fun f hf => List.mem_flatMap.mpr ⟨r, hr, hf⟩

/-! ## rules -/

/-- A copy is compiled to a copy, or not at all if the rule is not. -/
theorem Rule.Copies.compile_eq {copy r : Rule} (h : copy.Copies r) :
    copy.compile = r.compile.map fun k => { k with message := copy.message, severity := copy.severity } := by
  obtain ⟨htest, hpredicate⟩ := h
  rw [Rule.compile, Rule.compile, htest, hpredicate]
  cases Regex.compile r.test with
  | error e => rfl
  | ok test =>
      cases r.predicate with
      | none => rfl
      | some p => cases hp : Regex.compile p <;> simp [hp, bind, Except.bind, Except.map, pure, Except.pure]

theorem compileRules_append (rules more : List Rule) :
    compileRules (rules ++ more) = compileRules rules ++ compileRules more := List.filterMap_append

/-- **A copy of a rule makes no difference** behind it, whether its patterns can be compiled or not. -/
theorem checkCompiled_compileRules_copy {before : List Rule} {r copy : Rule} (hr : r ∈ before)
    (h : copy.Copies r) (after : List Rule) (limit : Nat) (text : List Char) :
    checkCompiled limit (compileRules (before ++ copy :: after)) text =
      checkCompiled limit (compileRules (before ++ after)) text := by
  rw [compileRules_append, compileRules_append]
  cases hcompile : r.compile with
  | error e =>
      have hcopy : compileRules (copy :: after) = compileRules after := by
        simp [compileRules, h.compile_eq, hcompile, Except.map, Except.toOption]
      rw [hcopy]
  | ok k =>
      have hk : k ∈ compileRules before := List.mem_filterMap.mpr ⟨r, hr, by rw [hcompile]; rfl⟩
      have hcopy : compileRules (copy :: after) =
          { k with message := copy.message, severity := copy.severity } :: compileRules after := by
        simp [compileRules, h.compile_eq, hcompile, Except.map, Except.toOption]
      rw [hcopy]
      exact checkCompiled_copy hk (by rfl) (by rfl) limit text

/-- **Copies of some rules make no difference** behind them, however many they are. -/
theorem checkCompiled_compileRules_copies (own before more : List Rule) (hown : own ⊆ before) (limit : Nat)
    (text : List Char) :
    checkCompiled limit (compileRules (before ++ more)) text =
      checkCompiled limit (compileRules (before ++ more.filter fun r => ¬ ∃ r' ∈ own, r.Copies r')) text := by
  induction more generalizing before with
  | nil => rfl
  | cons r more ih =>
      by_cases hcopy : ∃ r' ∈ own, r.Copies r'
      · obtain ⟨r', hr', hcopies⟩ := id hcopy
        rw [List.filter_cons_of_neg (by simpa using hcopy), ← ih before hown]
        exact checkCompiled_compileRules_copy (hown hr') hcopies more limit text
      · have hnext := ih (before ++ [r]) (fun x hx => List.mem_append_left [r] (hown hx))
        rw [List.filter_cons_of_pos (by simpa using hcopy)]
        simpa using hnext

/-! ## the main statement -/

/-- **A rule that was there before makes no difference.**  A rule with the same patterns as one before it may
be left out, whatever its message and severity and whatever is between the two: the findings stay the same,
in the same order and with every limit.  So a configuration that has some of the base rules itself, and is
extended by all of them, has the findings that it has when it is extended by the others only; and if it has
all of them itself, to extend it changes nothing. -/
theorem Config.copies_change_nothing (c : Config) (limit : Nat) (text : List Char) :
    (∀ (i j : Nat) (r copy : Rule), i < j → c.lints[i]? = some r → c.lints[j]? = some copy →
      copy.Copies r → ({ c with lints := c.lints.eraseIdx j }).check limit text = c.check limit text) ∧
    ∀ base : List Rule,
      let others := base.filter fun r => ¬ ∃ own ∈ c.lints, r.Copies own
      (c.applyBase base).check limit text = (c.applyBase others).check limit text ∧
      ((∀ r ∈ base, ∃ own ∈ c.lints, r.Copies own) →
        (c.applyBase base).check limit text = c.check limit text) := by
  constructor
  · intro i j r copy hij hr hcopy h
    have hbefore : r ∈ c.lints.take j := by
      apply List.mem_of_getElem? (i := i)
      rw [List.getElem?_take_of_lt hij, hr]
    have hlints : c.lints = c.lints.take j ++ copy :: c.lints.drop (j + 1) := by
      obtain ⟨hj, hget⟩ := List.getElem?_eq_some_iff.mp hcopy
      rw [← hget, List.getElem_cons_drop, List.take_append_drop]
    rw [check, check, List.eraseIdx_eq_take_drop_succ]
    nth_rewrite 3 [hlints]
    exact (checkCompiled_compileRules_copy hbefore h _ limit text).symm
  · intro base others
    have hothers : (c.applyBase base).check limit text = (c.applyBase others).check limit text := by
      rw [applyBase_eq, applyBase_eq]
      cases c.extendsBase with
      | false => rfl
      | true => exact checkCompiled_compileRules_copies c.lints c.lints base (List.Subset.refl _) limit text
    refine ⟨hothers, fun hcopies => ?_⟩
    have hnone : others = [] := List.filter_eq_nil_iff.mpr fun r hr => by simpa using hcopies r hr
    rw [hothers, hnone, applyBase_eq, ite_self, List.append_nil]
    rfl

/-- A copy with another message, behind its rule and once more among the base rules: neither of the two makes
a difference, and the other base rule does. -/
theorem Config.copy_in_base_rules :
    let own : Rule := { test := "a+", predicate := some "^a+$", ownMessage := some "own" }
    let other : Rule := { test := "[ab]", predicate := some "b" }
    let copy : Rule := { own with ownMessage := some "copy", ownSeverity := some .hint }
    let c : Config := ⟨true, [own, other, copy]⟩
    let text := "aab c".toList
    c.check 2 text = [⟨⟨0, 2⟩, "own", .error⟩, ⟨⟨0, 1⟩, "own", .error⟩] ∧
      ({ c with lints := [own, other] }).check 2 text = c.check 2 text ∧
      (c.applyBase [copy, { test := "c" }]).check 100 text = (c.applyBase [{ test := "c" }]).check 100 text ∧
      (c.applyBase [{ test := "c" }]).check 100 text ≠ c.check 100 text := by
  intro own other copy c text
  obtain ⟨herase, -⟩ := c.copies_change_nothing 2 text
  obtain ⟨-, hextend⟩ := c.copies_change_nothing 100 text
  exact ⟨by decide +kernel, herase 0 2 own copy (by decide) rfl rfl ⟨rfl, rfl⟩,
    (hextend [copy, { test := "c" }]).1, by decide +kernel⟩

end LintServer
