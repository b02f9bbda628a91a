import Mathlib.Data.List.Forall2
import LintServer.Proofs.Tables
import LintServer.Rule.Schema

/-!
# The layout of configurations

A configuration is read entry by entry, and what was read so far is kept in a draft; the first fault ends
it.  Here the layout is described as a whole, by what a tree of values has to look like and which
configuration it then says:

* `SaysSeverity`, `SaysRule`, `SaysConfig` — the layout, from the inside out;
* `readSeverity_eq_ok_iff`, `readRule_eq_ok_iff`, `readConfig_eq_ok_iff` — what is read is what the tree
  says, if every table in it has every key once.

A document gives such a tree (`Toml.tidy_of_parse`), so for documents nothing else is needed.  The main
statement is `parseConfig_of_parse`.
-/

namespace LintServer

open LintServer.Toml

/-! ## the layout -/

/-- A value says a text: by itself. -/
inductive SaysText : Value → String → Prop
  | text (s : String) : SaysText (.string s) s

/-- A value says a severity: by its name, or by a table with that name as its only key and nothing
under it. -/
inductive SaysSeverity : Value → Severity → Prop
  | name (s : Severity) : SaysSeverity (.string s.name) s
  | emptyTable (s : Severity) : SaysSeverity (.table [(s.name, .table [])]) s
  | emptyArray (s : Severity) : SaysSeverity (.table [(s.name, .array [])]) s

/-- The entries of a table say a rule. -/
structure SaysRuleFields (entries : List (String × Value)) (r : Rule) : Prop where
  known : ∀ e ∈ entries, e.1 ∈ ["test", "rule", "message", "type"]
  test : entries.lookup "test" = some (.string r.test)
  predicate : entries.lookup "rule" = r.predicate.map .string
  message : entries.lookup "message" = r.ownMessage.map .string
  severity : Option.Rel SaysSeverity (entries.lookup "type") r.ownSeverity

/-- A value says a rule: a table with the fields of the rule, or an array that starts with all four. -/
inductive SaysRule : Value → Rule → Prop
  | table {entries : List (String × Value)} {r : Rule} (h : SaysRuleFields entries r) :
      SaysRule (.table entries) r
  | array (test predicate message : String) {v : Value} {s : Severity} (h : SaysSeverity v s)
      (more : List Value) :
      SaysRule (.array (.string test :: .string predicate :: .string message :: v :: more))
        ⟨test, some predicate, some message, some s⟩

/-- A value says rules: by an array that says each of them. -/
inductive SaysRules : Value → List Rule → Prop
  | array {items : List Value} {rs : List Rule} (h : List.Forall₂ SaysRule items rs) :
      SaysRules (.array items) rs

/-- What stands under the two spellings of a key says whether the base rules are extended: there is at
most one of them, and they are extended if there is none. -/
inductive SaysExtendsBase : Option Value → Option Value → Bool → Prop
  | absent : SaysExtendsBase none none true
  | underscored (b : Bool) : SaysExtendsBase (some (.boolean b)) none b
  | capitalised (b : Bool) : SaysExtendsBase none (some (.boolean b)) b

/-- The entries of a table say a configuration. -/
structure SaysConfig (entries : List (String × Value)) (c : Config) : Prop where
  known : ∀ e ∈ entries, e.1 ∈ ["extends_base", "extendsBase", "lints"]
  extendsBase :
    SaysExtendsBase (entries.lookup "extends_base") (entries.lookup "extendsBase") c.extendsBase
  lints :
    match entries.lookup "lints" with
    | none => c.lints = []
    | some v => SaysRules v c.lints

/-! ## places -/

/-- A text is read from what says it. -/
theorem readText_eq_ok_iff {v : Value} {s : String} : readText v = .ok s ↔ SaysText v s := by
  constructor
  · intro h
    cases v with
    | string t =>
        rw [← Except.ok.inj h]
        exact .text t
    | _ => simp [readText] at h
  · rintro ⟨⟩
    rfl

/-- A truth value is read from a truth value only. -/
theorem readBoolean_eq_ok_iff {v : Value} {b : Bool} : readBoolean v = .ok b ↔ v = .boolean b := by
  cases v <;> simp [readBoolean]

/-- A severity has one name. -/
theorem readSeverityName_eq_ok_iff {name : String} {s : Severity} :
    readSeverityName name = .ok s ↔ name = s.name := by
  have hfind : Severity.ofName? name = some s ↔ name = s.name := by
    constructor
    · intro h
      have hname := List.find?_some h
      exact (eq_of_beq hname).symm
    · rintro rfl
      cases s <;> rfl
  rw [← hfind]
  unfold readSeverityName
  cases Severity.ofName? name <;> simp

/-- **A severity is read** from what says it. -/
theorem readSeverity_eq_ok_iff {v : Value} {s : Severity} :
    readSeverity v = .ok s ↔ SaysSeverity v s := by
  constructor
  · intro h
    unfold readSeverity at h
    split at h
    · rw [readSeverityName_eq_ok_iff.mp h]
      exact .name s
    · simp at h
    · obtain ⟨s', hname, hempty⟩ := exists_of_bind_eq_ok h
      rw [readSeverityName_eq_ok_iff.mp hname]
      split at hempty
      · rw [← Except.ok.inj hempty]
        exact .emptyTable s'
      · rw [← Except.ok.inj hempty]
        exact .emptyArray s'
      · simp at hempty
      · simp at hempty
      · simp at hempty
    · simp at h
    · simp at h
  · intro h
    have hname : readSeverityName s.name = .ok s := readSeverityName_eq_ok_iff.mpr rfl
    cases h with
    | name => exact hname
    | emptyTable => simp [readSeverity, hname, bind, Except.bind, pure, Except.pure]
    | emptyArray => simp [readSeverity, hname, bind, Except.bind, pure, Except.pure]

/-! ## fields -/

/-- What becomes of a field: it stays if there is no entry for it, and else it has what the entry
says. -/
inductive Settled {α : Type} (Says : Value → α → Prop) : Option Value → Option α → Option α → Prop
  | stays (a : Option α) : Settled Says none a a
  | said {v : Value} {a : α} (h : Says v a) (before : Option α) : Settled Says (some v) before (some a)

section Fields

variable {α : Type} {Says : Value → α → Prop} {key : String} {v : Value}
  {rest : List (String × Value)} {before after : Option α}

/-- Without an entry a field stays. -/
theorem settled_none_iff : Settled Says none before after ↔ after = before := by
  constructor
  · rintro ⟨⟩
    rfl
  · rintro rfl
    exact .stays after

/-- With an entry a field has what the entry says. -/
theorem settled_some_iff : Settled Says (some v) before after ↔ ∃ a, Says v a ∧ after = some a := by
  constructor
  · rintro ⟨⟩
    next a h => exact ⟨a, h, rfl⟩
  · rintro ⟨a, h, rfl⟩
    exact .said h before

/-- A key that stands before all others is not among them. -/
theorem lookup_eq_none_of_ascending (keys : Ascending ((key, v) :: rest)) : rest.lookup key = none := by
  rw [List.lookup_eq_none_iff]
  intro e he
  have hlt : key < e.1 := (List.pairwise_cons.mp keys).1 e he
  simpa using Std.ne_of_lt hlt

/-- **A field after several entries** is what the first one and then the others make of it. -/
theorem settled_cons_iff (keys : Ascending ((key, v) :: rest)) (field : String) :
    Settled Says (((key, v) :: rest).lookup field) before after ↔
      ∃ mid, Settled Says ([(key, v)].lookup field) before mid ∧
        Settled Says (rest.lookup field) mid after := by
  by_cases hkey : field = key
  · subst hkey
    simp [lookup_eq_none_of_ascending keys, settled_none_iff]
  · have hb : (field == key) = false := by simpa using hkey
    simp [List.lookup_cons, hb, settled_none_iff]

/-- A field that was not set before has what its entry says, if there is one, and else nothing. -/
theorem settled_unset_iff {found : Option Value} :
    Settled Says found none after ↔ Option.Rel Says found after := by
  constructor
  · intro h
    cases h with
    | stays => exact .none
    | said h => exact .some h
  · intro h
    cases h with
    | none => exact .stays none
    | some h => exact .said h none

end Fields

/-- An optional text is said by itself, if there is one. -/
theorem rel_saysText_iff {found : Option Value} {s : Option String} :
    Option.Rel SaysText found s ↔ found = s.map .string := by
  constructor
  · intro h
    cases h with
    | none => rfl
    | some h => cases h; rfl
  · rintro rfl
    cases s with
    | none => exact .none
    | some s => exact .some (.text s)

/-! ## rules -/

/-- What entries make of a draft of a rule. -/
structure RuleDraft.Filled (d : RuleDraft) (entries : List (String × Value)) (d' : RuleDraft) :
    Prop where
  known : ∀ e ∈ entries, e.1 ∈ ["test", "rule", "message", "type"]
  test : Settled SaysText (entries.lookup "test") d.test d'.test
  predicate : Settled SaysText (entries.lookup "rule") d.predicate d'.predicate
  message : Settled SaysText (entries.lookup "message") d.message d'.message
  severity : Settled SaysSeverity (entries.lookup "type") d.severity d'.severity

namespace RuleDraft

/-- One entry fills one field. -/
theorem add_eq_ok_iff {d d' : RuleDraft} {key : String} {v : Value} :
    d.add key v = .ok d' ↔ d.Filled [(key, v)] d' := by
  constructor
  · intro h
    unfold add at h
    split at h
    · obtain ⟨s, hs, rfl⟩ := exists_of_map_eq_ok h
      exact ⟨by simp, .said (readText_eq_ok_iff.mp hs) _, .stays _, .stays _, .stays _⟩
    · obtain ⟨s, hs, rfl⟩ := exists_of_map_eq_ok h
      exact ⟨by simp, .stays _, .said (readText_eq_ok_iff.mp hs) _, .stays _, .stays _⟩
    · obtain ⟨s, hs, rfl⟩ := exists_of_map_eq_ok h
      exact ⟨by simp, .stays _, .stays _, .said (readText_eq_ok_iff.mp hs) _, .stays _⟩
    · obtain ⟨s, hs, rfl⟩ := exists_of_map_eq_ok h
      exact ⟨by simp, .stays _, .stays _, .stays _, .said (readSeverity_eq_ok_iff.mp hs) _⟩
    · simp at h
  · rintro ⟨hknown, htest, hpredicate, hmessage, hseverity⟩
    have hkey : key ∈ ["test", "rule", "message", "type"] := hknown _ List.mem_cons_self
    simp only [List.mem_cons, List.not_mem_nil, or_false] at hkey
    obtain ⟨test, predicate, message, severity⟩ := d'
    rcases hkey with rfl | rfl | rfl | rfl
    · obtain ⟨s, hs, rfl⟩ := settled_some_iff.mp htest
      obtain rfl := settled_none_iff.mp hpredicate
      obtain rfl := settled_none_iff.mp hmessage
      obtain rfl := settled_none_iff.mp hseverity
      simp [add, readText_eq_ok_iff.mpr hs, Except.map]
    · obtain rfl := settled_none_iff.mp htest
      obtain ⟨s, hs, rfl⟩ := settled_some_iff.mp hpredicate
      obtain rfl := settled_none_iff.mp hmessage
      obtain rfl := settled_none_iff.mp hseverity
      simp [add, readText_eq_ok_iff.mpr hs, Except.map]
    · obtain rfl := settled_none_iff.mp htest
      obtain rfl := settled_none_iff.mp hpredicate
      obtain ⟨s, hs, rfl⟩ := settled_some_iff.mp hmessage
      obtain rfl := settled_none_iff.mp hseverity
      simp [add, readText_eq_ok_iff.mpr hs, Except.map]
    · obtain rfl := settled_none_iff.mp htest
      obtain rfl := settled_none_iff.mp hpredicate
      obtain rfl := settled_none_iff.mp hmessage
      obtain ⟨s, hs, rfl⟩ := settled_some_iff.mp hseverity
      simp [add, readSeverity_eq_ok_iff.mpr hs, Except.map]

/-- **The entries of a rule**, one after the other. -/
theorem addAll_eq_ok_iff {d d' : RuleDraft} {entries : List (String × Value)}
    (keys : Ascending entries) : d.addAll entries = .ok d' ↔ d.Filled entries d' := by
  induction entries generalizing d with
  | nil =>
      simp only [addAll, Except.ok.injEq]
      constructor
      · rintro rfl
        exact ⟨by simp, .stays _, .stays _, .stays _, .stays _⟩
      · rintro ⟨-, htest, hpredicate, hmessage, hseverity⟩
        cases d; cases d'
        simp_all [settled_none_iff]
  | cons e rest ih =>
      obtain ⟨key, v⟩ := e
      have hrest := (List.pairwise_cons.mp keys).2
      have hadd : d.addAll ((key, v) :: rest) = .ok d' ↔
          ∃ mid, d.Filled [(key, v)] mid ∧ mid.Filled rest d' := by
        simp only [← add_eq_ok_iff, ← ih hrest, addAll]
        cases d.add key v <;> simp
      rw [hadd]
      constructor
      · rintro ⟨mid, hfirst, hmore⟩
        refine ⟨List.forall_mem_cons.mpr ⟨hfirst.known _ List.mem_cons_self, hmore.known⟩, ?_, ?_, ?_, ?_⟩
        · exact (settled_cons_iff keys _).mpr ⟨_, hfirst.test, hmore.test⟩
        · exact (settled_cons_iff keys _).mpr ⟨_, hfirst.predicate, hmore.predicate⟩
        · exact (settled_cons_iff keys _).mpr ⟨_, hfirst.message, hmore.message⟩
        · exact (settled_cons_iff keys _).mpr ⟨_, hfirst.severity, hmore.severity⟩
      · rintro ⟨hknown, htest, hpredicate, hmessage, hseverity⟩
        obtain ⟨hkey, hmore⟩ := List.forall_mem_cons.mp hknown
        obtain ⟨test, htest, htest'⟩ := (settled_cons_iff keys _).mp htest
        obtain ⟨predicate, hpredicate, hpredicate'⟩ := (settled_cons_iff keys _).mp hpredicate
        obtain ⟨message, hmessage, hmessage'⟩ := (settled_cons_iff keys _).mp hmessage
        obtain ⟨severity, hseverity, hseverity'⟩ := (settled_cons_iff keys _).mp hseverity
        refine ⟨⟨test, predicate, message, severity⟩, ⟨?_, htest, hpredicate, hmessage, hseverity⟩,
          ⟨hmore, htest', hpredicate', hmessage', hseverity'⟩⟩
        simpa using hkey

/-- A draft with a test is a rule. -/
theorem finish_eq_ok_iff {d : RuleDraft} {r : Rule} :
    d.finish = .ok r ↔ d = ⟨some r.test, r.predicate, r.ownMessage, r.ownSeverity⟩ := by
  obtain ⟨test, predicate, message, severity⟩ := d
  cases r
  cases test <;> simp [finish]

end RuleDraft

/-- **A table is read** for the rule that its entries say. -/
theorem readRuleFields_eq_ok_iff {entries : List (String × Value)} {r : Rule}
    (keys : Ascending entries) :
    (({} : RuleDraft).addAll entries).bind RuleDraft.finish = .ok r ↔ SaysRuleFields entries r := by
  have hread : (({} : RuleDraft).addAll entries).bind RuleDraft.finish = .ok r ↔
      RuleDraft.Filled {} entries ⟨some r.test, r.predicate, r.ownMessage, r.ownSeverity⟩ := by
    rw [← RuleDraft.addAll_eq_ok_iff keys]
    cases ({} : RuleDraft).addAll entries with
    | error e => simp [Except.bind]
    | ok d => simp [Except.bind, RuleDraft.finish_eq_ok_iff]
  rw [hread]
  constructor
  · rintro ⟨hknown, htest, hpredicate, hmessage, hseverity⟩
    exact ⟨hknown, rel_saysText_iff.mp (settled_unset_iff.mp htest),
      rel_saysText_iff.mp (settled_unset_iff.mp hpredicate),
      rel_saysText_iff.mp (settled_unset_iff.mp hmessage), settled_unset_iff.mp hseverity⟩
  · rintro ⟨hknown, htest, hpredicate, hmessage, hseverity⟩
    exact ⟨hknown, settled_unset_iff.mpr (rel_saysText_iff.mpr htest),
      settled_unset_iff.mpr (rel_saysText_iff.mpr hpredicate),
      settled_unset_iff.mpr (rel_saysText_iff.mpr hmessage), settled_unset_iff.mpr hseverity⟩

/-- **An array is read** for the rule that its first four elements say. -/
theorem readRuleArray_eq_ok_iff {items : List Value} {r : Rule} :
    readRuleArray items = .ok r ↔ SaysRule (.array items) r := by
  constructor
  · intro h
    unfold readRuleArray at h
    split at h
    · simp at h
    · obtain ⟨test, htest, h⟩ := exists_of_bind_eq_ok h
      split at h
      · simp at h
      · obtain ⟨predicate, hpredicate, h⟩ := exists_of_bind_eq_ok h
        split at h
        · simp at h
        · obtain ⟨message, hmessage, h⟩ := exists_of_bind_eq_ok h
          split at h
          · simp at h
          · obtain ⟨s, hs, hr⟩ := exists_of_bind_eq_ok h
            cases readText_eq_ok_iff.mp htest
            cases readText_eq_ok_iff.mp hpredicate
            cases readText_eq_ok_iff.mp hmessage
            rw [← Except.ok.inj hr]
            exact .array test predicate message (readSeverity_eq_ok_iff.mp hs) _
  · rintro ⟨⟩
    next test predicate message v s hs more =>
      simp [readRuleArray, readText, readSeverity_eq_ok_iff.mpr hs, bind, Except.bind, pure,
        Except.pure]

/-- **A rule is read** from what says it. -/
theorem readRule_eq_ok_iff {v : Value} {r : Rule} (h : v.Tidy) :
    readRule v = .ok r ↔ SaysRule v r := by
  cases h with
  | table keys values =>
      simp only [readRule, readRuleFields_eq_ok_iff keys]
      constructor
      · exact .table
      · rintro ⟨⟩
        assumption
  | array items => exact readRuleArray_eq_ok_iff
  | _ =>
      simp only [readRule, reduceCtorEq, false_iff]
      rintro ⟨⟩

/-- **Rules are read** one by one, in the order in which they are said. -/
theorem readRules_eq_ok_iff {items : List Value} {rs : List Rule} (h : ∀ v ∈ items, v.Tidy) :
    readRules items = .ok rs ↔ List.Forall₂ SaysRule items rs := by
  induction items generalizing rs with
  | nil => simp [readRules, eq_comm]
  | cons v vs ih =>
      obtain ⟨hv, hvs⟩ := List.forall_mem_cons.mp h
      rw [List.forall₂_cons_left_iff, readRules]
      simp only [← ih hvs, ← readRule_eq_ok_iff hv]
      constructor
      · intro hread
        obtain ⟨r, hr, hread⟩ := exists_of_bind_eq_ok hread
        obtain ⟨rest, hrest, hread⟩ := exists_of_bind_eq_ok hread
        exact ⟨r, rest, hr, hrest, (Except.ok.inj hread).symm⟩
      · rintro ⟨r, rest, hr, hrest, rfl⟩
        rw [hr, hrest]
        rfl

/-! ## configurations -/

/-- What becomes of the truth value of a draft: it stays if there is no entry for it, and it is set by
the only entry for it if it was not set before. -/
inductive SettledOnce : Option Value → Option Value → Option Bool → Option Bool → Prop
  | stays (b : Option Bool) : SettledOnce none none b b
  | underscored (b : Bool) : SettledOnce (some (.boolean b)) none none (some b)
  | capitalised (b : Bool) : SettledOnce none (some (.boolean b)) none (some b)

/-- **The truth value after several entries** is what the first one and then the others make of it. -/
theorem settledOnce_cons_iff {key : String} {v : Value} {rest : List (String × Value)}
    {before after : Option Bool} (keys : Ascending ((key, v) :: rest)) :
    SettledOnce (((key, v) :: rest).lookup "extends_base") (((key, v) :: rest).lookup "extendsBase")
        before after ↔
      ∃ mid, SettledOnce ([(key, v)].lookup "extends_base") ([(key, v)].lookup "extendsBase") before mid ∧
        SettledOnce (rest.lookup "extends_base") (rest.lookup "extendsBase") mid after := by
  have hnone := lookup_eq_none_of_ascending keys
  by_cases hunderscored : key = "extends_base"
  · subst hunderscored
    have hne : ("extendsBase" == "extends_base") = false := by decide
    simp only [List.lookup_cons_self, List.lookup_cons, hne, List.lookup_nil, hnone]
    generalize rest.lookup "extendsBase" = found
    constructor
    · rintro ⟨⟩
      next b => exact ⟨some b, .underscored b, .stays _⟩
    · rintro ⟨mid, ⟨⟩, ⟨⟩⟩
      exact .underscored _
  by_cases hcapitalised : key = "extendsBase"
  · subst hcapitalised
    have hne : ("extends_base" == "extendsBase") = false := by decide
    simp only [List.lookup_cons_self, List.lookup_cons, hne, List.lookup_nil, hnone]
    generalize rest.lookup "extends_base" = found
    constructor
    · rintro ⟨⟩
      next b => exact ⟨some b, .capitalised b, .stays _⟩
    · rintro ⟨mid, ⟨⟩, ⟨⟩⟩
      exact .capitalised _
  · have hb : ("extends_base" == key) = false := by simpa using fun h => hunderscored h.symm
    have hb' : ("extendsBase" == key) = false := by simpa using fun h => hcapitalised h.symm
    simp only [List.lookup_cons, hb, hb', List.lookup_nil]
    constructor
    · intro h
      exact ⟨before, .stays before, h⟩
    · rintro ⟨mid, ⟨⟩, h⟩
      exact h

/-- What entries make of a draft of a configuration. -/
structure ConfigDraft.Filled (d : ConfigDraft) (entries : List (String × Value)) (d' : ConfigDraft) :
    Prop where
  known : ∀ e ∈ entries, e.1 ∈ ["extends_base", "extendsBase", "lints"]
  extendsBase : SettledOnce (entries.lookup "extends_base") (entries.lookup "extendsBase")
    d.extendsBase d'.extendsBase
  lints : Settled SaysRules (entries.lookup "lints") d.lints d'.lints

namespace ConfigDraft

/-- One entry fills one field, and the truth value is filled only once. -/
theorem add_eq_ok_iff {d d' : ConfigDraft} {key : String} {v : Value} (h : v.Tidy) :
    d.add key v = .ok d' ↔ d.Filled [(key, v)] d' := by
  constructor
  · intro hadd
    unfold add at hadd
    split at hadd
    · next hkey =>
        split at hadd
        · simp at hadd
        · next hunset =>
            obtain ⟨b, hb, rfl⟩ := exists_of_map_eq_ok hadd
            obtain rfl := readBoolean_eq_ok_iff.mp hb
            rcases hkey with rfl | rfl
            · exact ⟨by simp, hunset ▸ .underscored b, .stays _⟩
            · exact ⟨by simp, hunset ▸ .capitalised b, .stays _⟩
    split at hadd
    · next hkey =>
        subst hkey
        split at hadd
        · obtain ⟨rs, hrs, rfl⟩ := exists_of_map_eq_ok hadd
          cases h with
          | array items =>
              exact ⟨by simp, .stays _, .said (.array ((readRules_eq_ok_iff items).mp hrs)) _⟩
        · simp at hadd
    · simp at hadd
  · rintro ⟨hknown, hextends, hlints⟩
    have hkey : key ∈ ["extends_base", "extendsBase", "lints"] := hknown _ List.mem_cons_self
    simp only [List.mem_cons, List.not_mem_nil, or_false] at hkey
    obtain ⟨extendsBase, lints⟩ := d
    obtain ⟨extendsBase', lints'⟩ := d'
    rcases hkey with rfl | rfl | rfl
    · obtain rfl := settled_none_iff.mp hlints
      change SettledOnce (some v) none extendsBase extendsBase' at hextends
      cases hextends
      rfl
    · obtain rfl := settled_none_iff.mp hlints
      change SettledOnce none (some v) extendsBase extendsBase' at hextends
      cases hextends
      rfl
    · obtain ⟨rs, ⟨hrs⟩, rfl⟩ := settled_some_iff.mp hlints
      change SettledOnce none none extendsBase extendsBase' at hextends
      cases hextends
      cases h with
      | array items => simp [add, (readRules_eq_ok_iff items).mpr hrs, Except.map]

/-- **The entries of a configuration**, one after the other. -/
theorem addAll_eq_ok_iff {d d' : ConfigDraft} {entries : List (String × Value)}
    (keys : Ascending entries) (values : ∀ e ∈ entries, e.2.Tidy) :
    d.addAll entries = .ok d' ↔ d.Filled entries d' := by
  induction entries generalizing d with
  | nil =>
      simp only [addAll, Except.ok.injEq]
      constructor
      · rintro rfl
        exact ⟨by simp, .stays _, .stays _⟩
      · rintro ⟨-, hextends, hlints⟩
        obtain ⟨extendsBase, lints⟩ := d
        obtain ⟨extendsBase', lints'⟩ := d'
        cases hextends
        cases hlints
        rfl
  | cons e rest ih =>
      obtain ⟨key, v⟩ := e
      obtain ⟨hv, hvalues⟩ := List.forall_mem_cons.mp values
      have hrest := (List.pairwise_cons.mp keys).2
      have hadd : d.addAll ((key, v) :: rest) = .ok d' ↔
          ∃ mid, d.Filled [(key, v)] mid ∧ mid.Filled rest d' := by
        simp only [← add_eq_ok_iff hv, ← ih hrest hvalues, addAll]
        cases d.add key v <;> simp
      rw [hadd]
      constructor
      · rintro ⟨mid, hfirst, hmore⟩
        exact ⟨List.forall_mem_cons.mpr ⟨hfirst.known _ List.mem_cons_self, hmore.known⟩,
          (settledOnce_cons_iff keys).mpr ⟨_, hfirst.extendsBase, hmore.extendsBase⟩,
          (settled_cons_iff keys _).mpr ⟨_, hfirst.lints, hmore.lints⟩⟩
      · rintro ⟨hknown, hextends, hlints⟩
        obtain ⟨hkey, hmore⟩ := List.forall_mem_cons.mp hknown
        obtain ⟨extendsBase, hextends, hextends'⟩ := (settledOnce_cons_iff keys).mp hextends
        obtain ⟨lints, hlints, hlints'⟩ := (settled_cons_iff keys _).mp hlints
        refine ⟨⟨extendsBase, lints⟩, ⟨?_, hextends, hlints⟩, ⟨hmore, hextends', hlints'⟩⟩
        simpa using hkey

end ConfigDraft

/-- Whether the base rules are extended is the truth value if it was set, and else they are. -/
theorem saysExtendsBase_iff {underscored capitalised : Option Value} {b : Bool} :
    SaysExtendsBase underscored capitalised b ↔
      ∃ after, SettledOnce underscored capitalised none after ∧ after.getD true = b := by
  constructor
  · intro h
    cases h with
    | absent => exact ⟨none, .stays none, rfl⟩
    | underscored => exact ⟨some b, .underscored b, rfl⟩
    | capitalised => exact ⟨some b, .capitalised b, rfl⟩
  · rintro ⟨after, h, rfl⟩
    cases h with
    | stays => exact .absent
    | underscored b => exact .underscored b
    | capitalised b => exact .capitalised b

/-- The rules are the ones set, and else none. -/
theorem saysLints_iff {found : Option Value} {rs : List Rule} :
    (match found with
      | none => rs = []
      | some v => SaysRules v rs) ↔
      ∃ after, Settled SaysRules found none after ∧ after.getD [] = rs := by
  constructor
  · intro h
    cases found with
    | none => exact ⟨none, .stays none, h.symm⟩
    | some v => exact ⟨some rs, .said h none, rfl⟩
  · rintro ⟨after, h, rfl⟩
    cases h with
    | stays => rfl
    | said h => exact h

/-- **A configuration is read** from a table that says it. -/
theorem readConfig_eq_ok_iff {entries : List (String × Value)} {c : Config}
    (h : (Value.table entries).Tidy) : readConfig entries = .ok c ↔ SaysConfig entries c := by
  cases h with
  | table keys values =>
      unfold readConfig
      constructor
      · intro hread
        obtain ⟨d, hd, rfl⟩ := exists_of_map_eq_ok hread
        obtain ⟨hknown, hextends, hlints⟩ := (ConfigDraft.addAll_eq_ok_iff keys values).mp hd
        exact ⟨hknown, saysExtendsBase_iff.mpr ⟨_, hextends, rfl⟩, saysLints_iff.mpr ⟨_, hlints, rfl⟩⟩
      · obtain ⟨extendsBase, lints⟩ := c
        rintro ⟨hknown, hextends, hlints⟩
        obtain ⟨extendsBase', hsettled, rfl⟩ := saysExtendsBase_iff.mp hextends
        obtain ⟨lints', hsettled', rfl⟩ := saysLints_iff.mp hlints
        have hd : ({} : ConfigDraft).addAll entries = .ok ⟨extendsBase', lints'⟩ :=
          (ConfigDraft.addAll_eq_ok_iff keys values).mpr ⟨hknown, hsettled, hsettled'⟩
        rw [hd]
        rfl

/-! ## the main statement -/

/-- **What a document says is what is read.**  For a document without a fault of its own, that is with a
tree of values:

* a configuration is read if and only if the tree says it;
* if the tree says none, there is a fault of the layout, and no configuration is read. -/
theorem parseConfig_of_parse {text : String} {entries : List (String × Value)}
    (h : Toml.parse text = .ok entries) :
    (∀ c, parseConfig text = .ok c ↔ SaysConfig entries c) ∧
      ((¬∃ c, SaysConfig entries c) ↔ ∃ e, parseConfig text = .error (.schema e)) := by
  have hread (c : Config) : parseConfig text = .ok c ↔ SaysConfig entries c := by
    rw [← readConfig_eq_ok_iff (tidy_of_parse h)]
    simp only [parseConfig, h]
    cases readConfig entries <;> simp [Except.mapError]
  refine ⟨hread, ?_⟩
  simp only [← hread, parseConfig, h]
  cases readConfig entries <;> simp [Except.mapError]

/-- A rule with a one-key table as its severity is read; one with a date there is a fault of the
layout. -/
theorem parseConfig_severity_shapes :
    parseConfig "extendsBase = false\n[[lints]]\ntest = 'x'\n[lints.type]\nHint = []" =
        .ok ⟨false, [⟨"x", none, none, some .hint⟩]⟩ ∧
      ∃ e, parseConfig "lints = [['x', 'y', 'z', 1979-05-27]]" = .error (.schema e) := by
  have hread : Toml.parse "extendsBase = false\n[[lints]]\ntest = 'x'\n[lints.type]\nHint = []" =
      .ok [("extendsBase", .boolean false),
        ("lints", .array [.table [("test", .string "x"), ("type", .table [("Hint", .array [])])]])] := by
    exact (parse_ofList _).trans rfl
  have hdate : Toml.parse "lints = [['x', 'y', 'z', 1979-05-27]]" =
      .ok [("lints", .array [.array [.string "x", .string "y", .string "z", .datetime]])] := by
    exact (parse_ofList _).trans rfl
  constructor
  · refine ((parseConfig_of_parse hread).1 _).mpr ⟨by simp, .capitalised false, ?_⟩
    refine .array (.cons (.table ⟨by simp, rfl, rfl, rfl, ?_⟩) .nil)
    exact .some (.emptyArray .hint)
  · refine (parseConfig_of_parse hdate).2.mp ?_
    rintro ⟨c, -, -, ⟨hrules⟩⟩
    obtain ⟨r, rest, hrule, -, -⟩ := List.forall₂_cons_left_iff.mp hrules
    cases hrule with
    | array _ _ _ hseverity => cases hseverity

end LintServer
