import LintServer.Proofs.Lookup
import LintServer.Toml.Document

/-!
# Tables have every key once

The tree of a document is built piece by piece: headers open tables in the middle of it, dotted keys
reach into tables that are there, and inline tables are built in the same way on their own.  Whatever
the pieces are, at the end the keys of every table are in ascending order, and so each is there once:

* `Entries.Tidy.set` — an entry that is set goes to its place in the order;
* `tidy_of_atHeader`, `tidy_of_putDotted` — so does one that is set deep in the tree;
* `tidy_read` — the values that are read are in order at every depth.

The main statement is `tidy_of_parse`.
-/

namespace LintServer.Toml

/-! ## trees in order -/

/-- The keys of entries are in ascending order, each once. -/
def Ascending {α : Type} (entries : List (String × α)) : Prop := entries.Pairwise (·.1 < ·.1)

/-- The keys of all tables in a value are in ascending order. -/
inductive Value.Tidy : Value → Prop
  | string (s : String) : Tidy (.string s)
  | integer (n : Int) : Tidy (.integer n)
  | float (x : Binary64) : Tidy (.float x)
  | boolean (b : Bool) : Tidy (.boolean b)
  | datetime : Tidy .datetime
  | array {items : List Value} (items_tidy : ∀ v ∈ items, Tidy v) : Tidy (.array items)
  | table {entries : List (String × Value)} (keys : Ascending entries)
      (values : ∀ e ∈ entries, Tidy e.2) : Tidy (.table entries)

/-- The keys of all tables in a part of a document are in ascending order. -/
inductive Node.Tidy : Node → Prop
  | value {v : Value} (h : v.Tidy) : Tidy (.value v)
  | table (origin : Origin) {entries : List (String × Node)} (keys : Ascending entries)
      (nodes : ∀ e ∈ entries, Tidy e.2) : Tidy (.table origin entries)
  | tables {ts : List (List (String × Node))} (keys : ∀ t ∈ ts, Ascending t)
      (nodes : ∀ t ∈ ts, ∀ e ∈ t, Tidy e.2) : Tidy (.tables ts)

/-- The keys of entries, and of all tables below them, are in ascending order. -/
structure Entries.Tidy (es : Entries) : Prop where
  keys : Ascending es
  nodes : ∀ e ∈ es, e.2.Tidy

/-- Nothing is in order. -/
theorem Entries.tidy_nil : Entries.Tidy [] := ⟨List.Pairwise.nil, by simp⟩

/-- A table is in order if its entries are. -/
theorem Entries.Tidy.table {es : Entries} (h : es.Tidy) (origin : Origin) :
    (Node.table origin es).Tidy := .table origin h.keys h.nodes

/-- An array of tables is in order if the entries of each are. -/
theorem tidy_tables_iff {ts : List Entries} :
    (Node.tables ts).Tidy ↔ ∀ t ∈ ts, Entries.Tidy t := by
  constructor
  · intro h
    cases h with
    | tables keys nodes => exact fun t ht => ⟨keys t ht, nodes t ht⟩
  · intro h
    exact .tables (fun t ht => (h t ht).keys) (fun t ht => (h t ht).nodes)

/-! ## setting entries -/

namespace Entries

variable {es : Entries}

/-- What an entry holds is in order if the entries are. -/
theorem Tidy.of_get? (h : es.Tidy) {key : String} {n : Node} (hget : es.get? key = some n) : n.Tidy :=
  h.nodes _ (mem_of_lookup hget)

/-- The entries of a table in the tree. -/
theorem Tidy.sub (h : es.Tidy) {key : String} {origin : Origin} {sub : Entries}
    (hget : es.get? key = some (.table origin sub)) : sub.Tidy := by
  cases h.of_get? hget with
  | table _ keys nodes => exact ⟨keys, nodes⟩

/-- An entry that is set is the new one or an old one. -/
theorem mem_set {key : String} {n : Node} {e : String × Node} (h : e ∈ es.set key n) :
    e = (key, n) ∨ e ∈ es := by
  fun_induction set es key n with
  | case1 key n => exact .inl (List.mem_singleton.mp h)
  | case2 m es key n =>
      rcases List.mem_cons.mp h with heq | hmem
      · exact .inl heq
      · exact .inr (List.mem_cons_of_mem _ hmem)
  | case3 k m es key n hne hlt => exact List.mem_cons.mp h
  | case4 k m es key n hne hlt ih =>
      rcases List.mem_cons.mp h with heq | hmem
      · exact .inr (heq ▸ List.mem_cons_self)
      · rcases ih hmem with hnew | hold
        · exact .inl hnew
        · exact .inr (List.mem_cons_of_mem _ hold)

/-- An entry that is set goes to its place in the order. -/
theorem ascending_set (h : Ascending es) (key : String) (n : Node) : Ascending (es.set key n) := by
  fun_induction set es key n with
  | case1 key n => exact List.pairwise_singleton _ _
  | case2 m es key n => exact List.pairwise_cons.mpr (List.pairwise_cons.mp h)
  | case3 k m es key n hne hlt =>
      refine List.pairwise_cons.mpr ⟨?_, h⟩
      intro e he
      rcases List.mem_cons.mp he with rfl | he
      · exact hlt
      · exact String.lt_trans hlt ((List.pairwise_cons.mp h).1 e he)
  | case4 k m es key n hne hlt ih =>
      obtain ⟨hfirst, hrest⟩ := List.pairwise_cons.mp h
      refine List.pairwise_cons.mpr ⟨?_, ih hrest⟩
      intro e he
      rcases mem_set he with rfl | hold
      · exact Std.lt_of_le_of_ne (String.not_lt.mp hlt) hne
      · exact hfirst e hold

/-- **An entry that is set** leaves the entries in order. -/
theorem Tidy.set (h : es.Tidy) (key : String) {n : Node} (hn : n.Tidy) : (es.set key n).Tidy := by
  refine ⟨ascending_set h.keys key n, ?_⟩
  intro e he
  rcases mem_set he with rfl | hold
  · exact hn
  · exact h.nodes e hold

end Entries

/-! ## results -/

section Results

variable {ε α β : Type} {r : Except ε α} {b : β}

/-- A result that is changed is there before it is changed. -/
theorem exists_of_map_eq_ok {f : α → β} (h : r.map f = .ok b) : ∃ a, r = .ok a ∧ f a = b := by
  cases r with
  | error e => simp [Except.map] at h
  | ok a => exact ⟨a, rfl, Except.ok.inj h⟩

/-- What comes of two steps, one after the other, comes of the second, after the first. -/
theorem exists_of_bind_eq_ok {f : α → Except ε β} (h : (r >>= f) = .ok b) :
    ∃ a, r = .ok a ∧ f a = .ok b := by
  cases r with
  | error e => simp [bind, Except.bind] at h
  | ok a => exact ⟨a, rfl, h⟩

end Results

/-! ## entries deep in the tree -/

/-- **A change at the end of a header's path** leaves the tree in order if it leaves the table there in
order. -/
theorem tidy_of_atHeader {f : Entries → Result Entries}
    (hf : ∀ t t' : Entries, t.Tidy → f t = .ok t' → t'.Tidy) {es es' : Entries} {path : List String}
    (h : es.Tidy) (hes : es.atHeader f path = .ok es') : es'.Tidy := by
  fun_induction Entries.atHeader es f path generalizing es' with
  | case1 es => exact hf es es' h hes
  | case2 es key path hget ih =>
      obtain ⟨sub, hsub, rfl⟩ := exists_of_map_eq_ok hes
      exact h.set key ((ih Entries.tidy_nil hsub).table _)
  | case3 es key path origin sub hget ih =>
      obtain ⟨sub', hsub, rfl⟩ := exists_of_map_eq_ok hes
      exact h.set key ((ih (h.sub hget) hsub).table _)
  | case4 es key path last ts hget ih =>
      obtain ⟨last', hlast, rfl⟩ := exists_of_map_eq_ok hes
      have hts := List.forall_mem_cons.mp (tidy_tables_iff.mp (h.of_get? hget))
      exact h.set key (tidy_tables_iff.mpr (List.forall_mem_cons.mpr ⟨ih hts.1 hlast, hts.2⟩))
  | case5 es key path n htable htables hget => simp at hes

/-- **A value under a dotted key** leaves the tree in order. -/
theorem tidy_of_putDotted {es es' : Entries} {origin : Origin} {atTop : Bool} {v : Value}
    {path : List String} (h : es.Tidy) (hv : v.Tidy)
    (hes : es.putDotted origin atTop v path = .ok es') : es'.Tidy := by
  fun_induction Entries.putDotted es origin atTop v path generalizing es' with
  | case1 es origin atTop => simp at hes
  | case2 es origin atTop key hclosed => simp at hes
  | case3 es origin atTop key hopen hget =>
      rw [← Except.ok.inj hes]
      exact h.set key (.value hv)
  | case4 es origin atTop key hopen n hget => simp at hes
  | case5 es origin atTop key path hne hget ih =>
      obtain ⟨sub, hsub, rfl⟩ := exists_of_map_eq_ok hes
      exact h.set key ((ih Entries.tidy_nil hsub).table _)
  | case6 es origin atTop key path hne sub hget => simp at hes
  | case7 es origin atTop key path hne origin' sub horigin hget ih =>
      obtain ⟨sub', hsub, rfl⟩ := exists_of_map_eq_ok hes
      exact h.set key ((ih (h.sub hget) hsub).table _)
  | case8 es origin atTop key path hne last ts hget ih =>
      obtain ⟨last', hlast, rfl⟩ := exists_of_map_eq_ok hes
      have hts := List.forall_mem_cons.mp (tidy_tables_iff.mp (h.of_get? hget))
      exact h.set key (tidy_tables_iff.mpr (List.forall_mem_cons.mpr ⟨ih hts.1 hlast, hts.2⟩))
  | case9 es origin atTop key path hne n hheader htable htables hget => simp at hes

/-- The table of a header leaves the tree in order. -/
theorem tidy_of_openTable {es es' : Entries} {path : List String} (h : es.Tidy)
    (hes : es.openTable path = .ok es') : es'.Tidy := by
  unfold Entries.openTable at hes
  split at hes
  · simp at hes
  · next key hkey =>
      refine tidy_of_atHeader ?_ h hes
      intro t t' ht ht'
      split at ht'
      · rw [← Except.ok.inj ht']
        exact ht.set key (Entries.tidy_nil.table _)
      · next sub hget =>
          rw [← Except.ok.inj ht']
          exact ht.set key ((ht.sub hget).table _)
      · simp at ht'

/-- The next table of an array leaves the tree in order. -/
theorem tidy_of_openArrayTable {es es' : Entries} {path : List String} (h : es.Tidy)
    (hes : es.openArrayTable path = .ok es') : es'.Tidy := by
  unfold Entries.openArrayTable at hes
  split at hes
  · simp at hes
  · next key hkey =>
      refine tidy_of_atHeader ?_ h hes
      intro t t' ht ht'
      split at ht'
      · rw [← Except.ok.inj ht']
        exact ht.set key (tidy_tables_iff.mpr (by simp [Entries.tidy_nil]))
      · next ts hget =>
          rw [← Except.ok.inj ht']
          have hts := tidy_tables_iff.mp (ht.of_get? hget)
          exact ht.set key
            (tidy_tables_iff.mpr (List.forall_mem_cons.mpr ⟨Entries.tidy_nil, hts⟩))
      · simp at ht'

/-! ## the finished tree -/

/-- The values of entries stand under the keys of the entries. -/
theorem entryValues_eq_map (es : Entries) : entryValues es = es.map fun e => (e.1, e.2.toValue) := by
  induction es with
  | nil => rfl
  | cons e rest ih =>
      obtain ⟨key, n⟩ := e
      rw [entryValues, ih, List.map_cons]

/-- The values of tables, the last of which is given first. -/
theorem tableValues_eq (ts : List Entries) (later : List Value) :
    tableValues ts later = (ts.reverse.map fun t => .table (entryValues t)) ++ later := by
  induction ts generalizing later with
  | nil => rfl
  | cons t rest ih =>
      rw [tableValues, ih]
      simp

/-- The values of entries are in order if the entries are, and so are their values. -/
theorem tidy_table_entryValues {es : Entries} (keys : Ascending es)
    (values : ∀ e ∈ es, e.2.toValue.Tidy) : (Value.table (entryValues es)).Tidy := by
  rw [entryValues_eq_map]
  refine .table ?_ ?_
  · exact List.pairwise_map.mpr keys
  · intro e he
    obtain ⟨old, hold, rfl⟩ := List.mem_map.mp he
    exact values old hold

/-- **The value of a part of a document** is in order if the part is. -/
theorem Node.Tidy.toValue {n : Node} (h : n.Tidy) : n.toValue.Tidy := by
  induction h with
  | value h => exact h
  | table origin keys nodes ih => exact tidy_table_entryValues keys ih
  | tables keys nodes ih =>
      rw [Node.toValue, tableValues_eq, List.append_nil]
      refine .array ?_
      intro v hv
      obtain ⟨t, ht, rfl⟩ := List.mem_map.mp hv
      rw [List.mem_reverse] at ht
      exact tidy_table_entryValues (keys t ht) (ih t ht)

/-- The table of entries that are in order is in order. -/
theorem Entries.Tidy.toTable {es : Entries} (h : es.Tidy) : (Value.table (entryValues es)).Tidy :=
  tidy_table_entryValues h.keys fun e he => (h.nodes e he).toValue

/-! ## values -/

/-- A number is no table. -/
theorem tidy_of_inRange {n : Int} {v : Value} (h : inRange n = .ok v) : v.Tidy := by
  unfold inRange at h
  split at h
  · rw [← Except.ok.inj h]
    exact .integer n
  · simp at h

theorem tidy_of_readBased {base : Nat} {cs : List Char} {v : Value}
    (h : readBased base cs = .ok v) : v.Tidy := by
  unfold readBased at h
  split at h
  · simp at h
  · exact tidy_of_inRange h

theorem tidy_of_readFloat {negative : Bool} {cs : List Char} {v : Value}
    (h : readFloat negative cs = .ok v) : v.Tidy := by
  have hfloat : ∃ x, v = .float x := by
    unfold readFloat at h
    grind
  obtain ⟨x, rfl⟩ := hfloat
  exact .float x

theorem tidy_of_readNumber {negative : Bool} {cs : List Char} {v : Value}
    (h : readNumber negative cs = .ok v) : v.Tidy := by
  unfold readNumber at h
  split at h
  · rw [← Except.ok.inj h]
    exact .float _
  split at h
  · rw [← Except.ok.inj h]
    exact .float _
  split at h
  · exact tidy_of_readFloat h
  · unfold readDecimal at h
    split at h
    · simp at h
    · split at h
      · simp at h
      · exact tidy_of_inRange h

/-- A word is a number, a truth value, or a date or time, none of which is a table. -/
theorem tidy_of_readWord {cs : List Char} {v : Value} (h : readWord cs = .ok v) : v.Tidy := by
  unfold readWord at h
  split at h
  · exact tidy_of_readNumber h
  · exact tidy_of_readNumber h
  · exact tidy_of_readBased h
  · exact tidy_of_readBased h
  · exact tidy_of_readBased h
  · split at h
    · split at h
      · split at h
        · rw [← Except.ok.inj h]
          exact .datetime
        · simp at h
      · exact tidy_of_readNumber h
    split at h
    · rw [← Except.ok.inj h]
      exact .boolean true
    split at h
    · rw [← Except.ok.inj h]
      exact .boolean false
    split at h
    · exact tidy_of_readNumber h
    · simp at h
  · simp at h

/-- **The values that are read** are in order.  The induction is on the fuel, which all three readers
share. -/
theorem tidy_read (n : Nat) :
    (∀ depth cs v rest, readValue n depth cs = .ok (v, rest) → v.Tidy) ∧
    (∀ depth done cs items rest, (∀ v ∈ done, v.Tidy) →
      readItems n depth done cs = .ok (items, rest) → ∀ v ∈ items, v.Tidy) ∧
    (∀ depth (done : Entries) cs es rest, done.Tidy →
      readEntries n depth done cs = .ok (es, rest) → Entries.Tidy es) := by
  induction n with
  | zero => simp [readValue, readItems, readEntries]
  | succ n ih =>
      obtain ⟨ihValue, ihItems, ihEntries⟩ := ih
      refine ⟨?_, ?_, ?_⟩
      · intro depth cs v rest h
        unfold readValue at h
        split at h
        · obtain ⟨r, -, hr⟩ := exists_of_map_eq_ok h
          obtain ⟨rfl, -⟩ := Prod.mk.inj hr
          exact .string _
        · obtain ⟨r, -, hr⟩ := exists_of_map_eq_ok h
          obtain ⟨rfl, -⟩ := Prod.mk.inj hr
          exact .string _
        · split at h
          · obtain ⟨⟨items, rest'⟩, hitems, hr⟩ := exists_of_map_eq_ok h
            obtain ⟨rfl, -⟩ := Prod.mk.inj hr
            refine .array fun v hv => ?_
            exact ihItems _ _ _ _ _ (by simp) hitems v (List.mem_reverse.mp hv)
          · simp at h
        · split at h
          · obtain ⟨⟨es, rest'⟩, hes, hr⟩ := exists_of_map_eq_ok h
            obtain ⟨rfl, -⟩ := Prod.mk.inj hr
            exact (ihEntries _ _ _ _ _ Entries.tidy_nil hes).toTable
          · simp at h
        · obtain ⟨w, hw, hr⟩ := exists_of_map_eq_ok h
          obtain ⟨rfl, -⟩ := Prod.mk.inj hr
          exact tidy_of_readWord hw
      · intro depth done cs items rest hdone h
        unfold readItems at h
        split at h
        · simp at h
        · rw [← (Prod.mk.inj (Except.ok.inj h)).1]
          exact hdone
        · split at h
          · simp at h
          · next v rest' hv =>
              have hmore : ∀ w ∈ v :: done, w.Tidy :=
                List.forall_mem_cons.mpr ⟨ihValue _ _ _ _ hv, hdone⟩
              split at h
              · simp at h
              · exact ihItems _ _ _ _ _ hmore h
              · rw [← (Prod.mk.inj (Except.ok.inj h)).1]
                exact hmore
              · simp at h
      · intro depth done cs es rest hdone h
        unfold readEntries at h
        split at h
        · simp at h
        · rw [← (Prod.mk.inj (Except.ok.inj h)).1]
          exact hdone
        · split at h
          · simp at h
          · split at h
            · simp at h
            · next v rest' hv =>
                have htidy := ihValue _ _ _ _ hv
                split at h
                · simp at h
                · simp at h
                · next hput _ => exact ihEntries _ _ _ _ _ (tidy_of_putDotted hdone htidy hput) h
                · next hput _ =>
                    rw [← (Prod.mk.inj (Except.ok.inj h)).1]
                    exact tidy_of_putDotted hdone htidy hput
                · simp at h

/-! ## documents -/

/-- A header leaves the tree in order. -/
theorem tidy_of_readHeader {d d' : Draft} {cs rest : List Char} (h : d.root.Tidy)
    (hd : readHeader d cs = .ok (d', rest)) : d'.root.Tidy := by
  unfold readHeader at hd
  split at hd
  · obtain ⟨⟨path, rest'⟩, -, hd⟩ := exists_of_bind_eq_ok hd
    simp only at hd
    split at hd
    · obtain ⟨root, hroot, hd⟩ := exists_of_bind_eq_ok hd
      obtain ⟨line, -, hd⟩ := exists_of_bind_eq_ok hd
      rw [← (Prod.mk.inj (Except.ok.inj hd)).1]
      exact tidy_of_openArrayTable h hroot
    · simp at hd
  · obtain ⟨⟨path, rest'⟩, -, hd⟩ := exists_of_bind_eq_ok hd
    simp only at hd
    split at hd
    · obtain ⟨root, hroot, hd⟩ := exists_of_bind_eq_ok hd
      obtain ⟨line, -, hd⟩ := exists_of_bind_eq_ok hd
      rw [← (Prod.mk.inj (Except.ok.inj hd)).1]
      exact tidy_of_openTable h hroot
    · simp at hd

/-- A key with its value leaves the tree in order. -/
theorem tidy_of_readEntry {d d' : Draft} {cs rest : List Char} (h : d.root.Tidy)
    (hd : readEntry d cs = .ok (d', rest)) : d'.root.Tidy := by
  unfold readEntry at hd
  obtain ⟨⟨key, rest'⟩, -, hd⟩ := exists_of_bind_eq_ok hd
  obtain ⟨⟨v, rest''⟩, hv, hd⟩ := exists_of_bind_eq_ok hd
  obtain ⟨root, hroot, hd⟩ := exists_of_bind_eq_ok hd
  obtain ⟨line, -, hd⟩ := exists_of_bind_eq_ok hd
  rw [← (Prod.mk.inj (Except.ok.inj hd)).1]
  have htidy := (tidy_read _).1 _ _ _ _ hv
  exact tidy_of_atHeader (fun t t' ht => tidy_of_putDotted ht htidy) h hroot

/-- **The lines of a document** leave the tree in order. -/
theorem tidy_of_readLines {n : Nat} {d d' : Draft} {cs : List Char} (h : d.root.Tidy)
    (hd : readLines n d cs = .ok d') : d'.root.Tidy := by
  induction n generalizing d cs with
  | zero =>
      rw [← Except.ok.inj hd]
      exact h
  | succ n ih =>
      unfold readLines at hd
      split at hd
      · simp at hd
      · rw [← Except.ok.inj hd]
        exact h
      · next c rest hskip =>
          split at hd
          · simp at hd
          · next next rest' hline =>
              refine ih ?_ hd
              split at hline
              · exact tidy_of_readHeader h hline
              · exact tidy_of_readEntry h hline

/-- The table that a document denotes, from the characters of its text.  What they are need not be computed from
the bytes of the text if it is given by them. -/
theorem parse_ofList (cs : List Char) :
    parse (String.ofList cs) =
      (readLines ((withoutMark cs).length + 1) {} (withoutMark cs)).map fun d => entryValues d.root := by
  rw [parse, String.toList_ofList]

/-- **The table that a document denotes** has its keys in ascending order, and so has every table in
it. -/
theorem tidy_of_parse {text : String} {entries : List (String × Value)}
    (h : parse text = .ok entries) : (Value.table entries).Tidy := by
  obtain ⟨d, hd, rfl⟩ := exists_of_map_eq_ok h
  exact (tidy_of_readLines Entries.tidy_nil hd).toTable

end LintServer.Toml
