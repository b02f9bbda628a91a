/-!
# Looking up in a list

A list of keys with values is looked up from the front, so that the first entry of a key counts.  What is
found there is one of the entries (`mem_of_lookup`), and if every key is there once, every entry is found
(`lookup_of_mem`).  The lemmas behind that say what becomes of all keys when entries are replaced or taken
away.
-/

namespace LintServer

variable {α β : Type} [BEq α] [LawfulBEq α] {entries : List (α × β)}

/-- A value that is found under a key is in one of the entries. -/
theorem mem_of_lookup {key : α} {value : β} (h : entries.lookup key = some value) : (key, value) ∈ entries := by
  obtain ⟨before, after, rfl, -⟩ := List.lookup_eq_some_iff.mp h
  simp

/-- If every key is there once, a value is found under its key. -/
theorem lookup_of_mem (once : (entries.map (·.1)).Nodup) {key : α} {value : β} (h : (key, value) ∈ entries) :
    entries.lookup key = some value := by
  induction entries with
  | nil => simp at h
  | cons first rest ih =>
      rw [List.map_cons, List.nodup_cons] at once
      rcases List.mem_cons.mp h with rfl | hrest
      · simp
      · obtain ⟨k, v⟩ := first
        have hne : key ≠ k := by
          rintro rfl
          exact once.1 (List.mem_map.mpr ⟨_, hrest, rfl⟩)
        have hb : (key == k) = false := by simpa using hne
        rw [List.lookup_cons, hb]
        exact ih once.2 hrest

/-- A key that no entry has leads to nothing. -/
theorem lookup_eq_none_of_not_any {key : α} (h : ¬entries.any (·.1 == key) = true) :
    entries.lookup key = none := by
  rw [List.lookup_eq_none_iff]
  intro p hp
  have hne : ¬(p.1 == key) = true := fun hpn => h (List.any_eq_true.mpr ⟨p, hp, hpn⟩)
  simpa using fun hnp => hne (by simp [hnp])

/-- One key has the new value if it had any, and the others have what they had. -/
theorem lookup_map_replace [DecidableEq α] (entries : List (α × β)) (key other : α) (value : β) :
    (entries.map fun p => if p.1 == key then (key, value) else p).lookup other =
      if other = key then (entries.lookup key).map fun _ => value else entries.lookup other := by
  induction entries with
  | nil => simp
  | cons first rest ih =>
      obtain ⟨k, v⟩ := first
      by_cases hk : k = key
      · subst hk
        simp only [List.map_cons, beq_self_eq_true, if_true, List.lookup_cons, ih]
        by_cases hother : other = k
        · simp [hother]
        · have hb : (other == k) = false := by simpa using hother
          simp [hb, hother]
      · have hb : (k == key) = false := by simpa using hk
        have hb' : (key == k) = false := by simpa using fun h => hk h.symm
        simp only [List.map_cons, hb, Bool.false_eq_true, if_false, List.lookup_cons, ih, hb']
        by_cases hother : other = k
        · simp [hother, hk]
        · have hb'' : (other == k) = false := by simpa using hother
          simp only [hb'']

/-- One key has nothing any more, and the others have what they had. -/
theorem lookup_filter_ne [DecidableEq α] (entries : List (α × β)) (key other : α) :
    (entries.filter (·.1 != key)).lookup other = if other = key then none else entries.lookup other := by
  induction entries with
  | nil => simp
  | cons first rest ih =>
      obtain ⟨k, v⟩ := first
      rw [List.filter_cons, List.lookup_cons]
      by_cases hk : k = key
      · subst hk
        by_cases hother : other = k
        · simpa [hother] using ih
        · have hb : (other == k) = false := by simpa using hother
          simpa [hb, hother] using ih
      · have hb : (k != key) = true := by simpa using hk
        rw [if_pos hb, List.lookup_cons, ih]
        by_cases hother : other = k
        · simp [hother, hk]
        · have hb' : (other == k) = false := by simpa using hother
          simp only [hb']

end LintServer
