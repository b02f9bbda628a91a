import LintServer.Settings

/-!
# Remembered roots

What the cache of roots and the settings around it do to a document's root, one statement for each
operation:

* `RootCache.get?_getOrInsert` — remembering a root changes nothing but an unknown root;
* `RootCache.get?_offerAll`, `RootCache.uris_offerAll` — so of many roots the first of each document
  counts, and there is one entry for each document;
* `Settings.projectRoot_fst` — the root of a document is the remembered one, or the one found now;
* `Settings.knownRoot?_projectRoot` — which is remembered from then on, for this document only.

A document is known by the text of its address, so these are statements about texts.
-/

namespace LintServer

namespace RootCache

/-! ## the cache -/

/-- What is given for a document is what is remembered for it, or else what is offered. -/
theorem getOrInsert_fst (c : RootCache) (uri : String) (root : Path) :
    (c.getOrInsert uri root).1 = (c.get? uri).getD root := by
  unfold getOrInsert
  cases h : c.get? uri <;> simp

/-- A root that is remembered already is not offered in vain: the cache stays as it is. -/
theorem getOrInsert_snd_of_some {c : RootCache} {uri : String} {known : Path}
    (h : c.get? uri = some known) (root : Path) : (c.getOrInsert uri root).2 = c := by
  simp [getOrInsert, h]

/-- For a document without a root, an entry is added behind the others. -/
theorem getOrInsert_snd_of_none {c : RootCache} {uri : String} (h : c.get? uri = none) (root : Path) :
    (c.getOrInsert uri root).2 = ⟨c.entries ++ [(uri, root)]⟩ := by
  simp [getOrInsert, h]

/-- **Write once**: remembering a root changes what is remembered for this document only, and only if
that was nothing. -/
theorem get?_getOrInsert (c : RootCache) (uri other : String) (root : Path) :
    (c.getOrInsert uri root).2.get? other =
      if other = uri then some ((c.get? uri).getD root) else c.get? other := by
  cases h : c.get? uri with
  | some known =>
      rw [getOrInsert_snd_of_some h]
      split
      · next heq => rw [heq, h, Option.getD_some]
      · rfl
  | none =>
      rw [getOrInsert_snd_of_none h]
      simp only [get?] at h ⊢
      rw [List.lookup_append]
      split
      · next heq => simp [heq, h]
      · next hne =>
          have hb : (other == uri) = false := by simpa using hne
          simp [List.lookup_cons, hb]

/-- The documents with a root, in the order in which their roots were remembered. -/
def uris (c : RootCache) : List String := c.entries.map (·.1)

/-- There are as many entries as documents with a root. -/
theorem size_eq_length_uris (c : RootCache) : c.size = c.uris.length := by
  simp [size, uris]

/-- A document is among those with a root if one is remembered for it. -/
theorem mem_uris (c : RootCache) (uri : String) : uri ∈ c.uris ↔ (c.get? uri).isSome := by
  obtain ⟨entries⟩ := c
  simp only [uris, get?]
  induction entries with
  | nil => simp
  | cons e rest ih =>
      obtain ⟨u, r⟩ := e
      by_cases h : uri = u
      · simp [h]
      · have hb : (uri == u) = false := by simpa using h
        simp only [List.map_cons, List.mem_cons, h, false_or, List.lookup_cons, hb]
        exact ih

/-- Remembering a root adds its document to those with a root, unless it is there. -/
theorem uris_getOrInsert (c : RootCache) (uri : String) (root : Path) :
    (c.getOrInsert uri root).2.uris = if uri ∈ c.uris then c.uris else c.uris ++ [uri] := by
  cases h : c.get? uri with
  | some known =>
      have hm : uri ∈ c.uris := (mem_uris c uri).mpr (by rw [h]; rfl)
      rw [getOrInsert_snd_of_some h, if_pos hm]
  | none =>
      have hm : uri ∉ c.uris := fun hm => by simpa [h] using (mem_uris c uri).mp hm
      rw [getOrInsert_snd_of_none h, if_neg hm]
      simp [uris]

/-! ## many roots -/

/-- The cache after roots were offered for documents, one after the other. -/
def offerAll (c : RootCache) (offers : List (String × Path)) : RootCache :=
  offers.foldl (fun c offer => (c.getOrInsert offer.1 offer.2).2) c

/-- Offers after offers. -/
theorem offerAll_append (c : RootCache) (offers more : List (String × Path)) :
    c.offerAll (offers ++ more) = (c.offerAll offers).offerAll more := List.foldl_append

/-- **The first offer counts**: a document has the root that was remembered before, or else the first
that was offered for it. -/
theorem get?_offerAll (c : RootCache) (offers : List (String × Path)) (uri : String) :
    (c.offerAll offers).get? uri = (c.get? uri).or (offers.lookup uri) := by
  induction offers generalizing c with
  | nil => simp [offerAll]
  | cons offer rest ih =>
      obtain ⟨u, root⟩ := offer
      rw [offerAll, List.foldl_cons]
      refine (ih _).trans ?_
      rw [get?_getOrInsert, List.lookup_cons]
      split
      · next heq =>
          subst heq
          cases c.get? uri <;> simp
      · next hne =>
          have hb : (uri == u) = false := by simpa using hne
          simp only [hb]

/-- **The documents with a root** are those that had one before, and behind them all others for which
one was offered, each once. -/
theorem uris_offerAll (c : RootCache) (offers : List (String × Path)) :
    (c.offerAll offers).uris =
      c.uris ++ ((offers.map (·.1)).filter fun uri => !c.uris.contains uri).eraseDups := by
  induction offers generalizing c with
  | nil => simp [offerAll]
  | cons offer rest ih =>
      obtain ⟨u, root⟩ := offer
      rw [offerAll, List.foldl_cons]
      refine (ih _).trans ?_
      rw [uris_getOrInsert, List.map_cons, List.filter_cons]
      split
      · next hmem => simp [hmem]
      · next hmem =>
          have hfilter : (rest.map (·.1)).filter (fun uri => !(c.uris ++ [u]).contains uri) =
              ((rest.map (·.1)).filter fun uri => !c.uris.contains uri).filter (! · == u) := by
            rw [List.filter_filter]
            congr 1
            funext uri
            by_cases heq : uri = u
            · simp [heq]
            · have hb : (uri == u) = false := by simpa using heq
              simp [heq, hb]
          rw [if_pos (by simpa using hmem), List.eraseDups_cons, ← hfilter, List.append_assoc]
          rfl

end RootCache

namespace Settings

/-! ## the settings -/

/-- The root that a document has with a folder at hand: the remembered one, or the one that is found
on the disk. -/
def rootWith (s : Settings) (d : Disk) (folder : Option Path) (uri : Uri) : Option Path :=
  (s.knownRoot? uri).or (folder.map fun f => findRoot d f uri.filePath? s.markers)

/-- **What is asked for** is the root that the document has with the folder at hand. -/
theorem projectRoot_fst (s : Settings) (d : Disk) (folder : Option Path) (uri : Uri) :
    (s.projectRoot d folder uri).1 = s.rootWith d folder uri := by
  unfold projectRoot rootWith
  cases h : s.knownRoot? uri with
  | some root => simp
  | none =>
      cases folder with
      | none => simp
      | some folder =>
          have hg : s.roots.get? uri.text = none := h
          simp [placeRoot, RootCache.getOrInsert_fst, hg]

/-- **What is remembered**: the root of this document, as far as it has one, and nothing else. -/
theorem knownRoot?_projectRoot (s : Settings) (d : Disk) (folder : Option Path) (uri other : Uri) :
    (s.projectRoot d folder uri).2.knownRoot? other =
      if other.text = uri.text then s.rootWith d folder uri else s.knownRoot? other := by
  unfold projectRoot rootWith
  cases h : s.knownRoot? uri with
  | some root =>
      simp only [Option.some_or]
      split
      · next heq => rw [← h]; simp only [knownRoot?, heq]
      · rfl
  | none =>
      have hg : s.roots.get? uri.text = none := h
      cases folder with
      | none =>
          simp only [Option.map_none, Option.none_or]
          split
          · next heq => rw [← h]; simp only [knownRoot?, heq]
          · rfl
      | some folder =>
          simp only [placeRoot, knownRoot?, RootCache.get?_getOrInsert, hg]
          simp

/-- The markers are never changed. -/
@[simp] theorem projectRoot_markers (s : Settings) (d : Disk) (folder : Option Path) (uri : Uri) :
    (s.projectRoot d folder uri).2.markers = s.markers := by
  unfold projectRoot
  cases s.knownRoot? uri <;> cases folder <;> rfl

/-- The base rules are never read again. -/
@[simp] theorem projectRoot_base (s : Settings) (d : Disk) (folder : Option Path) (uri : Uri) :
    (s.projectRoot d folder uri).2.base = s.base := by
  unfold projectRoot
  cases s.knownRoot? uri <;> cases folder <;> rfl

end Settings

end LintServer
