import LintServer.Proofs.Ancestors
import LintServer.Uri.Parse

/-!
# The texts of addresses

Documents are known by the texts of their addresses.  That is no loss: of an address that was read, the
text tells the path of the file.

* `Uri.IsSegment` — a segment that was read contains nothing that ends it, so the text of a path can be
  split again (`Uri.segments_of_text`);
* `Uri.IsFile` — what the address of a file consists of, however it was written (`Uri.isFile_of_parse`);
* `Uri.isName_of_webHost` — a host cannot be taken for the start of a path.

The main statement is `Uri.filePath?_eq_of_text_eq`.
-/

namespace LintServer.Uri

/-! ## segments -/

/-- A text without the characters that end a segment. -/
def IsSegment (s : List Char) : Prop := ∀ c ∈ s, c ≠ '/' ∧ endsPath c = false

theorem isSegment_nil : IsSegment [] := by simp [IsSegment]

theorem splitAtChar_eq_splitOn (sep : Char) (cs : List Char) : splitAtChar sep cs = cs.splitOn sep := by
  refine eq_splitOn rfl (fun cs => by simp [splitAtChar]) ?_ cs
  intro c cs s ss hc h
  simp [splitAtChar, hc, h]

/-- The characters of an escaped text: those that are not escaped, and the escapes. -/
theorem mem_percentEncode {escaped : Char → Bool} {text : List Char} {c : Char}
    (h : c ∈ percentEncode escaped text) :
    (c ∈ text ∧ escaped c = false) ∨ c = '%' ∨ ∃ n < 16, c = hexDigit n := by
  obtain ⟨a, ha, hc⟩ := List.mem_flatMap.mp h
  split at hc
  · next hplain =>
      rw [List.mem_singleton] at hc
      subst hc
      simp only [Bool.and_eq_true, Bool.not_eq_true'] at hplain
      exact .inl ⟨ha, hplain.2⟩
  · obtain ⟨b, -, hb⟩ := List.mem_flatMap.mp hc
    have hsmall := b.toNat_lt
    simp only [escapeByte, List.mem_cons, List.not_mem_nil, or_false] at hb
    rcases hb with rfl | rfl | rfl
    · exact .inr (.inl rfl)
    · exact .inr (.inr ⟨_, by omega, rfl⟩)
    · exact .inr (.inr ⟨_, by omega, rfl⟩)

/-- An escape contains nothing that ends a segment. -/
theorem hexDigit_in_segment : ∀ n < 16, hexDigit n ≠ '/' ∧ endsPath (hexDigit n) = false := by decide

/-- **An escaped text without slashes** is a segment. -/
theorem isSegment_percentEncode {s : List Char} (h : '/' ∉ s) :
    IsSegment (percentEncode escapedInPath s) := by
  intro c hc
  rcases mem_percentEncode hc with ⟨hmem, hplain⟩ | rfl | ⟨n, hn, rfl⟩
  · refine ⟨fun hslash => h (hslash ▸ hmem), ?_⟩
    rw [endsPath, Bool.or_eq_false_iff, beq_eq_false_iff_ne, beq_eq_false_iff_ne]
    constructor
    · rintro rfl
      exact absurd hplain (by decide)
    · rintro rfl
      exact absurd hplain (by decide)
  · decide
  · exact hexDigit_in_segment n hn

/-- To carry out `.` and `..`, seen from the first segment: the path ends, or the segments that are done
and perhaps this one are kept for the rest. -/
theorem resolveSegments_cons (done : List (List Char)) (s : List Char) (rest : List (List Char)) :
    ∃ done' kept, done' ⊆ done ∧ (kept = [] ∨ kept = [s] ∧ isHere s = false) ∧
      (resolveSegments done (s :: rest) = ([] :: done').reverse ∨
        resolveSegments done (s :: rest) = resolveSegments (kept ++ done') rest) := by
  have hback : takeBack done ⊆ done := by
    cases done with
    | nil => exact List.Subset.refl _
    | cons last above =>
        rw [takeBack]
        split
        · exact List.Subset.refl _
        · exact List.subset_cons_self last above
  by_cases hup : isUp s = true
  · refine ⟨takeBack done, [], hback, .inl rfl, ?_⟩
    cases rest <;> simp [resolveSegments, hup]
  · by_cases hhere : isHere s = true
    · refine ⟨done, [], List.Subset.refl _, .inl rfl, ?_⟩
      cases rest <;> simp [resolveSegments, hup, hhere]
    · refine ⟨done, [s], List.Subset.refl _, .inr ⟨rfl, by simpa using hhere⟩, ?_⟩
      cases rest <;> simp [resolveSegments, hup, hhere]

/-- **To carry out `.` and `..`** leaves an empty segment, segments that are done and segments that are no
`.`, and nothing else. -/
theorem forall_mem_resolveSegments {P : List Char → Prop} {done ss : List (List Char)} (hnil : P [])
    (hdone : ∀ s ∈ done, P s) (hss : ∀ s ∈ ss, isHere s = false → P s) :
    ∀ s ∈ resolveSegments done ss, P s := by
  induction ss generalizing done with
  | nil =>
      intro s hs
      exact hdone s (List.mem_reverse.mp hs)
  | cons first rest ih =>
      rw [List.forall_mem_cons] at hss
      obtain ⟨done', kept, hsub, hkept, heq | heq⟩ := resolveSegments_cons done first rest
      · intro s hs
        rw [heq, List.mem_reverse, List.mem_cons] at hs
        rcases hs with rfl | hs
        · exact hnil
        · exact hdone s (hsub hs)
      · rw [heq]
        refine ih ?_ hss.2
        intro s hs
        rcases List.mem_append.mp hs with hs | hs
        · rcases hkept with rfl | ⟨rfl, hhere⟩
          · simp at hs
          · exact List.mem_singleton.mp hs ▸ hss.1 hhere
        · exact hdone s (hsub hs)

theorem isSegment_segmentsOf (backslash : Bool) (cs : List Char) :
    ∀ s ∈ segmentsOf backslash cs, IsSegment s := by
  refine forall_mem_resolveSegments isSegment_nil (by simp) ?_
  intro s hs _
  obtain ⟨piece, hpiece, rfl⟩ := List.mem_map.mp hs
  rw [splitAtChar_eq_splitOn] at hpiece
  exact isSegment_percentEncode (not_mem_of_mem_splitOn hpiece)

/-- No segment is a `.`. -/
theorem isHere_segmentsOf (backslash : Bool) (cs : List Char) :
    ∀ s ∈ segmentsOf backslash cs, isHere s = false :=
  forall_mem_resolveSegments (by decide) (by simp) fun _ _ => id

theorem dropEmptyStart_ne_nil (ss : List (List Char)) : dropEmptyStart ss ≠ [] := by
  unfold dropEmptyStart
  split
  · exact List.cons_ne_nil _ _
  · assumption

theorem forall_mem_dropEmptyStart {P : List Char → Prop} {ss : List (List Char)} (hnil : P [])
    (h : ∀ s ∈ ss, P s) : ∀ s ∈ dropEmptyStart ss, P s := by
  unfold dropEmptyStart
  split
  · simpa using hnil
  · exact fun s hs => h s ((List.dropWhile_sublist _).mem hs)

/-- The text of segments, as characters. -/
def pathChars (ss : List (List Char)) : List Char := ss.flatMap ('/' :: ·)

/-- The text of segments is what lies between slashes, put together. -/
theorem pathChars_eq_intercalate (ss : List (List Char)) :
    pathChars ss = ['/'].intercalate ([] :: ss) := by
  induction ss with
  | nil => rfl
  | cons s ss ih =>
      rw [pathChars, List.flatMap_cons, ← pathChars, ih]
      cases ss with
      | nil => simp [List.intercalate]
      | cons t ss => simp [List.intercalate_cons_cons]

/-- What comes before a query or a fragment is the text of the segments. -/
theorem takeWhile_pathChars {ss : List (List Char)} {tail : List Char} (hss : ∀ s ∈ ss, IsSegment s)
    (htail : ∀ c ∈ tail.head?, endsPath c = true) :
    (pathChars ss ++ tail).takeWhile (! endsPath ·) = pathChars ss := by
  have hchars : ∀ c ∈ pathChars ss, (! endsPath c) = true := by
    intro c hc
    obtain ⟨s, hs, hcs⟩ := List.mem_flatMap.mp hc
    rcases List.mem_cons.mp hcs with rfl | hcs
    · rfl
    · rw [(hss s hs c hcs).2]
      rfl
  rw [List.takeWhile_append_of_pos hchars]
  cases tail with
  | nil => simp
  | cons c tail => simp [htail c rfl]

/-- What lies between the slashes are the segments. -/
theorem splitOn_pathChars {ss : List (List Char)} (hss : ∀ s ∈ ss, IsSegment s) :
    (pathChars ss).splitOn '/' = [] :: ss := by
  rw [pathChars_eq_intercalate, List.splitOn_intercalate '/' ?_ (by simp)]
  intro s hs hslash
  rcases List.mem_cons.mp hs with rfl | hs
  · simp at hslash
  · exact (hss s hs '/' hslash).1 rfl

/-- **The text of a path can be split again**, also if a query or a fragment follows. -/
theorem segments_of_text {ss ss' : List (List Char)} {tail tail' : List Char}
    (hss : ∀ s ∈ ss, IsSegment s) (hss' : ∀ s ∈ ss', IsSegment s)
    (htail : ∀ c ∈ tail.head?, endsPath c = true) (htail' : ∀ c ∈ tail'.head?, endsPath c = true)
    (h : pathChars ss ++ tail = pathChars ss' ++ tail') : ss = ss' := by
  have hsame : pathChars ss = pathChars ss' := by
    rw [← takeWhile_pathChars hss htail, h, takeWhile_pathChars hss' htail']
  have hlists := splitOn_pathChars hss
  rw [hsame, splitOn_pathChars hss'] at hlists
  exact (List.cons.inj hlists).2.symm

/-! ## hosts -/

/-- Behind its slashes, a text cannot be taken for a path. -/
def IsName (cs : List Char) : Prop := ∃ c, cs.head? = some c ∧ c ≠ '/'

theorem IsName.append {cs : List Char} (h : IsName cs) (more : List Char) : IsName (cs ++ more) := by
  obtain ⟨c, hc, hne⟩ := h
  exact ⟨c, by rw [List.head?_append, hc, Option.some_or], hne⟩

/-- A slash is forbidden in domain names. -/
theorem isLabel_slash (cs : List Char) : isLabel ('/' :: cs) = false := by
  have hslash : forbiddenInDomain '/' = true := by decide
  rw [isLabel, List.all_cons, if_pos (by decide), hslash, Bool.not_true, Bool.false_and,
    Bool.and_false]

/-- The form in which a label is kept does not start with a slash. -/
theorem isName_of_asciiLabel? {label kept : List Char} (h : asciiLabel? label = some kept)
    (hne : kept ≠ []) : IsName kept := by
  unfold asciiLabel? at h
  split at h
  · split at h
    · split at h
      · obtain rfl := Option.some.inj h
        exact ⟨'x', rfl, by decide⟩
      · simp at h
    · simp at h
  · split at h
    · simp at h
    · next hlabel =>
        split at h
        · obtain rfl := Option.some.inj h
          obtain ⟨c, cs, rfl⟩ := List.exists_cons_of_ne_nil hne
          refine ⟨c, rfl, ?_⟩
          rintro rfl
          exact hlabel (by rw [isLabel_slash]; rfl)
        · obtain rfl := Option.some.inj h
          exact ⟨'x', rfl, by decide⟩

/-- The form in which a domain name is kept does not start with a slash. -/
theorem isName_of_asciiDomain? {name kept : List Char} (h : asciiDomain? name = some kept)
    (hne : kept ≠ []) : IsName kept := by
  obtain ⟨labels, hlabels, rfl⟩ := Option.map_eq_some_iff.mp h
  cases hsplit : splitAtChar '.' (name.flatMap foldDomainChar) with
  | nil =>
      rw [splitAtChar_eq_splitOn] at hsplit
      exact absurd hsplit (List.splitOn_ne_nil _ _)
  | cons first rest =>
      rw [hsplit, List.mapM_cons] at hlabels
      obtain ⟨a, ha, hrest⟩ := Option.bind_eq_some_iff.mp hlabels
      obtain ⟨as, -, has⟩ := Option.bind_eq_some_iff.mp hrest
      obtain rfl := Option.some.inj has
      cases as with
      | nil =>
          rw [List.intercalate_singleton] at hne ⊢
          exact isName_of_asciiLabel? ha hne
      | cons b bs =>
          rw [List.intercalate_cons_cons, List.append_assoc]
          by_cases hempty : a = []
          · exact ⟨'.', by rw [hempty]; rfl, by decide⟩
          · exact (isName_of_asciiLabel? ha hempty).append _

/-- The text of an IPv4 address starts with a digit. -/
theorem isName_ipv4Text (n : Nat) : IsName (ipv4Text n).toList := by
  rw [ipv4Text, String.toList_intercalate]
  simp only [List.map_cons, List.intercalate_cons_cons, List.append_assoc]
  apply IsName.append
  rw [Nat.toString_eq_ofList_toDigits, String.toList_ofList]
  cases hdigits : Nat.toDigits 10 (n / 16777216 % 256) with
  | nil => exact absurd hdigits Nat.toDigits_ne_nil
  | cons d ds =>
      refine ⟨d, rfl, ?_⟩
      have hdigit : d.isDigit = true :=
        Nat.isDigit_of_mem_toDigits (by decide) (by decide) (hdigits ▸ List.mem_cons_self)
      rintro rfl
      exact absurd hdigit (by decide)

theorem isName_of_domainOfBytes {bytes : List UInt8} {kept : List Char}
    (h : domainOfBytes bytes = .ok kept) (hne : kept ≠ []) : IsName kept := by
  unfold domainOfBytes at h
  split at h
  · next name hname =>
      obtain ⟨decoded, -, hascii⟩ := Option.bind_eq_some_iff.mp hname
      obtain rfl := Except.ok.inj h
      exact isName_of_asciiDomain? hascii hne
  · simp at h

/-- A host that is a domain was kept as the name that it is, which is not empty. -/
theorem exists_domainOfBytes {text : List Char} {name : String} (h : webHost text = .ok (.domain name)) :
    ∃ kept, domainOfBytes (percentDecode text) = .ok kept ∧ kept ≠ [] ∧ name = String.ofList kept := by
  unfold webHost at h
  split at h
  · unfold bracketedHost at h
    split at h
    · split at h <;> simp at h
    · simp at h
  · cases hbytes : domainOfBytes (percentDecode text) with
    | error e => simp [hbytes, bind, Except.bind] at h
    | ok kept =>
        simp only [hbytes, bind, Except.bind] at h
        split at h
        · simp at h
        · next hne =>
            refine ⟨kept, rfl, by simpa using hne, ?_⟩
            split at h
            · split at h <;> simp [pure, Except.pure] at h
            · simpa [pure, Except.pure, eq_comm] using h

/-- **The text of a host that was read** cannot be taken for a path. -/
theorem isName_of_webHost {text : List Char} {h : Host} (hok : webHost text = .ok h) :
    IsName h.text.toList := by
  cases h with
  | ipv6 pieces =>
      refine ⟨'[', ?_, by decide⟩
      rw [Host.text, String.append_assoc, String.toList_append]
      rfl
  | ipv4 n => exact isName_ipv4Text n
  | domain name =>
      obtain ⟨kept, hbytes, hne, rfl⟩ := exists_domainOfBytes hok
      rw [Host.text, String.toList_ofList]
      exact isName_of_domainOfBytes hbytes hne

/-! ## files -/

/-- **What the address of a file consists of**: perhaps a host, which is another computer, and at least
one segment, with every `.` carried out. -/
structure IsFile (u : Uri) (host : Option Host) (ss : List (List Char)) : Prop where
  scheme_eq : u.scheme = "file"
  authority_eq : u.authority = some ⟨"", host, none⟩
  route_eq : u.route = routeOf ss
  ne_nil : ss ≠ []
  isSegment : ∀ s ∈ ss, IsSegment s
  settled : ∀ s ∈ ss, isHere s = false
  remote : ∀ h, host = some h → h ≠ .domain "localhost" ∧ IsName h.text.toList

theorem isFile_fileUri {host : Option Host}
    (hremote : ∀ h, host = some h → h ≠ .domain "localhost" ∧ IsName h.text.toList)
    (rest : List Char) : ∃ ss, IsFile (fileUri host rest) host ss := by
  exact ⟨_, rfl, rfl, rfl, dropEmptyStart_ne_nil _,
    forall_mem_dropEmptyStart isSegment_nil (isSegment_segmentsOf true _),
    forall_mem_dropEmptyStart (by decide) (isHere_segmentsOf true _), hremote⟩

/-- The host of a file that was read is another computer. -/
theorem remote_of_fileHost {text : List Char} {host : Option Host} (hok : fileHost text = .ok host) :
    ∀ h, host = some h → h ≠ .domain "localhost" ∧ IsName h.text.toList := by
  rintro h rfl
  unfold fileHost at hok
  split at hok
  · simp at hok
  · cases hweb : webHost text with
    | error e => simp [hweb] at hok
    | ok read =>
        simp only [hweb, Except.ok.injEq] at hok
        split at hok
        · simp at hok
        · next hne =>
            obtain rfl := Option.some.inj hok
            exact ⟨hne, isName_of_webHost hweb⟩

/-- **The address of a file that was read** is one. -/
theorem isFile_of_readFile {cs : List Char} {u : Uri} (h : readFile cs = .ok u) :
    ∃ host ss, IsFile u host ss := by
  have hlocal (rest : List Char) : ∃ host ss, IsFile (fileUri none rest) host ss :=
    ⟨none, isFile_fileUri (by simp) rest⟩
  unfold readFile at h
  split at h
  · split at h
    · dsimp only at h
      split at h
      · exact Except.ok.inj h ▸ hlocal _
      · split at h
        · next host hhost => exact Except.ok.inj h ▸ ⟨host, isFile_fileUri (remote_of_fileHost hhost) _⟩
        · simp at h
    · exact Except.ok.inj h ▸ hlocal _
  · exact Except.ok.inj h ▸ hlocal _

/-! ## schemes -/

/-- Every way through the reading of an authority ends in an error or in an address of the scheme. -/
theorem scheme_of_readAuthority {scheme : String} {cs : List Char} {u : Uri}
    (h : readAuthority scheme cs = .ok u) : u.scheme = scheme := by
  unfold readAuthority at h
  simp only [bind, Except.bind, pure, Except.pure, throw, throwThe, MonadExceptOf.throw] at h
  repeat' split at h
  all_goals simp only [Except.ok.injEq, reduceCtorEq] at h
  all_goals exact h ▸ rfl

theorem eq_colon_of_toLower {c : Char} (h : c.toLower = ':') : c = ':' := by
  unfold Char.toLower at h
  split at h
  · next hupper =>
      have hval := congrArg (fun d : Char => d.val.toNat) h
      have hlow := UInt32.le_iff_toNat_le.mp hupper.1
      have hhigh := UInt32.le_iff_toNat_le.mp hupper.2
      have ha : 'A'.val.toNat = 65 := rfl
      have hz : 'Z'.val.toNat = 90 := rfl
      have hcolon : ':'.val.toNat = 58 := rfl
      have hadd : (c.val + ('a'.val - 'A'.val)).toNat = c.val.toNat + 32 := by
        rw [UInt32.toNat_add]
        have h32 : ('a'.val - 'A'.val).toNat = 32 := rfl
        omega
      dsimp only at hval
      omega
  · exact h

/-- The scheme of an address has no colon in it. -/
theorem not_mem_of_splitScheme? {cs rest : List Char} {scheme : String}
    (h : splitScheme? cs = some (scheme, rest)) : ':' ∉ scheme.toList := by
  unfold splitScheme? at h
  split at h
  · split at h
    · obtain ⟨rfl, rfl⟩ := Prod.mk.inj (Option.some.inj h)
      rw [String.toList_ofList]
      intro hmem
      obtain ⟨c, hc, hlower⟩ := List.mem_map.mp hmem
      obtain rfl := eq_colon_of_toLower hlower
      exact absurd (List.all_eq_true.mp List.all_takeWhile ':' hc) (by decide)
    · simp at h
  · simp at h

/-- **What is read as an address** has a scheme without a colon, and is what the address of a file
consists of if the scheme says so. -/
theorem isFile_of_parse {t : String} {u : Uri} (h : parse t = .ok u) :
    ':' ∉ u.scheme.toList ∧ (u.scheme = "file" → ∃ host ss, IsFile u host ss) := by
  unfold parse at h
  split at h
  · simp at h
  · next scheme rest hsplit =>
      have hcolon := not_mem_of_splitScheme? hsplit
      split at h
      · obtain ⟨host, ss, hfile⟩ := isFile_of_readFile h
        exact ⟨hfile.scheme_eq ▸ by decide, fun _ => ⟨host, ss, hfile⟩⟩
      · next hscheme =>
          have hother (heq : u.scheme = scheme) :
              ':' ∉ u.scheme.toList ∧ (u.scheme = "file" → ∃ host ss, IsFile u host ss) :=
            ⟨heq ▸ hcolon, fun hfile => absurd (heq ▸ hfile) hscheme⟩
          split at h
          · exact hother (scheme_of_readAuthority h)
          · split at h
            · exact hother (scheme_of_readAuthority h)
            · exact hother (Except.ok.inj h ▸ rfl)
            · exact hother (Except.ok.inj h ▸ rfl)

/-! ## texts -/

theorem exists_behind_scheme (u : Uri) : ∃ rest, u.text.toList = u.scheme.toList ++ ':' :: rest := by
  simp only [text, String.toList_append, List.append_assoc]
  exact ⟨_, rfl⟩

/-- The text of the route of segments. -/
theorem toList_text_routeOf (ss : List (List Char)) : (routeOf ss).text.toList = pathChars ss := by
  rw [routeOf, Route.text, String.toList_join]
  simp [pathChars, List.flatMap_def, Function.comp_def]

/-- **The text of the address of a file.** -/
theorem IsFile.toList_text {u : Uri} {host : Option Host} {ss : List (List Char)}
    (h : IsFile u host ss) :
    ∃ tail, (∀ c ∈ tail.head?, endsPath c = true) ∧
      u.text.toList =
        "file://".toList ++ (((host.map Host.text).getD "").toList ++ (pathChars ss ++ tail)) := by
  refine ⟨((u.query.map ("?" ++ ·)).getD "").toList ++ ((u.fragment.map ("#" ++ ·)).getD "").toList,
    ?_, ?_⟩
  · cases u.query with
    | some query => simp [endsPath]
    | none => cases u.fragment <;> simp [endsPath]
  · simp [text, h.scheme_eq, h.authority_eq, h.route_eq, Authority.text, toList_text_routeOf]

/-- The file of an address without a host. -/
theorem IsFile.filePath?_of_local {u : Uri} {ss : List (List Char)} (h : IsFile u none ss) :
    u.filePath? = some (pathOfSegments (ss.map String.ofList)) := by
  obtain ⟨s, ss, rfl⟩ := List.exists_cons_of_ne_nil h.ne_nil
  simp [filePath?, localPath?, isLocal, h.scheme_eq, h.authority_eq, h.route_eq, routeOf]

/-- An address with a host names no file on this computer. -/
theorem IsFile.filePath?_of_remote {u : Uri} {host : Host} {ss : List (List Char)}
    (h : IsFile u (some host) ss) : u.filePath? = none := by
  obtain ⟨s, ss, rfl⟩ := List.exists_cons_of_ne_nil h.ne_nil
  have hne := (h.remote host rfl).1
  simp [filePath?, localPath?, isLocal, h.authority_eq, h.route_eq, routeOf, hne]

/-- Where the path of a file begins, no host does. -/
theorem IsName.ne_path {cs : List Char} (h : IsName cs) {ss : List (List Char)} (hne : ss ≠ [])
    (more tail : List Char) : pathChars ss ++ tail ≠ cs ++ more := by
  intro heq
  obtain ⟨c, hc, hslash⟩ := h.append more
  obtain ⟨s, ss, rfl⟩ := List.exists_cons_of_ne_nil hne
  rw [← heq] at hc
  exact hslash (Option.some.inj hc).symm

/-- **The text of an address tells the file**, if the address was read. -/
theorem filePath?_eq_of_text_eq {t t' : String} {u u' : Uri} (h : parse t = .ok u)
    (h' : parse t' = .ok u') (htext : u.text = u'.text) : u.filePath? = u'.filePath? := by
  obtain ⟨hcolon, hfile⟩ := isFile_of_parse h
  obtain ⟨hcolon', hfile'⟩ := isFile_of_parse h'
  have hscheme : u.scheme = u'.scheme := by
    obtain ⟨rest, hrest⟩ := u.exists_behind_scheme
    obtain ⟨rest', hrest'⟩ := u'.exists_behind_scheme
    have hsplit := congrArg (List.splitOn ':' ·.toList) htext
    simp only [hrest, hrest', List.splitOn_append_cons_self_of_not_mem hcolon,
      List.splitOn_append_cons_self_of_not_mem hcolon'] at hsplit
    exact String.toList_inj.mp (List.cons.inj hsplit).1
  by_cases hs : u.scheme = "file"
  · obtain ⟨host, ss, hf⟩ := hfile hs
    obtain ⟨host', ss', hf'⟩ := hfile' (hscheme ▸ hs)
    obtain ⟨tail, htail, heq⟩ := hf.toList_text
    obtain ⟨tail', htail', heq'⟩ := hf'.toList_text
    have hchars := congrArg String.toList htext
    rw [heq, heq'] at hchars
    have hbehind := List.append_cancel_left hchars
    cases host with
    | none =>
        cases host' with
        | none =>
            have hss := segments_of_text hf.isSegment hf'.isSegment htail htail' hbehind
            rw [hf.filePath?_of_local, hf'.filePath?_of_local, hss]
        | some other => exact absurd hbehind ((hf'.remote other rfl).2.ne_path hf.ne_nil _ _)
    | some host =>
        cases host' with
        | none => exact absurd hbehind.symm ((hf.remote host rfl).2.ne_path hf'.ne_nil _ _)
        | some other => rw [hf.filePath?_of_remote, hf'.filePath?_of_remote]
  · rw [filePath?, if_neg hs, filePath?, if_neg (hscheme ▸ hs)]

end LintServer.Uri
