import WebVPN.Browser.Redirect

namespace WebVPN.Browser

open WebVPN.Library

/-!
# Browser — cookies

What `sanitizeUpstreamHeaders` leaves of a Set-Cookie header, compared with how a cookie string
is parsed: split at semicolons, the name of an attribute is what stands before the first equals
sign, without spaces and tabs around it and in any case.

* `stripDomain_eq` — the regular expression drops whole segments, those that `startsDomain`;
* `isDomain` — the segments that set the Domain attribute;
* `Misspaced` — the segments on which the two differ;
* `sanitizeUpstreamHeaders_cookies` — the Domain attributes are removed, and nothing else,
  exactly if no segment is misspaced.
-/

/-! ### The replacement drops segments -/

/-- The first segment of a cookie string. -/
def cookiePair (value : List Char) : List Char := (splitChar ';' value).headD []

/-- The segments after the first. -/
def attributes (value : List Char) : List (List Char) := (splitChar ';' value).tail

theorem splitChar_eq_cookiePair_cons (value : List Char) :
    splitChar ';' value = cookiePair value :: attributes value := by
  obtain ⟨part, parts, h⟩ := exists_splitChar ';' value
  rw [cookiePair, attributes, h]
  rfl

@[simp] theorem cookiePair_cons_sep (rest : List Char) : cookiePair (';' :: rest) = [] := by
  rfl

@[simp] theorem attributes_cons_sep (rest : List Char) :
    attributes (';' :: rest) = cookiePair rest :: attributes rest := by
  rw [attributes, splitChar_cons_sep, splitChar_eq_cookiePair_cons]
  rfl

theorem split_cons_ne {c : Char} (hc : c ≠ ';') (rest : List Char) :
    cookiePair (c :: rest) = c :: cookiePair rest ∧ attributes (c :: rest) = attributes rest := by
  have h := splitChar_cons_ne hc (splitChar_eq_cookiePair_cons rest)
  rw [cookiePair, attributes, h]
  exact ⟨rfl, rfl⟩

/-- A pattern without a semicolon matches at the start of the first segment or not at all. -/
theorem isPrefixOf_cookiePair {pattern : List Char} (h : ';' ∉ pattern) (text : List Char) :
    pattern.isPrefixOf ((cookiePair text).map asciiLower) =
      pattern.isPrefixOf (text.map asciiLower) := by
  induction pattern generalizing text with
  | nil => simp
  | cons d pattern ih =>
    obtain ⟨hd, hpattern⟩ := List.ne_and_not_mem_of_not_mem_cons h
    cases text with
    | nil => rfl
    | cons c text =>
      by_cases hc : c = ';'
      · subst hc
        have hlower : asciiLower ';' = ';' := by decide
        simp [List.isPrefixOf, hlower, Ne.symm hd]
      · rw [(split_cons_ne hc text).1]
        simp only [List.map_cons, List.isPrefixOf, ih hpattern]

/-- The text after a semicolon matches exactly if the segment it starts with does: neither white
    space nor the name of the attribute contain a semicolon. -/
theorem startsDomain_cookiePair (text : List Char) :
    startsDomain (cookiePair text) = startsDomain text := by
  have hpattern : ';' ∉ "domain=".toList := by decide
  induction text with
  | nil => rfl
  | cons c text ih =>
    by_cases hc : c = ';'
    · subst hc
      have hspace : isJsSpace ';' = false := by decide
      have hlower : asciiLower ';' = ';' := by decide
      have hd : "domain=".toList = 'd' :: "omain=".toList := by decide
      unfold startsDomain
      rw [List.dropWhile_cons_of_neg (by simp [hspace]), hd]
      simp [List.isPrefixOf, hlower]
    · rw [(split_cons_ne hc text).1]
      unfold startsDomain at ih ⊢
      by_cases hspace : isJsSpace c = true
      · rw [List.dropWhile_cons_of_pos hspace, List.dropWhile_cons_of_pos hspace]
        exact ih
      · rw [List.dropWhile_cons_of_neg hspace, List.dropWhile_cons_of_neg hspace,
          ← (split_cons_ne hc text).1]
        exact isPrefixOf_cookiePair hpattern (c :: text)

/-- The replacement drops the segments after the first that match. -/
theorem stripDomain_eq (text : List Char) :
    stripDomain false text = cookiePair text ++
        ((attributes text).filter (fun seg => !startsDomain seg)).flatMap (fun seg => ';' :: seg) ∧
      stripDomain true text =
        ((attributes text).filter (fun seg => !startsDomain seg)).flatMap (fun seg => ';' :: seg) := by
  induction text with
  | nil => exact ⟨rfl, rfl⟩
  | cons c rest ih =>
    by_cases hc : c = ';'
    · subst hc
      rw [cookiePair_cons_sep, attributes_cons_sep, List.filter_cons, startsDomain_cookiePair]
      simp only [stripDomain, if_true, List.nil_append]
      cases startsDomain rest with
      | true => simp [ih.2]
      | false => simp [ih.1]
    · obtain ⟨hpair, hattributes⟩ := split_cons_ne hc rest
      rw [hpair, hattributes]
      simp only [stripDomain, if_neg hc, if_true, Bool.false_eq_true, if_false]
      exact ⟨by rw [ih.1]; rfl, ih.2⟩

/-! ### The attribute -/

/-- Space and tab. -/
def isBlank (c : Char) : Bool := c == ' ' || c == '\t'

/-- The name of an attribute. -/
def attributeName (seg : List Char) : List Char :=
  ((seg.takeWhile (fun c => c ≠ '=')).dropWhile isBlank).rdropWhile isBlank

/-- The segment sets the Domain attribute. -/
def isDomain (seg : List Char) : Bool :=
  '=' ∈ seg && (attributeName seg).map asciiLower == "domain".toList

/-- The cookie string lost its Domain attributes, and nothing else. -/
def CookieConfined (value value' : List Char) : Prop :=
  cookiePair value' = cookiePair value ∧
    attributes value' = (attributes value).filter (fun seg => !isDomain seg)

instance (value value' : List Char) : Decidable (CookieConfined value value') :=
  inferInstanceAs (Decidable (cookiePair value' = cookiePair value ∧
    attributes value' = (attributes value).filter (fun seg => !isDomain seg)))

/-- White space, the name of the attribute in any case, blanks, and an equals sign. -/
structure DomainLike (seg lead tail : List Char) : Prop where
  shape : ∃ name value, seg = lead ++ name ++ tail ++ '=' :: value ∧
    name.map asciiLower = "domain".toList
  lead : ∀ c ∈ lead, isJsSpace c = true
  tail : ∀ c ∈ tail, isBlank c = true

/-- A segment on which the regular expression and a cookie parser differ: blanks before the equals
    sign, or before the name white space that a cookie parser keeps. -/
def Misspaced (seg : List Char) : Prop :=
  ∃ lead tail, DomainLike seg lead tail ∧ (tail ≠ [] ↔ ∀ c ∈ lead, isBlank c = true)

section Segments

variable {seg lead tail : List Char} {c : Char}

theorem isJsSpace_of_isBlank (h : isBlank c = true) : isJsSpace c = true := by
  simp only [isBlank, Bool.or_eq_true, beq_iff_eq] at h
  rcases h with rfl | rfl <;> decide

/-- Only ASCII characters have ASCII characters as lower case. -/
theorem toNat_lt_of_asciiLower (h : (asciiLower c).toNat < 128) : c.toNat < 128 := by
  unfold asciiLower at h
  split at h
  · rename_i hupper
    have hle : c.val.toNat ≤ 'Z'.val.toNat := UInt32.le_iff_toNat_le.mp hupper.2
    exact Nat.lt_of_le_of_lt hle (by decide)
  · exact h

/-- The letters of the name are neither white space nor the equals sign. -/
theorem of_domain_name {name : List Char} (h : name.map asciiLower = "domain".toList)
    (hc : c ∈ name) : isJsSpace c = false ∧ c ≠ '=' := by
  have hletter : asciiLower c ∈ "domain".toList := by
    rw [← h]
    exact List.mem_map_of_mem hc
  have hall : ∀ d ∈ "domain".toList, d.toNat < 128 := by decide
  have hascii : asciiLower c ∈ "domain".toList → isJsSpace c = false ∧ c ≠ '=' :=
    forall_ascii (p := fun c => asciiLower c ∈ "domain".toList → isJsSpace c = false ∧ c ≠ '=')
      (by decide +kernel) (toNat_lt_of_asciiLower (hall _ hletter))
  exact hascii hletter

theorem isBlank_of_not_isJsSpace (h : isJsSpace c = false) : isBlank c = false := by
  cases hblank : isBlank c with
  | false => rfl
  | true =>
    rw [isJsSpace_of_isBlank hblank] at h
    cases h

/-- A name is not empty, so it stops the removal of white space. -/
theorem dropWhile_append_name {p : Char → Bool} {name : List Char}
    (hname : name.map asciiLower = "domain".toList) (hp : ∀ c ∈ name, p c = false)
    (lead rest : List Char) :
    (lead ++ (name ++ rest)).dropWhile p = lead.dropWhile p ++ (name ++ rest) := by
  cases name with
  | nil => cases hname
  | cons c name =>
    rw [List.dropWhile_append]
    split
    · rename_i hempty
      rw [List.isEmpty_iff.mp hempty, List.cons_append,
        List.dropWhile_cons_of_neg (by simp [hp c List.mem_cons_self]), List.nil_append]
    · rfl

/-- The regular expression wants the equals sign right behind the name. -/
theorem DomainLike.startsDomain_iff (h : DomainLike seg lead tail) :
    startsDomain seg = true ↔ tail = [] := by
  obtain ⟨name, value, rfl, hname⟩ := h.shape
  have hdrop : (lead ++ name ++ tail ++ '=' :: value).dropWhile isJsSpace =
      name ++ (tail ++ '=' :: value) := by
    rw [List.append_assoc lead, List.append_assoc lead, List.append_assoc name,
      dropWhile_append_name hname (fun c hc => (of_domain_name hname hc).1),
      List.dropWhile_eq_nil_iff.mpr h.lead, List.nil_append]
  have hpattern : "domain=".toList = "domain".toList ++ ['='] := by decide
  have hlower : asciiLower '=' = '=' := by decide
  unfold startsDomain
  rw [hdrop, List.map_append, hname, hpattern, List.isPrefixOf_iff_prefix, List.prefix_append_right_inj]
  cases tail with
  | nil => simp [hlower]
  | cons c tail =>
    -- a blank where the equals sign should be
    have hc : c = ' ' ∨ c = '\t' := by simpa [isBlank] using h.tail c List.mem_cons_self
    have hne : '=' ≠ asciiLower c := by
      rcases hc with rfl | rfl <;> decide
    simp [hne]

/-- A cookie parser wants only blanks in front of the name. -/
theorem DomainLike.isDomain_iff (h : DomainLike seg lead tail) :
    isDomain seg = true ↔ ∀ c ∈ lead, isBlank c = true := by
  obtain ⟨name, value, rfl, hname⟩ := h.shape
  have hspace : ∀ c : Char, isJsSpace c = true → c ≠ '=' := by
    rintro c hc rfl
    revert hc
    decide
  have hbefore : ∀ c ∈ lead ++ name ++ tail, decide (c ≠ '=') = true := by
    intro c hc
    apply decide_eq_true
    rcases List.mem_append.mp hc with hc | hc
    · rcases List.mem_append.mp hc with hc | hc
      · exact hspace c (h.lead c hc)
      · exact (of_domain_name hname hc).2
    · exact hspace c (isJsSpace_of_isBlank (h.tail c hc))
  have htake : (lead ++ name ++ tail ++ '=' :: value).takeWhile (fun c => c ≠ '=') =
      lead ++ (name ++ tail) := by
    rw [List.takeWhile_append_of_pos hbefore, List.takeWhile_cons_of_neg (by simp), List.append_nil,
      List.append_assoc]
  have hblank : ∀ c ∈ name, isBlank c = false :=
    fun c hc => isBlank_of_not_isJsSpace (of_domain_name hname hc).1
  -- the blanks behind the name go, and those in front of it
  have hright : (lead.dropWhile isBlank ++ (name ++ tail)).rdropWhile isBlank =
      lead.dropWhile isBlank ++ name := by
    unfold List.rdropWhile
    rw [← List.append_assoc, List.reverse_append,
      List.dropWhile_append_of_pos (fun c hc => h.tail c (List.mem_reverse.mp hc)), List.reverse_append]
    cases hrev : name.reverse with
    | nil =>
      rw [List.reverse_eq_nil_iff.mp hrev] at hname
      cases hname
    | cons c rest =>
      have hc : isBlank c = false := hblank c (List.mem_reverse.mp (hrev ▸ List.mem_cons_self))
      rw [List.cons_append, List.dropWhile_cons_of_neg (by simp [hc]), ← List.cons_append, ← hrev,
        ← List.reverse_append, List.reverse_reverse]
  unfold isDomain attributeName
  rw [htake, dropWhile_append_name hname hblank, hright, List.map_append, hname]
  simp

theorem exists_domainLike_of_startsDomain (h : startsDomain seg = true) :
    ∃ lead tail, DomainLike seg lead tail := by
  obtain ⟨t, ht⟩ := List.isPrefixOf_iff_prefix.mp h
  have hpattern : "domain=".toList ++ t = "domain".toList ++ '=' :: t := rfl
  rw [hpattern] at ht
  obtain ⟨name, rest, hrest, hname, hvalue⟩ := List.map_eq_append_iff.mp ht.symm
  obtain ⟨e, value, rfl, he, -⟩ := List.map_eq_cons_iff.mp hvalue
  have heq : e = '=' := by
    have hascii : asciiLower e = '=' → e = '=' :=
      forall_ascii (p := fun c => asciiLower c = '=' → c = '=') (by decide +kernel)
        (toNat_lt_of_asciiLower (by rw [he]; decide))
    exact hascii he
  subst heq
  refine ⟨seg.takeWhile isJsSpace, [], ⟨name, value, ?_, hname⟩, fun c hc => List.mem_takeWhile_imp hc,
    by simp⟩
  rw [List.append_nil, List.append_assoc, ← hrest, List.takeWhile_append_dropWhile]

theorem exists_domainLike_of_isDomain (h : isDomain seg = true) :
    ∃ lead tail, DomainLike seg lead tail := by
  simp only [isDomain, Bool.and_eq_true, decide_eq_true_eq, beq_iff_eq] at h
  obtain ⟨hmem, hname⟩ := h
  -- what stands before the equals sign, cut into blanks, name and blanks
  obtain ⟨before, value, rfl, hbefore⟩ := List.eq_append_cons_of_mem hmem
  unfold attributeName at hname
  rw [takeWhile_append_cons hbefore] at hname
  refine ⟨before.takeWhile isBlank, (before.dropWhile isBlank).rtakeWhile isBlank,
    ⟨_, value, ?_, hname⟩, fun c hc => isJsSpace_of_isBlank (List.mem_takeWhile_imp hc),
    fun c hc => List.mem_rtakeWhile_imp hc⟩
  rw [List.append_assoc (before.takeWhile isBlank), List.rdropWhile_append_rtakeWhile,
    List.takeWhile_append_dropWhile]

/-- The two agree exactly on the segments that are not misspaced. -/
theorem misspaced_iff : Misspaced seg ↔ isDomain seg ≠ startsDomain seg := by
  constructor
  · rintro ⟨lead, tail, hlike, hdiffer⟩ heq
    have h1 := hlike.isDomain_iff
    have h2 := hlike.startsDomain_iff
    rw [heq] at h1
    rw [← h1, h2] at hdiffer
    simp at hdiffer
  · intro hne
    obtain ⟨lead, tail, hlike⟩ : ∃ lead tail, DomainLike seg lead tail := by
      cases hdomain : isDomain seg with
      | true => exact exists_domainLike_of_isDomain hdomain
      | false =>
        rw [hdomain] at hne
        exact exists_domainLike_of_startsDomain (by simpa using hne.symm)
    refine ⟨lead, tail, hlike, ?_⟩
    rw [← hlike.isDomain_iff, ne_eq, ← hlike.startsDomain_iff]
    cases hd : isDomain seg <;> cases hs : startsDomain seg <;> simp_all

end Segments

/-! ### The header -/

/-- The replacement removes the Domain attributes and nothing else exactly if no attribute is
    misspaced. -/
theorem stripDomain_cookieConfined (value : List Char) :
    CookieConfined value (stripDomain false value) ↔ ∀ seg ∈ attributes value, ¬ Misspaced seg := by
  have hnot : ∀ seg ∈ splitChar ';' value, ';' ∉ seg := fun seg h => not_mem_of_mem_splitChar h
  rw [splitChar_eq_cookiePair_cons, List.forall_mem_cons] at hnot
  have hsplit : splitChar ';' (stripDomain false value) =
      cookiePair value :: (attributes value).filter (fun seg => !startsDomain seg) := by
    rw [(stripDomain_eq value).1]
    exact splitChar_join hnot.1 (fun seg h => hnot.2 seg (List.mem_of_mem_filter h))
  have hpair : cookiePair (stripDomain false value) = cookiePair value := by
    rw [cookiePair, hsplit]
    rfl
  have hattributes : attributes (stripDomain false value) =
      (attributes value).filter (fun seg => !startsDomain seg) := by
    rw [attributes, hsplit]
    rfl
  unfold CookieConfined
  rw [hattributes]
  simp only [hpair, true_and, misspaced_iff, ne_eq, not_not]
  constructor
  · intro hfilter seg hseg
    -- a segment is in both lists or in none
    have hmem : seg ∈ (attributes value).filter (fun seg => !startsDomain seg) ↔
        seg ∈ (attributes value).filter (fun seg => !isDomain seg) := by rw [hfilter]
    simp only [List.mem_filter, hseg, true_and] at hmem
    cases hd : isDomain seg <;> cases hs : startsDomain seg <;> simp_all
  · intro hall
    apply List.filter_congr
    intro seg hseg
    rw [hall seg hseg]

/-- **Cookies on the synthetic origin.**  Each Set-Cookie header that is kept loses its Domain
    attributes and nothing else exactly if none of its attributes is misspaced. -/
theorem sanitizeUpstreamHeaders_cookies (p : Platform) (headers out : List Header) (remote : URL)
    (h : sanitizeUpstreamHeaders p headers remote = some out) :
    List.Forall₂ (fun header header' => p.toLowerCase header.1 = "set-cookie" →
        header'.1 = header.1 ∧
        (CookieConfined header.2.toList header'.2.toList ↔
          ∀ seg ∈ attributes header.2.toList, ¬ Misspaced seg))
      (headers.filter (isKept p headers)) out := by
  rw [sanitizeUpstreamHeaders_eq_some] at h
  refine h.imp ?_
  intro header header' hheader hname
  simp only [rewriteHeader, hname, if_true] at hheader
  rw [if_neg (by decide), Option.some.injEq] at hheader
  rw [← hheader]
  refine ⟨rfl, ?_⟩
  rw [String.toList_ofList]
  exact stripDomain_cookieConfined header.2.toList

/-- An ordinary cookie of a device. -/
theorem sanitizeUpstreamHeaders_cookies_of_router :
    sanitizeUpstreamHeaders .plain [("Set-Cookie", "sid=value; Domain=router.lan; Secure; HttpOnly")]
        remoteURL = some [("Set-Cookie", "sid=value; Secure; HttpOnly")] ∧
      CookieConfined "sid=value; Domain=router.lan; Secure; HttpOnly".toList
        "sid=value; Secure; HttpOnly".toList := by
  have hrun : sanitizeUpstreamHeaders .plain
      [("Set-Cookie", "sid=value; Domain=router.lan; Secure; HttpOnly")] remoteURL =
        some [("Set-Cookie", "sid=value; Secure; HttpOnly")] := by decide +kernel
  have hkept : [("Set-Cookie", "sid=value; Domain=router.lan; Secure; HttpOnly")].filter
      (isKept .plain [("Set-Cookie", "sid=value; Domain=router.lan; Secure; HttpOnly")]) =
        [("Set-Cookie", "sid=value; Domain=router.lan; Secure; HttpOnly")] := by decide +kernel
  have hspaced : ∀ seg ∈ attributes "sid=value; Domain=router.lan; Secure; HttpOnly".toList,
      isDomain seg = startsDomain seg := by decide +kernel
  have hall := sanitizeUpstreamHeaders_cookies .plain _ _ remoteURL hrun
  obtain ⟨-, hiff⟩ := (List.forall₂_cons.mp hall).1 (by decide +kernel)
  refine ⟨hrun, hiff.mpr ?_⟩
  intro seg hseg
  rw [misspaced_iff, not_not]
  exact hspaced seg hseg

/-- **Cookies that are not confined.**  Whatever the platform, a blank before the equals sign keeps a
    Domain attribute, and a segment that is no Domain attribute to a cookie parser is dropped. -/
theorem keeps_domain :
    ((∃ seg ∈ attributes "sid=1; Domain =attacker.example".toList, isDomain seg = true) ∧
      ¬ CookieConfined "sid=1; Domain =attacker.example".toList
        "sid=1; Domain =attacker.example".toList) ∧
    ¬ CookieConfined "sid=1;\u00a0domain=kept".toList "sid=1".toList ∧
    ∀ p : Platform,
      sanitizeUpstreamHeaders p [("Set-Cookie", "sid=1; Domain =attacker.example")] remoteURL =
        some [("Set-Cookie", "sid=1; Domain =attacker.example")] ∧
      sanitizeUpstreamHeaders p [("Set-Cookie", "sid=1;\u00a0domain=kept")] remoteURL =
        some [("Set-Cookie", "sid=1")] := by
  refine ⟨⟨by decide +kernel, by decide +kernel⟩, by decide +kernel, fun p => ?_⟩
  have hlower : p.toLowerCase "Set-Cookie" = "set-cookie" := by
    rw [p.lower_ascii "Set-Cookie" (by decide)]
    decide
  have hrun : ∀ value : String, sanitizeUpstreamHeaders p [("Set-Cookie", value)] remoteURL =
      some [("Set-Cookie", String.ofList (stripDomain false value.toList))] := by
    intro value
    rw [sanitizeUpstreamHeaders_singleton (by rw [hlower]; decide)]
    simp only [rewriteHeader, hlower]
    rfl
  constructor
  · rw [hrun]
    decide +kernel
  · rw [hrun]
    decide +kernel

end WebVPN.Browser
