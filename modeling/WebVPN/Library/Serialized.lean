import WebVPN.Library.Origin

namespace WebVPN.Library.URL

/-!
# Library — reading a serialized URL

What the parser makes of the text that the serializer writes.

* `preprocess_append` — the parts of a text that preprocessing leaves alone;
* `parse_href_scheme` — the scheme of a serialized URL is read back;
* `exists_parse_href` — the serialization of a URL with a network authority is parsed to a URL
  with its origin; `parse_root` — that of the root of a host, to the URL itself.
-/

/-! ### Preprocessing -/

/-- Text without controls in front is kept, and so is the character that follows it. -/
theorem preprocess_append {text : List Char} (hne : text ≠ [])
    (htext : ∀ c ∈ text, isControl c = false) (rest : List Char) :
    ∃ rest', preprocess (text ++ rest) = text ++ rest' ∧
      ((∀ c ∈ rest.head?, isControl c = false) → rest'.head? = rest.head?) := by
  have hdrop : (text ++ rest).dropWhile isControl = text ++ rest := by
    cases text with
    | nil => exact absurd rfl hne
    | cons c tail =>
      rw [List.cons_append, List.dropWhile_cons_of_neg (by simp [htext c List.mem_cons_self])]
  have htake : text.rdropWhile isControl = text := by
    rw [List.rdropWhile_eq_self_iff]
    intro hl
    simp [htext _ (List.getLast_mem hl)]
  -- only the rest loses characters at its end
  have hright : (text ++ rest).rdropWhile isControl = text ++ rest.rdropWhile isControl := by
    unfold List.rdropWhile at htake ⊢
    rw [List.reverse_append, List.dropWhile_append]
    split
    · rename_i hempty
      rw [htake, List.isEmpty_iff.mp hempty]
      simp
    · simp
  have hkeep : ∀ c : Char, isControl c = false → c ∉ ['\t', '\n', '\r'] := by
    intro c hc hmem
    simp only [List.mem_cons, List.not_mem_nil, or_false] at hmem
    rcases hmem with rfl | rfl | rfl <;> revert hc <;> decide
  refine ⟨(rest.rdropWhile isControl).filter (fun c => c ∉ ['\t', '\n', '\r']), ?_, ?_⟩
  · unfold preprocess
    rw [hdrop, hright, List.filter_append]
    congr 1
    rw [List.filter_eq_self]
    intro c hc
    exact decide_eq_true (hkeep c (htext c hc))
  · intro hhead
    cases rest with
    | nil => rfl
    | cons c tail =>
      have hc : isControl c = false := hhead c rfl
      have hcons : ∃ tail', (c :: tail).rdropWhile isControl = c :: tail' := by
        unfold List.rdropWhile
        rw [List.reverse_cons, List.dropWhile_append]
        split
        · rw [List.dropWhile_cons_of_neg (by simp [hc])]
          exact ⟨[], rfl⟩
        · exact ⟨_, List.reverse_append⟩
      obtain ⟨tail', heq⟩ := hcons
      rw [heq, List.filter_cons, if_pos (decide_eq_true (hkeep c hc))]
      rfl

/-- The characters of a scheme are no controls. -/
theorem isControl_of_isSchemeChar {c : Char} (h : isSchemeChar c = true) : isControl c = false := by
  have hascii : isSchemeChar c = true → isControl c = false :=
    forall_ascii (p := fun c => isSchemeChar c = true → isControl c = false) (by decide +kernel)
      (toNat_lt_of_isSchemeChar h)
  exact hascii h

/-- A reference that starts with a single slash is confined. -/
theorem confined_of_slash (hosts : Hosts) (base : URL) {c : Char} (hc : isSlash true c = false)
    (hcontrol : isControl c = false) (rest : List Char) :
    Confined hosts base ('/' :: c :: rest) := by
  have hclean : ∀ d ∈ ['/', c], isControl d = false := by
    intro d hd
    simp only [List.mem_cons, List.not_mem_nil, or_false] at hd
    rcases hd with rfl | rfl
    · decide
    · exact hcontrol
  obtain ⟨rest', hpre, -⟩ := preprocess_append (by simp) hclean rest
  have hpre' : preprocess ('/' :: c :: rest) = '/' :: c :: rest' := hpre
  have hscheme : splitScheme ('/' :: c :: rest') = none := by
    rw [splitScheme, if_neg (by decide)]
  unfold Confined
  rw [hpre', hscheme]
  intro authority hnamed
  simp [namedAuthority, hc] at hnamed

section Href

variable {hosts : Hosts} {u v : URL} {text : List Char}

/-- The scheme of a serialized URL is read back. -/
theorem parse_href_scheme (hscheme : IsScheme u.scheme) (h : parse hosts none u.href = some v) :
    v.scheme = u.scheme := by
  obtain ⟨rest, hrest⟩ : ∃ rest, u.href = (u.scheme ++ [':']) ++ rest := by
    unfold href
    simp only [List.append_assoc]
    exact ⟨_, rfl⟩
  have hclean : ∀ c ∈ u.scheme ++ [':'], isControl c = false := by
    intro c hc
    rcases List.mem_append.mp hc with hc | hc
    · exact isControl_of_isSchemeChar (hscheme.chars c hc).1
    · rw [List.mem_singleton.mp hc]
      decide
  obtain ⟨rest', hpre, -⟩ := preprocess_append (by simp) hclean rest
  unfold parse at h
  rw [hrest, hpre, List.append_assoc, List.singleton_append] at h
  simp only [hscheme.splitScheme] at h
  exact afterScheme_scheme h (by simp)

/-! ### The authority -/

/-- A character that the userinfo percent-encode set leaves alone. -/
theorem of_not_userinfoSet {c : Char} (h : userinfoSet c = false) :
    inAuthority c = true ∧ isControl c = false ∧ c ≠ '@' ∧ c ≠ ':' := by
  have hlt : c.toNat < 128 := by
    simp only [userinfoSet, pathSet, querySet, controlSet, Bool.or_eq_false_iff,
      decide_eq_false_iff_not] at h
    omega
  have hascii : userinfoSet c = false →
      inAuthority c = true ∧ isControl c = false ∧ c ≠ '@' ∧ c ≠ ':' :=
    forall_ascii (p := fun c => userinfoSet c = false →
      inAuthority c = true ∧ isControl c = false ∧ c ≠ '@' ∧ c ≠ ':') (by decide +kernel) hlt
  exact hascii h

/-- The characters of a host: they stay within the authority, and only an IPv6 address has colons. -/
def InHost (c : Char) : Prop := inAuthority c = true ∧ isControl c = false ∧ c ≠ '@'

theorem inHost_of_allowed {c : Char} (h : isForbiddenDomain c = false) :
    InHost c ∧ c ≠ ':' ∧ c ≠ '[' ∧ c ≠ ']' := by
  simp only [isForbiddenDomain, isForbiddenHost, Bool.or_eq_false_iff, decide_eq_false_iff_not,
    List.mem_cons, List.not_mem_nil, or_false, not_or, Nat.not_le] at h
  obtain ⟨⟨⟨h1, h2⟩, -⟩, -⟩ := h
  have hspace : c.toNat ≠ 0x20 := by
    intro heq
    have hc : c = ' ' := by
      rw [← Char.ofNat_toNat c, heq]
    exact h1.2.2.2.2.1 hc
  refine ⟨⟨?_, ?_, ?_⟩, ?_⟩
  · simp [inAuthority, endsAuthority, isSlash, h1]
  · simp only [isControl, decide_eq_false_iff_not]
    omega
  · exact h1.2.2.2.2.2.2.2.2.2.2.2.1
  · simp [h1]

theorem inHost_of_address {c : Char} (h : c.isDigit = true ∨ c.isLower = true ∨ c = ':') :
    InHost c ∧ c ≠ '[' ∧ c ≠ ']' := by
  have hlt : c.toNat < 128 := by
    rcases h with h | h | rfl
    · have hdigit := toNat_of_isDigit h
      omega
    · have hlower := toNat_of_isLower h
      omega
    · decide
  have hascii : c.isDigit = true ∨ c.isLower = true ∨ c = ':' →
      (inAuthority c = true ∧ isControl c = false ∧ c ≠ '@') ∧ c ≠ '[' ∧ c ≠ ']' :=
    forall_ascii (p := fun c => c.isDigit = true ∨ c.isLower = true ∨ c = ':' →
      (inAuthority c = true ∧ isControl c = false ∧ c ≠ '@') ∧ c ≠ '[' ∧ c ≠ ']')
      (by decide +kernel) hlt
  exact hascii h

/-- Characters that are neither colons nor brackets belong to the host. -/
theorem splitPort_append_plain (h : ∀ c ∈ text, c ≠ ':' ∧ c ≠ '[' ∧ c ≠ ']') (rest : List Char) :
    splitPort false (text ++ rest) =
      (text ++ (splitPort false rest).1, (splitPort false rest).2) := by
  induction text with
  | nil => rfl
  | cons c text ih =>
    obtain ⟨h1, h2, h3⟩ := h c List.mem_cons_self
    rw [List.cons_append, splitPort, if_neg (by simp [h1]), if_neg h2, if_neg h3,
      ih (fun d hd => h d (List.mem_cons_of_mem _ hd))]
    rfl

/-- Within brackets, a colon belongs to the host. -/
theorem splitPort_append_brackets (h : ∀ c ∈ text, c ≠ '[' ∧ c ≠ ']') (rest : List Char) :
    splitPort true (text ++ ']' :: rest) =
      (text ++ ']' :: (splitPort false rest).1, (splitPort false rest).2) := by
  induction text with
  | nil => rfl
  | cons c text ih =>
    obtain ⟨h1, h2⟩ := h c List.mem_cons_self
    rw [List.cons_append, splitPort, if_neg (by simp), if_neg h1, if_neg h2,
      ih (fun d hd => h d (List.mem_cons_of_mem _ hd))]
    rfl

/-- A serialized host. -/
theorem host_spec {host : List Char} (h : hosts.parse true host = some host) :
    host ≠ [] ∧ (∀ c ∈ host, InHost c) ∧ ∀ rest, splitPort false (host ++ rest) =
      (host ++ (splitPort false rest).1, (splitPort false rest).2) := by
  unfold Hosts.parse at h
  split at h
  · split at h
    · obtain ⟨address, haddress, heq⟩ := Option.map_eq_some_iff.mp h
      have hchars := hosts.address6_digits _ _ haddress
      rw [← heq]
      refine ⟨by simp, ?_, fun rest => ?_⟩
      · intro c hc
        simp only [List.cons_append, List.mem_cons, List.mem_append, List.not_mem_nil, or_false] at hc
        rcases hc with rfl | hc | rfl
        · exact ⟨by decide, by decide, by decide⟩
        · exact (inHost_of_address (hchars c hc)).1
        · exact ⟨by decide, by decide, by decide⟩
      · have hinner := splitPort_append_brackets
          (fun c hc => (inHost_of_address (hchars c hc)).2) rest
        simp only [List.cons_append, List.append_assoc, List.nil_append, splitPort, if_true]
        rw [if_neg (by decide), hinner]
    · cases h
  · have hchars := hosts.domain_allowed _ _ h
    exact ⟨hosts.domain_ne_nil _ _ h, fun c hc => (inHost_of_allowed (hchars c hc)).1,
      fun rest => splitPort_append_plain (fun c hc => (inHost_of_allowed (hchars c hc)).2) rest⟩

/-! ### The URL -/

theorem afterAt_of_not_mem (h : '@' ∉ text) (current : List Char) :
    afterAt current text = current ++ text := by
  induction text generalizing current with
  | nil => exact (List.append_nil current).symm
  | cons c text ih =>
    have hc : c ≠ '@' := fun heq => h (heq ▸ List.mem_cons_self)
    rw [afterAt, if_neg hc, ih (fun hmem => h (List.mem_cons_of_mem _ hmem)), List.append_assoc,
      List.singleton_append]

theorem afterAt_append_at (current text rest : List Char) :
    afterAt current (text ++ '@' :: rest) = afterAt [] rest := by
  induction text generalizing current with
  | nil => rw [List.nil_append, afterAt, if_pos rfl]
  | cons c text ih =>
    rw [List.cons_append, afterAt]
    split
    · exact ih []
    · exact ih _

/-- The port behind a serialized host. -/
theorem readHostPort_serialized (h : Networked hosts u) {host : List Char}
    (hhost : hosts.parse true host = some host) :
    readHostPort hosts u.scheme (host ++ delimited ':' (u.port.map (Nat.toDigits 10))) =
      some (host, u.port) := by
  obtain ⟨hne, -, hsplit⟩ := host_spec hhost
  unfold readHostPort
  cases hport : u.port with
  | none =>
    have hparts : splitPort false (host ++ delimited ':' ((none : Option Nat).map (Nat.toDigits 10))) =
        (host, none) := by
      rw [hsplit]
      show (host ++ [], none) = (host, none)
      rw [List.append_nil]
    rw [hparts]
    simp [hne, hhost]
  | some port =>
    obtain ⟨hle, hdefault⟩ := h.port port hport
    have hparts : splitPort false (host ++ delimited ':' ((some port).map (Nat.toDigits 10))) =
        (host, some (Nat.toDigits 10 port)) := by
      rw [hsplit]
      show (host ++ [], some (Nat.toDigits 10 port)) = _
      rw [List.append_nil]
    have hdigits : (Nat.toDigits 10 port).all Char.isDigit = true :=
      List.all_eq_true.mpr (fun c hc => Nat.isDigit_of_mem_toDigits (by decide) (by decide) hc)
    have hread : readPort u.scheme (Nat.toDigits 10 port) = some (some port) := by
      unfold readPort
      simp only [hdigits, Nat.ofDigitChars_ten_toDigits, if_neg Nat.toDigits_ne_nil,
        if_neg (Nat.not_lt.mpr hle), if_neg hdefault, not_true_eq_false, if_false]
    rw [hparts]
    simp [hne, hhost, hread]

/-- What stands between the slashes and the path of a serialized URL. -/
theorem authority_spec (h : Networked hosts u) :
    ∃ host text, u.host = some host ∧ hosts.parse true host = some host ∧
      u.authority = '/' :: '/' :: text ∧ text ≠ [] ∧
      (∀ c ∈ text, inAuthority c = true ∧ isControl c = false) ∧
      afterAt [] text = host ++ delimited ':' (u.port.map (Nat.toDigits 10)) := by
  obtain ⟨host, hhost, hparse⟩ := h.host
  obtain ⟨hne, hchars, -⟩ := host_spec hparse
  have hport : ∀ c ∈ delimited ':' (u.port.map (Nat.toDigits 10)), InHost c := by
    intro c hc
    have hdigit : c.isDigit = true ∨ c.isLower = true ∨ c = ':' := by
      cases hport : u.port with
      | none => rw [hport] at hc; cases hc
      | some port =>
        rw [hport] at hc
        rcases List.mem_cons.mp hc with rfl | hc
        · exact .inr (.inr rfl)
        · exact .inl (Nat.isDigit_of_mem_toDigits (by decide) (by decide) hc)
    exact (inHost_of_address hdigit).1
  have hboth : ∀ c ∈ host ++ delimited ':' (u.port.map (Nat.toDigits 10)), InHost c := by
    intro c hc
    rcases List.mem_append.mp hc with hc | hc
    · exact hchars c hc
    · exact hport c hc
  have hat : '@' ∉ host ++ delimited ':' (u.port.map (Nat.toDigits 10)) :=
    fun hmem => (hboth '@' hmem).2.2 rfl
  refine ⟨host, u.credentials ++ (host ++ delimited ':' (u.port.map (Nat.toDigits 10))), hhost, hparse,
    ?_, by simp [hne], ?_, ?_⟩
  · simp [authority, hhost]
  · intro c hc
    rcases List.mem_append.mp hc with hc | hc
    · -- credentials are encoded; what they add is a colon and an at sign
      have hcred : userinfoSet c = false ∨ c = ':' ∨ c = '@' := by
        unfold credentials at hc
        split at hc
        · cases hc
        · have henc := h.encoded
          simp only [List.mem_append, List.mem_singleton] at hc henc
          rcases hc with (hc | hc) | hc
          · exact .inl (henc c (.inl hc))
          · split at hc
            · cases hc
            · rcases List.mem_cons.mp hc with rfl | hc
              · exact .inr (.inl rfl)
              · exact .inl (henc c (.inr hc))
          · exact .inr (.inr hc)
      rcases hcred with hc | rfl | rfl
      · exact ⟨(of_not_userinfoSet hc).1, (of_not_userinfoSet hc).2.1⟩
      · decide
      · decide
    · exact ⟨(hboth c hc).1, (hboth c hc).2.1⟩
  · unfold credentials
    split
    · rw [List.nil_append, afterAt_of_not_mem hat, List.nil_append]
    · rw [List.append_assoc _ ['@'], List.singleton_append, afterAt_append_at,
        afterAt_of_not_mem hat, List.nil_append]

/-- What follows the authority of a serialized URL ends it. -/
theorem endsAuthority_of_head (hpath : u.Hierarchical) :
    ∀ c ∈ (u.pathname ++ delimited '?' u.query ++ delimited '#' u.fragment).head?,
      endsAuthority true c = true := by
  have hends : ∀ d ∈ ['/', '?', '#'], endsAuthority true d = true := by decide
  obtain ⟨segments, hpath⟩ := hpath
  intro c hc
  apply hends
  unfold pathname at hc
  rw [hpath] at hc
  cases segments with
  | cons segment segments =>
    simp at hc
    simp [← hc]
  | nil =>
    cases hquery : u.query with
    | some query =>
      simp [hquery, delimited] at hc
      simp [← hc]
    | none =>
      cases hfragment : u.fragment with
      | some fragment =>
        simp [hquery, hfragment, delimited] at hc
        simp [← hc]
      | none => simp [hquery, hfragment, delimited] at hc

/-- **A serialized URL is read back to its origin.** -/
theorem exists_parse_href (h : Networked hosts u) :
    ∃ v, parse hosts none u.href = some v ∧ v.SameOrigin u ∧ Networked hosts v := by
  obtain ⟨host, text, hhost, hparse, hauthority, hne, htext, hat⟩ := authority_spec h
  -- the text is the scheme, the authority and a rest that ends the authority
  obtain ⟨rest, hhref, hrest⟩ : ∃ rest, u.href = (u.scheme ++ ':' :: '/' :: '/' :: text) ++ rest ∧
      ∀ c ∈ rest.head?, endsAuthority true c = true := by
    refine ⟨u.pathname ++ delimited '?' u.query ++ delimited '#' u.fragment, ?_, ?_⟩
    · rw [href, hauthority]
      simp
    · exact endsAuthority_of_head h.path
  have hclean : ∀ c ∈ u.scheme ++ ':' :: '/' :: '/' :: text, isControl c = false := by
    intro c hc
    simp only [List.mem_append, List.mem_cons] at hc
    rcases hc with hc | rfl | rfl | rfl | hc
    · exact isControl_of_isSchemeChar (h.isScheme.chars c hc).1
    · decide
    · decide
    · decide
    · exact (htext c hc).2
  have hcontrol : ∀ c : Char, endsAuthority true c = true → isControl c = false := by
    intro c hc
    simp only [endsAuthority, isSlash, Bool.true_and, Bool.or_eq_true, beq_iff_eq] at hc
    rcases hc with ((rfl | rfl) | rfl) | rfl <;> decide
  obtain ⟨rest', hpre, hhead⟩ := preprocess_append (by simp) hclean rest
  have hhead' := hhead (fun c hc => hcontrol c (hrest c hc))
  -- the authority is read up to the rest
  have htake : (text ++ rest').takeWhile inAuthority = text := by
    rw [List.takeWhile_append_of_pos (fun c hc => (htext c hc).1)]
    cases rest' with
    | nil => simp
    | cons c tail =>
      have hc : endsAuthority true c = true := hrest c (by rw [← hhead']; rfl)
      rw [List.takeWhile_cons_of_neg (by simp [inAuthority, hc]), List.append_nil]
  have horigin : readOrigin hosts u.scheme (text ++ rest') = some (host, u.port) := by
    unfold readOrigin
    rw [htake, hat]
    exact readHostPort_serialized h hparse
  have hslash : (text ++ rest').dropWhile (isSlash true) = text ++ rest' := by
    cases text with
    | nil => exact absurd rfl hne
    | cons c tail =>
      have hc := (htext c List.mem_cons_self).1
      rw [List.cons_append, List.dropWhile_cons_of_neg]
      intro hs
      simp [inAuthority, endsAuthority, hs] at hc
  have hstate : parse hosts none u.href =
      authorityState hosts (blank u.scheme) false false [] (text ++ rest') := by
    have hspecial : isSpecialScheme u.scheme = true := h.special
    unfold parse
    rw [hhref, hpre, List.append_assoc, List.cons_append]
    simp only [h.isScheme.splitScheme, afterScheme, if_neg h.notFile, hspecial, if_true,
      authoritySlashesState_eq, List.cons_append]
    rw [List.dropWhile_cons_of_pos (by decide), List.dropWhile_cons_of_pos (by decide), hslash]
  rw [hstate]
  rcases authorityState_blank h.special h.notFile (text ++ rest') with ⟨-, hnone⟩ |
    ⟨v, host', hv, hv', hvhost, hvscheme, hnet⟩
  · rw [horigin] at hnone
    cases hnone
  · rw [horigin] at hv'
    obtain ⟨rfl, hport⟩ := Prod.mk.inj (Option.some.inj hv')
    exact ⟨v, hv, ⟨hvscheme, hvhost.trans hhost.symm, hport.symm⟩, hnet⟩

/-- An authority without credentials is all host and port. -/
theorem authorityState_append (hspecial : u.isSpecial = true)
    (htext : ∀ c ∈ text, inAuthority c = true ∧ c ≠ '@') (buffer rest : List Char) :
    authorityState hosts u false false buffer (text ++ '/' :: rest) =
      endAuthority hosts u false (buffer ++ text) ('/' :: rest) := by
  induction text generalizing buffer with
  | nil =>
    rw [List.nil_append, List.append_nil, authorityState, if_neg (by decide),
      endsAuthority_of_special hspecial, if_pos (by decide)]
  | cons c text ih =>
    obtain ⟨hin, hat⟩ := htext c List.mem_cons_self
    rw [List.cons_append, authorityState, if_neg hat, endsAuthority_of_special hspecial, hin,
      if_neg (by decide), ih (fun d hd => htext d (List.mem_cons_of_mem _ hd)), List.append_assoc,
      List.singleton_append]

/-- **The root of a host**, with nothing else in the URL. -/
theorem parse_root {scheme host : List Char} (hspecial : isSpecialScheme scheme = true)
    (hfile : scheme ≠ file) (hhost : hosts.parse true host = some host) :
    parse hosts none (scheme ++ ':' :: '/' :: '/' :: host ++ ['/']) =
      some { blank scheme with host := some host, path := .list [[]] } := by
  have hnet : Networked hosts { blank scheme with host := some host, path := .list [[]] } :=
    ⟨hspecial, hfile, ⟨host, rfl, hhost⟩, by rintro port ⟨⟩, by simp [blank], ⟨_, rfl⟩⟩
  have hscheme : IsScheme scheme := hnet.isScheme
  obtain ⟨hne, hin, -⟩ := host_spec hhost
  have hclean : ∀ c ∈ scheme ++ ':' :: '/' :: '/' :: host ++ ['/'], isControl c = false := by
    intro c hc
    simp only [List.mem_append, List.mem_cons, List.not_mem_nil, or_false] at hc
    rcases hc with (hc | rfl | rfl | rfl | hc) | rfl
    · exact isControl_of_isSchemeChar (hscheme.chars c hc).1
    all_goals first | exact (hin c hc).2.1 | decide
  obtain ⟨rest', hpre, hhead⟩ := preprocess_append (by simp) hclean []
  obtain rfl : rest' = [] := List.head?_eq_none_iff.mp (hhead (by simp))
  have hslash : (host ++ ['/']).dropWhile (isSlash true) = host ++ ['/'] := by
    obtain ⟨c, tail, rfl⟩ := List.exists_cons_of_ne_nil hne
    have hc := (hin c List.mem_cons_self).1
    rw [List.cons_append, List.dropWhile_cons_of_neg]
    intro hs
    simp [inAuthority, endsAuthority, hs] at hc
  have hread : readHostPort hosts scheme host = some (host, none) := by
    have hserialized := readHostPort_serialized hnet hhost
    rwa [show delimited ':' _ = [] from rfl, List.append_nil] at hserialized
  have hstate : authorityState hosts (blank scheme) false false [] (host ++ ['/']) =
      (readHostPort hosts scheme host).map ((blank scheme).withOrigin ['/']) := by
    have hblank : (blank scheme).isSpecial = true := hspecial
    rw [authorityState_append hblank (fun c hc => ⟨(hin c hc).1, (hin c hc).2.2⟩),
      List.nil_append, endAuthority_eq hblank rfl false (fun c hc => (hin c hc).1) (by decide)]
    rfl
  rw [List.append_nil] at hpre
  unfold parse
  rw [hpre, List.append_assoc, List.cons_append]
  simp only [hscheme.splitScheme, afterScheme, if_neg hfile, hspecial, if_true,
    authoritySlashesState_eq, List.cons_append]
  rw [List.dropWhile_cons_of_pos (by decide), List.dropWhile_cons_of_pos (by decide), hslash, hstate,
    hread]
  simp [withOrigin, pathStartState, pathState, isSlash, endSegment, isDoubleDot, isSingleDot, isDrive,
    segments, blank]

end Href

end WebVPN.Library.URL
