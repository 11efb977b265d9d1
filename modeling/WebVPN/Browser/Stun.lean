import WebVPN.Agent.Stun
import WebVPN.Browser.Headers

namespace WebVPN.Browser

open WebVPN.Library WebVPN.Agent

/-!
# Browser and Agent — the grammar of STUN URLs

The language of `ValidateSTUNURLs`, and `validateSTUN` of `web/src/connection.ts`, which the
browser applies to what the Controller hands it.

* `Standard` — what is used of the Go library: letters outside of ASCII, the characters of
  addresses, and `net.SplitHostPort` on a text without brackets;
* `STUNURL` — the grammar: a scheme, a bracketed IPv6 address, an IPv4 address or a name, and
  an optional port;
* `validateSTUNURLs_grammar` — accepted texts are in the grammar exactly if no brackets stand
  around anything but an IPv6 address, and the browser accepts them all;
* `accepts_bracketed_name` — brackets around a name are accepted.
-/

/-! ### The browser's check -/

/-- The regular expression `/^stun:[^@\s]+$/i`. -/
def matchesSTUN (value : List Char) : Bool :=
  (value.take 5).map asciiLower == "stun:".toList && value.drop 5 ≠ [] &&
    (value.drop 5).all (fun c => c ≠ '@' && !isJsSpace c)

/-- `validateSTUN`: does the list pass? -/
def validateSTUN (values : List String) : Bool :=
  values ≠ [] && values.all (fun value => matchesSTUN value.toList)

/-! ### The grammar -/

/-- A decimal port from 1 to 65535. -/
structure IsPort (text : List Char) : Prop where
  digits : ∀ c ∈ text, c.isDigit = true
  pos : 1 ≤ Nat.ofDigitChars 10 text 0
  le : Nat.ofDigitChars 10 text 0 ≤ 65535

/-- A label of letters, digits and hyphens. -/
structure IsLabel (label : List Char) : Prop where
  nonempty : 1 ≤ label.length
  short : label.length ≤ 63
  chars : ∀ c ∈ label, labelCharacter c = true
  first : label.head? ≠ some '-'
  last : label.getLast? ≠ some '-'

/-- A name of at least two labels. -/
structure IsDNSName (text : List Char) : Prop where
  short : text.length ≤ 253
  labels : 2 ≤ (splitChar '.' text).length
  label : ∀ label ∈ splitChar '.' text, IsLabel label

/-- An address literal with colons. -/
def IsIPv6 (platform : Agent.Platform) (text : List Char) : Prop :=
  (platform.parseIP (String.ofList text)).isSome = true ∧ ':' ∈ text

/-- An address literal without colons. -/
def IsIPv4 (platform : Agent.Platform) (text : List Char) : Prop :=
  (platform.parseIP (String.ofList text)).isSome = true ∧ ':' ∉ text

/-- The host of the grammar. -/
inductive IsHost (platform : Agent.Platform) : List Char → Prop
  | bracketed (inner : List Char) (h : IsIPv6 platform inner) : IsHost platform ('[' :: inner ++ [']'])
  | address (host : List Char) (h : IsIPv4 platform host) : IsHost platform host
  | name (host : List Char) (h : IsDNSName host) : IsHost platform host

/-- Nothing, or a colon and a port. -/
def IsPortPart (text : List Char) : Prop := text = [] ∨ ∃ port, text = ':' :: port ∧ IsPort port

/-- **The grammar of STUN URLs.** -/
structure STUNURL (platform : Agent.Platform) (value : List Char) : Prop where
  parts : ∃ scheme host port, value = scheme ++ host ++ port ∧
    scheme.map asciiLower = "stun:".toList ∧ IsHost platform host ∧ IsPortPart port

/-- Brackets around something without a colon. -/
def BracketedName (authority : List Char) : Prop :=
  ∃ inner rest, authority = '[' :: inner ++ ']' :: rest ∧ ':' ∉ inner ∧ ']' ∉ inner

theorem bracketedName_iff (authority : List Char) :
    BracketedName authority ↔
      authority.head? = some '[' ∧ ']' ∈ authority ∧ ':' ∉ authority.takeWhile (fun c => decide (c ≠ ']')) := by
  constructor
  · rintro ⟨inner, rest, rfl, hcolon, hclosing⟩
    refine ⟨rfl, by simp, ?_⟩
    rw [show '[' :: inner ++ ']' :: rest = ('[' :: inner) ++ ']' :: rest from rfl,
      takeWhile_append_cons (by simp [hclosing])]
    simp [hcolon]
  · rintro ⟨hhead, hclosing, hcolon⟩
    obtain ⟨before, rest, rfl, hbefore⟩ := List.eq_append_cons_of_mem hclosing
    rw [takeWhile_append_cons hbefore] at hcolon
    cases before with
    | nil => cases hhead
    | cons c inner =>
      cases hhead
      exact ⟨inner, rest, rfl, fun h => hcolon (List.mem_cons_of_mem _ h),
        fun h => hbefore (List.mem_cons_of_mem _ h)⟩

instance (authority : List Char) : Decidable (BracketedName authority) :=
  decidable_of_iff _ (bracketedName_iff authority).symm

/-- What is used of the Go library.  No letter outside of ASCII has a lower case in `stun:`; an
    address that `net.ParseIP` knows is written with hexadecimal digits, dots and colons; and
    `net.SplitHostPort` splits a text that does not start with a bracket at its colon. -/
structure Standard (platform : Agent.Platform) : Prop where
  lower_stun : ∀ c : Char, 128 ≤ c.toNat → platform.unicode.lower c ∉ "stun:".toList
  parseIP_chars : ∀ text ip, platform.parseIP text = some ip →
    ∀ c ∈ text.toList, isHexadecimal c = true ∨ c = '.' ∨ c = ':'
  splitHostPort_eq : ∀ text host port, text.toList.head? ≠ some '[' → text.toList.count ':' = 1 →
    platform.splitHostPort text = some (host, port) →
    text.toList = host.toList ++ ':' :: port.toList

/-! ### The accepted language -/

section Accepted

variable {platform : Agent.Platform} {authority : List Char}

theorem isPort_of_validPort {text : List Char} (h : validPort text = true) : IsPort text := by
  unfold validPort at h
  simp only [Bool.and_eq_true, decide_eq_true_eq, List.all_eq_true] at h
  obtain ⟨⟨-, hdigits⟩, hlt, hne⟩ := h
  have hvalue : text.foldl (fun n c => 10 * n + (c.toNat - '0'.toNat)) 0 = Nat.ofDigitChars 10 text 0 := rfl
  refine ⟨?_, by omega, by omega⟩
  intro c hc
  have hdigit := hdigits c hc
  simpa [Char.isDigit, Char.le_def] using hdigit

/-- The characters of a host: no brackets, no white space and no at sign. -/
structure HostChar (c : Char) : Prop where
  ascii : c.toNat < 128
  lower : asciiLower c = '.' → c = '.'
  bracket : c ≠ '[' ∧ c ≠ ']'
  space : isJsSpace c = false

theorem hostChar_of_lt {c : Char} (hlt : c.toNat < 128)
    (h : labelCharacter c = true ∨ isHexadecimal c = true ∨ c = '.' ∨ c = ':') : HostChar c := by
  have hascii : (labelCharacter c = true ∨ isHexadecimal c = true ∨ c = '.' ∨ c = ':') →
      (asciiLower c = '.' → c = '.') ∧ (c ≠ '[' ∧ c ≠ ']') ∧ isJsSpace c = false :=
    forall_ascii (p := fun c => (labelCharacter c = true ∨ isHexadecimal c = true ∨ c = '.' ∨ c = ':') →
      (asciiLower c = '.' → c = '.') ∧ (c ≠ '[' ∧ c ≠ ']') ∧ isJsSpace c = false)
      (by decide +kernel) hlt
  obtain ⟨hlower, hbracket, hspace⟩ := hascii h
  exact ⟨hlt, hlower, hbracket, hspace⟩

/-- A label that passes the check. -/
theorem isLabel_of_validLabel {label : List Char} (h : validLabel label = true) : IsLabel label := by
  unfold validLabel at h
  simp only [Bool.and_eq_true, decide_eq_true_eq, List.all_eq_true, ne_eq] at h
  obtain ⟨⟨⟨⟨hne, hsize⟩, hfirst⟩, hlast⟩, hchars⟩ := h
  have hbytes : byteLength label = label.length := by
    unfold byteLength
    rw [String.utf8ByteSize_ofList]
    exact utf8Len_of_ascii (fun c hc => toNat_lt_of_labelCharacter (hchars c hc))
  rw [hbytes] at hsize
  exact ⟨List.length_pos_iff.mpr hne, hsize, hchars, hfirst, hlast⟩

/-- The characters of a name whose labels pass. -/
theorem hostChar_of_labels {text : List Char} (h : ∀ label ∈ splitChar '.' text, IsLabel label)
    {c : Char} (hc : c ∈ text) : HostChar c ∧ c ≠ ':' := by
  rcases mem_splitChar '.' hc with rfl | ⟨label, hlabel, hmem⟩
  · exact ⟨hostChar_of_lt (by decide) (.inr (.inr (.inl rfl))), by decide⟩
  · have hchar := (h label hlabel).chars c hmem
    refine ⟨hostChar_of_lt (toNat_lt_of_labelCharacter hchar) (.inl hchar), ?_⟩
    rintro rfl
    revert hchar
    decide

/-- A name that passes the checks. -/
theorem isDNSName_of_valid {host : String} (hdot : '.' ∈ (platform.unicode.toLower host).toList)
    (h : validDNSName host = true) : IsDNSName host.toList := by
  unfold validDNSName at h
  simp only [Bool.and_eq_true, decide_eq_true_eq, List.all_eq_true] at h
  obtain ⟨⟨hsize, -⟩, hlabels⟩ := h
  have hlabel : ∀ label ∈ splitChar '.' host.toList, IsLabel label :=
    fun label hmem => isLabel_of_validLabel (hlabels label hmem)
  have hbytes : host.utf8ByteSize = host.toList.length := by
    conv_lhs => rw [← String.ofList_toList (s := host), String.utf8ByteSize_ofList]
    exact utf8Len_of_ascii (fun c hc => (hostChar_of_labels hlabel hc).1.ascii)
  refine ⟨by omega, ?_, hlabel⟩
  -- the dot in the lower-case text is a dot in the text
  apply two_le_length_splitChar
  unfold Unicode.toLower at hdot
  rw [String.toList_ofList] at hdot
  obtain ⟨c, hc, hlower⟩ := List.mem_map.mp hdot
  have hchar := (hostChar_of_labels hlabel hc).1
  rw [platform.unicode.lower_ascii c hchar.ascii] at hlower
  rw [← hchar.lower hlower]
  exact hc

/-- A host that passes is an address literal or a name. -/
theorem host_of_valid (hstd : Standard platform) {host : List Char}
    (h : validateSTUNHost platform (String.ofList host) = .ok ()) :
    ((platform.parseIP (String.ofList host)).isSome = true ∨ (IsDNSName host ∧ ':' ∉ host)) ∧
      host ≠ [] ∧ ∀ c ∈ host, HostChar c := by
  have hne : host ≠ [] := by
    rintro rfl
    cases h
  rcases validateSTUNHost_eq_ok h with ⟨ip, hip, -⟩ | ⟨-, hdot, hname⟩
  · refine ⟨.inl (by rw [hip]; rfl), hne, ?_⟩
    intro c hc
    have hchars := hstd.parseIP_chars _ _ hip c (by rw [String.toList_ofList]; exact hc)
    rcases hchars with hhex | rfl | rfl
    · exact hostChar_of_lt (toNat_lt_of_isHexadecimal hhex) (.inr (.inl hhex))
    · exact hostChar_of_lt (by decide) (.inr (.inr (.inl rfl)))
    · exact hostChar_of_lt (by decide) (.inr (.inr (.inr rfl)))
  · have hdns := isDNSName_of_valid hdot hname
    rw [String.toList_ofList] at hdns
    exact ⟨.inr ⟨hdns, fun hmem => (hostChar_of_labels hdns.label hmem).2 rfl⟩, hne,
      fun c hc => (hostChar_of_labels hdns.label hc).1⟩

/-- The three forms of an accepted authority. -/
theorem authority_cases (hstd : Standard platform)
    (h : validateSTUNAuthority platform authority = .ok ()) :
    ∃ host port, validateSTUNHost platform (String.ofList host) = .ok () ∧ IsPortPart port ∧
      '@' ∉ authority ∧
      ((authority = '[' :: host ++ [']'] ++ port ∧ ']' ∉ host) ∨
        (authority = host ++ port ∧ ':' ∉ host)) := by
  unfold validateSTUNAuthority at h
  rw [then_eq_ok, reject_eq_ok] at h
  obtain ⟨hany, h⟩ := h
  have hat : '@' ∉ authority := by
    intro hmem
    apply hany
    exact List.any_eq_true.mpr ⟨'@', hmem, by decide⟩
  split at h
  · -- in brackets
    simp only [then_eq_ok, reject_eq_ok, not_not] at h
    obtain ⟨hclosing, hport, hhost⟩ := h
    obtain ⟨host, port, rfl, hbefore⟩ := List.eq_append_cons_of_mem hclosing
    rw [dropWhile_append_cons hbefore] at hport
    rw [takeWhile_append_cons hbefore] at hhost
    refine ⟨host, port, hhost, ?_, hat, .inl ⟨by simp, hbefore⟩⟩
    -- nothing or a port behind the bracket
    cases port with
    | nil => exact .inl rfl
    | cons c port =>
      simp only [List.drop_succ_cons, List.drop_zero, ne_eq, reduceCtorEq, not_false_eq_true,
        List.head?_cons, Option.some.injEq, true_and, not_or, not_not, Bool.not_eq_false] at hport
      exact .inr ⟨port, by rw [hport.1], isPort_of_validPort hport.2⟩
  · rename_i hbracket
    split at h
    · -- a single colon
      rename_i hcount
      split at h
      · cases h
      · rename_i host port hsplit
        rw [then_eq_ok, reject_eq_ok, Bool.not_eq_false] at h
        have htext := hstd.splitHostPort_eq _ _ _ (by
          rw [String.toList_ofList]
          intro hhead
          cases authority with
          | nil => cases hhead
          | cons c rest =>
            cases hhead
            exact hbracket rest rfl) (by rw [String.toList_ofList]; exact hcount) hsplit
        rw [String.toList_ofList] at htext
        refine ⟨host.toList, ':' :: port.toList, by rw [String.ofList_toList]; exact h.2,
          .inr ⟨_, rfl, isPort_of_validPort h.1⟩, hat, .inr ⟨htext, ?_⟩⟩
        rw [htext, List.count_append, List.count_cons_self] at hcount
        exact List.count_eq_zero.mp (by omega)
    · rw [then_eq_ok, reject_eq_ok] at h
      exact ⟨authority, [], h.2, .inl rfl, hat, .inr ⟨(List.append_nil _).symm, h.1⟩⟩

/-- The scheme of an accepted URL. -/
theorem scheme_of_isPrefixOf (hstd : Standard platform) {value : String}
    (h : "stun:".toList.isPrefixOf (platform.unicode.toLower value).toList = true) :
    (value.toList.take 5).map asciiLower = "stun:".toList := by
  have htext : (platform.unicode.toLower value).toList = value.toList.map platform.unicode.lower :=
    String.toList_ofList
  rw [htext] at h
  obtain ⟨rest, hrest⟩ := List.isPrefixOf_iff_prefix.mp h
  have hlower : (value.toList.take 5).map platform.unicode.lower = "stun:".toList := by
    rw [List.map_take, ← hrest]
    rfl
  rw [← hlower]
  apply List.map_congr_left
  intro c hc
  -- a letter outside of ASCII has no lower case in the scheme
  have hmem : platform.unicode.lower c ∈ "stun:".toList := by
    rw [← hlower]
    exact List.mem_map_of_mem hc
  have hlt : c.toNat < 128 := Nat.lt_of_not_le (fun hle => hstd.lower_stun c hle hmem)
  exact (platform.unicode.lower_ascii c hlt).symm

/-- An accepted authority is in the grammar unless brackets stand around something without a
    colon. -/
theorem isHost_iff (hstd : Standard platform)
    (h : validateSTUNAuthority platform authority = .ok ()) :
    (∃ host port, authority = host ++ port ∧ IsHost platform host ∧ IsPortPart port) ↔
      ¬ BracketedName authority := by
  -- neither a host without brackets nor a port starts with one
  have hplain : ∀ host port : List Char, (∀ c ∈ host, c ≠ '[') → IsPortPart port →
      ∀ rest, host ++ port ≠ '[' :: rest := by
    intro host port hhost hport rest heq
    cases host with
    | cons c host =>
      cases heq
      exact hhost '[' List.mem_cons_self rfl
    | nil =>
      rcases hport with rfl | ⟨digits, rfl, -⟩
      · cases heq
      · cases heq
  constructor
  · rintro ⟨host, port, hauthority, hhost, hport⟩ ⟨inner, rest, hbracket, hcolon, hclosing⟩
    rw [hauthority] at hbracket
    cases hhost with
    | bracketed inner' hinner =>
      -- the first closing bracket is the same
      obtain ⟨hip, hmem⟩ := hinner
      obtain ⟨ip, hip⟩ := Option.isSome_iff_exists.mp hip
      have hclosing' : ']' ∉ inner' := by
        intro hin
        have hchar := hstd.parseIP_chars _ _ hip ']' (by rw [String.toList_ofList]; exact hin)
        revert hchar
        decide
      have heq : inner' ++ ']' :: port = inner ++ ']' :: rest := by simpa using hbracket
      have hinner : inner' = inner := by
        rw [← takeWhile_append_cons hclosing' port, heq, takeWhile_append_cons hclosing rest]
      exact hcolon (hinner ▸ hmem)
    | address host hhost =>
      obtain ⟨ip, hip⟩ := Option.isSome_iff_exists.mp hhost.1
      refine hplain host port ?_ hport _ hbracket
      rintro c hc rfl
      have hchar := hstd.parseIP_chars _ _ hip '[' (by rw [String.toList_ofList]; exact hc)
      revert hchar
      decide
    | name host hhost =>
      exact hplain host port (fun c hc => (hostChar_of_labels hhost.label hc).1.bracket.1) hport _
        hbracket
  · intro hnot
    obtain ⟨host, port, hhost, hport, -, ⟨rfl, hclosing⟩ | ⟨rfl, hcolon⟩⟩ := authority_cases hstd h
    · have hcolon : ':' ∈ host := by
        by_contra hcolon
        exact hnot ⟨host, port, by simp, hcolon, hclosing⟩
      refine ⟨'[' :: host ++ [']'], port, rfl, .bracketed host ?_, hport⟩
      rcases (host_of_valid hstd hhost).1 with hip | ⟨-, hno⟩
      · exact ⟨hip, hcolon⟩
      · exact absurd hcolon hno
    · refine ⟨host, port, rfl, ?_, hport⟩
      rcases (host_of_valid hstd hhost).1 with hip | ⟨hname, -⟩
      · exact .address host ⟨hip, hcolon⟩
      · exact .name host hname

/-- An accepted URL is in the grammar unless brackets stand around something without a colon. -/
theorem stunURL_iff (hstd : Standard platform) {value : String}
    (hscheme : "stun:".toList.isPrefixOf (platform.unicode.toLower value).toList = true)
    (h : validateSTUNAuthority platform (stunAuthority value) = .ok ()) :
    STUNURL platform value.toList ↔ ¬ BracketedName (stunAuthority value) := by
  rw [← isHost_iff hstd h]
  constructor
  · rintro ⟨scheme, host, port, hvalue, hs, hhost, hport⟩
    refine ⟨host, port, ?_, hhost, hport⟩
    have hlen : scheme.length = 5 := by
      have hlength := congrArg List.length hs
      simpa using hlength
    unfold stunAuthority
    rw [hvalue, List.append_assoc, List.drop_append_of_le_length (by omega), ← hlen, List.drop_length,
      List.nil_append]
  · rintro ⟨host, port, hauthority, hhost, hport⟩
    refine ⟨value.toList.take 5, host, port, ?_, scheme_of_isPrefixOf hstd hscheme, hhost, hport⟩
    rw [List.append_assoc, ← hauthority]
    exact (List.take_append_drop 5 value.toList).symm

/-- An accepted authority has no character that the browser refuses. -/
theorem authority_chars (hstd : Standard platform)
    (h : validateSTUNAuthority platform authority = .ok ()) :
    authority ≠ [] ∧ ∀ c ∈ authority, c ≠ '@' ∧ isJsSpace c = false := by
  obtain ⟨host, port, hhost, hport, hat, hform⟩ := authority_cases hstd h
  obtain ⟨-, hne, hchars⟩ := host_of_valid hstd hhost
  have hportChars : ∀ c ∈ port, isJsSpace c = false := by
    intro c hc
    rcases hport with rfl | ⟨digits, rfl, hdigits⟩
    · cases hc
    · rcases List.mem_cons.mp hc with rfl | hc
      · decide
      · have hdigit := hdigits.digits c hc
        have hhex : isHexadecimal c = true := by
          simp only [Char.isDigit, Bool.and_eq_true, decide_eq_true_eq] at hdigit
          simp only [isHexadecimal, Bool.or_eq_true, Bool.and_eq_true, decide_eq_true_eq, Char.le_def]
          exact .inl (.inl hdigit)
        exact (hostChar_of_lt (toNat_lt_of_isHexadecimal hhex) (.inr (.inl hhex))).space
  constructor
  · rintro rfl
    rcases hform with ⟨heq, -⟩ | ⟨heq, -⟩
    · cases heq
    · exact hne (List.append_eq_nil_iff.mp heq.symm).1
  · intro c hc
    refine ⟨fun heq => hat (heq ▸ hc), ?_⟩
    rcases hform with ⟨rfl, -⟩ | ⟨rfl, -⟩
    · simp only [List.cons_append, List.mem_cons, List.mem_append, List.not_mem_nil, or_false] at hc
      rcases hc with rfl | (hc | rfl) | hc
      · decide
      · exact (hchars c hc).space
      · decide
      · exact hportChars c hc
    · rcases List.mem_append.mp hc with hc | hc
      · exact (hchars c hc).space
      · exact hportChars c hc

end Accepted

/-- **The grammar of STUN URLs.**  A list that `ValidateSTUNURLs` accepts is not empty and all its
    elements are in the grammar, exactly if no element has brackets around something without a colon;
    and the browser accepts every such list. -/
theorem validateSTUNURLs_grammar (platform : Agent.Platform) (hstd : Standard platform)
    (values : List String) (h : validateSTUNURLs platform values = .ok ()) :
    ((values ≠ [] ∧ ∀ value ∈ values, STUNURL platform value.toList) ↔
      ∀ value ∈ values, ¬ BracketedName (stunAuthority value)) ∧
    validateSTUN values = true := by
  obtain ⟨hne, hall⟩ := validateSTUNURLs_eq_ok h
  have hscheme : ∀ value ∈ values, (value.toList.take 5).map asciiLower = "stun:".toList :=
    fun value hvalue => scheme_of_isPrefixOf hstd (hall value hvalue).1
  constructor
  · simp only [hne, ne_eq, not_false_eq_true, true_and]
    apply forall₂_congr
    intro value hvalue
    exact stunURL_iff hstd (hall value hvalue).1 (hall value hvalue).2
  · unfold validateSTUN
    simp only [hne, ne_eq, not_false_eq_true, decide_true, Bool.true_and, List.all_eq_true]
    intro value hvalue
    obtain ⟨hnonempty, hchars⟩ := authority_chars hstd (hall value hvalue).2
    have hnonempty' : value.toList.drop 5 ≠ [] := hnonempty
    have hrest : ∀ c ∈ value.toList.drop 5, c ≠ '@' ∧ isJsSpace c = false := hchars
    simpa [matchesSTUN, hscheme value hvalue, hnonempty'] using hrest

/-! ### Runs -/

theorem standard_literalPlatform : Standard literalPlatform where
  lower_stun c hc := by
    have hlower : asciiLower c = c := by
      unfold asciiLower
      rw [if_neg]
      rintro ⟨-, hle⟩
      have hZ : c.toNat ≤ 'Z'.toNat := UInt32.le_iff_toNat_le.mp hle
      exact absurd hZ (Nat.not_le.mpr (Nat.lt_of_lt_of_le (by decide) hc))
    have hall : ∀ d ∈ "stun:".toList, d.toNat < 128 := by decide
    intro hmem
    have hmem' : c ∈ "stun:".toList := by
      rw [← hlower]
      exact hmem
    exact absurd (hall c hmem') (Nat.not_lt.mpr hc)
  parseIP_chars text ip h := by
    simp only [literalPlatform] at h
    split at h
    · rename_i htext
      rw [htext]
      decide +kernel
    · split at h
      · rename_i htext
        rw [htext]
        decide +kernel
      · split at h
        · rename_i htext
          rw [htext]
          decide +kernel
        · cases h
  splitHostPort_eq text host port _ _ h := by
    simp only [literalPlatform] at h
    split at h
    · rename_i hparts
      cases h
      rw [String.toList_ofList, String.toList_ofList, join_splitChar hparts]
      simp
    · cases h

/-- A name with a port, an IPv4 address, and an IPv6 address in brackets. -/
theorem validateSTUNURLs_grammar_of_three :
    (∀ value ∈ ["stun:stun.example.net:3478", "STUN:203.0.113.7", "stun:[2001:db8::7]:3478"],
        STUNURL literalPlatform value.toList) ∧
      validateSTUN ["stun:stun.example.net:3478", "STUN:203.0.113.7", "stun:[2001:db8::7]:3478"] = true := by
  have hok : validateSTUNURLs literalPlatform
      ["stun:stun.example.net:3478", "STUN:203.0.113.7", "stun:[2001:db8::7]:3478"] = .ok () := by
    decide +kernel
  obtain ⟨hiff, hbrowser⟩ := validateSTUNURLs_grammar literalPlatform standard_literalPlatform _ hok
  exact ⟨(hiff.mpr (by decide +kernel)).2, hbrowser⟩

/-- **Brackets around a name.**  The branch for brackets takes any host. -/
theorem accepts_bracketed_name :
    Standard literalPlatform ∧
      validateSTUNURLs literalPlatform ["stun:[stun.example.net]:3478"] = .ok () ∧
      ¬ STUNURL literalPlatform "stun:[stun.example.net]:3478".toList ∧
      validateSTUNURLs literalPlatform ["stun:[203.0.113.7]"] = .ok () ∧
      ¬ STUNURL literalPlatform "stun:[203.0.113.7]".toList := by
  refine ⟨standard_literalPlatform, by decide +kernel, ?_, by decide +kernel, ?_⟩
  · rw [stunURL_iff standard_literalPlatform (by decide +kernel) (by decide +kernel)]
    decide +kernel
  · rw [stunURL_iff standard_literalPlatform (by decide +kernel) (by decide +kernel)]
    decide +kernel

end WebVPN.Browser
