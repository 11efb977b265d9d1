import WebVPN.Library.URL

namespace WebVPN.Library.URL

/-!
# Library — the origin of a parsed URL

Which host and port the URL parser arrives at, without its states.

* `readOrigin` — host and port of an authority, read off its text;
  `authorityState_eq` says that the states compute it;
* `Networked`, `networked_of_parse` — URLs with a special scheme and a network authority, as the
  parser makes them;
* `Confined` — relative references that do not name another origin;
  `exists_parse_sameOrigin` says that these are the references that keep the origin of a base.
-/

/-! ### Reading an authority -/

/-- The characters of the authority of a special URL. -/
def inAuthority (c : Char) : Bool := !endsAuthority true c

/-- What follows the last at sign, with what follows the at signs so far. -/
def afterAt (current : List Char) : List Char → List Char
  | [] => current
  | c :: rest => if c = '@' then afterAt [] rest else afterAt (current ++ [c]) rest

/-- Split at the first colon outside of brackets. -/
def splitPort (brackets : Bool) : List Char → List Char × Option (List Char)
  | [] => ([], none)
  | c :: rest =>
    if c = ':' ∧ ¬ brackets then ([], some rest)
    else
      let parts := splitPort (if c = '[' then true else if c = ']' then false else brackets) rest
      (c :: parts.1, parts.2)

/-- A port; none is stored for no digits and for the default. -/
def readPort (scheme digits : List Char) : Option (Option Nat) :=
  let port := Nat.ofDigitChars 10 digits 0
  if ¬ digits.all Char.isDigit then none
  else if digits = [] then some none
  else if 65535 < port then none
  else some (if some port = defaultPort scheme then none else some port)

@[simp] theorem readPort_nil (scheme : List Char) : readPort scheme [] = some none := by
  simp [readPort]

/-- Host and port of the text behind the at signs of an authority. -/
def readHostPort (hosts : Hosts) (scheme text : List Char) : Option (List Char × Option Nat) :=
  let parts := splitPort false text
  if parts.1 = [] then none
  else
    (hosts.parse true parts.1).bind (fun host =>
      (readPort scheme (parts.2.getD [])).map (fun port => (host, port)))

/-- Host and port of the authority that a text starts with. -/
def readOrigin (hosts : Hosts) (scheme text : List Char) : Option (List Char × Option Nat) :=
  readHostPort hosts scheme (afterAt [] (text.takeWhile inAuthority))

/-! ### The states compute it -/

section States

variable {hosts : Hosts} {u v : URL} {buffer text : List Char}

theorem endsAuthority_of_special (hspecial : u.isSpecial = true) (c : Char) :
    endsAuthority u.isSpecial c = !inAuthority c := by
  rw [hspecial, inAuthority, Bool.not_not]

/-- A digit does not end an authority. -/
theorem inAuthority_of_isDigit {c : Char} (h : c.isDigit = true) : inAuthority c = true := by
  have hne : ∀ d : Char, d.isDigit = false → c ≠ d := by
    rintro d hd rfl
    rw [h] at hd
    cases hd
  simp [inAuthority, endsAuthority, isSlash, hne '/' (by decide), hne '\\' (by decide),
    hne '?' (by decide), hne '#' (by decide)]

/-- The end of a port, where nothing but digits was seen. -/
theorem endPort_eq (hport : u.port = none) {digits : List Char}
    (hdigits : ∀ c ∈ digits, c.isDigit = true) (text : List Char) :
    endPort u digits text =
      (readPort u.scheme digits).map (fun port => pathStartState { u with port := port } text) := by
  have hall : digits.all Char.isDigit = true := List.all_eq_true.mpr hdigits
  have hu : ({ u with port := none } : URL) = u := by rw [← hport]
  unfold endPort readPort
  simp only [hall, not_true_eq_false, if_false]
  by_cases hnil : digits = []
  · simp only [hnil, if_true]
    show _ = some (pathStartState { u with port := none } text)
    rw [hu]
  · by_cases hlarge : 65535 < Nat.ofDigitChars 10 digits 0
    · simp [hnil, hlarge]
    · simp [hnil, hlarge]

theorem portState_eq (hspecial : u.isSpecial = true) (hport : u.port = none) {digits : List Char}
    (hdigits : ∀ c ∈ digits, c.isDigit = true) (text : List Char) :
    portState u digits text =
      (readPort u.scheme (digits ++ text.takeWhile inAuthority)).map (fun port =>
        pathStartState { u with port := port } (text.dropWhile inAuthority)) := by
  induction text generalizing digits with
  | nil => simpa [portState] using endPort_eq hport hdigits []
  | cons c rest ih =>
    rw [portState, endsAuthority_of_special hspecial]
    by_cases hc : c.isDigit = true
    · have hin := inAuthority_of_isDigit hc
      have hdigits' : ∀ d ∈ digits ++ [c], d.isDigit = true := by
        intro d hd
        rcases List.mem_append.mp hd with hd | hd
        · exact hdigits d hd
        · rw [List.mem_singleton.mp hd]
          exact hc
      rw [if_pos hc, ih hdigits', List.takeWhile_cons_of_pos hin, List.dropWhile_cons_of_pos hin,
        List.append_assoc, List.singleton_append]
    · by_cases hin : inAuthority c = true
      · -- neither a digit nor the end
        have hbad : readPort u.scheme (digits ++ c :: rest.takeWhile inAuthority) = none := by
          unfold readPort
          simp [hc]
        rw [if_neg hc, if_neg (by simp [hin]), List.takeWhile_cons_of_pos hin, hbad]
        rfl
      · rw [if_neg hc, if_pos (by simp [hin]), List.takeWhile_cons_of_neg hin,
          List.dropWhile_cons_of_neg hin, List.append_nil]
        exact endPort_eq hport hdigits _

/-- The URL that a host and a port lead to. -/
def withOrigin (u : URL) (text : List Char) (origin : List Char × Option Nat) : URL :=
  pathStartState { u with host := some origin.1, port := origin.2 } text

theorem endHost_eq (hspecial : u.isSpecial = true) (hport : u.port = none)
    (buffer text : List Char) :
    endHost hosts u buffer text =
      if buffer = [] then none
      else (hosts.parse true buffer).map (fun host => u.withOrigin text (host, none)) := by
  unfold endHost withOrigin
  simp only [hspecial, true_and]
  have hu : ∀ host : List Char,
      ({ u with host := some host, port := none } : URL) = { u with host := some host } := by
    intro host
    rw [← hport]
  simp only [hu]

theorem hostState_eq (hspecial : u.isSpecial = true) (hport : u.port = none) (brackets : Bool)
    (buffer text : List Char) :
    hostState hosts u brackets buffer text =
      let parts := splitPort brackets (text.takeWhile inAuthority)
      if buffer ++ parts.1 = [] then none
      else
        (hosts.parse true (buffer ++ parts.1)).bind (fun host =>
          (readPort u.scheme (parts.2.getD [])).map (fun port =>
            u.withOrigin (text.dropWhile inAuthority) (host, port))) := by
  have hmap : ∀ (x : Option (List Char)) (f : List Char → URL),
      x.bind (fun host => some (f host)) = x.map f := fun x f => by cases x <;> rfl
  induction text generalizing brackets buffer with
  | nil =>
    rw [hostState, endHost_eq hspecial hport]
    simp [splitPort, hmap]
  | cons c rest ih =>
    rw [hostState, endsAuthority_of_special hspecial]
    by_cases hcolon : c = ':' ∧ ¬ brackets
    · have hin : inAuthority c = true := by rw [hcolon.1]; decide
      rw [if_pos hcolon, List.takeWhile_cons_of_pos hin, List.dropWhile_cons_of_pos hin]
      simp only [splitPort, if_pos hcolon, List.append_nil, Option.getD_some, hspecial]
      split
      · rfl
      · congr 1
        ext1 host
        rw [portState_eq (by exact hspecial) (by exact hport) (by simp)]
        rfl
    · rw [if_neg hcolon]
      by_cases hin : inAuthority c = true
      · rw [if_neg (by simp [hin]), ih, List.takeWhile_cons_of_pos hin, List.dropWhile_cons_of_pos hin]
        simp only [splitPort, if_neg hcolon, List.append_assoc, List.singleton_append]
      · rw [if_pos (by simp [hin]), endHost_eq hspecial hport, List.takeWhile_cons_of_neg hin,
          List.dropWhile_cons_of_neg hin]
        simp [splitPort, hmap]

/-- Only the credentials differ, and no character of them has to be encoded. -/
structure Credentialed (u v : URL) : Prop where
  rest : v = { u with username := v.username, password := v.password }
  encoded : (∀ c ∈ u.username ++ u.password, userinfoSet c = false) →
    ∀ c ∈ v.username ++ v.password, userinfoSet c = false

theorem Credentialed.refl (u : URL) : u.Credentialed u := ⟨rfl, id⟩

theorem Credentialed.trans {u v w : URL} (h : u.Credentialed v) (h' : v.Credentialed w) :
    u.Credentialed w where
  rest := by rw [h'.rest, h.rest]
  encoded hu := h'.encoded (h.encoded hu)

/-- Nothing that percent-encoding produces has to be encoded again. -/
theorem userinfoSet_of_mem_percentEncode {c d : Char} (h : d ∈ percentEncode userinfoSet c) :
    userinfoSet d = false := by
  have hdigit : ∀ n < 16, userinfoSet (percentDigit n) = false := by decide
  unfold percentEncode at h
  split at h
  · obtain ⟨byte, -, hd⟩ := List.mem_flatMap.mp h
    have hlt := byte.toNat_lt
    simp only [percentByte, List.mem_cons, List.not_mem_nil, or_false] at hd
    rcases hd with rfl | rfl | rfl
    · decide
    · exact hdigit _ (by omega)
    · exact hdigit _ (by omega)
  · rename_i hc
    rw [List.mem_singleton.mp h]
    simpa using hc

theorem Credentialed.addCredential (state : URL × Bool) (c : Char) :
    state.1.Credentialed (addCredential state c).1 := by
  unfold URL.addCredential
  split
  · exact Credentialed.refl _
  · split
    · refine ⟨rfl, fun hu d hd => ?_⟩
      simp only [List.mem_append] at hu hd
      rcases hd with hd | hd | hd
      · exact hu d (.inl hd)
      · exact hu d (.inr hd)
      · exact userinfoSet_of_mem_percentEncode hd
    · refine ⟨rfl, fun hu d hd => ?_⟩
      simp only [List.mem_append] at hu hd
      rcases hd with (hd | hd) | hd
      · exact hu d (.inl hd)
      · exact userinfoSet_of_mem_percentEncode hd
      · exact hu d (.inr hd)

theorem Credentialed.foldl (text : List Char) (state : URL × Bool) :
    state.1.Credentialed (text.foldl URL.addCredential state).1 := by
  induction text generalizing state with
  | nil => exact Credentialed.refl _
  | cons c rest ih => exact (Credentialed.addCredential state c).trans (ih _)

theorem endAuthority_eq (hspecial : u.isSpecial = true) (hport : u.port = none) (atSeen : Bool)
    (hbuffer : ∀ c ∈ buffer, inAuthority c = true)
    (htext : text.takeWhile inAuthority = []) :
    endAuthority hosts u atSeen buffer text =
      (readHostPort hosts u.scheme buffer).map (u.withOrigin (text.dropWhile inAuthority)) := by
  have hhost : hostState hosts u false [] (buffer ++ text) =
      (readHostPort hosts u.scheme buffer).map (u.withOrigin (text.dropWhile inAuthority)) := by
    rw [hostState_eq hspecial hport, List.takeWhile_append_of_pos hbuffer,
      List.dropWhile_append_of_pos hbuffer, htext, List.append_nil]
    unfold readHostPort
    simp only [List.nil_append]
    split
    · rfl
    · simp only [Option.map_bind, Function.comp_def, Option.map_map]
  unfold endAuthority
  split
  · -- credentials without a host
    rename_i hnil
    rw [hnil.2]
    rfl
  · exact hhost

/-- The authority of a special URL: the states read the origin, and the credentials. -/
theorem authorityState_eq (hspecial : u.isSpecial = true) (hport : u.port = none)
    (atSeen passwordSeen : Bool) {buffer : List Char}
    (hbuffer : ∀ c ∈ buffer, inAuthority c = true) (text : List Char) :
    ∃ v, u.Credentialed v ∧ authorityState hosts u atSeen passwordSeen buffer text =
      (readHostPort hosts u.scheme (afterAt buffer (text.takeWhile inAuthority))).map
        (v.withOrigin (text.dropWhile inAuthority)) := by
  induction text generalizing u atSeen passwordSeen buffer with
  | nil => exact ⟨u, .refl u, endAuthority_eq hspecial hport atSeen hbuffer rfl⟩
  | cons c rest ih =>
    rw [authorityState, endsAuthority_of_special hspecial]
    by_cases hat : c = '@'
    · -- what was read so far is credentials
      have hin : inAuthority c = true := by rw [hat]; decide
      rw [if_pos hat, List.takeWhile_cons_of_pos hin, List.dropWhile_cons_of_pos hin, afterAt,
        if_pos hat]
      generalize (if atSeen then ['%', '4', '0'] ++ buffer else buffer) = credentials
      have hcred := Credentialed.foldl credentials (u, passwordSeen)
      have hscheme : (credentials.foldl URL.addCredential (u, passwordSeen)).1.scheme = u.scheme := by
        rw [hcred.rest]
      obtain ⟨v, hv, heq⟩ := ih (u := (credentials.foldl URL.addCredential (u, passwordSeen)).1)
        (by rw [isSpecial, hscheme]; exact hspecial) (by rw [hcred.rest]; exact hport) true
        (credentials.foldl URL.addCredential (u, passwordSeen)).2
        (fun d (hd : d ∈ []) => absurd hd List.not_mem_nil)
      refine ⟨v, hcred.trans hv, ?_⟩
      rw [hscheme] at heq
      exact heq
    · rw [if_neg hat]
      by_cases hin : inAuthority c = true
      · rw [if_neg (by simp [hin]), List.takeWhile_cons_of_pos hin, List.dropWhile_cons_of_pos hin,
          afterAt, if_neg hat]
        apply ih hspecial hport
        intro d hd
        rcases List.mem_append.mp hd with hd | hd
        · exact hbuffer d hd
        · rw [List.mem_singleton.mp hd]
          exact hin
      · rw [if_pos (by simp [hin]), List.takeWhile_cons_of_neg hin]
        exact ⟨u, .refl u, endAuthority_eq hspecial hport atSeen hbuffer
          (List.takeWhile_cons_of_neg hin)⟩

/-! The states of the authority keep the scheme, whether it is special or not. -/

theorem endPort_scheme {digits text : List Char} (h : endPort u digits text = some v) :
    v.scheme = u.scheme := by
  unfold endPort at h
  simp only at h
  split at h
  · rw [← Option.some.inj h]
    exact (Keeps.pathStartState _ _).scheme
  · split at h
    · cases h
    · rw [← Option.some.inj h]
      exact (Keeps.pathStartState _ _).scheme

theorem portState_scheme {digits text : List Char} (h : portState u digits text = some v) :
    v.scheme = u.scheme := by
  induction text generalizing digits with
  | nil => exact endPort_scheme h
  | cons c rest ih =>
    rw [portState] at h
    split at h
    · exact ih h
    · split at h
      · exact endPort_scheme h
      · cases h

theorem endHost_scheme (h : endHost hosts u buffer text = some v) : v.scheme = u.scheme := by
  unfold endHost at h
  split at h
  · cases h
  · obtain ⟨host, -, rfl⟩ := Option.map_eq_some_iff.mp h
    exact (Keeps.pathStartState _ _).scheme

theorem hostState_scheme {brackets : Bool}
    (h : hostState hosts u brackets buffer text = some v) : v.scheme = u.scheme := by
  induction text generalizing brackets buffer with
  | nil => exact endHost_scheme h
  | cons c rest ih =>
    rw [hostState] at h
    split at h
    · split at h
      · cases h
      · obtain ⟨host, -, hport⟩ := Option.bind_eq_some_iff.mp h
        exact portState_scheme (u := { u with host := some host }) hport
    · split at h
      · exact endHost_scheme h
      · exact ih h

theorem endAuthority_scheme {atSeen : Bool}
    (h : endAuthority hosts u atSeen buffer text = some v) : v.scheme = u.scheme := by
  unfold endAuthority at h
  split at h
  · cases h
  · exact hostState_scheme h

theorem authorityState_scheme {atSeen passwordSeen : Bool}
    (h : authorityState hosts u atSeen passwordSeen buffer text = some v) :
    v.scheme = u.scheme := by
  induction text generalizing u atSeen passwordSeen buffer with
  | nil => exact endAuthority_scheme h
  | cons c rest ih =>
    rw [authorityState] at h
    split at h
    · rw [ih h, (Credentialed.foldl _ (u, passwordSeen)).rest]
    · split at h
      · exact endAuthority_scheme h
      · exact ih h

theorem fileHostState_scheme
    (h : fileHostState hosts u buffer text = some v) : v.scheme = u.scheme := by
  have hend : ∀ {buffer text : List Char}, endFileHost hosts u buffer text = some v →
      v.scheme = u.scheme := by
    intro buffer text h
    unfold endFileHost at h
    split at h
    · rw [← Option.some.inj h]
      exact (Keeps.pathState _ _ _).scheme
    · split at h
      · rw [← Option.some.inj h]
        exact (Keeps.pathStartState _ _).scheme
      · obtain ⟨host, -, rfl⟩ := Option.map_eq_some_iff.mp h
        exact (Keeps.pathStartState _ _).scheme
  induction text generalizing buffer with
  | nil => exact hend h
  | cons c rest ih =>
    rw [fileHostState] at h
    split at h
    · exact hend h
    · exact ih h

theorem inheritDrive_scheme (base : Option URL) (u : URL) (text : List Char) :
    (inheritDrive base u text).scheme = u.scheme := by
  cases base with
  | none => rfl
  | some b =>
    show (if b.scheme = file then _ else u).scheme = u.scheme
    split
    · rfl
    · rfl

theorem filePath_scheme (base : Option URL) (u : URL) (text : List Char) :
    (filePath base u text).scheme = u.scheme := by
  have hrelative : ∀ b : URL, (fileRelative u b text).scheme = u.scheme := by
    intro b
    unfold fileRelative
    cases text with
    | nil => rfl
    | cons c rest =>
      simp only
      split
      · exact (Keeps.queryState _ _).scheme
      · split
        · exact (Keeps.fragmentState _ _).scheme
        · exact (Keeps.pathState _ _ _).scheme
  cases base with
  | none => exact (Keeps.pathState _ _ _).scheme
  | some b =>
    show (if b.scheme = file then fileRelative u b text else pathState u [] text).scheme = u.scheme
    split
    · exact hrelative b
    · exact (Keeps.pathState _ _ _).scheme

theorem fileState_scheme {base : Option URL} {text : List Char}
    (h : fileState hosts base text = some v) : v.scheme = file := by
  cases text with
  | nil =>
    rw [← Option.some.inj h]
    exact filePath_scheme _ _ _
  | cons c rest =>
    simp only [fileState] at h
    split at h
    · cases rest with
      | nil =>
        rw [← Option.some.inj h, (Keeps.pathState _ _ _).scheme]
        exact inheritDrive_scheme _ _ _
      | cons d rest =>
        simp only [fileSlashState] at h
        split at h
        · exact fileHostState_scheme h
        · rw [← Option.some.inj h, (Keeps.pathState _ _ _).scheme]
          exact inheritDrive_scheme _ _ _
    · rw [← Option.some.inj h]
      exact filePath_scheme _ _ _

theorem authoritySlashesState_eq (hosts : Hosts) (u : URL) (text : List Char) :
    authoritySlashesState hosts u text =
      authorityState hosts u false false [] (text.dropWhile (isSlash true)) := by
  unfold authoritySlashesState ignoreSlashesState
  split
  · rfl
  · rfl

/-- A scheme of its own: the URL has it. -/
theorem afterScheme_scheme {base : Option URL} {scheme text : List Char}
    (h : afterScheme hosts base scheme text = some v) (hne : ∀ b ∈ base, b.scheme ≠ scheme) :
    v.scheme = scheme := by
  simp only [afterScheme] at h
  split at h
  · rename_i hfile
    rw [hfile]
    exact fileState_scheme h
  · split at h
    · have hslashes : authoritySlashesState hosts (blank scheme) text = some v := by
        cases base with
        | none => exact h
        | some b => simpa only [if_neg (hne b rfl)] using h
      rw [authoritySlashesState_eq] at hslashes
      exact authorityState_scheme hslashes
    · split at h
      · unfold pathOrAuthorityState at h
        split at h
        · exact authorityState_scheme h
        · rw [← Option.some.inj h]
          exact (Keeps.pathState _ _ _).scheme
      · rw [← Option.some.inj h]
        exact textState_scheme _ _ _

end States

/-! ### URLs with a network authority -/

/-- A URL as the parser makes it from a special scheme other than `file`. -/
structure Networked (hosts : Hosts) (u : URL) : Prop where
  special : u.isSpecial = true
  notFile : u.scheme ≠ file
  host : ∃ host, u.host = some host ∧ hosts.parse true host = some host
  port : ∀ port, u.port = some port → port ≤ 65535 ∧ some port ≠ defaultPort u.scheme
  encoded : ∀ c ∈ u.username ++ u.password, userinfoSet c = false
  path : u.Hierarchical

/-- The same scheme, host and port. -/
structure SameOrigin (u v : URL) : Prop where
  scheme : u.scheme = v.scheme
  host : u.host = v.host
  port : u.port = v.port

section Networked

variable {hosts : Hosts} {u v base : URL} {scheme : List Char}

theorem Networked.of_keeps (h : Networked hosts u) (hk : u.Keeps v) : Networked hosts v where
  special := by rw [isSpecial, hk.scheme]; exact h.special
  notFile := by rw [hk.scheme]; exact h.notFile
  host := by rw [hk.host]; exact h.host
  port := by rw [hk.port, hk.scheme]; exact h.port
  encoded := by rw [hk.username, hk.password]; exact h.encoded
  path := hk.path h.path

/-- The forbidden characters do not occur in a serialized domain; in particular no bracket. -/
theorem domain_ne_bracket {text host : List Char} (h : hosts.domain text = some host)
    (inner : List Char) : host ≠ '[' :: inner := by
  intro heq
  have hallowed := hosts.domain_allowed text host h '[' (by rw [heq]; simp)
  revert hallowed
  decide

/-- A serialized host is parsed to itself. -/
theorem parse_serialized {text host : List Char} (h : hosts.parse true text = some host) :
    hosts.parse true host = some host := by
  unfold Hosts.parse at h
  split at h
  · split at h
    · obtain ⟨address, haddress, rfl⟩ := Option.map_eq_some_iff.mp h
      have hself := hosts.address6_serialized _ _ haddress
      simp [Hosts.parse, hself]
    · cases h
  · have hself := hosts.domain_serialized _ _ h
    unfold Hosts.parse
    split
    · exact absurd rfl (domain_ne_bracket hself _)
    · exact hself

theorem readPort_valid {scheme digits : List Char} {port : Nat}
    (h : readPort scheme digits = some (some port)) :
    port ≤ 65535 ∧ some port ≠ defaultPort scheme := by
  unfold readPort at h
  simp only at h
  split at h
  · cases h
  · split at h
    · cases h
    · split at h
      · cases h
      · rename_i hle
        split at h
        · cases h
        · rename_i hdefault
          cases h
          exact ⟨Nat.not_lt.mp hle, hdefault⟩

theorem readHostPort_valid {scheme text host : List Char} {port : Option Nat}
    (h : readHostPort hosts scheme text = some (host, port)) :
    hosts.parse true host = some host ∧
      ∀ p, port = some p → p ≤ 65535 ∧ some p ≠ defaultPort scheme := by
  unfold readHostPort at h
  simp only at h
  split at h
  · cases h
  · obtain ⟨host', hhost, h⟩ := Option.bind_eq_some_iff.mp h
    obtain ⟨port', hport, heq⟩ := Option.map_eq_some_iff.mp h
    cases heq
    refine ⟨parse_serialized hhost, ?_⟩
    rintro p rfl
    exact readPort_valid hport

/-- An authority gives a URL exactly if it names an origin, and the URL has that origin. -/
theorem authorityState_blank (hspecial : isSpecialScheme scheme = true)
    (hfile : scheme ≠ file) (text : List Char) :
    (authorityState hosts (blank scheme) false false [] text = none ∧
      readOrigin hosts scheme text = none) ∨
    ∃ u host, authorityState hosts (blank scheme) false false [] text = some u ∧
      readOrigin hosts scheme text = some (host, u.port) ∧ u.host = some host ∧
      u.scheme = scheme ∧ Networked hosts u := by
  have hstates : ∃ v, (blank scheme).Credentialed v ∧
      authorityState hosts (blank scheme) false false [] text =
        (readOrigin hosts scheme text).map (v.withOrigin (text.dropWhile inAuthority)) :=
    authorityState_eq (u := blank scheme) hspecial rfl false false
      (fun d (hd : d ∈ []) => absurd hd List.not_mem_nil) text
  obtain ⟨v, hv, heq⟩ := hstates
  rw [heq]
  cases horigin : readOrigin hosts scheme text with
  | none => exact .inl ⟨rfl, rfl⟩
  | some origin =>
    obtain ⟨host, port⟩ := origin
    obtain ⟨hhost, hport⟩ := readHostPort_valid horigin
    have hk := Keeps.pathStartState { v with host := some host, port := port }
      (text.dropWhile inAuthority)
    have hscheme : v.scheme = scheme := by rw [hv.rest]; rfl
    refine .inr ⟨_, host, rfl, ?_, hk.host, hk.scheme.trans hscheme, ?_⟩
    · show _ = some (host, (pathStartState _ _).port)
      rw [hk.port]
    · refine Networked.of_keeps ?_ hk
      exact {
        special := by rw [isSpecial, hscheme]; exact hspecial
        notFile := by rw [hscheme]; exact hfile
        host := ⟨host, rfl, hhost⟩
        port := by rw [hscheme]; exact hport
        encoded := hv.encoded (fun c hc => absurd hc (by simp [blank]))
        path := ⟨[], by rw [hv.rest]; rfl⟩ }

/-! ### Relative references -/

/-- What follows two slashes: the authority that a reference names.  In a special URL a backslash
    is a slash, and further slashes are ignored. -/
def namedAuthority : List Char → Option (List Char)
  | c :: d :: rest =>
    if isSlash true c ∧ isSlash true d then some (rest.dropWhile (isSlash true)) else none
  | _ => none

/-- Unless the text names an authority, the base is kept; else the authority is that of the base. -/
def KeepsAuthority (hosts : Hosts) (base : URL) (text : List Char) : Prop :=
  ∀ authority, namedAuthority text = some authority →
    ∃ host, base.host = some host ∧
      readOrigin hosts base.scheme authority = some (host, base.port)

/-- A reference that stays on the origin of the base: it has no scheme or the scheme of the base,
    and no authority or one with host and port of the base. -/
def Confined (hosts : Hosts) (base : URL) (input : List Char) : Prop :=
  match splitScheme (preprocess input) with
  | some (scheme, rest) => scheme = base.scheme ∧ KeepsAuthority hosts base rest
  | none => KeepsAuthority hosts base (preprocess input)

theorem relativeState_named (h : Networked hosts base) {text authority : List Char}
    (hnamed : namedAuthority text = some authority) :
    relativeState hosts base text =
      authorityState hosts (blank base.scheme) false false [] authority := by
  unfold namedAuthority at hnamed
  split at hnamed
  · split at hnamed
    · rename_i hslash
      cases hnamed
      have hspecial : (blank base.scheme).isSpecial = true := h.special
      simp only [relativeState, relativeSlashState, hspecial, hslash, if_true, and_self]
      rfl
    · cases hnamed
  · cases hnamed

theorem relativeState_kept (h : Networked hosts base) {text : List Char}
    (hnone : namedAuthority text = none) :
    ∃ v, relativeState hosts base text = some v ∧ base.Keeps v := by
  have hspecial : (blank base.scheme).isSpecial = true := h.special
  have hinherited : base.Keeps { base with fragment := none } := ⟨rfl, rfl, rfl, rfl, rfl, id⟩
  -- a path of its own, at the authority of the base
  have hpath : ∀ (w : URL) (text : List Char), w.scheme = base.scheme → w.username = base.username →
      w.password = base.password → w.host = base.host → w.port = base.port → w.Hierarchical →
      base.Keeps (w.pathState [] text) := by
    intro w text h1 h2 h3 h4 h5 h6
    exact Keeps.trans ⟨h1, h2, h3, h4, h5, fun _ => h6⟩ (Keeps.pathState w [] text)
  cases text with
  | nil => exact ⟨_, rfl, hinherited⟩
  | cons c rest =>
    simp only [relativeState, hspecial]
    split
    · rename_i hslash
      cases rest with
      | nil => exact ⟨_, rfl, hpath _ _ rfl rfl rfl rfl rfl ⟨[], rfl⟩⟩
      | cons d rest =>
        -- the second character is not a slash
        have hd : isSlash true d = false := by
          simpa [namedAuthority, hslash] using hnone
        have hne : d ≠ '/' := by
          rintro rfl
          revert hd
          decide
        simp only [relativeSlashState, hd, hne, Bool.false_eq_true, and_false, if_false]
        exact ⟨_, rfl, hpath _ _ rfl rfl rfl rfl rfl ⟨[], rfl⟩⟩
    · split
      · exact ⟨_, rfl, hinherited.trans (Keeps.queryState _ _)⟩
      · split
        · exact ⟨_, rfl, hinherited.trans (Keeps.fragmentState _ _)⟩
        · exact ⟨_, rfl, hpath _ _ rfl rfl rfl rfl rfl ⟨_, rfl⟩⟩

/-- A reference without another scheme gives a URL on a network authority, and with the origin of
    the base exactly if it does not name another authority. -/
theorem relativeState_spec (h : Networked hosts base) (text : List Char) :
    (∀ v, relativeState hosts base text = some v → Networked hosts v ∧ v.scheme = base.scheme) ∧
    ((∃ v, relativeState hosts base text = some v ∧ v.SameOrigin base) ↔
      KeepsAuthority hosts base text) := by
  cases hnamed : namedAuthority text with
  | none =>
    obtain ⟨v, hv, hk⟩ := relativeState_kept h hnamed
    constructor
    · intro v' hv'
      rw [hv] at hv'
      cases hv'
      exact ⟨h.of_keeps hk, hk.scheme⟩
    · refine ⟨fun _ authority ha => ?_, fun _ => ⟨v, hv, hk.scheme, hk.host, hk.port⟩⟩
      rw [hnamed] at ha
      cases ha
  | some authority =>
    rw [relativeState_named h hnamed]
    rcases authorityState_blank h.special h.notFile authority with ⟨hnone, horigin⟩ |
      ⟨u, host, hu, horigin, hhost, hscheme, hnet⟩
    · constructor
      · intro v hv
        rw [hnone] at hv
        cases hv
      · constructor
        · rintro ⟨v, hv, -⟩
          rw [hnone] at hv
          cases hv
        · intro hkeeps
          obtain ⟨host, -, heq⟩ := hkeeps authority hnamed
          rw [horigin] at heq
          cases heq
    · constructor
      · intro v hv
        rw [hu] at hv
        cases hv
        exact ⟨hnet, hscheme⟩
      · constructor
        · rintro ⟨v, hv, hsame⟩ authority' ha
          rw [hu] at hv
          rw [hnamed] at ha
          cases hv
          cases ha
          exact ⟨host, hsame.host.symm.trans hhost, by rw [horigin, hsame.port]⟩
        · intro hkeeps
          obtain ⟨host', hbase, heq⟩ := hkeeps authority hnamed
          rw [horigin] at heq
          obtain ⟨hhost', hport⟩ := Prod.mk.inj (Option.some.inj heq)
          exact ⟨u, hu, hscheme, by rw [hhost, hbase, hhost'], hport⟩

/-- The scheme of a URL: a letter and what may follow it, in lower case. -/
structure IsScheme (scheme : List Char) : Prop where
  head : ∃ c rest, scheme = c :: rest ∧ c.isAlpha = true
  chars : ∀ c ∈ scheme, isSchemeChar c = true ∧ asciiLower c = c

theorem schemeState_eq_some {buffer text scheme rest : List Char}
    (h : schemeState buffer text = some (scheme, rest)) :
    ∃ read : List Char, scheme = buffer ++ read.map asciiLower ∧ ∀ c ∈ read, isSchemeChar c = true := by
  induction text generalizing buffer with
  | nil => cases h
  | cons c text ih =>
    rw [schemeState] at h
    split at h
    · rename_i hc
      obtain ⟨read, rfl, hread⟩ := ih h
      refine ⟨c :: read, by simp, ?_⟩
      intro d hd
      rcases List.mem_cons.mp hd with rfl | hd
      · exact hc
      · exact hread d hd
    · split at h
      · cases h
        exact ⟨[], by simp, by simp⟩
      · cases h

/-- The characters of a scheme are ASCII. -/
theorem toNat_lt_of_isSchemeChar {c : Char} (h : isSchemeChar c = true) : c.toNat < 128 := by
  simp only [isSchemeChar, Char.isAlphanum, Bool.or_eq_true, decide_eq_true_eq, List.mem_cons,
    List.not_mem_nil, or_false] at h
  rcases h with (halpha | hdigit) | rfl | rfl | rfl
  · rcases isUpper_or_isLower_of_isAlpha halpha with hupper | hlower
    · have hletter := toNat_of_isUpper hupper
      omega
    · have hletter := toNat_of_isLower hlower
      omega
  · have hbounds := toNat_of_isDigit hdigit
    omega
  · decide
  · decide
  · decide

/-- Lower case of a character of a scheme. -/
theorem asciiLower_of_isSchemeChar {c : Char} (h : isSchemeChar c = true) :
    isSchemeChar (asciiLower c) = true ∧ asciiLower (asciiLower c) = asciiLower c ∧
      (c.isAlpha = true → (asciiLower c).isAlpha = true) := by
  have hascii : isSchemeChar c = true → isSchemeChar (asciiLower c) = true ∧
      asciiLower (asciiLower c) = asciiLower c ∧
      (c.isAlpha = true → (asciiLower c).isAlpha = true) :=
    forall_ascii (p := fun c => isSchemeChar c = true → isSchemeChar (asciiLower c) = true ∧
      asciiLower (asciiLower c) = asciiLower c ∧
      (c.isAlpha = true → (asciiLower c).isAlpha = true)) (by decide +kernel)
      (toNat_lt_of_isSchemeChar h)
  exact hascii h

theorem IsScheme.of_splitScheme {text scheme rest : List Char}
    (h : splitScheme text = some (scheme, rest)) : IsScheme scheme := by
  cases text with
  | nil => cases h
  | cons c text =>
    rw [splitScheme] at h
    split at h
    · rename_i halpha
      have hc : isSchemeChar c = true := by simp [isSchemeChar, Char.isAlphanum, halpha]
      obtain ⟨read, rfl, hread⟩ := schemeState_eq_some h
      refine ⟨⟨asciiLower c, _, rfl, (asciiLower_of_isSchemeChar hc).2.2 halpha⟩, ?_⟩
      intro d hd
      have hd' : d ∈ (c :: read).map asciiLower := hd
      obtain ⟨d, hmem, rfl⟩ := List.mem_map.mp hd'
      have hscheme : isSchemeChar d = true := by
        rcases List.mem_cons.mp hmem with rfl | hmem
        · exact hc
        · exact hread d hmem
      exact ⟨(asciiLower_of_isSchemeChar hscheme).1, (asciiLower_of_isSchemeChar hscheme).2.1⟩
    · cases h

/-- Reading a scheme back: it is followed by a colon. -/
theorem schemeState_append
    (hchars : ∀ c ∈ scheme, isSchemeChar c = true ∧ asciiLower c = c) (buffer rest : List Char) :
    schemeState buffer (scheme ++ ':' :: rest) = some (buffer ++ scheme, rest) := by
  induction scheme generalizing buffer with
  | nil =>
    rw [List.nil_append, schemeState, if_neg (by decide), if_pos rfl, List.append_nil]
  | cons c scheme ih =>
    have hc := hchars c List.mem_cons_self
    rw [List.cons_append, schemeState, if_pos hc.1, hc.2,
      ih (fun d hd => hchars d (List.mem_cons_of_mem _ hd)), List.append_assoc, List.singleton_append]

theorem IsScheme.splitScheme (h : IsScheme scheme) (rest : List Char) :
    splitScheme (scheme ++ ':' :: rest) = some (scheme, rest) := by
  obtain ⟨c, tail, rfl, hc⟩ := h.head
  have hlower := (h.chars c List.mem_cons_self).2
  rw [List.cons_append, URL.splitScheme, if_pos hc, hlower,
    schemeState_append (fun d hd => h.chars d (List.mem_cons_of_mem _ hd)), List.singleton_append]

theorem Networked.isScheme (h : Networked hosts u) : IsScheme u.scheme := by
  have hall : ∀ p ∈ specialSchemes, IsScheme p.1 := by
    have hhead : ∀ p ∈ specialSchemes, (p.1.head?.any Char.isAlpha) = true ∧
        ∀ c ∈ p.1, isSchemeChar c = true ∧ asciiLower c = c := by
      decide
    intro p hp
    obtain ⟨hfirst, hchars⟩ := hhead p hp
    refine ⟨?_, hchars⟩
    cases hscheme : p.1 with
    | nil => simp [hscheme] at hfirst
    | cons c rest => exact ⟨c, rest, rfl, by simpa [hscheme] using hfirst⟩
  obtain ⟨p, hp, heq⟩ := List.any_eq_true.mp h.special
  rw [← eq_of_beq heq]
  exact hall p hp

/-- Parsing with a base on a network authority: the scheme decides. -/
theorem parse_eq (h : Networked hosts base) (input : List Char) :
    parse hosts (some base) input =
      match splitScheme (preprocess input) with
      | some (scheme, rest) =>
        if scheme = base.scheme then relativeState hosts base rest
        else afterScheme hosts (some base) scheme rest
      | none => relativeState hosts base (preprocess input) := by
  have hspecial : isSpecialScheme base.scheme = true := h.special
  have hrelative : ∀ rest, relativeOrAuthorityState hosts base (blank base.scheme) rest =
      relativeState hosts base rest := by
    intro rest
    unfold relativeOrAuthorityState
    split
    · exact (relativeState_named h rfl).symm
    · rfl
  unfold parse
  simp only
  cases splitScheme (preprocess input) with
  | none =>
    obtain ⟨segments, hpath⟩ := h.path
    simp only [noSchemeState, hpath, if_neg h.notFile]
  | some p =>
    obtain ⟨scheme, rest⟩ := p
    simp only
    split
    · rename_i hscheme
      subst hscheme
      simp only [afterScheme, if_neg h.notFile, hspecial, if_true, hrelative]
    · rfl

/-- **References that keep the origin.**  A reference is parsed to a URL with the origin of the base
    exactly if it is confined. -/
theorem exists_parse_sameOrigin (h : Networked hosts base) (input : List Char) :
    (∃ v, parse hosts (some base) input = some v ∧ v.SameOrigin base) ↔
      Confined hosts base input := by
  rw [parse_eq h, Confined]
  cases splitScheme (preprocess input) with
  | none => exact (relativeState_spec h _).2
  | some p =>
    obtain ⟨scheme, rest⟩ := p
    by_cases hscheme : scheme = base.scheme
    · simp only [hscheme, if_true, true_and]
      exact (relativeState_spec h rest).2
    · simp only [hscheme, if_false, false_and, iff_false]
      rintro ⟨v, hv, hsame⟩
      have hv' := afterScheme_scheme hv (by rintro b ⟨⟩; exact Ne.symm hscheme)
      exact hscheme (hv'.symm.trans hsame.scheme)

/-- A parsed URL either has a scheme of its own or a network authority. -/
theorem parse_cases (h : Networked hosts base) {input : List Char}
    (hv : parse hosts (some base) input = some v) :
    IsScheme v.scheme ∧ (v.scheme = base.scheme → Networked hosts v) := by
  rw [parse_eq h] at hv
  cases hsplit : splitScheme (preprocess input) with
  | none =>
    rw [hsplit] at hv
    have hnet := ((relativeState_spec h _).1 v hv).1
    exact ⟨hnet.isScheme, fun _ => hnet⟩
  | some p =>
    rw [hsplit] at hv
    simp only at hv
    split at hv
    · have hnet := ((relativeState_spec h _).1 v hv).1
      exact ⟨hnet.isScheme, fun _ => hnet⟩
    · rename_i hscheme
      have hv' := afterScheme_scheme hv (by rintro b ⟨⟩; exact Ne.symm hscheme)
      rw [hv']
      exact ⟨IsScheme.of_splitScheme hsplit, fun heq => absurd heq hscheme⟩

/-- Without a base: a URL with a special scheme other than `file` has a network authority. -/
theorem networked_of_parse {text : List Char} (h : parse hosts none text = some v)
    (hspecial : v.isSpecial = true) (hfile : v.scheme ≠ file) : Networked hosts v := by
  unfold parse at h
  simp only at h
  split at h
  · rename_i scheme rest _
    have hscheme := afterScheme_scheme h (by simp)
    subst hscheme
    have hspecial' : isSpecialScheme v.scheme = true := hspecial
    simp only [afterScheme, if_neg hfile, hspecial', if_true, authoritySlashesState_eq] at h
    rcases authorityState_blank hspecial' hfile (rest.dropWhile (isSlash true)) with ⟨hnone, -⟩ |
      ⟨u, host, hu, -, -, -, hnet⟩
    · rw [h] at hnone
      cases hnone
    · rw [h] at hu
      cases hu
      exact hnet
  · cases h

/-- Which references are confined depends on the origin of the base only. -/
theorem confined_congr (h : u.SameOrigin v) (input : List Char) :
    Confined hosts u input ↔ Confined hosts v input := by
  have hkeeps : ∀ text, KeepsAuthority hosts u text ↔ KeepsAuthority hosts v text := by
    intro text
    unfold KeepsAuthority
    rw [h.scheme, h.host, h.port]
  unfold Confined
  cases splitScheme (preprocess input) with
  | none => exact hkeeps _
  | some p => simp only [h.scheme, hkeeps]

end Networked

end WebVPN.Library.URL
