import WebVPN.Agent.Isolation
import WebVPN.Browser.URL

namespace WebVPN.Browser

open WebVPN.Library WebVPN.Agent

/-!
# Browser and Agent — the authority of a service

The browser puts the host and port of `agentTransportURL (virtualURL service)` into the Wisp
CONNECT; the Agent accepts only the pair that `VirtualAuthority` returns for the service.
Both derive the host from the bytes of the ID, and on it they always agree.  The port is
derived from the kind and the TLS policy on the one side, from the kind alone on the other.

* `virtualHostname_agrees` — the two host names are equal for every valid ID, and
  `virtualHostname_encoders` adds that other bytes have other names;
* `connectAuthority_eq` — what the browser asks for;
* `authority_agrees_iff` — for a configured service the two agree exactly when it is not a
  Guacamole service with TLS, for a temporary service always;
* `guacamole_tls_blocked` — a Guacamole service with TLS cannot be reached.
-/

/-! ### Host names -/

/-- The two alphabets, character by character. -/
theorem toStandard_digit : ∀ c ∈ urlAlphabet,
    stdAlphabet.idxOf? (toStandard c) = urlAlphabet.idxOf? c ∧
      isAsciiSpace (toStandard c) = false ∧ c ≠ '\r' ∧ c ≠ '\n' := by
  decide +kernel

/-- Skipping line breaks before the translation, or white space after it. -/
theorem filter_toStandard {text : List Char}
    (h : ∀ c ∈ text.filter (fun c => c ≠ '\r' ∧ c ≠ '\n'), c ∈ urlAlphabet) :
    (text.map toStandard).filter (fun c => !isAsciiSpace c) =
      (text.filter (fun c => c ≠ '\r' ∧ c ≠ '\n')).map toStandard := by
  rw [List.filter_map]
  congr 1
  apply List.filter_congr
  intro c hc
  by_cases hbreak : c = '\r' ∨ c = '\n'
  · rcases hbreak with rfl | rfl <;> decide
  · rw [not_or] at hbreak
    have hmem : c ∈ urlAlphabet := h c (List.mem_filter.mpr ⟨hc, by simpa using hbreak⟩)
    obtain ⟨-, hspace, -⟩ := toStandard_digit c hmem
    simp [hspace, hbreak.1, hbreak.2]

/-- `atob` reads a valid ID as the Agent does. -/
theorem atob_of_decodeID {id : String} {raw : List UInt8} (h : decodeID id = some raw)
    (hlen : raw.length = 16) : atob (id.toList.map toStandard ++ ['=', '=']) = some raw := by
  unfold decodeID rawDecode at h
  cases hdigits : readDigits urlAlphabet (id.toList.filter (fun c => c ≠ '\r' ∧ c ≠ '\n')) with
  | none =>
    rw [hdigits] at h
    cases h
  | some digits =>
    simp only [hdigits] at h
    split at h
    · cases h
    cases h
    obtain ⟨hmem, hcount⟩ := mem_of_readDigits hdigits
    -- 16 bytes are 22 digits
    have h22 : digits.length = 22 := by
      rw [length_decode64] at hlen
      omega
    have hread : readDigits stdAlphabet
        ((id.toList.filter (fun c => c ≠ '\r' ∧ c ≠ '\n')).map toStandard) = some digits := by
      rw [readDigits_map (fun c hc => (toStandard_digit c (hmem c hc)).1), hdigits]
    have htext : dropPadding ((id.toList.map toStandard ++ ['=', '=']).filter
        (fun c => !isAsciiSpace c)) =
        (id.toList.filter (fun c => c ≠ '\r' ∧ c ≠ '\n')).map toStandard := by
      rw [List.filter_append, filter_toStandard hmem]
      show dropPadding (_ ++ ['=', '=']) = _
      have hlength : ((id.toList.filter (fun c => c ≠ '\r' ∧ c ≠ '\n')).map toStandard ++
          ['=', '=']).length % 4 = 0 := by
        rw [List.length_append, List.length_map, hcount, h22]
        rfl
      have hsplit : (id.toList.filter (fun c => c ≠ '\r' ∧ c ≠ '\n')).map toStandard ++ ['=', '='] =
          ((id.toList.filter (fun c => c ≠ '\r' ∧ c ≠ '\n')).map toStandard ++ ['=']) ++ ['='] := by
        simp
      unfold dropPadding
      rw [if_pos hlength, hsplit]
      simp
    unfold atob
    simp only [htext, hread]
    rw [if_neg (by rw [List.length_map, hcount, h22]; decide)]

/-- **The two host names agree** on every valid ID. -/
theorem virtualHostname_agrees {id : String} (h : validOpaqueID id = true) :
    virtualHostname id = some (Agent.virtualHostname id) := by
  obtain ⟨raw, hraw, hlen⟩ := decodeID_of_valid h
  unfold virtualHostname Agent.virtualHostname
  rw [atob_of_decodeID hraw hlen, hraw]
  simp only [hlen, hostnameDigits_eq]
  rfl

/-- **The two encoders.**  On every valid ID the browser returns the host name that the Agent
    returns, and IDs with other bytes have other host names on both sides. -/
theorem virtualHostname_encoders (id : String) (h : validOpaqueID id = true) :
    virtualHostname id = some (Agent.virtualHostname id) ∧
      ∀ id', validOpaqueID id' = true → decodeID id' ≠ decodeID id →
        Agent.virtualHostname id' ≠ Agent.virtualHostname id ∧
          virtualHostname id' ≠ virtualHostname id := by
  refine ⟨virtualHostname_agrees h, ?_⟩
  intro id' h' hne
  have hagent : Agent.virtualHostname id' ≠ Agent.virtualHostname id := by
    rw [ne_eq, virtualHostname_eq_iff h' h]
    exact hne
  refine ⟨hagent, ?_⟩
  rw [virtualHostname_agrees h', virtualHostname_agrees h]
  intro heq
  exact hagent (Option.some.inj heq)

/-- An ID with a line break and one with other bits behind the last byte, against one with other
    bytes. -/
theorem virtualHostname_encoders_of_spellings :
    virtualHostname "AAAAAAAAAAAAAAAAAAAA\nAA" = some "s-aaaaaaaaaaaaaaaaaaaaaaaaaa.webvpn.invalid" ∧
      virtualHostname "AAAAAAAAAAAAAAAAAAAAAB" = some "s-aaaaaaaaaaaaaaaaaaaaaaaaaa.webvpn.invalid" ∧
      virtualHostname "AAAAAAAAAAAAAAAAAAAAAQ" ≠ virtualHostname "AAAAAAAAAAAAAAAAAAAA\nAA" := by
  have hbreak := virtualHostname_encoders "AAAAAAAAAAAAAAAAAAAA\nAA" (by decide +kernel)
  have hbits := virtualHostname_encoders "AAAAAAAAAAAAAAAAAAAAAB" (by decide +kernel)
  refine ⟨hbreak.1.trans (by decide +kernel), hbits.1.trans (by decide +kernel), ?_⟩
  exact (hbreak.2 "AAAAAAAAAAAAAAAAAAAAAQ" (by decide +kernel) (by decide +kernel)).2

theorem syntheticHost_virtualHostname (id : String) : SyntheticHost (Agent.virtualHostname id) := by
  have hdigit : ∀ d < 32, ('a' ≤ labelDigit d ∧ labelDigit d ≤ 'z') ∨
      ('0' ≤ labelDigit d ∧ labelDigit d ≤ '9') := by decide +kernel
  refine ⟨(encode32 ((decodeID id).getD [])).map labelDigit, ?_, virtualHostname_toList id⟩
  intro c hc
  obtain ⟨d, hd, rfl⟩ := List.mem_map.mp hc
  exact hdigit d (mem_groups_lt (by decide) hd)

/-! ### Ports -/

/-- What the browser asks for: the host name of the ID, and a port that depends on the kind
    alone. -/
theorem connectAuthority_eq (parser : URLParser) (service : Service)
    (hid : validOpaqueID service.id = true) (remote : Option WebURL) :
    connectAuthority parser service remote =
      some (Agent.virtualHostname service.id, if service.kind = "https" then 443 else 80) := by
  have hhost := syntheticHost_virtualHostname service.id
  unfold connectAuthority virtualURL
  rw [virtualHostname_agrees hid]
  by_cases hkind : service.kind = "https"
  · have hparse := parser.parse_synthetic "https:" _ (.inr rfl) hhost
    simp only [if_pos hkind, hparse]
    cases remote <;> rfl
  · have hparse := parser.parse_synthetic "http:" _ (.inl rfl) hhost
    simp only [if_neg hkind, hparse]
    cases remote <;> rfl

section Agreement

variable {env : Env} {files : Files} {service : ServiceConfig}

/-- `VirtualAuthority` of a configured service. -/
theorem virtualAuthority_eq (hpolicy : env.Compiled files)
    (hservice : service ∈ env.config.services) :
    env.policy.virtualAuthority service.id =
      .ok (Agent.virtualHostname service.id, virtualPort service) := by
  obtain ⟨c, hlookup, hconfig, hvirtual⟩ := lookup_byID hpolicy hservice
  simp only [Policy.virtualAuthority, hlookup, hvirtual, hconfig]

theorem expectedAuthority_eq (hpolicy : env.Compiled files)
    (hservice : service ∈ env.config.services) (peer : Peer) (hid : peer.serviceID = service.id) :
    env.expectedAuthority peer = (Agent.virtualHostname service.id, virtualPort service) := by
  simp only [Env.expectedAuthority, hid, virtualAuthority_eq hpolicy hservice]

/-- The ports differ for a Guacamole service with TLS, and only there. -/
theorem virtualPort_eq_iff (service : ServiceConfig) :
    (if service.kind = "https" then 443 else 80) = virtualPort service ↔
      ¬ (service.kind = "guacamole" ∧ service.tls ≠ none) := by
  unfold virtualPort
  by_cases hkind : service.kind = "https"
  · simp [hkind]
  · by_cases htls : service.kind = "guacamole" ∧ service.tls ≠ none
    · simp [htls]
    · simp [hkind, htls]

/-- The browser asks for the authority of a service, and the Agent lets its peers have it:
    `serviceDial` goes on to `DialVirtual`. -/
def ServiceAgrees (env : Env) (parser : URLParser) (service : ServiceConfig) : Prop :=
  ∃ host port, connectAuthority parser ⟨service.id, service.kind⟩ none = some (host, port) ∧
    env.policy.virtualAuthority service.id = .ok (host, port) ∧
    ∀ peer answer, peer.temporary = false → peer.serviceID = service.id →
      env.serviceDial peer answer host port = env.policy.dialVirtual env.platform answer host port

/-- The browser asks for the authority of a temporary service, and `DialTemporary` goes on to
    the prepared target. -/
def TemporaryAgrees (platform : Agent.Platform) (parser : URLParser) (service : Service)
    (remote : WebURL) (target : CompiledTemporaryTarget) : Prop :=
  connectAuthority parser service (some remote) =
      some (target.virtual, temporaryVirtualPort target.config.kind) ∧
    Policy.dialTemporary platform (some target) target.virtual
        (temporaryVirtualPort target.config.kind) =
      .ok ⟨target.addresses.headD .zero, target.config.port, target.tls⟩

theorem serviceAgrees_iff (parser : URLParser) (hpolicy : env.Compiled files)
    (hservice : service ∈ env.config.services) :
    ServiceAgrees env parser service ↔ ¬ (service.kind = "guacamole" ∧ service.tls ≠ none) := by
  obtain ⟨compiled, hcompiled⟩ := compilePolicy_compiled hpolicy
  have hvalid := (Config.validate_services hcompiled.accepted).1 service hservice
  have hconnect : connectAuthority parser ⟨service.id, service.kind⟩ none =
      some (Agent.virtualHostname service.id, if service.kind = "https" then 443 else 80) :=
    connectAuthority_eq parser ⟨service.id, service.kind⟩ (ServiceConfig.validate_id hvalid) none
  have hauthority := virtualAuthority_eq hpolicy hservice
  rw [← virtualPort_eq_iff]
  constructor
  · rintro ⟨host, port, hask, hgive, -⟩
    rw [hconnect, Option.some.injEq, Prod.mk.injEq] at hask
    rw [hauthority, Except.ok.injEq, Prod.mk.injEq] at hgive
    exact hask.2.trans hgive.2.symm
  · intro hport
    rw [hport] at hconnect
    refine ⟨Agent.virtualHostname service.id, virtualPort service, hconnect, hauthority, ?_⟩
    intro peer answer htemporary hid
    have hexpected := expectedAuthority_eq hpolicy hservice peer hid
    simp [Env.serviceDial, htemporary, hexpected, Unicode.equalFold_refl]

/-- The kind of a temporary target is the kind of its service. -/
theorem temporaryTarget_kind {parser : URLParser} {value kind : String} {remote : WebURL}
    (h : parseTemporaryURL parser value kind = .ok remote) :
    (temporaryTarget remote).kind = kind := by
  unfold parseTemporaryURL at h
  cases hparse : parser.parse (parser.trim value) with
  | none => simp [hparse] at h
  | some target =>
    simp only [hparse] at h
    split at h
    · cases h
    rename_i hguard
    split at h
    · cases h
    cases h
    -- the guard compared the kind of the scheme with that of the service
    simp only [not_or, not_not] at hguard
    have hkind := hguard.1
    unfold schemeKind at hkind
    unfold temporaryTarget
    by_cases hhttps : remote.protocol = "https:"
    · simpa [hhttps] using hkind
    · by_cases hhttp : remote.protocol = "http:"
      · simpa [hhttps, hhttp] using hkind
      · simp [hhttps, hhttp] at hkind

theorem temporaryAgrees (parser : URLParser) {platform : Agent.Platform} {policy : Policy}
    {service : Service} {value : String} {remote : WebURL} {answer own : Option (List Addr)}
    {target : CompiledTemporaryTarget}
    (hremote : parseTemporaryURL parser value service.kind = .ok remote)
    (htarget : policy.prepareTemporary platform answer own files ⟨service.id,
      (temporaryTarget remote).kind, (temporaryTarget remote).host,
      (temporaryTarget remote).port⟩ = .ok target) :
    TemporaryAgrees platform parser service remote target := by
  obtain ⟨temporary, own, hprepared⟩ := Policy.prepareTemporary_prepared htarget
  have hkind : target.config.kind = service.kind := by
    rw [hprepared.config]
    exact temporaryTarget_kind hremote
  constructor
  · rw [connectAuthority_eq parser service hprepared.id, hprepared.virtual, hkind]
    rfl
  · simp [Policy.dialTemporary, Unicode.equalFold_refl]

/-- **Exactly when browser and Agent agree.**  On a configured service: unless it is a
    Guacamole service with TLS.  On a temporary service: whatever target URL the browser
    accepted, and whatever target the Agent prepared for it. -/
theorem authority_agrees_iff (parser : URLParser) (hpolicy : env.Compiled files) :
    (∀ service ∈ env.config.services,
      (ServiceAgrees env parser service ↔
        ¬ (service.kind = "guacamole" ∧ service.tls ≠ none))) ∧
    (∀ (service : Service) (value : String) (remote : WebURL),
      parseTemporaryURL parser value service.kind = .ok remote →
      ∀ answer own files' target,
        env.policy.prepareTemporary env.platform answer own files' ⟨service.id,
          (temporaryTarget remote).kind, (temporaryTarget remote).host,
          (temporaryTarget remote).port⟩ = .ok target →
        TemporaryAgrees env.platform parser service remote target) := by
  constructor
  · intro service hservice
    exact serviceAgrees_iff parser hpolicy hservice
  · intro service value remote hremote answer own files' target htarget
    exact temporaryAgrees parser hremote htarget

end Agreement

/-! The parser of the URL standard with plain host names, and an Agent with a wiki, a Guacamole
server with TLS and a temporary policy. -/

/-- The plain hosts keep synthetic names. -/
theorem plainDomain_synthetic (host : String) (h : SyntheticHost host) :
    Hosts.plain.domain host.toList = some host.toList := by
  obtain ⟨label, hlabel, hhost⟩ := h
  rw [hhost]
  refine if_pos ⟨by simp, fun c hc => ?_⟩
  rw [List.mem_append, List.mem_append] at hc
  rcases hc with (hc | hc) | hc
  · revert c; decide
  · rcases hlabel c hc with ⟨hfrom, hto⟩ | ⟨hfrom, hto⟩
    · have hlower : c.isLower = true :=
        Bool.and_eq_true_iff.mpr ⟨decide_eq_true hfrom, decide_eq_true hto⟩
      simp [isPlainChar, hlower]
    · have hdigit : c.isDigit = true :=
        Bool.and_eq_true_iff.mpr ⟨decide_eq_true hfrom, decide_eq_true hto⟩
      simp [isPlainChar, hdigit]
  · revert c; decide

/-- The parser for plain domains. -/
def plainParser : URLParser := .ofHosts .plain id plainDomain_synthetic

/-- A remote desktop. -/
def desktop : ServiceConfig :=
  ⟨"AQAAAAAAAAAAAAAAAAAAAA", "desktop", "guacamole", "10.0.0.5", 8443, ["10.0.0.0/8"],
    some ⟨"desktop.example", [], []⟩⟩

/-- A service, a desktop and temporary targets. -/
def labConfig : Config :=
  { officeConfig with
    services := [wiki, desktop]
    temporary := some ⟨["10.0.0.0/8"], [80, 443], []⟩ }

/-- The Agent with this configuration. -/
def labEnv : Env := .ofConfig officePlatform officeFiles labConfig

theorem labEnv_compiled : labEnv.Compiled officeFiles :=
  Env.ofConfig_compiled (by decide +kernel)

/-- Browser and Agent agree on the wiki, and on a temporary target. -/
theorem authority_agrees_iff_of_lab :
    labEnv.Compiled officeFiles ∧ wiki ∈ labEnv.config.services ∧
      ServiceAgrees labEnv plainParser wiki ∧
      ∃ remote target, parseTemporaryURL plainParser "http://10.0.0.5/a" "http" = .ok remote ∧
        labEnv.policy.prepareTemporary officePlatform none (some []) officeFiles
          ⟨officeID, "http", "10.0.0.5", 80⟩ = .ok target ∧
        TemporaryAgrees officePlatform plainParser ⟨officeID, "http"⟩ remote target := by
  obtain ⟨hconfigured, htemporary⟩ := authority_agrees_iff plainParser labEnv_compiled
  have hwiki : wiki ∈ labEnv.config.services := by decide
  refine ⟨labEnv_compiled, hwiki, (hconfigured wiki hwiki).mpr (by decide), ?_⟩
  have hremote : parseTemporaryURL plainParser "http://10.0.0.5/a" "http" =
      .ok ⟨"http:", "", "", "10.0.0.5", none, "/a", "", ""⟩ := by rfl
  have htarget : labEnv.policy.prepareTemporary officePlatform none (some []) officeFiles
      ⟨officeID, "http", "10.0.0.5", 80⟩ =
      .ok ⟨⟨officeID, "http", "10.0.0.5", 80⟩, [.v4 0x0a000005#32],
        Agent.virtualHostname officeID, none⟩ := by
    decide +kernel
  exact ⟨_, _, hremote, htarget, htemporary ⟨officeID, "http"⟩ _ _ hremote _ _ _ _ htarget⟩

/-- **A Guacamole service with TLS cannot be reached.**  The configuration is accepted and
    compiled; the browser asks for port 80, the Agent expects 443 and blocks the dial. -/
theorem guacamole_tls_blocked :
    labEnv.Compiled officeFiles ∧ desktop ∈ labEnv.config.services ∧
      connectAuthority plainParser ⟨desktop.id, desktop.kind⟩ none =
        some (Agent.virtualHostname desktop.id, 80) ∧
      labEnv.policy.virtualAuthority desktop.id = .ok (Agent.virtualHostname desktop.id, 443) ∧
      labEnv.serviceDial (Peer.new desktop.id (Vector.replicate 32 0) false) none
        (Agent.virtualHostname desktop.id) 80 = .error errBlocked := by
  have hdesktop : desktop ∈ labEnv.config.services := by decide
  have hauthority := virtualAuthority_eq labEnv_compiled hdesktop
  refine ⟨labEnv_compiled, hdesktop, ?_, ?_, ?_⟩
  · have hid : validOpaqueID desktop.id = true := by decide +kernel
    have hconnect := connectAuthority_eq plainParser ⟨desktop.id, desktop.kind⟩ hid none
    simpa [desktop] using hconnect
  · rfl
  · have hexpected := expectedAuthority_eq labEnv_compiled hdesktop
      (Peer.new desktop.id (Vector.replicate 32 0) false) rfl
    have hport : (80 : UInt16) ≠ virtualPort desktop := by decide
    unfold Env.serviceDial
    rw [hexpected]
    simp [hport, Peer.new]

end WebVPN.Browser
