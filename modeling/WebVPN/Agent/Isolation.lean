import WebVPN.Agent.Containment

namespace WebVPN.Agent

open WebVPN.Library

/-!
# Agent — which service a virtual host name leads to

`servicesByVirtual` is keyed by a host name that is computed from the 16 decoded bytes of
the service ID, while `Config.Validate` compares the ID strings.  The decoder skips line
breaks and does not look at the last four bits of the 22nd digit, so different IDs may
share their bytes and with them the host name, and the later service takes the entry.

* `virtualHostname_eq_iff` — two valid IDs have the same host name exactly when they decode
  to the same bytes;
* `isolated_iff` — a service keeps its host name exactly when no later service of the
  configuration has an ID with the same bytes;
* `shadowed_service` — an accepted configuration in which a service loses its host name.
-/

/-! ### Host names -/

/-- A valid ID decodes to 16 bytes. -/
theorem decodeID_of_valid {id : String} (h : validOpaqueID id = true) :
    ∃ raw, decodeID id = some raw ∧ raw.length = 16 := by
  unfold validOpaqueID at h
  split at h
  · rename_i raw hraw
    exact ⟨raw, hraw, by simpa using h⟩
  · cases h

/-- The character of a base32 digit in a host name. -/
def labelDigit (d : Nat) : Char := asciiLower (base32Alphabet.getD d '=')

/-- The label of a host name determines the digits. -/
theorem labelDigit_injective : ∀ d < 32, ∀ d' < 32, labelDigit d = labelDigit d' → d = d' := by
  decide +kernel

theorem virtualHostname_toList (id : String) : (virtualHostname id).toList =
    "s-".toList ++ (encode32 ((decodeID id).getD [])).map labelDigit ++
      ".webvpn.invalid".toList := by
  unfold virtualHostname writeDigits
  rw [String.toList_ofList, List.map_map]
  rfl

/-- **Host names and bytes.**  Two valid IDs have the same virtual host name if and only if
    they decode to the same bytes. -/
theorem virtualHostname_eq_iff {id id' : String} (h : validOpaqueID id = true)
    (h' : validOpaqueID id' = true) :
    virtualHostname id = virtualHostname id' ↔ decodeID id = decodeID id' := by
  obtain ⟨raw, hraw, hlen⟩ := decodeID_of_valid h
  obtain ⟨raw', hraw', hlen'⟩ := decodeID_of_valid h'
  constructor
  · intro heq
    have hchars := congrArg String.toList heq
    rw [virtualHostname_toList, virtualHostname_toList, hraw, hraw'] at hchars
    have hlabel : (encode32 raw).map labelDigit = (encode32 raw').map labelDigit :=
      List.append_cancel_left (List.append_cancel_right hchars)
    have hdigits : encode32 raw = encode32 raw' :=
      map_injective_on (p := fun d => d < 32) labelDigit_injective
        (fun d hd => mem_groups_lt (by decide) hd) (fun d hd => mem_groups_lt (by decide) hd)
        hlabel
    rw [hraw, hraw', encode32_injective (hlen.trans hlen'.symm) hdigits]
  · intro heq
    unfold virtualHostname
    rw [heq]

/-- A virtual host name is ASCII without capitals, so it is its own lower case. -/
theorem toLower_virtualHostname (u : Unicode) (id : String) :
    u.toLower (virtualHostname id) = virtualHostname id := by
  have hdigit : ∀ d < 32, (labelDigit d).toNat < 128 ∧ asciiLower (labelDigit d) = labelDigit d := by
    decide +kernel
  have hhead : ∀ c ∈ "s-".toList, c.toNat < 128 ∧ asciiLower c = c := by decide
  have htail : ∀ c ∈ ".webvpn.invalid".toList, c.toNat < 128 ∧ asciiLower c = c := by decide
  apply u.toLower_of_ascii
  intro c hc
  rw [virtualHostname_toList] at hc
  rcases List.mem_append.mp hc with hc | hc
  · rcases List.mem_append.mp hc with hc | hc
    · exact hhead c hc
    · obtain ⟨d, hd, rfl⟩ := List.mem_map.mp hc
      exact hdigit d (mem_groups_lt (by decide) hd)
  · exact htail c hc

/-! ### Distinct IDs -/

variable {platform : Platform}

/-- Validation refuses a service ID that occurs twice. -/
theorem validateServices_nodup {services : List ServiceConfig} {ids policyRefs : List String}
    (h : validateServices platform ids policyRefs services = .ok ()) :
    (services.map ServiceConfig.id).Nodup ∧ ∀ service ∈ services, service.id ∉ ids := by
  induction services generalizing ids policyRefs with
  | nil => simp
  | cons service services ih =>
    simp only [validateServices, then_eq_ok, reject_eq_ok] at h
    obtain ⟨hnodup, hfresh⟩ := ih h.2.2.2
    constructor
    · rw [List.map_cons, List.nodup_cons]
      refine ⟨fun hmem => ?_, hnodup⟩
      obtain ⟨service', hservice', heq⟩ := List.mem_map.mp hmem
      exact hfresh service' hservice' (by rw [heq]; exact List.mem_cons_self)
    · intro service' hmem
      rcases List.mem_cons.mp hmem with rfl | hmem
      · exact h.2.1
      · exact fun hids => hfresh service' hmem (List.mem_cons_of_mem _ hids)

theorem Config.validate_services {config : Config} (h : config.validate platform = .ok ()) :
    (∀ service ∈ config.services, service.validate platform = .ok ()) ∧
      (config.services.map ServiceConfig.id).Nodup := by
  simp only [Config.validate, then_eq_ok] at h
  exact ⟨validateServices_validate h.2.2.2.2.2.1, (validateServices_nodup h.2.2.2.2.2.1).1⟩

theorem ServiceConfig.validate_id {service : ServiceConfig}
    (h : service.validate platform = .ok ()) : validOpaqueID service.id = true := by
  simp only [ServiceConfig.validate, then_eq_ok, reject_eq_ok, Bool.not_eq_false] at h
  exact h.1

/-! ### Isolation -/

/-- The dial that the policy of one service makes. -/
def Env.ownDial (env : Env) (files : Files) (service : ServiceConfig)
    (answer : Option (List Addr)) : Except PolicyError Dial :=
  match resolveHost env.platform answer service.targetHost
      (compilePrefixes env.platform service.allowedCIDRs) with
  | .error e => .error e
  | .ok addresses =>
    .ok ⟨addresses.headD .zero, service.targetPort,
      service.tls.bind (fun policy => (buildTLSConfig env.platform files policy).toOption)⟩

/-- The virtual host name of a service leads back to it: the table maps the name to the
    service, and a dial of one of its peers to its own authority is resolved against its
    own target, allowlist, port and TLS policy. -/
structure Env.Isolated (env : Env) (files : Files) (service : ServiceConfig) : Prop where
  table : (env.policy.servicesByVirtual.lookup (virtualHostname service.id)).map
    CompiledService.config = some service
  dial : ∃ host port, env.policy.virtualAuthority service.id = .ok (host, port) ∧
    ∀ peer answer, peer.temporary = false → peer.serviceID = service.id →
      env.serviceDial peer answer host port = env.ownDial files service answer

section Isolation

variable {env : Env} {files : Files} {service : ServiceConfig}

theorem CompiledService.Sound.tls_eq {c : CompiledService} (hc : c.Sound env.platform files) :
    c.tls = c.config.tls.bind
      (fun policy => (buildTLSConfig env.platform files policy).toOption) := by
  have htls := hc.tls
  cases hconfig : c.config.tls with
  | none => simpa [hconfig] using htls
  | some policy =>
    rw [hconfig, Option.map_some] at htls
    obtain ⟨tls, htls', heq⟩ := Option.map_eq_some_iff.mp htls.symm
    rw [Option.bind_some, ← heq, htls']
    rfl

/-- The ID of a service leads to its own compiled form, because no other service has it. -/
theorem lookup_byID (hpolicy : env.Compiled files) (hservice : service ∈ env.config.services) :
    ∃ c, env.policy.servicesByID.lookup service.id = some c ∧ c.config = service ∧
      c.virtual = virtualHostname service.id := by
  obtain ⟨compiled, hcompiled⟩ := compilePolicy_compiled hpolicy
  obtain ⟨-, hnodup⟩ := Config.validate_services hcompiled.accepted
  obtain ⟨c₀, hmem₀, hc₀⟩ : ∃ c₀ ∈ compiled, c₀.config = service := by
    rw [← hcompiled.services] at hservice
    exact List.mem_map.mp hservice
  rw [hcompiled.byID, lookup_entries]
  cases hfind : compiled.reverse.find? (fun c => service.id == c.config.id) with
  | none =>
    have hnone := List.find?_eq_none.mp hfind c₀ (List.mem_reverse.mpr hmem₀)
    simp [hc₀] at hnone
  | some c =>
    have hmem : c ∈ compiled := List.mem_reverse.mp (List.mem_of_find?_eq_some hfind)
    have hid : service.id = c.config.id := by simpa using List.find?_some hfind
    have hin : c.config ∈ env.config.services := by
      rw [← hcompiled.services]
      exact List.mem_map_of_mem hmem
    have heq : c.config = service := List.inj_on_of_nodup_map hnodup hin hservice hid.symm
    refine ⟨c, rfl, heq, ?_⟩
    rw [(hcompiled.sound c hmem).virtual, heq]

/-- When the table leads back to the service, so do the dials. -/
theorem isolated_of_table (hpolicy : env.Compiled files) (hservice : service ∈ env.config.services)
    {c : CompiledService} (hc : c.config = service)
    (htable : env.policy.servicesByVirtual.lookup (virtualHostname service.id) = some c) :
    env.Isolated files service := by
  obtain ⟨compiled, hcompiled⟩ := compilePolicy_compiled hpolicy
  have hmem : c ∈ compiled := hcompiled.mem_of_lookup (.inr ⟨_, htable⟩)
  have hsound := hcompiled.sound c hmem
  obtain ⟨c', hlookup, hconfig', hvirtual'⟩ := lookup_byID hpolicy hservice
  refine ⟨by rw [htable, Option.map_some, hc], virtualHostname service.id, virtualPort service,
    ?_, ?_⟩
  · simp only [Policy.virtualAuthority, hlookup, hvirtual', hconfig']
  · intro peer answer htemporary hid
    have hauthority : env.expectedAuthority peer =
        (virtualHostname service.id, virtualPort service) := by
      simp only [Env.expectedAuthority, Policy.virtualAuthority, hid, hlookup, hvirtual', hconfig']
    simp only [Env.serviceDial, htemporary, Bool.false_eq_true, if_false, hauthority,
      Unicode.equalFold_refl, Bool.true_eq_false, ne_eq, not_true_eq_false, or_self,
      Policy.dialVirtual, toLower_virtualHostname, htable, hc, hsound.prefixes, hsound.tls_eq]
    rfl

/-- **Exactly when a service keeps its host name**: when no later service of the
    configuration has an ID that decodes to the same bytes. -/
theorem isolated_iff (hpolicy : env.Compiled files) {before after : List ServiceConfig}
    (hservices : env.config.services = before ++ service :: after) :
    env.Isolated files service ↔ ∀ later ∈ after, decodeID later.id ≠ decodeID service.id := by
  obtain ⟨compiled, hcompiled⟩ := compilePolicy_compiled hpolicy
  obtain ⟨hvalid, hnodup⟩ := Config.validate_services hcompiled.accepted
  have hmap := hcompiled.services
  rw [hservices] at hmap hvalid hnodup
  obtain ⟨cs₁, cs₂, rfl, -, hmap₂⟩ := List.map_eq_append_iff.mp hmap
  obtain ⟨c, cs, rfl, hc, hmap'⟩ := List.map_eq_cons_iff.mp hmap₂
  have hid : validOpaqueID service.id = true := ServiceConfig.validate_id (hvalid service (by simp))
  -- the table searches the later services first
  have hlookup : env.policy.servicesByVirtual.lookup (virtualHostname service.id) =
      (cs.reverse.find? (fun c => virtualHostname service.id == c.virtual)).or (some c) := by
    have hself : c.virtual = virtualHostname service.id := by
      rw [(hcompiled.sound c (by simp)).virtual, hc]
    rw [hcompiled.byVirtual, lookup_entries]
    simp [List.find?_append, hself]
  have hvirtual : ∀ c' ∈ cs, c'.config ∈ after ∧ c'.virtual = virtualHostname c'.config.id := by
    intro c' hmem
    refine ⟨by rw [← hmap']; exact List.mem_map_of_mem hmem, ?_⟩
    exact (hcompiled.sound c' (by simp [hmem])).virtual
  constructor
  · intro hisolated later hlater heq
    -- the later service, or one after it, has taken the entry
    have htable := hisolated.table
    rw [hlookup] at htable
    cases hfind : cs.reverse.find? (fun c => virtualHostname service.id == c.virtual) with
    | none =>
      obtain ⟨c', hmem, rfl⟩ : ∃ c' ∈ cs, c'.config = later := by
        rw [← hmap'] at hlater
        exact List.mem_map.mp hlater
      have hlaterID : validOpaqueID c'.config.id = true :=
        ServiceConfig.validate_id (hvalid c'.config (by simp [hlater]))
      have hnone := List.find?_eq_none.mp hfind c' (List.mem_reverse.mpr hmem)
      have hsame := (virtualHostname_eq_iff hid hlaterID).mpr heq.symm
      rw [(hvirtual c' hmem).2, hsame] at hnone
      simp at hnone
    | some c' =>
      have hmem : c' ∈ cs := List.mem_reverse.mp (List.mem_of_find?_eq_some hfind)
      rw [hfind, Option.some_or, Option.map_some, Option.some.injEq] at htable
      have hin := (hvirtual c' hmem).1
      rw [htable] at hin
      -- but its ID differs from that of the service
      have hnotin : service.id ∉ after.map ServiceConfig.id := by
        rw [List.map_append, List.map_cons] at hnodup
        exact (List.nodup_cons.mp (List.nodup_append.mp hnodup).2.1).1
      exact hnotin (List.mem_map_of_mem hin)
  · intro hdistinct
    have hnone : cs.reverse.find? (fun c => virtualHostname service.id == c.virtual) = none := by
      rw [List.find?_eq_none]
      intro c' hmem heq
      obtain ⟨hin, hc'⟩ := hvirtual c' (List.mem_reverse.mp hmem)
      have hlaterID : validOpaqueID c'.config.id = true :=
        ServiceConfig.validate_id (hvalid c'.config (by simp [hin]))
      rw [hc', beq_iff_eq] at heq
      exact hdistinct c'.config hin ((virtualHostname_eq_iff hid hlaterID).mp heq).symm
    rw [hnone, Option.none_or] at hlookup
    exact isolated_of_table hpolicy (by rw [hservices]; simp) hc hlookup

end Isolation

/-! Three services: the IDs of the first two differ in the four bits that the decoder does not
look at, and that of the third one has other bytes. -/

/-- A service. -/
def wiki : ServiceConfig :=
  ⟨"AAAAAAAAAAAAAAAAAAAAAA", "wiki", "http", "10.0.0.5", 8080, ["10.0.0.0/8"], none⟩

/-- A service whose ID has the same bytes. -/
def mail : ServiceConfig :=
  ⟨"AAAAAAAAAAAAAAAAAAAAAB", "mail", "http", "10.0.0.5", 9090, ["10.0.0.0/8"], none⟩

/-- A service whose ID has other bytes. -/
def docs : ServiceConfig :=
  ⟨"BAAAAAAAAAAAAAAAAAAAAA", "docs", "http", "10.0.0.5", 9191, ["10.0.0.0/8"], none⟩

/-- The Agent of the first and the third. -/
def distinctEnv : Env :=
  .ofConfig officePlatform officeFiles { officeConfig with services := [wiki, docs] }

/-- Two services with different bytes: the first one keeps its host name. -/
theorem isolated_iff_of_distinct :
    distinctEnv.Compiled officeFiles ∧ distinctEnv.config.services = [] ++ wiki :: [docs] ∧
      decodeID docs.id ≠ decodeID wiki.id ∧ distinctEnv.Isolated officeFiles wiki := by
  have hcompiled : distinctEnv.Compiled officeFiles := Env.ofConfig_compiled (by decide +kernel)
  have hservices : distinctEnv.config.services = [] ++ wiki :: [docs] := rfl
  have hbytes : decodeID docs.id ≠ decodeID wiki.id := by decide +kernel
  exact ⟨hcompiled, hservices, hbytes, (isolated_iff hcompiled hservices).mpr (by simpa using hbytes)⟩

/-- The first two services. -/
def sharedConfig : Config := { officeConfig with services := [wiki, mail] }

/-- The Agent with this configuration. -/
def sharedEnv : Env := .ofConfig officePlatform officeFiles sharedConfig

theorem sharedEnv_compiled : sharedEnv.Compiled officeFiles :=
  Env.ofConfig_compiled (by decide +kernel)

/-- **A service loses its host name.**  The configuration is accepted and compiled, and a
    dial of a peer of `wiki` to the authority of `wiki` goes to the port of `mail`. -/
theorem shadowed_service :
    sharedEnv.Compiled officeFiles ∧ wiki ∈ sharedEnv.config.services ∧
      ¬ sharedEnv.Isolated officeFiles wiki ∧
      sharedEnv.policy.virtualAuthority wiki.id = .ok (virtualHostname wiki.id, 80) ∧
      sharedEnv.serviceDial (Peer.new wiki.id (Vector.replicate 32 0) false) none
        (virtualHostname wiki.id) 80 = .ok ⟨.v4 0x0a000005#32, mail.targetPort, none⟩ := by
  refine ⟨sharedEnv_compiled, by decide, fun h => ?_, ?_, ?_⟩
  · have htable : (sharedEnv.policy.servicesByVirtual.lookup (virtualHostname wiki.id)).map
        CompiledService.config = some mail := by decide +kernel
    have hwiki := h.table
    rw [htable, Option.some.injEq] at hwiki
    exact absurd hwiki (by decide)
  · decide +kernel
  · decide +kernel

end WebVPN.Agent
