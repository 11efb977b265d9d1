import WebVPN.Agent.Spelling

namespace WebVPN.Agent

open WebVPN.Library

/-!
# Agent — which STUN servers a configuration may name

The texts that `ValidateSTUNURLs` accepts, and the addresses among their hosts.

* `stunHost` — the host of a STUN URL, as the three branches of the check cut it out;
* `exists_stunHost` — an accepted URL has a host that passes the checks on hosts;
* `validateSTUNHost_eq_ok` — what these checks are;
* `validateSTUNURLs_public` — a host that is an address lies in no network of the Agent's
  policy, exactly if it is not in the shared range 100.64.0.0/10;
* `accepts_shared` — an address of that range is accepted.
-/

/-! ### The host of a URL -/

/-- The host of an authority: what stands in brackets, before a single colon, or all of it. -/
def stunHost (platform : Platform) (authority : List Char) : Option String :=
  match authority with
  | '[' :: rest => some (String.ofList (rest.takeWhile (· ≠ ']')))
  | _ =>
    if authority.count ':' = 1 then
      (platform.splitHostPort (String.ofList authority)).map (fun p => p.1)
    else some (String.ofList authority)

/-- What follows the scheme of a STUN URL. -/
def stunAuthority (value : String) : List Char := value.toList.drop 5

section Accepted

variable {platform : Platform}

/-- A host that passes is a public address, or a name of at least two labels. -/
theorem validateSTUNHost_eq_ok {host : String} (h : validateSTUNHost platform host = .ok ()) :
    (∃ ip, platform.parseIP host = some ip ∧ ip.isGlobalUnicast = true ∧ ip.isPrivate = false ∧
      ip.isLoopback = false ∧ ip.isLinkLocalUnicast = false) ∨
    (platform.parseIP host = none ∧ '.' ∈ (platform.unicode.toLower host).toList ∧
      validDNSName host = true) := by
  unfold validateSTUNHost at h
  simp only [then_eq_ok, reject_eq_ok] at h
  obtain ⟨-, h⟩ := h
  cases hip : platform.parseIP host with
  | some ip =>
    rw [hip] at h
    simp only [reject_eq_ok] at h
    refine .inl ⟨ip, rfl, ?_⟩
    simpa [and_assoc] using h
  | none =>
    rw [hip] at h
    simp only [then_eq_ok, reject_eq_ok, not_or, not_not] at h
    refine .inr ⟨rfl, h.1.1, ?_⟩
    simpa using h.2

theorem stunHost_of_unbracketed {authority : List Char} (h : ∀ inner, authority ≠ '[' :: inner) :
    stunHost platform authority = if authority.count ':' = 1 then
      (platform.splitHostPort (String.ofList authority)).map (fun p => p.1)
    else some (String.ofList authority) := by
  unfold stunHost
  split
  · exact absurd rfl (h _)
  · rfl

/-- An accepted authority has a host that passes. -/
theorem exists_stunHost {authority : List Char}
    (h : validateSTUNAuthority platform authority = .ok ()) :
    ∃ host, stunHost platform authority = some host ∧ validateSTUNHost platform host = .ok () := by
  unfold validateSTUNAuthority at h
  rw [then_eq_ok] at h
  obtain ⟨-, h⟩ := h
  split at h
  · simp only [then_eq_ok] at h
    exact ⟨_, rfl, h.2.2⟩
  · rename_i hbracket
    rw [stunHost_of_unbracketed hbracket]
    split at h
    · rename_i hcount
      rw [if_pos hcount]
      split at h
      · cases h
      · rename_i host port hsplit
        rw [then_eq_ok] at h
        exact ⟨host, by rw [hsplit]; rfl, h.2⟩
    · rename_i hcount
      rw [then_eq_ok] at h
      exact ⟨_, if_neg hcount, h.2⟩

/-- The checks on each element of an accepted list. -/
theorem validateSTUNURLs_eq_ok {values : List String}
    (h : validateSTUNURLs platform values = .ok ()) :
    values ≠ [] ∧ ∀ value ∈ values,
      "stun:".toList.isPrefixOf (platform.unicode.toLower value).toList = true ∧
        validateSTUNAuthority platform (stunAuthority value) = .ok () := by
  have hcontext : ∀ (context : String) (result : Except String Unit),
      withContext context result = .ok () → result = .ok () := by
    intro context result hresult
    cases result with
    | error e => cases hresult
    | ok u => rfl
  unfold validateSTUNURLs at h
  simp only [then_eq_ok, reject_eq_ok, checkAll_eq_ok, not_or] at h
  refine ⟨h.1, fun value hvalue => ?_⟩
  obtain ⟨⟨-, hscheme, -⟩, hauthority⟩ := h.2 value hvalue
  exact ⟨by simpa using hscheme, hcontext _ _ hauthority⟩

end Accepted

/-! ### Addresses -/

/-- The address as the policy compares it: mapped addresses are unmapped. -/
def IP.addr (ip : IP) : Addr :=
  match ip.to4 with
  | some a => .v4 a
  | none => .v6 ip ""

/-- The shared address space 100.64.0.0/10. -/
def sharedNetwork : Prefix := .v4 0x64400000#32 10 Prefix.ten_le

/-- An address that is global, not private, not loopback and not link-local is in a network of
    the policy exactly if it is in the shared one. -/
theorem permitted_iff_shared {ip : IP} (hprivate : ip.isPrivate = false)
    (hloopback : ip.isLoopback = false) :
    (∃ network ∈ permittedNetworks, network.contains ip.addr = true) ↔
      sharedNetwork.contains ip.addr = true := by
  unfold IP.isPrivate at hprivate
  unfold IP.isLoopback at hloopback
  unfold IP.addr
  cases hv4 : ip.to4 with
  | some a =>
    rw [hv4] at hprivate hloopback
    simp only [Bool.or_eq_false_iff, beq_eq_false_iff_ne] at hprivate hloopback
    -- the prefixes of the private and loopback ranges, shifted to the end
    have h10 : agree 8 0x0a000000#32 a = false := by
      rw [agree, beq_eq_false_iff_ne]
      exact fun heq => hprivate.1.1 heq.symm
    have h127 : agree 8 0x7f000000#32 a = false := by
      rw [agree, beq_eq_false_iff_ne]
      exact fun heq => hloopback heq.symm
    have h172 : agree 12 0xac100000#32 a = false := by
      rw [agree, beq_eq_false_iff_ne]
      exact fun heq => hprivate.1.2 heq.symm
    have h192 : agree 16 0xc0a80000#32 a = false := by
      rw [agree, beq_eq_false_iff_ne]
      exact fun heq => hprivate.2 heq.symm
    simp [permittedNetworks, sharedNetwork, Prefix.contains, h10, h127, h172, h192]
  | none =>
    rw [hv4] at hprivate hloopback
    simp only [beq_eq_false_iff_ne] at hprivate hloopback
    have hone : agree 128 1#128 ip = false := by
      rw [agree, beq_eq_false_iff_ne]
      exact fun heq => hloopback (by simpa using heq.symm)
    have hlocal : agree 7 (0xfc#128 <<< 120) ip = false := by
      rw [agree, beq_eq_false_iff_ne]
      exact fun heq => hprivate heq.symm
    simpa [permittedNetworks, sharedNetwork, Prefix.contains, hone] using hlocal

/-- **Public addresses.**  The host of an accepted STUN URL, if it is an address, lies in none of the
    networks of the Agent's policy, exactly if it is not in the shared address space. -/
theorem validateSTUNURLs_public (platform : Platform) (values : List String)
    (h : validateSTUNURLs platform values = .ok ()) (value : String) (hvalue : value ∈ values)
    (host : String) (hhost : stunHost platform (stunAuthority value) = some host)
    (ip : IP) (hip : platform.parseIP host = some ip) :
    (∀ network ∈ permittedNetworks, network.contains ip.addr = false) ↔
      sharedNetwork.contains ip.addr = false := by
  obtain ⟨-, hall⟩ := validateSTUNURLs_eq_ok h
  obtain ⟨host', hhost', hok⟩ := exists_stunHost (hall value hvalue).2
  rw [hhost] at hhost'
  cases hhost'
  rcases validateSTUNHost_eq_ok hok with ⟨ip', hip', -, hprivate, hloopback, -⟩ | ⟨hnone, -⟩
  · rw [hip] at hip'
    cases hip'
    have hiff := permitted_iff_shared hprivate hloopback
    rw [← Bool.not_eq_true, ← hiff]
    simp
  · rw [hip] at hnone
    cases hnone

/-- A public address. -/
theorem validateSTUNURLs_public_of_documentation :
    validateSTUNURLs literalPlatform ["stun:203.0.113.7:3478"] = .ok () ∧
      ∀ network ∈ permittedNetworks, network.contains (.v4 0xcb007107#32) = false := by
  have hok : validateSTUNURLs literalPlatform ["stun:203.0.113.7:3478"] = .ok () := by decide +kernel
  refine ⟨hok, ?_⟩
  exact (validateSTUNURLs_public literalPlatform _ hok "stun:203.0.113.7:3478" (by simp) "203.0.113.7"
    (by decide +kernel) 0xffffcb007107#128 (by decide +kernel)).mpr (by decide +kernel)

/-- **Shared addresses are accepted.**  100.64.0.1 is global and not private to `net.IP`, but it is in a
    network of the Agent's policy. -/
theorem accepts_shared :
    literalPlatform.parseIP "100.64.0.1" = some 0xffff64400001#128 ∧
    ∀ platform : Platform, platform.parseIP "100.64.0.1" = some 0xffff64400001#128 →
      validateSTUNURLs platform ["stun:100.64.0.1"] = .ok () ∧
        stunHost platform (stunAuthority "stun:100.64.0.1") = some "100.64.0.1" ∧
        ∃ network ∈ permittedNetworks, network.contains (IP.addr 0xffff64400001#128) = true := by
  refine ⟨by decide +kernel, ?_⟩
  intro platform hip
  have hhost : validateSTUNHost platform "100.64.0.1" = .ok () := by
    unfold validateSTUNHost
    rw [hip]
    rfl
  have htext : stunAuthority "stun:100.64.0.1" = "100.64.0.1".toList := by decide +kernel
  have hauthority : validateSTUNAuthority platform (stunAuthority "stun:100.64.0.1") = .ok () := by
    rw [htext]
    unfold validateSTUNAuthority
    rw [then_eq_ok, reject_eq_ok]
    exact ⟨by decide +kernel, hhost⟩
  have hscheme : "stun:".toList.isPrefixOf (platform.unicode.toLower "stun:100.64.0.1").toList = true := by
    rw [platform.unicode.toLower_of_ascii (by decide +kernel)]
    decide +kernel
  refine ⟨?_, rfl, sharedNetwork, by decide +kernel, by decide +kernel⟩
  unfold validateSTUNURLs
  simp only [then_eq_ok, reject_eq_ok, checkAll_eq_ok, List.mem_singleton, forall_eq, hscheme]
  refine ⟨by decide, by decide +kernel, ?_⟩
  show withContext _ (validateSTUNAuthority platform (stunAuthority "stun:100.64.0.1")) = .ok ()
  rw [hauthority]
  rfl

end WebVPN.Agent
