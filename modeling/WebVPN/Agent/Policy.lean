import WebVPN.Agent.Config

namespace WebVPN.Agent

open WebVPN.Library

/-!
# Agent — the compiled policy

`internal/agent/policy.go`: the policy that a configuration compiles to, and the functions
that decide which address a dial goes to.  A dial is returned as a `Dial`, the address and
port handed to `net.Dialer`; what the network makes of it is not part of the policy.  What
the outside world answers is an argument: the resolver's answer to the one lookup a call
makes, the Agent's own addresses, the contents of files.

* `compilePolicy`, `virtualHostname`, `virtualPort`;
* `Policy.resolveHost` — all addresses of a host, if every one of them is allowed;
* `Policy.dialVirtual`, `Policy.prepareTemporary`, `Policy.dialTemporary`,
  `Policy.resolveTarget`;
* `Policy.Compiled` — how the entries of a compiled policy arise from the configuration.
-/

/-! ### Errors and files -/

/-- An error of the policy; `blocked` is one that wraps `ErrBlocked`. -/
inductive PolicyError
  | blocked (text : String)
  | other (text : String)
deriving DecidableEq, Repr

/-- The text of `ErrBlocked`. -/
def errBlockedText : String := "destination blocked by Agent policy"

/-- `ErrBlocked` itself. -/
def errBlocked : PolicyError := .blocked errBlockedText

/-- An error that wraps `ErrBlocked` with a detail. -/
def blockedBecause (detail : String) : PolicyError := .blocked (errBlockedText ++ ": " ++ detail)

/-- The files of the Agent at some moment, and which of them hold certificates. -/
structure Files where
  readFile : String → Option (List UInt8)
  hasCertificates : List UInt8 → Bool

/-- The part of a `tls.Config` that depends on the policy: the private roots in addition to
    the system's, the name to verify and the pinned keys. -/
structure TLS where
  serverName : String
  roots : List (List UInt8)
  pins : List (List UInt8)
deriving DecidableEq, Repr

/-- The loop of `BuildTLSConfig` over the CA files. -/
def readRoots (platform : Platform) (files : Files) : List String →
    Except String (List (List UInt8))
  | [] => .ok []
  | path :: paths =>
    match files.readFile path with
    | none => .error "read private CA"
    | some pem =>
      if files.hasCertificates pem = false then
        .error ("private CA file " ++ platform.quote path ++ " contained no certificates")
      else
        match readRoots platform files paths with
        | .error e => .error e
        | .ok roots => .ok (pem :: roots)

/-- `BuildTLSConfig`. -/
def buildTLSConfig (platform : Platform) (files : Files) (policy : TLSConfig) :
    Except String TLS :=
  match policy.validate platform with
  | .error e => .error e
  | .ok () =>
    match readRoots platform files policy.caFiles with
    | .error e => .error e
    | .ok roots => .ok ⟨policy.serverName, roots, policy.spkiPins.filterMap decodeDigest⟩

/-! ### Compilation -/

/-- A service as the policy keeps it. -/
structure CompiledService where
  config : ServiceConfig
  prefixes : List Prefix
  virtual : String
  tls : Option TLS
deriving DecidableEq

/-- What temporary targets may be. -/
structure CompiledTemporaryPolicy where
  prefixes : List Prefix
  ports : List UInt16
  caFiles : List String
deriving DecidableEq

/-- The two maps are lists in which a later entry stands before an earlier one, so that
    `List.lookup` finds what the map holds. -/
structure Policy where
  servicesByID : List (String × CompiledService)
  servicesByVirtual : List (String × CompiledService)
  temporary : Option CompiledTemporaryPolicy
deriving DecidableEq

/-- The synthetic host name of a service.  It is only called on validated IDs, for which
    the decoder returns no error. -/
def virtualHostname (serviceID : String) : String :=
  let raw := (decodeID serviceID).getD []
  let label := (writeDigits base32Alphabet (encode32 raw)).map asciiLower
  String.ofList ("s-".toList ++ label ++ ".webvpn.invalid".toList)

/-- The port of the synthetic address. -/
def virtualPort (service : ServiceConfig) : UInt16 :=
  if service.kind = "https" ∨ service.kind = "guacamole" ∧ service.tls ≠ none then 443 else 80

/-- The same for a temporary target. -/
def temporaryVirtualPort (kind : String) : UInt16 := if kind = "https" then 443 else 80

/-- The prefixes of an `allowed_cidrs` list, in canonical form. -/
def compilePrefixes (platform : Platform) (allowedCIDRs : List String) : List Prefix :=
  (allowedCIDRs.filterMap platform.parsePrefix).map Prefix.masked

/-- The body of the loop of `CompilePolicy`. -/
def compileService (platform : Platform) (files : Files) (service : ServiceConfig) :
    Except String CompiledService :=
  let compiled (tls : Option TLS) : CompiledService :=
    ⟨service, compilePrefixes platform service.allowedCIDRs, virtualHostname service.id, tls⟩
  match service.tls with
  | none => .ok (compiled none)
  | some policy =>
    match buildTLSConfig platform files policy with
    | .error e =>
      .error ("compile service " ++ platform.quote service.policyRef ++ " TLS policy: " ++ e)
    | .ok tls => .ok (compiled (some tls))

/-- The loop of `CompilePolicy`; the maps grow with every service. -/
def compileServices (platform : Platform) (files : Files) (policy : Policy) :
    List ServiceConfig → Except String Policy
  | [] => .ok policy
  | service :: services =>
    match compileService platform files service with
    | .error e => .error e
    | .ok compiled =>
      compileServices platform files
        { policy with
          servicesByID := (service.id, compiled) :: policy.servicesByID
          servicesByVirtual := (compiled.virtual, compiled) :: policy.servicesByVirtual }
        services

/-- The compiled form of the temporary policy. -/
def compileTemporary (platform : Platform) (config : TemporaryPolicyConfig) :
    CompiledTemporaryPolicy :=
  ⟨compilePrefixes platform config.allowedCIDRs, config.allowedPorts, config.caFiles⟩

/-- `CompilePolicy`. -/
def compilePolicy (platform : Platform) (files : Files) (config : Config) :
    Except String Policy :=
  match config.validate platform with
  | .error e => .error e
  | .ok () =>
    match compileServices platform files ⟨[], [], none⟩ config.services with
    | .error e => .error e
    | .ok policy =>
      .ok { policy with temporary := config.temporary.map (compileTemporary platform) }

/-! ### Resolution and dials -/

/-- An address and port handed to the dialer, and the TLS policy of the connection. -/
structure Dial where
  address : Addr
  port : UInt16
  tls : Option TLS
deriving DecidableEq

/-- `resolveHost`: an address literal, or all the addresses the resolver returned, provided
    each of them is in one of the prefixes. -/
def resolveHost (platform : Platform) (answer : Option (List Addr)) (host : String)
    (prefixes : List Prefix) : Except PolicyError (List Addr) :=
  let resolved := match platform.parseAddr host with
    | some address => some [address.unmap]
    | none => answer.map (fun resolved => resolved.map Addr.unmap)
  match resolved with
  | none => .error (.other "resolve configured target")
  | some addresses =>
    if addresses = [] then .error (.other "configured target resolved to no addresses")
    else if addresses.all (fun address => prefixes.any (fun p => p.contains address)) then
      .ok addresses
    else .error (blockedBecause "configured target resolved outside its allowlist")

/-- A temporary target as requested. -/
structure TemporaryTarget where
  serviceID : String
  kind : String
  host : String
  port : UInt16
deriving DecidableEq, Repr

/-- A temporary target with the addresses it is pinned to. -/
structure CompiledTemporaryTarget where
  config : TemporaryTarget
  addresses : List Addr
  virtual : String
  tls : Option TLS
deriving DecidableEq

namespace Policy

variable (platform : Platform) (policy : Policy)

/-- `AcceptsTemporary`. -/
def acceptsTemporary (serviceID : String) : Bool :=
  policy.temporary.isSome && validOpaqueID serviceID

/-- `PrepareTemporary`; `answer` is the resolver's, `localAddresses` the Agent's own. -/
def prepareTemporary (answer : Option (List Addr)) (localAddresses : Option (List Addr))
    (files : Files) (target : TemporaryTarget) : Except PolicyError CompiledTemporaryTarget :=
  match policy.temporary with
  | none => .error errBlocked
  | some temporary =>
    if validOpaqueID target.serviceID = false ∨ (target.kind ≠ "http" ∧ target.kind ≠ "https") ∨
        validHostname platform target.host = false then .error errBlocked
    else if target.port ∉ temporary.ports then .error errBlocked
    else
      match resolveHost platform answer target.host temporary.prefixes with
      | .error e => .error e
      | .ok addresses =>
        match localAddresses with
        | none => .error (.other "enumerate Agent addresses")
        | some own =>
          match addresses.find? (fun address => address.isLoopback || address ∈ own) with
          | some address =>
            if address.isLoopback then
              .error (blockedBecause "temporary targets cannot address Agent loopback")
            else .error (blockedBecause "temporary targets cannot address the Agent itself")
          | none =>
            let compiled (tls : Option TLS) : CompiledTemporaryTarget :=
              ⟨target, addresses, virtualHostname target.serviceID, tls⟩
            if target.kind = "https" then
              match buildTLSConfig platform files ⟨target.host, temporary.caFiles, []⟩ with
              | .error e => .error (.other e)
              | .ok tls => .ok (compiled (some tls))
            else .ok (compiled none)

/-- `DialTemporary`: only the pinned addresses are ever used. -/
def dialTemporary (target : Option CompiledTemporaryTarget) (hostname : String) (port : UInt16) :
    Except PolicyError Dial :=
  match target with
  | none => .error errBlocked
  | some target =>
    if platform.unicode.equalFold hostname target.virtual = false ∨
        port ≠ temporaryVirtualPort target.config.kind then .error errBlocked
    else .ok ⟨target.addresses.headD .zero, target.config.port, target.tls⟩

/-- `ResolveTemporaryName`. -/
def resolveTemporaryName (answer : Option (List Addr)) (name : String) :
    Except PolicyError (List Addr) :=
  match policy.temporary with
  | none => .error errBlocked
  | some temporary =>
    if validHostname platform name = false then .error errBlocked
    else resolveHost platform answer name temporary.prefixes

/-- `VirtualAuthority`. -/
def virtualAuthority (serviceID : String) : Except PolicyError (String × UInt16) :=
  match policy.servicesByID.lookup serviceID with
  | none => .error errBlocked
  | some service => .ok (service.virtual, virtualPort service.config)

/-- `Service`. -/
def service (serviceID : String) : Option ServiceConfig :=
  (policy.servicesByID.lookup serviceID).map CompiledService.config

/-- `ResolveTarget`. -/
def resolveTarget (answer : Option (List Addr)) (serviceID : String) :
    Except PolicyError (List Addr) :=
  match policy.servicesByID.lookup serviceID with
  | none => .error errBlocked
  | some service => resolveHost platform answer service.config.targetHost service.prefixes

/-- `ResolveName`. -/
def resolveName (answer : Option (List Addr)) (serviceID name : String) :
    Except PolicyError (List Addr) :=
  match policy.servicesByID.lookup serviceID with
  | none => .error errBlocked
  | some service =>
    if validHostname platform name = false then .error errBlocked
    else resolveHost platform answer name service.prefixes

/-- `DialVirtual`. -/
def dialVirtual (answer : Option (List Addr)) (hostname : String) (port : UInt16) :
    Except PolicyError Dial :=
  match policy.servicesByVirtual.lookup (platform.unicode.toLower hostname) with
  | none => .error (blockedBecause "unknown virtual service")
  | some service =>
    if port ≠ virtualPort service.config then .error (blockedBecause "unknown virtual service")
    else
      match resolveHost platform answer service.config.targetHost service.prefixes with
      | .error e => .error e
      | .ok addresses => .ok ⟨addresses.headD .zero, service.config.targetPort, service.tls⟩

/-- What a prepared temporary target has gone through. -/
structure Prepared (answer localAddresses : Option (List Addr)) (request : TemporaryTarget)
    (target : CompiledTemporaryTarget) (temporary : CompiledTemporaryPolicy) (own : List Addr) :
    Prop where
  enabled : policy.temporary = some temporary
  listed : localAddresses = some own
  id : validOpaqueID request.serviceID = true
  port : request.port ∈ temporary.ports
  resolved : resolveHost platform answer request.host temporary.prefixes = .ok target.addresses
  clean : ∀ address ∈ target.addresses, address.isLoopback = false ∧ address ∉ own
  config : target.config = request
  virtual : target.virtual = virtualHostname request.serviceID

theorem prepareTemporary_prepared {platform : Platform} {policy : Policy}
    {answer localAddresses : Option (List Addr)} {files : Files} {request : TemporaryTarget}
    {target : CompiledTemporaryTarget}
    (h : policy.prepareTemporary platform answer localAddresses files request = .ok target) :
    ∃ temporary own, policy.Prepared platform answer localAddresses request target temporary own := by
  unfold prepareTemporary at h
  cases htemporary : policy.temporary with
  | none => simp [htemporary] at h
  | some temporary =>
    simp only [htemporary] at h
    split at h
    · cases h
    rename_i hrequest
    split at h
    · cases h
    rename_i hport
    cases hresolve : resolveHost platform answer request.host temporary.prefixes with
    | error e => simp [hresolve] at h
    | ok addresses =>
      cases localAddresses with
      | none => simp [hresolve] at h
      | some own =>
        simp only [hresolve] at h
        cases hfind : addresses.find? (fun address => address.isLoopback || address ∈ own) with
        | some address =>
          simp only [hfind] at h
          split at h <;> cases h
        | none =>
          have hid : validOpaqueID request.serviceID = true := by
            simp only [not_or, Bool.not_eq_false] at hrequest
            exact hrequest.1
          have hclean : ∀ address ∈ addresses, address.isLoopback = false ∧ address ∉ own := by
            intro address hmem
            have hnone := List.find?_eq_none.mp hfind address hmem
            simpa using hnone
          simp only [hfind] at h
          -- whether TLS is set up or not, the rest of the target is the same
          have htarget : ∃ tls, target =
              ⟨request, addresses, virtualHostname request.serviceID, tls⟩ := by
            split at h
            · split at h
              · cases h
              · cases h; exact ⟨_, rfl⟩
            · cases h; exact ⟨_, rfl⟩
          obtain ⟨tls, rfl⟩ := htarget
          exact ⟨temporary, own, htemporary, rfl, hid, by simpa using hport, hresolve, hclean,
            rfl, rfl⟩

end Policy

/-! ### What compilation gives -/

section Compilation

variable {platform : Platform} {files : Files}

/-- How a compiled service arises from its configuration. -/
structure CompiledService.Sound (platform : Platform) (files : Files) (c : CompiledService) :
    Prop where
  prefixes : c.prefixes = compilePrefixes platform c.config.allowedCIDRs
  virtual : c.virtual = virtualHostname c.config.id
  tls : c.config.tls.map (buildTLSConfig platform files) = c.tls.map Except.ok

theorem compileService_sound {service : ServiceConfig} {c : CompiledService}
    (h : compileService platform files service = .ok c) :
    c.config = service ∧ c.Sound platform files := by
  unfold compileService at h
  cases htls : service.tls with
  | none =>
    simp only [htls, Except.ok.injEq] at h
    subst h
    exact ⟨rfl, rfl, rfl, by simp [htls]⟩
  | some policy =>
    simp only [htls] at h
    split at h
    · cases h
    · rename_i tls hbuild
      simp only [Except.ok.injEq] at h
      subst h
      exact ⟨rfl, rfl, rfl, by simp [htls, hbuild]⟩

/-- **The maps of a compiled policy.**  One compiled service for each service, entered under
    its ID and under its virtual host name, a later one before an earlier one. -/
theorem compileServices_maps {services : List ServiceConfig} {policy policy' : Policy}
    (h : compileServices platform files policy services = .ok policy') :
    ∃ compiled : List CompiledService,
      compiled.map CompiledService.config = services ∧
      (∀ c ∈ compiled, c.Sound platform files) ∧
      policy'.servicesByID =
        (compiled.map (fun c => (c.config.id, c))).reverse ++ policy.servicesByID ∧
      policy'.servicesByVirtual =
        (compiled.map (fun c => (c.virtual, c))).reverse ++ policy.servicesByVirtual := by
  induction services generalizing policy with
  | nil =>
    simp only [compileServices, Except.ok.injEq] at h
    subst h
    exact ⟨[], rfl, by simp, rfl, rfl⟩
  | cons service services ih =>
    simp only [compileServices] at h
    split at h
    · cases h
    · rename_i c hc
      obtain ⟨hconfig, hsound⟩ := compileService_sound hc
      obtain ⟨compiled, hmap, hall, hid, hvirtual⟩ := ih h
      refine ⟨c :: compiled, by rw [List.map_cons, hconfig, hmap], ?_, ?_, ?_⟩
      · intro c' hmem
        rcases List.mem_cons.mp hmem with rfl | hmem
        · exact hsound
        · exact hall c' hmem
      · rw [hid]
        simp [hconfig]
      · rw [hvirtual]
        simp

/-- A policy compiled from an accepted configuration. -/
structure Policy.Compiled (platform : Platform) (files : Files) (config : Config)
    (policy : Policy) (compiled : List CompiledService) : Prop where
  accepted : config.validate platform = .ok ()
  services : compiled.map CompiledService.config = config.services
  sound : ∀ c ∈ compiled, c.Sound platform files
  byID : policy.servicesByID = (compiled.map (fun c => (c.config.id, c))).reverse
  byVirtual : policy.servicesByVirtual = (compiled.map (fun c => (c.virtual, c))).reverse
  temporary : policy.temporary = config.temporary.map (compileTemporary platform)

theorem compilePolicy_compiled {config : Config} {policy : Policy}
    (h : compilePolicy platform files config = .ok policy) :
    ∃ compiled, policy.Compiled platform files config compiled := by
  unfold compilePolicy at h
  split at h
  · cases h
  · rename_i hvalid
    split at h
    · cases h
    · rename_i policy₀ hservices
      cases h
      obtain ⟨compiled, hmap, hall, hid, hvirtual⟩ := compileServices_maps hservices
      exact ⟨compiled, hvalid, hmap, hall, by simpa using hid, by simpa using hvirtual, rfl⟩

/-- Looking up a key in a map that was filled one entry after the other finds the latest
    entry with that key. -/
theorem lookup_entries (key : CompiledService → String) (compiled : List CompiledService)
    (k : String) : (compiled.map (fun c => (key c, c))).reverse.lookup k =
      compiled.reverse.find? (fun c => k == key c) := by
  rw [← List.map_reverse]
  induction compiled.reverse with
  | nil => rfl
  | cons c rest ih =>
    rw [List.map_cons, List.lookup_cons, List.find?_cons, ih]

/-- What the policy holds under an ID or a virtual host name is a compiled service. -/
theorem Policy.Compiled.mem_of_lookup {config : Config} {policy : Policy}
    {compiled : List CompiledService} (hc : policy.Compiled platform files config compiled)
    {c : CompiledService} (h : (∃ id, policy.servicesByID.lookup id = some c) ∨
      ∃ host, policy.servicesByVirtual.lookup host = some c) : c ∈ compiled := by
  rw [← List.mem_reverse]
  rcases h with ⟨id, h⟩ | ⟨host, h⟩
  · rw [hc.byID, lookup_entries] at h
    exact List.mem_of_find?_eq_some h
  · rw [hc.byVirtual, lookup_entries] at h
    exact List.mem_of_find?_eq_some h

end Compilation

end WebVPN.Agent
