import WebVPN.Library.Netip
import WebVPN.Library.Text
import WebVPN.Opaque

namespace WebVPN.Agent

open WebVPN.Library

/-!
# Agent — the configuration and its validation

The configuration of `internal/agent/config.go`, with the STUN grammar of
`internal/config/config.go` that it calls, and every check in the order and with the text
of the source.  What the checks take from the standard library without source here is
collected in `Platform`: the parsers of addresses, prefixes and URLs, and the quoting of
`%q`.

* `Config.validate` and its parts `ServiceConfig.validate`, `TemporaryPolicyConfig.validate`,
  `TLSConfig.validate`, `validateSTUNURLs`;
* `permittedNetworks`, `permittedPrefix` — the networks a prefix must lie in;
* `contains_permitted` — an address in an accepted prefix is in a permitted network.
-/

/-! ### What the platform provides -/

/-- The parts of a parsed URL that are looked at. -/
structure URL where
  scheme : String
  host : String
  user : Bool
  rawQuery : String
  fragment : String
  path : String
deriving DecidableEq, Repr

/-- A `net.IP` of 16 bytes; an IPv4 address is held in its mapped form. -/
abbrev IP := BitVec 128

/-- The functions of the standard library that the Agent's checks rest on. -/
structure Platform where
  unicode : Unicode
  quote : String → String
  parseURL : String → Option URL
  isAbs : String → Bool
  parseIP : String → Option IP
  parseAddr : String → Option Addr
  parsePrefix : String → Option Prefix
  splitHostPort : String → Option (String × String)

/-- The IPv4 address in a mapped one (`To4`). -/
def IP.to4 (ip : IP) : Option (BitVec 32) :=
  if ip >>> 32 == 0xffff#128 then some (ip.truncate 32) else none

/-- `IsUnspecified`. -/
def IP.isUnspecified (ip : IP) : Bool := ip == 0#128 || ip == 0xffff00000000#128

/-- `IsMulticast`. -/
def IP.isMulticast (ip : IP) : Bool :=
  match ip.to4 with
  | some a => a >>> 28 == 0xe#32
  | none => ip >>> 120 == 0xff#128

/-- `IsLoopback`. -/
def IP.isLoopback (ip : IP) : Bool :=
  match ip.to4 with
  | some a => a >>> 24 == 127#32
  | none => ip == 1#128

/-- `IsLinkLocalUnicast`. -/
def IP.isLinkLocalUnicast (ip : IP) : Bool :=
  match ip.to4 with
  | some a => a >>> 16 == 0xa9fe#32
  | none => ip >>> 118 == 0x3fa#128

/-- `IsPrivate`. -/
def IP.isPrivate (ip : IP) : Bool :=
  match ip.to4 with
  | some a => a >>> 24 == 10#32 || a >>> 20 == 0xac1#32 || a >>> 16 == 0xc0a8#32
  | none => ip >>> 121 == 0x7e#128

/-- `IsGlobalUnicast`. -/
def IP.isGlobalUnicast (ip : IP) : Bool :=
  ip != 0xffffffffffff#128 && !ip.isUnspecified && !ip.isLoopback && !ip.isMulticast &&
    !ip.isLinkLocalUnicast

/-! ### Names -/

/-- The length of a Go string in bytes. -/
def byteLength (text : List Char) : Nat := (String.ofList text).utf8ByteSize

/-- A letter, a digit or a hyphen. -/
def labelCharacter (c : Char) : Bool :=
  ('a' ≤ c && c ≤ 'z') || ('A' ≤ c && c ≤ 'Z') || ('0' ≤ c && c ≤ '9') || c == '-'

/-- One label of a host name. -/
def validLabel (label : List Char) : Bool :=
  label ≠ [] && byteLength label ≤ 63 && label.head? ≠ some '-' && label.getLast? ≠ some '-' &&
    label.all labelCharacter

/-- The loop of `ambiguousIPAddress`: it returns at the first part that decides. -/
def ambiguousParts : List (List Char) → Bool
  | [] => true
  | part :: parts =>
    if part = [] then true
    else if part.any (fun c => c < '0' || '9' < c) then false
    else ambiguousParts parts

/-- A spelling that some resolvers read as an IPv4 address. -/
def ambiguousIPAddress (platform : Platform) (value : String) : Bool :=
  "0x".toList.isPrefixOf (platform.unicode.toLower value).toList ||
    ambiguousParts (splitChar '.' value.toList)

/-- A host name or an address literal. -/
def validHostname (platform : Platform) (value : String) : Bool :=
  if value = "" ∨ trimSpace value.toList ≠ value.toList ∨ value.toList.getLast? = some '.' ∨
      containsAny value.toList ['\x00', '/', '@', '[', ']'] then false
  else
    match platform.parseIP value with
    | some address => !address.isUnspecified && !address.isMulticast
    | none =>
      if ambiguousIPAddress platform value then false
      else if 253 < value.utf8ByteSize then false
      else (splitChar '.' value.toList).all validLabel

/-- A path that is absolute on the target or on this platform. -/
def absoluteTargetPath (platform : Platform) (value : String) : Bool :=
  "/".toList.isPrefixOf value.toList || platform.isAbs value

/-! ### STUN URLs -/

/-- `strconv.ParseUint(value, 10, 16)` succeeds with a nonzero port. -/
def validPort (value : List Char) : Bool :=
  value ≠ [] && value.all (fun c => '0' ≤ c && c ≤ '9') &&
    let port := value.foldl (fun n c => 10 * n + (c.toNat - '0'.toNat)) 0
    port < 2 ^ 16 && port ≠ 0

/-- A DNS name: labels, no dot at the end, at most 253 bytes. -/
def validDNSName (value : String) : Bool :=
  value.utf8ByteSize ≤ 253 && value.toList.getLast? ≠ some '.' &&
    (splitChar '.' value.toList).all validLabel

/-- The endings of names that are never public. -/
def localSuffixes : List String := [".local", ".localhost", ".lan", ".internal", ".home.arpa"]

/-- The checks on the host of a STUN URL. -/
def validateSTUNHost (platform : Platform) (host : String) : Except String Unit := do
  reject (host = "") "STUN host is empty"
  match platform.parseIP host with
  | some address =>
    reject (!address.isGlobalUnicast || address.isPrivate || address.isLoopback ||
      address.isLinkLocalUnicast) "STUN IP must be public"
  | none =>
    let lowerHost := (platform.unicode.toLower host).toList
    reject ('.' ∉ lowerHost ∨ lowerHost = "localhost".toList ∨
      localSuffixes.any (fun suffix => suffix.toList.isSuffixOf lowerHost))
      "STUN DNS name must be public"
    reject (validDNSName host = false) "invalid STUN DNS name"

/-- The authority of a STUN URL: a bracketed address, or a name or address, with an
    optional port. -/
def validateSTUNAuthority (platform : Platform) (authority : List Char) : Except String Unit := do
  reject (containsAny authority ['/', '?', '#', '@'])
    "credentials, paths, queries, and fragments are forbidden"
  match authority with
  | '[' :: rest =>
    reject (']' ∉ rest) "invalid bracketed IPv6 address"
    let host := rest.takeWhile (· ≠ ']')
    let suffix := (rest.dropWhile (· ≠ ']')).drop 1
    reject (suffix ≠ [] ∧ (suffix.head? ≠ some ':' ∨ validPort (suffix.drop 1) = false))
      "invalid STUN port"
    validateSTUNHost platform (String.ofList host)
  | _ =>
    if authority.count ':' = 1 then
      match platform.splitHostPort (String.ofList authority) with
      | none => .error "invalid STUN host or port"
      | some (host, port) =>
        reject (validPort port.toList = false) "invalid STUN host or port"
        validateSTUNHost platform host
    else do
      reject (':' ∈ authority) "IPv6 STUN addresses must be bracketed"
      validateSTUNHost platform (String.ofList authority)

/-- Give an error a context (`fmt.Errorf` with `%w`). -/
def withContext (context : String) (result : Except String Unit) : Except String Unit :=
  result.mapError (fun e => context ++ ": " ++ e)

/-- `config.ValidateSTUNURLs`. -/
def validateSTUNURLs (platform : Platform) (values : List String) : Except String Unit := do
  reject (values = []) "at least one STUN URL is required"
  checkAll (fun value => do
    reject (trimSpace value.toList ≠ value.toList ∨
      "stun:".toList.isPrefixOf (platform.unicode.toLower value).toList = false ∨
      value.utf8ByteSize ≤ "stun:".utf8ByteSize)
      ("only credential-free stun: URLs are allowed: " ++ platform.quote value)
    withContext ("invalid public STUN URL " ++ platform.quote value)
      (validateSTUNAuthority platform (value.toList.drop 5))) values

/-! ### The configuration -/

/-- The TLS policy of a service. -/
structure TLSConfig where
  serverName : String
  caFiles : List String
  spkiPins : List String
deriving DecidableEq, Repr

/-- A service the Agent makes reachable. -/
structure ServiceConfig where
  id : String
  policyRef : String
  kind : String
  targetHost : String
  targetPort : UInt16
  allowedCIDRs : List String
  tls : Option TLSConfig
deriving DecidableEq, Repr

/-- What temporary targets may be. -/
structure TemporaryPolicyConfig where
  allowedCIDRs : List String
  allowedPorts : List UInt16
  caFiles : List String
deriving DecidableEq, Repr

/-- The configuration of an Agent. -/
structure Config where
  controllerURL : String
  agentID : String
  privateKeyFile : String
  stunURLs : List String
  services : List ServiceConfig
  temporary : Option TemporaryPolicyConfig
deriving DecidableEq, Repr

/-- The networks an Agent may be configured for. -/
def permittedNetworks : List Prefix :=
  [.v4 0x0a000000#32 8 (by decide),
    .v4 0x64400000#32 10 (by decide),
    .v4 0x7f000000#32 8 (by decide),
    .v4 0xac100000#32 12 (by decide),
    .v4 0xc0a80000#32 16 (by decide),
    .v6 1#128 128 (by decide),
    .v6 (0xfc#128 <<< 120) 7 (by decide)]

/-- The prefix lies in a permitted network. -/
def permittedPrefix (p : Prefix) : Bool :=
  permittedNetworks.any (fun permitted => permitted.bits ≤ p.bits && permitted.contains p.addr)

/-- An `allowed_cidrs` entry parses, is not written as an IPv4-mapped prefix, and lies in a
    permitted network. -/
def permittedCIDR (platform : Platform) (rawPrefix : String) : Bool :=
  match platform.parsePrefix rawPrefix with
  | none => false
  | some p => !p.addr.is4In6 && permittedPrefix p.masked

/-- The check of one `allowed_cidrs` entry. -/
def validateCIDR (platform : Platform) (rawPrefix : String) : Except String Unit :=
  reject (permittedCIDR platform rawPrefix = false)
    ("CIDR " ++ platform.quote rawPrefix ++
      " is not an explicit private, loopback, ULA, or CGNAT prefix")

/-- A base64 SHA-256 digest, padded or not. -/
def decodeDigest (value : String) : Option (List UInt8) :=
  let decoded := match paddedDecode stdAlphabet value.toList with
    | some decoded => some decoded
    | none => rawDecode stdAlphabet value.toList
  decoded.filter (fun decoded => decoded.length = 32)

/-- `TLSConfig.Validate`. -/
def TLSConfig.validate (platform : Platform) (value : TLSConfig) : Except String Unit := do
  reject (validHostname platform value.serverName = false) "TLS server_name is invalid"
  checkAll (fun path => reject (absoluteTargetPath platform path = false)
    "private CA files must use absolute OpenWrt paths") value.caFiles
  checkAll (fun encoded => reject (decodeDigest encoded = none)
    "invalid SPKI SHA-256 pin: pin must be a base64-encoded 32-byte digest") value.spkiPins

/-- `ServiceConfig.Validate`. -/
def ServiceConfig.validate (platform : Platform) (service : ServiceConfig) :
    Except String Unit := do
  reject (validOpaqueID service.id = false) "id must be a 128-bit opaque value"
  reject (service.policyRef = "" ∨
    trimSpace service.policyRef.toList ≠ service.policyRef.toList ∨
    120 < service.policyRef.utf8ByteSize ∨
    containsAny service.policyRef.toList ['\r', '\n', '\x00'])
    "policy_ref must contain 1 to 120 safe bytes"
  reject (service.kind ≠ "http" ∧ service.kind ≠ "https" ∧ service.kind ≠ "guacamole")
    "kind must be http, https, or guacamole"
  reject (validHostname platform service.targetHost = false ∨ service.targetPort = 0)
    "target_host and target_port are invalid"
  reject (service.allowedCIDRs = []) "allowed_cidrs must not be empty"
  checkAll (validateCIDR platform) service.allowedCIDRs
  reject (service.kind = "https" ∧ service.tls = none) "https service requires TLS policy"
  reject (service.kind = "http" ∧ service.tls ≠ none) "http service must not contain TLS policy"
  match service.tls with
  | none => .ok ()
  | some tls => tls.validate platform

/-- The loop over the ports, with those seen so far. -/
def validatePorts : List UInt16 → List UInt16 → Except String Unit
  | _, [] => .ok ()
  | seen, port :: ports => do
    reject (port = 0) "temporary port 0 is invalid"
    reject (port ∈ seen) ("duplicate temporary port " ++ toString port.toNat)
    validatePorts (port :: seen) ports

/-- `TemporaryPolicyConfig.Validate`. -/
def TemporaryPolicyConfig.validate (platform : Platform) (value : TemporaryPolicyConfig) :
    Except String Unit := do
  reject (value.allowedCIDRs = [] ∨ value.allowedPorts = [] ∨ 32 < value.allowedPorts.length)
    "allowed_cidrs and 1 to 32 allowed_ports are required"
  checkAll (validateCIDR platform) value.allowedCIDRs
  validatePorts [] value.allowedPorts
  checkAll (fun path => reject (absoluteTargetPath platform path = false)
    "temporary private CA files must use absolute OpenWrt paths") value.caFiles

/-- The loop over the services, with the IDs and policy references seen so far. -/
def validateServices (platform : Platform) (ids policyRefs : List String) :
    List ServiceConfig → Except String Unit
  | [] => .ok ()
  | service :: services => do
    withContext ("service " ++ platform.quote service.policyRef) (service.validate platform)
    reject (service.id ∈ ids) ("duplicate service ID " ++ platform.quote service.id)
    reject (service.policyRef ∈ policyRefs)
      ("duplicate policy reference " ++ platform.quote service.policyRef)
    validateServices platform (service.id :: ids) (service.policyRef :: policyRefs) services

/-- The Controller is given by an HTTPS origin. -/
def httpsOrigin (url : URL) : Bool :=
  url.scheme == "https" && url.host != "" && !url.user && url.rawQuery == "" &&
    url.fragment == "" && (url.path == "" || url.path == "/")

/-- `Config.Validate`. -/
def Config.validate (platform : Platform) (value : Config) : Except String Unit := do
  reject ((platform.parseURL value.controllerURL).any httpsOrigin = false)
    "controller_url must be an HTTPS origin"
  reject (validOpaqueID value.agentID = false) "agent_id must be a 128-bit opaque value"
  reject (absoluteTargetPath platform value.privateKeyFile = false)
    "private_key_file must be an absolute path"
  validateSTUNURLs platform value.stunURLs
  reject (value.services = []) "at least one Agent service is required"
  validateServices platform [] [] value.services
  match value.temporary with
  | none => .ok ()
  | some temporary => withContext "temporary policy" (temporary.validate platform)

/-! ### What validation gives -/

section Accepted

variable {platform : Platform}

@[simp] theorem withContext_eq_ok {context : String} {result : Except String Unit} {u : Unit} :
    withContext context result = .ok u ↔ result = .ok () := by
  cases result <;> simp [withContext, Except.mapError]

/-- Every service of an accepted configuration is accepted. -/
theorem validateServices_validate {services : List ServiceConfig} {ids policyRefs : List String}
    (h : validateServices platform ids policyRefs services = .ok ()) :
    ∀ service ∈ services, service.validate platform = .ok () := by
  induction services generalizing ids policyRefs with
  | nil => simp
  | cons service services ih =>
    simp only [validateServices, then_eq_ok, withContext_eq_ok] at h
    intro service' hmem
    rcases List.mem_cons.mp hmem with rfl | hmem
    · exact h.1
    · exact ih h.2.2.2 service' hmem

/-- An address in an accepted `allowed_cidrs` entry is in a permitted network. -/
theorem contains_permitted {rawPrefix : String} {p : Prefix} {addr : Addr}
    (h : validateCIDR platform rawPrefix = .ok ()) (hp : platform.parsePrefix rawPrefix = some p)
    (haddr : p.contains addr = true) :
    ∃ permitted ∈ permittedNetworks, permitted.contains addr = true := by
  have hpermitted : permittedPrefix p.masked = true := by
    simp only [validateCIDR, reject_eq_ok, permittedCIDR, hp] at h
    simp only [Bool.not_eq_false, Bool.and_eq_true] at h
    exact h.2
  obtain ⟨permitted, hmem, hcontains⟩ := List.any_eq_true.mp hpermitted
  simp only [Bool.and_eq_true, decide_eq_true_eq] at hcontains
  have hmasked : p.masked.contains addr = true := by rw [Prefix.contains_masked]; exact haddr
  exact ⟨permitted, hmem, Prefix.contains_trans hcontains.1 hcontains.2 hmasked⟩

end Accepted

end WebVPN.Agent
