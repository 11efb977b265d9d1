import WebVPN.Library.Radix
import WebVPN.Library.Serialized

namespace WebVPN.Browser

open WebVPN.Library

/-!
# Browser — synthetic URLs

How the browser derives the authority it asks the Agent for: `virtualHostname` of
`web/src/virtual.ts`, `virtualURL` and `parseTemporaryURL` of `web/src/app.ts`, and
`agentTransportURL` of `web/src/transport-policy.ts`.  A function that may throw returns an
`Option`.

* `atob` — the forgiving base64 decoder of the platform;
* `hostnameDigits` — the loop of `virtualHostname`, on 32-bit integers;
* `hostnameDigits_eq` — the loop computes the base32 digits;
* `WebURL` — what the getters of a URL give, with the setters that are used; `URLParser` is the
  platform's parser, and `URLParser.ofHosts` the one of the URL standard.
-/

/-! ### The host name -/

/-- ASCII white space. -/
def isAsciiSpace (c : Char) : Bool := c ∈ ['\t', '\n', '\x0c', '\r', ' ']

/-- Remove the padding of a text whose length is a multiple of four. -/
def dropPadding (text : List Char) : List Char :=
  if text.length % 4 = 0 then
    let last := text.dropLast
    if text.getLast? = some '=' then if last.getLast? = some '=' then last.dropLast else last
    else text
  else text

/-- `atob`: white space is ignored, padding is optional, bits left over are not looked at. -/
def atob (data : List Char) : Option (List UInt8) :=
  let text := dropPadding (data.filter (fun c => !isAsciiSpace c))
  if text.length % 4 = 1 then none
  else
    match readDigits stdAlphabet text with
    | none => none
    | some digits => some (decode64 digits)

/-- The two `replace` calls, on one character: from the URL-safe to the standard alphabet. -/
def toStandard (c : Char) : Char := if c = '-' then '+' else if c = '_' then '/' else c

/-- The inner loop: as long as there are five bits, the next five are a digit. -/
def drain (value : BitVec 32) : Nat → List Nat × Nat
  | n + 5 => (((value >>> n) &&& 31#32).toNat :: (drain value n).1, (drain value n).2)
  | bits => ([], bits)

/-- The loop over the bytes, with the accumulator and the number of its bits that are not
    used up. -/
def hostnameLoop : BitVec 32 → Nat → List UInt8 → List Nat
  | value, bits, [] => if bits = 0 then [] else [((value <<< (5 - bits)) &&& 31#32).toNat]
  | value, bits, byte :: bytes =>
    let value' := (value <<< 8) ||| byte.toBitVec.setWidth 32
    (drain value' (bits + 8)).1 ++ hostnameLoop value' (drain value' (bits + 8)).2 bytes

/-- The digits of the label. -/
def hostnameDigits (bytes : List UInt8) : List Nat := hostnameLoop 0#32 0 bytes

/-- `virtualHostname`. -/
def virtualHostname (id : String) : Option String :=
  match atob (id.toList.map toStandard ++ ['=', '=']) with
  | none => none
  | some bytes =>
    if bytes.length ≠ 16 then none
    else
      let label := (writeDigits base32Alphabet (hostnameDigits bytes)).map asciiLower
      some (String.ofList ("s-".toList ++ label ++ ".webvpn.invalid".toList))

/-! ### The loop computes base32 -/

/-- The accumulator holds the pending bits. -/
def Holds (value : BitVec 32) (pending : List Bool) : Prop :=
  value.toNat % 2 ^ pending.length = bitsValue pending

variable {value : BitVec 32} {pending : List Bool}

/-- Taking the leading five of the pending bits off the accumulator. -/
theorem Holds.digit {g rest : List Bool} (hg : g.length = 5) (h : Holds value (g ++ rest)) :
    ((value >>> rest.length) &&& 31#32).toNat = bitsValue g ∧ Holds value rest := by
  unfold Holds at h
  have hlt := bitsValue_lt rest
  rw [bitsValue_append, List.length_append, hg] at h
  -- both are read off `value % (2 ^ |rest| * 32)`
  have hmod : value.toNat % (2 ^ rest.length * 32) = bitsValue g * 2 ^ rest.length + bitsValue rest := by
    rw [← h, Nat.pow_add, Nat.mul_comm (2 ^ 5)]
  constructor
  · rw [BitVec.toNat_and, BitVec.toNat_ushiftRight, Nat.shiftRight_eq_div_pow]
    have hand : ∀ n : Nat, n &&& (31#32).toNat = n % 32 := fun n => Nat.and_two_pow_sub_one_eq_mod n 5
    rw [hand, ← Nat.mod_mul_right_div_self, hmod, Nat.add_comm, Nat.add_mul_div_right _ _ (Nat.two_pow_pos _),
      Nat.div_eq_of_lt hlt, Nat.zero_add]
  · unfold Holds
    have hstep : value.toNat % (2 ^ rest.length * 32) % 2 ^ rest.length =
        value.toNat % 2 ^ rest.length := Nat.mod_mul_right_mod _ _ _
    rw [← hstep, hmod, Nat.add_comm, Nat.add_mul_mod_self_right, Nat.mod_eq_of_lt hlt]

/-- The inner loop regroups the pending bits. -/
theorem drain_eq (h : Holds value pending) : drain value pending.length =
      ((regroup 5 [] pending).1.map bitsValue, (regroup 5 [] pending).2.length) ∧
    Holds value (regroup 5 [] pending).2 := by
  induction hn : pending.length using Nat.strong_induction_on generalizing pending with
  | _ n ih =>
    subst hn
    by_cases hlt : pending.length < 5
    · rw [regroup_pending hlt]
      refine ⟨?_, h⟩
      rw [drain.eq_2 value pending.length (by omega)]
      rfl
    · -- split off the first group
      obtain ⟨g, rest, rfl, hg⟩ : ∃ g rest, pending = g ++ rest ∧ g.length = 5 :=
        ⟨pending.take 5, pending.drop 5, (List.take_append_drop 5 pending).symm, by simp; omega⟩
      obtain ⟨hdigit, hrest⟩ := h.digit hg
      obtain ⟨hdrain, hholds⟩ := ih rest.length (by simp [hg]) hrest rfl
      rw [regroup_group (by decide) hg]
      refine ⟨?_, hholds⟩
      rw [List.length_append, hg, Nat.add_comm, drain.eq_1, hdrain, hdigit]
      rfl

/-- A byte is shifted into the accumulator. -/
theorem Holds.push (h : Holds value pending) (hlen : pending.length < 5) (byte : UInt8) :
    Holds ((value <<< 8) ||| byte.toBitVec.setWidth 32) (pending ++ bits 8 byte.toNat) := by
  unfold Holds at h ⊢
  have hbyte : byte.toNat < 2 ^ 8 := byte.toNat_lt
  have hvalue : ((value <<< 8) ||| byte.toBitVec.setWidth 32).toNat =
      (value.toNat * 2 ^ 8 + byte.toNat) % 2 ^ 32 := by
    have hadd : ((value <<< 8) ||| byte.toBitVec.setWidth 32) =
        (value <<< 8) + byte.toBitVec.setWidth 32 := by
      symm
      apply BitVec.add_eq_or_of_and_eq_zero
      ext i hi
      simp only [BitVec.getElem_and, BitVec.getElem_shiftLeft, BitVec.getElem_setWidth,
        BitVec.getElem_zero]
      by_cases h8 : i < 8
      · simp [h8]
      · rw [BitVec.getLsbD_of_ge byte.toBitVec i (by omega), Bool.and_false]
    rw [hadd, BitVec.toNat_add, BitVec.toNat_shiftLeft, BitVec.toNat_setWidth,
      Nat.shiftLeft_eq]
    show (value.toNat * 2 ^ 8 % 2 ^ 32 + byte.toNat % 2 ^ 32) % 2 ^ 32 = _
    omega
  have hlen' : (pending ++ bits 8 byte.toNat).length = pending.length + 8 := by simp
  rw [hvalue, bitsValue_append, length_bits, bitsValue_bits, Nat.mod_eq_of_lt hbyte, ← h, hlen',
    Nat.mod_mod_of_dvd _ (Nat.pow_dvd_pow 2 (by omega)), Nat.pow_add]
  rw [Nat.mul_comm (2 ^ pending.length), Nat.mod_mul, Nat.mul_comm _ (2 ^ 8), Nat.mul_add_mod,
    Nat.mul_add_div (by decide), Nat.mod_eq_of_lt hbyte, Nat.div_eq_of_lt hbyte, Nat.add_zero,
    Nat.add_comm, Nat.mul_comm]

/-- The last, incomplete digit. -/
theorem Holds.last (h : Holds value pending) (hlen : pending.length < 5) :
    ((value <<< (5 - pending.length)) &&& 31#32).toNat =
      bitsValue (pending ++ List.replicate (5 - pending.length) false) := by
  have hzeros : ∀ k, bitsValue (List.replicate k false) = 0 := by
    intro k
    induction k with
    | zero => rfl
    | succ k ih => rw [List.replicate_succ, bitsValue_cons, ih]; simp
  have hand : ∀ n : Nat, n &&& (31#32).toNat = n % 2 ^ 5 :=
    fun n => Nat.and_two_pow_sub_one_eq_mod n 5
  have hsplit : (2 : Nat) ^ 5 = 2 ^ pending.length * 2 ^ (5 - pending.length) := by
    rw [← Nat.pow_add]
    congr 1
    omega
  rw [bitsValue_append, hzeros, List.length_replicate, Nat.add_zero, ← h, BitVec.toNat_and, hand,
    BitVec.toNat_shiftLeft, Nat.shiftLeft_eq, Nat.mod_mod_of_dvd _ (Nat.pow_dvd_pow 2 (by decide)),
    hsplit, Nat.mul_mod_mul_right]

/-- The loop over the bytes emits the groups of the pending bits and the bytes. -/
theorem hostnameLoop_eq (h : Holds value pending) (hlen : pending.length < 5) (bytes : List UInt8) :
    hostnameLoop value pending.length bytes = groups 5 (pending ++ bytesBits bytes) := by
  induction bytes generalizing value pending with
  | nil =>
    have hgroups : groups 5 (pending ++ bytesBits []) =
        if pending = [] then [] else
          [bitsValue (pending ++ List.replicate (5 - pending.length) false)] := by
      unfold groups fullGroups
      rw [bytesBits, List.flatMap_nil, List.append_nil, regroup_pending hlen]
      rfl
    rw [hgroups, hostnameLoop, h.last hlen]
    by_cases hnil : pending = []
    · simp [hnil]
    · rw [if_neg hnil, if_neg (fun h => hnil (List.eq_nil_of_length_eq_zero h))]
  | cons byte bytes ih =>
    obtain ⟨hdrain, hholds⟩ := drain_eq (h.push hlen byte)
    have hlen' : (pending ++ bits 8 byte.toNat).length = pending.length + 8 := by simp
    rw [hlen'] at hdrain
    rw [hostnameLoop]
    simp only [hdrain]
    rw [ih hholds (length_regroup_rest 5 [] _ (by decide)), ← groups_append (by decide),
      List.append_assoc]
    rfl

/-- **The loop computes base32.**  The digits of the label are the base32 digits of the
    bytes. -/
theorem hostnameDigits_eq (bytes : List UInt8) : hostnameDigits bytes = encode32 bytes := by
  have hstart : Holds 0#32 [] := by simp [Holds, bitsValue, Nat.mod_one]
  exact hostnameLoop_eq hstart (by decide) bytes

/-! ### URLs -/

/-- What the getters give; a port that is the default of the scheme is not stored. -/
structure WebURL where
  protocol : String
  username : String
  password : String
  hostname : String
  port : Option UInt16
  pathname : String
  search : String
  hash : String
deriving DecidableEq, Repr

/-- The default port of a special scheme. -/
def defaultPort (protocol : String) : Option UInt16 :=
  if protocol = "http:" ∨ protocol = "ws:" then some 80
  else if protocol = "https:" ∨ protocol = "wss:" then some 443
  else none

/-- A host name of the form the browser builds. -/
def SyntheticHost (host : String) : Prop :=
  ∃ label : List Char, (∀ c ∈ label, ('a' ≤ c ∧ c ≤ 'z') ∨ ('0' ≤ c ∧ c ≤ '9')) ∧
    host.toList = "s-".toList ++ label ++ ".webvpn.invalid".toList

/-- The URL parser of the platform, with what the URL standard says about a root URL with a
    synthetic host: a host name of lower-case letters, digits, single hyphens and dots whose
    last label is not a number is kept as it is. -/
structure URLParser where
  trim : String → String
  parse : String → Option WebURL
  parse_synthetic : ∀ scheme host, scheme = "http:" ∨ scheme = "https:" → SyntheticHost host →
    parse (scheme ++ "//" ++ host ++ "/") = some ⟨scheme, "", "", host, none, "/", "", ""⟩

/-- The getters of a parsed URL. -/
def WebURL.ofURL (url : URL) : WebURL where
  protocol := String.ofList (url.scheme ++ [':'])
  username := String.ofList url.username
  password := String.ofList url.password
  hostname := String.ofList (url.host.getD [])
  port := url.port.map UInt16.ofNat
  pathname := String.ofList url.pathname
  search := String.ofList url.search
  hash := String.ofList url.hash

/-- **The parser of the URL standard** is such a parser, if its hosts keep synthetic names. -/
def URLParser.ofHosts (hosts : Hosts) (trim : String → String)
    (hkeeps : ∀ host, SyntheticHost host → hosts.domain host.toList = some host.toList) :
    URLParser where
  trim := trim
  parse text := (URL.parse hosts none text.toList).map WebURL.ofURL
  parse_synthetic := by
    intro scheme host hscheme hhost
    have hparse : hosts.parse true host.toList = some host.toList := by
      have hkept := hkeeps host hhost
      obtain ⟨label, -, hlist⟩ := hhost
      unfold Hosts.parse
      split
      · rename_i hbracket
        rw [hlist] at hbracket
        cases hbracket
      · exact hkept
    obtain ⟨name, hspecial, hfile, hname, hcolon⟩ : ∃ name, URL.isSpecialScheme name = true ∧
        name ≠ URL.file ∧ scheme.toList = name ++ [':'] ∧ String.ofList (name ++ [':']) = scheme := by
      rcases hscheme with rfl | rfl
      · exact ⟨URL.http, by decide, by decide, rfl, rfl⟩
      · exact ⟨URL.https, by decide, by decide, rfl, rfl⟩
    have htext : (scheme ++ "//" ++ host ++ "/").toList =
        name ++ ':' :: '/' :: '/' :: host.toList ++ ['/'] := by
      simp [String.toList_append, hname]
    rw [htext, URL.parse_root hspecial hfile hparse, Option.map_some]
    simp [WebURL.ofURL, URL.blank, URL.pathname, URL.search, URL.hash, URL.delimited, hcolon]

namespace WebURL

/-- The `protocol` setter, between special schemes. -/
def setProtocol (url : WebURL) (protocol : String) : WebURL :=
  { url with
    protocol := protocol
    port := if url.port = defaultPort protocol then none else url.port }

/-- The `port` setter. -/
def setPort (url : WebURL) (port : UInt16) : WebURL :=
  { url with port := if some port = defaultPort url.protocol then none else some port }

/-- The port a connection to the URL uses. -/
def effectivePort (url : WebURL) : Option UInt16 := url.port.or (defaultPort url.protocol)

end WebURL

/-- `agentTransportURL`: TLS is the Agent's business, so the URL loses it but keeps the port. -/
def agentTransportURL (remote : WebURL) : WebURL :=
  if remote.protocol = "https:" then
    (remote.setProtocol "http:").setPort (remote.port.getD 443)
  else if remote.protocol = "wss:" then
    (remote.setProtocol "ws:").setPort (remote.port.getD 443)
  else remote

/-- The part of a catalog entry that the URL depends on. -/
structure Service where
  id : String
  kind : String
deriving DecidableEq, Repr

/-- `virtualURL`; the setters copy path, query and fragment of a temporary target. -/
def virtualURL (parser : URLParser) (service : Service) (remote : Option WebURL) : Option WebURL :=
  let scheme := if service.kind = "https" then "https:" else "http:"
  match virtualHostname service.id with
  | none => none
  | some host =>
    match parser.parse (scheme ++ "//" ++ host ++ "/"), remote with
    | none, _ => none
    | some result, none => some result
    | some result, some remote =>
      some { result with
        pathname := remote.pathname
        search := remote.search
        hash := remote.hash }

/-- The kind of service that a scheme goes with. -/
def schemeKind (protocol : String) : Option String :=
  if protocol = "https:" then some "https" else if protocol = "http:" then some "http" else none

/-- `parseTemporaryURL`. -/
def parseTemporaryURL (parser : URLParser) (value : String) (expectedKind : String) :
    Except String WebURL :=
  match parser.parse (parser.trim value) with
  | none => .error "请输入完整的 HTTP 或 HTTPS 内网 URL"
  | some target =>
    if schemeKind target.protocol ≠ some expectedKind ∨ target.username ≠ "" ∨
        target.password ≠ "" ∨ target.hostname = "" then
      .error ("该临时入口只接受不含凭据的 " ++ expectedKind.toUpper ++ " URL")
    -- the parser bounds the port from above
    else if target.port = some 0 then .error "目标端口无效"
    else .ok target

/-- What the browser tells the Agent about a temporary target. -/
structure TemporaryTarget where
  host : String
  port : UInt16
  kind : String
deriving DecidableEq, Repr

/-- `stripIPv6Brackets`. -/
def stripIPv6Brackets (host : String) : String :=
  if host.toList.head? = some '[' ∧ host.toList.getLast? = some ']' then
    String.ofList host.toList.dropLast.tail
  else host

/-- The target of a URL that `parseTemporaryURL` accepted. -/
def temporaryTarget (remote : WebURL) : TemporaryTarget where
  host := stripIPv6Brackets remote.hostname
  port := remote.port.getD (if remote.protocol = "https:" then 443 else 80)
  kind := if remote.protocol = "https:" then "https" else "http"

/-- The host and port that go into the Wisp CONNECT for a service. -/
def connectAuthority (parser : URLParser) (service : Service) (remote : Option WebURL) :
    Option (String × UInt16) :=
  match virtualURL parser service remote with
  | none => none
  | some url =>
    match (agentTransportURL url).effectivePort with
    | none => none
    | some port => some ((agentTransportURL url).hostname, port)

end WebVPN.Browser
