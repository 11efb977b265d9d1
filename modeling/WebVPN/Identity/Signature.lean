import WebVPN.Storage.Store

namespace WebVPN.Identity

open WebVPN.Library WebVPN.Storage

/-!
# Identity — signed requests of Agents

An Agent signs the method, the request URI and the body of a request together with its ID, a nonce
and the time (`internal/identity/signature.go`).  SHA-256, Ed25519 and `strings.ToUpper` are
parameters.

* `parseSignedRequest` — the four headers;
* `canonicalMessage`, `verify` — what is signed, and the check of time and signature;
* `readBody` — the body, up to the limit of `agent_auth.go`.
-/

/-- What the code takes from libraries. -/
structure Primitives where
  sha256 : List UInt8 → Digest
  ed25519Verify : Vector UInt8 32 → List UInt8 → List UInt8 → Bool
  toUpper : String → String

/-- An Ed25519 public key. -/
abbrev PublicKey := Vector UInt8 32

/-- The bytes of a Go string. -/
def utf8 (text : String) : List UInt8 := text.toUTF8.data.toList

/-- The key with these bytes, if there are `ed25519.PublicKeySize` of them. -/
def PublicKey.ofBytes (bytes : List UInt8) : Option PublicKey :=
  if h : bytes.length = 32 then some ⟨bytes.toArray, size_toArray_of_length h⟩ else none

/-- How authentication fails: the sentinel errors "agent not found" and "nonce is invalid, expired, or
    already used", the text of a check, or an error of the database as it is. -/
inductive AuthError
  | agentNotFound
  | nonceUsed
  | invalid (message : String)
  | database
deriving DecidableEq, Repr

/-! ### Requests -/

/-- What a reader delivers before it ends or fails. -/
structure Body where
  bytes : List UInt8
  failure : Option String
deriving DecidableEq, Repr

/-- The parts of an `http.Request` that are looked at.  The header names are spelled as in the
    code. -/
structure Request where
  method : String
  requestURI : String
  headers : List (String × String)
  body : Body
deriving DecidableEq, Repr

/-- `Header.Get`. -/
def Request.get (request : Request) (name : String) : String :=
  ((request.headers.find? (fun header => header.1 = name)).map Prod.snd).getD ""

/-- The limit for the body of a signed request. -/
def maxSignedBody : Nat := 2 ^ 20

/-- `io.ReadAll(io.LimitReader(request.Body, MaxSignedBody+1))` and the check of the size. -/
def Request.readBody (request : Request) : Except AuthError (List UInt8) :=
  if maxSignedBody + 1 ≤ request.body.bytes.length then
    .error (.invalid "signed request body is too large")
  else
    match request.body.failure with
    | some failure => .error (.invalid ("read signed body: " ++ failure))
    | none => .ok request.body.bytes

/-! ### Headers -/

/-- The value of decimal digits, at least one. -/
def parseDigits (digits : List Char) : Option Nat :=
  if digits ≠ [] ∧ digits.all Char.isDigit then
    some (digits.foldl (fun n c => 10 * n + (c.toNat - '0'.toNat)) 0)
  else none

/-- The number has 64 bits. -/
def int64 (n : Int) : Option Int := if -2 ^ 63 ≤ n ∧ n < 2 ^ 63 then some n else none

/-- `strconv.ParseInt(text, 10, 64)`. -/
def parseInt (text : String) : Option Int :=
  match text.toList with
  | '+' :: digits => (parseDigits digits).bind (fun n => int64 n)
  | '-' :: digits => (parseDigits digits).bind (fun n => int64 (-n))
  | digits => (parseDigits digits).bind (fun n => int64 n)

/-- The encoding of so many bytes. -/
def validOpaqueID (value : String) (bytes : Nat) : Bool :=
  match rawDecode urlAlphabet value.toList with
  | some decoded => decoded.length = bytes
  | none => false

/-- What the headers of a signed request say. -/
structure SignedRequest where
  agentID : String
  nonce : String
  issuedAt : Int
  signature : List UInt8
deriving DecidableEq, Repr

/-- `ParseSignedRequest`. -/
def parseSignedRequest (request : Request) : Except AuthError SignedRequest :=
  match parseInt (request.get "X-WebVPN-Issued-At") with
  | none => .error (.invalid "invalid agent request timestamp")
  | some issuedAt =>
    match (rawDecode urlAlphabet (request.get "X-WebVPN-Signature").toList).filter
        (fun signature => signature.length = 64) with
    | none => .error (.invalid "invalid agent request signature")
    | some signature =>
      let result : SignedRequest := ⟨request.get "X-WebVPN-Agent-ID", request.get "X-WebVPN-Nonce",
        fromUnix issuedAt, signature⟩
      if validOpaqueID result.agentID 16 = false ∨ validOpaqueID result.nonce 32 = false then
        .error (.invalid "invalid agent ID or nonce")
      else .ok result

/-! ### Signatures -/

section Verify

variable (p : Primitives)

/-- The first line of the canonical message. -/
def signatureVersion : String := "webvpn-agent-v1"

/-- How far the clocks may differ. -/
def maxClockSkew : Int := 90 * second

/-- `CanonicalMessage`. -/
def canonicalMessage (agentID nonce : String) (issuedAt : Int) (method path : String)
    (body : List UInt8) : List UInt8 :=
  utf8 ("\n".intercalate [signatureVersion, agentID, nonce, toString (unix issuedAt),
    p.toUpper method, path, encodeRaw (p.sha256 body).toList])

/-- `Verify`; a key has the size of its type. -/
def verify (publicKey : PublicKey) (signed : SignedRequest) (method path : String)
    (body : List UInt8) (now : Int) : Except AuthError Unit :=
  if signed.signature.length ≠ 64 then .error (.invalid "invalid Ed25519 key or signature size")
  else if now - signed.issuedAt < -maxClockSkew ∨ maxClockSkew < now - signed.issuedAt then
    .error (.invalid "agent request timestamp is outside the permitted window")
  else if p.ed25519Verify publicKey (canonicalMessage p signed.agentID signed.nonce signed.issuedAt
      method path body) signed.signature = false then
    .error (.invalid "agent request signature verification failed")
  else .ok ()

/-- The digest of a nonce. -/
def nonceDigest (nonce : String) : Digest := p.sha256 (utf8 ("scwebvpn-nonce-v1\x00" ++ nonce))

end Verify

/-! ### What is accepted -/

/-- The headers behind a signed request. -/
theorem parseSignedRequest_ok {request : Request} {signed : SignedRequest}
    (h : parseSignedRequest request = .ok signed) :
    signed.agentID = request.get "X-WebVPN-Agent-ID" ∧ signed.nonce = request.get "X-WebVPN-Nonce" ∧
      ∃ seconds, parseInt (request.get "X-WebVPN-Issued-At") = some seconds ∧
        signed.issuedAt = fromUnix seconds := by
  unfold parseSignedRequest at h
  split at h
  · cases h
  · rename_i seconds hseconds
    split at h
    · cases h
    · simp only at h
      split at h
      · cases h
      · cases h
        exact ⟨rfl, rfl, seconds, hseconds, rfl⟩

theorem readBody_ok {request : Request} {body : List UInt8} (h : request.readBody = .ok body) :
    body = request.body.bytes := by
  unfold Request.readBody at h
  split at h
  · cases h
  · split at h
    · cases h
    · cases h
      rfl

/-- The check of time and signature. -/
theorem verify_ok {p : Primitives} {publicKey : PublicKey} {signed : SignedRequest}
    {method path : String} {body : List UInt8} {now : Int}
    (h : verify p publicKey signed method path body now = .ok ()) :
    -maxClockSkew ≤ now - signed.issuedAt ∧ now - signed.issuedAt ≤ maxClockSkew ∧
      p.ed25519Verify publicKey (canonicalMessage p signed.agentID signed.nonce signed.issuedAt method
        path body) signed.signature = true := by
  unfold verify at h
  split at h
  · cases h
  · split at h
    · cases h
    · rename_i hwindow
      split at h
      · cases h
      · rename_i hsignature
        rw [not_or, not_lt, not_lt] at hwindow
        exact ⟨hwindow.1, hwindow.2, by simpa using hsignature⟩

end WebVPN.Identity
