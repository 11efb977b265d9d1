import WebVPN.Identity.Signature
import WebVPN.Library.Lines

namespace WebVPN.Identity

open WebVPN.Library WebVPN.Storage

/-!
# Identity — the signed message and the request behind it

The canonical message joins its fields with line breaks.  The method is the only field that may hold
one: it stands between fields that hold none, so that the message is read from both ends.

* `canonicalMessage_inj` — a message determines its fields;
* `ControllerClient.signedJSON` — how the Agent builds a request (`internal/agent/controller_client.go`);
* `verify_eq` — which message `Verify` checks, and when it checks none;
* `canonicalMessage_determines` — a message determines the request, and the authenticator forms the
  message that was signed.
-/

/-! ### The fields -/

theorem utf8_injective {s t : String} (h : utf8 s = utf8 t) : s = t := by
  have hbytes : s.toUTF8 = t.toUTF8 := ByteArray.ext (Array.toList_inj.mp h)
  exact String.toByteArray_inj.mp hbytes

theorem encodeRaw_injective {raw raw' : List UInt8} (h : encodeRaw raw = encodeRaw raw') :
    raw = raw' := by
  have hdecoded := rawDecode_encodeRaw raw
  rw [h, rawDecode_encodeRaw, Option.some.injEq] at hdecoded
  exact hdecoded.symm

theorem not_mem_encodeRaw (raw : List UInt8) : '\n' ∉ (encodeRaw raw).toList := by
  rw [encodeRaw, String.toList_ofList, writeDigits, List.mem_map]
  rintro ⟨digit, hdigit, heq⟩
  have hlt : digit < 64 := mem_groups_lt (by decide) hdigit
  have hall : ∀ d < 64, urlAlphabet.getD d '=' ≠ '\n' := by decide +kernel
  exact hall digit hlt heq

/-- The digits of a number are read back. -/
theorem parseDigits_toDigits (n : Nat) : parseDigits (Nat.toDigits 10 n) = some n := by
  have hdigits : (Nat.toDigits 10 n).all Char.isDigit = true :=
    List.all_eq_true.mpr (fun c hc => Nat.isDigit_of_mem_toDigits (by decide) (by decide) hc)
  rw [parseDigits, if_pos ⟨Nat.toDigits_ne_nil, hdigits⟩]
  exact congrArg some Nat.ofDigitChars_ten_toDigits

/-- `strconv.FormatInt`, and `strconv.ParseInt` after it. -/
theorem parseInt_toString (n : Int) : parseInt (toString n) = int64 n := by
  cases n with
  | ofNat m =>
    have hdigit : ∀ c ∈ (toString (Int.ofNat m)).toList, c.isDigit = true := by
      rw [toList_toString_ofNat]
      exact fun c hc => Nat.isDigit_of_mem_toDigits (by decide) (by decide) hc
    unfold parseInt
    -- no digit is a sign
    split
    · rename_i digits hsign
      rw [hsign] at hdigit
      exact absurd (hdigit '+' (List.mem_cons_self ..)) (by decide)
    · rename_i digits hsign
      rw [hsign] at hdigit
      exact absurd (hdigit '-' (List.mem_cons_self ..)) (by decide)
    · rw [toList_toString_ofNat, parseDigits_toDigits, Option.bind_some, Int.ofNat_eq_natCast]
  | negSucc m =>
    unfold parseInt
    rw [toList_toString_negSucc]
    show (parseDigits (Nat.toDigits 10 (m + 1))).bind (fun n => int64 (-n)) = _
    rw [parseDigits_toDigits, Option.bind_some, Int.negSucc_eq, Nat.cast_add, Nat.cast_one]

theorem not_mem_toString (n : Int) : '\n' ∉ (toString n).toList := by
  have hdigits : ∀ m, '\n' ∉ Nat.toDigits 10 m := fun m hmem =>
    absurd (Nat.isDigit_of_mem_toDigits (by decide) (by decide) hmem) (by decide)
  cases n with
  | ofNat m =>
    rw [toList_toString_ofNat]
    exact hdigits m
  | negSucc m =>
    rw [toList_toString_negSucc, List.mem_cons, not_or]
    exact ⟨by decide, hdigits (m + 1)⟩

theorem int64_eq_some {n m : Int} (h : int64 n = some m) : n = m := by
  unfold int64 at h
  split at h
  · exact Option.some.inj h
  · cases h

theorem toString_injective {n m : Int} (hn : int64 n = some n) (hm : int64 m = some m)
    (h : toString n = toString m) : n = m := by
  have hparsed := parseInt_toString n
  rw [h, parseInt_toString, hm, hn, Option.some.injEq] at hparsed
  exact hparsed.symm

theorem unix_fromUnix (seconds : Int) : unix (fromUnix seconds) = seconds :=
  Int.mul_ediv_cancel seconds (by decide)

/-! ### Reading a message -/

/-- The fields of a message. -/
theorem toList_message (id nonce time method path digest : String) :
    ("\n".intercalate [signatureVersion, id, nonce, time, method, path, digest]).toList =
      signatureVersion.toList ++ '\n' :: (id.toList ++ '\n' :: (nonce.toList ++ '\n' ::
        (time.toList ++ '\n' :: (method.toList ++ '\n' :: (path.toList ++ '\n' :: digest.toList))))) := by
  rw [String.toList_intercalate]
  simp [List.intercalate]

/-- A message determines its fields when the ID, the nonce and the path hold no line break. -/
theorem canonicalMessage_inj {p : Primitives} {id id' nonce nonce' method method' path path' : String}
    {time time' : Int} {body body' : List UInt8} (hid : '\n' ∉ id.toList) (hid' : '\n' ∉ id'.toList)
    (hnonce : '\n' ∉ nonce.toList) (hnonce' : '\n' ∉ nonce'.toList)
    (htime : int64 (unix time) = some (unix time)) (htime' : int64 (unix time') = some (unix time'))
    (hpath : '\n' ∉ path.toList) (hpath' : '\n' ∉ path'.toList)
    (h : canonicalMessage p id nonce time method path body =
      canonicalMessage p id' nonce' time' method' path' body') :
    id = id' ∧ nonce = nonce' ∧ unix time = unix time' ∧ p.toUpper method = p.toUpper method' ∧
      path = path' ∧ p.sha256 body = p.sha256 body' := by
  have htext := congrArg String.toList (utf8_injective h)
  rw [toList_message, toList_message, List.append_cancel_left_eq, List.cons.injEq] at htext
  -- from the front up to the method
  obtain ⟨hids, htext⟩ := append_cons_inj hid hid' htext.2
  obtain ⟨hnonces, htext⟩ := append_cons_inj hnonce hnonce' htext
  obtain ⟨htimes, htext⟩ := append_cons_inj (not_mem_toString _) (not_mem_toString _) htext
  -- and from the end down to it
  rw [← List.cons_append, ← List.append_assoc, ← List.cons_append, ← List.append_assoc] at htext
  obtain ⟨htext, hdigests⟩ := append_cons_inj_last (not_mem_encodeRaw _) (not_mem_encodeRaw _) htext
  obtain ⟨hmethods, hpaths⟩ := append_cons_inj_last hpath hpath' htext
  refine ⟨String.toList_injective hids, String.toList_injective hnonces,
    toString_injective htime htime' (String.toList_injective htimes), String.toList_injective hmethods,
    String.toList_injective hpaths, ?_⟩
  exact Vector.toList_inj.mp (encodeRaw_injective (String.toList_injective hdigests))

/-- An accepted request was issued at a whole second. -/
theorem parseSignedRequest_int64 {request : Request} {signed : SignedRequest}
    (h : parseSignedRequest request = .ok signed) :
    int64 (unix signed.issuedAt) = some (unix signed.issuedAt) := by
  obtain ⟨-, -, seconds, hseconds, htime⟩ := parseSignedRequest_ok h
  rw [htime, unix_fromUnix]
  unfold parseInt at hseconds
  split at hseconds
  all_goals
    obtain ⟨n, -, hn⟩ := Option.bind_eq_some_iff.mp hseconds
    rwa [int64_eq_some hn] at hn

/-! ### Requests of the Agent -/

/-- `ControllerClient`: the ID that `NewControllerClient` has checked, and `ed25519.Sign` with the
    private key. -/
structure ControllerClient where
  agentID : String
  valid : validOpaqueID agentID 16 = true
  sign : List UInt8 → Vector UInt8 64

/-- `controllerHTTPError` and `controllerStageError`. -/
inductive ClientError
  | http (operation : String) (status : Nat)
  | stage (operation stage : String)
deriving DecidableEq, Repr

/-- The end of `challenge`; `answer` is the nonce of the decoded response, or how the exchange failed. -/
def challenge (answer : Except ClientError String) : Except ClientError String :=
  match answer with
  | .error e => .error e
  | .ok nonce =>
    if validOpaqueID nonce 32 = false then .error (.stage "challenge" "value") else .ok nonce

/-- The method of `http.NewRequest`. -/
def newRequestMethod (method : String) : String := if method = "" then "GET" else method

section Client

variable (p : Primitives) (client : ControllerClient)

/-- The request that `signedJSON` hands to the transport.  `body` is what `json.Marshal` returned,
    `requestURI` what `URL.RequestURI` returns for the request, and `issuedAt` the time. -/
def ControllerClient.signed (nonce : String) (issuedAt : Int) (method requestURI : String)
    (body : List UInt8) : Request where
  method := newRequestMethod method
  requestURI := requestURI
  headers := [("Content-Type", "application/json"), ("User-Agent", "scwebvpn-agent/1"),
    ("X-WebVPN-Agent-ID", client.agentID), ("X-WebVPN-Nonce", nonce),
    ("X-WebVPN-Issued-At", toString (unix issuedAt)),
    ("X-WebVPN-Signature", encodeRaw
      (client.sign (canonicalMessage p client.agentID nonce issuedAt method requestURI body)).toList)]
  body := ⟨body, none⟩

/-- `signedJSON` up to the transport; `encoded` and `requestURI` are absent when `json.Marshal` or
    `http.NewRequest` fails. -/
def ControllerClient.signedJSON (answer : Except ClientError String) (operation method : String)
    (encoded : Option (List UInt8)) (requestURI : Option String) (issuedAt : Int) :
    Except ClientError Request :=
  match challenge answer, encoded, requestURI with
  | .error e, _, _ => .error e
  | .ok _, none, _ => .error (.stage operation "encode")
  | .ok _, some _, none => .error (.stage operation "request")
  | .ok nonce, some body, some requestURI =>
    .ok (client.signed p nonce issuedAt method requestURI body)

variable {p client} {issuedAt : Int}

/-- What a built request was built from. -/
theorem ControllerClient.signedJSON_ok {answer : Except ClientError String} {operation method : String}
    {encoded : Option (List UInt8)} {requestURI : Option String} {request : Request}
    (h : client.signedJSON p answer operation method encoded requestURI issuedAt = .ok request) :
    ∃ nonce body uri, answer = .ok nonce ∧ encoded = some body ∧ requestURI = some uri ∧
      validOpaqueID nonce 32 = true ∧ request = client.signed p nonce issuedAt method uri body := by
  unfold ControllerClient.signedJSON at h
  split at h
  · cases h
  · cases h
  · cases h
  · rename_i nonce body uri hchallenge
    unfold challenge at hchallenge
    split at hchallenge
    · cases hchallenge
    · split at hchallenge
      · cases hchallenge
      · rename_i hvalid
        cases hchallenge
        cases h
        exact ⟨nonce, body, uri, rfl, rfl, rfl, by simpa using hvalid, rfl⟩

/-- The headers of a built request are accepted, and the time is cut to the second. -/
theorem ControllerClient.parseSignedRequest_signed {nonce : String} (hnonce : validOpaqueID nonce 32 = true)
    (htime : int64 (unix issuedAt) = some (unix issuedAt)) (method uri : String)
    (body : List UInt8) :
    parseSignedRequest (client.signed p nonce issuedAt method uri body) =
      .ok ⟨client.agentID, nonce, fromUnix (unix issuedAt),
        (client.sign (canonicalMessage p client.agentID nonce issuedAt method uri body)).toList⟩ := by
  have hissued : (client.signed p nonce issuedAt method uri body).get "X-WebVPN-Issued-At" =
      toString (unix issuedAt) := rfl
  have hsignature : (client.signed p nonce issuedAt method uri body).get "X-WebVPN-Signature" =
      encodeRaw (client.sign (canonicalMessage p client.agentID nonce issuedAt method uri body)).toList := rfl
  unfold parseSignedRequest
  rw [hissued, hsignature, parseInt_toString, htime, rawDecode_encodeRaw, Option.filter_some,
    if_pos (by simp)]
  show (if validOpaqueID client.agentID 16 = false ∨ validOpaqueID nonce 32 = false then _ else _) = _
  rw [client.valid, hnonce, if_neg (by decide)]
  rfl

/-- The body of a built request is read up to the limit. -/
theorem ControllerClient.readBody_signed {nonce : String} {method uri : String}
    {body : List UInt8} (hbody : body.length ≤ maxSignedBody) :
    (client.signed p nonce issuedAt method uri body).readBody = .ok body := by
  unfold Request.readBody
  rw [if_neg (by simpa [ControllerClient.signed, Nat.lt_succ_iff] using hbody)]
  rfl

end Client

/-! ### The message on both sides -/

/-- As `net/http` delivers it: no header value and no request URI has a line break. -/
def Request.Unbroken (request : Request) : Prop :=
  (∀ header ∈ request.headers, '\r' ∉ header.2.toList ∧ '\n' ∉ header.2.toList) ∧
    '\r' ∉ request.requestURI.toList ∧ '\n' ∉ request.requestURI.toList

theorem Request.Unbroken.get {request : Request} (h : request.Unbroken) (name : String) :
    '\n' ∉ (request.get name).toList := by
  unfold Request.get
  cases hfind : request.headers.find? (fun header => header.1 = name) with
  | none => decide
  | some header => exact (h.1 header (List.mem_of_find?_eq_some hfind)).2

/-- The server's clock, compared with the second in which a request was issued. -/
def InWindow (issuedAt now : Int) : Prop :=
  -maxClockSkew ≤ now - fromUnix (unix issuedAt) ∧ now - fromUnix (unix issuedAt) ≤ maxClockSkew

instance (issuedAt now : Int) : Decidable (InWindow issuedAt now) :=
  inferInstanceAs (Decidable (_ ∧ _))

/-- In the window, `Verify` checks the signature of the message with the time cut to the second; outside,
    it checks none. -/
theorem verify_eq {p : Primitives} {publicKey : PublicKey} {id nonce : String} {issuedAt now : Int}
    {signature : Vector UInt8 64} {method path : String} {body : List UInt8} :
    verify p publicKey ⟨id, nonce, fromUnix (unix issuedAt), signature.toList⟩ method path body now =
      if InWindow issuedAt now then
        if p.ed25519Verify publicKey (canonicalMessage p id nonce issuedAt method path body)
            signature.toList = false then
          .error (.invalid "agent request signature verification failed")
        else .ok ()
      else .error (.invalid "agent request timestamp is outside the permitted window") := by
  have hmessage : canonicalMessage p id nonce (fromUnix (unix issuedAt)) method path body =
      canonicalMessage p id nonce issuedAt method path body := by
    unfold canonicalMessage
    rw [unix_fromUnix]
  unfold verify
  rw [if_neg (by simp), hmessage]
  by_cases hwindow : InWindow issuedAt now
  · rw [if_neg (by rw [not_or, not_lt, not_lt]; exact hwindow), if_pos hwindow]
  · rw [if_pos (by rw [InWindow, not_and_or, not_le, not_le] at hwindow; exact hwindow),
      if_neg hwindow]

/-- **The signed message determines the request.**  Of two accepted requests with the same canonical
    message, the ID, the nonce, the second of issue, the upper-cased method, the request URI and the digest
    of the body are the same.  And when a request that `signedJSON` has built arrives as it was sent, with a
    body within the limit and in the window, then the check of the signature is that of the message that
    was signed. -/
theorem canonicalMessage_determines (p : Primitives) :
    (∀ (request request' : Request) (signed signed' : SignedRequest) (body body' : List UInt8),
      request.Unbroken → request'.Unbroken →
      parseSignedRequest request = .ok signed → parseSignedRequest request' = .ok signed' →
      canonicalMessage p signed.agentID signed.nonce signed.issuedAt request.method request.requestURI
          body =
        canonicalMessage p signed'.agentID signed'.nonce signed'.issuedAt request'.method
          request'.requestURI body' →
      signed.agentID = signed'.agentID ∧ signed.nonce = signed'.nonce ∧
        unix signed.issuedAt = unix signed'.issuedAt ∧
        p.toUpper request.method = p.toUpper request'.method ∧
        request.requestURI = request'.requestURI ∧ p.sha256 body = p.sha256 body') ∧
    (∀ (client : ControllerClient) (nonce operation method uri : String) (body : List UInt8)
      (issuedAt now : Int) (request : Request),
      client.signedJSON p (.ok nonce) operation method (some body) (some uri) issuedAt = .ok request →
      method ≠ "" → int64 (unix issuedAt) = some (unix issuedAt) → body.length ≤ maxSignedBody →
      InWindow issuedAt now →
      ∃ signed, parseSignedRequest request = .ok signed ∧ request.readBody = .ok body ∧
        canonicalMessage p signed.agentID signed.nonce signed.issuedAt request.method request.requestURI
            body =
          canonicalMessage p client.agentID nonce issuedAt method uri body ∧
        ∀ publicKey : PublicKey,
          verify p publicKey signed request.method request.requestURI body now =
            if p.ed25519Verify publicKey
                (canonicalMessage p client.agentID nonce issuedAt method uri body)
                (client.sign (canonicalMessage p client.agentID nonce issuedAt method uri body)).toList =
                false then
              .error (.invalid "agent request signature verification failed")
            else .ok ()) := by
  constructor
  · intro request request' signed signed' body body' hbreaks hbreaks' hparse hparse' hmessage
    obtain ⟨hid, hnonce, -⟩ := parseSignedRequest_ok hparse
    obtain ⟨hid', hnonce', -⟩ := parseSignedRequest_ok hparse'
    exact canonicalMessage_inj (hid ▸ hbreaks.get _) (hid' ▸ hbreaks'.get _) (hnonce ▸ hbreaks.get _)
      (hnonce' ▸ hbreaks'.get _) (parseSignedRequest_int64 hparse) (parseSignedRequest_int64 hparse')
      hbreaks.2.2 hbreaks'.2.2 hmessage
  · intro client nonce operation method uri body issuedAt now request hrequest hmethod htime hbody hwindow
    obtain ⟨_, _, _, hanswer, hencoded, huri, hnonce, rfl⟩ := ControllerClient.signedJSON_ok hrequest
    cases hanswer
    cases hencoded
    cases huri
    have hsame : (client.signed p nonce issuedAt method uri body).method = method := if_neg hmethod
    refine ⟨_, ControllerClient.parseSignedRequest_signed hnonce htime method uri body,
      ControllerClient.readBody_signed hbody, ?_, fun publicKey => ?_⟩
    · rw [hsame]
      unfold canonicalMessage
      rw [unix_fromUnix]
      rfl
    · rw [verify_eq, if_pos hwindow, hsame]
      rfl

/-! An Agent asks for the next offer half a second after the start of a second. -/

def sampleClient : ControllerClient where
  agentID := "AAAAAAAAAAAAAAAAAAAAAA"
  valid := by decide +kernel
  sign := fun _ => Vector.replicate 64 0

def sampleNonce : String := "AAAAAAAAAAAAAAAAAAAAAAAAAAAAAAAAAAAAAAAAAAA"

theorem sampleNonce_valid : validOpaqueID sampleNonce 32 = true := by decide +kernel

/-- The Agent's request with this body. -/
def postRequest (p : Primitives) (body : List UInt8) : Request :=
  sampleClient.signed p sampleNonce (second / 2) "POST" "/api/v1/agent/offers/next" body

def pollRequest (p : Primitives) : Request := postRequest p [123, 125]

theorem signedJSON_post (p : Primitives) (body : List UInt8) :
    sampleClient.signedJSON p (.ok sampleNonce) "poll" "POST" (some body)
      (some "/api/v1/agent/offers/next") (second / 2) = .ok (postRequest p body) := by
  have hchallenge : challenge (.ok sampleNonce) = .ok sampleNonce := by
    simp [challenge, sampleNonce_valid]
  unfold ControllerClient.signedJSON
  rfl

theorem parseSignedRequest_poll (p : Primitives) :
    parseSignedRequest (pollRequest p) =
      .ok ⟨sampleClient.agentID, sampleNonce, fromUnix (unix (second / 2)),
        (Vector.replicate 64 (0 : UInt8)).toList⟩ :=
  ControllerClient.parseSignedRequest_signed sampleNonce_valid (by decide +kernel) _ _ _

/-- A server whose clock is 89 seconds ahead. -/
theorem canonicalMessage_determines_of_poll : ∀ p : Primitives,
    (pollRequest p).Unbroken ∧ InWindow (second / 2) (second / 2 + 89 * second) ∧
    (∃ signed, parseSignedRequest (pollRequest p) = .ok signed ∧
      (pollRequest p).readBody = .ok [123, 125]) ∧
    ∀ request signed body, request.Unbroken → parseSignedRequest request = .ok signed →
      canonicalMessage p signed.agentID signed.nonce signed.issuedAt request.method request.requestURI
          body =
        canonicalMessage p sampleClient.agentID sampleNonce (fromUnix (unix (second / 2))) "POST"
          "/api/v1/agent/offers/next" [123, 125] →
      signed.nonce = sampleNonce ∧ request.requestURI = "/api/v1/agent/offers/next" := by
  intro p
  have hunbroken : (pollRequest p).Unbroken := by
    have hsignature : encodeRaw (Vector.replicate 64 (0 : UInt8)).toList =
        String.ofList (List.replicate 86 'A') := by decide +kernel
    show (∀ header ∈ [("Content-Type", "application/json"), ("User-Agent", "scwebvpn-agent/1"),
      ("X-WebVPN-Agent-ID", "AAAAAAAAAAAAAAAAAAAAAA"), ("X-WebVPN-Nonce", sampleNonce),
      ("X-WebVPN-Issued-At", toString (unix (second / 2))),
      ("X-WebVPN-Signature", encodeRaw (Vector.replicate 64 (0 : UInt8)).toList)], _) ∧
      '\r' ∉ "/api/v1/agent/offers/next".toList ∧ '\n' ∉ "/api/v1/agent/offers/next".toList
    decide +kernel
  obtain ⟨hdetermines, hbuilt⟩ := canonicalMessage_determines p
  obtain ⟨signed, hparse, hbody, -⟩ := hbuilt sampleClient sampleNonce "poll" "POST"
    "/api/v1/agent/offers/next" [123, 125] (second / 2) (second / 2 + 89 * second) _
    (signedJSON_post p _) (by decide) (by decide +kernel) (by decide) (by decide +kernel)
  refine ⟨hunbroken, by decide +kernel, ⟨signed, hparse, hbody⟩, ?_⟩
  intro request signed body hbreaks hparse hmessage
  obtain ⟨-, hnonce, -, -, huri, -⟩ := hdetermines request (pollRequest p) signed _ body [123, 125]
    hbreaks hunbroken hparse (parseSignedRequest_poll p) hmessage
  exact ⟨hnonce, huri⟩

/-- The clocks differ by 90 seconds, but the time in the headers is half a second earlier: no message is
    formed.  None is formed either of a request whose body is one byte too long. -/
theorem outside_window : (second / 2 + 90 * second) - second / 2 = maxClockSkew ∧
    ∀ p : Primitives,
    (sampleClient.signedJSON p (.ok sampleNonce) "poll" "POST" (some [123, 125])
      (some "/api/v1/agent/offers/next") (second / 2) = .ok (pollRequest p) ∧
    ∃ signed, parseSignedRequest (pollRequest p) = .ok signed ∧
      ∀ publicKey : PublicKey,
        verify p publicKey signed (pollRequest p).method (pollRequest p).requestURI [123, 125]
            (second / 2 + 90 * second) =
          .error (.invalid "agent request timestamp is outside the permitted window")) ∧
    ∀ body : List UInt8, body.length = maxSignedBody + 1 →
      sampleClient.signedJSON p (.ok sampleNonce) "poll" "POST" (some body)
        (some "/api/v1/agent/offers/next") (second / 2) = .ok (postRequest p body) ∧
      (postRequest p body).readBody = .error (.invalid "signed request body is too large") := by
  refine ⟨by decide, fun p => ⟨⟨signedJSON_post p _, _, parseSignedRequest_poll p, fun publicKey => ?_⟩,
    fun body hbody => ⟨signedJSON_post p body, if_pos hbody.ge⟩⟩⟩
  rw [verify_eq, if_neg (by decide +kernel)]

end WebVPN.Identity
