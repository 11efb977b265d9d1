import WebVPN.Controller.Server
import WebVPN.Library.Json
import WebVPN.Signaling.Candidates

namespace WebVPN.Controller

open WebVPN.Library WebVPN.Signaling

/-!
# Controller — offers on their way to the Agent

`decodeJSON` and `writeJSON` of `internal/controller/server.go`, and `decodeControllerJSON` of
`internal/agent/controller_client.go`.  The text of a session description is counted three times: as it
comes in the request, by itself, and as it goes out to the Agent, where the Controller escapes more than
the browser does.

* `decodeJSON` — a request body of at most 1 MiB; `offerBody` — what `nextOffer` writes;
* `decodeControllerJSON` — what the Agent makes of it;
* `Offer.responseSize` — the size of the response in terms of the strings of the offer;
* `nextOffer_delivered` — an offer that the broker has accepted is delivered exactly when this is at most
  1 MiB; `delivered_generated_iff` — in terms of the description alone;
* `undelivered_offer` — a request that the Controller accepts and whose offer cannot be delivered.

A nesting deeper than 10000, which `encoding/json` refuses, is refused here because no field has such a
value.
-/

/-! ### Structs -/

/-- The fields of a session description. -/
def descriptionFields : List (StructField Description) :=
  [stringField "type" Description.type (fun text d => { d with type := text }),
    stringField "sdp" Description.sdp (fun text d => { d with sdp := text })]

/-- The fields of `connectionRequest`. -/
def connectionFields (u : Unicode) : List (StructField ConnectionRequest) :=
  [stringField "service_id" ConnectionRequest.serviceID (fun text r => { r with serviceID := text }),
    stringField "browser_session_id" ConnectionRequest.browserSessionID
      (fun text r => { r with browserSessionID := text }),
    stringField "capability" ConnectionRequest.capability (fun text r => { r with capability := text }),
    ⟨"offer", fun value r =>
      (decodeStruct u descriptionFields value r.offer).map (fun offer => { r with offer := offer })⟩,
    stringField "restart_of" ConnectionRequest.restartOf (fun text r => { r with restartOf := text })]

/-- The fields of an offer, as the Agent reads it. -/
def offerFields (u : Unicode) : List (StructField Offer) :=
  [stringField "id" Offer.id (fun text o => { o with id := text }),
    stringField "browser_session_id" Offer.browserSessionID
      (fun text o => { o with browserSessionID := text }),
    stringField "service_id" Offer.serviceID (fun text o => { o with serviceID := text }),
    stringField "capability_digest" Offer.capabilityDigest
      (fun text o => { o with capabilityDigest := text }),
    ⟨"offer", fun value o =>
      (decodeStruct u descriptionFields value o.offer).map (fun offer => { o with offer := offer })⟩,
    stringField "restart_of" Offer.restartOf (fun text o => { o with restartOf := text }),
    ⟨"temporary", fun value o =>
      (decodeBool value o.temporary).map (fun temporary => { o with temporary := temporary })⟩]

/-- The zero values. -/
def noRequest : ConnectionRequest := ⟨"", "", "", ⟨"", ""⟩, ""⟩
/-- The zero value. -/
def noOffer : Offer := ⟨"", "", "", "", ⟨"", ""⟩, "", false⟩

/-! ### Reading and writing -/

/-- The limit for the body of a request. -/
def maxJSONBody : Nat := 2 ^ 20
/-- The limit for what the Agent reads. -/
def maxControllerResponse : Nat := 2 ^ 20

/-- `decodeJSONBytes`, and the end of `decodeControllerJSON`: one value, and nothing after it. -/
def decodeJSONBytes {α : Type} (u : Unicode) (fields : List (StructField α)) (zero : α) (body : ByteArray) :
    Option α :=
  (parseJSON (decodeRunes body)).bind (fun value => decodeStruct u fields value zero)

/-- `decodeJSON`, for `createConnection`. -/
def decodeJSON (u : Unicode) (body : ByteArray) : Option ConnectionRequest :=
  if maxJSONBody < body.size then none else decodeJSONBytes u (connectionFields u) noRequest body

/-- `decodeControllerJSON`, for `NextOffer`. -/
def decodeControllerJSON (u : Unicode) (body : ByteArray) : Option Offer :=
  if maxControllerResponse < body.size then none else decodeJSONBytes u (offerFields u) noOffer body

/-- A field with a struct. -/
def structMember (e : Escapes) (name : String) (fields : List Member) : Member where
  name := name
  text := objectText e (fields.map Member.written)
  value := .object (fields.map Member.read)
  reads := reads_object e fields

/-- A session description as it is written. -/
def descriptionMembers (e : Escapes) (description : Description) : List Member :=
  [textMember e "type" description.type, textMember e "sdp" description.sdp]

/-- The fields of an offer; `restart_of` and `temporary` are left out when they are empty. -/
def offerMembers (offer : Offer) : List Member :=
  [textMember .go "id" offer.id, textMember .go "browser_session_id" offer.browserSessionID,
    textMember .go "service_id" offer.serviceID, textMember .go "capability_digest" offer.capabilityDigest,
    structMember .go "offer" (descriptionMembers .go offer.offer)] ++
  (if offer.restartOf = "" then [] else [textMember .go "restart_of" offer.restartOf]) ++
  (if offer.temporary then [⟨"temporary", "true".toList, .bool true, reads_true⟩] else [])

/-- `writeJSON`: the encoder ends the text with a line end. -/
def writeJSON (text : List Char) : ByteArray := (String.ofList (text ++ ['\n'])).toUTF8

/-- What `nextOffer` writes. -/
def offerBody (offer : Offer) : ByteArray :=
  writeJSON (objectText .go ((offerMembers offer).map Member.written))

/-! ### The Agent reads what was written -/

/-- The text of a struct, by itself or with a line end after it. -/
theorem decodeJSONBytes_written {α : Type} (u : Unicode) (fields : List (StructField α)) (zero : α) (e : Escapes)
    (members : List Member) :
    decodeJSONBytes u fields zero (String.ofList (objectText e (members.map Member.written))).toUTF8
      = decodeStruct u fields (.object (members.map Member.read)) zero ∧
    decodeJSONBytes u fields zero (writeJSON (objectText e (members.map Member.written)))
      = decodeStruct u fields (.object (members.map Member.read)) zero := by
  obtain ⟨hparse, hline⟩ := (reads_object e members).parseJSON
  constructor
  · rw [decodeJSONBytes, decodeRunes_toUTF8, hparse, Option.bind_some]
  · rw [decodeJSONBytes, writeJSON, decodeRunes_toUTF8, hline, Option.bind_some]

/-- **Every offer is read back**, if it is not too long. -/
theorem decodeStruct_offer (u : Unicode) (offer : Offer) :
    decodeStruct u (offerFields u) (.object ((offerMembers offer).map Member.read)) noOffer = some offer := by
  obtain ⟨id, browserSessionID, serviceID, capabilityDigest, description, restartOf, temporary⟩ := offer
  by_cases hrestart : restartOf = "" <;> cases temporary <;> simp only [offerMembers, hrestart]
  all_goals rfl

/-! ### How long the response is -/

/-- The size of the response. -/
def Offer.responseSize (offer : Offer) : Nat :=
  102 + escapedSize .go offer.id + escapedSize .go offer.browserSessionID +
    escapedSize .go offer.serviceID + escapedSize .go offer.capabilityDigest +
    escapedSize .go offer.offer.type + escapedSize .go offer.offer.sdp +
    (if offer.restartOf = "" then 0 else 16 + escapedSize .go offer.restartOf) +
    (if offer.temporary then 17 else 0)

theorem size_writeJSON (text : List Char) : (writeJSON text).size = String.utf8Len text + 1 := by
  rw [writeJSON, size_toUTF8, String.utf8Len_append]
  rfl

theorem utf8Len_description (e : Escapes) (description : Description) :
    String.utf8Len (objectText e ((descriptionMembers e description).map Member.written))
      = escapedSize e "type" + escapedSize e "sdp" + escapedSize e description.type +
        escapedSize e description.sdp + 13 := by
  rw [utf8Len_objectText (by simp [descriptionMembers])]
  simp only [descriptionMembers, List.map_cons, List.map_nil, Member.written, textMember, utf8Len_quote,
    List.sum_cons, List.sum_nil]
  omega

theorem size_offerBody (offer : Offer) : (offerBody offer).size = Offer.responseSize offer := by
  have hnames : escapedSize .go "id" = 2 ∧ escapedSize .go "browser_session_id" = 18 ∧
      escapedSize .go "service_id" = 10 ∧ escapedSize .go "capability_digest" = 17 ∧
      escapedSize .go "offer" = 5 ∧ escapedSize .go "type" = 4 ∧ escapedSize .go "sdp" = 3 ∧
      escapedSize .go "restart_of" = 10 ∧ escapedSize .go "temporary" = 9 := by
    decide +kernel
  have htrue : String.utf8Len "true".toList = 4 := by decide
  rw [offerBody, size_writeJSON, utf8Len_objectText (by simp [offerMembers])]
  simp only [offerMembers, List.map_append, List.sum_append, List.map_cons, List.map_nil, List.sum_cons,
    List.sum_nil, Member.written, textMember, structMember, utf8Len_quote, utf8Len_description, hnames,
    Offer.responseSize]
  by_cases hrestart : offer.restartOf = "" <;> cases htemporary : offer.temporary
  all_goals simp only [hrestart, if_true, if_false, Bool.false_eq_true, List.map_cons, List.map_nil,
    List.sum_cons, List.sum_nil, Member.written, hnames, htrue, utf8Len_quote]
  all_goals omega

/-! ### Delivery -/

/-- The response is within the Agent's limit, and the Agent reads the offer. -/
def Delivered (u : Unicode) (offer : Offer) : Prop :=
  (offerBody offer).size ≤ maxControllerResponse ∧ decodeControllerJSON u (offerBody offer) = some offer

theorem delivered_iff (u : Unicode) (offer : Offer) :
    Delivered u offer ↔ Offer.responseSize offer ≤ maxControllerResponse := by
  rw [Delivered, size_offerBody]
  constructor
  · exact And.left
  · intro hsize
    refine ⟨hsize, ?_⟩
    have hlimit : ¬ maxControllerResponse < (offerBody offer).size := by
      rw [size_offerBody]
      omega
    rw [decodeControllerJSON, if_neg hlimit, offerBody, (decodeJSONBytes_written _ _ _ _ _).2,
      decodeStruct_offer]

/-- **Accepted offers are delivered when they fit.**  For every request body that the Controller decodes and
    whose offer `Signals.Create` accepts under some ID: what `nextOffer` writes for it is at most 1 MiB and
    the Agent reads the same offer, exactly when the escaped strings are not too long together. -/
theorem nextOffer_delivered (u : Unicode) :
    ∀ (body : ByteArray) (handler : Handler) (sessions : Sessions) (id : String) (now : Int),
      decodeJSON u body = some handler.input → handler.request.check u = .ok () →
      (createLocked sessions handler.request id now).2 = .ok id →
      (Delivered u (handler.request.entry id now).toOffer ↔
        Offer.responseSize (handler.request.entry id now).toOffer ≤ maxControllerResponse) := by
  intro body handler sessions id now _ _ _
  exact delivered_iff u _

/-- What is encoded has only characters that are not escaped. -/
theorem escapedSize_encodeRaw (raw : List UInt8) :
    escapedSize .go (encodeRaw raw) = (8 * raw.length + 5) / 6 := by
  have hbare : ∀ c ∈ (encodeRaw raw).toList, isBare c = true := by
    rw [encodeRaw, String.toList_ofList, writeDigits]
    rintro c hc
    obtain ⟨digit, hdigit, rfl⟩ := List.mem_map.mp hc
    have hall : ∀ d < 64, isBare (urlAlphabet.getD d '=') = true := by decide +kernel
    exact hall digit (mem_groups_lt (by decide) hdigit)
  rw [escapedSize_of_isBare hbare, encodeRaw, String.toList_ofList, writeDigits, List.length_map,
    length_encode64]

/-- **With generated IDs** only the description counts: it may have 1048360 bytes when it is escaped, 38
    less for a restart and 17 less for a temporary service. -/
theorem delivered_generated_iff {u : Unicode} {request : CreateRequest} (hcheck : request.check u = .ok ())
    {raw rawSession rawService rawPrevious : Vector UInt8 16}
    (hsession : request.browserSessionID = randomID rawSession)
    (hservice : request.serviceID = randomID rawService)
    (hrestart : request.restartOf = "" ∨ request.restartOf = randomID rawPrevious) (now : Int) :
    Delivered u (request.entry (randomID raw) now).toOffer ↔
      escapedSize .go request.offer.sdp + (if request.restartOf = "" then 0 else 38) +
        (if request.temporary then 17 else 0) ≤ 1048360 := by
  have hid : ∀ raw : Vector UInt8 16, escapedSize .go (randomID raw) = 22 := by
    intro raw
    rw [randomID, escapedSize_encodeRaw, Vector.length_toList]
  have hdigest : escapedSize .go (encodeDigest request.capabilityDigest) = 43 := by
    rw [encodeDigest, escapedSize_encodeRaw, Vector.length_toList]
  have htype : escapedSize .go request.offer.type = 5 := by
    simp only [CreateRequest.check, validateDescription, then_eq_ok, reject_eq_ok, not_not] at hcheck
    rw [hcheck.2.2.1]
    decide +kernel
  have hprevious : request.restartOf ≠ "" → escapedSize .go request.restartOf = 22 := by
    intro hne
    rw [hrestart.resolve_left hne, hid]
  rw [delivered_iff, Offer.responseSize]
  simp only [Entry.toOffer, CreateRequest.entry, hsession, hservice, hid, hdigest, htype,
    maxControllerResponse]
  by_cases hempty : request.restartOf = ""
  · simp only [if_pos hempty]
    omega
  · simp only [if_neg hempty, hprevious hempty]
    omega

/-! ### A description of angle brackets

In the request every bracket is one byte, in the response it is six. -/

/-- What the browser sends for a new connection: `JSON.stringify` of the service and the offer. -/
def browserBody (serviceID : String) (offer : Description) : ByteArray :=
  (String.ofList (objectText .browser ([textMember .browser "service_id" serviceID,
    structMember .browser "offer" (descriptionMembers .browser offer)].map Member.written))).toUTF8

/-- A description that grows when it is escaped. -/
def brackets (n : Nat) : Description where
  type := "offer"
  sdp := String.ofList (List.replicate n '<')

/-- The handler of a request for a service, with a session that was created for it. -/
def bracketHandler (n : Nat) : Handler where
  sessionDigest := Vector.replicate 32 1
  input := { noRequest with serviceID := randomID (Vector.replicate 16 2), offer := brackets n }
  record := {
    id := randomID (Vector.replicate 16 4)
    tokenDigest := Vector.replicate 32 7
    userDigest := Vector.replicate 32 1
    agentID := randomID (Vector.replicate 16 1)
    serviceID := randomID (Vector.replicate 16 2)
    temporary := false
    temporaryHost := ""
    createdAt := 0
    lastSeenAt := 0
    expiresAt := 300
    absoluteExpiresAt := 3600 }
  capability := ""
  created := true
  pc := .authorized

theorem escapedSize_brackets (e : Escapes) (n : Nat) :
    escapedSize e (brackets n).sdp = n * String.utf8Len (escapeChar e '<') := by
  rw [escapedSize, escapeText, brackets, String.toList_ofList, utf8Len_flatMap, List.map_replicate,
    List.sum_replicate_nat]

theorem size_browserBody (n : Nat) : (browserBody (bracketHandler n).input.serviceID (brackets n)).size
    = 73 + n := by
  have hnames : escapedSize .browser "service_id" = 10 ∧ escapedSize .browser "offer" = 5 ∧
      escapedSize .browser "type" = 4 ∧ escapedSize .browser "sdp" = 3 ∧
      escapedSize .browser (randomID (Vector.replicate 16 2)) = 22 := by
    decide +kernel
  have hbracket : String.utf8Len (escapeChar .browser '<') = 1 := by decide
  rw [browserBody, size_toUTF8, utf8Len_objectText (by simp)]
  simp only [List.map_cons, List.map_nil, List.sum_cons, List.sum_nil, Member.written, textMember,
    structMember, utf8Len_quote, utf8Len_description, bracketHandler, hnames, escapedSize_brackets, hbracket]
  show _ + (5 + (4 + 3 + escapedSize .browser "offer" + n * 1 + 13) + 4 + 0) + 1 = _
  omega

theorem validateDescription_brackets (u : Unicode) {n : Nat} (hpos : 0 < n) (hn : n ≤ maxSDPSize) :
    validateDescription u (brackets n) "offer" = .ok () := by
  have hmem : ∀ c ∈ (brackets n).sdp.toList, c = '<' := by
    intro c hc
    rw [brackets, String.toList_ofList] at hc
    exact List.eq_of_mem_replicate hc
  have hsize : (brackets n).sdp.utf8ByteSize = n := by
    have hone : ∀ m, String.utf8Len (List.replicate m '<') = m := by
      intro m
      induction m with
      | zero => rfl
      | succ m ih =>
        rw [List.replicate_succ, String.utf8Len_cons, ih]
        rfl
    rw [brackets, String.utf8ByteSize_ofList, hone]
  have hsdp : (brackets n).sdp.toList = '<' :: List.replicate (n - 1) '<' := by
    rw [brackets, String.toList_ofList, ← List.replicate_succ, Nat.sub_add_cancel hpos]
  refine validateDescription_of_one_line rfl hsdp (by decide) (by decide) ?_ ?_ ?_
  · exact fun h => absurd (hmem _ h) (by decide)
  · exact fun h => absurd (hmem _ h) (by decide)
  · rw [hsize]
    exact ⟨hpos, hn⟩

/-- The request is decoded, and its offer is accepted. -/
theorem brackets_accepted (u : Unicode) {n : Nat} (hpos : 0 < n) (hn : n ≤ maxSDPSize) :
    decodeJSON u (browserBody (bracketHandler n).input.serviceID (brackets n))
      = some (bracketHandler n).input ∧
    (bracketHandler n).request.check u = .ok () ∧
    (createLocked Table.empty (bracketHandler n).request (randomID (Vector.replicate 16 5)) 0).2
      = .ok (randomID (Vector.replicate 16 5)) := by
  refine ⟨?_, ?_, rfl⟩
  · have hlimit : ¬ maxJSONBody < (browserBody (bracketHandler n).input.serviceID (brackets n)).size := by
      rw [size_browserBody]
      unfold maxJSONBody maxSDPSize at *
      omega
    rw [decodeJSON, if_neg hlimit, browserBody, (decodeJSONBytes_written _ _ _ _ _).1]
    rfl
  · have hids : validOpaqueID (randomID (Vector.replicate 16 1)) = true ∧
        validOpaqueID (randomID (Vector.replicate 16 4)) = true ∧
        validOpaqueID (randomID (Vector.replicate 16 2)) = true := by
      decide +kernel
    have hdigests : (Vector.replicate 32 1 : Digest) ≠ Digest.zero ∧
        (Vector.replicate 32 7 : Digest) ≠ Digest.zero := by
      decide
    simp only [CreateRequest.check, then_eq_ok, reject_eq_ok]
    refine ⟨?_, ?_, validateDescription_brackets u hpos hn⟩
    · simp [bracketHandler, Handler.request, hids]
    · simp [bracketHandler, Handler.request, hdigests]

/-- The size of the response. -/
theorem responseSize_brackets (n : Nat) :
    Offer.responseSize ((bracketHandler n).request.entry (randomID (Vector.replicate 16 5)) 0).toOffer
      = 216 + 6 * n := by
  have hids : escapedSize .go (randomID (Vector.replicate 16 5)) = 22 ∧
      escapedSize .go (randomID (Vector.replicate 16 4)) = 22 ∧
      escapedSize .go (randomID (Vector.replicate 16 2)) = 22 ∧
      escapedSize .go (encodeDigest (Vector.replicate 32 7)) = 43 ∧ escapedSize .go "offer" = 5 := by
    decide +kernel
  have hbracket : String.utf8Len (escapeChar .go '<') = 6 := by decide
  have hsdp := escapedSize_brackets .go n
  simp only [Offer.responseSize, Entry.toOffer, CreateRequest.entry, Handler.request, bracketHandler,
    noRequest, hids, hsdp]
  show 102 + 22 + 22 + 22 + 43 + escapedSize .go "offer" + n * 6 + 0 + 0 = _
  omega

theorem nextOffer_delivered_of_bracket : ∃ (body : ByteArray) (handler : Handler) (id : String),
    decodeJSON .ascii body = some handler.input ∧ handler.request.check .ascii = .ok () ∧
    Delivered .ascii (handler.request.entry id 0).toOffer := by
  obtain ⟨hbody, hcheck, hcreate⟩ := brackets_accepted .ascii (n := 1) (by decide) (by decide +kernel)
  refine ⟨_, _, _, hbody, hcheck, (nextOffer_delivered .ascii _ _ _ _ 0 hbody hcheck hcreate).mpr ?_⟩
  rw [responseSize_brackets]
  decide +kernel

/-- **An accepted offer that cannot be delivered.**  The description has 175000 angle brackets: the request
    is less than 200 kB, the response is over 1 MiB. -/
theorem undelivered_offer : ∃ (body : ByteArray) (handler : Handler) (id : String),
    body.size ≤ maxJSONBody ∧ maxControllerResponse < (offerBody (handler.request.entry id 0).toOffer).size ∧
    ∀ u : Unicode, decodeJSON u body = some handler.input ∧ handler.request.check u = .ok () ∧
      (createLocked Table.empty handler.request id 0).2 = .ok id ∧
      decodeControllerJSON u (offerBody (handler.request.entry id 0).toOffer) = none := by
  have hlarge : maxControllerResponse < (offerBody ((bracketHandler 175000).request.entry
      (randomID (Vector.replicate 16 5)) 0).toOffer).size := by
    rw [size_offerBody, responseSize_brackets]
    decide +kernel
  refine ⟨browserBody (bracketHandler 175000).input.serviceID (brackets 175000), bracketHandler 175000,
    randomID (Vector.replicate 16 5), ?_, hlarge, fun u => ?_⟩
  · rw [size_browserBody]
    decide +kernel
  · obtain ⟨hbody, hcheck, hcreate⟩ := brackets_accepted u (n := 175000) (by decide) (by decide +kernel)
    exact ⟨hbody, hcheck, hcreate, if_pos hlarge⟩

end WebVPN.Controller
