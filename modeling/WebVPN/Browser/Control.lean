import WebVPN.Browser.URL
import WebVPN.Library.Json

namespace WebVPN.Browser

open WebVPN.Library

/-!
# Browser — the client of a control channel

`ControlClient` of `web/src/connection.ts`: requests that wait under their ids, and what becomes of a
message.  `JSON.parse` gives a value whose members are looked up as properties; a member that is not there
is `undefined`.

* `ControlRequest`, `ControlClient.request` — the requests, and the result type each one waits for;
* `ControlClient.receive` — a message closes the channel, is ignored, or resolves a request;
* `ControlClient.receive_result` — a result that a pending request waits for resolves it.
-/

/-! ### Requests -/

/-- The types of results. -/
inductive ResultType
  | diagnostic
  | temporary
deriving DecidableEq, Repr

/-- The type in the message. -/
def ResultType.text : ResultType → String
  | .diagnostic => "diagnostic_result"
  | .temporary => "temporary_result"

/-- The requests of `dns`, `ping` and `configureTemporary`. -/
inductive ControlRequest
  | dns (name : String)
  | ping
  | temporary (target : TemporaryTarget)
deriving DecidableEq, Repr

/-- The type in the message. -/
def ControlRequest.type : ControlRequest → String
  | .dns _ => "dns"
  | .ping => "diagnostic_ping"
  | .temporary _ => "temporary_target"

/-- `expectedType`. -/
def ControlRequest.expectedType : ControlRequest → ResultType
  | .dns _ | .ping => .diagnostic
  | .temporary _ => .temporary

/-- The message of a request: its own members, then the id. -/
def ControlRequest.message (request : ControlRequest) (id : String) : List Char :=
  let members := match request with
    | .dns name => [("name", quote .browser name)]
    | .ping => []
    | .temporary target =>
      [("host", quote .browser target.host), ("port", Nat.toDigits 10 target.port.toNat),
        ("kind", quote .browser target.kind)]
  objectText .browser
    (("type", quote .browser request.type) :: members ++ [("id", quote .browser id)])

/-- The client of a control channel; `pending` is the map from ids to what is waited for. -/
structure ControlClient where
  isOpen : Bool
  pending : List (String × ResultType)
deriving DecidableEq, Repr

namespace ControlClient

/-- `request`, with the id that was drawn for it: the message that is sent, unless the channel is not
    open. -/
def request (client : ControlClient) (id : String) (value : ControlRequest) :
    ControlClient × Option (List Char) :=
  if client.isOpen = false then (client, none)
  else
    ({ client with pending := (id, value.expectedType) :: client.pending.filter (fun entry => entry.1 ≠ id) },
      some (value.message id))

end ControlClient

/-! ### Results -/

/-- `value.length` of a string counts UTF-16 units. -/
def utf16Length (text : List Char) : Nat :=
  (text.map (fun c => if c.toNat < 0x10000 then 1 else 2)).sum

/-- A property of a value; of members with one name the last one counts. -/
def property (name : String) : Json → Option Json
  | .object members => members.reverse.lookup name
  | _ => none

/-- The value is this string. -/
def isText (text : String) : Option Json → Bool
  | some (.string value) => value = text
  | _ => false

/-- What `!` is true of; `isZero` says which number literals stand for zero. -/
def falsy (isZero : String → Bool) : Option Json → Bool
  | none | some .null => true
  | some (.bool value) => !value
  | some (.number literal) => isZero literal
  | some (.string value) => value = ""
  | some (.array _) | some (.object _) => false

/-- The codes that the browser knows. -/
def resultCodes : List String := ["ok", "blocked", "unavailable", "busy", "invalid_request"]

/-- What becomes of a message. -/
inductive Received
  | closed
  | ignored
  | resolved (id : String) (response : Json)

namespace ControlClient

/-- `receive` of a text message. -/
def receive (isZero : String → Bool) (client : ControlClient) (value : List Char) :
    ControlClient × Received :=
  let close : ControlClient × Received := ({ client with isOpen := false }, .closed)
  if 512 < utf16Length value then close
  else
    match parseJSON value with
    | none => close
    | some response =>
      let type := property "type" response
      let id := property "id" response
      if (isText "diagnostic_result" type = false ∧ isText "temporary_result" type = false) ∨
          falsy isZero id = true then close
      else if resultCodes.any (fun code => isText code (property "code" response)) = false then close
      else
        match id with
        | some (.string id) =>
          match client.pending.lookup id with
          | none => (client, .ignored)
          | some expected =>
            if isText expected.text type = false then close
            else
              ({ client with pending := client.pending.filter (fun entry => entry.1 ≠ id) },
                .resolved id response)
        | _ => (client, .ignored)

/-- A result: what `receive` asks of a response to a request. -/
structure IsResult (response : Json) (expected : ResultType) (id : String) : Prop where
  named : id ≠ ""
  type : property "type" response = some (.string expected.text)
  id : property "id" response = some (.string id)
  code : ∃ code ∈ resultCodes, property "code" response = some (.string code)

/-- **A result resolves the request that waits for it.** -/
theorem receive_result {isZero : String → Bool} {client : ControlClient} {value : List Char} {response : Json}
    {expected : ResultType} {id : String} (hsize : utf16Length value ≤ 512)
    (hparse : parseJSON value = some response) (hresult : IsResult response expected id)
    (hpending : client.pending.lookup id = some expected) :
    client.receive isZero value
      = ({ client with pending := client.pending.filter (fun entry => entry.1 ≠ id) },
        .resolved id response) := by
  obtain ⟨code, hmem, hcode⟩ := hresult.code
  have hknown : resultCodes.any (fun code => isText code (property "code" response)) = true := by
    rw [List.any_eq_true]
    exact ⟨code, hmem, by simp [hcode, isText]⟩
  have htype : ¬ ((isText "diagnostic_result" (property "type" response) = false ∧
      isText "temporary_result" (property "type" response) = false) ∨
      falsy isZero (property "id" response) = true) := by
    rw [hresult.type, hresult.id]
    cases expected <;> simp [isText, falsy, ResultType.text, hresult.named]
  have hexpected : isText expected.text (property "type" response) = true := by
    rw [hresult.type]
    exact decide_eq_true rfl
  unfold receive
  simp only [hparse]
  rw [if_neg (by omega), if_neg htype, if_neg (by simp [hknown])]
  simp only [hresult.id, hpending]
  rw [if_neg (by simp [hexpected])]

end ControlClient

/-- No character has more units than bytes. -/
theorem utf16Length_le (text : List Char) : utf16Length text ≤ String.utf8Len text := by
  induction text with
  | nil => exact Nat.le_refl _
  | cons c text ih =>
    have hchar : (if c.toNat < 0x10000 then 1 else 2) ≤ c.utf8Size := by
      split
      · exact Char.utf8Size_pos c
      · rename_i hlarge
        have hfour : c.utf8Size = 4 := by
          rw [Char.utf8Size_eq_four_iff, UInt32.lt_iff_toNat_lt]
          show 65535 < c.toNat
          omega
        omega
    rw [String.utf8Len_cons]
    show (if c.toNat < 0x10000 then 1 else 2) + utf16Length text ≤ _
    omega

end WebVPN.Browser
