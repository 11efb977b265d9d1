import WebVPN.Library.Text
import WebVPN.Opaque

namespace WebVPN.Signaling

open WebVPN.Library

/-!
# Signaling — what browser, Controller and Agent exchange

* `Description`, `validateDescription` — a session description and its check
  (`internal/signal/description.go`);
* `Offer` — what the Controller hands to an Agent (`internal/signaling/broker.go`).
-/

/-! ### Session descriptions -/

/-- The limit for a description. -/
def maxSDPSize : Nat := 512 * 2 ^ 10
/-- The limit for its candidates. -/
def maxCandidateLines : Nat := 128

/-- A session description. -/
structure Description where
  type : String
  sdp : String
deriving DecidableEq, Repr

/-- `strings.Contains`. -/
def containsText (text pattern : List Char) : Bool :=
  match text with
  | [] => pattern = []
  | c :: rest => pattern.isPrefixOf (c :: rest) || containsText rest pattern

/-- The loop over the lines; `candidates` is the number of candidate lines so far. -/
def validateLines (u : Unicode) : Nat → List (List Char) → Except String Unit
  | _, [] => .ok ()
  | candidates, rawLine :: rawLines =>
    let line := (u.toLower (String.ofList (trimSpace rawLine))).toList
    if "a=candidate:".toList.isPrefixOf line = false then validateLines u candidates rawLines
    else do
      reject (maxCandidateLines < candidates + 1) "too many ICE candidates"
      reject (containsText (' ' :: line ++ [' ']) " typ relay ".toList)
        "relay ICE candidates are forbidden"
      validateLines u (candidates + 1) rawLines

/-- `ValidateDescription`. -/
def validateDescription (u : Unicode) (description : Description) (expectedType : String) :
    Except String Unit := do
  reject (description.type ≠ expectedType) "unexpected session description type"
  reject (description.sdp.utf8ByteSize = 0 ∨ maxSDPSize < description.sdp.utf8ByteSize ∨
    '\x00' ∈ description.sdp.toList) "invalid session description size or encoding"
  validateLines u 0 (splitChar '\n' description.sdp.toList)

/-! ### Offers -/

/-- A digest in the text form of an offer. -/
def encodeDigest (digest : Digest) : String := encodeRaw digest.toList

/-- `decodeCapabilityDigest`. -/
def decodeCapabilityDigest (value : String) : Option Digest :=
  match rawDecode urlAlphabet value.toList with
  | some decoded => Digest.ofBytes decoded
  | none => none

/-- The Agent reads the digest that the Controller has written. -/
theorem decodeCapabilityDigest_encodeDigest (digest : Digest) :
    decodeCapabilityDigest (encodeDigest digest) = some digest := by
  rw [decodeCapabilityDigest, encodeDigest, rawDecode_encodeRaw]
  have hlen : digest.toList.length = 32 := Vector.length_toList
  simp only [Digest.ofBytes, dif_pos hlen, Option.some.injEq]
  exact Vector.toArray_inj.mp (Array.toArray_toList)

/-- What `Next` returns to an Agent. -/
structure Offer where
  id : String
  browserSessionID : String
  serviceID : String
  capabilityDigest : String
  offer : Description
  restartOf : String
  temporary : Bool
deriving DecidableEq, Repr

end WebVPN.Signaling
