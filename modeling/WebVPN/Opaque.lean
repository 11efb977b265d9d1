import WebVPN.Library.Radix

namespace WebVPN

open WebVPN.Library

/-!
# Identifiers, digests and tokens

Agents, services, browser sessions and signaling sessions have 128-bit identifiers in
unpadded URL-safe base64; each package has its own copy of `validOpaqueID` and `randomID`.
A capability token is 256 random bits in the same encoding, and only its digest is stored
(`internal/session/token.go`).  The random bytes are arguments.
-/

/-! ### Identifiers -/

/-- A 128-bit identifier in unpadded URL-safe base64. -/
def decodeID (value : String) : Option (List UInt8) := rawDecode urlAlphabet value.toList

def validOpaqueID (value : String) : Bool :=
  match decodeID value with
  | some decoded => decoded.length = 16
  | none => false

/-- `base64.RawURLEncoding.EncodeToString`. -/
def encodeRaw (raw : List UInt8) : String := String.ofList (writeDigits urlAlphabet (encode64 raw))

/-- Decoding what was encoded. -/
theorem rawDecode_encodeRaw (raw : List UInt8) :
    rawDecode urlAlphabet (encodeRaw raw).toList = some raw := by
  rw [encodeRaw, String.toList_ofList]
  exact rawDecode_writeDigits (by decide +kernel) rfl (by decide +kernel) raw

/-- `randomID`; `raw` is what the random source returned. -/
def randomID (raw : Vector UInt8 16) : String := encodeRaw raw.toList

/-! ### Digests and tokens -/

/-- A SHA-256 digest. -/
abbrev Digest := Vector UInt8 32

theorem size_toArray_of_length {bytes : List UInt8} (h : bytes.length = 32) : bytes.toArray.size = 32 := by
  simpa using h

/-- The digest with these bytes, if there are 32 of them. -/
def Digest.ofBytes (bytes : List UInt8) : Option Digest :=
  if h : bytes.length = 32 then some ⟨bytes.toArray, size_toArray_of_length h⟩ else none

/-- The zero value of a digest stands for "no digest". -/
def Digest.zero : Digest := Vector.replicate 32 0

/-- `ValidateToken`. -/
def validateToken (value : String) : Bool :=
  match rawDecode urlAlphabet value.toList with
  | some raw => raw.length = 32
  | none => false

/-- `HashToken`. -/
def hashToken (sha256 : List UInt8 → Digest) (value : String) : Digest :=
  sha256 ("scwebvpn-session-v1\x00" ++ value).toUTF8.data.toList

/-- `NewToken`: the token and its digest. -/
def newToken (sha256 : List UInt8 → Digest) (raw : Vector UInt8 32) : String × Digest :=
  (encodeRaw raw.toList, hashToken sha256 (encodeRaw raw.toList))

end WebVPN
