import WebVPN.Library.Text
import WebVPN.Opaque

namespace WebVPN.Catalog

open WebVPN.Library

/-!
# Catalog — services

A service of the catalog and its check (`internal/catalog/service.go`).
-/

/-- A service of the catalog. -/
structure Service where
  id : String
  agentID : String
  slug : String
  displayName : String
  kind : String
  policyRef : String
  enabled : Bool
  temporary : Bool
deriving DecidableEq, Repr

/-- The kinds of services. -/
def allowedKinds : List String := ["http", "https", "guacamole"]

/-- A letter or digit of a slug. -/
def slugAlphanumeric (c : Char) : Bool := ('a' ≤ c ∧ c ≤ 'z') || ('0' ≤ c ∧ c ≤ '9')

/-- `slugPattern`: 1 to 63 letters, digits and hyphens, without a hyphen at either end. -/
def validSlug (slug : String) : Bool :=
  slug.toList.length ≤ 63 && slug.toList.all (fun c => slugAlphanumeric c || c = '-') &&
    slug.toList.head?.any slugAlphanumeric && slug.toList.getLast?.any slugAlphanumeric

/-- A text of 1 to `limit` bytes without padding, line breaks and NUL. -/
def safeText (limit : Nat) (text : String) : Bool :=
  trimSpace text.toList = text.toList && text ≠ "" && text.utf8ByteSize ≤ limit &&
    !containsAny text.toList ['\r', '\n', '\x00']

/-- `Validate`. -/
def Service.validate (service : Service) : Except String Unit := do
  reject (validOpaqueID service.id = false ∨ validOpaqueID service.agentID = false)
    "service and Agent IDs must be 128-bit opaque values"
  reject (validSlug service.slug = false) "service slug is invalid"
  reject (safeText 80 service.displayName = false)
    "service display name must contain 1 to 80 safe bytes"
  reject (service.kind ∉ allowedKinds) "service kind is invalid"
  reject (safeText 120 service.policyRef = false)
    "service policy reference must contain 1 to 120 safe bytes"

/-- `randomTemporarySlug`; `raw` is what the random source returned. -/
def randomTemporarySlug (raw : Vector UInt8 16) : String :=
  String.ofList ("tmp-".toList ++ (writeDigits base32Alphabet (encode32 raw.toList)).map asciiLower)

end WebVPN.Catalog
