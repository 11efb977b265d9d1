import WebVPN.Library.System
import WebVPN.Storage.Store

namespace WebVPN.Session

open WebVPN.Library WebVPN.Catalog WebVPN.Storage WebVPN.Storage.Store

/-!
# Session — the catalog manager and the session service

The operations of `internal/catalog/service.go` and `internal/session/service.go` on the
store, and the system of all of them, one after the other, under a clock that never goes
back.

* `Manager.create`, `Manager.createTemporary` — services;
* `create`, `lookup`, `revoke`, `revokeAll` — browser sessions;
* `State.step`, `storeSystem` — sequential runs.

The random bytes are arguments.  `create` reads the clock twice.
-/

/-- How long a session lasts without use. -/
def idleTTL : Int := 30 * minute
/-- How long a session lasts at most. -/
def absoluteTTL : Int := 120 * minute

/-! ### The catalog manager -/

/-- What a new service is to be. -/
structure CreateRequest where
  agentID : String
  slug : String
  displayName : String
  kind : String
  policyRef : String
deriving DecidableEq, Repr

/-- What a new temporary service is to be. -/
structure CreateTemporaryRequest where
  agentID : String
  displayName : String
  kind : String
deriving DecidableEq, Repr

/-- `Manager.Create`. -/
def Manager.create (store : Store) (request : CreateRequest) (raw : Vector UInt8 16) (now : Int) :
    Store × Except StoreError Service :=
  let service : Service := ⟨randomID raw, request.agentID, request.slug, request.displayName,
    request.kind, request.policyRef, true, false⟩
  match service.validate with
  | .error message => (store, .error (.invalid message))
  | .ok () =>
    match store.createService service now with
    | (store, .error e) => (store, .error e)
    | (store, .ok ()) => (store, .ok service)

/-- `Manager.CreateTemporary`. -/
def Manager.createTemporary (store : Store) (owner : Digest) (request : CreateTemporaryRequest)
    (raw rawSlug : Vector UInt8 16) (now : Int) : Store × Except StoreError Service :=
  if owner = Digest.zero then (store, .error (.invalid "temporary service owner is required"))
  else
    let service : Service := ⟨randomID raw, request.agentID, randomTemporarySlug rawSlug,
      request.displayName, request.kind, "temporary", true, true⟩
    match service.validate with
    | .error message => (store, .error (.invalid message))
    | .ok () =>
      match store.createTemporaryService service owner now (now + 30 * minute)
          (now + 120 * minute) with
      | (store, .error e) => (store, .error e)
      | (store, .ok ()) => (store, .ok service)

/-! ### The session service -/

/-- A new session with its token. -/
structure Created where
  record : Record
  token : String
deriving DecidableEq, Repr

section Sessions

variable (sha256 : List UInt8 → Digest) (store : Store)

/-- The record of a new session. -/
def newRecord (target : Service) (userDigest : Digest) (id : String) (tokenDigest : Digest)
    (now : Int) : Record where
  id := id
  tokenDigest := tokenDigest
  userDigest := userDigest
  agentID := target.agentID
  serviceID := target.id
  temporary := target.temporary
  temporaryHost := ""
  createdAt := now
  lastSeenAt := now
  expiresAt := now + idleTTL
  absoluteExpiresAt := now + absoluteTTL

/-- `Service.Create`; `now` is the first clock reading, `later` the second. -/
def create (userDigest : Digest) (serviceID : String) (raw : Vector UInt8 16)
    (rawToken : Vector UInt8 32) (now later : Int) : Store × Except StoreError Created :=
  match store.authorizedService serviceID userDigest now with
  | (store, .error e) => (store, .error e)
  | (store, .ok target) =>
    if target.enabled = false then (store, .error .notFound)
    else
      let record := newRecord target userDigest (randomID raw) (newToken sha256 rawToken).2 later
      match store.createBrowserSession record with
      | (store, .error e) => (store, .error e)
      | (store, .ok ()) => (store, .ok ⟨record, (newToken sha256 rawToken).1⟩)

/-- The first half of `Service.Lookup`: the session that a token opens. -/
def presented (id : String) (userDigest : Digest) (token : String) (now : Int) : Option Record :=
  if validateToken token = false then none
  else (store.browserSession id userDigest now).filter
    (fun record => record.tokenDigest = hashToken sha256 token)

/-- `Service.Lookup`. -/
def lookup (id : String) (userDigest : Digest) (token : String) (now : Int) :
    Store × Except StoreError Record :=
  match presented sha256 store id userDigest token now with
  | none => (store, .error .notFound)
  | some record =>
    match store.authorizedService record.serviceID userDigest now with
    | (store, .error _) => (store, .error .notFound)
    | (store, .ok target) =>
      if target.agentID ≠ record.agentID ∨ target.temporary ≠ record.temporary then
        (store, .error .notFound)
      else
        let nextExpiry := notAfter (now + idleTTL) record.absoluteExpiresAt
        match store.touchBrowserSession id userDigest now nextExpiry with
        | (store, .error e) => (store, .error e)
        | (store, .ok ()) => (store, .ok { record with lastSeenAt := now, expiresAt := nextExpiry })

/-- The service that `Lookup` gets from `AuthorizedService`. -/
def lookupAccess (id : String) (userDigest : Digest) (token : String) (now : Int) :
    Option String :=
  match presented sha256 store id userDigest token now with
  | none => none
  | some record =>
    match (store.authorizedService record.serviceID userDigest now).2 with
    | .error _ => none
    | .ok target => some target.id

end Sessions

/-! ### Sequential runs -/

/-- The clock and the database. -/
structure State where
  clock : Int
  store : Store

/-- The operations of the services, and the passing of time. -/
inductive Action
  | advance (duration : Nat)
  | createService (request : CreateRequest) (raw : Vector UInt8 16)
  | createTemporary (owner : Digest) (request : CreateTemporaryRequest) (raw rawSlug : Vector UInt8 16)
  | authorizedService (serviceID : String) (owner : Digest)
  | temporaryServiceBySlug (slug : String) (owner : Digest)
  | revokeTemporaryServices (owner : Digest)
  | listServices
  /-- `delay` passes between the two clock readings. -/
  | create (userDigest : Digest) (serviceID : String) (raw : Vector UInt8 16)
    (rawToken : Vector UInt8 32) (delay : Nat)
  | lookup (id : String) (userDigest : Digest) (token : String)
  | revoke (id : String) (userDigest : Digest)
  | revokeAll (userDigest : Digest)
deriving DecidableEq

/-- What an operation returned.  The operations that ask `AuthorizedService` say at which time
    and, where their own result does not show it, which service it returned. -/
inductive Event
  | silent
  | serviceCreated (outcome : Except StoreError Service)
  | temporaryCreated (owner : Digest) (now : Int) (outcome : Except StoreError Service)
  | authorized (owner : Digest) (now : Int) (outcome : Except StoreError Service)
  | temporariesRevoked (owner : Digest)
  | listed (services : List Service)
  | created (accessed : Option String) (now : Int) (outcome : Except StoreError Created)
  | lookedUp (id : String) (accessed : Option String) (now : Int)
    (outcome : Except StoreError Record)
  | revoked (id : String) (userDigest : Digest) (outcome : Except StoreError Unit)
  | allRevoked (userDigest : Digest)
deriving DecidableEq

/-- The session that a successful `Create` returned. -/
def Event.session? : Event → Option Created
  | .created _ _ (.ok session) => some session
  | _ => none

/-- The session that a successful `Lookup` returned. -/
def Event.found? : Event → Option Record
  | .lookedUp _ _ _ (.ok record) => some record
  | _ => none

namespace State

variable (sha256 : List UInt8 → Digest) (s : State)

/-- An operation without further effect on the clock. -/
def after {α : Type} (result : Store × α) (event : α → Event) : State × Event :=
  ({ s with store := result.1 }, event result.2)

/-- One operation. -/
def step : Action → State × Event
  | .advance duration => ({ s with clock := s.clock + duration }, .silent)
  | .createService request raw =>
    s.after (Manager.create s.store request raw s.clock) .serviceCreated
  | .createTemporary owner request raw rawSlug =>
    s.after (Manager.createTemporary s.store owner request raw rawSlug s.clock)
      (.temporaryCreated owner s.clock)
  | .authorizedService serviceID owner =>
    s.after (s.store.authorizedService serviceID owner s.clock) (.authorized owner s.clock)
  | .temporaryServiceBySlug slug owner =>
    s.after (s.store.temporaryServiceBySlug slug owner s.clock) (.authorized owner s.clock)
  | .revokeTemporaryServices owner =>
    s.after (s.store.revokeTemporaryServices owner, ()) (fun _ => .temporariesRevoked owner)
  | .listServices => s.after (s.store, s.store.listServices) .listed
  | .create userDigest serviceID raw rawToken delay =>
    let (s', e) := s.after
      (Session.create sha256 s.store userDigest serviceID raw rawToken s.clock (s.clock + delay))
      (.created (((s.store.authorizedService serviceID userDigest s.clock).2.toOption).map Service.id)
        s.clock)
    ({ s' with clock := s.clock + delay }, e)
  | .lookup id userDigest token =>
    s.after (Session.lookup sha256 s.store id userDigest token s.clock)
      (.lookedUp id (lookupAccess sha256 s.store id userDigest token s.clock) s.clock)
  | .revoke id userDigest =>
    s.after (s.store.revokeBrowserSession id userDigest s.clock) (.revoked id userDigest)
  | .revokeAll userDigest =>
    s.after (s.store.revokeBrowserSessions userDigest s.clock, ()) (fun _ => .allRevoked userDigest)

end State

/-- Sequential runs from a store that has Agents and nothing else. -/
def storeSystem (sha256 : List UInt8 → Digest) (agents : Table AgentRow.id) (start : Int) :
    System State Action Event where
  init := ⟨start, ⟨agents, Table.empty, Table.empty⟩⟩
  step s a := some (s.step sha256 a)

end WebVPN.Session
