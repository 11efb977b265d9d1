import Mathlib.Data.List.Sort
import WebVPN.Catalog.Service
import WebVPN.Library.Table

namespace WebVPN.Storage

open WebVPN.Library WebVPN.Catalog

/-!
# Storage — the tables of services and browser sessions

The statements of `internal/storage/sqlite_store.go` on the tables `agents`, `services` and
`browser_sessions`, with the constraints of the schema, and the store operations made of
them.  A row is stored under its primary key; a `WHERE` clause is a test that a `NULL` fails.

* `Store.expireTemporaryServices`, `Store.selectAuthorized`, `Store.renewService`, … — one
  definition for each statement;
* `Store.authorizedService`, `Store.createTemporaryService`, `Store.browserSession`, … — the
  operations, each with the time it is given.

Times are in nanoseconds, as the clock gives them; the columns hold whole seconds (`unix`).
-/

/-! ### Time -/

/-- Nanoseconds in a second. -/
def second : Int := 10 ^ 9

/-- A minute, in nanoseconds. -/
def minute : Int := 60 * second

/-- `Time.Unix`. -/
def unix (t : Int) : Int := t / second

/-- Times in different seconds are in the order of the seconds. -/
theorem lt_of_unix_lt {t u : Int} (h : unix t < unix u) : t < u := by
  unfold unix second at h
  omega

/-- `time.Unix`, with no nanoseconds. -/
def fromUnix (seconds : Int) : Int := seconds * second

/-- The earlier of two times, as `if next.After(limit) { next = limit }`. -/
def notAfter (next limit : Int) : Int := if limit < next then limit else next

/-! ### Rows -/

/-- The column `state` of `agents`. -/
inductive AgentState
  | active
  | revoked
deriving DecidableEq, Repr

/-- A row of `agents`, as far as services need it. -/
structure AgentRow where
  id : String
  state : AgentState
deriving DecidableEq, Repr

/-- A row of `services`. -/
structure ServiceRow where
  id : String
  agentID : String
  slug : String
  displayName : String
  kind : String
  policyRef : String
  enabled : Bool
  createdAt : Int
  ownerDigest : Option Digest
  expiresAt : Option Int
  absoluteExpiresAt : Option Int
deriving DecidableEq, Repr

/-- A row of `browser_sessions`. -/
structure SessionRow where
  id : String
  tokenDigest : Digest
  userDigest : Digest
  agentID : String
  serviceID : String
  temporaryHost : Option String
  createdAt : Int
  lastSeenAt : Int
  expiresAt : Int
  absoluteExpiresAt : Int
  revokedAt : Option Int
deriving DecidableEq, Repr

/-- The tables. -/
structure Store where
  agents : Table AgentRow.id
  services : Table ServiceRow.id
  sessions : Table SessionRow.id

/-- How an operation fails: the sentinel error of its package, a failed check, or a statement
    that violates a constraint. -/
inductive StoreError
  | notFound
  | invalid (message : String)
  | constraint
deriving DecidableEq, Repr

/-- `sql.NullInt64`, `[]byte` and the like are scanned as the code's own service. -/
def ServiceRow.toService (row : ServiceRow) : Service where
  id := row.id
  agentID := row.agentID
  slug := row.slug
  displayName := row.displayName
  kind := row.kind
  policyRef := row.policyRef
  enabled := row.enabled
  temporary := row.ownerDigest.isSome

namespace Store

variable (store : Store)

/-! ### Services -/

/-- A row that is switched off for good. -/
def disable (row : ServiceRow) : ServiceRow :=
  { row with enabled := false, ownerDigest := none, expiresAt := none, absoluteExpiresAt := none }

/-- A row of a temporary service that is due. -/
def due (now : Int) (row : ServiceRow) : Bool :=
  row.ownerDigest.isSome && row.enabled &&
    (row.expiresAt.any (· ≤ unix now) || row.absoluteExpiresAt.any (· ≤ unix now))

/-- `UPDATE services SET enabled = 0, … WHERE owner_digest IS NOT NULL AND enabled = 1 AND …`. -/
def expireTemporaryServices (now : Int) : Store :=
  { store with services := store.services.update (due now) disable (fun _ => rfl) }

/-- The `WHERE` clause of `AuthorizedService`, without the ID. -/
def authorizes (owner : Digest) (now : Int) (row : ServiceRow) : Bool :=
  row.enabled && (row.ownerDigest = none || (row.ownerDigest = some owner &&
    row.expiresAt.any (unix now < ·) && row.absoluteExpiresAt.any (unix now < ·)))

/-- The query for a service that the owner may use. -/
def selectAuthorized (serviceID : String) (owner : Digest) (now : Int) : Option ServiceRow :=
  (store.services.find? serviceID).filter (authorizes owner now)

/-- The `WHERE` clause of the renewal, with the ID. -/
def renewable (serviceID : String) (owner : Digest) (now next : Int) (row : ServiceRow) : Bool :=
  row.id = serviceID && row.ownerDigest = some owner && row.enabled &&
    row.expiresAt.any (unix now < ·) && row.absoluteExpiresAt.any (unix next ≤ ·)

/-- `UPDATE services SET expires_at = ? WHERE …`, with the number of rows it changed. -/
def renewService (serviceID : String) (owner : Digest) (now next : Int) : Store × Nat :=
  ({ store with
      services := store.services.update (renewable serviceID owner now next)
        (fun row => { row with expiresAt := some (unix next) }) (fun _ => rfl) },
    store.services.rows.countP (renewable serviceID owner now next))

/-- `AuthorizedService`. -/
def authorizedService (serviceID : String) (owner : Digest) (now : Int) :
    Store × Except StoreError Service :=
  let swept := store.expireTemporaryServices now
  match swept.selectAuthorized serviceID owner now with
  | none => (swept, .error .notFound)
  | some row =>
    if row.ownerDigest = none then (swept, .ok row.toService)
    else
      let next := notAfter (now + 30 * minute) (fromUnix (row.absoluteExpiresAt.getD 0))
      let (renewed, updated) := swept.renewService row.id owner now next
      if updated ≠ 1 then (renewed, .error .notFound) else (renewed, .ok row.toService)

/-- The `WHERE` clause of `TemporaryServiceBySlug`. -/
def leasedTo (slug : String) (owner : Digest) (now : Int) (row : ServiceRow) : Bool :=
  row.slug = slug && row.ownerDigest = some owner && row.enabled &&
    row.expiresAt.any (unix now < ·) && row.absoluteExpiresAt.any (unix now < ·)

/-- `TemporaryServiceBySlug`. -/
def temporaryServiceBySlug (slug : String) (owner : Digest) (now : Int) :
    Store × Except StoreError Service :=
  let swept := store.expireTemporaryServices now
  match swept.services.rows.find? (leasedTo slug owner now) with
  | none => (swept, .error .notFound)
  | some row => swept.authorizedService row.id owner now

/-- `RevokeTemporaryServices`. -/
def revokeTemporaryServices (owner : Digest) : Store :=
  { store with
    services := store.services.update (fun row => row.ownerDigest = some owner && row.enabled)
      disable (fun _ => rfl) }

/-- `ListServices`. -/
def listServices : List Service :=
  (((store.services.rows.filter (fun row => row.enabled && row.ownerDigest = none)).map
    ServiceRow.toService).mergeSort
      (fun s t => s.displayName < t.displayName || (s.displayName = t.displayName && s.id ≤ t.id)))

/-- `INSERT INTO services`: the primary key and the slug are unique, the Agent exists. -/
def insertService (row : ServiceRow) : Store × Except StoreError Unit :=
  if h : store.services.find? row.id = none then
    if store.services.rows.any (fun other => other.slug = row.slug) ∨
        store.agents.find? row.agentID = none then (store, .error .constraint)
    else ({ store with services := store.services.cons row h }, .ok ())
  else (store, .error .constraint)

/-- `CreateService`. -/
def createService (service : Service) (createdAt : Int) : Store × Except StoreError Unit :=
  match service.validate with
  | .error message => (store, .error (.invalid message))
  | .ok () =>
    store.insertService ⟨service.id, service.agentID, service.slug, service.displayName,
      service.kind, service.policyRef, service.enabled, unix createdAt, none, none, none⟩

/-- `CreateTemporaryService`. -/
def createTemporaryService (service : Service) (owner : Digest)
    (createdAt expiresAt absoluteExpiresAt : Int) : Store × Except StoreError Unit :=
  match service.validate with
  | .error message => (store, .error (.invalid message))
  | .ok () =>
    if service.temporary = false ∨ owner = Digest.zero ∨ ¬ createdAt < expiresAt ∨
        ¬ expiresAt < absoluteExpiresAt then (store, .error (.invalid "invalid temporary service"))
    else
      let swept := store.expireTemporaryServices createdAt
      -- `INSERT … SELECT … FROM agents WHERE id = ? AND state = 'active'`
      if (swept.agents.find? service.agentID).any (fun agent => agent.state = .active) then
        swept.insertService ⟨service.id, service.agentID, service.slug, service.displayName,
          service.kind, service.policyRef, true, unix createdAt, some owner,
          some (unix expiresAt), some (unix absoluteExpiresAt)⟩
      else (swept, .error .notFound)

/-! ### Browser sessions -/

/-- A session as the session service sees it. -/
structure Record where
  id : String
  tokenDigest : Digest
  userDigest : Digest
  agentID : String
  serviceID : String
  temporary : Bool
  temporaryHost : String
  createdAt : Int
  lastSeenAt : Int
  expiresAt : Int
  absoluteExpiresAt : Int
deriving DecidableEq, Repr

/-- The row that `CreateBrowserSession` inserts. -/
def Record.toRow (record : Record) : SessionRow where
  id := record.id
  tokenDigest := record.tokenDigest
  userDigest := record.userDigest
  agentID := record.agentID
  serviceID := record.serviceID
  temporaryHost := if record.temporaryHost = "" then none else some record.temporaryHost
  createdAt := unix record.createdAt
  lastSeenAt := unix record.lastSeenAt
  expiresAt := unix record.expiresAt
  absoluteExpiresAt := unix record.absoluteExpiresAt
  revokedAt := none

/-- `CreateBrowserSession`: the ID and the token digest are unique, Agent and service exist. -/
def createBrowserSession (record : Record) : Store × Except StoreError Unit :=
  if h : store.sessions.find? record.toRow.id = none then
    if store.sessions.rows.any (fun other => other.tokenDigest = record.tokenDigest ||
        (other.temporaryHost.isSome && other.temporaryHost = record.toRow.temporaryHost)) ∨
        store.agents.find? record.agentID = none ∨ store.services.find? record.serviceID = none then
      (store, .error .constraint)
    else ({ store with sessions := store.sessions.cons record.toRow h }, .ok ())
  else (store, .error .constraint)

/-- The part of the `WHERE` clause of `BrowserSession` that is about the session. -/
def sessionOpen (userDigest : Digest) (now : Int) (row : SessionRow) : Bool :=
  row.userDigest = userDigest && row.revokedAt = none && unix now < row.expiresAt &&
    unix now < row.absoluteExpiresAt

/-- The columns that `BrowserSession` reads, from the joined rows. -/
def toRecord (row : SessionRow) (service : ServiceRow) : Record where
  id := row.id
  tokenDigest := row.tokenDigest
  userDigest := row.userDigest
  agentID := row.agentID
  serviceID := row.serviceID
  temporary := service.ownerDigest.isSome
  temporaryHost := row.temporaryHost.getD ""
  createdAt := fromUnix row.createdAt
  lastSeenAt := fromUnix row.lastSeenAt
  expiresAt := fromUnix row.expiresAt
  absoluteExpiresAt := fromUnix row.absoluteExpiresAt

/-- `BrowserSession`: a join with the row of an enabled service. -/
def browserSession (id : String) (userDigest : Digest) (now : Int) : Option Record :=
  match (store.sessions.find? id).filter (sessionOpen userDigest now) with
  | none => none
  | some row =>
    match (store.services.find? row.serviceID).filter ServiceRow.enabled with
    | none => none
    | some service => some (toRecord row service)

/-- The `WHERE` clause of `TouchBrowserSession`. -/
def touchable (id : String) (userDigest : Digest) (seenAt expiresAt : Int) (row : SessionRow) :
    Bool :=
  row.id = id && row.userDigest = userDigest && row.revokedAt = none &&
    unix seenAt < row.expiresAt && unix expiresAt ≤ row.absoluteExpiresAt

/-- `TouchBrowserSession`. -/
def touchBrowserSession (id : String) (userDigest : Digest) (seenAt expiresAt : Int) :
    Store × Except StoreError Unit :=
  ({ store with
      sessions := store.sessions.update (touchable id userDigest seenAt expiresAt)
        (fun row => { row with lastSeenAt := unix seenAt, expiresAt := unix expiresAt })
        (fun _ => rfl) },
    if store.sessions.rows.countP (touchable id userDigest seenAt expiresAt) = 1 then .ok ()
    else .error .notFound)

/-- `RevokeBrowserSessions`. -/
def revokeBrowserSessions (userDigest : Digest) (now : Int) : Store :=
  { store with
    sessions := store.sessions.update
      (fun row => row.userDigest = userDigest && row.revokedAt = none)
      (fun row => { row with revokedAt := some (unix now) }) (fun _ => rfl) }

/-- The `WHERE` clause of `RevokeBrowserSession`. -/
def revocable (id : String) (userDigest : Digest) (row : SessionRow) : Bool :=
  row.id = id && row.userDigest = userDigest && row.revokedAt = none

/-- `RevokeBrowserSession`. -/
def revokeBrowserSession (id : String) (userDigest : Digest) (now : Int) :
    Store × Except StoreError Unit :=
  ({ store with
      sessions := store.sessions.update (revocable id userDigest)
        (fun row => { row with revokedAt := some (unix now) }) (fun _ => rfl) },
    if store.sessions.rows.countP (revocable id userDigest) = 1 then .ok ()
    else .error .notFound)

end Store

end WebVPN.Storage
