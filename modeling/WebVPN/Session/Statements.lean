import WebVPN.Library.Concurrent
import WebVPN.Session.Service

namespace WebVPN.Session

open WebVPN.Library WebVPN.Catalog WebVPN.Storage WebVPN.Storage.Store

/-!
# Session — the operations, statement by statement

No operation of the catalog manager and the session service runs in a transaction: each is a
sequence of SQL statements, between which other operations may run.  Here every operation is a
`Program` over the single statements and the clock.

* `Statement`, `exec` — the statements, each with the definition of `Storage.Store` it stands for;
* `authorizedServiceProgram`, `createProgram`, `lookupProgram`, … — the operations;
* `storeMachine` — all their interleavings, in which time may pass at any point;
* `lookupProgram_run`, `createProgram_run`, … — run to the end at once, the programs are the
  operations of `Session.Service`.
-/

/-- The single statements, and reading the clock. -/
inductive Statement
  | clock
  | expireTemporaryServices (now : Int)
  | selectAuthorized (serviceID : String) (owner : Digest) (now : Int)
  | renewService (serviceID : String) (owner : Digest) (now next : Int)
  | selectLeased (slug : String) (owner : Digest) (now : Int)
  | revokeTemporaryServices (owner : Digest)
  | insertService (row : ServiceRow)
  | insertTemporaryService (row : ServiceRow)
  | listServices
  | createBrowserSession (record : Record)
  | browserSession (id : String) (userDigest : Digest) (now : Int)
  | touchBrowserSession (id : String) (userDigest : Digest) (seenAt expiresAt : Int)
  | revokeBrowserSessions (userDigest : Digest) (now : Int)
  | revokeBrowserSession (id : String) (userDigest : Digest) (now : Int)
deriving DecidableEq

/-- What a statement returns: rows, a number of changed rows, or an outcome. -/
@[reducible] def Response : Statement → Type
  | .clock => Int
  | .expireTemporaryServices _ => Unit
  | .selectAuthorized _ _ _ => Option ServiceRow
  | .renewService _ _ _ _ => Nat
  | .selectLeased _ _ _ => Option ServiceRow
  | .revokeTemporaryServices _ => Unit
  | .insertService _ => Except StoreError Unit
  | .insertTemporaryService _ => Except StoreError Unit
  | .listServices => List Service
  | .createBrowserSession _ => Except StoreError Unit
  | .browserSession _ _ _ => Option Record
  | .touchBrowserSession _ _ _ _ => Except StoreError Unit
  | .revokeBrowserSessions _ _ => Unit
  | .revokeBrowserSession _ _ _ => Except StoreError Unit

/-- `INSERT INTO services … SELECT … FROM agents WHERE id = ? AND state = 'active'`. -/
def insertTemporaryService (store : Store) (row : ServiceRow) : Store × Except StoreError Unit :=
  if (store.agents.find? row.agentID).any (fun agent => agent.state = .active) then
    store.insertService row
  else (store, .error .notFound)

/-- A statement that changes the store. -/
def State.on {α : Type} (s : State) (result : Store × α) : State × α :=
  ({ s with store := result.1 }, result.2)

/-- A statement is executed. -/
def exec : (statement : Statement) → State → State × Response statement
  | .clock, s => (s, s.clock)
  | .expireTemporaryServices now, s => s.on (s.store.expireTemporaryServices now, ())
  | .selectAuthorized serviceID owner now, s => (s, s.store.selectAuthorized serviceID owner now)
  | .renewService serviceID owner now next, s => s.on (s.store.renewService serviceID owner now next)
  | .selectLeased slug owner now, s => (s, s.store.services.rows.find? (leasedTo slug owner now))
  | .revokeTemporaryServices owner, s => s.on (s.store.revokeTemporaryServices owner, ())
  | .insertService row, s => s.on (s.store.insertService row)
  | .insertTemporaryService row, s => s.on (Session.insertTemporaryService s.store row)
  | .listServices, s => (s, s.store.listServices)
  | .createBrowserSession record, s => s.on (s.store.createBrowserSession record)
  | .browserSession id userDigest now, s => (s, s.store.browserSession id userDigest now)
  | .touchBrowserSession id userDigest seenAt expiresAt, s =>
    s.on (s.store.touchBrowserSession id userDigest seenAt expiresAt)
  | .revokeBrowserSessions userDigest now, s => s.on (s.store.revokeBrowserSessions userDigest now, ())
  | .revokeBrowserSession id userDigest now, s =>
    s.on (s.store.revokeBrowserSession id userDigest now)

/-! ### The operations -/

/-- Make one statement. -/
abbrev query (statement : Statement) : Program Response (Response statement) :=
  Program.perform statement

/-- The outcome of the renewal, which must have changed one row. -/
def renewedService (row : ServiceRow) (updated : Nat) :
    Except StoreError Service :=
  if updated ≠ 1 then .error .notFound else .ok row.toService

/-- `AuthorizedService`. -/
def authorizedServiceProgram (serviceID : String) (owner : Digest) (now : Int) :
    Program Response (Except StoreError Service) := do
  let _ ← query (.expireTemporaryServices now)
  match ← query (.selectAuthorized serviceID owner now) with
  | none => return .error .notFound
  | some row =>
    if row.ownerDigest = none then return .ok row.toService
    else
      let next := notAfter (now + 30 * minute) (fromUnix (row.absoluteExpiresAt.getD 0))
      return renewedService row (← query (.renewService row.id owner now next))

/-- `TemporaryServiceBySlug`. -/
def temporaryServiceBySlugProgram (slug : String) (owner : Digest) :
    Program Response (Except StoreError Service) := do
  let now ← query .clock
  let _ ← query (.expireTemporaryServices now)
  match ← query (.selectLeased slug owner now) with
  | none => return .error .notFound
  | some row => authorizedServiceProgram row.id owner now

/-- `Manager.Create`. -/
def createServiceProgram (request : CreateRequest) (raw : Vector UInt8 16) :
    Program Response (Except StoreError Service) :=
  let service : Service := ⟨randomID raw, request.agentID, request.slug, request.displayName,
    request.kind, request.policyRef, true, false⟩
  match service.validate with
  | .error message => return .error (.invalid message)
  | .ok () => do
    let now ← query .clock
    match ← query (.insertService ⟨service.id, service.agentID, service.slug,
        service.displayName, service.kind, service.policyRef, service.enabled, unix now, none, none,
        none⟩) with
    | .error e => return .error e
    | .ok () => return .ok service

/-- `Manager.CreateTemporary`. -/
def createTemporaryProgram (owner : Digest) (request : CreateTemporaryRequest)
    (raw rawSlug : Vector UInt8 16) : Program Response (Except StoreError Service) :=
  if owner = Digest.zero then return .error (.invalid "temporary service owner is required")
  else
    let service : Service := ⟨randomID raw, request.agentID, randomTemporarySlug rawSlug,
      request.displayName, request.kind, "temporary", true, true⟩
    match service.validate with
    | .error message => return .error (.invalid message)
    | .ok () => do
      let now ← query .clock
      let _ ← query (.expireTemporaryServices now)
      match ← query (.insertTemporaryService ⟨service.id, service.agentID, service.slug,
          service.displayName, service.kind, service.policyRef, true, unix now, some owner,
          some (unix (now + 30 * minute)), some (unix (now + 120 * minute))⟩) with
      | .error e => return .error e
      | .ok () => return .ok service

section Sessions

variable (sha256 : List UInt8 → Digest)

/-- `Service.Create`. -/
def createProgram (userDigest : Digest) (serviceID : String) (raw : Vector UInt8 16)
    (rawToken : Vector UInt8 32) : Program Response (Except StoreError Created) := do
  let now ← query .clock
  match ← authorizedServiceProgram serviceID userDigest now with
  | .error e => return .error e
  | .ok target =>
    if target.enabled = false then return .error .notFound
    else
      let later ← query .clock
      let record := newRecord target userDigest (randomID raw) (newToken sha256 rawToken).2 later
      match ← query (.createBrowserSession record) with
      | .error e => return .error e
      | .ok () => return .ok ⟨record, (newToken sha256 rawToken).1⟩

/-- `Service.Lookup` after the session has been read. -/
def renewProgram (id : String) (userDigest : Digest) (now : Int) (record : Record) :
    Program Response (Except StoreError Record) := do
  match ← authorizedServiceProgram record.serviceID userDigest now with
  | .error _ => return .error .notFound
  | .ok target =>
    if target.agentID ≠ record.agentID ∨ target.temporary ≠ record.temporary then
      return .error .notFound
    else
      let nextExpiry := notAfter (now + idleTTL) record.absoluteExpiresAt
      match ← query (.touchBrowserSession id userDigest now nextExpiry) with
      | .error e => return .error e
      | .ok () => return .ok { record with lastSeenAt := now, expiresAt := nextExpiry }

/-- `Service.Lookup`. -/
def lookupProgram (id : String) (userDigest : Digest) (token : String) :
    Program Response (Except StoreError Record) :=
  if validateToken token = false then return .error .notFound
  else do
    let now ← query .clock
    match ← query (.browserSession id userDigest now) with
    | none => return .error .notFound
    | some record =>
      if record.tokenDigest = hashToken sha256 token then renewProgram id userDigest now record
      else return .error .notFound

/-- `Service.Revoke`. -/
def revokeProgram (id : String) (userDigest : Digest) :
    Program Response (Except StoreError Unit) := do
  let now ← query .clock
  query (.revokeBrowserSession id userDigest now)

/-- `Service.RevokeAll`. -/
def revokeAllProgram (userDigest : Digest) : Program Response Unit := do
  let now ← query .clock
  query (.revokeBrowserSessions userDigest now)

end Sessions

/-! ### Calls -/

/-- The calls of the services. -/
inductive Call
  | createService (request : CreateRequest) (raw : Vector UInt8 16)
  | createTemporary (owner : Digest) (request : CreateTemporaryRequest)
    (raw rawSlug : Vector UInt8 16)
  | temporaryServiceBySlug (slug : String) (owner : Digest)
  | revokeTemporaryServices (owner : Digest)
  | listServices
  | create (userDigest : Digest) (serviceID : String) (raw : Vector UInt8 16)
    (rawToken : Vector UInt8 32)
  | lookup (id : String) (userDigest : Digest) (token : String)
  | revoke (id : String) (userDigest : Digest)
  | revokeAll (userDigest : Digest)
deriving DecidableEq

/-- What a call returns. -/
inductive Answer
  | service (outcome : Except StoreError Service)
  | services (services : List Service)
  | created (outcome : Except StoreError Created)
  | found (outcome : Except StoreError Record)
  | done (outcome : Except StoreError Unit)
deriving DecidableEq

/-- A call as a program. -/
def Call.program (sha256 : List UInt8 → Digest) : Call → Program Response Answer
  | .createService request raw => do
    return .service (← createServiceProgram request raw)
  | .createTemporary owner request raw rawSlug => do
    return .service (← createTemporaryProgram owner request raw rawSlug)
  | .temporaryServiceBySlug slug owner => do
    return .service (← temporaryServiceBySlugProgram slug owner)
  | .revokeTemporaryServices owner => do
    let _ ← query (.revokeTemporaryServices owner)
    return .done (.ok ())
  | .listServices => do return .services (← query .listServices)
  | .create userDigest serviceID raw rawToken => do
    return .created (← createProgram sha256 userDigest serviceID raw rawToken)
  | .lookup id userDigest token => do return .found (← lookupProgram sha256 id userDigest token)
  | .revoke id userDigest => do return .done (← revokeProgram id userDigest)
  | .revokeAll userDigest => do
    let _ ← revokeAllProgram userDigest
    return .done (.ok ())

/-- Any number of calls, one statement at a time; in between time passes. -/
def storeMachine (sha256 : List UInt8 → Digest) : Machine Response Call Answer Nat State where
  exec := exec
  program := Call.program sha256
  drift duration s := { s with clock := s.clock + duration }

/-! ### Run at once

With nothing in between, the programs are the operations of `Session.Service`. -/

section Sequential

variable (sha256 : List UInt8 → Digest) (s : State)

theorem authorizedServiceProgram_run (serviceID : String) (owner : Digest) (now : Int) :
    (authorizedServiceProgram serviceID owner now).run exec s =
      s.on (s.store.authorizedService serviceID owner now) := by
  simp only [authorizedServiceProgram, Store.authorizedService, Program.run_bind,
    Program.run_perform, exec, State.on]
  cases hrow : (s.store.expireTemporaryServices now).selectAuthorized serviceID owner now with
  | none => rfl
  | some row =>
    by_cases howner : row.ownerDigest = none
    · simp only [if_pos howner, Program.run_pure]
    · simp only [if_neg howner, Program.run_bind, Program.run_perform, exec, State.on]
      by_cases hupdated : ((s.store.expireTemporaryServices now).renewService row.id owner now
          (notAfter (now + 30 * minute) (fromUnix (row.absoluteExpiresAt.getD 0)))).2 ≠ 1
      · simp only [renewedService, if_pos hupdated, Program.run_pure]
      · simp only [renewedService, if_neg hupdated, Program.run_pure]

theorem temporaryServiceBySlugProgram_run (slug : String) (owner : Digest) :
    (temporaryServiceBySlugProgram slug owner).run exec s =
      s.on (s.store.temporaryServiceBySlug slug owner s.clock) := by
  simp only [temporaryServiceBySlugProgram, Store.temporaryServiceBySlug, Program.run_bind,
    Program.run_perform, exec, State.on]
  cases hrow : (s.store.expireTemporaryServices s.clock).services.rows.find?
      (leasedTo slug owner s.clock) with
  | none => rfl
  | some row => exact authorizedServiceProgram_run _ row.id owner s.clock

theorem createServiceProgram_run (request : CreateRequest) (raw : Vector UInt8 16) :
    (createServiceProgram request raw).run exec s =
      s.on (Manager.create s.store request raw s.clock) := by
  unfold createServiceProgram Manager.create Store.createService
  simp only
  cases hvalid : Service.validate ⟨randomID raw, request.agentID, request.slug, request.displayName,
      request.kind, request.policyRef, true, false⟩ with
  | error message => rfl
  | ok _ =>
    simp only [Program.run_bind, Program.run_perform, exec, State.on]
    generalize s.store.insertService _ = result
    obtain ⟨store, outcome⟩ := result
    cases outcome with
    | error e => rfl
    | ok _ => rfl

theorem createTemporaryProgram_run (owner : Digest) (request : CreateTemporaryRequest)
    (raw rawSlug : Vector UInt8 16) :
    (createTemporaryProgram owner request raw rawSlug).run exec s =
      s.on (Manager.createTemporary s.store owner request raw rawSlug s.clock) := by
  unfold createTemporaryProgram Manager.createTemporary Store.createTemporaryService
  by_cases hzero : owner = Digest.zero
  · simp only [if_pos hzero]
    rfl
  simp only [if_neg hzero]
  cases hvalid : Service.validate ⟨randomID raw, request.agentID, randomTemporarySlug rawSlug,
      request.displayName, request.kind, "temporary", true, true⟩ with
  | error message => rfl
  | ok _ =>
    -- the dates of the manager pass the check of the store
    have hdates : ¬ (true = false ∨ owner = Digest.zero ∨ ¬ s.clock < s.clock + 30 * minute ∨
        ¬ s.clock + 30 * minute < s.clock + 120 * minute) := by
      simp only [minute, second, not_or, not_not]
      exact ⟨by decide, hzero, by omega, by omega⟩
    simp only [if_neg hdates, Program.run_bind, Program.run_perform, exec, State.on,
      Session.insertTemporaryService]
    by_cases hactive : ((s.store.expireTemporaryServices s.clock).agents.find?
        request.agentID).any (fun agent => agent.state = .active) = true
    · simp only [if_pos hactive]
      generalize Store.insertService _ _ = result
      obtain ⟨store, outcome⟩ := result
      cases outcome with
      | error e => rfl
      | ok _ => rfl
    · simp only [if_neg hactive]
      rfl

theorem createProgram_run (userDigest : Digest) (serviceID : String) (raw : Vector UInt8 16)
    (rawToken : Vector UInt8 32) :
    (createProgram sha256 userDigest serviceID raw rawToken).run exec s =
      s.on (create sha256 s.store userDigest serviceID raw rawToken s.clock s.clock) := by
  simp only [createProgram, create, Program.run_bind, Program.run_perform, exec,
    authorizedServiceProgram_run, State.on]
  generalize s.store.authorizedService serviceID userDigest s.clock = result
  obtain ⟨store, outcome⟩ := result
  cases outcome with
  | error e => rfl
  | ok target =>
    by_cases henabled : target.enabled = false
    · simp only [if_pos henabled]
      rfl
    · simp only [if_neg henabled, Program.run_bind, Program.run_perform, exec, State.on]
      generalize Store.createBrowserSession _ _ = result
      obtain ⟨store, outcome⟩ := result
      cases outcome with
      | error e => rfl
      | ok _ => rfl

theorem renewProgram_run (id : String) (userDigest : Digest) (token : String) {record : Record}
    (hrecord : presented sha256 s.store id userDigest token s.clock = some record) :
    (renewProgram id userDigest s.clock record).run exec s =
      s.on (lookup sha256 s.store id userDigest token s.clock) := by
  simp only [renewProgram, lookup, hrecord, Program.run_bind, authorizedServiceProgram_run,
    State.on]
  generalize s.store.authorizedService record.serviceID userDigest s.clock = result
  obtain ⟨store, outcome⟩ := result
  cases outcome with
  | error e => rfl
  | ok target =>
    by_cases hother : target.agentID ≠ record.agentID ∨ target.temporary ≠ record.temporary
    · simp only [if_pos hother]
      rfl
    · simp only [if_neg hother, Program.run_bind, Program.run_perform, exec, State.on]
      generalize Store.touchBrowserSession _ _ _ _ _ = result
      obtain ⟨store, outcome⟩ := result
      cases outcome with
      | error e => rfl
      | ok _ => rfl

theorem lookupProgram_run (id : String) (userDigest : Digest) (token : String) :
    (lookupProgram sha256 id userDigest token).run exec s =
      s.on (lookup sha256 s.store id userDigest token s.clock) := by
  unfold lookupProgram
  by_cases htoken : validateToken token = false
  · have hnone : presented sha256 s.store id userDigest token s.clock = none := if_pos htoken
    simp only [if_pos htoken, lookup, hnone]
    rfl
  simp only [if_neg htoken, Program.run_bind, Program.run_perform, exec]
  have hpresented : presented sha256 s.store id userDigest token s.clock =
      (s.store.browserSession id userDigest s.clock).filter
        (fun record => record.tokenDigest = hashToken sha256 token) := if_neg htoken
  cases hsession : s.store.browserSession id userDigest s.clock with
  | none =>
    rw [hsession] at hpresented
    simp only [lookup, hpresented]
    rfl
  | some record =>
    rw [hsession, Option.filter_some] at hpresented
    by_cases hdigest : record.tokenDigest = hashToken sha256 token
    · rw [if_pos (by simpa using hdigest)] at hpresented
      simp only [if_pos hdigest]
      exact renewProgram_run sha256 s id userDigest token hpresented
    · rw [if_neg (by simpa using hdigest)] at hpresented
      simp only [if_neg hdigest, lookup, hpresented]
      rfl

/-- The sequential operation that a call stands for. -/
def Call.action : Call → Action
  | .createService request raw => .createService request raw
  | .createTemporary owner request raw rawSlug => .createTemporary owner request raw rawSlug
  | .temporaryServiceBySlug slug owner => .temporaryServiceBySlug slug owner
  | .revokeTemporaryServices owner => .revokeTemporaryServices owner
  | .listServices => .listServices
  | .create userDigest serviceID raw rawToken => .create userDigest serviceID raw rawToken 0
  | .lookup id userDigest token => .lookup id userDigest token
  | .revoke id userDigest => .revoke id userDigest
  | .revokeAll userDigest => .revokeAll userDigest

/-- What the caller gets. -/
def Event.answer : Event → Answer
  | .serviceCreated outcome | .temporaryCreated _ _ outcome | .authorized _ _ outcome => .service outcome
  | .listed services => .services services
  | .created _ _ outcome => .created outcome
  | .lookedUp _ _ _ outcome => .found outcome
  | .revoked _ _ outcome => .done outcome
  | .silent | .temporariesRevoked _ | .allRevoked _ => .done (.ok ())

/-- **The sequential system is the machine without interleaving.** -/
theorem program_run (call : Call) : (call.program sha256).run exec s =
    ((s.step sha256 call.action).1, (s.step sha256 call.action).2.answer) := by
  cases call with
  | createService request raw =>
    simp only [Call.program, Program.run_bind, createServiceProgram_run]
    rfl
  | createTemporary owner request raw rawSlug =>
    simp only [Call.program, Program.run_bind, createTemporaryProgram_run]
    rfl
  | temporaryServiceBySlug slug owner =>
    simp only [Call.program, Program.run_bind, temporaryServiceBySlugProgram_run]
    rfl
  | create userDigest serviceID raw rawToken =>
    simp only [Call.program, Program.run_bind, createProgram_run]
    simp [Call.action, State.step, State.after, State.on, Event.answer]
  | lookup id userDigest token =>
    simp only [Call.program, Program.run_bind, lookupProgram_run]
    rfl
  | revokeTemporaryServices | listServices | revoke | revokeAll => rfl

end Sequential

end WebVPN.Session
