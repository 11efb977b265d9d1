import WebVPN.Session.Service
import WebVPN.Signaling.Broker

namespace WebVPN.Controller

open WebVPN.Library WebVPN.Storage WebVPN.Storage.Store

/-!
# Controller — connection requests and logout

The handlers `createConnection` and `logout` of `internal/controller/server.go` on top of the
session service and the broker, with any number of requests under way and everything else
that happens to the two components in between.

* `Handler`, `Handler.request` — a request and what it asks the broker for;
* `Server.connect`, `Server.offer`, `Server.commit`, `Server.abandon` — the handler, cut where
  other requests can come in between;
* `Server.logout`, `Server.finishLogout` — the two statements of a logout;
* `Server.step`, `controllerSystem` — the system.

Authentication has happened: a request comes with the session digest of its browser.  The
statements of the store do not fail.
-/

/-- `connectionRequest`. -/
structure ConnectionRequest where
  serviceID : String
  browserSessionID : String
  capability : String
  offer : Signaling.Description
  restartOf : String
deriving DecidableEq, Repr

/-- How far a handler has come. -/
inductive HandlerPc
  /-- The session is created or looked up. -/
  | authorized
  /-- `Signals.Create` is about to take the lock. -/
  | signaling (call : Signaling.Creating)
  /-- `Signals.Create` has failed. -/
  | failed
  | answered
deriving DecidableEq, Repr

/-- A call of `createConnection`, with what it has read and made so far. -/
structure Handler where
  sessionDigest : Digest
  input : ConnectionRequest
  record : Record
  capability : String
  created : Bool
  pc : HandlerPc
deriving DecidableEq, Repr

/-- What the handler asks `Signals.Create` for. -/
def Handler.request (handler : Handler) : Signaling.CreateRequest where
  agentID := handler.record.agentID
  browserSessionID := handler.record.id
  serviceID := handler.record.serviceID
  userDigest := handler.sessionDigest
  capabilityDigest := handler.record.tokenDigest
  offer := handler.input.offer
  restartOf := handler.input.restartOf
  temporary := handler.record.temporary

/-- A logout that has revoked the sessions of its browser, and maybe its temporary services. -/
structure Logout where
  sessionDigest : Digest
  answered : Bool
deriving DecidableEq, Repr

/-- What the Controller answers to a browser. -/
inductive Response
  | error (code : Nat) (message : String)
  | noContent
  | connection (id browserSessionID capability : String) (expiresAt absoluteExpiresAt : Int)
deriving DecidableEq, Repr

/-- The store, the broker and the requests under way.  The clock of the broker is the clock of
    the process. -/
structure Server where
  store : Store
  broker : Signaling.Broker
  handlers : List Handler
  logouts : List Logout

/-- A piece of a request, or an operation of one of the services. -/
inductive Action
  /-- An operation of the catalog or the session service, or the passing of time. -/
  | session (operation : Session.Action)
  /-- An operation of the broker other than `Create`. -/
  | signal (operation : Signaling.Action)
  /-- `createConnection` up to the session; the random values are for a new session. -/
  | connect (sessionDigest : Digest) (input : ConnectionRequest) (raw : Vector UInt8 16)
    (rawToken : Vector UInt8 32) (delay : Nat)
  /-- `Signals.Create` up to the lock. -/
  | offer (handler : Nat) (raw : Vector UInt8 16)
  /-- `Signals.Create` under the lock; `index` is its place among the calls of the broker. -/
  | commit (handler index : Nat) (receiver : Option Nat)
  /-- The end of a handler whose `Signals.Create` failed. -/
  | abandon (handler : Nat)
  /-- `logout` up to its first statement. -/
  | logout (sessionDigest : Digest)
  /-- The second statement of `logout`, and the answer. -/
  | finishLogout (logout : Nat)
deriving DecidableEq

/-- What the components did and what the browser is told. -/
structure Event where
  session : Option (Session.Action × Session.Event)
  signal : Option (Signaling.Action × Signaling.Event)
  response : Option Response
deriving DecidableEq

/-- `Create` is called by handlers only, and time passes for both components at once. -/
def otherSignal : Signaling.Action → Bool
  | .advance _ => false
  | .create _ _ => false
  | .commit _ _ => false
  | _ => true

namespace Server

variable (u : Unicode) (sha256 : List UInt8 → Digest) (c : Server)

/-- The session service as it sees itself. -/
def sessions : Session.State := ⟨c.broker.clock, c.store⟩

/-- Run an operation of the session service. -/
def operate (operation : Session.Action) : Server × Session.Event :=
  let (s, e) := c.sessions.step sha256 operation
  ({ c with store := s.store, broker := { c.broker with clock := s.clock } }, e)

/-- A handler moves on. -/
def setPc (i : Nat) (handler : Handler) (pc : HandlerPc) : Server :=
  { c with handlers := c.handlers.set i { handler with pc := pc } }

/-- A request arrives. -/
def addHandler (handler : Handler) : Server := { c with handlers := c.handlers ++ [handler] }

/-- `createConnection` for a new connection, up to the session. -/
def connectNew (sessionDigest : Digest) (input : ConnectionRequest) (raw : Vector UInt8 16)
    (rawToken : Vector UInt8 32) (delay : Nat) : Server × Event :=
  if input.browserSessionID ≠ "" ∨ input.capability ≠ "" then
    (c, ⟨none, none, some (.error 400 "new connection must not include restart authorization")⟩)
  else
    let operation := .create sessionDigest input.serviceID raw rawToken delay
    let (c, e) := c.operate sha256 operation
    match e.session? with
    | none => (c, ⟨some (operation, e), none, some (.error 404 "service unavailable")⟩)
    | some result =>
      (c.addHandler ⟨sessionDigest, input, result.record, result.token, true, .authorized⟩,
        ⟨some (operation, e), none, none⟩)

/-- `createConnection` for an ICE restart, up to the session. -/
def connectRestart (sessionDigest : Digest) (input : ConnectionRequest) : Server × Event :=
  if input.browserSessionID = "" ∨ validateToken input.capability = false then
    (c, ⟨none, none, some (.error 400 "invalid ICE restart authorization")⟩)
  else
    let operation := .lookup input.browserSessionID sessionDigest input.capability
    let (c, e) := c.operate sha256 operation
    match e.found? with
    | none => (c, ⟨some (operation, e), none, some (.error 404 "connection session unavailable")⟩)
    | some record =>
      if record.serviceID ≠ input.serviceID then
        (c, ⟨some (operation, e), none, some (.error 404 "connection session unavailable")⟩)
      else
        (c.addHandler ⟨sessionDigest, input, record, input.capability, false, .authorized⟩,
          ⟨some (operation, e), none, none⟩)

/-- `createConnection` up to the session. -/
def connect (sessionDigest : Digest) (input : ConnectionRequest) (raw : Vector UInt8 16)
    (rawToken : Vector UInt8 32) (delay : Nat) : Server × Event :=
  if input.restartOf = "" then c.connectNew sha256 sessionDigest input raw rawToken delay
  else c.connectRestart sha256 sessionDigest input

/-- `Signals.Create` up to the lock. -/
def offer (i : Nat) (raw : Vector UInt8 16) : Option (Server × Event) :=
  match c.handlers[i]? with
  | none => none
  | some handler =>
    if handler.pc ≠ .authorized then none
    else
      let (broker, e) := c.broker.beginCreate u handler.request raw
      let pc : HandlerPc :=
        match e with
        | .drawn id => .signaling ⟨handler.request, id, c.broker.clock⟩
        | _ => .failed
      some ({ c with broker := broker }.setPc i handler pc,
        ⟨none, some (.create handler.request raw, e), none⟩)

/-- `Signals.Create` under the lock, and the answer if it succeeds. -/
def commit (i index : Nat) (receiver : Option Nat) : Option (Server × Event) :=
  match c.handlers[i]? with
  | none => none
  | some handler =>
    match handler.pc with
    | .signaling call =>
      if c.broker.creating[index]? ≠ some call then none
      else
        match c.broker.commit index receiver with
        | none => none
        | some (broker, e) =>
          match e with
          | .created _ id _ =>
            some ({ c with broker := broker }.setPc i handler .answered,
              ⟨none, some (.commit index receiver, e),
                some (.connection id handler.record.id handler.capability handler.record.expiresAt
                  handler.record.absoluteExpiresAt)⟩)
          | _ =>
            some ({ c with broker := broker }.setPc i handler .failed,
              ⟨none, some (.commit index receiver, e), none⟩)
    | _ => none

/-- The end of a handler whose `Signals.Create` failed: a session that it has created is
    revoked. -/
def abandon (i : Nat) : Option (Server × Event) :=
  match c.handlers[i]? with
  | none => none
  | some handler =>
    if handler.pc ≠ .failed then none
    else if handler.created then
      let operation := .revoke handler.record.id handler.sessionDigest
      let (c, e) := c.operate sha256 operation
      some (c.setPc i handler .answered,
        ⟨some (operation, e), none, some (.error 400 "invalid connection offer")⟩)
    else
      some (c.setPc i handler .answered,
        ⟨none, none, some (.error 400 "invalid connection offer")⟩)

/-- `logout` up to `RevokeAll`. -/
def logout (sessionDigest : Digest) : Server × Event :=
  let (c, e) := c.operate sha256 (.revokeAll sessionDigest)
  ({ c with logouts := c.logouts ++ [⟨sessionDigest, false⟩] },
    ⟨some (.revokeAll sessionDigest, e), none, none⟩)

/-- `logout` from `RevokeTemporaryServices` on. -/
def finishLogout (i : Nat) : Option (Server × Event) :=
  match c.logouts[i]? with
  | none => none
  | some request =>
    if request.answered then none
    else
      let operation := .revokeTemporaryServices request.sessionDigest
      let (c, e) := c.operate sha256 operation
      some ({ c with logouts := c.logouts.set i { request with answered := true } },
        ⟨some (operation, e), none, some .noContent⟩)

/-- One step of the Controller. -/
def step : Action → Option (Server × Event)
  | .session operation =>
    let (c, e) := c.operate sha256 operation
    some (c, ⟨some (operation, e), none, none⟩)
  | .signal operation =>
    if otherSignal operation then
      (c.broker.step u operation).map fun (broker, e) =>
        ({ c with broker := broker }, ⟨none, some (operation, e), none⟩)
    else none
  | .connect sessionDigest input raw rawToken delay =>
    some (c.connect sha256 sessionDigest input raw rawToken delay)
  | .offer i raw => c.offer u i raw
  | .commit i index receiver => c.commit i index receiver
  | .abandon i => c.abandon sha256 i
  | .logout sessionDigest => some (c.logout sha256 sessionDigest)
  | .finishLogout i => c.finishLogout sha256 i

end Server

/-- The Controller, started at some time with Agents and nothing else in the store. -/
def controllerSystem (u : Unicode) (sha256 : List UInt8 → Digest) (agents : Table AgentRow.id)
    (start : Int) : System Server Action Event where
  init := ⟨⟨agents, Table.empty, Table.empty⟩, Signaling.Broker.new start, [], []⟩
  step := Server.step u sha256

end WebVPN.Controller
