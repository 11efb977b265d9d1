import WebVPN.Library.System
import WebVPN.Library.Table
import WebVPN.Signaling.Message

namespace WebVPN.Signaling

open WebVPN.Library

/-!
# Signaling — the broker

The broker of `internal/signaling/broker.go` keeps the offers of browsers until the Agent
has fetched and answered them.  First the bodies of its lock sections, as functions on the
map of sessions; then the whole component as a system of concurrent calls.

* `createLocked`, `selectNext`, `finishLocked`, `statusLocked` — the lock sections;
* `Broker` — the state: the map, the clock, the notification channels, and how far each
  `Create` and `Next` call has come;
* `Broker.step`, `brokerSystem` — one lock section, channel operation or clock reading at
  a time.

`Create` draws its ID and reads the clock before it takes the lock; all other operations
read the clock inside.  A clock reading is a whole number of nanoseconds.
-/

/-- Nanoseconds in a second. -/
def second : Int := 10 ^ 9

/-- How long a signaling session lives. -/
def sessionTTL : Int := 120 * second

/-! ### Data -/

/-- The errors of `Finish` and `Status`: the two that callers can tell apart, and the rest. -/
inductive BrokerError
  | notFound
  | alreadyClaimed
  | other (message : String)
deriving DecidableEq, Repr

/-- What `Create` is given. -/
structure CreateRequest where
  agentID : String
  browserSessionID : String
  serviceID : String
  userDigest : Digest
  capabilityDigest : Digest
  offer : Description
  restartOf : String
  temporary : Bool
deriving DecidableEq, Repr

/-- What `Finish` is given: an answer, or why there is none. -/
structure Result where
  answer : Option Description
  failureCode : String
deriving DecidableEq, Repr

/-- What `Status` returns. -/
structure Status where
  state : String
  answer : Option Description
  failureCode : String
deriving DecidableEq, Repr

/-- A signaling session. -/
structure Entry where
  id : String
  agentID : String
  browserSessionID : String
  serviceID : String
  userDigest : Digest
  capabilityDigest : Digest
  offer : Description
  restartOf : String
  temporary : Bool
  answer : Option Description
  failureCode : String
  createdAt : Int
  claimed : Bool
deriving DecidableEq, Repr

/-- The map of sessions. -/
abbrev Sessions := Table Entry.id

/-! ### Lock sections -/

/-- `pruneLocked`. -/
def pruneLocked (now : Int) (sessions : Sessions) : Sessions :=
  sessions.filter (fun current => now - current.createdAt < sessionTTL)

/-- The checks of `Create` before the lock. -/
def CreateRequest.check (u : Unicode) (request : CreateRequest) : Except String Unit := do
  reject (validOpaqueID request.agentID = false ∨ validOpaqueID request.browserSessionID = false ∨
    validOpaqueID request.serviceID = false) "invalid Agent, service, or browser session ID"
  reject (request.userDigest = Digest.zero ∨ request.capabilityDigest = Digest.zero)
    "user and capability digests are required"
  validateDescription u request.offer "offer"

/-- The entry of a new session. -/
def CreateRequest.entry (request : CreateRequest) (id : String) (now : Int) : Entry where
  id := id
  agentID := request.agentID
  browserSessionID := request.browserSessionID
  serviceID := request.serviceID
  userDigest := request.userDigest
  capabilityDigest := request.capabilityDigest
  offer := request.offer
  restartOf := request.restartOf
  temporary := request.temporary
  answer := none
  failureCode := ""
  createdAt := now
  claimed := false

/-- The request is for the same authorized session as an earlier one. -/
def CreateRequest.continues (request : CreateRequest) (previous : Entry) : Bool :=
  previous.agentID = request.agentID && previous.browserSessionID = request.browserSessionID &&
    previous.serviceID = request.serviceID && previous.userDigest = request.userDigest &&
    previous.capabilityDigest = request.capabilityDigest && previous.temporary = request.temporary

/-- The restart check of `Create`. -/
def CreateRequest.restarts (request : CreateRequest) (sessions : Sessions) : Bool :=
  request.restartOf = "" || (sessions.find? request.restartOf).any request.continues

/-- The error of a restart that is refused. -/
def errRestart : String := "restart_of must reference the same live authorized session"

/-- `Create` under the lock, up to the notification. -/
def createLocked (sessions : Sessions) (request : CreateRequest) (id : String) (now : Int) :
    Sessions × Except String String :=
  if request.restarts (pruneLocked now sessions) then
    ((pruneLocked now sessions).put (request.entry id now), .ok id)
  else (pruneLocked now sessions, .error errRestart)

/-- An entry that `Next` may return to an Agent. -/
def Entry.offeredTo (agentID : String) (current : Entry) : Bool :=
  current.agentID = agentID && !current.claimed && current.answer = none &&
    current.failureCode = ""

/-- One round of the loop in `Next`: the earlier entry wins, and of two equally old ones the
    one that the map yields first. -/
def preferEarlier (agentID : String) (selected : Option Entry) (current : Entry) :
    Option Entry :=
  if current.offeredTo agentID ∧ ∀ s ∈ selected, current.createdAt < s.createdAt then some current
  else selected

/-- The loop in `Next`; `order` is the order in which the map yields its entries. -/
def selectNext (agentID : String) (order : List Entry) : Option Entry :=
  order.foldl (preferEarlier agentID) none

/-- The session is handed out. -/
def claim (sessions : Sessions) (id : String) : Sessions :=
  sessions.update (fun current => current.id = id) (fun current => { current with claimed := true })
    (fun _ => rfl)

/-- What the Agent gets. -/
def Entry.toOffer (selected : Entry) : Offer where
  id := selected.id
  browserSessionID := selected.browserSessionID
  serviceID := selected.serviceID
  capabilityDigest := encodeDigest selected.capabilityDigest
  offer := selected.offer
  restartOf := selected.restartOf
  temporary := selected.temporary

/-- `failureCodePattern`. -/
def validFailureCode (code : String) : Bool :=
  code ≠ "" && code.toList.length ≤ 64 &&
    code.toList.all (fun c => ('a' ≤ c ∧ c ≤ 'z') || ('0' ≤ c ∧ c ≤ '9') || c = '_')

/-- The checks of `Finish` before the lock. -/
def Result.check (u : Unicode) (result : Result) : Except String Unit := do
  reject (result.answer = none ↔ result.failureCode = "")
    "exactly one of answer or failure_code is required"
  match result.answer with
  | some answer => validateDescription u answer "answer"
  | none => .ok ()
  reject (result.failureCode ≠ "" ∧ validFailureCode result.failureCode = false)
    "invalid failure code"

/-- An entry with its result. -/
def Entry.finish (current : Entry) (result : Result) : Entry :=
  match result.answer with
  | some answer => { current with answer := some answer }
  | none => { current with failureCode := result.failureCode }

@[simp] theorem Entry.finish_id (current : Entry) (result : Result) :
    (current.finish result).id = current.id := by
  unfold Entry.finish
  cases result.answer <;> rfl

/-- `Finish` under the lock. -/
def finishLocked (sessions : Sessions) (now : Int) (agentID sessionID : String) (result : Result) :
    Sessions × Except BrokerError Unit :=
  let live := pruneLocked now sessions
  match live.find? sessionID with
  | none => (live, .error .notFound)
  | some current =>
    if current.agentID ≠ agentID then (live, .error .notFound)
    else if current.claimed = false ∨ current.answer ≠ none ∨ current.failureCode ≠ "" then
      (live, .error .alreadyClaimed)
    else
      (live.update (fun e => e.id = sessionID) (fun e => e.finish result) (fun e => e.finish_id result),
        .ok ())

/-- What the user gets. -/
def Entry.status (current : Entry) : Status :=
  match current.answer with
  | some answer => ⟨"answered", some answer, ""⟩
  | none =>
    if current.failureCode ≠ "" then ⟨"failed", none, current.failureCode⟩
    else ⟨"pending", none, ""⟩

/-- `Status` under the lock. -/
def statusLocked (sessions : Sessions) (now : Int) (sessionID : String) (userDigest : Digest) :
    Sessions × Except BrokerError Status :=
  let live := pruneLocked now sessions
  match live.find? sessionID with
  | none => (live, .error .notFound)
  | some current =>
    if current.userDigest ≠ userDigest then (live, .error .notFound)
    else (live, .ok current.status)

/-! ### The component -/

/-- A `Create` call between its clock reading and the lock. -/
structure Creating where
  request : CreateRequest
  id : String
  now : Int
deriving DecidableEq, Repr

/-- How far a `Next` call has come. -/
inductive NextPc
  /-- About to take the lock and look for an offer. -/
  | scanning
  /-- The lock is released, the `select` not yet reached. -/
  | unlocked
  /-- Blocked in the `select`. -/
  | blocked
  | returned
deriving DecidableEq, Repr

/-- A call of `Next`. -/
structure NextCall where
  agentID : String
  pc : NextPc
deriving DecidableEq, Repr

/-- The call has looked in vain and waits for the notification channel, or is about to. -/
def NextCall.waiting (call : NextCall) : Bool := call.pc = .unlocked || call.pc = .blocked

/-- The map of sessions, the notification channels, and the calls under way. -/
structure Broker where
  clock : Int
  sessions : Sessions
  /-- The Agents whose notification channel holds its token. -/
  tokens : List String
  creating : List Creating
  calls : List NextCall

/-- No session and no call. -/
def Broker.new (clock : Int) : Broker := ⟨clock, Table.empty, [], [], []⟩

/-- The pieces of the calls between two points where another call can act. -/
inductive Action
  | advance (duration : Nat)
  /-- `Create` up to the lock; `raw` is what the random source returns. -/
  | create (request : CreateRequest) (raw : Vector UInt8 16)
  /-- `Create` under the lock; `receiver` is the blocked call that gets the notification. -/
  | commit (index : Nat) (receiver : Option Nat)
  | next (agentID : String)
  /-- `Next` under the lock; `order` is the order of the map. -/
  | scan (call : Nat) (order : List Entry)
  /-- The `select` of `Next`, if its context is not done. -/
  | receive (call : Nat)
  /-- The context of a waiting `Next` is done. -/
  | cancel (call : Nat)
  | finish (agentID sessionID : String) (result : Result)
  | status (sessionID : String) (userDigest : Digest)
deriving DecidableEq

/-- What callers see.  An event of a lock section carries the clock reading it pruned with. -/
inductive Event
  | silent
  /-- `Create` failed before the lock. -/
  | rejected (request : CreateRequest) (message : String)
  /-- `Create` has drawn its ID. -/
  | drawn (id : String)
  | created (request : CreateRequest) (id : String) (now : Int)
  /-- `Create` failed under the lock. -/
  | refused (request : CreateRequest) (now : Int) (message : String)
  | offered (agentID : String) (offer : Offer) (now : Int)
  /-- `Next` found nothing. -/
  | idle (agentID : String) (now : Int)
  /-- `Finish` failed before the lock. -/
  | malformed (agentID sessionID : String) (result : Result) (message : String)
  | finished (agentID sessionID : String) (result : Result) (now : Int)
    (outcome : Except BrokerError Unit)
  | status (sessionID : String) (userDigest : Digest) (now : Int)
    (outcome : Except BrokerError Status)
deriving DecidableEq

/-- The clock reading that a lock section pruned with. -/
def Event.now : Event → Option Int
  | .created _ _ now => some now
  | .refused _ now _ => some now
  | .offered _ _ now => some now
  | .idle _ now => some now
  | .finished _ _ _ now _ => some now
  | .status _ _ now _ => some now
  | _ => none

namespace Broker

variable (u : Unicode) (b : Broker)

/-- A call is blocked on the channel of an Agent. -/
def blockedOn (agentID : String) (call : NextCall) : Bool :=
  call.agentID = agentID && call.pc = .blocked

/-- The send in `Create`: a blocked receiver gets the token, or the channel keeps it, or it
    is dropped because the channel is full.  `none` if `receiver` is not a blocked call though
    there is one, or the other way round. -/
def notify (agentID : String) (receiver : Option Nat) : Option Broker :=
  match receiver with
  | some i =>
    match b.calls[i]? with
    | none => none
    | some call =>
      if blockedOn agentID call then
        some { b with calls := b.calls.set i { call with pc := .scanning } }
      else none
  | none =>
    if b.calls.any (blockedOn agentID) then none
    else if agentID ∈ b.tokens then some b
    else some { b with tokens := agentID :: b.tokens }

/-- `Create` up to the lock. -/
def beginCreate (request : CreateRequest) (raw : Vector UInt8 16) : Broker × Event :=
  match request.check u with
  | .error message => (b, .rejected request message)
  | .ok () =>
    ({ b with creating := ⟨request, randomID raw, b.clock⟩ :: b.creating }, .drawn (randomID raw))

/-- `Create` under the lock. -/
def commit (index : Nat) (receiver : Option Nat) : Option (Broker × Event) :=
  match b.creating[index]? with
  | none => none
  | some c =>
    match createLocked b.sessions c.request c.id c.now with
    | (sessions, .error message) =>
      some ({ b with sessions := sessions, creating := b.creating.eraseIdx index },
        .refused c.request c.now message)
    | (sessions, .ok id) =>
      match { b with sessions := sessions, creating := b.creating.eraseIdx index }.notify
          c.request.agentID receiver with
      | none => none
      | some b' => some (b', .created c.request id c.now)

/-- `Next` under the lock. -/
def scan (index : Nat) (order : List Entry) : Option (Broker × Event) :=
  match b.calls[index]? with
  | none => none
  | some call =>
    let live := pruneLocked b.clock b.sessions
    if call.pc ≠ .scanning ∨ order.isPerm live.rows = false then none
    else
      match selectNext call.agentID order with
      | some selected =>
        some ({ b with
            sessions := claim live selected.id
            calls := b.calls.set index { call with pc := .returned } },
          .offered call.agentID selected.toOffer b.clock)
      | none =>
        some ({ b with
            sessions := live
            calls := b.calls.set index { call with pc := .unlocked } },
          .idle call.agentID b.clock)

/-- The `select` of `Next`: take the token, or block.  A blocked call is woken by `notify`. -/
def receive (index : Nat) : Option Broker :=
  match b.calls[index]? with
  | none => none
  | some call =>
    if call.pc ≠ .unlocked then none
    else if call.agentID ∈ b.tokens then
      some { b with
        tokens := b.tokens.erase call.agentID
        calls := b.calls.set index { call with pc := .scanning } }
    else some { b with calls := b.calls.set index { call with pc := .blocked } }

/-- The context of a `Next` that waits is cancelled. -/
def cancel (index : Nat) : Option Broker :=
  match b.calls[index]? with
  | none => none
  | some call =>
    if call.waiting then some { b with calls := b.calls.set index { call with pc := .returned } }
    else none

/-- `Finish`. -/
def finish (agentID sessionID : String) (result : Result) : Broker × Event :=
  match result.check u with
  | .error message => (b, .malformed agentID sessionID result message)
  | .ok () =>
    match finishLocked b.sessions b.clock agentID sessionID result with
    | (sessions, outcome) =>
      ({ b with sessions := sessions }, .finished agentID sessionID result b.clock outcome)

/-- `Status`. -/
def status (sessionID : String) (userDigest : Digest) : Broker × Event :=
  match statusLocked b.sessions b.clock sessionID userDigest with
  | (sessions, outcome) =>
    ({ b with sessions := sessions }, .status sessionID userDigest b.clock outcome)

/-- One step of the broker. -/
def step : Action → Option (Broker × Event)
  | .advance duration => some ({ b with clock := b.clock + duration }, .silent)
  | .create request raw => some (b.beginCreate u request raw)
  | .commit index receiver => b.commit index receiver
  | .next agentID => some ({ b with calls := b.calls ++ [⟨agentID, .scanning⟩] }, .silent)
  | .scan call order => b.scan call order
  | .receive call => (b.receive call).map (·, .silent)
  | .cancel call => (b.cancel call).map (·, .silent)
  | .finish agentID sessionID result => some (b.finish u agentID sessionID result)
  | .status sessionID userDigest => some (b.status sessionID userDigest)

end Broker

/-- The broker and its callers, started at some time. -/
def brokerSystem (u : Unicode) (start : Int) : System Broker Action Event where
  init := Broker.new start
  step := Broker.step u

/-- A recorded history of the broker, the latest step first. -/
abbrev History := List (Transition Broker Action Event)

end WebVPN.Signaling
