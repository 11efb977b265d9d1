import WebVPN.Agent.Policy
import WebVPN.Library.Json
import WebVPN.Signaling.Message
import WebVPN.Wisp.Server

namespace WebVPN.Agent

open WebVPN.Library WebVPN.Signaling

/-!
# Agent — peers, data channels and control requests

The `Runtime` of `internal/agent/runtime.go` as a `System`.  Its state is every peer ever
made, with its data channels and the goroutines its control requests started, and the map
from signaling ids to peers.  A Wisp channel carries a `Wisp.Server`; the dial function the
server calls is `serviceDial`, so a dial is one joint step of the stream that waits for it
and of the policy.

A step is one piece of one thread: a message handler of one channel, a piece of a goroutine
between two critical sections, a piece of the accept loop or of `peer.close`.  What the
world answers (the resolver, the interface list, files, the network, whether a send
succeeds) is part of the action, so it may be different every time.

What an observer sees is the `Event` of the step: the dials and pings, the temporary
targets that were prepared together with the Agent's own addresses at that moment, the
replies on control channels and the outcome of offers.
-/

/-! ### Control requests -/

/-- A decoded control message; a missing field has its zero value. -/
structure ControlInput where
  type : String
  id : String
  name : String
  host : String
  port : UInt16
  kind : String
deriving DecidableEq, Repr

/-- A reply on a control channel. -/
structure Reply where
  type : String
  id : String
  code : String
  addresses : List Addr
  rtt : Option Nat
deriving DecidableEq, Repr

/-- The answer to a ping. -/
def Reply.pong : Reply := ⟨"pong", "", "", [], none⟩
/-- The result of a diagnostic without further data. -/
def Reply.diagnostic (id code : String) : Reply := ⟨"diagnostic_result", id, code, [], none⟩
/-- The result for a temporary target. -/
def Reply.temporary (id code : String) : Reply := ⟨"temporary_result", id, code, [], none⟩

/-- The code of a policy error in a reply. -/
def diagnosticCode : PolicyError → String
  | .blocked _ => "blocked"
  | .other _ => "unavailable"

/-- `controlIDPattern`. -/
def validControlID (id : String) : Bool :=
  1 ≤ id.toList.length && id.toList.length ≤ 32 &&
    id.toList.all (fun c => labelCharacter c || c == '_')

/-- The fields of a control message. -/
def controlFields : List (StructField ControlInput) :=
  [stringField "type" ControlInput.type (fun text input => { input with type := text }),
    stringField "id" ControlInput.id (fun text input => { input with id := text }),
    stringField "name" ControlInput.name (fun text input => { input with name := text }),
    stringField "host" ControlInput.host (fun text input => { input with host := text }),
    ⟨"port", fun value input =>
      (decodeUInt16 value input.port).map (fun port => { input with port := port })⟩,
    stringField "kind" ControlInput.kind (fun text input => { input with kind := text })]

/-- The decoder of `handleControl`: one value without unknown fields, and nothing after it. -/
def decodeControl (u : Unicode) (data : List UInt8) : Option ControlInput :=
  (parseJSON (decodeRunes ⟨data.toArray⟩)).bind
    (fun value => decodeStruct u controlFields value ⟨"", "", "", "", 0, ""⟩)

/-- A goroutine started for a control request, by where it stands. -/
inductive Task
  | checking (channel : Nat) (input : ControlInput)
  | preparing (channel : Nat) (input : ControlInput)
  | storing (channel : Nat) (id : String) (target : CompiledTemporaryTarget)
  | diagnosing (channel : Nat) (input : ControlInput)
  | pinging (channel : Nat) (id : String) (address : Addr)
  | replying (channel : Nat) (reply : Reply)
  | finished
deriving DecidableEq

/-! ### Peers -/

/-- A data channel, by the message handler it has; `closed` if it was given none. -/
inductive Channel
  | closed
  | unauthenticated (label : String)
  | control
  | authenticated
  | wisp (server : Wisp.Server)
deriving DecidableEq

/-- How far `peer.close` has come. -/
inductive PeerClose
  | cancelled
  | collected (aliases : List String)
  | done
deriving DecidableEq, Repr

/-- A peer.  `slots` is the number of tokens in `diagnosticSlots`, and `shut` lists the channels that
    the code has called `Close` on.  Such a channel keeps its message handler, and what was under way
    may still arrive. -/
structure Peer where
  serviceID : String
  temporary : Bool
  temporaryTarget : Option CompiledTemporaryTarget
  capabilityDigest : Digest
  closing : Option PeerClose
  aliases : List String
  labels : List String
  restartCount : Nat
  slots : Nat
  channels : List Channel
  shut : List Nat
  tasks : List Task
deriving DecidableEq

/-- How often a peer may be restarted. -/
def maxICERestarts : Nat := 2

/-- `newPeer`. -/
def Peer.new (serviceID : String) (capabilityDigest : Digest) (temporary : Bool) : Peer where
  serviceID := serviceID
  temporary := temporary
  temporaryTarget := none
  capabilityDigest := capabilityDigest
  closing := none
  aliases := []
  labels := []
  restartCount := 0
  slots := 0
  channels := []
  shut := []
  tasks := []

/-- Another state for one channel. -/
def Peer.setChannel (peer : Peer) (channel : Nat) (c : Channel) : Peer :=
  { peer with channels := peer.channels.set channel c }

/-- `channel.Close()`. -/
def Peer.closeChannel (peer : Peer) (channel : Nat) : Peer :=
  { peer with shut := channel :: peer.shut }

/-- `reserveLabel`. -/
def Peer.reserveLabel (peer : Peer) (label : String) : Option Peer :=
  if label ∈ peer.labels ∨ 4 ≤ peer.labels.length then none
  else some { peer with labels := label :: peer.labels }

/-! ### The Agent -/

/-- What does not change while an Agent runs. -/
structure Env where
  platform : Platform
  config : Config
  policy : Policy
  sha256 : List UInt8 → Digest
  decodeControl : List UInt8 → Option ControlInput

/-- Where the accept loop stands. -/
inductive Accepting
  | idle
  | negotiating (peer : Nat) (offer : Offer)
  | registering (peer : Nat) (id : String)
deriving DecidableEq

/-- The state of an Agent; `registry` is `Runtime.peers`. -/
structure Runtime where
  peers : List Peer
  registry : List (String × Nat)
  accepting : Accepting

/-- What an observer sees of a step. -/
inductive Event
  | none
  | refused (code : String)
  | accepted (peer : Nat)
  | dial (peer : Nat) (dial : Dial)
  | ping (peer : Nat) (address : Addr)
  | prepared (peer : Nat) (target : CompiledTemporaryTarget) (own : List Addr)
  | reply (peer : Nat) (reply : Reply)
deriving DecidableEq

/-- What the world answers to one step of a goroutine. -/
structure World where
  answer : Option (List Addr)
  localAddresses : Option (List Addr)
  files : Files
  rtt : Option Nat
  sent : Bool

/-! ### Data channels -/

/-- What an authentication message begins with. -/
def authPrefix : List Char := "webvpn-auth-v1:".toList
/-- What the Agent answers to it. -/
def authenticatedReady : List UInt8 := "webvpn-auth-ready-v1".toUTF8.data.toList
/-- The label of the control channel. -/
def controlLabel : String := "webvpn-control-v1"
/-- The labels of the data channels. -/
def dataLabels : List String := ["wisp-interactive-v2", "wisp-bulk-v2", "guacamole-v1"]

namespace Env

variable (env : Env)

/-- `verifyCapability`. -/
def verifyCapability (data : List UInt8) (expected : Digest) : Bool :=
  let text := (env.platform.unicode.runes data).toList
  let value := String.ofList (text.drop authPrefix.length)
  authPrefix.isPrefixOf text && validateToken value && hashToken env.sha256 value == expected

/-- `validLabel`. -/
def validLabel (peer : Peer) (label : String) : Bool :=
  if label = controlLabel then true
  else if label ∉ dataLabels then false
  else if label = "guacamole-v1" then
    !peer.temporary &&
      (env.policy.service peer.serviceID).any (fun target => target.kind == "guacamole")
  else true

/-- `onDataChannel`; a channel that is not ordered and fully reliable is closed. -/
def onDataChannel (peer : Peer) (label : String) (reliable : Bool) : Peer :=
  let channel := if env.validLabel peer label && reliable then .unauthenticated label else .closed
  { peer with channels := peer.channels ++ [channel] }

/-- The first message of a channel: the capability.  `sent` is the outcome of sending the
    acknowledgement. -/
def authenticate (peer : Peer) (channel : Nat) (label : String) (isString : Bool)
    (data : List UInt8) (sent : Bool) : Peer :=
  if isString = false ∨ env.verifyCapability data peer.capabilityDigest = false then
    peer.closeChannel channel
  else
    match peer.reserveLabel label with
    | none => peer.closeChannel channel
    | some peer =>
      if sent = false then peer.closeChannel channel
      else peer.setChannel channel (if label = controlLabel then .control else .authenticated)

/-! ### Control messages -/

/-- Start a goroutine if a slot is free, otherwise reply `busy`. -/
def startTask (peer : Peer) (task : Task) (busy : Reply) : Peer × Option Reply :=
  if peer.slots < 2 then
    ({ peer with slots := peer.slots + 1, tasks := peer.tasks ++ [task] }, none)
  else (peer, some busy)

/-- `handleControl`: the peer afterwards and the reply that is sent at once, if there is one. -/
def handleControl (peer : Peer) (channel : Nat) (isString : Bool) (data : List UInt8) :
    Peer × Option Reply :=
  if isString = false ∨ 512 < data.length then (peer.closeChannel channel, none)
  else
    match env.decodeControl data with
    | none => (peer.closeChannel channel, none)
    | some input =>
      if input.type = "ping" then
        if input.id ≠ "" ∨ input.name ≠ "" ∨ input.host ≠ "" ∨ input.port ≠ 0 ∨ input.kind ≠ "" then
          (peer.closeChannel channel, none)
        else (peer, some .pong)
      else if input.type = "dns" ∨ input.type = "diagnostic_ping" then
        if validControlID input.id = false ∨ input.host ≠ "" ∨ input.port ≠ 0 ∨ input.kind ≠ "" ∨
            (input.type = "dns" ∧ validHostname env.platform input.name = false) ∨
            (input.type = "diagnostic_ping" ∧ input.name ≠ "") then
          (peer, some (.diagnostic input.id "invalid_request"))
        else startTask peer (.diagnosing channel input) (.diagnostic input.id "busy")
      else if input.type = "temporary_target" then
        if peer.temporary = false ∨ validControlID input.id = false ∨ input.name ≠ "" ∨
            input.host = "" ∨ input.port = 0 ∨ (input.kind ≠ "http" ∧ input.kind ≠ "https") then
          (peer, some (.temporary input.id "invalid_request"))
        else startTask peer (.checking channel input) (.temporary input.id "busy")
      else (peer.closeChannel channel, none)

/-- `runDiagnostic` up to its reply or its ping. -/
def runDiagnostic (peer : Peer) (channel : Nat) (input : ControlInput)
    (answer : Option (List Addr)) : Task :=
  if input.type = "dns" then
    let resolved := if peer.temporary
      then env.policy.resolveTemporaryName env.platform answer input.name
      else env.policy.resolveName env.platform answer peer.serviceID input.name
    match resolved with
    | .error e => .replying channel (.diagnostic input.id (diagnosticCode e))
    | .ok addresses =>
      .replying channel { Reply.diagnostic input.id "ok" with addresses := addresses.take 8 }
  else
    let resolved := if peer.temporary
      then .ok (match peer.temporaryTarget with | none => [] | some target => target.addresses)
      else env.policy.resolveTarget env.platform answer peer.serviceID
    match resolved with
    | .error e => .replying channel (.diagnostic input.id (diagnosticCode e))
    | .ok [] => .replying channel (.diagnostic input.id "unavailable")
    | .ok (address :: _) => .pinging channel input.id address

/-- The target a control request asks for. -/
def requestedTarget (peer : Peer) (input : ControlInput) : TemporaryTarget :=
  ⟨peer.serviceID, input.kind, input.host, input.port⟩

/-- One step of a goroutine: the peer with everything but the goroutine's own state, the
    goroutine's next state, and what is seen. -/
def stepTask (index : Nat) (peer : Peer) (world : World) : Task → Option (Peer × Task × Event)
  | .checking channel input =>
    match peer.temporaryTarget with
    | some _ => some (peer, .replying channel (.temporary input.id "invalid_request"), .none)
    | none => some (peer, .preparing channel input, .none)
  | .preparing channel input =>
    match env.policy.prepareTemporary env.platform world.answer world.localAddresses world.files
        (requestedTarget peer input) with
    | .error e => some (peer, .replying channel (.temporary input.id (diagnosticCode e)), .none)
    | .ok target => some (peer, .storing channel input.id target,
        .prepared index target (world.localAddresses.getD []))
  | .storing channel id target =>
    match peer.temporaryTarget with
    | some _ => some (peer, .replying channel (.temporary id "invalid_request"), .none)
    | none => some ({ peer with temporaryTarget := some target },
        .replying channel (.temporary id "ok"), .none)
  | .diagnosing channel input =>
    some (peer, env.runDiagnostic peer channel input world.answer, .none)
  | .pinging channel id address =>
    let reply := match world.rtt with
      | none => Reply.diagnostic id "unavailable"
      | some rtt => { Reply.diagnostic id "ok" with rtt := some rtt }
    some (peer, .replying channel reply, .ping index address)
  | .replying channel reply =>
    -- the deferred receive gives the slot back
    let peer := { peer with slots := peer.slots - 1 }
    some (if world.sent then peer else peer.closeChannel channel, .finished,
      .reply index reply)
  | .finished => none

/-! ### Dials -/

/-- The authority a peer of a configured service may dial. -/
def expectedAuthority (peer : Peer) : String × UInt16 :=
  match env.policy.virtualAuthority peer.serviceID with
  | .ok authority => authority
  | .error _ => ("", 0)

/-- `serviceDial`: the dial function of the peer's Wisp servers. -/
def serviceDial (peer : Peer) (answer : Option (List Addr)) (hostname : String) (port : UInt16) :
    Except PolicyError Dial :=
  if peer.temporary then
    Policy.dialTemporary env.platform peer.temporaryTarget hostname port
  else if env.platform.unicode.equalFold hostname (env.expectedAuthority peer).1 = false ∨
      port ≠ (env.expectedAuthority peer).2 then .error errBlocked
  else env.policy.dialVirtual env.platform answer hostname port

/-- What the Wisp server gets back from a dial; `network` is the connection, if the network
    gave one (and the TLS handshake succeeded). -/
def dialResult (dial : Except PolicyError Dial) (network : Option Wisp.Conn) : Wisp.DialResult :=
  match dial, network with
  | .error (.blocked _), _ => .error .blocked
  | .error (.other _), _ => .error .plain
  | .ok _, some c => .connection c
  | .ok _, none => .error .plain

/-- What is seen of a dial: nothing, when the policy refuses it. -/
def dialEvent (peer : Nat) : Except PolicyError Dial → Event
  | .error _ => .none
  | .ok dial => .dial peer dial

/-- The stream with reference `ref` of a Wisp server performs the dial it waits for. -/
def dialStream (index : Nat) (peer : Peer) (server : Wisp.Server) (ref : Nat)
    (answer : Option (List Addr)) (network : Option Wisp.Conn) : Option (Wisp.Server × Event) :=
  match server.table[ref]? with
  | none => none
  | some st =>
    match st.connect with
    | .dialing hostname port =>
      let dial := env.serviceDial peer answer (env.platform.unicode.runes hostname) port
      match server.step (.stream ref (.dialReturns (dialResult dial network))) with
      | none => none
      | some server' => some (server', dialEvent index dial)
    | _ => none

/-! ### Offers -/

/-- The policy has no place for the service of an offer. -/
def blocksOffer (offer : Offer) : Bool :=
  if offer.temporary then !env.policy.acceptsTemporary offer.serviceID
  else !(env.policy.virtualAuthority offer.serviceID).isOk

/-- `acceptOffer` up to the negotiation: a failure code, or the peer to negotiate with and
    the peers afterwards.  `created` is whether a peer connection could be made. -/
def acceptOffer (s : Runtime) (offer : Offer) (created : Bool) :
    Except String (Nat × List Peer) :=
  match validateDescription env.platform.unicode offer.offer "offer" with
  | .error _ => .error "invalid_offer"
  | .ok () =>
    match decodeCapabilityDigest offer.capabilityDigest with
    | none => .error "invalid_capability"
    | some digest =>
      if env.blocksOffer offer then .error "service_blocked"
      else if offer.restartOf = "" then
        if created then
          .ok (s.peers.length, s.peers ++ [Peer.new offer.serviceID digest offer.temporary])
        else .error "peer_setup_failed"
      else
        match s.registry.lookup offer.restartOf with
        | none => .error "restart_rejected"
        | some index =>
          match s.peers[index]? with
          | none => .error "restart_rejected"
          | some peer =>
            if peer.serviceID ≠ offer.serviceID ∨ peer.capabilityDigest ≠ digest ∨
                peer.temporary ≠ offer.temporary ∨ maxICERestarts ≤ peer.restartCount then
              .error "restart_rejected"
            else
              .ok (index, s.peers.set index { peer with restartCount := peer.restartCount + 1 })

end Env

/-- `peer.close` is called: only the first call enters it. -/
def Peer.callClose (peer : Peer) : Peer :=
  match peer.closing with
  | none => { peer with closing := some .cancelled }
  | some _ => peer

/-- One step of `peer.close`, with the map afterwards. -/
def Peer.stepClose (index : Nat) (peer : Peer) (registry : List (String × Nat)) :
    Option (Peer × List (String × Nat)) :=
  match peer.closing with
  | none => none
  | some .cancelled => some ({ peer with closing := some (.collected peer.aliases) }, registry)
  | some (.collected aliases) =>
    some ({ peer with closing := some .done },
      registry.filter (fun e => ¬ (e.1 ∈ aliases ∧ e.2 = index)))
  | some .done => none

/-! ### Steps -/

/-- The steps of an Agent.  `closePeer` is a call of `close` from a callback, a timer or the
    main loop, `stepClose` a step of the function under its once-guard. -/
inductive Action
  | offer (offer : Offer) (created : Bool)
  | negotiated (succeeded : Bool)
  | register
  | channel (peer : Nat) (label : String) (reliable : Bool)
  | message (peer channel : Nat) (isString : Bool) (data : List UInt8) (sent : Bool)
  | task (peer index : Nat) (world : World)
  | wisp (peer channel : Nat) (action : Wisp.Action)
  | dial (peer channel ref : Nat) (answer : Option (List Addr)) (network : Option Wisp.Conn)
  | closePeer (peer : Nat)
  | stepClose (peer : Nat)

namespace Env

variable (env : Env)

/-- A message arrives on a channel. -/
def stepMessage (index : Nat) (peer : Peer) (channel : Nat) (isString : Bool)
    (data : List UInt8) (sent : Bool) : Option (Peer × Event) :=
  match peer.channels[channel]? with
  | some (.unauthenticated label) =>
    some (env.authenticate peer channel label isString data sent, .none)
  | some .control =>
    match env.handleControl peer channel isString data with
    | (peer, none) => some (peer, .none)
    | (peer, some reply) =>
      some (if sent then peer else peer.closeChannel channel, .reply index reply)
  | some .authenticated =>
    if isString = false ∨ data ≠ authenticatedReady then
      some (peer.closeChannel channel, .none)
    else some (peer.setChannel channel (.wisp .new), .none)
  | some (.wisp server) =>
    match server.step (.message data) with
    | none => none
    | some server' => some (peer.setChannel channel (.wisp server'), .none)
  | _ => none

/-- A step of a Wisp server other than a message or the return of a dial; its parent context
    is the peer's. -/
def stepWisp (peer : Peer) (channel : Nat) (action : Wisp.Action) : Option Peer :=
  match peer.channels[channel]?, action with
  | some (.wisp _), .message _ => none
  | some (.wisp _), .stream _ (.dialReturns _) => none
  | some (.wisp server), action =>
    if action = .cancelParent ∧ peer.closing = none then none
    else
      match server.step action with
      | none => none
      | some server' => some (peer.setChannel channel (.wisp server'))
  | _, _ => none

/-- A step of one peer. -/
def stepPeer (index : Nat) (peer : Peer) : Action → Option (Peer × Event)
  | .channel _ label reliable => some (env.onDataChannel peer label reliable, .none)
  | .message _ channel isString data sent => env.stepMessage index peer channel isString data sent
  | .task _ task world =>
    match peer.tasks[task]? with
    | none => none
    | some current =>
      match env.stepTask index peer world current with
      | none => none
      | some (peer', next, event) => some ({ peer' with tasks := peer'.tasks.set task next }, event)
  | .wisp _ channel action =>
    match stepWisp peer channel action with
    | none => none
    | some peer' => some (peer', .none)
  | .dial _ channel ref answer network =>
    match peer.channels[channel]? with
    | some (.wisp server) =>
      match env.dialStream index peer server ref answer network with
      | none => none
      | some (server', event) => some (peer.setChannel channel (.wisp server'), event)
    | _ => none
  | .closePeer _ => some (peer.callClose, .none)
  | _ => none

/-- One step of an Agent. -/
def step (s : Runtime) (a : Action) : Option (Runtime × Event) :=
  match a with
  | .offer offer created =>
    if s.accepting ≠ .idle then none
    else
      match env.acceptOffer s offer created with
      | .error code => some (s, .refused code)
      | .ok (peer, peers) =>
        some ({ s with peers := peers, accepting := .negotiating peer offer }, .none)
  | .negotiated succeeded =>
    match s.accepting with
    | .negotiating index offer =>
      match s.peers[index]? with
      | none => none
      | some peer =>
        if succeeded then
          some ({ s with
            peers := s.peers.set index { peer with aliases := offer.id :: peer.aliases }
            accepting := .registering index offer.id }, .none)
        else
          let peer' := if offer.restartOf = "" then peer.callClose else peer
          some ({ s with peers := s.peers.set index peer', accepting := .idle },
            .refused "negotiation_failed")
    | _ => none
  | .register =>
    match s.accepting with
    | .registering index id =>
      some ({ s with
        registry := (id, index) :: s.registry.filter (fun e => e.1 ≠ id)
        accepting := .idle }, .accepted index)
    | _ => none
  | .stepClose index =>
    match s.peers[index]? with
    | none => none
    | some peer =>
      match peer.stepClose index s.registry with
      | none => none
      | some (peer', registry) =>
        some ({ s with peers := s.peers.set index peer', registry := registry }, .none)
  | .channel index _ _ | .message index _ _ _ _ | .task index _ _ | .wisp index _ _
  | .dial index _ _ _ _ | .closePeer index =>
    match s.peers[index]? with
    | none => none
    | some peer =>
      match env.stepPeer index peer a with
      | none => none
      | some (peer', event) => some ({ s with peers := s.peers.set index peer' }, event)

/-- The Agent as a transition system. -/
def system : System Runtime Action Event where
  init := ⟨[], [], .idle⟩
  step := env.step

end Env

/-- A recorded history of the Agent, the latest step first. -/
abbrev History := List (Transition Runtime Action Event)

end WebVPN.Agent
