import WebVPN.Agent.Runtime

namespace WebVPN.Agent

open WebVPN.Library WebVPN.Signaling

/-!
# Agent — the list of all steps

Every step of an Agent, once, with its guard and its result.  All that is said about peers is
derived from these lists by cases.

* `Task.Step` — a piece of a goroutine that a control request has started;
* `Peer.Step` — a step of one peer: its data channels, their messages, its goroutines, its Wisp
  servers, their dials, and a call of `close`;
* `Runtime.Step` — a step of the Agent: offers, `addAlias`, the body of `close`, or a step of a peer;
* `Env.stepTask_cases`, `Env.stepPeer_cases`, `Env.step_cases` — the inversions;
* `Runtime.Step.origin`, `Runtime.Step.next` — what a step of the Agent does to one peer.
-/

/-! ### Goroutines of control requests -/

/-- The ways in which a goroutine of the peer with this index can take a step. -/
inductive Task.Step (env : Env) (index : Nat) (peer : Peer) (world : World) :
    Task → Peer → Task → Event → Prop
  | configured (channel : Nat) (input : ControlInput) (target : CompiledTemporaryTarget)
      (htarget : peer.temporaryTarget = some target) :
      Step env index peer world (.checking channel input) peer
        (.replying channel (.temporary input.id "invalid_request")) .none
  | unconfigured (channel : Nat) (input : ControlInput) (htarget : peer.temporaryTarget = none) :
      Step env index peer world (.checking channel input) peer (.preparing channel input) .none
  | refused (channel : Nat) (input : ControlInput) (e : PolicyError)
      (hprepare : env.policy.prepareTemporary env.platform world.answer world.localAddresses
        world.files (Env.requestedTarget peer input) = .error e) :
      Step env index peer world (.preparing channel input) peer
        (.replying channel (.temporary input.id (diagnosticCode e))) .none
  | prepared (channel : Nat) (input : ControlInput) (target : CompiledTemporaryTarget)
      (hprepare : env.policy.prepareTemporary env.platform world.answer world.localAddresses
        world.files (Env.requestedTarget peer input) = .ok target) :
      Step env index peer world (.preparing channel input) peer (.storing channel input.id target)
        (.prepared index target (world.localAddresses.getD []))
  | late (channel : Nat) (id : String) (target target' : CompiledTemporaryTarget)
      (htarget : peer.temporaryTarget = some target') :
      Step env index peer world (.storing channel id target) peer
        (.replying channel (.temporary id "invalid_request")) .none
  | stored (channel : Nat) (id : String) (target : CompiledTemporaryTarget)
      (htarget : peer.temporaryTarget = none) :
      Step env index peer world (.storing channel id target)
        { peer with temporaryTarget := some target } (.replying channel (.temporary id "ok")) .none
  | diagnosed (channel : Nat) (input : ControlInput) :
      Step env index peer world (.diagnosing channel input) peer
        (env.runDiagnostic peer channel input world.answer) .none
  | pinged (channel : Nat) (id : String) (address : Addr) (code : String) (rtt : Option Nat)
      (hcode : code = "ok" ∨ code = "unavailable") :
      Step env index peer world (.pinging channel id address) peer
        (.replying channel { Reply.diagnostic id code with rtt := rtt }) (.ping index address)
  | replied (channel : Nat) (reply : Reply) (hsent : world.sent = true) :
      Step env index peer world (.replying channel reply) { peer with slots := peer.slots - 1 }
        .finished (.reply index reply)
  | unsent (channel : Nat) (reply : Reply) (hsent : world.sent = false) :
      Step env index peer world (.replying channel reply)
        ({ peer with slots := peer.slots - 1 }.closeChannel channel) .finished (.reply index reply)

theorem Env.stepTask_cases {env : Env} {index : Nat} {peer peer' : Peer} {world : World}
    {task task' : Task} {e : Event} (h : env.stepTask index peer world task = some (peer', task', e)) :
    Task.Step env index peer world task peer' task' e := by
  cases task with
  | checking channel input =>
    simp only [Env.stepTask] at h
    split at h <;> cases h
    · exact .configured channel input _ ‹_›
    · exact .unconfigured channel input ‹_›
  | preparing channel input =>
    simp only [Env.stepTask] at h
    split at h <;> cases h
    · exact .refused channel input _ ‹_›
    · exact .prepared channel input _ ‹_›
  | storing channel id target =>
    simp only [Env.stepTask] at h
    split at h <;> cases h
    · exact .late channel id target _ ‹_›
    · exact .stored channel id target ‹_›
  | diagnosing channel input =>
    cases h
    exact .diagnosed channel input
  | pinging channel id address =>
    simp only [Env.stepTask] at h
    cases hrtt : world.rtt with
    | none =>
      rw [hrtt] at h
      cases h
      exact .pinged channel id address "unavailable" none (.inr rfl)
    | some rtt =>
      rw [hrtt] at h
      cases h
      exact .pinged channel id address "ok" (some rtt) (.inl rfl)
  | replying channel reply =>
    simp only [Env.stepTask] at h
    cases hsent : world.sent with
    | true =>
      rw [hsent] at h
      cases h
      exact .replied channel reply hsent
    | false =>
      rw [hsent] at h
      cases h
      exact .unsent channel reply hsent
  | finished => cases h

/-- A diagnostic ends in a reply to the diagnostic, or pings first. -/
theorem Env.runDiagnostic_cases (env : Env) (peer : Peer) (channel : Nat) (input : ControlInput)
    (answer : Option (List Addr)) :
    (∃ code addresses, env.runDiagnostic peer channel input answer =
      .replying channel { Reply.diagnostic input.id code with addresses := addresses }) ∨
    ∃ address, env.runDiagnostic peer channel input answer = .pinging channel input.id address := by
  unfold Env.runDiagnostic
  split
  · simp only
    split
    · exact .inl ⟨_, [], rfl⟩
    · exact .inl ⟨_, _, rfl⟩
  · simp only
    split
    · exact .inl ⟨_, [], rfl⟩
    · exact .inl ⟨_, [], rfl⟩
    · exact .inr ⟨_, rfl⟩

/-! ### Control messages -/

/-- What `handleControl` comes to: the channel is closed, an answer at once, or a goroutine. -/
inductive Controlled (env : Env) (peer : Peer) (channel : Nat) (data : List UInt8) :
    Peer × Option Reply → Prop
  | closed : Controlled env peer channel data (peer.closeChannel channel, none)
  | answered (reply : Reply) (hcode : reply.code ≠ "ok") :
      Controlled env peer channel data (peer, some reply)
  | diagnosing (input : ControlInput) (hdecode : env.decodeControl data = some input)
      (hslot : peer.slots < 2) :
      Controlled env peer channel data
        ({ peer with
            slots := peer.slots + 1
            tasks := peer.tasks ++ [.diagnosing channel input] }, none)
  | checking (input : ControlInput) (hdecode : env.decodeControl data = some input)
      (hslot : peer.slots < 2) (htemporary : peer.temporary = true)
      (htype : input.type = "temporary_target") :
      Controlled env peer channel data
        ({ peer with
            slots := peer.slots + 1
            tasks := peer.tasks ++ [.checking channel input] }, none)

theorem Env.handleControl_cases (env : Env) (peer : Peer) (channel : Nat) (isString : Bool)
    (data : List UInt8) :
    Controlled env peer channel data (env.handleControl peer channel isString data) := by
  unfold Env.handleControl
  split
  · exact .closed
  split
  · exact .closed
  rename_i input hdecode
  split
  · split
    · exact .closed
    · exact .answered .pong (by decide)
  split
  · split
    · exact .answered (.diagnostic input.id "invalid_request") (show "invalid_request" ≠ "ok" by decide)
    · unfold Env.startTask
      split
      · exact .diagnosing input hdecode ‹_›
      · exact .answered (.diagnostic input.id "busy") (show "busy" ≠ "ok" by decide)
  split
  · rename_i htype
    split
    · exact .answered (.temporary input.id "invalid_request") (show "invalid_request" ≠ "ok" by decide)
    · rename_i hvalid
      have htemporary : peer.temporary = true := by
        rw [not_or] at hvalid
        simpa using hvalid.1
      unfold Env.startTask
      split
      · exact .checking input hdecode ‹_› htemporary htype
      · exact .answered (.temporary input.id "busy") (show "busy" ≠ "ok" by decide)
  · exact .closed

/-! ### Peers -/

/-- The ways in which the peer with this index can take a step. -/
inductive Peer.Step (env : Env) (index : Nat) (peer : Peer) : Action → Peer → Event → Prop
  | refused (i : Nat) (label : String) (reliable : Bool)
      (hinvalid : (env.validLabel peer label && reliable) = false) :
      Step env index peer (.channel i label reliable)
        { peer with channels := peer.channels ++ [.closed] } .none
  | opened (i : Nat) (label : String) (hvalid : env.validLabel peer label = true) :
      Step env index peer (.channel i label true)
        { peer with channels := peer.channels ++ [.unauthenticated label] } .none
  | rejected (i channel : Nat) (isString : Bool) (data : List UInt8) (sent : Bool) (label : String)
      (hchannel : peer.channels[channel]? = some (.unauthenticated label))
      (hreason : isString = false ∨ env.verifyCapability data peer.capabilityDigest = false ∨
        label ∈ peer.labels ∨ 4 ≤ peer.labels.length) :
      Step env index peer (.message i channel isString data sent) (peer.closeChannel channel) .none
  | unacknowledged (i channel : Nat) (data : List UInt8) (label : String)
      (hchannel : peer.channels[channel]? = some (.unauthenticated label))
      (hverify : env.verifyCapability data peer.capabilityDigest = true)
      (hlabel : label ∉ peer.labels) (hroom : peer.labels.length < 4) :
      Step env index peer (.message i channel true data false)
        ({ peer with labels := label :: peer.labels }.closeChannel channel) .none
  | authenticated (i channel : Nat) (data : List UInt8) (label : String)
      (hchannel : peer.channels[channel]? = some (.unauthenticated label))
      (hverify : env.verifyCapability data peer.capabilityDigest = true)
      (hlabel : label ∉ peer.labels) (hroom : peer.labels.length < 4) :
      Step env index peer (.message i channel true data true)
        ({ peer with labels := label :: peer.labels }.setChannel channel
          (if label = controlLabel then .control else .authenticated)) .none
  | controlled (i channel : Nat) (isString : Bool) (data : List UInt8) (sent : Bool) (peer' : Peer)
      (hchannel : peer.channels[channel]? = some .control)
      (hcontrol : Controlled env peer channel data (peer', none)) :
      Step env index peer (.message i channel isString data sent) peer' .none
  | answered (i channel : Nat) (isString : Bool) (data : List UInt8) (sent : Bool) (reply : Reply)
      (hchannel : peer.channels[channel]? = some .control) (hcode : reply.code ≠ "ok") :
      Step env index peer (.message i channel isString data sent)
        (if sent then peer else peer.closeChannel channel) (.reply index reply)
  | notReady (i channel : Nat) (isString : Bool) (data : List UInt8) (sent : Bool)
      (hchannel : peer.channels[channel]? = some .authenticated) :
      Step env index peer (.message i channel isString data sent) (peer.closeChannel channel) .none
  | ready (i channel : Nat) (sent : Bool)
      (hchannel : peer.channels[channel]? = some .authenticated) :
      Step env index peer (.message i channel true authenticatedReady sent)
        (peer.setChannel channel (.wisp .new)) .none
  | received (i channel : Nat) (isString : Bool) (data : List UInt8) (sent : Bool)
      (server server' : Wisp.Server) (hchannel : peer.channels[channel]? = some (.wisp server))
      (hstep : server.step (.message data) = some server') :
      Step env index peer (.message i channel isString data sent)
        (peer.setChannel channel (.wisp server')) .none
  | task (i number : Nat) (world : World) (task task' : Task) (peer' : Peer) (e : Event)
      (htask : peer.tasks[number]? = some task)
      (hstep : Task.Step env index peer world task peer' task' e) :
      Step env index peer (.task i number world) { peer' with tasks := peer'.tasks.set number task' } e
  | wisp (i channel : Nat) (action : Wisp.Action) (server server' : Wisp.Server)
      (hchannel : peer.channels[channel]? = some (.wisp server))
      (hmessage : ∀ data, action ≠ .message data)
      (hdial : ∀ ref result, action ≠ .stream ref (.dialReturns result))
      (hstep : server.step action = some server') :
      Step env index peer (.wisp i channel action) (peer.setChannel channel (.wisp server')) .none
  | dialed (i channel ref : Nat) (answer : Option (List Addr)) (network : Option Wisp.Conn)
      (server server' : Wisp.Server) (st : Wisp.Stream) (hostname : List UInt8) (port : UInt16)
      (hchannel : peer.channels[channel]? = some (.wisp server))
      (hst : server.table[ref]? = some st) (hconnect : st.connect = .dialing hostname port)
      (hstep : server.step (.stream ref (.dialReturns (Env.dialResult (env.serviceDial peer answer
        (env.platform.unicode.runes hostname) port) network))) = some server') :
      Step env index peer (.dial i channel ref answer network)
        (peer.setChannel channel (.wisp server'))
        (Env.dialEvent index (env.serviceDial peer answer (env.platform.unicode.runes hostname) port))
  | closeCalled (i : Nat) : Step env index peer (.closePeer i) peer.callClose .none

section Peers

variable {env : Env} {index : Nat} {peer peer' : Peer} {a : Action} {e : Event}

/-- The first message of a channel. -/
theorem Env.authenticate_step (env : Env) (index : Nat) (peer : Peer) {i channel : Nat} {label : String}
    (isString : Bool) (data : List UInt8) (sent : Bool)
    (hchannel : peer.channels[channel]? = some (.unauthenticated label)) :
    peer.Step env index (.message i channel isString data sent)
      (env.authenticate peer channel label isString data sent) .none := by
  unfold Env.authenticate
  split
  · rename_i hinvalid
    exact .rejected i channel isString data sent label hchannel (hinvalid.imp_right .inl)
  rename_i haccepted
  simp only [not_or, Bool.not_eq_false] at haccepted
  obtain ⟨rfl, hverify⟩ := haccepted
  unfold Peer.reserveLabel
  by_cases htaken : label ∈ peer.labels ∨ 4 ≤ peer.labels.length
  · rw [if_pos htaken]
    exact .rejected i channel true data sent label hchannel (.inr (.inr htaken))
  rw [if_neg htaken]
  have hfree : label ∉ peer.labels ∧ peer.labels.length < 4 := by simpa [not_or] using htaken
  cases sent with
  | false => exact .unacknowledged i channel data label hchannel hverify hfree.1 hfree.2
  | true => exact .authenticated i channel data label hchannel hverify hfree.1 hfree.2

theorem Env.stepMessage_cases {i channel : Nat} {isString : Bool} {data : List UInt8} {sent : Bool}
    (h : env.stepMessage index peer channel isString data sent = some (peer', e)) :
    peer.Step env index (.message i channel isString data sent) peer' e := by
  unfold Env.stepMessage at h
  split at h
  · rename_i label hchannel
    cases h
    exact env.authenticate_step index peer isString data sent hchannel
  · rename_i hchannel
    have hcontrol := env.handleControl_cases peer channel isString data
    generalize env.handleControl peer channel isString data = outcome at hcontrol h
    obtain ⟨peer₁, reply | reply⟩ := outcome
    · cases h
      exact .controlled i channel isString data sent peer' hchannel hcontrol
    · cases h
      cases hcontrol with
      | answered _ hcode => exact .answered i channel isString data sent reply hchannel hcode
  · rename_i hchannel
    split at h
    · cases h
      exact .notReady i channel isString data sent hchannel
    · rename_i hready
      simp only [not_or, Bool.not_eq_false, not_not] at hready
      obtain ⟨rfl, rfl⟩ := hready
      cases h
      exact .ready i channel sent hchannel
  · rename_i server hchannel
    split at h
    · cases h
    · rename_i server' hstep
      cases h
      exact .received i channel isString data sent server server' hchannel hstep
  · cases h

/-- **Inversion for one peer.** -/
theorem Env.stepPeer_cases (h : env.stepPeer index peer a = some (peer', e)) :
    peer.Step env index a peer' e := by
  cases a with
  | channel i label reliable =>
    simp only [Env.stepPeer, Env.onDataChannel] at h
    cases hvalid : env.validLabel peer label && reliable with
    | false =>
      rw [hvalid] at h
      cases h
      exact .refused i label reliable hvalid
    | true =>
      rw [hvalid] at h
      cases h
      obtain ⟨hlabel, rfl⟩ := Bool.and_eq_true_iff.mp hvalid
      exact .opened i label hlabel
  | message i channel isString data sent => exact Env.stepMessage_cases h
  | task i number world =>
    simp only [Env.stepPeer] at h
    split at h
    · cases h
    rename_i task htask
    split at h
    · cases h
    rename_i peer₁ task' e₁ hstep
    cases h
    exact .task i number world task task' peer₁ e htask (Env.stepTask_cases hstep)
  | wisp i channel action =>
    simp only [Env.stepPeer] at h
    split at h
    · cases h
    rename_i peer₁ hwisp
    cases h
    unfold Env.stepWisp at hwisp
    split at hwisp
    · cases hwisp
    · cases hwisp
    · rename_i server hchannel hmessage hdial
      split at hwisp
      · cases hwisp
      split at hwisp
      · cases hwisp
      · rename_i server' hstep
        cases hwisp
        exact .wisp i channel _ server server' hchannel hmessage hdial hstep
    · cases hwisp
  | dial i channel ref answer network =>
    simp only [Env.stepPeer] at h
    split at h
    · rename_i server hchannel
      split at h
      · cases h
      rename_i server' event hdial
      cases h
      unfold Env.dialStream at hdial
      split at hdial
      · cases hdial
      rename_i st hst
      split at hdial
      · rename_i hostname port hconnect
        simp only at hdial
        split at hdial
        · cases hdial
        · rename_i hstep
          cases hdial
          exact .dialed i channel ref answer network server server' st hostname port hchannel hst
            hconnect hstep
      · cases hdial
    · cases h
  | closePeer i =>
    cases h
    exact .closeCalled i
  | offer | negotiated | register | stepClose => cases h

end Peers

/-! ### The Agent -/

/-- How an offer is accepted. -/
inductive Accepts (s : Runtime) (offer : Offer) (p : Nat) (peers : List Peer) : Prop
  | created {digest : Digest} (hdigest : decodeCapabilityDigest offer.capabilityDigest = some digest)
      (hnew : offer.restartOf = "") (hp : p = s.peers.length)
      (hpeers : peers = s.peers ++ [Peer.new offer.serviceID digest offer.temporary]) :
      Accepts s offer p peers
  | restarted {peer : Peer}
      (hdigest : decodeCapabilityDigest offer.capabilityDigest = some peer.capabilityDigest)
      (hrestart : offer.restartOf ≠ "") (hpeer : s.peers[p]? = some peer)
      (hcount : peer.restartCount < maxICERestarts)
      (hpeers : peers = s.peers.set p { peer with restartCount := peer.restartCount + 1 }) :
      Accepts s offer p peers

/-- The peer that a step is a step of. -/
def Action.peer? : Action → Option Nat
  | .channel peer _ _ => some peer
  | .message peer _ _ _ _ => some peer
  | .task peer _ _ => some peer
  | .wisp peer _ _ => some peer
  | .dial peer _ _ _ _ => some peer
  | .closePeer peer => some peer
  | .offer _ _ | .negotiated _ | .register | .stepClose _ => none

/-- The ways in which an Agent can take a step. -/
inductive Runtime.Step (env : Env) (s : Runtime) : Action → Runtime → Event → Prop
  | offerRefused (offer : Offer) (created : Bool) (code : String) :
      Step env s (.offer offer created) s (.refused code)
  | offerAccepted (offer : Offer) (created : Bool) (p : Nat) (peers : List Peer)
      (hidle : s.accepting = .idle) (haccepts : Accepts s offer p peers) :
      Step env s (.offer offer created)
        { s with peers := peers, accepting := .negotiating p offer } .none
  | negotiated (index : Nat) (offer : Offer) (peer : Peer)
      (haccepting : s.accepting = .negotiating index offer) (hpeer : s.peers[index]? = some peer) :
      Step env s (.negotiated true)
        { s with
          peers := s.peers.set index { peer with aliases := offer.id :: peer.aliases }
          accepting := .registering index offer.id } .none
  | negotiationFailed (index : Nat) (offer : Offer) (peer : Peer)
      (haccepting : s.accepting = .negotiating index offer) (hpeer : s.peers[index]? = some peer) :
      Step env s (.negotiated false)
        { s with
          peers := s.peers.set index (if offer.restartOf = "" then peer.callClose else peer)
          accepting := .idle } (.refused "negotiation_failed")
  | registered (index : Nat) (id : String) (haccepting : s.accepting = .registering index id) :
      Step env s .register
        { s with
          registry := (id, index) :: s.registry.filter (fun e => e.1 ≠ id)
          accepting := .idle } (.accepted index)
  | collected (index : Nat) (peer : Peer) (hpeer : s.peers[index]? = some peer)
      (hclosing : peer.closing = some .cancelled) :
      Step env s (.stepClose index)
        { s with peers := s.peers.set index { peer with closing := some (.collected peer.aliases) } }
        .none
  | deleted (index : Nat) (peer : Peer) (aliases : List String) (hpeer : s.peers[index]? = some peer)
      (hclosing : peer.closing = some (.collected aliases)) :
      Step env s (.stepClose index)
        { s with
          peers := s.peers.set index { peer with closing := some .done }
          registry := s.registry.filter (fun e => ¬ (e.1 ∈ aliases ∧ e.2 = index)) } .none
  | stepped (index : Nat) (peer peer' : Peer) (a : Action) (e : Event) (ha : a.peer? = some index)
      (hpeer : s.peers[index]? = some peer) (hstep : peer.Step env index a peer' e) :
      Step env s a { s with peers := s.peers.set index peer' } e

section Agents

variable {env : Env} {s s' : Runtime} {a : Action} {e : Event} {peers : List Peer}

theorem acceptOffer_cases {offer : Offer} {created : Bool} {p : Nat}
    (h : env.acceptOffer s offer created = .ok (p, peers)) : Accepts s offer p peers := by
  unfold Env.acceptOffer at h
  split at h
  · cases h
  split at h
  · cases h
  rename_i digest hdigest
  split at h
  · cases h
  split at h
  · rename_i hnew
    split at h
    · cases h
      exact .created hdigest hnew rfl rfl
    · cases h
  · rename_i hrestart
    split at h
    · cases h
    split at h
    · cases h
    rename_i peer hpeer
    split at h
    · cases h
    · rename_i hmatch
      simp only [not_or, not_not, Nat.not_le] at hmatch
      cases h
      exact .restarted (hmatch.2.1 ▸ hdigest) hrestart hpeer hmatch.2.2.2 rfl

/-- A step of one peer. -/
theorem Env.step_of_peer {index : Nat} (ha : a.peer? = some index) :
    env.step s a = s.peers[index]?.bind (fun peer => (env.stepPeer index peer a).map
      (fun r => ({ s with peers := s.peers.set index r.1 }, r.2))) := by
  cases a with
  | offer | negotiated | register | stepClose => cases ha
  | _ =>
    obtain rfl := Option.some.inj ha
    simp only [Env.step]
    split
    · rename_i hnone
      rw [hnone]
      rfl
    rename_i peer hpeer
    rw [hpeer, Option.bind_some]
    split
    · rename_i hnone
      rw [hnone]
      rfl
    · rename_i hstep
      rw [hstep]
      rfl

/-- **Inversion.**  Every step of the Agent is one of the listed ones. -/
theorem Env.step_cases (h : env.step s a = some (s', e)) : s.Step env a s' e := by
  have hone : ∀ index, a.peer? = some index → s.Step env a s' e := by
    intro index ha
    rw [Env.step_of_peer ha] at h
    obtain ⟨peer, hpeer, hrest⟩ := Option.bind_eq_some_iff.mp h
    obtain ⟨⟨peer', event⟩, hstep, heq⟩ := Option.map_eq_some_iff.mp hrest
    cases heq
    exact .stepped index peer peer' a _ ha hpeer (Env.stepPeer_cases hstep)
  cases a with
  | offer offer created =>
    simp only [Env.step] at h
    split at h
    · cases h
    rename_i hidle
    split at h
    · cases h
      exact .offerRefused offer created _
    · rename_i p peers haccept
      cases h
      exact .offerAccepted offer created p peers (not_not.mp hidle) (acceptOffer_cases haccept)
  | negotiated succeeded =>
    simp only [Env.step] at h
    split at h
    · rename_i index offer haccepting
      split at h
      · cases h
      rename_i peer hpeer
      cases succeeded with
      | true =>
        cases h
        exact .negotiated index offer peer haccepting hpeer
      | false =>
        cases h
        exact .negotiationFailed index offer peer haccepting hpeer
    · cases h
  | register =>
    simp only [Env.step] at h
    split at h
    · rename_i index id haccepting
      cases h
      exact .registered index id haccepting
    · cases h
  | stepClose index =>
    simp only [Env.step] at h
    split at h
    · cases h
    rename_i peer hpeer
    split at h
    · cases h
    rename_i peer' registry hclose
    cases h
    unfold Peer.stepClose at hclose
    split at hclose
    · cases hclose
    · cases hclose
      exact .collected index peer hpeer ‹_›
    · cases hclose
      exact .deleted index peer _ hpeer ‹_›
    · cases hclose
  | channel index label reliable => exact hone index rfl
  | message index channel isString data sent => exact hone index rfl
  | task index task world => exact hone index rfl
  | wisp index channel action => exact hone index rfl
  | dial index channel ref answer network => exact hone index rfl
  | closePeer index => exact hone index rfl

/-! ### One peer in a step of the Agent -/

/-- Two states of a peer that differ at most in what the Agent itself keeps in it: its aliases, how far
    its `close` has come and the number of its restarts. -/
structure Peer.Unmoved (peer peer' : Peer) : Prop where
  serviceID : peer'.serviceID = peer.serviceID
  temporary : peer'.temporary = peer.temporary
  temporaryTarget : peer'.temporaryTarget = peer.temporaryTarget
  capabilityDigest : peer'.capabilityDigest = peer.capabilityDigest
  labels : peer'.labels = peer.labels
  channels : peer'.channels = peer.channels
  tasks : peer'.tasks = peer.tasks
  slots : peer'.slots = peer.slots

theorem Peer.Unmoved.refl (peer : Peer) : peer.Unmoved peer := ⟨rfl, rfl, rfl, rfl, rfl, rfl, rfl, rfl⟩

theorem Peer.callClose_unmoved (peer : Peer) : peer.Unmoved peer.callClose := by
  unfold Peer.callClose
  split
  · exact ⟨rfl, rfl, rfl, rfl, rfl, rfl, rfl, rfl⟩
  · exact .refl peer

/-- What a step has made of a peer: the peer is new, or the step was not its own, or it was. -/
inductive Peer.Origin (env : Env) (s : Runtime) (a : Action) (e : Event) (p : Nat) (peer' : Peer) : Prop
  | new (serviceID : String) (digest : Digest) (temporary : Bool) (hlt : s.peers.length ≤ p)
      (ha : a.peer? = none) (hnew : peer' = Peer.new serviceID digest temporary) :
      Origin env s a e p peer'
  | unmoved (peer : Peer) (hpeer : s.peers[p]? = some peer) (ha : a.peer? ≠ some p)
      (hsame : peer.Unmoved peer') : Origin env s a e p peer'
  | stepped (peer : Peer) (hpeer : s.peers[p]? = some peer) (ha : a.peer? = some p)
      (hstep : peer.Step env p a peer' e) : Origin env s a e p peer'

/-- One peer is replaced by another state of it. -/
theorem Peer.Origin.of_set {index p : Nat} {peer peer₁ peer' : Peer}
    (hpeers : peers = s.peers.set index peer₁) (hpeer : s.peers[index]? = some peer)
    (hget : peers[p]? = some peer') (hown : index = p → Peer.Origin env s a e p peer₁)
    (hother : index ≠ p → a.peer? ≠ some p) : Peer.Origin env s a e p peer' := by
  have hlt : index < s.peers.length := (List.getElem?_eq_some_iff.mp hpeer).1
  rw [hpeers] at hget
  by_cases hp : index = p
  · subst hp
    rw [List.getElem?_set_self hlt] at hget
    obtain rfl := Option.some.inj hget
    exact hown rfl
  · rw [List.getElem?_set_ne hp] at hget
    exact .unmoved peer' hget (hother hp) (.refl peer')

/-- The Agent's own bookkeeping in a peer. -/
theorem Peer.Origin.of_unmoved {index p : Nat} {peer peer₁ peer' : Peer}
    (ha : a.peer? = none) (hpeers : peers = s.peers.set index peer₁)
    (hpeer : s.peers[index]? = some peer) (hsame : peer.Unmoved peer₁)
    (hget : peers[p]? = some peer') : Peer.Origin env s a e p peer' := by
  have hnone : a.peer? ≠ some p := by simp [ha]
  refine .of_set hpeers hpeer hget (fun hp => ?_) (fun _ => hnone)
  subst hp
  exact .unmoved peer hpeer hnone hsame

/-- **Inversion for one peer of the Agent.** -/
theorem Runtime.Step.origin (h : s.Step env a s' e) {p : Nat} {peer' : Peer}
    (hget : s'.peers[p]? = some peer') : Peer.Origin env s a e p peer' := by
  have hbook : ∀ peer : Peer, ∀ aliases closing restartCount, peer.Unmoved { peer with
      aliases := aliases, closing := closing, restartCount := restartCount } :=
    fun peer aliases closing restartCount => ⟨rfl, rfl, rfl, rfl, rfl, rfl, rfl, rfl⟩
  cases h with
  | offerRefused offer created code => exact .unmoved peer' hget (by simp [Action.peer?]) (.refl peer')
  | offerAccepted offer created q peers _ haccepts =>
    cases haccepts with
    | created _ _ _ hpeers =>
      have hget' : peers[p]? = some peer' := hget
      by_cases hlt : p < s.peers.length
      · rw [hpeers, List.getElem?_append_left hlt] at hget'
        exact .unmoved peer' hget' (by simp [Action.peer?]) (.refl peer')
      · rw [hpeers, List.getElem?_append_right (by omega), List.getElem?_singleton] at hget'
        split at hget'
        · exact .new _ _ _ (by omega) rfl (Option.some.inj hget').symm
        · cases hget'
    | restarted _ _ hpeer _ hpeers => exact .of_unmoved rfl hpeers hpeer (hbook _ _ _ _) hget
  | negotiated index offer peer _ hpeer => exact .of_unmoved rfl rfl hpeer (hbook _ _ _ _) hget
  | negotiationFailed index offer peer _ hpeer =>
    refine .of_unmoved rfl rfl hpeer ?_ hget
    split
    · exact peer.callClose_unmoved
    · exact .refl peer
  | registered index id _ => exact .unmoved peer' hget (by simp [Action.peer?]) (.refl peer')
  | collected index peer hpeer _ => exact .of_unmoved rfl rfl hpeer (hbook _ _ _ _) hget
  | deleted index peer aliases hpeer _ => exact .of_unmoved rfl rfl hpeer (hbook _ _ _ _) hget
  | stepped index peer peer₁ _ _ ha hpeer hstep =>
    refine .of_set rfl hpeer hget (fun hp => ?_) (fun hne heq => ?_)
    · subst hp
      exact .stepped peer hpeer ha hstep
    · exact hne (Option.some.inj (ha.symm.trans heq))

/-- Only a peer that is there takes steps. -/
theorem Runtime.Step.peer_lt (h : s.Step env a s' e) {p : Nat} (ha : a.peer? = some p) :
    p < s.peers.length := by
  cases h with
  | stepped index peer peer' _ _ hindex hpeer _ =>
    obtain rfl : index = p := Option.some.inj (hindex.symm.trans ha)
    exact (List.getElem?_eq_some_iff.mp hpeer).1
  | _ => cases ha

/-- No peer is forgotten. -/
theorem Runtime.Step.length_le (h : s.Step env a s' e) : s.peers.length ≤ s'.peers.length := by
  cases h with
  | offerAccepted offer created q peers _ haccepts =>
    cases haccepts with
    | created _ _ _ hpeers => simp [hpeers]
    | restarted _ _ _ _ hpeers => simp [hpeers]
  | _ => simp

/-- A peer that was there is there afterwards: the step was not its own, or it was. -/
theorem Runtime.Step.next (h : s.Step env a s' e) {p : Nat} {peer : Peer}
    (hpeer : s.peers[p]? = some peer) :
    ∃ peer', s'.peers[p]? = some peer' ∧ (peer.Unmoved peer' ∨ peer.Step env p a peer' e) := by
  have hlt : p < s.peers.length := (List.getElem?_eq_some_iff.mp hpeer).1
  have hget := List.getElem?_eq_getElem (lt_of_lt_of_le hlt h.length_le)
  refine ⟨_, hget, ?_⟩
  cases h.origin hget with
  | new _ _ _ hge _ _ => exact absurd hge (by omega)
  | unmoved current hcurrent _ hsame =>
    obtain rfl := Option.some.inj (hpeer.symm.trans hcurrent)
    exact .inl hsame
  | stepped current hcurrent _ hstep =>
    obtain rfl := Option.some.inj (hpeer.symm.trans hcurrent)
    exact .inr hstep

/-! ### Answers -/

theorem dialEvent_ne_reply (index q : Nat) (outcome : Except PolicyError Dial) (reply : Reply) :
    Env.dialEvent index outcome ≠ .reply q reply := by
  cases outcome <;> simp [Env.dialEvent]

/-- An answer on a control channel is given by a step of its peer. -/
theorem Runtime.Step.reply_peer {q : Nat} {reply : Reply} (h : s.Step env a s' e)
    (he : e = .reply q reply) : a.peer? = some q := by
  cases h with
  | stepped index peer peer' _ _ ha _ hstep =>
    rw [ha]
    cases hstep with
    | answered => cases he; rfl
    | task i number world task task' peer₁ e _ htask => cases htask <;> cases he <;> rfl
    | dialed => exact absurd he (dialEvent_ne_reply _ _ _ _)
    | _ => cases he
  | _ => cases he

end Agents

end WebVPN.Agent
