import WebVPN.Agent.Containment
import WebVPN.Wisp.Admission

namespace WebVPN.Agent

open WebVPN.Library WebVPN.Signaling

/-!
# Agent — the order in which a data channel is authorized

How far a channel has come is kept in the message handler that it has at the moment, and that
handler is replaced as messages arrive.  The predicates of this file say the same about the history:
what has happened on the channel, and in which order.

* `Env.Opened`, `Env.Authenticated`, `Env.Ready`, `Env.Greeted`, `Env.Requested` — the label was
  accepted, then the capability was shown, then `ready` was said, then the Wisp handshake was made,
  then a CONNECT was admitted;
* `Env.HandlerHistory` — what the handler of a channel stands for;
* `Env.ChannelHistories.step` — every step keeps to it, and a label is given away once;
* `run_authorizationOrder` — no dial without all of this, no control request without its part.
-/

/-! ### What happens on a channel -/

section Events

variable (env : Env) (p channel : Nat) (t : Transition Runtime Action Event)

/-- The peer accepts its data channel number `channel`: the label is a valid one, and the channel is
    ordered and fully reliable. -/
def Env.Opens (label : String) : Prop :=
  t.action = .channel p label true ∧ ∃ peer, t.before.peers[p]? = some peer ∧
    peer.channels.length = channel ∧ env.validLabel peer label = true

/-- The channel passes authentication: a text message brings the capability of the peer, and the label
    is still to be had. -/
def Env.Passes (label : String) : Prop :=
  ∃ peer data sent, t.action = .message p channel true data sent ∧ t.before.peers[p]? = some peer ∧
    peer.channels[channel]? = some (.unauthenticated label) ∧
    env.verifyCapability data peer.capabilityDigest = true ∧
    label ∉ peer.labels ∧ peer.labels.length < 4

/-- The message that a browser sends when it has read the acknowledgement. -/
def SaysReady : Prop := ∃ sent, t.action = .message p channel true authenticatedReady sent

/-- The Wisp handshake. -/
def SaysInfo : Prop :=
  ∃ isString data sent, t.action = .message p channel isString data sent ∧ Wisp.Greets data

/-- A CONNECT on a number that is not in use. -/
def SaysConnect (packet : Wisp.Frame) : Prop :=
  ∃ isString data sent peer server, t.action = .message p channel isString data sent ∧
    Wisp.Requests data packet ∧ t.before.peers[p]? = some peer ∧
    peer.channels[channel]? = some (.wisp server) ∧ server.lookup packet.streamID = none

/-- The handler puts the stream of this CONNECT into the table, under the reference `ref`. -/
def Inserts (ref : Nat) (packet : Wisp.Frame) : Prop :=
  ∃ sent peer server, t.action = .wisp p channel (.handle sent) ∧ t.before.peers[p]? = some peer ∧
    peer.channels[channel]? = some (.wisp server) ∧ server.handler = .opening packet ∧
    server.table.length = ref

end Events

section Order

variable (env : Env) (p channel : Nat)

/-- The channel was opened with this label. -/
def Env.Opened (label : String) : History → Prop :=
  System.After (env.Opens p channel · label) (fun _ => True)

/-- The channel was opened, and then authenticated. -/
def Env.Authenticated (label : String) : History → Prop :=
  System.After (env.Passes p channel · label) (env.Opened p channel label)

/-- A data channel was authenticated, and then told so. -/
def Env.Ready : History → Prop :=
  System.After (SaysReady p channel)
    (fun h => ∃ label, label ≠ controlLabel ∧ env.Authenticated p channel label h)

/-- The channel was ready, and then the Wisp server greeted. -/
def Env.Greeted : History → Prop :=
  System.After (SaysInfo p channel) (env.Ready p channel)

/-- The server greeted, and then the browser sent this CONNECT. -/
def Env.Asked (packet : Wisp.Frame) : History → Prop :=
  System.After (SaysConnect p channel · packet) (env.Greeted p channel)

/-- The browser sent the CONNECT, and then the stream was opened. -/
def Env.Requested (ref : Nat) (packet : Wisp.Frame) : History → Prop :=
  System.After (Inserts p channel · ref packet) (env.Asked p channel packet)

end Order

/-! ### What a handler stands for -/

section Handlers

variable (env : Env) (h : History) (p channel : Nat)

/-- What a Wisp server has in its hands, the channel has asked for. -/
structure Env.WispHistory (server : Wisp.Server) : Prop where
  ready : env.Ready p channel h
  greeted : server.handshaken = true → env.Greeted p channel h
  opening : ∀ packet, server.handler = .opening packet → env.Asked p channel packet h
  dialing : ∀ (ref : Nat) (st : Wisp.Stream), server.table[ref]? = some st → ∀ hostname port,
    st.connect = .dialing hostname port → ∃ packet, env.Requested p channel ref packet h ∧
      st.id = packet.streamID ∧ hostname = Wisp.connectHostname packet.payload ∧
      port = Wisp.connectPort packet.payload

/-- What has happened on a channel with this handler. -/
def Env.HandlerHistory : Channel → Prop
  | .closed => True
  | .unauthenticated label => env.Opened p channel label h
  | .control => env.Authenticated p channel controlLabel h
  | .authenticated => ∃ label, label ≠ controlLabel ∧ env.Authenticated p channel label h
  | .wisp server => env.WispHistory h p channel server

end Handlers

section Histories

variable {env : Env} {h : History} {p channel : Nat}
  {t : Transition Runtime Action Event}

theorem Env.WispHistory.later {server : Wisp.Server} (hw : env.WispHistory h p channel server) :
    env.WispHistory (t :: h) p channel server where
  ready := hw.ready.later
  greeted hhand := (hw.greeted hhand).later
  opening packet hh := (hw.opening packet hh).later
  dialing ref st hst hostname port hdialing := by
    obtain ⟨packet, hrequested, hstream⟩ := hw.dialing ref st hst hostname port hdialing
    exact ⟨packet, hrequested.later, hstream⟩

/-- What has happened has happened. -/
theorem Env.HandlerHistory.later {c : Channel} (hc : env.HandlerHistory h p channel c) :
    env.HandlerHistory (t :: h) p channel c := by
  cases c with
  | closed => trivial
  | unauthenticated label => exact System.After.later hc
  | control => exact System.After.later hc
  | authenticated =>
    obtain ⟨label, hlabel, hauth⟩ := hc
    exact ⟨label, hlabel, hauth.later⟩
  | wisp server => exact Env.WispHistory.later hc

/-- A server that was just made. -/
theorem Env.WispHistory.new (hready : env.Ready p channel h) : env.WispHistory h p channel .new where
  ready := hready
  greeted hhand := by cases hhand
  opening packet hh := by cases hh
  dialing ref st hst := by cases hst

/-- **Wisp servers.**  A step of a server, told by the Agent's step `t`. -/
theorem Env.WispHistory.step {server server' : Wisp.Server} {action : Wisp.Action} {peer : Peer}
    (hw : env.WispHistory h p channel server) (hs : server.step action = some server')
    (hpeer : t.before.peers[p]? = some peer) (hchannel : peer.channels[channel]? = some (.wisp server))
    (hmessage : ∀ data, action = .message data →
      ∃ isString sent, t.action = .message p channel isString data sent)
    (hhandle : ∀ sent, action = .handle sent → t.action = .wisp p channel (.handle sent)) :
    env.WispHistory (t :: h) p channel server' := by
  -- a stream that waits for a dial and did so before was asked for before
  have hkept : server.KeepsDials server' → ∀ (ref : Nat) (st : Wisp.Stream),
      server'.table[ref]? = some st → ∀ hostname port, st.connect = .dialing hostname port →
      ∃ packet, env.Requested p channel ref packet (t :: h) ∧ st.id = packet.streamID ∧
        hostname = Wisp.connectHostname packet.payload ∧
        port = Wisp.connectPort packet.payload := by
    intro hdials ref st hst hostname port hdialing
    obtain ⟨st₀, hst₀, hdialing₀, hid⟩ := hdials ref st hst hostname port hdialing
    obtain ⟨packet, hrequested, hstream, hauthority⟩ :=
      hw.dialing ref st₀ hst₀ hostname port hdialing₀
    exact ⟨packet, hrequested.later, hid.trans hstream, hauthority⟩
  cases Wisp.Server.step_admission hs with
  | greeted data _ hgreets hhandler hdials =>
    obtain ⟨isString, sent, ha⟩ := hmessage data rfl
    refine ⟨hw.ready.later, fun _ => ?_, fun packet heq => absurd heq (hhandler packet), hkept hdials⟩
    exact System.After.now ⟨isString, data, sent, ha, hgreets⟩ hw.ready
  | requested data packet _ hrequests hfree hgreeted hhandler hdials =>
    obtain ⟨isString, sent, ha⟩ := hmessage data rfl
    refine ⟨hw.ready.later, fun _ => (hw.greeted hgreeted).later, fun packet' heq => ?_, hkept hdials⟩
    obtain rfl : packet = packet' := Wisp.Handler.opening.inj (hhandler.symm.trans heq)
    exact System.After.now ⟨isString, data, sent, peer, server, ha, hrequests, hpeer, hchannel, hfree⟩
      (hw.greeted hgreeted)
  | inserted sent packet _ hh hsame hhandler htable =>
    refine ⟨hw.ready.later, fun hhand => (hw.greeted (hsame ▸ hhand)).later,
      fun packet heq => absurd heq (hhandler packet), fun ref st hst hostname port hdialing => ?_⟩
    rw [htable] at hst
    by_cases hlt : ref < server.table.length
    · rw [List.getElem?_append_left hlt] at hst
      obtain ⟨packet', hrequested, hstream⟩ := hw.dialing ref st hst hostname port hdialing
      exact ⟨packet', hrequested.later, hstream⟩
    · -- the new stream is that of the CONNECT in the handler's hands
      rw [List.getElem?_append_right (by omega), List.getElem?_singleton] at hst
      split at hst
      · obtain rfl := Option.some.inj hst
        obtain ⟨rfl, rfl⟩ := Wisp.ConnectPC.dialing.inj hdialing
        have href : server.table.length = ref := by omega
        exact ⟨packet, System.After.now ⟨sent, peer, server, hhandle sent rfl, hpeer, hchannel, hh, href⟩
          (hw.opening packet hh), rfl, rfl, rfl⟩
      · cases hst
  | nothing _ _ hsame hhandler hdials =>
    exact ⟨hw.ready.later, fun hhand => (hw.greeted (hsame ▸ hhand)).later,
      fun packet heq => (hw.opening packet (hhandler packet heq)).later, hkept hdials⟩

end Histories

/-! ### Peers -/

/-- The channel has passed authentication with this label. -/
def Env.HasPassed (env : Env) (h : History) (p channel : Nat)
    (label : String) : Prop :=
  ∃ t ∈ h, env.Passes p channel t label

/-- What the channels of a peer stand for, and who has the labels. -/
structure Env.ChannelHistory (env : Env) (h : History) (p : Nat)
    (peer : Peer) : Prop where
  handlers : ∀ (channel : Nat) c, peer.channels[channel]? = some c → env.HandlerHistory h p channel c
  passed : ∀ channel label, env.HasPassed h p channel label → label ∈ peer.labels
  unique : ∀ channel channel' label, env.HasPassed h p channel label →
    env.HasPassed h p channel' label → channel = channel'

section Peers

variable {env : Env} {h : History} {p channel : Nat}
  {peer peer' : Peer} {t : Transition Runtime Action Event} {label : String} {c : Channel}

/-- What a channel that passes had for a handler. -/
theorem Env.Passes.handler (hpass : env.Passes p channel t label)
    (hpeer : t.before.peers[p]? = some peer) :
    ∃ data sent, t.action = .message p channel true data sent ∧
      peer.channels[channel]? = some (.unauthenticated label) ∧
      env.verifyCapability data peer.capabilityDigest = true ∧
      label ∉ peer.labels ∧ peer.labels.length < 4 := by
  obtain ⟨current, data, sent, ha, hcurrent, hrest⟩ := hpass
  obtain rfl : peer = current := Option.some.inj (hpeer.symm.trans hcurrent)
  exact ⟨data, sent, ha, hrest⟩

/-- Nothing passes on a channel with another handler. -/
theorem Env.not_passes (env : Env) {i n : Nat} {isString : Bool} {data : List UInt8} {sent : Bool}
    (ha : t.action = .message i n isString data sent) (hpeer : t.before.peers[p]? = some peer)
    (hchannel : peer.channels[n]? = some c) (hc : ∀ label, c ≠ .unauthenticated label) :
    ∀ channel label, ¬ env.Passes p channel t label := by
  intro channel label hpass
  obtain ⟨data', sent', ha', hhandler, -⟩ := hpass.handler hpeer
  obtain ⟨-, rfl, -⟩ := Action.message.inj (ha.symm.trans ha')
  exact hc label (Option.some.inj (hchannel.symm.trans hhandler))

/-- A step that gives channels new handlers, or labels to those that pass. -/
theorem Env.ChannelHistory.advance (hh : env.ChannelHistory h p peer)
    (hpeer : t.before.peers[p]? = some peer)
    (hhandlers : ∀ (channel : Nat) c, peer'.channels[channel]? = some c →
      peer.channels[channel]? = some c ∨ env.HandlerHistory (t :: h) p channel c)
    (hlabels : ∀ label ∈ peer.labels, label ∈ peer'.labels)
    (hpasses : ∀ channel label, env.Passes p channel t label → label ∈ peer'.labels) :
    env.ChannelHistory (t :: h) p peer' := by
  -- whoever passes now, with this label nobody has passed before
  have hfirst : ∀ channel channel' label, env.Passes p channel t label →
      ¬ env.HasPassed h p channel' label := by
    intro channel channel' label hpass hpassed
    obtain ⟨_, _, _, _, _, hfree, _⟩ := hpass.handler hpeer
    exact hfree (hh.passed channel' label hpassed)
  refine ⟨fun channel c hc => ?_, fun channel label ⟨u, hu, hpass⟩ => ?_,
    fun channel channel' label ⟨u, hu, hpass⟩ ⟨u', hu', hpass'⟩ => ?_⟩
  · rcases hhandlers channel c hc with hold | hnew
    · exact (hh.handlers channel c hold).later
    · exact hnew
  · rcases List.mem_cons.mp hu with rfl | hu
    · exact hpasses channel label hpass
    · exact hlabels label (hh.passed channel label ⟨u, hu, hpass⟩)
  · rcases List.mem_cons.mp hu with hnow | hold
    · subst hnow
      rcases List.mem_cons.mp hu' with hnow | hold'
      · subst hnow
        obtain ⟨_, _, ha, -⟩ := hpass.handler hpeer
        obtain ⟨_, _, ha', -⟩ := hpass'.handler hpeer
        exact (Action.message.inj (ha.symm.trans ha')).2.1
      · exact absurd ⟨u', hold', hpass'⟩ (hfirst channel channel' label hpass)
    · rcases List.mem_cons.mp hu' with hnow | hold'
      · subst hnow
        exact absurd ⟨u, hold, hpass⟩ (hfirst channel' channel label hpass')
      · exact hh.unique channel channel' label ⟨u, hold, hpass⟩ ⟨u', hold', hpass'⟩

/-- A step that leaves handlers and labels alone. -/
theorem Env.ChannelHistory.frame (hh : env.ChannelHistory h p peer)
    (hpeer : t.before.peers[p]? = some peer) (hchannels : peer'.channels = peer.channels)
    (hlabels : peer'.labels = peer.labels) (hno : ∀ channel label, ¬ env.Passes p channel t label) :
    env.ChannelHistory (t :: h) p peer' := by
  refine hh.advance hpeer (fun channel c hc => .inl ?_) (fun label hl => ?_)
    (fun channel label hpass => absurd hpass (hno channel label))
  · rwa [hchannels] at hc
  · rwa [hlabels]

/-- One channel gets another handler. -/
theorem Env.ChannelHistory.set (hh : env.ChannelHistory h p peer)
    (hpeer : t.before.peers[p]? = some peer) {n : Nat}
    (hchannels : peer'.channels = peer.channels.set n c)
    (hc : env.HandlerHistory (t :: h) p n c) (hlabels : ∀ label ∈ peer.labels, label ∈ peer'.labels)
    (hpasses : ∀ channel label, env.Passes p channel t label → label ∈ peer'.labels) :
    env.ChannelHistory (t :: h) p peer' := by
  refine hh.advance hpeer (fun channel current hcurrent => ?_) hlabels hpasses
  rw [hchannels, List.getElem?_set] at hcurrent
  split at hcurrent
  · rename_i heq
    subst heq
    split at hcurrent
    · obtain rfl := Option.some.inj hcurrent
      exact .inr hc
    · cases hcurrent
  · exact .inl hcurrent

/-- One more channel. -/
theorem Env.ChannelHistory.append (hh : env.ChannelHistory h p peer)
    (hpeer : t.before.peers[p]? = some peer) (hchannels : peer'.channels = peer.channels ++ [c])
    (hc : env.HandlerHistory (t :: h) p peer.channels.length c) (hlabels : peer'.labels = peer.labels)
    (hno : ∀ channel label, ¬ env.Passes p channel t label) :
    env.ChannelHistory (t :: h) p peer' := by
  refine hh.advance hpeer (fun channel current hcurrent => ?_) (fun label hl => by rwa [hlabels])
    (fun channel label hpass => absurd hpass (hno channel label))
  rw [hchannels] at hcurrent
  by_cases hlt : channel < peer.channels.length
  · rw [List.getElem?_append_left hlt] at hcurrent
    exact .inl hcurrent
  · rw [List.getElem?_append_right (by omega), List.getElem?_singleton] at hcurrent
    split at hcurrent
    · obtain rfl := Option.some.inj hcurrent
      have hlast : peer.channels.length = channel := by omega
      exact .inr (hlast ▸ hc)
    · cases hcurrent

/-- **Peers.**  Each step of the peer keeps to what its handlers stand for. -/
theorem Env.ChannelHistory.step {s : Runtime} {a : Action} {e : Event}
    (hh : env.ChannelHistory h p peer) (ha : a.peer? = some p) (hpeer : s.peers[p]? = some peer)
    (hstep : peer.Step env p a peer' e) : env.ChannelHistory (⟨s, a, e⟩ :: h) p peer' := by
  -- only a message can make a channel pass
  have hquiet : (∀ i n isString data sent, a ≠ .message i n isString data sent) →
      ∀ channel label, ¬ env.Passes p channel ⟨s, a, e⟩ label := by
    intro hne channel label hpass
    obtain ⟨data, sent, hmessage, -⟩ := hpass.handler hpeer
    exact hne _ _ _ _ _ hmessage
  have hkeep : ∀ label ∈ peer.labels, label ∈ peer.labels := fun _ hl => hl
  cases hstep with
  | refused i label reliable _ =>
    exact hh.append hpeer rfl trivial rfl (hquiet (by simp))
  | opened i label hvalid =>
    obtain rfl : i = p := Option.some.inj ha
    refine hh.append hpeer rfl ?_ rfl (hquiet (by simp))
    exact System.After.now ⟨rfl, peer, hpeer, rfl, hvalid⟩ trivial
  | rejected i n isString data sent label hchannel hreason =>
    refine hh.frame hpeer rfl rfl (fun channel label' hpass => ?_)
    obtain ⟨data', sent', hmessage, hhandler, hverify, hfree, hroom⟩ := hpass.handler hpeer
    obtain ⟨-, rfl, rfl, rfl, -⟩ := Action.message.inj hmessage
    obtain rfl := Channel.unauthenticated.inj (Option.some.inj (hchannel.symm.trans hhandler))
    rcases hreason with htext | hverify' | htaken | hfull
    · cases htext
    · rw [hverify] at hverify'
      cases hverify'
    · exact hfree htaken
    · omega
  | unacknowledged i n data label hchannel _ _ _ =>
    refine hh.advance hpeer (fun channel c hc => .inl hc) (fun _ hl => List.mem_cons_of_mem _ hl)
      (fun channel label' hpass => ?_)
    obtain ⟨data', sent', hmessage, hhandler, -⟩ := hpass.handler hpeer
    obtain ⟨-, rfl, -⟩ := Action.message.inj hmessage
    obtain rfl := Channel.unauthenticated.inj (Option.some.inj (hchannel.symm.trans hhandler))
    exact List.mem_cons_self
  | authenticated i n data label hchannel hverify hfree hroom =>
    obtain rfl : i = p := Option.some.inj ha
    have hauth : env.Authenticated i n label (⟨s, .message i n true data true, .none⟩ :: h) :=
      System.After.now ⟨peer, data, true, rfl, hpeer, hchannel, hverify, hfree, hroom⟩
        (hh.handlers n _ hchannel)
    refine hh.set hpeer rfl ?_ (fun _ hl => List.mem_cons_of_mem _ hl) (fun channel label' hpass => ?_)
    · split
      · rename_i hcontrol
        subst hcontrol
        exact hauth
      · rename_i hother
        exact ⟨label, hother, hauth⟩
    · obtain ⟨data', sent', hmessage, hhandler, -⟩ := hpass.handler hpeer
      obtain ⟨-, rfl, -⟩ := Action.message.inj hmessage
      obtain rfl := Channel.unauthenticated.inj (Option.some.inj (hchannel.symm.trans hhandler))
      exact List.mem_cons_self
  | controlled i n isString data sent peer' hchannel hcontrol =>
    have hno := env.not_passes (t := ⟨s, .message i n isString data sent, .none⟩) rfl hpeer
      hchannel (by simp)
    cases hcontrol <;> exact hh.frame hpeer rfl rfl hno
  | answered i n isString data sent reply hchannel _ =>
    have hno := env.not_passes (t := ⟨s, .message i n isString data sent, .reply p reply⟩)
      rfl hpeer hchannel (by simp)
    cases sent <;> exact hh.frame hpeer rfl rfl hno
  | notReady i n isString data sent hchannel =>
    exact hh.frame hpeer rfl rfl (env.not_passes rfl hpeer hchannel (by simp))
  | ready i n sent hchannel =>
    obtain rfl : i = p := Option.some.inj ha
    have hno := env.not_passes (t := ⟨s, .message i n true authenticatedReady sent, .none⟩)
      rfl hpeer hchannel (by simp)
    refine hh.set hpeer rfl (Env.WispHistory.new ?_) hkeep (fun _ _ hpass => absurd hpass (hno _ _))
    exact System.After.now ⟨sent, rfl⟩ (hh.handlers n _ hchannel)
  | received i n isString data sent server server' hchannel hs =>
    obtain rfl : i = p := Option.some.inj ha
    have hno := env.not_passes (t := ⟨s, .message i n isString data sent, .none⟩) rfl hpeer
      hchannel (by simp)
    refine hh.set hpeer rfl ?_ hkeep (fun _ _ hpass => absurd hpass (hno _ _))
    refine Env.WispHistory.step (hh.handlers n _ hchannel) hs hpeer hchannel ?_ nofun
    rintro data' ⟨⟩
    exact ⟨isString, sent, rfl⟩
  | task i number world task task' peer₁ _ _ hstep =>
    have hno := hquiet (by simp)
    cases hstep <;> exact hh.frame hpeer rfl rfl hno
  | wisp i n action server server' hchannel hmessage hdial hs =>
    obtain rfl : i = p := Option.some.inj ha
    refine hh.set hpeer rfl ?_ hkeep (fun _ _ hpass => absurd hpass (hquiet (by simp) _ _))
    refine Env.WispHistory.step (hh.handlers n _ hchannel) hs hpeer hchannel ?_ ?_
    · exact fun data heq => absurd heq (hmessage data)
    · rintro sent rfl
      rfl
  | dialed i n ref answer network server server' st hostname port hchannel hst _ hs =>
    refine hh.set hpeer rfl ?_ hkeep (fun _ _ hpass => absurd hpass (hquiet (by simp) _ _))
    exact Env.WispHistory.step (hh.handlers n _ hchannel) hs hpeer hchannel nofun nofun
  | closeCalled i =>
    exact hh.frame hpeer peer.callClose_unmoved.channels peer.callClose_unmoved.labels
      (hquiet (by simp))

end Peers

/-! ### The Agent -/

/-- Every peer has its history, and no channel of a peer that is still to come has passed. -/
structure Env.ChannelHistories (env : Env) (h : History) (s : Runtime) :
    Prop where
  peers : ∀ (p : Nat) peer, s.peers[p]? = some peer → env.ChannelHistory h p peer
  future : ∀ p : Nat, s.peers.length ≤ p → ∀ channel label, ¬ env.HasPassed h p channel label

section Agents

variable {env : Env} {h : History} {s s' : Runtime} {a : Action}
  {e : Event} {p : Nat}

/-- Whoever passes, passes in a step of the peer. -/
theorem Env.not_passes_of_peer (env : Env) (ha : a.peer? ≠ some p) (channel : Nat) (label : String) :
    ¬ env.Passes p channel ⟨s, a, e⟩ label := by
  rintro ⟨peer, data, sent, rfl, -⟩
  exact ha rfl

/-- **Step lemma.** -/
theorem Env.ChannelHistories.step (hh : env.ChannelHistories h s) (hs : env.step s a = some (s', e)) :
    env.ChannelHistories (⟨s, a, e⟩ :: h) s' := by
  have hstep := Env.step_cases hs
  -- what has not passed so far has not passed after a step of somebody else
  have hstill : ∀ p, s.peers.length ≤ p → a.peer? ≠ some p → ∀ channel label,
      ¬ env.HasPassed (⟨s, a, e⟩ :: h) p channel label := by
    rintro p hge ha channel label ⟨t, ht, hpass⟩
    rcases List.mem_cons.mp ht with rfl | ht
    · exact env.not_passes_of_peer ha channel label hpass
    · exact hh.future p hge channel label ⟨t, ht, hpass⟩
  refine ⟨fun p peer' hget => ?_, fun p hp => ?_⟩
  · cases hstep.origin hget with
    | new serviceID digest temporary hge ha hnew =>
      subst hnew
      have hnone := hstill p hge (by simp [ha])
      refine ⟨fun channel c hc => by simp [Peer.new] at hc, fun channel label hpassed => ?_,
        fun channel channel' label hpassed => ?_⟩
      · exact absurd hpassed (hnone channel label)
      · exact absurd hpassed (hnone channel label)
    | unmoved peer hpeer ha hsame =>
      exact (hh.peers p peer hpeer).frame hpeer hsame.channels hsame.labels (env.not_passes_of_peer ha)
    | stepped peer hpeer ha hstep => exact (hh.peers p peer hpeer).step ha hpeer hstep
  · have hge : s.peers.length ≤ p := hstep.length_le.trans hp
    exact hstill p hge (fun heq => absurd (hstep.peer_lt heq) (by omega))

theorem run_channelHistories (hr : env.system.Run h s) : env.ChannelHistories h s := by
  refine hr.history_invariant (P := fun h s => env.ChannelHistories h s) ⟨?_, ?_⟩ ?_
  · intro p peer hpeer
    cases hpeer
  · rintro p - channel label ⟨t, ht, -⟩
    cases ht
  · exact fun h s a s' e _ hh hs => hh.step hs

/-! ### Channels without a handler -/

/-- The peer has given this channel no handler. -/
def Unheard (p channel : Nat) (s : Runtime) : Prop :=
  ∃ peer, s.peers[p]? = some peer ∧ peer.channels[channel]? = some .closed

/-- A channel without a handler never gets one. -/
theorem Peer.Step.unheard {peer peer' : Peer} {channel : Nat} (h : peer.Step env p a peer' e)
    (hclosed : peer.channels[channel]? = some .closed) : peer'.channels[channel]? = some .closed := by
  have hlt : channel < peer.channels.length := (List.getElem?_eq_some_iff.mp hclosed).1
  -- a handler is put in the place of another one
  have hset : ∀ {n : Nat} {c : Channel} (c' : Channel), peer.channels[n]? = some c → c ≠ .closed →
      (peer.channels.set n c')[channel]? = some .closed := by
    intro n c c' hc hne
    have hn : n ≠ channel := by
      rintro rfl
      exact hne (Option.some.inj (hc.symm.trans hclosed))
    rw [List.getElem?_set_ne hn]
    exact hclosed
  have happend : ∀ c : Channel, (peer.channels ++ [c])[channel]? = some .closed := by
    intro c
    rw [List.getElem?_append_left hlt]
    exact hclosed
  cases h with
  | refused i label reliable _ => exact happend .closed
  | opened i label _ => exact happend (.unauthenticated label)
  | authenticated i n data label hchannel _ _ _ => exact hset _ hchannel (by simp)
  | controlled i n isString data sent peer' _ hcontrol => cases hcontrol <;> exact hclosed
  | answered i n isString data sent reply _ _ => cases sent <;> exact hclosed
  | ready i n sent hchannel => exact hset _ hchannel (by simp)
  | received i n isString data sent server server' hchannel _ => exact hset _ hchannel (by simp)
  | task i number world task task' peer₁ _ _ hstep => cases hstep <;> exact hclosed
  | wisp i n action server server' hchannel _ _ _ => exact hset _ hchannel (by simp)
  | dialed i n ref answer network server server' st hostname port hchannel _ _ _ =>
    exact hset _ hchannel (by simp)
  | closeCalled i => rw [peer.callClose_unmoved.channels]; exact hclosed
  | _ => exact hclosed

theorem Env.step_unheard {channel : Nat} (hunheard : Unheard p channel s)
    (hs : env.step s a = some (s', e)) : Unheard p channel s' := by
  obtain ⟨peer, hpeer, hclosed⟩ := hunheard
  obtain ⟨peer', hpeer', hsame | hstep⟩ := (Env.step_cases hs).next hpeer
  · exact ⟨peer', hpeer', hsame.channels.symm ▸ hclosed⟩
  · exact ⟨peer', hpeer', hstep.unheard hclosed⟩

/-- A channel that is not accepted gets no handler. -/
theorem Env.step_refused {peer : Peer} {label : String} {reliable : Bool}
    (hpeer : s.peers[p]? = some peer) (hinvalid : (env.validLabel peer label && reliable) = false)
    (hs : env.step s (.channel p label reliable) = some (s', e)) :
    Unheard p peer.channels.length s' := by
  cases Env.step_cases hs with
  | stepped index current current' _ _ hindex hcurrent hstep =>
    obtain rfl : p = index := Option.some.inj hindex
    obtain rfl : peer = current := Option.some.inj (hpeer.symm.trans hcurrent)
    have hlt : p < s.peers.length := (List.getElem?_eq_some_iff.mp hpeer).1
    cases hstep with
    | refused => exact ⟨_, List.getElem?_set_self hlt, by simp⟩
    | opened _ _ hvalid =>
      rw [hvalid] at hinvalid
      cases hinvalid

/-- The label of a Guacamole channel is for services of that kind. -/
theorem Env.validLabel_guacamole {peer : Peer}
    (h : peer.temporary = true ∨
      ∀ service, env.policy.service peer.serviceID = some service → service.kind ≠ "guacamole") :
    env.validLabel peer "guacamole-v1" = false := by
  have hcontrol : "guacamole-v1" ≠ controlLabel := by decide
  have hdata : "guacamole-v1" ∈ dataLabels := by decide
  simp only [Env.validLabel, if_neg hcontrol, hdata, not_true_eq_false, if_false, if_true]
  rcases h with htemporary | hkind
  · simp [htemporary]
  · cases hservice : env.policy.service peer.serviceID with
    | none => simp
    | some service => simp [hkind service hservice]

end Agents

/-! ### Runs -/

/-- The step handles a control request of this channel: it answers, or it starts a goroutine. -/
def HandlesControl (p channel : Nat) (t : Transition Runtime Action Event) (s' : Runtime) : Prop :=
  (∃ isString data sent, t.action = .message p channel isString data sent) ∧
    ((∃ reply, t.event = .reply p reply) ∨ ∃ peer peer', t.before.peers[p]? = some peer ∧
      s'.peers[p]? = some peer' ∧ peer'.tasks ≠ peer.tasks)

/-- The order in which the channels of a peer are authorized in a run. -/
structure Env.AuthorizationOrder (env : Env) (h : History) (s : Runtime)
    (p : Nat) : Prop where
  /-- A stream dials what its CONNECT has asked for, on a channel that came all the way. -/
  dials : ∀ h₁ t h₂ channel ref answer network, h = h₁ ++ t :: h₂ →
    t.action = .dial p channel ref answer network → ∃ packet peer server st,
      env.Requested p channel ref packet h₂ ∧ t.before.peers[p]? = some peer ∧
      peer.channels[channel]? = some (.wisp server) ∧ server.table[ref]? = some st ∧
      st.id = packet.streamID ∧ st.connect =
        .dialing (Wisp.connectHostname packet.payload) (Wisp.connectPort packet.payload)
  controls : ∀ h₁ t h₂ s' channel, h = h₁ ++ t :: h₂ → env.step t.before t.action = some (s', t.event) →
    HandlesControl p channel t s' → env.Authenticated p channel controlLabel h₂
  labels : ∀ channel channel' label, env.HasPassed h p channel label →
    env.HasPassed h p channel' label → channel = channel'
  /-- A Guacamole channel of another peer is never given a handler. -/
  guacamole : ∀ h₁ t h₂ peer reliable, h = h₁ ++ t :: h₂ →
    t.action = .channel p "guacamole-v1" reliable → t.before.peers[p]? = some peer →
    (peer.temporary = true ∨
      ∀ service, env.policy.service peer.serviceID = some service → service.kind ≠ "guacamole") →
    Unheard p peer.channels.length s

section Runs

variable {env : Env} {h : History} {s s' : Runtime} {p channel : Nat}

/-- A step that handles a control request is a step of a channel with that handler. -/
theorem HandlesControl.handler {t : Transition Runtime Action Event} (hcontrol : HandlesControl p channel t s')
    (hs : env.step t.before t.action = some (s', t.event)) :
    ∃ peer, t.before.peers[p]? = some peer ∧ peer.channels[channel]? = some .control := by
  obtain ⟨before, action, event⟩ := t
  obtain ⟨⟨isString, data, sent, rfl⟩, heffect⟩ := hcontrol
  have hs' : env.step before (.message p channel isString data sent) = some (s', event) := hs
  cases Env.step_cases hs' with
  | stepped index peer peer' _ _ hindex hpeer hstep =>
    obtain rfl : p = index := Option.some.inj hindex
    refine ⟨peer, hpeer, ?_⟩
    -- with any other handler nothing is answered and no goroutine is started
    have hidle : peer'.tasks = peer.tasks → event = .none →
        peer.channels[channel]? = some .control := by
      intro htasks hevent
      rcases heffect with ⟨reply, hreply⟩ | ⟨current, current', hcurrent, hcurrent', hne⟩
      · rw [show event = Event.reply p reply from hreply] at hevent
        cases hevent
      · obtain rfl : peer = current := Option.some.inj (hpeer.symm.trans hcurrent)
        have hlt : p < before.peers.length := (List.getElem?_eq_some_iff.mp hpeer).1
        have hset : (before.peers.set p peer')[p]? = some current' := hcurrent'
        rw [List.getElem?_set_self hlt] at hset
        obtain rfl := Option.some.inj hset
        exact absurd htasks hne
    cases hstep with
    | controlled _ _ _ _ _ _ hchannel _ => exact hchannel
    | answered _ _ _ _ _ _ hchannel _ => exact hchannel
    | _ => exact hidle rfl rfl

/-- **Authorization order.** -/
theorem run_authorizationOrder (hr : env.system.Run h s) (p : Nat) : env.AuthorizationOrder h s p := by
  have hh := run_channelHistories hr
  refine ⟨fun h₁ t h₂ channel ref answer network heq haction => ?_,
    fun h₁ t h₂ s' channel heq hs hcontrol => ?_, fun channel channel' label hpassed hpassed' => ?_,
    fun h₁ t h₂ peer reliable heq haction hpeer hother => ?_⟩
  · subst heq
    obtain ⟨hr₂, s', hs⟩ := hr.split
    obtain ⟨before, action, event⟩ := t
    obtain rfl : action = .dial p channel ref answer network := haction
    have hs' : env.step before (.dial p channel ref answer network) = some (s', event) := hs
    cases Env.step_cases hs' with
    | stepped index peer peer' _ _ hindex hpeer hstep =>
      obtain rfl : p = index := Option.some.inj hindex
      cases hstep with
      | dialed _ _ _ _ _ server server' st hostname port hchannel hst hconnect _ =>
        have hw : env.WispHistory h₂ p channel server :=
          ((run_channelHistories hr₂).peers p peer hpeer).handlers channel _ hchannel
        obtain ⟨packet, hrequested, hid, rfl, rfl⟩ := hw.dialing ref st hst hostname port hconnect
        exact ⟨packet, peer, server, st, hrequested, hpeer, hchannel, hst, hid, hconnect⟩
  · subst heq
    obtain ⟨hr₂, -⟩ := hr.split
    obtain ⟨peer, hpeer, hchannel⟩ := hcontrol.handler hs
    exact ((run_channelHistories hr₂).peers p peer hpeer).handlers channel _ hchannel
  · by_cases hlt : p < s.peers.length
    · exact (hh.peers p _ (List.getElem?_eq_getElem hlt)).unique channel channel' label hpassed hpassed'
    · exact absurd hpassed (hh.future p (by omega) channel label)
  · subst heq
    refine hr.established (fun s a s' e hunheard hs => Env.step_unheard hunheard hs) (fun s' hs => ?_)
    have hinvalid : (env.validLabel peer "guacamole-v1" && reliable) = false := by
      rw [Env.validLabel_guacamole hother]
      rfl
    have hs' : env.step t.before t.action = some (s', t.event) := hs
    rw [haction] at hs'
    exact Env.step_refused hpeer hinvalid hs'

/-- The visit of the small Agent ends in a dial, and so has come all the way. -/
theorem run_authorizationOrder_of_visit :
    ∃ h s, officeEnv.system.Run h s ∧ officeEnv.AuthorizationOrder h s 0 ∧
      h.head?.map Transition.event = some (.dial 0 ⟨.v4 0x0a000005#32, 8080, none⟩) := by
  obtain ⟨h, s, hr, hc⟩ := System.exists_run_of_exec (S := officeEnv.system)
    (P := fun h _ => decide (h.head?.map Transition.event =
      some (.dial 0 ⟨.v4 0x0a000005#32, 8080, none⟩))) officeVisit (by decide +kernel)
  exact ⟨h, s, hr, run_authorizationOrder hr 0, of_decide_eq_true hc⟩

end Runs

end WebVPN.Agent
