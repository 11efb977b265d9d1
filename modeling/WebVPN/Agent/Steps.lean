import WebVPN.Agent.Transitions

namespace WebVPN.Agent

open WebVPN.Library WebVPN.Signaling

/-!
# Agent — what a step does to the peers

The steps of the Agent at the granularity of peers and their Wisp channels.

* `Peer.Identified` — what never changes in a peer, and the number of its restarts;
* `Peer.Move`, `Env.stepPeer_move` — a step of a peer is a step of one of its Wisp servers, or
  leaves those alone;
* `Runtime.Move`, `Env.step_move` — a step of the Agent.
-/

/-- Two states of one peer between which no restart was begun. -/
structure Peer.Identified (peer peer' : Peer) : Prop where
  service : peer'.serviceID = peer.serviceID
  temporary : peer'.temporary = peer.temporary
  capability : peer'.capabilityDigest = peer.capabilityDigest
  restarts : peer'.restartCount = peer.restartCount

theorem Peer.Identified.refl (peer : Peer) : peer.Identified peer := ⟨rfl, rfl, rfl, rfl⟩

theorem identified_refl : ∀ peer? : Option Peer, Option.Rel Peer.Identified peer? peer?
  | none => .none
  | some peer => .some (.refl peer)

/-- The Wisp servers of a peer are those it had before, or new ones. -/
def Peer.KeepsServers (peer peer' : Peer) : Prop :=
  ∀ server, .wisp server ∈ peer'.channels → .wisp server ∈ peer.channels ∨ server = .new

theorem Peer.KeepsServers.of_eq {peer peer' : Peer} (h : peer'.channels = peer.channels) :
    peer.KeepsServers peer' :=
  fun _ hmem => .inl (h ▸ hmem)

/-- Another handler for one channel. -/
theorem Peer.KeepsServers.set {peer peer' : Peer} {channel : Nat} {c : Channel}
    (h : peer'.channels = peer.channels.set channel c)
    (hc : ∀ server, c = .wisp server → server = .new) : peer.KeepsServers peer' := by
  intro server hmem
  rw [h] at hmem
  rcases List.mem_or_eq_of_mem_set hmem with hmem | heq
  · exact .inl hmem
  · exact .inr (hc server heq.symm)

/-- What a step does to the peer with this index. -/
inductive Peer.Move (index : Nat) (peer peer' : Peer) (a : Action) (e : Event) : Prop
  | plain (hsame : peer.Identified peer') (hservers : peer.KeepsServers peer')
      (hdial : ∀ p d, e ≠ .dial p d) : Move index peer peer' a e
  | wisp {channel : Nat} {server server' : Wisp.Server} {action : Wisp.Action}
      (hchannel : peer.channels[channel]? = some (.wisp server))
      (hstep : server.step action = some server')
      (hpeer : peer' = peer.setChannel channel (.wisp server'))
      (hmessage : ∀ data, action = .message data →
        ∃ i isString sent, a = .message i channel isString data sent)
      (hdial : ∀ p d, e = .dial p d →
        p = index ∧ ∃ ref result, action = .stream ref (.dialReturns result)) :
      Move index peer peer' a e

section Peers

variable {env : Env} {index : Nat} {peer peer' : Peer} {a : Action} {e : Event}

/-- A goroutine of a control request leaves the Wisp channels alone and dials nothing. -/
theorem Task.Step.plain {world : World} {task task' : Task}
    (h : Task.Step env index peer world task peer' task' e) :
    peer.Identified peer' ∧ peer'.channels = peer.channels ∧ ∀ p d, e ≠ .dial p d := by
  cases h <;> exact ⟨⟨rfl, rfl, rfl, rfl⟩, rfl, nofun⟩

theorem Controlled.plain {channel : Nat} {data : List UInt8} {reply : Option Reply}
    (h : Controlled env peer channel data (peer', reply)) :
    peer.Identified peer' ∧ peer'.channels = peer.channels := by
  cases h <;> exact ⟨⟨rfl, rfl, rfl, rfl⟩, rfl⟩

/-- A step of a peer is a step of one of its Wisp servers, or leaves those alone. -/
theorem Peer.Step.move (h : peer.Step env index a peer' e) : Peer.Move index peer peer' a e := by
  cases h with
  | refused i label reliable _ =>
    refine .plain ⟨rfl, rfl, rfl, rfl⟩ (fun server hmem => .inl ?_) nofun
    simpa using hmem
  | opened i label _ =>
    refine .plain ⟨rfl, rfl, rfl, rfl⟩ (fun server hmem => .inl ?_) nofun
    simpa using hmem
  | rejected | unacknowledged | notReady =>
    exact .plain ⟨rfl, rfl, rfl, rfl⟩ (.of_eq rfl) nofun
  | authenticated i channel data label _ _ _ _ =>
    refine .plain ⟨rfl, rfl, rfl, rfl⟩ (.set rfl ?_) nofun
    intro server heq
    split at heq <;> cases heq
  | controlled i channel isString data sent peer' _ hcontrol =>
    exact .plain hcontrol.plain.1 (.of_eq hcontrol.plain.2) nofun
  | answered i channel isString data sent reply _ _ =>
    -- a reply that cannot be sent closes the channel
    cases sent <;> exact .plain ⟨rfl, rfl, rfl, rfl⟩ (.of_eq rfl) nofun
  | ready i channel sent _ =>
    refine .plain ⟨rfl, rfl, rfl, rfl⟩ (.set rfl ?_) nofun
    rintro server heq
    exact (Channel.wisp.inj heq).symm
  | received i channel isString data sent server server' hchannel hstep =>
    refine .wisp hchannel hstep rfl ?_ nofun
    intro data' heq
    cases heq
    exact ⟨i, isString, sent, rfl⟩
  | task i number world task task' peer₁ e htask hstep =>
    obtain ⟨hsame, hchannels, hdial⟩ := hstep.plain
    exact .plain ⟨hsame.1, hsame.2, hsame.3, hsame.4⟩ (.of_eq hchannels) hdial
  | wisp i channel action server server' hchannel hmessage hdial hstep =>
    exact .wisp hchannel hstep rfl (fun data heq => absurd heq (hmessage data)) nofun
  | dialed i channel ref answer network server server' st hostname port hchannel _ _ hstep =>
    refine .wisp hchannel hstep rfl nofun ?_
    intro p d hevent
    unfold Env.dialEvent at hevent
    split at hevent <;> cases hevent
    exact ⟨rfl, _, _, rfl⟩
  | closeCalled i =>
    unfold Peer.callClose
    split
    · exact .plain ⟨rfl, rfl, rfl, rfl⟩ (.of_eq rfl) nofun
    · exact .plain (.refl peer) (.of_eq rfl) nofun

theorem Peer.Move.identified (h : Peer.Move index peer peer' a e) : peer.Identified peer' := by
  cases h with
  | plain hsame _ _ => exact hsame
  | wisp _ _ hpeer _ _ =>
    rw [hpeer]
    exact ⟨rfl, rfl, rfl, rfl⟩

end Peers

/-! ### The Agent -/

/-- What a step does to the peers. -/
inductive Runtime.Move (s s' : Runtime) (a : Action) (e : Event) : Prop
  | same (hpeers : s'.peers = s.peers) (hdial : ∀ p d, e ≠ .dial p d) : Move s s' a e
  | accepted {offer : Offer} {created : Bool} {p : Nat} (ha : a = .offer offer created)
      (haccepts : Accepts s offer p s'.peers) (hdial : ∀ p d, e ≠ .dial p d) : Move s s' a e
  | moved {index : Nat} {peer peer' : Peer} (hpeer : s.peers[index]? = some peer)
      (hpeers : s'.peers = s.peers.set index peer') (hmove : Peer.Move index peer peer' a e)
      (hindex : ∀ p channel isString data sent, a = .message p channel isString data sent →
        p = index) : Move s s' a e

section Agents

variable {env : Env} {s s' : Runtime} {a : Action} {e : Event}

/-- **Inversion.** -/
theorem Env.step_move (h : env.step s a = some (s', e)) : s.Move s' a e := by
  cases Env.step_cases h with
  | offerRefused offer created code => exact .same rfl nofun
  | offerAccepted offer created p peers _ haccepts => exact .accepted rfl haccepts nofun
  | negotiated index offer peer _ hpeer =>
    exact .moved hpeer rfl (.plain ⟨rfl, rfl, rfl, rfl⟩ (.of_eq rfl) nofun) nofun
  | negotiationFailed index offer peer _ hpeer =>
    refine .moved hpeer rfl ?_ nofun
    unfold Peer.callClose
    repeat' split
    all_goals exact .plain ⟨rfl, rfl, rfl, rfl⟩ (.of_eq rfl) nofun
  | registered index id _ => exact .same rfl nofun
  | collected index peer hpeer _ =>
    exact .moved hpeer rfl (.plain ⟨rfl, rfl, rfl, rfl⟩ (.of_eq rfl) nofun) nofun
  | deleted index peer aliases hpeer _ =>
    exact .moved hpeer rfl (.plain ⟨rfl, rfl, rfl, rfl⟩ (.of_eq rfl) nofun) nofun
  | stepped index peer peer' _ _ ha hpeer hstep =>
    refine .moved hpeer rfl hstep.move ?_
    rintro p channel isString data sent rfl
    exact Option.some.inj ha

/-- Unless an offer is accepted, every peer stays what it is. -/
theorem Runtime.Move.identified (h : s.Move s' a e) (ha : ∀ offer created, a ≠ .offer offer created)
    (p : Nat) : Option.Rel Peer.Identified s.peers[p]? s'.peers[p]? := by
  cases h with
  | same hpeers _ =>
    rw [hpeers]
    exact identified_refl _
  | accepted hoffer _ _ => exact absurd hoffer (ha _ _)
  | @moved index peer peer' hpeer hpeers hmove _ =>
    rw [hpeers]
    by_cases hp : index = p
    · subst hp
      have hlt := (List.getElem?_eq_some_iff.mp hpeer).1
      rw [List.getElem?_set_self hlt, hpeer]
      exact .some hmove.identified
    · rw [List.getElem?_set_ne hp]
      exact identified_refl _

end Agents

end WebVPN.Agent
