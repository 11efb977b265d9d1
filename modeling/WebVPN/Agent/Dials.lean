import WebVPN.Agent.Steps
import WebVPN.Wisp.Admission

namespace WebVPN.Agent

open WebVPN.Library

/-!
# Agent — dials that are still to come

A Wisp server dials for a stream, and a stream comes from a CONNECT packet.  A server that has
neither a CONNECT in its hands nor a stream that waits for its connection stays so until the
next CONNECT arrives.

* `Settled`, `Settled.step` — such a server, and that it stays so;
* `Peer.Settled`, `Runtime.Move.settled` — a peer all of whose servers are settled;
* `Runtime.Move.not_settled_of_dial` — such a peer does not dial.
-/

/-- A packet that asks for a stream. -/
def opensStream (data : List UInt8) : Bool :=
  match Wisp.parsePacket data with
  | .ok packet => packet.kind = Wisp.packetConnect
  | .error _ => false

/-- No dial of this server is still to come. -/
structure Settled (server : Wisp.Server) : Prop where
  handler : ∀ packet, server.handler ≠ .opening packet
  streams : ∀ (ref : Nat) (st : Wisp.Stream), server.table[ref]? = some st →
    ∀ hostname port, st.connect ≠ .dialing hostname port

section Servers

variable {s s' : Wisp.Server} {a : Wisp.Action}

theorem settled_new : Settled .new := by
  refine ⟨fun packet h => Wisp.Handler.noConfusion h, ?_⟩
  intro ref st h
  simp [Wisp.Server.new] at h

/-- A packet that is admitted asks for a stream. -/
theorem opensStream_of_requests {data : List UInt8} {packet : Wisp.Frame}
    (h : Wisp.Requests data packet) : opensStream data = true := by
  simp only [opensStream, h.parsed]
  exact decide_eq_true h.kind

/-- **Step lemma.**  Without a CONNECT, a settled server stays settled. -/
theorem Settled.step (h : Settled s) (hs : s.step a = some s')
    (hmessage : ∀ data, a = .message data → opensStream data = false) : Settled s' := by
  -- a stream that waits for a dial would have done so before
  have hstreams : s.KeepsDials s' → ∀ (ref : Nat) (st : Wisp.Stream), s'.table[ref]? = some st →
      ∀ hostname port, st.connect ≠ .dialing hostname port := by
    intro hdials ref st hst hostname port hdialing
    obtain ⟨st₀, hst₀, hdialing₀, -⟩ := hdials ref st hst hostname port hdialing
    exact h.streams ref st₀ hst₀ hostname port hdialing₀
  cases Wisp.Server.step_admission hs with
  | greeted data _ _ hhandler hdials => exact ⟨hhandler, hstreams hdials⟩
  | requested data packet _ hrequests _ _ _ _ =>
    have hopens := opensStream_of_requests hrequests
    rw [hmessage data rfl] at hopens
    cases hopens
  | inserted sent packet _ hh _ _ _ => exact absurd hh (h.handler packet)
  | nothing _ _ _ hhandler hdials =>
    exact ⟨fun packet heq => h.handler packet (hhandler packet heq), hstreams hdials⟩

/-- A settled server gets no answer to a dial. -/
theorem Settled.not_dialReturns (h : Settled s) {ref : Nat} {result : Wisp.DialResult} :
    s.step (.stream ref (.dialReturns result)) = none := by
  cases hs : s.step (.stream ref (.dialReturns result)) with
  | none => rfl
  | some s' =>
    cases (Wisp.Server.step_cases hs).2 with
    | stream ref action st st' effect hst hstep =>
      cases Wisp.Stream.step_cases hstep with
      | dialed _ hostname port hc => exact absurd hc (h.streams ref st hst hostname port)

end Servers

/-! ### Peers -/

/-- No dial of this peer is still to come. -/
def Peer.Settled (peer : Peer) : Prop := ∀ server, .wisp server ∈ peer.channels → Agent.Settled server

section Peers

variable {index p : Nat} {peer peer' : Peer} {s s' : Runtime} {a : Action} {e : Event}

theorem Peer.settled_new (serviceID : String) (digest : Digest) (temporary : Bool) :
    (Peer.new serviceID digest temporary).Settled := nofun

theorem Peer.Settled.move (h : peer.Settled) (hmove : Peer.Move index peer peer' a e)
    (hmessage : ∀ i channel isString data sent, a = .message i channel isString data sent →
      opensStream data = false) : peer'.Settled := by
  cases hmove with
  | plain _ hservers _ =>
    intro server hmem
    rcases hservers server hmem with hmem | rfl
    · exact h server hmem
    · exact Agent.settled_new
  | @wisp channel server server' action hchannel hstep hpeer hmessage' _ =>
    have hserver := (h server (List.mem_of_getElem? hchannel)).step hstep (by
      intro data hdata
      obtain ⟨i, isString, sent, ha⟩ := hmessage' data hdata
      exact hmessage i channel isString data sent ha)
    intro server₁ hmem
    rw [hpeer] at hmem
    rcases List.mem_or_eq_of_mem_set hmem with hmem | heq
    · exact h server₁ hmem
    · cases heq
      exact hserver

/-- **Step lemma.**  A peer that is there and settled stays so, unless a CONNECT arrives on one of
    its channels. -/
theorem Runtime.Move.settled (hmove : s.Move s' a e)
    (hpeer : ∀ peer, s.peers[p]? = some peer → peer.Settled) (hlt : p < s.peers.length)
    (hmessage : ∀ channel isString data sent, a = .message p channel isString data sent →
      opensStream data = false) : ∀ peer, s'.peers[p]? = some peer → peer.Settled := by
  cases hmove with
  | same hpeers _ => rwa [hpeers]
  | @accepted offer created q _ haccepts _ =>
    cases haccepts with
    | created _ _ _ heq =>
      rw [heq, List.getElem?_append_left hlt]
      exact hpeer
    | @restarted current _ _ hcurrent _ heq =>
      intro peer' hget
      rw [heq] at hget
      by_cases hq : q = p
      · subst hq
        rw [List.getElem?_set_self hlt] at hget
        cases hget
        exact hpeer current hcurrent
      · rw [List.getElem?_set_ne hq] at hget
        exact hpeer peer' hget
  | @moved index current current' hcurrent hpeers hmove hindex =>
    intro peer' hget
    rw [hpeers] at hget
    by_cases hq : index = p
    · subst hq
      rw [List.getElem?_set_self hlt] at hget
      cases hget
      refine (hpeer current hcurrent).move hmove ?_
      rintro i channel isString data sent ha
      have hi := hindex i channel isString data sent ha
      subst hi
      exact hmessage channel isString data sent ha
    · rw [List.getElem?_set_ne hq] at hget
      exact hpeer peer' hget

/-- A settled peer does not dial. -/
theorem Runtime.Move.not_settled_of_dial {d : Dial} (hmove : s.Move s' a (.dial p d)) :
    ∃ peer, s.peers[p]? = some peer ∧ ¬ peer.Settled := by
  cases hmove with
  | same _ hdial => exact absurd rfl (hdial p d)
  | accepted _ _ hdial => exact absurd rfl (hdial p d)
  | @moved index current current' hcurrent hpeers hmove hindex =>
    cases hmove with
    | plain _ _ hdial => exact absurd rfl (hdial p d)
    | wisp hchannel hstep _ _ hdial =>
      obtain ⟨rfl, ref, result, rfl⟩ := hdial p d rfl
      refine ⟨current, hcurrent, fun hsettled => ?_⟩
      rw [(hsettled _ (List.mem_of_getElem? hchannel)).not_dialReturns] at hstep
      cases hstep

end Peers

end WebVPN.Agent
