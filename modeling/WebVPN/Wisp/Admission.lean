import WebVPN.Wisp.Registry

namespace WebVPN.Wisp

open WebVPN.Library

/-!
# Wisp — what leads to a dial

A stream waits for a dial because a CONNECT packet was admitted, and that needs a handshake.

* `Greets`, `Requests` — the packets that complete the handshake and that ask for a stream;
* `Server.KeepsDials` — the streams that wait for a dial are streams that did so before;
* `Server.Admission`, `Server.step_admission` — every step either admits something or keeps all this.
-/

/-- The packet completes the handshake: INFO with version 2. -/
def Greets (data : List UInt8) : Prop :=
  ∃ packet, parsePacket data = .ok packet ∧ packet.streamID = 0 ∧ packet.kind = packetInfo ∧
    2 ≤ packet.payload.length ∧ packet.payload.head? = some 2

/-- The packet is a CONNECT for TCP with a number, a host and a port. -/
structure Requests (data : List UInt8) (packet : Frame) : Prop where
  parsed : parsePacket data = .ok packet
  kind : packet.kind = packetConnect
  stream : packet.streamID ≠ 0
  tcp : packet.payload.head? = some streamTCP
  host : connectHostname packet.payload ≠ []
  port : connectPort packet.payload ≠ 0

section Messages

variable {s : Server} {data : List UInt8} {packet : Frame}

/-- Only an INFO packet completes the handshake. -/
theorem Server.onMessage_handshaken (h : (s.onMessage data).handshaken = true) :
    s.handshaken = true ∨ Greets data := by
  unfold Server.onMessage at h
  split at h
  · exact .inl h
  rename_i packet hparse
  split at h
  · rename_i hzero
    unfold Server.handleHandshake at h
    split at h
    · exact .inl h
    · rename_i hinfo
      simp only [not_or, not_not, Nat.not_lt] at hinfo
      exact .inr ⟨packet, hparse, hzero, hinfo⟩
  · -- every other packet leaves the flag alone
    left
    repeat' split at h
    all_goals first
      | exact h
      | unfold Server.openStream at h
        repeat' split at h
        all_goals exact h

/-- The handler goes on to open a stream for a well-formed CONNECT on a number that is free. -/
theorem Server.onMessage_requests (hidle : s.handler = .idle)
    (h : (s.onMessage data).handler = .opening packet) :
    Requests data packet ∧ s.handshaken = true ∧ s.lookup packet.streamID = none := by
  have hcases := s.onMessage_cases data
  generalize hs' : s.onMessage data = s' at hcases h
  cases hcases with
  | ignored =>
    rw [hidle] at h
    cases h
  | @opening packet' hparse hid hkind hhand hfree =>
    obtain rfl : packet' = packet := Handler.opening.inj h
    refine ⟨?_, hhand, hfree⟩
    -- with all this known, `onMessage` is `openStream`
    have hopen : (s.openStream packet').handler = .opening packet' := by
      have heq : s.onMessage data = s.openStream packet' := by
        simp [Server.onMessage, hparse, hid, hkind, hhand, hfree]
      rw [← heq, hs']
    unfold Server.openStream at hopen
    split at hopen
    · cases hopen
    split at hopen
    · cases hopen
    rename_i hlong hnamed
    simp only [not_or, not_not] at hlong hnamed
    exact ⟨hparse, hkind, hid, hlong.2, hnamed.1, hnamed.2⟩
  | _ => cases h

end Messages

/-! ### Streams that wait for a dial -/

/-- A stream waits for a dial only from its beginning. -/
theorem Stream.step_dialing {serverDone : Bool} {st st' : Stream} {a : StreamAction} {effect : Effect}
    (h : st.step serverDone a = some (st', effect)) {hostname : List UInt8} {port : UInt16}
    (hdialing : st'.connect = .dialing hostname port) : st.connect = .dialing hostname port := by
  cases Stream.step_cases h with
  | dialed _ _ _ _ => cases hdialing
  | published result _ => cases result <;> cases hdialing
  | connectFailed _ _ => cases hdialing
  | writeFailed _ _ _ => rwa [Stream.callClose_connect] at hdialing
  | readFailed _ _ _ => rwa [Stream.callClose_connect] at hdialing
  | _ => exact hdialing

/-- The streams that wait for a dial are streams that did so before. -/
def Server.KeepsDials (s s' : Server) : Prop :=
  ∀ (ref : Nat) (st' : Stream), s'.table[ref]? = some st' → ∀ hostname port,
    st'.connect = .dialing hostname port →
      ∃ st, s.table[ref]? = some st ∧ st.connect = .dialing hostname port ∧ st'.id = st.id

/-- Only the insertion of a stream brings a new dial. -/
theorem Server.Step.keepsDials {s s' : Server} {a : Action} (h : s.Step a s')
    (hold : s'.table.length = s.table.length) : s.KeepsDials s' := by
  intro ref st' hst' hostname port hdialing
  obtain ⟨st, hst, hfate⟩ := h.before (hold ▸ (List.getElem?_eq_some_iff.mp hst').1) hst'
  refine ⟨st, hst, ?_, hfate.id⟩
  cases hfate with
  | same | enqueued => exact hdialing
  | called | shut => rwa [Stream.callClose_connect] at hdialing
  | stepped action effect _ hs => exact Stream.step_dialing hs hdialing

/-! ### One step of a server -/

/-- What a step of a server admits. -/
inductive Server.Admission (s : Server) : Action → Server → Prop
  | greeted (data : List UInt8) (s' : Server) (hgreets : Greets data)
      (hhandler : ∀ packet, s'.handler ≠ .opening packet) (hdials : s.KeepsDials s') :
      Admission s (.message data) s'
  | requested (data : List UInt8) (packet : Frame) (s' : Server) (hrequests : Requests data packet)
      (hfree : s.lookup packet.streamID = none) (hgreeted : s.handshaken = true)
      (hhandler : s'.handler = .opening packet) (hdials : s.KeepsDials s') :
      Admission s (.message data) s'
  | inserted (sent : Bool) (packet : Frame) (s' : Server) (hh : s.handler = .opening packet)
      (hsame : s'.handshaken = s.handshaken) (hhandler : ∀ packet, s'.handler ≠ .opening packet)
      (htable : s'.table = s.table ++ [Stream.new packet.streamID (connectHostname packet.payload)
        (connectPort packet.payload)]) :
      Admission s (.handle sent) s'
  | nothing (a : Action) (s' : Server) (hsame : s'.handshaken = s.handshaken)
      (hhandler : ∀ packet, s'.handler = .opening packet → s.handler = .opening packet)
      (hdials : s.KeepsDials s') : Admission s a s'

section Steps

variable {s s' : Server} {a : Action}

theorem Server.onMessage_admission (data : List UInt8) (hidle : s.handler = .idle)
    (hdials : s.KeepsDials (s.onMessage data)) : s.Admission (.message data) (s.onMessage data) := by
  by_cases hopening : ∃ packet, (s.onMessage data).handler = .opening packet
  · obtain ⟨packet, hpacket⟩ := hopening
    obtain ⟨hrequests, hhand, hfree⟩ := Server.onMessage_requests hidle hpacket
    exact .requested data packet _ hrequests hfree hhand hpacket hdials
  have hhandler : ∀ packet, (s.onMessage data).handler ≠ .opening packet :=
    fun packet heq => hopening ⟨packet, heq⟩
  -- the flag is raised by an INFO packet and by nothing else
  have hcases := s.onMessage_cases data
  generalize hs' : s.onMessage data = s' at hcases hdials hhandler
  cases hcases with
  | greeted =>
    have hgreets : s.handshaken = true ∨ Greets data := Server.onMessage_handshaken (by rw [hs'])
    by_cases hhand : s.handshaken = true
    · exact .nothing _ _ hhand.symm (fun packet heq => absurd heq (hhandler packet)) hdials
    · exact .greeted data _ (hgreets.resolve_left hhand) hhandler hdials
  | _ => exact .nothing _ _ rfl (fun packet heq => absurd heq (hhandler packet)) hdials

/-- **Inversion.**  Every step completes the handshake, admits a CONNECT, puts its stream into the
    table, or does none of this. -/
theorem Server.step_admission (hs : s.step a = some s') : s.Admission a s' := by
  have h := (Server.step_cases hs).2
  have hold : s'.table.length = s.table.length → s.Admission a s' := by
    intro hlength
    have hdials := h.keepsDials hlength
    cases h.turns with
    | same hh hflag => exact .nothing _ _ hflag (fun packet heq => hh ▸ heq) hdials
    | received data ha hidle _ heq =>
      subst ha heq
      exact Server.onMessage_admission data hidle hdials
    | refused packet reason _ _ heq => exact .nothing _ _ (heq ▸ rfl) (by simp [heq, Server.refuse]) hdials
    | overflowed ref payload st _ _ _ heq => exact .nothing _ _ (heq ▸ rfl) (by simp [heq]) hdials
    | rests _ hopening _ hflag =>
      exact .nothing _ _ hflag (fun packet heq => absurd heq (hopening packet)) hdials
  cases h.registers with
  | kept _ hlength _ => exact hold hlength
  | removed _ _ _ _ _ _ _ _ _ _ hlength => exact hold hlength
  | inserted sent packet ha hh _ _ heq =>
    subst ha heq
    exact .inserted sent packet _ hh rfl (by simp) rfl

end Steps

end WebVPN.Wisp
