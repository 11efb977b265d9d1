import WebVPN.Wisp.Pace

namespace WebVPN.Wisp

open WebVPN.Library

/-!
# Wisp — the codec and the frames of the server

`sendFrame` puts any kind and any payload into a packet; that the server sends only what `parsePacket`
accepts depends on its callers.  The frames with a fixed payload are small, and a DATA frame carries what
one read of `readLoop` has put into its buffer of `readBufferSize` bytes.

* `Stream.ReadsFit`, `Server.Speaks` — what is about to be sent is well formed, and what was sent is;
* `Stream.step_readsFit`, `Stream.step_sent`, `Server.step_speaks` — every step keeps it;
* `packet_codec` — the format in both directions, and that the server keeps to it.
-/

/-! ### The frames of the server -/

/-- A payload that fits the buffer of `readLoop` fits a packet. -/
theorem Frame.WellFormed.of_buffer {kind : UInt8} {id : UInt32} {payload : List UInt8}
    (hge : packetConnect ≤ kind) (hle : kind ≤ packetInfo) (hlen : payload.length ≤ readBufferSize) :
    (Frame.mk kind id payload).WellFormed := by
  refine ⟨hge, hle, ?_⟩
  show payload.length + 5 ≤ 64 * 2 ^ 10
  have hbuffer : payload.length ≤ 16 * 2 ^ 10 := hlen
  omega

theorem continueFrame_wellFormed (id : UInt32) (remaining : Nat) :
    (continueFrame id remaining).WellFormed := by
  apply Frame.WellFormed.of_buffer
  · decide
  · decide
  · show 4 ≤ readBufferSize
    decide

theorem closeFrame_wellFormed (id : UInt32) (reason : UInt8) : (closeFrame id reason).WellFormed := by
  apply Frame.WellFormed.of_buffer
  · decide
  · decide
  · show 1 ≤ readBufferSize
    decide

/-! ### One stream -/

/-- What `readLoop` has in hand came out of one read. -/
def Stream.ReadsFit (st : Stream) : Prop :=
  ∀ connection data err, st.readLoop = .sending connection data err → data.length ≤ readBufferSize

theorem Stream.ReadsFit.of_readLoop {st st' : Stream} (h : st.ReadsFit)
    (hread : st'.readLoop = st.readLoop) : st'.ReadsFit := by
  intro connection data err hsending
  exact h connection data err (hread ▸ hsending)

theorem Stream.ReadsFit.of_afterRead {st : Stream} {connection : Option Conn} {err : Option ReadError}
    (hread : st.readLoop = afterRead connection err) : st.ReadsFit := by
  intro connection' data err' hsending
  rw [hread] at hsending
  match err with
  | none | some .eof | some .other => cases hsending

/-- A read returns at most the size of the buffer. -/
theorem Stream.length_le_of_read {serverDone : Bool} {st st' : Stream} {effect : Effect} {c : Conn}
    {data : List UInt8} {err : Option ReadError} (hread : st.readLoop = .reading (some c))
    (h : st.step serverDone (.readLoopReads data err) = some (st', effect)) :
    data.length ≤ readBufferSize := by
  simp only [Stream.step, Stream.stepRead, hread] at h
  split at h
  · cases h
  · omega

section Step

variable {serverDone : Bool} {st st' : Stream} {a : StreamAction} {effect : Effect}

theorem Stream.step_readsFit (hfit : st.ReadsFit) (h : st.step serverDone a = some (st', effect)) :
    st'.ReadsFit := by
  cases Stream.step_cases h with
  | published result _ =>
    cases result with
    | connection c => exact fun _ _ _ hsending => nomatch hsending
    | error e => exact hfit.of_readLoop rfl
  | connectFailed reason _ => exact hfit.of_readLoop (st.callClose_readLoop true reason)
  | writeFailed notify reason _ => exact hfit.of_readLoop (st.callClose_readLoop notify reason)
  | readNothing c err _ => exact .of_afterRead rfl
  | read c data err hread _ =>
    rintro _ _ _ hsending
    obtain ⟨-, rfl, -⟩ := ReadPC.sending.inj hsending
    exact Stream.length_le_of_read hread h
  | forwarded connection data err _ => exact .of_afterRead rfl
  | forwardFailed | readFailed => exact fun _ _ _ hsending => nomatch hsending
  | _ => exact hfit.of_readLoop rfl

theorem Stream.step_sent (hfit : st.ReadsFit) (h : st.step serverDone a = some (st', effect)) :
    ∀ f ∈ effect.sent, f.WellFormed := by
  intro f hf
  cases Stream.step_cases h with
  | announced connection remaining _ =>
    rw [List.mem_singleton.mp hf]
    exact continueFrame_wellFormed st.id remaining
  | forwarded connection data err hread =>
    rw [List.mem_singleton.mp hf]
    exact .of_buffer (by decide) (by decide) (hfit connection data err hread)
  | closeNotified sent notify reason _ =>
    cases sent with
    | true =>
      rw [List.mem_singleton.mp hf]
      exact closeFrame_wellFormed st.id reason
    | false => cases hf
  | _ => cases hf

end Step

/-! ### The server -/

/-- What the server has sent is well formed, and so is what its threads are about to send. -/
structure Server.Speaks (s : Server) : Prop where
  sent : ∀ f ∈ s.sent, f.WellFormed
  reply : ∀ f shutdown, s.handler = .replying f shutdown → f.WellFormed
  reads : ∀ st ∈ s.table, st.ReadsFit

section Server

variable {s s' : Server} {a : Action}

/-- **Step lemma.** -/
theorem Server.step_speaks (h : s.Speaks) (hs : s.step a = some s') : s'.Speaks := by
  refine ⟨?_, ?_, ?_⟩
  · intro f hf
    rw [Server.step_sent hs] at hf
    rcases List.mem_append.mp hf with hf | hf
    · exact h.sent f hf
    -- who sends: the message handler, the handshake, or a goroutine of a stream
    rcases Server.mem_emitted hs hf with ⟨shutdown, -, hh⟩ | rfl |
      ⟨ref, action, st, st', effect, -, hst, hstep, hmem⟩
    · exact h.reply f shutdown hh
    · exact continueFrame_wellFormed 0 initialPacketAllowance
    · exact Stream.step_sent (h.reads st (List.mem_of_getElem? hst)) hstep f hmem
  · intro f shutdown hh
    by_cases hmsg : ∃ data, a = .message data
    · obtain ⟨data, rfl⟩ := hmsg
      cases (Server.step_cases hs).2 with
      | received data hidle =>
        obtain ⟨id, reason, rfl⟩ := Server.onMessage_reply hidle data hh
        exact closeFrame_wellFormed id reason
    · rcases Server.step_handler hs (fun data heq => hmsg ⟨data, heq⟩) with heq | ⟨-, hreply⟩
      · exact h.reply f shutdown (heq ▸ hh)
      · obtain ⟨packet, reason, -, rfl, -⟩ := hreply f shutdown hh
        exact closeFrame_wellFormed packet.streamID reason
  · refine (Server.step_cases hs).2.streams h.reads ?_ ?_ ?_
    · exact fun _ _ _ _ _ _ hsending => nomatch hsending
    · intro st st' hfit htouched
      cases htouched with
      | same => exact hfit
      | enqueued payload => exact hfit
      | called notify reason => exact hfit.of_readLoop (st.callClose_readLoop notify reason)
    · exact fun _ _ _ _ _ _ _ hstep hfit => Stream.step_readsFit hfit hstep

/-- The server starts with the INFO frame in hand. -/
theorem Server.new_speaks : Server.new.Speaks := by
  refine ⟨fun f hf => absurd hf List.not_mem_nil, ?_, fun st hst => absurd hst List.not_mem_nil⟩
  intro f shutdown hh
  cases hh
  decide

/-- **Run lemma.** -/
theorem run_speaks {h : History} {s : Server} (hr : system.Run h s) : s.Speaks :=
  hr.invariant (P := Server.Speaks) Server.new_speaks
    (fun _ _ _ _ hspeaks hs => Server.step_speaks hspeaks (system_step hs))

end Server

/-! ### The codec -/

/-- **The codec.**  What `sendFrame` builds for a kind from 1 to 5 and a payload of at most 65531 bytes is
    parsed as what it was built from; what is accepted is built from the result again; everything else is
    rejected; and whatever a server has sent is accepted. -/
theorem packet_codec :
    (∀ (kind : UInt8) (id : UInt32) (payload : List UInt8), 1 ≤ kind → kind ≤ 5 →
      payload.length ≤ 65531 →
      parsePacket (Frame.mk kind id payload).packet = .ok ⟨kind, id, payload⟩) ∧
    (∀ (data : List UInt8) (f : Frame), parsePacket data = .ok f → f.packet = data) ∧
    (∀ data : List UInt8, (∀ (kind : UInt8) (id : UInt32) (payload : List UInt8), 1 ≤ kind → kind ≤ 5 →
        payload.length ≤ 65531 → data ≠ (Frame.mk kind id payload).packet) →
      ∃ message, parsePacket data = .error message) ∧
    ∀ (h : History) (s : Server), system.Run h s → ∀ f ∈ s.sent, parsePacket f.packet = .ok f := by
  refine ⟨?_, ?_, ?_, ?_⟩
  · intro kind id payload hge hle hlen
    refine parsePacket_packet _ ⟨hge, hle, ?_⟩
    show payload.length + 5 ≤ 64 * 2 ^ 10
    omega
  · intro data f hdata
    exact (packet_of_parsePacket hdata).2
  · intro data hother
    cases hdata : parsePacket data with
    | error message => exact ⟨message, rfl⟩
    | ok f =>
      obtain ⟨⟨hge, hle, hsize⟩, hpacket⟩ := packet_of_parsePacket hdata
      have hlen : f.payload.length + 5 ≤ 64 * 2 ^ 10 := hsize
      exact absurd hpacket.symm (hother f.kind f.streamID f.payload hge hle (by omega))
  · intro h s hr f hf
    exact parsePacket_packet f ((run_speaks hr).sent f hf)

/-- The two INFO packets of a handshake, the empty message, and a server that has sent its INFO and its
    CONTINUE. -/
theorem packet_codec_of_handshake :
    parsePacket (Frame.mk packetInfo 0 [2, 1]).packet = .ok ⟨packetInfo, 0, [2, 1]⟩ ∧
    (Frame.mk packetInfo 0 [2, 0]).packet = [5, 0, 0, 0, 0, 2, 0] ∧
    (∃ message, parsePacket [] = .error message) ∧
    ∃ h s, system.Run h s ∧ s.sent.length = 2 ∧ ∀ f ∈ s.sent, parsePacket f.packet = .ok f := by
  obtain ⟨hsmall, hback, hother, hserver⟩ := packet_codec
  refine ⟨?_, ?_, ?_, ?_⟩
  · exact hsmall packetInfo 0 [2, 1] (by decide) (by decide) (by decide)
  · exact hback [5, 0, 0, 0, 0, 2, 0] ⟨packetInfo, 0, [2, 0]⟩ (by decide +kernel)
  · exact hother [] (fun _ _ _ _ _ _ hnil => nomatch hnil)
  · obtain ⟨h, s, hr, hsent⟩ := System.exists_run_of_exec (S := system)
      (P := fun _ s => decide (s.sent.length = 2))
      [.handle true, .message [5, 0, 0, 0, 0, 2, 0], .handle true] (by decide +kernel)
    exact ⟨h, s, hr, of_decide_eq_true hsent, hserver h s hr⟩

end WebVPN.Wisp
