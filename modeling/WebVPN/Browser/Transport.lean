import WebVPN.Library.System
import Mathlib.Algebra.Group.Nat.Defs

namespace WebVPN.Browser

open WebVPN.Library

/-!
# Browser — the transport over the Wisp channel

`RTCWispTransport` of `web/src/rtc-stream.ts`: a readable and a writable stream over one `RTCDataChannel`.
The sink of the writable stream looks at the buffered amount, and as long as that is above the mark it
waits for `bufferedamountlow`; then it looks at the state of the channel and sends.  `event` registers the
listeners of a wait when the wait begins, one for the event and one for `close`.

The page runs one turn of its event loop at a time, and a step is such a turn: an event of the channel or a
call on one of the streams, with everything that the promises settled in it set off.  The writable stream
hands its sink one packet at a time, so that the packets not settled at the end of a turn are one that
waits and those queued behind it.  Each packet is known by the number of the call that wrote it, and
`sends` tells for which of them `channel.send` returns.

* `DataChannel`, `Transport` — the channel, and the object with the state of its streams;
* `Transport.advance` — the sink and the stream, up to the next wait;
* `Transport.step`, `transportSystem` — the turns, in any order;
* `Transport.Step`, `Transport.step_cases` — what a turn does to the packets and to the channel, once;
* `Transport.Stuck` — a packet waits, and the close event that would reject it is over;
* `late_hangs` — a packet that arrives after that event, with too much still buffered, waits for ever;
* `run_write_settles` — and it is the only way to get stuck.
-/

/-- A write waits above this amount. -/
def highWaterMark : Nat := 4 * 2 ^ 20
/-- It goes on at this amount. -/
def lowWaterMark : Nat := 2 ^ 20

/-! ### The channel -/

/-- `readyState`.  When the channel is closed, `delivered` tells whether the close event was. -/
inductive ReadyState
  | connecting
  | opened
  | closing
  | closed (delivered : Bool)
deriving DecidableEq, Repr

/-- The `RTCDataChannel`; `lowDue` counts the `bufferedamountlow` events that are still to be delivered. -/
structure DataChannel where
  readyState : ReadyState
  bufferedAmount : Nat
  lowDue : Nat
deriving DecidableEq, Repr

/-- The channel is closed, and its close event is over. -/
def DataChannel.Dead (c : DataChannel) : Prop := c.readyState = .closed true

instance (c : DataChannel) : Decidable c.Dead := inferInstanceAs (Decidable (_ = _))

/-- A call of `close` on the channel. -/
def DataChannel.close (c : DataChannel) : DataChannel :=
  match c.readyState with
  | .connecting | .opened => { c with readyState := .closing }
  | .closing | .closed _ => c

/-- A message of `size` bytes was sent. -/
def DataChannel.send (c : DataChannel) (size : Nat) : DataChannel :=
  { c with bufferedAmount := c.bufferedAmount + size }

/-- The buffered amount falls, and if it reaches the threshold an event is due. -/
def DataChannel.drain (c : DataChannel) (amount : Nat) : DataChannel :=
  { c with
    bufferedAmount := amount
    lowDue := if lowWaterMark < c.bufferedAmount ∧ amount ≤ lowWaterMark then c.lowDue + 1 else c.lowDue }

@[simp] theorem DataChannel.bufferedAmount_close (c : DataChannel) :
    c.close.bufferedAmount = c.bufferedAmount := by
  unfold DataChannel.close
  split <;> rfl

/-- A call of `close` does not deliver the event. -/
@[simp] theorem DataChannel.dead_close (c : DataChannel) : c.close.Dead ↔ c.Dead := by
  unfold DataChannel.close DataChannel.Dead
  split <;> simp [*]

/-! ### The transport -/

/-- What a write is rejected with: an error of the sink, the exception of `channel.send`, the reason of an
    abort, or the `TypeError` for a stream that is closed or about to be. -/
inductive WriteError
  | error (message : String)
  | sendFailed
  | aborted
  | closing
deriving DecidableEq, Repr

/-- How a write ends. -/
inductive WriteResult
  | sent
  | rejected (e : WriteError)
deriving DecidableEq, Repr

/-- A write is settled. -/
structure Settlement where
  number : Nat
  result : WriteResult
deriving DecidableEq, Repr

/-- A packet on its way through the writable stream. -/
structure Chunk where
  number : Nat
  size : Nat
deriving DecidableEq, Repr

/-- The chunk is settled. -/
def Chunk.settle (result : WriteResult) (chunk : Chunk) : Settlement := ⟨chunk.number, result⟩

/-- The state of the writable stream; it is `erroring` from an abort until the write in progress is
    settled. -/
inductive WriterState
  | writable
  | erroring
  | errored (e : WriteError)
  | closed
deriving DecidableEq, Repr

/-- The state of the readable side. -/
inductive ReaderState
  | readable
  | closed
  | errored
deriving DecidableEq, Repr

/-- An `RTCWispTransport`.  The first packet of `pending` waits in the sink, the others are queued behind it;
    `writes` counts the calls of `write` on the stream. -/
structure Transport where
  channel : DataChannel
  closed : Bool
  reader : ReaderState
  writer : WriterState
  closeRequested : Bool
  pending : List Chunk
  writes : Nat
deriving DecidableEq, Repr

/-- The streams over a channel. -/
def Transport.new (channel : DataChannel) : Transport where
  channel := channel
  closed := false
  reader := .readable
  writer := .writable
  closeRequested := false
  pending := []
  writes := 0

/-- `close` of the transport. -/
def Transport.close (s : Transport) : Transport :=
  if s.closed then s
  else { s with closed := true, reader := if s.reader = .readable then .closed else s.reader }

/-- `abort` of the transport. -/
def Transport.abort (s : Transport) : Transport :=
  if s.closed then s
  else { s with closed := true, reader := if s.reader = .readable then .errored else s.reader }

/-- `receive`; a packet is handed to the reader. -/
def Transport.receive (s : Transport) (binary : Bool) : Transport :=
  if s.closed then s
  else if binary then s
  else s.abort

/-! ### The writable stream -/

/-- Where the sink's `write` gets to when it looks at the channel. -/
inductive SinkCheck
  | waits
  | throws (message : String)
  | sends
deriving DecidableEq, Repr

/-- The condition of the loop comes first, the state of the channel after it. -/
def DataChannel.check (c : DataChannel) : SinkCheck :=
  if highWaterMark < c.bufferedAmount then .waits
  else if c.readyState ≠ .opened then .throws "RTCDataChannel is not open"
  else .sends

/-- The end of an abort: what is queued is rejected, and the sink closes the channel. -/
def Transport.finishErroring (s : Transport) (queue : List Chunk) : Transport × List Settlement :=
  ({ s with writer := .errored .aborted, pending := [], channel := s.channel.close },
    queue.map (Chunk.settle (.rejected .aborted)))

/-- The write in progress is rejected, and the stream with it. -/
def Transport.reject (s : Transport) (e : WriteError) (chunk : Chunk) (queue : List Chunk) :
    Transport × List Settlement :=
  if s.writer = .erroring then
    let ended := s.finishErroring queue
    (ended.1, chunk.settle (.rejected e) :: ended.2)
  else
    ({ s with writer := .errored e, pending := [] }, (chunk :: queue).map (Chunk.settle (.rejected e)))

/-- Hand the packets to the sink one after another, until one of them waits or fails.  When a close was
    requested, the sink closes the channel after the last one. -/
def Transport.advance (sends : Nat → Bool) : List Chunk → Transport → Transport × List Settlement
  | [], s =>
    if s.closeRequested then
      ({ s with writer := .closed, pending := [], channel := s.channel.close }, [])
    else ({ s with pending := [] }, [])
  | chunk :: queue, s =>
    match s.channel.check with
    | .waits => ({ s with pending := chunk :: queue }, [])
    | .throws message => s.reject (.error message) chunk queue
    | .sends =>
      if sends chunk.number = false then s.reject .sendFailed chunk queue
      else
        let s' := { s with channel := s.channel.send chunk.size }
        let rest :=
          if s.writer = .erroring then s'.finishErroring queue else Transport.advance sends queue s'
        (rest.1, chunk.settle .sent :: rest.2)

/-- Why the stream rejects a packet without handing it to the sink, if it does. -/
def Transport.refusal (s : Transport) : Option WriteError :=
  match s.writer with
  | .errored e => some e
  | .closed => some .closing
  | .erroring => some (if s.closeRequested then .closing else .aborted)
  | .writable => if s.closeRequested then some .closing else none

/-- `write` on the stream. -/
def Transport.write (sends : Nat → Bool) (s : Transport) (size : Nat) : Transport × List Settlement :=
  let chunk : Chunk := ⟨s.writes, size⟩
  let s' := { s with writes := s.writes + 1 }
  match s.refusal with
  | some e => (s', [chunk.settle (.rejected e)])
  | none =>
    if s.pending = [] then Transport.advance sends [chunk] s'
    else ({ s' with pending := s.pending ++ [chunk] }, [])

/-- `close` on the stream. -/
def Transport.closeWriter (sends : Nat → Bool) (s : Transport) : Transport × List Settlement :=
  match s.writer with
  | .errored _ | .closed => (s, [])
  | .writable | .erroring =>
    let s' := { s with closeRequested := true }
    if s.closeRequested then (s, [])
    else if s.pending = [] then Transport.advance sends [] s'
    else (s', [])

/-- `abort` on the stream; the sink hears of it when no write is in progress. -/
def Transport.abortWriter (s : Transport) : Transport × List Settlement :=
  match s.writer with
  | .errored _ | .closed | .erroring => (s, [])
  | .writable => if s.pending = [] then s.finishErroring [] else ({ s with writer := .erroring }, [])

/-- `cancel` on the readable stream. -/
def Transport.cancelReader (s : Transport) : Transport :=
  if s.reader = .readable then { s with reader := .closed, channel := s.channel.close } else s

/-! ### Steps -/

/-- The turns: calls on the streams, a message that the page sends itself, what happens to the channel
    (`drained`, `channelClosed`), and its events. -/
inductive TransportAction
  | write (size : Nat)
  | closeWriter
  | abortWriter
  | cancelReader
  | post (size : Nat)
  | opened
  | drained (amount : Nat)
  | channelClosed
  | message (binary : Bool)
  | bufferedAmountLow
  | closeEvent
  | errorEvent
deriving DecidableEq, Repr

/-- `bufferedamountlow` is delivered: the write that waits looks at the channel again. -/
def Transport.bufferedAmountLow (sends : Nat → Bool) (s : Transport) :
    Option (Transport × List Settlement) :=
  let s' := { s with channel := { s.channel with lowDue := s.channel.lowDue - 1 } }
  if s.channel.lowDue = 0 then none
  else
    match s.pending with
    | [] => some (s', [])
    | chunk :: queue => some (Transport.advance sends (chunk :: queue) s')

/-- `close` is delivered: to the transport, and to the write that waits. -/
def Transport.closeEvent (s : Transport) : Option (Transport × List Settlement) :=
  let s' := { s with channel := { s.channel with readyState := .closed true } }.close
  if s.channel.readyState ≠ .closed false then none
  else
    match s.pending with
    | [] => some (s', [])
    | chunk :: queue => some (s'.reject (.error "RTCDataChannel closed") chunk queue)

/-- One turn.  A closed channel keeps its buffered amount. -/
def Transport.step (sends : Nat → Bool) (s : Transport) :
    TransportAction → Option (Transport × List Settlement)
  | .write size => some (s.write sends size)
  | .closeWriter => some (s.closeWriter sends)
  | .abortWriter => some s.abortWriter
  | .cancelReader => some (s.cancelReader, [])
  | .post size =>
    if s.channel.readyState = .opened then some ({ s with channel := s.channel.send size }, []) else none
  | .opened =>
    if s.channel.readyState = .connecting then
      some ({ s with channel := { s.channel with readyState := .opened } }, [])
    else none
  | .drained amount =>
    if (s.channel.readyState = .opened ∨ s.channel.readyState = .closing) ∧
        amount < s.channel.bufferedAmount then
      some ({ s with channel := s.channel.drain amount }, [])
    else none
  | .channelClosed =>
    match s.channel.readyState with
    | .closed _ => none
    | _ => some ({ s with channel := { s.channel with readyState := .closed false } }, [])
  | .message binary => some (s.receive binary, [])
  | .bufferedAmountLow => s.bufferedAmountLow sends
  | .closeEvent => s.closeEvent
  | .errorEvent => some (s.abort, [])

/-- The transport over a given channel as a transition system. -/
def transportSystem (sends : Nat → Bool) (channel : DataChannel) :
    System Transport TransportAction (List Settlement) where
  init := .new channel
  step s a := s.step sends a

/-! ### What the sink does -/

section Sink

variable {sends : Nat → Bool} {s : Transport}

theorem DataChannel.check_eq_waits {c : DataChannel} (h : highWaterMark < c.bufferedAmount) :
    c.check = .waits := by
  rw [DataChannel.check, if_pos h]

/-- The sink refuses a closed channel, if it gets as far. -/
theorem DataChannel.Dead.check_eq_throws {c : DataChannel} (hdead : c.Dead)
    (h : c.bufferedAmount ≤ highWaterMark) : c.check = .throws "RTCDataChannel is not open" := by
  have hne : c.readyState ≠ .opened := by
    rw [show c.readyState = .closed true from hdead]
    exact nofun
  rw [DataChannel.check, if_neg (by omega), if_pos hne]

theorem Transport.finishErroring_dead (queue : List Chunk) :
    (s.finishErroring queue).1.channel.Dead ↔ s.channel.Dead :=
  DataChannel.dead_close s.channel

theorem Transport.reject_dead (e : WriteError) (chunk : Chunk) (queue : List Chunk) :
    (s.reject e chunk queue).1.channel.Dead ↔ s.channel.Dead := by
  unfold Transport.reject
  split
  · exact Transport.finishErroring_dead queue
  · exact Iff.rfl

/-- A rejection leaves no packet behind. -/
theorem Transport.reject_pending (s : Transport) (e : WriteError) (chunk : Chunk) (queue : List Chunk) :
    (s.reject e chunk queue).1.pending = [] := by
  unfold Transport.reject
  split <;> rfl

/-- A rejection rejects the write in progress and what is queued behind it. -/
theorem Transport.reject_settles (s : Transport) (e : WriteError) (chunk : Chunk) (queue : List Chunk) :
    chunk.settle (.rejected e) ∈ (s.reject e chunk queue).2 ∧
      ∀ c ∈ queue, ∃ e', c.settle (.rejected e') ∈ (s.reject e chunk queue).2 := by
  unfold Transport.reject
  split
  · refine ⟨List.mem_cons_self, ?_⟩
    intro c hc
    exact ⟨.aborted, List.mem_cons_of_mem _ (List.mem_map_of_mem hc)⟩
  · refine ⟨List.mem_map_of_mem List.mem_cons_self, ?_⟩
    intro c hc
    exact ⟨e, List.mem_map_of_mem (List.mem_cons_of_mem _ hc)⟩

/-- The sink does not deliver the close event. -/
theorem Transport.advance_dead (chunks : List Chunk) :
    (Transport.advance sends chunks s).1.channel.Dead ↔ s.channel.Dead := by
  -- over the packets: each is settled with the channel closed at most as far as `closing`
  induction chunks generalizing s with
  | nil =>
    unfold Transport.advance
    split
    · exact DataChannel.dead_close s.channel
    · exact Iff.rfl
  | cons chunk queue ih =>
    unfold Transport.advance
    split
    · exact Iff.rfl
    · exact Transport.reject_dead _ chunk queue
    · split
      · exact Transport.reject_dead _ chunk queue
      show (if s.writer = .erroring then _ else _ : Transport × List Settlement).1.channel.Dead ↔ _
      split
      · exact Transport.finishErroring_dead queue
      · exact ih

/-- With too much buffered, the first packet waits. -/
theorem Transport.advance_of_full {chunk : Chunk} {queue : List Chunk}
    (h : highWaterMark < s.channel.bufferedAmount) :
    Transport.advance sends (chunk :: queue) s = ({ s with pending := chunk :: queue }, []) := by
  rw [Transport.advance, DataChannel.check_eq_waits h]

/-- On a dead channel with little buffered, the first packet fails. -/
theorem Transport.advance_of_dead {chunk : Chunk} {queue : List Chunk} (hdead : s.channel.Dead)
    (h : s.channel.bufferedAmount ≤ highWaterMark) : Transport.advance sends (chunk :: queue) s =
      s.reject (.error "RTCDataChannel is not open") chunk queue := by
  rw [Transport.advance, hdead.check_eq_throws h]

end Sink

/-! ### What a turn can do -/

/-- Neither the packets nor the close event are touched, and a dead channel keeps its amount. -/
structure Transport.Quiet (s s' : Transport) : Prop where
  pending : s'.pending = s.pending
  dead : s'.channel.Dead ↔ s.channel.Dead
  amount : s.channel.Dead → s'.channel.bufferedAmount = s.channel.bufferedAmount

/-- The turns. -/
inductive Transport.Step (sends : Nat → Bool) (s : Transport) :
    TransportAction → Transport → List Settlement → Prop
  | quiet (a : TransportAction) (s' : Transport) (hwrite : ∀ size, a ≠ .write size)
      (hclose : a ≠ .closeEvent) (hq : s.Quiet s') : Step sends s a s' []
  | refused (size : Nat) (e : WriteError) (hrefusal : s.refusal = some e) :
      Step sends s (.write size) { s with writes := s.writes + 1 } [⟨s.writes, .rejected e⟩]
  | queued (size : Nat) (hrefusal : s.refusal = none) (hpending : s.pending ≠ []) :
      Step sends s (.write size)
        { s with writes := s.writes + 1, pending := s.pending ++ [⟨s.writes, size⟩] } []
  | started (size : Nat) (hrefusal : s.refusal = none) (hpending : s.pending = []) :
      Step sends s (.write size)
        (Transport.advance sends [⟨s.writes, size⟩] { s with writes := s.writes + 1 }).1
        (Transport.advance sends [⟨s.writes, size⟩] { s with writes := s.writes + 1 }).2
  | resumed (chunk : Chunk) (queue : List Chunk) (channel : DataChannel)
      (hpending : s.pending = chunk :: queue) (hchannel : s.Quiet { s with channel := channel }) :
      Step sends s .bufferedAmountLow
        (Transport.advance sends (chunk :: queue) { s with channel := channel }).1
        (Transport.advance sends (chunk :: queue) { s with channel := channel }).2
  | closed (s' : Transport) (settled : List Settlement) (hclosed : s.channel.readyState = .closed false)
      (hpending : s'.pending = [])
      (hsettled : ∀ chunk queue, s.pending = chunk :: queue →
        chunk.settle (.rejected (.error "RTCDataChannel closed")) ∈ settled ∧
          ∀ c ∈ queue, ∃ e, c.settle (.rejected e) ∈ settled) :
      Step sends s .closeEvent s' settled

section Turns

variable {sends : Nat → Bool} {s s' : Transport} {a : TransportAction} {settled : List Settlement}

theorem Transport.Quiet.refl (s : Transport) : s.Quiet s := ⟨rfl, Iff.rfl, fun _ => rfl⟩

/-- Nothing but the state of the streams changes, and the channel is closed at most as far as `closing`. -/
theorem Transport.Quiet.of_close (hpending : s'.pending = s.pending)
    (hchannel : s'.channel = s.channel ∨ s'.channel = s.channel.close) : s.Quiet s' := by
  rcases hchannel with h | h
  · refine ⟨hpending, ?_, fun _ => ?_⟩
    · rw [h]
    · rw [h]
  · refine ⟨hpending, ?_, fun _ => ?_⟩
    · rw [h, DataChannel.dead_close]
    · rw [h, DataChannel.bufferedAmount_close]

/-- Something happens to a channel that is not dead, before and after. -/
theorem Transport.Quiet.of_channel {channel : DataChannel} (hbefore : ¬ s.channel.Dead)
    (hafter : ¬ channel.Dead) : s.Quiet { s with channel := channel } :=
  ⟨rfl, ⟨fun h => absurd h hafter, fun h => absurd h hbefore⟩, fun h => absurd h hbefore⟩

theorem Transport.close_quiet (s : Transport) : s.Quiet s.close := by
  unfold Transport.close
  split
  · exact .refl s
  · exact .of_close rfl (.inl rfl)

theorem Transport.abort_quiet (s : Transport) : s.Quiet s.abort := by
  unfold Transport.abort
  split
  · exact .refl s
  · exact .of_close rfl (.inl rfl)

theorem Transport.receive_quiet (s : Transport) (binary : Bool) : s.Quiet (s.receive binary) := by
  unfold Transport.receive
  split
  · exact .refl s
  split
  · exact .refl s
  · exact s.abort_quiet

theorem Transport.cancelReader_quiet (s : Transport) : s.Quiet s.cancelReader := by
  unfold Transport.cancelReader
  split
  · exact .of_close rfl (.inr rfl)
  · exact .refl s

theorem Transport.closeWriter_quiet (sends : Nat → Bool) (s : Transport) :
    s.Quiet (s.closeWriter sends).1 ∧ (s.closeWriter sends).2 = [] := by
  unfold Transport.closeWriter
  split
  · exact ⟨.refl s, rfl⟩
  · exact ⟨.refl s, rfl⟩
  all_goals
    split
    · exact ⟨.refl s, rfl⟩
    split
    · rename_i hpending
      exact ⟨.of_close hpending.symm (.inr rfl), rfl⟩
    · exact ⟨.of_close rfl (.inl rfl), rfl⟩

theorem Transport.abortWriter_quiet (s : Transport) :
    s.Quiet s.abortWriter.1 ∧ s.abortWriter.2 = [] := by
  unfold Transport.abortWriter
  split
  · exact ⟨.refl s, rfl⟩
  · exact ⟨.refl s, rfl⟩
  · exact ⟨.refl s, rfl⟩
  · split
    · rename_i hpending
      exact ⟨.of_close hpending.symm (.inr rfl), rfl⟩
    · exact ⟨.of_close rfl (.inl rfl), rfl⟩

theorem Transport.write_cases (sends : Nat → Bool) (s : Transport) (size : Nat) :
    s.Step sends (.write size) (s.write sends size).1 (s.write sends size).2 := by
  unfold Transport.write
  split
  · rename_i e hrefusal
    exact .refused size e hrefusal
  · rename_i hrefusal
    split
    · rename_i hpending
      exact .started size hrefusal hpending
    · rename_i hpending
      exact .queued size hrefusal hpending

theorem Transport.bufferedAmountLow_cases (h : s.bufferedAmountLow sends = some (s', settled)) :
    s.Step sends .bufferedAmountLow s' settled := by
  unfold Transport.bufferedAmountLow at h
  split at h
  · cases h
  split at h
  · cases h
    exact .quiet _ _ nofun nofun ⟨rfl, Iff.rfl, fun _ => rfl⟩
  · rename_i chunk queue hpending
    have hstep : s.Step sends .bufferedAmountLow _ _ := .resumed chunk queue
      { s.channel with lowDue := s.channel.lowDue - 1 } hpending ⟨rfl, Iff.rfl, fun _ => rfl⟩
    rw [Option.some.inj h] at hstep
    exact hstep

theorem Transport.closeEvent_cases (h : s.closeEvent = some (s', settled)) :
    s.Step sends .closeEvent s' settled := by
  unfold Transport.closeEvent at h
  split at h
  · cases h
  rename_i hclosed
  have hclosed' : s.channel.readyState = .closed false := not_not.mp hclosed
  split at h
  · rename_i hpending
    cases h
    refine .closed _ _ hclosed' ?_ ?_
    · rw [(Transport.close_quiet _).pending]
      exact hpending
    · intro chunk queue hcons
      rw [hpending] at hcons
      cases hcons
  · rename_i chunk queue hpending
    obtain ⟨s₁, hs₁⟩ : ∃ s₁, s₁ = ({ s with
      channel := { s.channel with readyState := .closed true } } : Transport).close := ⟨_, rfl⟩
    rw [← hs₁] at h
    have hnil := s₁.reject_pending (.error "RTCDataChannel closed") chunk queue
    have hsettled := s₁.reject_settles (.error "RTCDataChannel closed") chunk queue
    rw [Option.some.inj h] at hnil hsettled
    refine .closed _ _ hclosed' hnil ?_
    intro chunk' queue' hcons
    rw [hpending] at hcons
    cases hcons
    exact hsettled

/-- **Inversion.** -/
theorem Transport.step_cases (h : s.step sends a = some (s', settled)) :
    s.Step sends a s' settled := by
  have hdead : ∀ state, s.channel.readyState = state → state ≠ .closed true → ¬ s.channel.Dead :=
    fun state hstate hne hd => hne (hstate.symm.trans hd)
  cases a with
  | write size =>
    have hstep := s.write_cases sends size
    rw [show s.write sends size = (s', settled) from Option.some.inj h] at hstep
    exact hstep
  | closeWriter =>
    obtain ⟨hq, hnil⟩ := s.closeWriter_quiet sends
    rw [show s.closeWriter sends = (s', settled) from Option.some.inj h] at hq hnil
    obtain rfl : settled = [] := hnil
    exact .quiet _ _ nofun nofun hq
  | abortWriter =>
    obtain ⟨hq, hnil⟩ := s.abortWriter_quiet
    rw [show s.abortWriter = (s', settled) from Option.some.inj h] at hq hnil
    obtain rfl : settled = [] := hnil
    exact .quiet _ _ nofun nofun hq
  | cancelReader =>
    cases h
    exact .quiet _ _ nofun nofun s.cancelReader_quiet
  | post size =>
    simp only [Transport.step] at h
    split at h <;> cases h
    rename_i hstate
    exact .quiet _ _ nofun nofun (.of_channel (hdead _ hstate nofun) (hdead _ hstate nofun))
  | opened =>
    simp only [Transport.step] at h
    split at h <;> cases h
    rename_i hstate
    exact .quiet _ _ nofun nofun (.of_channel (hdead _ hstate nofun) nofun)
  | drained amount =>
    simp only [Transport.step] at h
    split at h <;> cases h
    rename_i hdrain
    have halive : ¬ s.channel.Dead := by
      rcases hdrain.1 with hstate | hstate
      · exact hdead _ hstate nofun
      · exact hdead _ hstate nofun
    exact .quiet _ _ nofun nofun (.of_channel halive halive)
  | channelClosed =>
    simp only [Transport.step] at h
    split at h <;> cases h
    rename_i hstate
    exact .quiet _ _ nofun nofun (.of_channel (hstate true) nofun)
  | message binary =>
    cases h
    exact .quiet _ _ nofun nofun (s.receive_quiet binary)
  | bufferedAmountLow => exact Transport.bufferedAmountLow_cases h
  | closeEvent => exact Transport.closeEvent_cases h
  | errorEvent =>
    cases h
    exact .quiet _ _ nofun nofun s.abort_quiet

end Turns

/-! ### Writes that wait for ever -/

/-- A packet waits although the channel is closed and the close event is over. -/
def Transport.Stuck (s : Transport) : Prop := s.pending ≠ [] ∧ s.channel.Dead

/-- A packet that is written now reaches the sink, which will wait for an event of a dead channel. -/
def Transport.Deaf (s : Transport) : Prop :=
  s.refusal = none ∧ s.channel.Dead ∧ highWaterMark < s.channel.bufferedAmount

instance (s : Transport) : Decidable s.Stuck := inferInstanceAs (Decidable (_ ∧ _))

instance (s : Transport) : Decidable s.Deaf := inferInstanceAs (Decidable (_ ∧ _))

/-- The page writes. -/
def TransportAction.isWrite : TransportAction → Bool
  | .write _ => true
  | _ => false

/-- A packet is written after the close event, with too much still buffered. -/
def Late (t : Transition Transport TransportAction (List Settlement)) : Prop :=
  t.action.isWrite = true ∧ t.before.Deaf

instance : DecidablePred Late := fun _ => inferInstanceAs (Decidable (_ ∧ _))

section Runs

variable {sends : Nat → Bool} {channel : DataChannel} {s s' : Transport} {a : TransportAction}
  {settled : List Settlement}

/-- Stuck, with so much buffered that no event helps. -/
structure Transport.Hopeless (s : Transport) : Prop where
  pending : s.pending ≠ []
  dead : s.channel.Dead
  full : highWaterMark < s.channel.bufferedAmount

/-- **Step lemma.**  No turn helps. -/
theorem Transport.step_hopeless (h : s.Hopeless) (hs : s.step sends a = some (s', settled)) :
    s'.Hopeless := by
  cases Transport.step_cases hs with
  | quiet _ _ _ _ hq =>
    refine ⟨?_, hq.dead.mpr h.dead, ?_⟩
    · rw [hq.pending]
      exact h.pending
    · rw [hq.amount h.dead]
      exact h.full
  | refused size e _ => exact ⟨h.pending, h.dead, h.full⟩
  | queued size _ _ => exact ⟨by simp, h.dead, h.full⟩
  | started size _ hnil => exact absurd hnil h.pending
  | resumed chunk queue channel hpending hchannel =>
    -- the write looks at the amount first, and waits again
    have hfull : highWaterMark < channel.bufferedAmount := by
      rw [show channel.bufferedAmount = s.channel.bufferedAmount from hchannel.amount h.dead]
      exact h.full
    rw [Transport.advance_of_full (s := { s with channel := channel }) hfull]
    exact ⟨by simp, hchannel.dead.mpr h.dead, hfull⟩
  | closed _ _ hclosed _ _ =>
    have hdead : s.channel.readyState = .closed true := h.dead
    rw [hclosed] at hdead
    cases hdead

/-- A late packet makes the transport hopeless. -/
theorem Transport.Deaf.hopeless (h : s.Deaf) (hwrite : a.isWrite = true)
    (hs : s.step sends a = some (s', settled)) : s'.Hopeless := by
  obtain ⟨hrefusal, hdead, hfull⟩ := h
  cases Transport.step_cases hs with
  | quiet _ _ hother _ _ =>
    cases a with
    | write size => exact absurd rfl (hother size)
    | _ => cases hwrite
  | refused _ e hsome =>
    rw [hrefusal] at hsome
    cases hsome
  | queued _ _ hpending => exact ⟨by simp, hdead, hfull⟩
  | started _ _ _ =>
    rw [Transport.advance_of_full (s := { s with writes := s.writes + 1 }) hfull]
    exact ⟨by simp, hdead, hfull⟩
  | resumed => cases hwrite
  | closed => cases hwrite

/-- **A late packet waits for ever**, whatever happens after it. -/
theorem late_hangs {h₁ h₂ : List (Transition Transport TransportAction (List Settlement))}
    {t : Transition Transport TransportAction (List Settlement)}
    (hr : (transportSystem sends channel).Run (h₁ ++ t :: h₂) s) (hlate : Late t) : s.Hopeless := by
  refine hr.established (P := Transport.Hopeless) ?_ ?_
  · intro s a s' e hopeless hs
    exact Transport.step_hopeless hopeless hs
  · intro s' hs
    exact hlate.2.hopeless hlate.1 hs

/-- **Step lemma.**  Only a late packet gets stuck. -/
theorem Transport.step_not_stuck (hsettled : ¬ s.Stuck)
    (htimely : a.isWrite = true → ¬ s.Deaf) (hs : s.step sends a = some (s', settled)) :
    ¬ s'.Stuck := by
  rintro ⟨hpending', hdead'⟩
  cases Transport.step_cases hs with
  | quiet _ _ _ _ hq =>
    rw [hq.pending] at hpending'
    exact hsettled ⟨hpending', hq.dead.mp hdead'⟩
  | refused size e _ => exact hsettled ⟨hpending', hdead'⟩
  | queued size _ hpending => exact hsettled ⟨hpending, hdead'⟩
  | started size hrefusal _ =>
    have hstill := (Transport.advance_dead _).mp hdead'
    have hdead : s.channel.Dead := hstill
    have hroom : s.channel.bufferedAmount ≤ highWaterMark := by
      by_contra hfull
      exact htimely rfl ⟨hrefusal, hdead, by omega⟩
    apply hpending'
    rw [Transport.advance_of_dead (s := { s with writes := s.writes + 1 }) hdead hroom]
    exact Transport.reject_pending _ _ _ _
  | resumed chunk queue channel hpending hchannel =>
    have hdead := (Transport.advance_dead _).mp hdead'
    exact hsettled ⟨by simp [hpending], hchannel.dead.mp hdead⟩
  | closed _ _ _ hpending _ => exact hpending' hpending

/-- The close event rejects what is pending. -/
theorem Transport.closeEvent_settles (hs : s.step sends .closeEvent = some (s', settled)) :
    ∀ chunk queue, s.pending = chunk :: queue →
      chunk.settle (.rejected (.error "RTCDataChannel closed")) ∈ settled ∧
        ∀ c ∈ queue, ∃ e, c.settle (.rejected e) ∈ settled := by
  cases Transport.step_cases hs with
  | quiet _ _ _ hother _ => exact absurd rfl hother
  | closed _ _ _ _ hsettled => exact hsettled

/-- On a dead channel a packet that is not late is rejected at once. -/
theorem Transport.write_settles {size : Nat} (hsettled : ¬ s.Stuck) (hdead : s.channel.Dead)
    (htimely : ¬ s.Deaf) (hs : s.step sends (.write size) = some (s', settled)) :
    ∃ e, settled = [⟨s.writes, .rejected e⟩] := by
  cases Transport.step_cases hs with
  | quiet _ _ hother _ _ => exact absurd rfl (hother size)
  | refused _ e _ => exact ⟨e, rfl⟩
  | queued _ _ hpending => exact absurd ⟨hpending, hdead⟩ hsettled
  | started _ hrefusal _ =>
    have hroom : s.channel.bufferedAmount ≤ highWaterMark := by
      by_contra hfull
      exact htimely ⟨hrefusal, hdead, by omega⟩
    have hwritable : s.writer ≠ .erroring := by
      intro herroring
      rw [Transport.refusal, herroring] at hrefusal
      cases hrefusal
    rw [Transport.advance_of_dead (s := { s with writes := s.writes + 1 }) hdead hroom]
    refine ⟨.error "RTCDataChannel is not open", ?_⟩
    rw [Transport.reject, if_neg hwritable]
    rfl

/-- **Writes are settled.**  For every channel, every outcome of the calls of `send` and every order of
    turns: a packet gets stuck just when one is late.  The close event rejects the packet that waits, and
    those behind it; and if no packet is late, one that is written after the close event is rejected at
    once. -/
theorem run_write_settles {h : List (Transition Transport TransportAction (List Settlement))}
    (hr : (transportSystem sends channel).Run h s) :
    ((∀ s' ∈ System.visited h s, ¬ s'.Stuck) ↔ ∀ t ∈ h, ¬ Late t) ∧
    (∀ t ∈ h, t.action = .closeEvent → ∀ chunk queue, t.before.pending = chunk :: queue →
      chunk.settle (.rejected (.error "RTCDataChannel closed")) ∈ t.event ∧
        ∀ c ∈ queue, ∃ e, c.settle (.rejected e) ∈ t.event) ∧
    ((∀ t ∈ h, ¬ Late t) → ∀ t ∈ h, t.before.channel.Dead → ∀ size, t.action = .write size →
      ∃ e, t.event = [⟨t.before.writes, .rejected e⟩]) := by
  have hnever : (∀ t ∈ h, ¬ Late t) → ∀ s' ∈ System.visited h s, ¬ s'.Stuck := by
    intro htimely
    refine hr.invariant_under (P := fun s => ¬ s.Stuck) htimely (fun hstuck => hstuck.1 rfl) ?_
    intro t s' ht hsettled hs
    exact Transport.step_not_stuck hsettled (fun hwrite hdeaf => ht ⟨hwrite, hdeaf⟩) hs
  refine ⟨⟨?_, hnever⟩, ?_, ?_⟩
  · intro hsettled t ht hlate
    obtain ⟨h₁, h₂, rfl⟩ := List.append_of_mem ht
    have hopeless := late_hangs hr hlate
    exact hsettled s List.mem_cons_self ⟨hopeless.pending, hopeless.dead⟩
  · intro t ht ha
    obtain ⟨h₁, h₂, rfl⟩ := List.append_of_mem ht
    obtain ⟨-, s', hs⟩ := hr.split
    rw [ha] at hs
    have hstep : t.before.step sends .closeEvent = some (s', t.event) := hs
    exact Transport.closeEvent_settles hstep
  · intro htimely t ht hdead size ha
    have hsettled : ¬ t.before.Stuck :=
      hnever htimely t.before (List.mem_cons_of_mem _ (List.mem_map_of_mem ht))
    have hdeaf : ¬ t.before.Deaf := by
      intro hdeaf
      exact htimely t ht ⟨by rw [ha]; rfl, hdeaf⟩
    obtain ⟨h₁, h₂, rfl⟩ := List.append_of_mem ht
    obtain ⟨-, s', hs⟩ := hr.split
    rw [ha] at hs
    exact Transport.write_settles hsettled hdead hdeaf hs

end Runs

/-- Packets of 64 KiB, until more is buffered than the mark allows. -/
def flood : List TransportAction := List.replicate 65 (.write (64 * 2 ^ 10))

/-- The channel closes behind the flood, and the close event is delivered while a packet waits: it is
    rejected, and so is a packet that is written afterwards. -/
theorem run_write_settles_of_waiting :
    ∃ h s, (transportSystem (fun _ => true) ⟨.opened, 0, 0⟩).Run h s ∧ s.channel.Dead ∧
      (∀ s' ∈ System.visited h s, ¬ s'.Stuck) ∧
      ∃ t ∈ h, t.action = .closeEvent ∧ ∃ chunk queue, t.before.pending = chunk :: queue ∧
        chunk.settle (.rejected (.error "RTCDataChannel closed")) ∈ t.event := by
  obtain ⟨h, s, hr, hc⟩ := System.exists_run_of_exec
    (S := transportSystem (fun _ => true) ⟨.opened, 0, 0⟩)
    (P := fun h s => decide (s.channel.Dead ∧ (∀ t ∈ h, ¬ Late t) ∧
      ∃ t ∈ h, t.action = .closeEvent ∧ t.before.pending ≠ []))
    (flood ++ [.write 1, .channelClosed, .closeEvent, .write 1]) (by decide +kernel)
  obtain ⟨hdead, htimely, t, ht, ha, hpending⟩ := of_decide_eq_true hc
  obtain ⟨hstuck, hclose, -⟩ := run_write_settles hr
  obtain ⟨chunk, queue, hcons⟩ := List.exists_cons_of_ne_nil hpending
  exact ⟨h, s, hr, hdead, hstuck.mpr htimely, t, ht, ha, chunk, queue, hcons,
    (hclose t ht ha chunk queue hcons).1⟩

/-- The channel closes behind the flood, and the next packet is written after the close event: it waits,
    and it does so in every continuation. -/
theorem write_waits_on_dead_channel :
    ∃ h s, (transportSystem (fun _ => true) ⟨.opened, 0, 0⟩).Run h s ∧ s.Stuck ∧
      ∀ h' s', (transportSystem (fun _ => true) ⟨.opened, 0, 0⟩).Run (h' ++ h) s' → s'.Stuck := by
  obtain ⟨h, s, hr, hc⟩ := System.exists_run_of_exec
    (S := transportSystem (fun _ => true) ⟨.opened, 0, 0⟩)
    (P := fun h s => decide (s.Stuck ∧ ∃ t ∈ h.head?, Late t))
    (flood ++ [.channelClosed, .closeEvent, .write 1]) (by decide +kernel)
  obtain ⟨hstuck, t, ht, hlate⟩ := of_decide_eq_true hc
  refine ⟨h, s, hr, hstuck, ?_⟩
  intro h' s' hr'
  obtain ⟨earlier, rfl⟩ := List.head?_eq_some_iff.mp ht
  have hopeless := late_hangs hr' hlate
  exact ⟨hopeless.pending, hopeless.dead⟩

end WebVPN.Browser
