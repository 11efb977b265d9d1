import WebVPN.Library.System
import WebVPN.Wisp.Stream

namespace WebVPN.Wisp

open WebVPN.Library

/-!
# Wisp — the server and its interleavings

The `Server` of `internal/wisp/server.go` as a `System`: the shared fields, every stream
ever allocated (`table`, addressed by reference, so that a goroutine can hold on to a
stream that is no longer in the map), the message handler (`onMessage` is called serially
by the data channel) and any number of calls of `Server.Close`.

A step is one atomic piece of one thread: a critical section under `mu`, a call of
`sendFrame` (which succeeds or fails, and may be delayed for ever by backpressure, i.e. by
not scheduling it), the entry into a `closeOnce`, or a step of a goroutine of a stream
(`Stream.step`).  A nil dereference takes the process down: nothing is enabled after it.

* `Server.Step`, `Server.step_cases` — the list of all steps;
* `Stream.Fate`, `Server.Registers`, `Server.Turns` — what a step does to one stream, to the map, and to
  the message handler; the invariants about these parts follow from them;
* `Server.Step.new_or_before` — where a stream after a step comes from.
-/

/-- A call of `Server.Close`: cancel the context, collect the streams under the lock, then
    close them one by one (in the order of a map iteration, that is in any order). -/
inductive Closer
  | cancelling
  | collecting
  | closing (remaining : List Nat)
  | awaiting (ref : Nat) (remaining : List Nat)
  | returned
deriving DecidableEq, Repr

/-- Where the message handler stands. -/
inductive Handler
  | idle
  | replying (reply : Frame) (shutdown : Bool)
  | announcing
  | opening (packet : Frame)
  | enqueueing (ref : Nat) (payload : List UInt8)
  | calling (ref : Nat) (notify : Bool) (reason : UInt8)
  | awaiting (ref : Nat)
  | shutting (call : Closer)
deriving DecidableEq, Repr

/-- The state of a server.  `streams` is the map from stream numbers to streams, `sent`
    what the data channel has accepted, in order. -/
structure Server where
  cancelled : Bool
  handshaken : Bool
  streams : List (UInt32 × Nat)
  table : List Stream
  handler : Handler
  closers : List Closer
  sent : List Frame
  panicked : Bool
deriving DecidableEq, Repr

/-- A server right after `NewServer`, about to send INFO in `Start`. -/
def Server.new : Server where
  cancelled := false
  handshaken := false
  streams := []
  table := []
  handler := .replying ⟨packetInfo, 0, [2, 1]⟩ false
  closers := []
  sent := []
  panicked := false

/-! ### The message handler -/

/-- The stream in the map under `id`. -/
def Server.lookup (s : Server) (id : UInt32) : Option Nat := s.streams.lookup id

/-- Refuse a packet on stream `id`. -/
def Server.refuse (s : Server) (id : UInt32) (reason : UInt8) : Server :=
  { s with handler := .replying (closeFrame id reason) false }

/-- Report a protocol violation on stream 0 and close the server. -/
def Server.abort (s : Server) : Server :=
  { s with handler := .replying (closeFrame 0 closeInvalidInfo) true }

/-- `handleHandshake`, up to the CONTINUE it sends. -/
def Server.handleHandshake (s : Server) (packet : Frame) : Server :=
  if packet.kind ≠ packetInfo ∨ packet.payload.length < 2 ∨ packet.payload.head? ≠ some 2 then
    s.abort
  else if s.handshaken then s
  else { s with handshaken := true, handler := .announcing }

/-- The host name of a CONNECT payload. -/
def connectHostname (payload : List UInt8) : List UInt8 := payload.drop 3

/-- The port of a CONNECT payload. -/
def connectPort (payload : List UInt8) : UInt16 :=
  uint16 (payload.getD 1 0) (payload.getD 2 0)

/-- `openStream`, up to its critical section. -/
def Server.openStream (s : Server) (packet : Frame) : Server :=
  if packet.payload.length < 4 ∨ packet.payload.head? ≠ some streamTCP then
    s.refuse packet.streamID closeInvalidInfo
  else if connectHostname packet.payload = [] ∨ connectPort packet.payload = 0 then
    s.refuse packet.streamID closeInvalidInfo
  else { s with handler := .opening packet }

/-- The critical section of `openStream`: refuse a number in use and a 17th stream,
    otherwise put the new stream into the map and start its goroutines. -/
def Server.insert (s : Server) (packet : Frame) : Server :=
  if (s.lookup packet.streamID).isSome then s.refuse packet.streamID closeInvalidInfo
  else if maxConcurrentStreams ≤ s.streams.length then s.refuse packet.streamID closeThrottled
  else
    { s with
      streams := (packet.streamID, s.table.length) :: s.streams
      table := s.table ++ [Stream.new packet.streamID (connectHostname packet.payload)
        (connectPort packet.payload)]
      handler := .idle }

/-- `onMessage`, up to its first call or critical section after the lookup. -/
def Server.onMessage (s : Server) (data : List UInt8) : Server :=
  match parsePacket data with
  | .error _ => s.abort
  | .ok packet =>
    if packet.streamID = 0 then s.handleHandshake packet
    else if !s.handshaken then s.abort
    else if packet.kind = packetConnect then
      match s.lookup packet.streamID with
      | some _ => s.refuse packet.streamID closeInvalidInfo
      | none => s.openStream packet
    else if packet.kind = packetData then
      match s.lookup packet.streamID with
      | none => s.refuse packet.streamID closeInvalidInfo
      | some ref => { s with handler := .enqueueing ref packet.payload }
    else if packet.kind = packetClose then
      match s.lookup packet.streamID with
      | none => s
      | some ref => { s with handler := .calling ref false closeVoluntary }
    else s.refuse packet.streamID closeInvalidInfo

/-- What the first part of `onMessage` comes to. -/
inductive Server.Received (s : Server) (data : List UInt8) : Server → Prop
  | aborted : Received s data s.abort
  | ignored : Received s data s
  | greeted : Received s data { s with handshaken := true, handler := .announcing }
  | refused {packet : Frame} (reason : UInt8) (hparse : parsePacket data = .ok packet)
      (hid : packet.streamID ≠ 0)
      (hlive : s.lookup packet.streamID = none ∨
        (packet.kind ≠ packetData ∧ packet.kind ≠ packetClose)) :
      Received s data (s.refuse packet.streamID reason)
  | opening {packet : Frame} (hparse : parsePacket data = .ok packet) (hid : packet.streamID ≠ 0)
      (hkind : packet.kind = packetConnect) (hhand : s.handshaken = true)
      (hfree : s.lookup packet.streamID = none) :
      Received s data { s with handler := .opening packet }
  | enqueueing {packet : Frame} {ref : Nat} (hparse : parsePacket data = .ok packet)
      (hid : packet.streamID ≠ 0) (hkind : packet.kind = packetData)
      (href : s.lookup packet.streamID = some ref) :
      Received s data { s with handler := .enqueueing ref packet.payload }
  | calling {packet : Frame} {ref : Nat} (hparse : parsePacket data = .ok packet)
      (hid : packet.streamID ≠ 0) (hkind : packet.kind = packetClose)
      (href : s.lookup packet.streamID = some ref) :
      Received s data { s with handler := .calling ref false closeVoluntary }

/-- **Inversion of the first part of `onMessage`.** -/
theorem Server.onMessage_cases (s : Server) (data : List UInt8) :
    s.Received data (s.onMessage data) := by
  unfold Server.onMessage
  split
  · exact .aborted
  rename_i packet hparse
  split
  · unfold Server.handleHandshake
    split
    · exact .aborted
    · split
      · exact .ignored
      · exact .greeted
  rename_i hid
  split
  · exact .aborted
  rename_i hhand
  have hhand' : s.handshaken = true := by simpa using hhand
  split
  · rename_i hconnect
    have hother : packet.kind ≠ packetData ∧ packet.kind ≠ packetClose := by
      rw [hconnect]
      decide
    split
    · exact .refused _ hparse hid (.inr hother)
    · rename_i hfree
      unfold Server.openStream
      split
      · exact .refused _ hparse hid (.inl hfree)
      · split
        · exact .refused _ hparse hid (.inl hfree)
        · exact .opening hparse hid hconnect hhand' hfree
  split
  · rename_i hdata
    split
    · rename_i hfree
      exact .refused _ hparse hid (.inl hfree)
    · rename_i ref href
      exact .enqueueing hparse hid hdata href
  rename_i hdata
  split
  · rename_i hclose
    split
    · exact .ignored
    · rename_i ref href
      exact .calling hparse hid hclose href
  · rename_i hclose
    exact .refused _ hparse hid (.inr ⟨hdata, hclose⟩)

/-- The first part of `onMessage` leaves the streams alone. -/
@[simp] theorem Server.onMessage_table (s : Server) (data : List UInt8) :
    (s.onMessage data).table = s.table := by
  have hcases := s.onMessage_cases data
  generalize s.onMessage data = s' at hcases ⊢
  cases hcases <;> rfl

/-- Nor does it touch the map. -/
@[simp] theorem Server.onMessage_streams (s : Server) (data : List UInt8) :
    (s.onMessage data).streams = s.streams := by
  have hcases := s.onMessage_cases data
  generalize s.onMessage data = s' at hcases ⊢
  cases hcases <;> rfl

variable {ref : Nat}

/-- The first part of `onMessage` decides to call `close` only for a CLOSE packet. -/
theorem Server.onMessage_calling {s : Server} {data : List UInt8} {notify : Bool}
    {reason : UInt8} (hidle : s.handler = .idle)
    (hh : (s.onMessage data).handler = .calling ref notify reason) : reason = closeVoluntary := by
  have hcases := s.onMessage_cases data
  generalize s.onMessage data = s' at hcases hh
  cases hcases with
  | ignored =>
    rw [hidle] at hh
    cases hh
  | calling _ _ _ _ =>
    cases hh
    rfl
  | _ => cases hh

/-- A DATA packet after the handshake is put into the queue of its stream or refused. -/
theorem Server.onMessage_data {s : Server} {data : List UInt8} {packet : Frame}
    (hparse : parsePacket data = .ok packet) (hid : packet.streamID ≠ 0)
    (hkind : packet.kind = packetData) (hhand : s.handshaken = true) :
    s.onMessage data = match s.lookup packet.streamID with
      | none => s.refuse packet.streamID closeInvalidInfo
      | some ref => { s with handler := .enqueueing ref packet.payload } := by
  have hne : packetData ≠ packetConnect := by decide
  unfold Server.onMessage
  rw [hparse]
  simp only [if_neg hid, hhand, hkind, if_neg hne, Bool.not_true, Bool.false_eq_true, if_false,
    if_true]

/-- **Inversion of the critical section of `openStream`.** -/
theorem Server.insert_cases (s : Server) (packet : Frame) :
    (∃ reason, ((s.lookup packet.streamID).isSome = true ∧ reason = closeInvalidInfo ∨
        maxConcurrentStreams ≤ s.streams.length ∧ reason = closeThrottled) ∧
      s.insert packet = s.refuse packet.streamID reason) ∨
    (s.lookup packet.streamID = none ∧ s.streams.length < maxConcurrentStreams ∧
      s.insert packet = { s with
        streams := (packet.streamID, s.table.length) :: s.streams
        table := s.table ++ [Stream.new packet.streamID (connectHostname packet.payload)
          (connectPort packet.payload)]
        handler := .idle }) := by
  unfold Server.insert
  split
  · exact .inl ⟨closeInvalidInfo, .inl ⟨‹_›, rfl⟩, rfl⟩
  rename_i hused
  have hfree : s.lookup packet.streamID = none := by simpa using hused
  split
  · exact .inl ⟨closeThrottled, .inr ⟨‹_›, rfl⟩, rfl⟩
  · exact .inr ⟨hfree, Nat.lt_of_not_le ‹_›, rfl⟩

/-! ### Steps -/

/-- Replace the stream with reference `ref`. -/
def Server.setStream (s : Server) (ref : Nat) (st : Stream) : Server :=
  { s with table := s.table.set ref st }

/-- A call of `close` on the stream with reference `ref`. -/
def Server.callClose (s : Server) (ref : Nat) (notify : Bool) (reason : UInt8) : Server :=
  match s.table[ref]? with
  | none => s
  | some st => s.setStream ref (st.callClose notify reason)

section Shared

variable (s : Server) (r : Nat) (notify : Bool) (reason : UInt8)

theorem Server.getElem?_setStream {s : Server} {r : Nat} {st : Stream} (hst : s.table[r]? = some st)
    (st' : Stream) (ref : Nat) :
    (s.setStream r st').table[ref]? = if r = ref then some st' else s.table[ref]? := by
  have hlt : r < s.table.length := (List.getElem?_eq_some_iff.mp hst).1
  rw [Server.setStream, List.getElem?_set, if_pos hlt]

theorem Server.getElem?_callClose (ref : Nat) : (s.callClose r notify reason).table[ref]? =
    if r = ref then s.table[ref]?.map (·.callClose notify reason) else s.table[ref]? := by
  unfold Server.callClose
  split
  · rename_i hnone
    split
    · rename_i heq
      rw [← heq, hnone]
      rfl
    · rfl
  · rename_i st hst
    rw [Server.getElem?_setStream hst]
    split
    · rename_i heq
      rw [← heq, hst]
      rfl
    · rfl

/-- A call of `close` touches the stream only. -/
theorem Server.callClose_frame : ∃ table, s.callClose r notify reason = { s with table := table } ∧
    table.length = s.table.length := by
  unfold Server.callClose
  split
  · exact ⟨s.table, rfl, rfl⟩
  · exact ⟨_, rfl, List.length_set⟩

@[simp] theorem Server.callClose_handler : (s.callClose r notify reason).handler = s.handler := by
  unfold Server.callClose; split <;> rfl

@[simp] theorem Server.callClose_streams : (s.callClose r notify reason).streams = s.streams := by
  unfold Server.callClose; split <;> rfl

@[simp] theorem Server.callClose_handshaken :
    (s.callClose r notify reason).handshaken = s.handshaken := by
  unfold Server.callClose; split <;> rfl

@[simp] theorem Server.callClose_cancelled :
    (s.callClose r notify reason).cancelled = s.cancelled := by
  unfold Server.callClose; split <;> rfl

end Shared

/-- The guarded function of the stream's `closeOnce` has returned. -/
def Server.closeReturned (s : Server) (ref : Nat) : Bool :=
  match s.table[ref]? with
  | none => false
  | some st =>
    match st.closing with
    | some ⟨.done, _, _⟩ => true
    | _ => false

/-- One step of a call of `Server.Close`; `ref` is the stream it turns to next. -/
def Server.stepCloser (s : Server) (call : Closer) (ref : Nat) : Option (Server × Closer) :=
  match call with
  | .cancelling => some ({ s with cancelled := true }, .collecting)
  | .collecting => some (s, .closing (s.streams.map Prod.snd))
  | .closing [] => some (s, .returned)
  | .closing remaining =>
    if ref ∈ remaining then
      some (s.callClose ref false closeVoluntary, .awaiting ref (remaining.erase ref))
    else none
  | .awaiting ref' remaining =>
    if s.closeReturned ref' then some (s, .closing remaining) else none
  | .returned => none

/-- One step of the message handler outside `Server.Close`; `sent` is the outcome of the
    `sendFrame` call it makes, if it makes one. -/
def Server.stepHandler (s : Server) (sent : Bool) : Option Server :=
  match s.handler with
  | .idle => none
  | .replying reply shutdown =>
    some { s with
      sent := if sent then s.sent ++ [reply] else s.sent
      handler := if shutdown then .shutting .cancelling else .idle }
  | .announcing =>
    if sent then
      some { s with
        sent := s.sent ++ [continueFrame 0 initialPacketAllowance]
        handler := .idle }
    else some { s with handler := .shutting .cancelling }
  | .opening packet => some (s.insert packet)
  | .enqueueing ref payload =>
    match s.table[ref]? with
    | none => none
    | some st =>
      if st.write.length < initialPacketAllowance then
        some { s.setStream ref { st with write := st.write ++ [payload] } with handler := .idle }
      else some { s with handler := .calling ref true closeThrottled }
  | .calling ref notify reason =>
    some { s.callClose ref notify reason with handler := .awaiting ref }
  | .awaiting ref => if s.closeReturned ref then some { s with handler := .idle } else none
  | .shutting _ => none

/-- One step of a goroutine of a stream, with its effect on the server. -/
def Server.stepStream (s : Server) (ref : Nat) (a : StreamAction) : Option Server :=
  match s.table[ref]? with
  | none => none
  | some st =>
    match st.step s.cancelled a with
    | none => none
    | some (st', effect) =>
      some { s.setStream ref st' with
        sent := s.sent ++ effect.sent
        streams := if effect.delete then s.streams.filter (fun p => p.1 ≠ st.id) else s.streams
        panicked := effect.panic }

/-- The threads of a server: the data channel delivering a message, the message handler
    (`shut` inside its own `Server.Close`), the channel's close callback, the calls of
    `Server.Close` it started, the parent context, and the goroutines of the streams. -/
inductive Action
  | message (data : List UInt8)
  | handle (sent : Bool)
  | shut (ref : Nat)
  | channelClosed
  | closer (index : Nat) (ref : Nat)
  | cancelParent
  | stream (ref : Nat) (action : StreamAction)
deriving DecidableEq, Repr

/-- One step of the server. -/
def Server.step (s : Server) (a : Action) : Option Server :=
  if s.panicked then none
  else
    match a with
    | .message data => if s.handler = .idle then some (s.onMessage data) else none
    | .handle sent => s.stepHandler sent
    | .shut ref =>
      match s.handler with
      | .shutting call =>
        match s.stepCloser call ref with
        | none => none
        | some (s', .returned) => some { s' with handler := .idle }
        | some (s', call') => some { s' with handler := .shutting call' }
      | _ => none
    | .channelClosed => some { s with closers := s.closers ++ [.cancelling] }
    | .closer index ref =>
      match s.closers[index]? with
      | none => none
      | some call =>
        match s.stepCloser call ref with
        | none => none
        | some (s', call') => some { s' with closers := s.closers.set index call' }
    | .cancelParent => some { s with cancelled := true }
    | .stream ref action => s.stepStream ref action

/-- The server as a transition system. -/
def system : System Server Action Unit where
  init := .new
  step s a := (s.step a).map (fun s' => (s', ()))

variable {s s' : Server}

/-- A step of the system is a step of the server. -/
theorem system_step {a : Action} {e : Unit}
    (hs : system.step s a = some (s', e)) : s.step a = some s' := by
  simpa [system] using hs

/-! ### What a step can do

`Server.Step` lists the steps once, with their guards; every invariant is derived from it.
-/

/-- The ways in which a server can take a step. -/
inductive Server.Step (s : Server) : Action → Server → Prop
  | received (data : List UInt8) (hidle : s.handler = .idle) :
      Step s (.message data) (s.onMessage data)
  | replied (sent : Bool) (reply : Frame) (shutdown : Bool)
      (hh : s.handler = .replying reply shutdown) :
      Step s (.handle sent) { s with
        sent := if sent then s.sent ++ [reply] else s.sent
        handler := if shutdown then .shutting .cancelling else .idle }
  | announced (hh : s.handler = .announcing) :
      Step s (.handle true) { s with
        sent := s.sent ++ [continueFrame 0 initialPacketAllowance], handler := .idle }
  | announceFailed (hh : s.handler = .announcing) :
      Step s (.handle false) { s with handler := .shutting .cancelling }
  | inserted (sent : Bool) (packet : Frame) (hh : s.handler = .opening packet) :
      Step s (.handle sent) (s.insert packet)
  | enqueued (sent : Bool) (ref : Nat) (payload : List UInt8) (st : Stream)
      (hh : s.handler = .enqueueing ref payload) (hst : s.table[ref]? = some st)
      (hroom : st.write.length < initialPacketAllowance) :
      Step s (.handle sent)
        { s.setStream ref { st with write := st.write ++ [payload] } with handler := .idle }
  | overflowed (sent : Bool) (ref : Nat) (payload : List UInt8) (st : Stream)
      (hh : s.handler = .enqueueing ref payload) (hst : s.table[ref]? = some st)
      (hfull : ¬ st.write.length < initialPacketAllowance) :
      Step s (.handle sent) { s with handler := .calling ref true closeThrottled }
  | called (sent : Bool) (ref : Nat) (notify : Bool) (reason : UInt8)
      (hh : s.handler = .calling ref notify reason) :
      Step s (.handle sent) { s.callClose ref notify reason with handler := .awaiting ref }
  | awaited (sent : Bool) (ref : Nat) (hh : s.handler = .awaiting ref) :
      Step s (.handle sent) { s with handler := .idle }
  | shut (ref : Nat) (call call' : Closer) (s' : Server) (hh : s.handler = .shutting call)
      (hc : s.stepCloser call ref = some (s', call')) :
      Step s (.shut ref)
        { s' with handler := if call' = .returned then .idle else .shutting call' }
  | channelClosed : Step s .channelClosed { s with closers := s.closers ++ [.cancelling] }
  | closer (index ref : Nat) (call call' : Closer) (s' : Server)
      (hc : s.stepCloser call ref = some (s', call')) (hcall : s.closers[index]? = some call) :
      Step s (.closer index ref) { s' with closers := s.closers.set index call' }
  | cancelParent : Step s .cancelParent { s with cancelled := true }
  | stream (ref : Nat) (action : StreamAction) (st st' : Stream) (effect : Effect)
      (hst : s.table[ref]? = some st) (hs : st.step s.cancelled action = some (st', effect)) :
      Step s (.stream ref action) { s.setStream ref st' with
        sent := s.sent ++ effect.sent
        streams := if effect.delete then s.streams.filter (fun p => p.1 ≠ st.id) else s.streams
        panicked := effect.panic }

/-- The message handler outside `Server.Close` takes one of its steps. -/
theorem Server.stepHandler_cases {sent : Bool}
    (h : s.stepHandler sent = some s') : s.Step (.handle sent) s' := by
  unfold Server.stepHandler at h
  split at h
  case h_1 => cases h
  case h_2 reply shutdown hh => cases h; exact .replied sent reply shutdown hh
  case h_3 hh =>
    split at h
    · rename_i hsent
      cases h; subst hsent; exact .announced hh
    · rename_i hsent
      simp only [Bool.not_eq_true] at hsent
      cases h; subst hsent; exact .announceFailed hh
  case h_4 packet hh => cases h; exact .inserted sent packet hh
  case h_5 ref payload hh =>
    split at h
    · cases h
    · rename_i st hst
      split at h
      · cases h; exact .enqueued sent ref payload st hh hst ‹_›
      · cases h; exact .overflowed sent ref payload st hh hst ‹_›
  case h_6 ref notify reason hh => cases h; exact .called sent ref notify reason hh
  case h_7 ref hh =>
    split at h
    · cases h; exact .awaited sent ref hh
    · cases h
  case h_8 => cases h

/-- **Inversion.**  Every step of the server is one of the listed ones. -/
theorem Server.step_cases {a : Action} (h : s.step a = some s') :
    s.panicked = false ∧ s.Step a s' := by
  unfold Server.step at h
  split at h
  · cases h
  rename_i hp
  refine ⟨by simpa using hp, ?_⟩
  cases a with
  | message data =>
    simp only at h
    split at h
    · cases h; exact .received data ‹_›
    · cases h
  | handle sent => exact Server.stepHandler_cases h
  | shut ref =>
    simp only at h
    split at h
    · rename_i call hh
      split at h
      · cases h
      · rename_i s₁ hc
        cases h
        simpa using Step.shut ref call .returned s₁ hh hc
      · rename_i s₁ call' hne hc
        cases h
        have hcall : call' ≠ .returned := fun hcall => hne hcall
        simpa [hcall] using Step.shut ref call call' s₁ hh hc
    · cases h
  | channelClosed => cases h; exact .channelClosed
  | closer index ref =>
    simp only at h
    split at h
    · cases h
    · rename_i call hcall
      split at h
      · cases h
      · rename_i s₁ call' hc
        cases h; exact .closer index ref call call' s₁ hc hcall
  | cancelParent => cases h; exact .cancelParent
  | stream ref action =>
    simp only [Server.stepStream] at h
    split at h
    · cases h
    · rename_i st hst
      split at h
      · cases h
      · rename_i st' effect hs
        cases h; exact .stream ref action st st' effect hst hs

/-- A step of `Server.Close` cancels the context, calls `close` on a stream, or does
    nothing to the server. -/
theorem Server.stepCloser_cases {call call' : Closer}
    (h : s.stepCloser call ref = some (s', call')) :
    s' = { s with cancelled := true } ∨ s' = s ∨ s' = s.callClose ref false closeVoluntary := by
  unfold Server.stepCloser at h
  split at h
  · cases h; exact .inl rfl
  · cases h; exact .inr (.inl rfl)
  · cases h; exact .inr (.inl rfl)
  · split at h
    · cases h; exact .inr (.inr rfl)
    · cases h
  · split at h
    · cases h; exact .inr (.inl rfl)
    · cases h
  · cases h

/-- Apart from that a step of `Server.Close` changes nothing. -/
theorem Server.stepCloser_frame {call call' : Closer}
    (h : s.stepCloser call ref = some (s', call')) : ∃ cancelled table,
      s' = { s with cancelled := cancelled, table := table } ∧
      (s.cancelled = true → cancelled = true) ∧ table.length = s.table.length := by
  rcases Server.stepCloser_cases h with rfl | rfl | rfl
  · exact ⟨true, s.table, rfl, fun _ => rfl, rfl⟩
  · exact ⟨s'.cancelled, s'.table, rfl, id, rfl⟩
  · obtain ⟨table, heq, hlength⟩ := s.callClose_frame ref false closeVoluntary
    exact ⟨s.cancelled, table, heq, id, hlength⟩

/-! ### One stream in a step of the server -/

/-- Two states of a stream between which its goroutines have done nothing: a payload was put into its
    queue, or `close` was called. -/
inductive Stream.Touched (st : Stream) : Stream → Prop
  | same : Touched st st
  | enqueued (payload : List UInt8) : Touched st { st with write := st.write ++ [payload] }
  | called (notify : Bool) (reason : UInt8) : Touched st (st.callClose notify reason)

theorem Stream.Touched.id {st st' : Stream} (h : st.Touched st') : st'.id = st.id := by
  cases h with
  | called notify reason => exact Stream.callClose_id st notify reason
  | _ => rfl

/-- Where the stream with reference `ref` after a step comes from. -/
inductive Stream.Origin (s : Server) (a : Action) (ref : Nat) (st' : Stream) : Prop
  | new (packet : Frame) (sent : Bool) (href : ref = s.table.length) (ha : a = .handle sent)
      (hh : s.handler = .opening packet)
      (hnew : st' = Stream.new packet.streamID (connectHostname packet.payload)
        (connectPort packet.payload)) : Origin s a ref st'
  | touched (st : Stream) (hst : s.table[ref]? = some st) (ha : ∀ action, a ≠ .stream ref action)
      (htouched : st.Touched st') : Origin s a ref st'
  | stepped (st : Stream) (action : StreamAction) (effect : Effect) (hst : s.table[ref]? = some st)
      (ha : a = .stream ref action) (hs : st.step s.cancelled action = some (st', effect)) :
      Origin s a ref st'

/-- What becomes of the stream with reference `ref` in a step. -/
inductive Stream.Fate (s : Server) (a : Action) (ref : Nat) (st : Stream) : Stream → Prop
  | same (ha : ∀ action, a ≠ .stream ref action) : Fate s a ref st st
  | enqueued (sent : Bool) (payload : List UInt8) (ha : a = .handle sent)
      (hh : s.handler = .enqueueing ref payload) :
      Fate s a ref st { st with write := st.write ++ [payload] }
  | called (sent notify : Bool) (reason : UInt8) (ha : a = .handle sent)
      (hh : s.handler = .calling ref notify reason) : Fate s a ref st (st.callClose notify reason)
  | shut (ha : ∀ action, a ≠ .stream ref action) : Fate s a ref st (st.callClose false closeVoluntary)
  | stepped {st' : Stream} (action : StreamAction) (effect : Effect) (ha : a = .stream ref action)
      (hs : st.step s.cancelled action = some (st', effect)) : Fate s a ref st st'

/-- What a step does to the map of streams and to the number of streams. -/
inductive Server.Registers (s : Server) (a : Action) (s' : Server) : Prop
  | kept (hmap : s'.streams = s.streams) (hlength : s'.table.length = s.table.length)
      (hdelete : ∀ ref action st st' effect, a = .stream ref action → s.table[ref]? = some st →
        st.step s.cancelled action = some (st', effect) → effect.delete = false) : Registers s a s'
  | inserted (sent : Bool) (packet : Frame) (ha : a = .handle sent) (hh : s.handler = .opening packet)
      (hfree : s.lookup packet.streamID = none) (hroom : s.streams.length < maxConcurrentStreams)
      (heq : s' = { s with
        streams := (packet.streamID, s.table.length) :: s.streams
        table := s.table ++ [Stream.new packet.streamID (connectHostname packet.payload)
          (connectPort packet.payload)]
        handler := .idle }) : Registers s a s'
  | removed (ref : Nat) (action : StreamAction) (st st' : Stream) (effect : Effect)
      (ha : a = .stream ref action) (hst : s.table[ref]? = some st)
      (hs : st.step s.cancelled action = some (st', effect)) (hdelete : effect.delete = true)
      (hmap : s'.streams = s.streams.filter (fun p => p.1 ≠ st.id))
      (hlength : s'.table.length = s.table.length) : Registers s a s'

/-- What a step does to the message handler and to the flag of the handshake. -/
inductive Server.Turns (s : Server) (a : Action) (s' : Server) : Prop
  | same (hh : s'.handler = s.handler) (hflag : s'.handshaken = s.handshaken) : Turns s a s'
  | received (data : List UInt8) (ha : a = .message data) (hidle : s.handler = .idle)
      (hr : s.Received data s') (heq : s' = s.onMessage data) : Turns s a s'
  | refused (packet : Frame) (reason : UInt8) (hh : s.handler = .opening packet)
      (hreason : (s.lookup packet.streamID).isSome = true ∧ reason = closeInvalidInfo ∨
        maxConcurrentStreams ≤ s.streams.length ∧ reason = closeThrottled)
      (heq : s' = s.refuse packet.streamID reason) : Turns s a s'
  | overflowed (ref : Nat) (payload : List UInt8) (st : Stream)
      (hh : s.handler = .enqueueing ref payload) (hst : s.table[ref]? = some st)
      (hfull : ¬ st.write.length < initialPacketAllowance)
      (heq : s' = { s with handler := .calling ref true closeThrottled }) : Turns s a s'
  | rests (hreplying : ∀ reply shutdown, s'.handler ≠ .replying reply shutdown)
      (hopening : ∀ packet, s'.handler ≠ .opening packet)
      (hcalling : ∀ ref notify reason, s'.handler ≠ .calling ref notify reason)
      (hflag : s'.handshaken = s.handshaken) : Turns s a s'

section Origins

variable {s s' : Server} {a : Action} {ref : Nat} {st st' : Stream}

/-- `close` is called on some stream. -/
theorem Server.callClose_fate {r : Nat} {notify : Bool} {reason : UInt8}
    (hst : s.table[ref]? = some st) (hsame : Stream.Fate s a ref st st)
    (hcalled : r = ref → Stream.Fate s a ref st (st.callClose notify reason)) :
    ∃ st', (s.callClose r notify reason).table[ref]? = some st' ∧ Stream.Fate s a ref st st' := by
  rw [Server.getElem?_callClose, hst]
  split
  · exact ⟨_, rfl, hcalled ‹_›⟩
  · exact ⟨st, rfl, hsame⟩

theorem Server.stepCloser_fate {call call' : Closer} {r : Nat} {s₁ : Server}
    (ha : ∀ action, a ≠ .stream ref action) (hc : s.stepCloser call r = some (s₁, call'))
    (hst : s.table[ref]? = some st) :
    ∃ st', s₁.table[ref]? = some st' ∧ Stream.Fate s a ref st st' := by
  rcases Server.stepCloser_cases hc with rfl | rfl | rfl
  · exact ⟨st, hst, .same ha⟩
  · exact ⟨st, hst, .same ha⟩
  · exact Server.callClose_fate hst (.same ha) (fun _ => .shut ha)

/-- A goroutine decides what becomes of its stream. -/
theorem Stream.Fate.of_stream {action : StreamAction} {effect : Effect} {st₁ : Stream}
    (h : Stream.Fate s (.stream ref action) ref st st')
    (hs : st.step s.cancelled action = some (st₁, effect)) : st₁ = st' := by
  cases h with
  | same ha | shut ha => exact absurd rfl (ha action)
  | enqueued _ _ ha _ => cases ha
  | called _ _ _ ha _ => cases ha
  | stepped action' effect' ha hs' =>
    obtain ⟨-, rfl⟩ := Action.stream.inj ha
    exact (Prod.mk.inj (Option.some.inj (hs.symm.trans hs'))).1

/-- **Inversion for one stream.** -/
theorem Server.Step.fate (h : s.Step a s') (hst : s.table[ref]? = some st) :
    ∃ st', s'.table[ref]? = some st' ∧ Stream.Fate s a ref st st' := by
  cases h with
  | received data _ => exact ⟨st, by rw [Server.onMessage_table, hst], .same (by simp)⟩
  | replied | announced | announceFailed | overflowed | awaited | channelClosed | cancelParent =>
    exact ⟨st, hst, .same (by simp)⟩
  | inserted sent packet hh =>
    refine ⟨st, ?_, .same (by simp)⟩
    rcases s.insert_cases packet with ⟨reason, -, heq⟩ | ⟨-, -, heq⟩ <;> rw [heq]
    · exact hst
    · exact (List.getElem?_append_left (List.getElem?_eq_some_iff.mp hst).1).trans hst
  | enqueued sent r payload st₁ hh hst₁ _ =>
    show ∃ st', (s.setStream r _).table[ref]? = some st' ∧ _
    rw [Server.getElem?_setStream hst₁]
    split
    · rename_i heq
      subst heq
      obtain rfl : st₁ = st := Option.some.inj (hst₁.symm.trans hst)
      exact ⟨_, rfl, .enqueued sent payload rfl hh⟩
    · exact ⟨st, hst, .same (by simp)⟩
  | called sent r notify reason hh =>
    exact Server.callClose_fate hst (.same (by simp)) (fun heq => .called sent notify reason rfl (heq ▸ hh))
  | shut r call call' s₁ _ hc =>
    obtain ⟨st', hst', hfate⟩ := Server.stepCloser_fate (a := .shut r) (by simp) hc hst
    exact ⟨st', hst', hfate⟩
  | closer index r call call' s₁ hc =>
    obtain ⟨st', hst', hfate⟩ := Server.stepCloser_fate (a := .closer index r) (by simp) hc hst
    exact ⟨st', hst', hfate⟩
  | stream r action st₁ st' effect hst₁ hs =>
    show ∃ st', (s.setStream r _).table[ref]? = some st' ∧ _
    rw [Server.getElem?_setStream hst₁]
    by_cases heq : r = ref
    · -- a goroutine of this stream
      rw [if_pos heq]
      subst heq
      obtain rfl : st₁ = st := Option.some.inj (hst₁.symm.trans hst)
      exact ⟨st', rfl, .stepped action effect rfl hs⟩
    · rw [if_neg heq]
      exact ⟨st, hst, .same (fun action' ha => heq (Action.stream.inj ha).1)⟩

/-- A stream that was there before the step. -/
theorem Server.Step.before (h : s.Step a s') (hlt : ref < s.table.length)
    (hget : s'.table[ref]? = some st') :
    ∃ st, s.table[ref]? = some st ∧ Stream.Fate s a ref st st' := by
  obtain ⟨st₁, hst₁, hfate⟩ := h.fate (List.getElem?_eq_getElem hlt)
  obtain rfl : st₁ = st' := Option.some.inj (hst₁.symm.trans hget)
  exact ⟨_, List.getElem?_eq_getElem hlt, hfate⟩

/-- **Inversion for the map.** -/
theorem Server.Step.registers (h : s.Step a s') : s.Registers a s' := by
  cases h with
  | received data _ => exact .kept (Server.onMessage_streams s data) (by rw [Server.onMessage_table]) (by simp)
  | inserted sent packet hh =>
    rcases s.insert_cases packet with ⟨reason, -, heq⟩ | ⟨hfree, hroom, heq⟩ <;> rw [heq]
    · exact .kept rfl rfl (by simp)
    · exact .inserted sent packet rfl hh hfree hroom rfl
  | called sent r notify reason _ =>
    obtain ⟨table, heq, hlength⟩ := s.callClose_frame r notify reason
    rw [heq]
    exact .kept rfl hlength (by simp)
  | enqueued => exact .kept rfl List.length_set (by simp)
  | shut r call call' s₁ _ hc | closer index r call call' s₁ hc =>
    obtain ⟨cancelled, table, rfl, -, hlength⟩ := Server.stepCloser_frame hc
    exact .kept rfl hlength (by simp)
  | stream r action st st' effect hst hs =>
    by_cases hdelete : effect.delete = true
    · exact .removed r action st st' effect rfl hst hs hdelete (if_pos hdelete) List.length_set
    · refine .kept (if_neg hdelete) List.length_set ?_
      rintro r' action' st₁ st₂ effect' ⟨⟩ hst₁ hs₁
      obtain rfl : st = st₁ := Option.some.inj (hst.symm.trans hst₁)
      obtain ⟨-, rfl⟩ := Prod.mk.inj (Option.some.inj (hs.symm.trans hs₁))
      simpa using hdelete
  | _ => exact .kept rfl rfl (by simp)

/-- **Inversion for the message handler.** -/
theorem Server.Step.turns (h : s.Step a s') : s.Turns a s' := by
  cases h with
  | received data hidle => exact .received data rfl hidle (s.onMessage_cases data) rfl
  | replied sent reply shutdown _ => cases shutdown <;> exact .rests (by simp) (by simp) (by simp) rfl
  | inserted sent packet hh =>
    rcases s.insert_cases packet with ⟨reason, hreason, heq⟩ | ⟨-, -, heq⟩ <;> rw [heq]
    · exact .refused packet reason hh hreason rfl
    · exact .rests (by simp) (by simp) (by simp) rfl
  | overflowed sent r payload st hh hst hfull => exact .overflowed r payload st hh hst hfull rfl
  | called sent r notify reason _ =>
    exact .rests (by simp) (by simp) (by simp) (s.callClose_handshaken r notify reason)
  | shut r call call' s₁ _ hc =>
    obtain ⟨cancelled, table, rfl, -, -⟩ := Server.stepCloser_frame hc
    by_cases hreturned : call' = .returned
    · exact .rests (by simp [hreturned]) (by simp [hreturned]) (by simp [hreturned]) rfl
    · exact .rests (by simp [hreturned]) (by simp [hreturned]) (by simp [hreturned]) rfl
  | closer index r call call' s₁ hc =>
    obtain ⟨cancelled, table, rfl, -, -⟩ := Server.stepCloser_frame hc
    exact .same rfl rfl
  | channelClosed | cancelParent | stream => exact .same rfl rfl
  | _ => exact .rests (by simp) (by simp) (by simp) rfl

/-- The flag of the handshake stays. -/
theorem Server.Step.handshaken (h : s.Step a s') (hflag : s.handshaken = true) :
    s'.handshaken = true := by
  cases h.turns with
  | same _ hsame => exact hsame.trans hflag
  | received data _ _ hr _ => cases hr <;> first | rfl | exact hflag
  | refused packet reason _ _ heq => exact heq ▸ hflag
  | overflowed r payload st _ _ _ heq => exact heq ▸ hflag
  | rests _ _ _ hsame => exact hsame.trans hflag

/-- Who is about to open a stream was so before, or has just got a CONNECT for a number that is free. -/
theorem Server.Step.opening (h : s.Step a s') {packet : Frame} (hh' : s'.handler = .opening packet) :
    (s.handler = .opening packet ∧ s'.handshaken = s.handshaken) ∨
    (packet.streamID ≠ 0 ∧ s.handshaken = true ∧ s.lookup packet.streamID = none ∧
      s' = { s with handler := .opening packet }) := by
  cases h.turns with
  | same hh hflag => exact .inl ⟨hh ▸ hh', hflag⟩
  | received data _ hidle hr _ =>
    cases hr with
    | ignored =>
      rw [hidle] at hh'
      cases hh'
    | opening hparse hid hkind hhand hfree =>
      cases hh'
      exact .inr ⟨hid, hhand, hfree, rfl⟩
    | _ => cases hh'
  | refused _ _ _ _ heq =>
    rw [heq] at hh'
    cases hh'
  | overflowed _ _ _ _ _ _ heq =>
    rw [heq] at hh'
    cases hh'
  | rests _ hopening _ _ => exact absurd hh' (hopening packet)

/-- No stream is forgotten. -/
theorem Server.Step.length_le (h : s.Step a s') : s.table.length ≤ s'.table.length := by
  cases h.registers with
  | kept _ hlength _ => exact Nat.le_of_eq hlength.symm
  | inserted sent packet _ _ _ _ heq => simp [heq]
  | removed _ _ _ _ _ _ _ _ _ _ hlength => exact Nat.le_of_eq hlength.symm

/-- **Inversion for a stream of the server after a step.** -/
theorem Server.Step.new_or_before (h : s.Step a s') (hget : s'.table[ref]? = some st') :
    (∃ sent packet, ref = s.table.length ∧ a = .handle sent ∧ s.handler = .opening packet ∧
      st' = Stream.new packet.streamID (connectHostname packet.payload) (connectPort packet.payload)) ∨
    ∃ st, s.table[ref]? = some st ∧ Stream.Fate s a ref st st' := by
  have hlt' : ref < s'.table.length := (List.getElem?_eq_some_iff.mp hget).1
  by_cases hlt : ref < s.table.length
  · exact .inr (h.before hlt hget)
  · -- only an insertion makes the table longer
    cases h.registers with
    | kept _ hlength _ => omega
    | removed _ _ _ _ _ _ _ _ _ _ hlength => omega
    | inserted sent packet ha hh _ _ heq =>
      rw [heq, List.length_append, List.length_singleton] at hlt'
      obtain rfl : ref = s.table.length := by omega
      rw [heq] at hget
      simp only [List.getElem?_concat_length] at hget
      exact .inl ⟨sent, packet, rfl, ha, hh, (Option.some.inj hget).symm⟩

theorem Server.Step.origin (h : s.Step a s') (hget : s'.table[ref]? = some st') :
    Stream.Origin s a ref st' := by
  rcases h.new_or_before hget with ⟨sent, packet, href, ha, hh, hnew⟩ | ⟨st, hst, hfate⟩
  · exact .new packet sent href ha hh hnew
  · cases hfate with
    | same ha => exact .touched st' hst ha .same
    | enqueued sent payload ha _ => exact .touched st hst (by simp [ha]) (.enqueued payload)
    | called sent notify reason ha _ => exact .touched st hst (by simp [ha]) (.called notify reason)
    | shut ha => exact .touched st hst ha (.called false closeVoluntary)
    | stepped action effect ha hs => exact .stepped st action effect hst ha hs

/-- **The rule for streams.**  What holds of a new stream, what a payload or a call of `close` does not
    undo, and what this step of a goroutine keeps, holds of every stream afterwards. -/
theorem Server.Step.streams {P : Stream → Prop} (h : s.Step a s') (hP : ∀ st ∈ s.table, P st)
    (hnew : ∀ id hostname port, P (Stream.new id hostname port))
    (htouched : ∀ st st', P st → st.Touched st' → P st')
    (hstep : ∀ ref st action st' effect, a = .stream ref action → s.table[ref]? = some st →
      st.step s.cancelled action = some (st', effect) → P st → P st') : ∀ st ∈ s'.table, P st := by
  intro st' hst'
  obtain ⟨ref, hget⟩ := List.mem_iff_getElem?.mp hst'
  cases h.origin hget with
  | new packet sent _ _ _ hnew' =>
    rw [hnew']
    exact hnew _ _ _
  | touched st hst _ hto => exact htouched st st' (hP st (List.mem_of_getElem? hst)) hto
  | stepped st action effect hst ha hs =>
    exact hstep ref st action st' effect ha hst hs (hP st (List.mem_of_getElem? hst))

end Origins

end WebVPN.Wisp
