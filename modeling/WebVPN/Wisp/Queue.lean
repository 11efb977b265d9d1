import WebVPN.Wisp.Link
import Mathlib.Algebra.Order.Ring.Nat
import Mathlib.Data.Nat.Cast.Order.Basic
import Mathlib.Data.Nat.Cast.WithTop
import Mathlib.Order.Lattice.Nat

namespace WebVPN.Wisp

/-!
# Wisp — the queues of the streams, and the packets on their way to them

The length a stream's write queue will have once the packets in flight have been handled,
if the target accepts nothing meanwhile.  `⊥` stands for no open stream.

* `absorb` / `settle` — the effect of one packet / of all packets in flight;
* `Fits` — on the way there the queue never exceeds its capacity;
* `Server.load` — the queue length now, with the packet the handler has in hand;
* `Server.load_step_le` — no step of the server lengthens a queue;
* `Server.load_onMessage_le` — a delivered packet changes the queues as `absorb` says.
-/

/-! ### Queue lengths -/

/-- The queue length of stream `id` after one more packet has been handled, if the target
    accepts nothing meanwhile. -/
def absorb (id : UInt32) (x : WithBot ℕ) (f : Frame) : WithBot ℕ :=
  if f.streamID ≠ id then x
  else if f.kind = packetData then x + 1
  else if f.kind = packetClose then ⊥
  else if f.kind = packetConnect then x ⊔ 0
  else x

/-- The queue length of stream `id` after all packets in flight have been handled. -/
def settle (id : UInt32) (x : WithBot ℕ) (fs : List Frame) : WithBot ℕ := fs.foldl (absorb id) x

/-- While the packets in flight are handled one by one, the queue of stream `id` stays
    within its capacity. -/
def Fits (id : UInt32) : WithBot ℕ → List Frame → Prop
  | x, [] => x ≤ (initialPacketAllowance : WithBot ℕ)
  | x, f :: rest => x ≤ (initialPacketAllowance : WithBot ℕ) ∧ Fits id (absorb id x f) rest

variable {x y : WithBot ℕ}

theorem absorb_mono (id : UInt32) (f : Frame) (h : x ≤ y) : absorb id x f ≤ absorb id y f := by
  unfold absorb
  split
  · exact h
  · split
    · exact add_le_add_left h 1
    · split
      · exact le_rfl
      · split
        · exact sup_le_sup_right h 0
        · exact h

theorem settle_mono (id : UInt32) (fs : List Frame) (h : x ≤ y) :
    settle id x fs ≤ settle id y fs := by
  induction fs generalizing x y with
  | nil => exact h
  | cons f rest ih => exact ih (absorb_mono id f h)

variable {id : UInt32}

variable {fs : List Frame}

theorem Fits.mono (h : x ≤ y) (hf : Fits id y fs) : Fits id x fs := by
  induction fs generalizing x y with
  | nil => exact le_trans h hf
  | cons f rest ih => exact ⟨le_trans h hf.1, ih (absorb_mono id f h) hf.2⟩

variable {x : WithBot ℕ}

theorem Fits.start (hf : Fits id x fs) : x ≤ (initialPacketAllowance : WithBot ℕ) := by
  cases fs with
  | nil => exact hf
  | cons f rest => exact hf.1

theorem absorb_info (id : UInt32) (x : WithBot ℕ) (payload : List UInt8) :
    absorb id x ⟨packetInfo, 0, payload⟩ = x := by
  simp [absorb, packetInfo, packetData, packetClose, packetConnect]

variable {f : Frame}

/-- One more packet at the end of the channel. -/
theorem Fits.concat (hf : Fits id x fs)
    (hlast : absorb id (settle id x fs) f ≤ (initialPacketAllowance : WithBot ℕ)) :
    Fits id x (fs ++ [f]) := by
  induction fs generalizing x with
  | nil => exact ⟨hf, hlast⟩
  | cons g rest ih => exact ⟨hf.1, ih hf.2 hlast⟩

theorem settle_concat (id : UInt32) (x : WithBot ℕ) (fs : List Frame) (f : Frame) :
    settle id x (fs ++ [f]) = absorb id (settle id x fs) f := by
  simp [settle]

/-! ### The queue of a stream at the server -/

/-- The handler has decided to close the stream. -/
def Handler.calls (h : Handler) (ref : Nat) : Bool :=
  match h with
  | .calling ref' _ _ => ref' == ref
  | _ => false

/-- The packets for the stream that the handler has in hand. -/
def Handler.holds (h : Handler) (ref : Nat) : Nat :=
  match h with
  | .enqueueing ref' _ => if ref' = ref then 1 else 0
  | _ => 0

/-- The handler is opening a stream with this number. -/
def Handler.opens (h : Handler) (id : UInt32) : Bool :=
  match h with
  | .opening packet => packet.streamID == id
  | _ => false

/-- The queue length of an open stream, with the packet in hand; `⊥` when it is closing. -/
def Stream.load (st : Stream) (h : Handler) (ref : Nat) : WithBot ℕ :=
  if st.Open ∧ h.calls ref = false then ((st.write.length + h.holds ref : ℕ) : WithBot ℕ) else ⊥

/-- The queue length of the stream in the map under `id`. -/
def Server.mapped (s : Server) (id : UInt32) : WithBot ℕ :=
  match s.lookup id with
  | none => ⊥
  | some ref =>
    match s.table[ref]? with
    | none => ⊥
    | some st => st.load s.handler ref

/-- The queue length of stream `id` at the server, once the packet in hand is handled. -/
def Server.load (s : Server) (id : UInt32) : WithBot ℕ :=
  if s.handler.opens id then s.mapped id ⊔ 0 else s.mapped id

variable {s s' : Server} {ref : Nat}

/-- Without a stream under this number, and none being opened, there is no queue. -/
theorem Server.load_eq_bot (hl : s.lookup id = none)
    (ho : s.handler.opens id = false) : s.load id = ⊥ := by
  simp [Server.load, Server.mapped, hl, ho]

/-- A stream that drains or closes has no more in its queue than before. -/
theorem Stream.load_le {st st' : Stream} {h : Handler}
    (hq : st'.write.length ≤ st.write.length) (ho : st'.Open → st.Open) :
    st'.load h ref ≤ st.load h ref := by
  unfold Stream.load
  by_cases h' : st'.Open ∧ h.calls ref = false
  · rw [if_pos h', if_pos ⟨ho h'.1, h'.2⟩]
    exact Nat.cast_le.mpr (Nat.add_le_add_right hq _)
  · rw [if_neg h']
    exact bot_le

/-- Comparing the queue of one number in two states of the server. -/
theorem Server.load_le (hl : ∀ ref, s'.lookup id = some ref → s.lookup id = some ref)
    (ht : ∀ ref st', s'.lookup id = some ref → s'.table[ref]? = some st' →
      ∃ st, s.table[ref]? = some st ∧ st'.load s'.handler ref ≤ st.load s.handler ref)
    (ho : s'.handler.opens id = true → s.handler.opens id = true) :
    s'.load id ≤ s.load id := by
  have hmapped : s'.mapped id ≤ s.mapped id := by
    unfold Server.mapped
    cases hl' : s'.lookup id with
    | none => simp
    | some ref =>
      cases ht' : s'.table[ref]? with
      | none => simp [ht']
      | some st' =>
        obtain ⟨st, hst, hle⟩ := ht ref st' hl' ht'
        rw [hl ref hl']
        simp only [hst, ht']
        exact hle
  unfold Server.load
  cases ho' : s'.handler.opens id with
  | true => rw [ho ho']; exact sup_le_sup_right hmapped 0
  | false =>
    simp only [Bool.false_eq_true, if_false]
    split
    · exact le_trans hmapped le_sup_left
    · exact hmapped

/-- A handler that has nothing in hand for any stream. -/
structure Handler.Quiet (h : Handler) : Prop where
  calls : ∀ ref, h.calls ref = false
  holds : ∀ ref, h.holds ref = 0
  opens : ∀ id, h.opens id = false

theorem Handler.idle_quiet : Handler.idle.Quiet := ⟨fun _ => rfl, fun _ => rfl, fun _ => rfl⟩

theorem Handler.replying_quiet (reply : Frame) (shutdown : Bool) :
    (Handler.replying reply shutdown).Quiet := ⟨fun _ => rfl, fun _ => rfl, fun _ => rfl⟩

theorem Handler.announcing_quiet : Handler.announcing.Quiet :=
  ⟨fun _ => rfl, fun _ => rfl, fun _ => rfl⟩

theorem Handler.awaiting_quiet (ref : Nat) : (Handler.awaiting ref).Quiet :=
  ⟨fun _ => rfl, fun _ => rfl, fun _ => rfl⟩

theorem Handler.shutting_quiet (call : Closer) : (Handler.shutting call).Quiet :=
  ⟨fun _ => rfl, fun _ => rfl, fun _ => rfl⟩

theorem Stream.load_quiet {h h' : Handler} (hq : h.Quiet) (hq' : h'.Quiet) (st : Stream)
    (ref : Nat) : st.load h ref = st.load h' ref := by
  simp [Stream.load, hq.calls, hq.holds, hq'.calls, hq'.holds]

/-- The handler moves between states in which it has nothing in hand. -/
theorem Server.load_le_of_quiet (id : UInt32) (hm : s'.streams = s.streams)
    (ht : s'.table = s.table) (hq : s.handler.Quiet) (hq' : s'.handler.Quiet) :
    s'.load id ≤ s.load id := by
  apply Server.load_le
  · intro ref h
    rw [Server.lookup, ← hm]; exact h
  · intro ref st' _ hst'
    rw [ht] at hst'
    exact ⟨st', hst', le_of_eq (Stream.load_quiet hq' hq st' ref)⟩
  · intro h
    rw [hq'.opens] at h
    cases h

/-- A stream is replaced by one with a shorter queue or that is closing. -/
theorem Server.load_setStream_le (id : UInt32) {st st' : Stream}
    (hst : s.table[ref]? = some st) (hq : st'.write.length ≤ st.write.length)
    (ho : st'.Open → st.Open) : (s.setStream ref st').load id ≤ s.load id := by
  apply Server.load_le
  · exact fun _ h => h
  · intro ref' st₁ _ hst₁
    by_cases hr : ref' = ref
    · subst hr
      have hlt : ref' < s.table.length := (List.getElem?_eq_some_iff.mp hst).1
      rw [Server.setStream, List.getElem?_set_self hlt, Option.some.injEq] at hst₁
      subst hst₁
      exact ⟨st, hst, Stream.load_le hq ho⟩
    · rw [Server.setStream, List.getElem?_set_ne (Ne.symm hr)] at hst₁
      exact ⟨st₁, hst₁, le_rfl⟩
  · exact fun h => h

/-- A call of `close` from any thread. -/
theorem Server.load_callClose_le (s : Server) (id : UInt32) (ref : Nat) (notify : Bool)
    (reason : UInt8) : (s.callClose ref notify reason).load id ≤ s.load id := by
  unfold Server.callClose
  split
  · exact le_rfl
  · rename_i st hst
    exact Server.load_setStream_le id hst (by simp)
      (fun h => absurd h (Stream.callClose_not_open st notify reason))

theorem Server.load_stepCloser_le {call call' : Closer}
    (id : UInt32) (hc : s.stepCloser call ref = some (s', call')) : s'.load id ≤ s.load id := by
  rcases Server.stepCloser_cases hc with rfl | rfl | rfl
  · exact le_rfl
  · exact le_rfl
  · exact Server.load_callClose_le s id _ _ _

theorem Server.handler_stepCloser {call call' : Closer}
    (hc : s.stepCloser call ref = some (s', call')) : s'.handler = s.handler := by
  obtain ⟨cancelled, table, rfl, -, -⟩ := Server.stepCloser_frame hc
  rfl

/-- Opening a stream: the new queue is empty, and was expected to be. -/
theorem Server.load_insert_le (hv : s.Valid) (id : UInt32) {packet : Frame}
    (hh : s.handler = .opening packet) : (s.insert packet).load id ≤ s.load id := by
  have hkeep : ∀ {s' : Server}, s'.streams = s.streams → s'.table = s.table →
      s'.handler.Quiet → s'.load id ≤ s.load id := by
    intro s' hm ht hq
    apply Server.load_le
    · intro ref h
      rw [Server.lookup, ← hm]; exact h
    · intro ref st' _ hst'
      rw [ht] at hst'
      refine ⟨st', hst', le_of_eq ?_⟩
      rw [Stream.load, Stream.load, hq.calls, hq.holds, hh]
      rfl
    · intro h
      rw [hq.opens] at h
      cases h
  rcases s.insert_cases packet with ⟨reason, -, heq⟩ | ⟨-, -, heq⟩ <;> rw [heq]
  · exact hkeep rfl rfl (Handler.replying_quiet _ _)
  by_cases hid : id = packet.streamID
  · -- the queue of the new stream
    subst hid
    have hnew : Server.load { s with
        streams := (packet.streamID, s.table.length) :: s.streams
        table := s.table ++ [Stream.new packet.streamID (connectHostname packet.payload)
          (connectPort packet.payload)]
        handler := .idle } packet.streamID = 0 := by
      simp [Server.load, Server.mapped, Server.lookup, Handler.opens, Stream.load, Stream.new,
        Stream.Open, Handler.calls, Handler.holds]
    have hopens : s.handler.opens packet.streamID = true := by simp [hh, Handler.opens]
    rw [hnew, Server.load, if_pos hopens]
    exact le_sup_right
  · have hne : (id == packet.streamID) = false := beq_eq_false_iff_ne.mpr hid
    apply Server.load_le
    · intro ref h
      simpa [Server.lookup, List.lookup_cons, hne] using h
    · intro ref st' hl hst'
      have hl' : s.lookup id = some ref := by
        simpa [Server.lookup, List.lookup_cons, hne] using hl
      obtain ⟨st, hst, -⟩ := hv.keys id ref hl'
      have hlt : ref < s.table.length := (List.getElem?_eq_some_iff.mp hst).1
      rw [List.getElem?_append_left hlt] at hst'
      refine ⟨st', hst', le_of_eq ?_⟩
      simp [Stream.load, hh, Handler.calls, Handler.holds]
    · intro h
      cases h

/-- **The server only makes room.**  No step of the server other than receiving a packet
    lengthens the queue of a stream. -/
theorem Server.load_step_le {a : Action} (hv : s.Valid) (id : UInt32)
    (hmsg : ∀ data, a ≠ .message data) (h : s.step a = some s') : s'.load id ≤ s.load id := by
  obtain ⟨-, hstep⟩ := Server.step_cases h
  cases hstep with
  | received data _ => exact absurd rfl (hmsg data)
  | replied sent reply shutdown hh =>
    refine Server.load_le_of_quiet id rfl rfl (hh ▸ Handler.replying_quiet _ _) ?_
    cases shutdown with
    | true => exact Handler.shutting_quiet _
    | false => exact Handler.idle_quiet
  | announced hh =>
    exact Server.load_le_of_quiet id rfl rfl (hh ▸ Handler.announcing_quiet) Handler.idle_quiet
  | announceFailed hh =>
    exact Server.load_le_of_quiet id rfl rfl (hh ▸ Handler.announcing_quiet)
      (Handler.shutting_quiet _)
  | inserted sent packet hh => exact Server.load_insert_le hv id hh
  | enqueued sent ref payload st hh hst _ =>
    -- the packet moves from the handler into the queue
    apply Server.load_le
    · exact fun _ h => h
    · intro ref' st₁ _ hst₁
      rw [Server.getElem?_setStream hst] at hst₁
      split at hst₁
      · rename_i hr
        subst hr
        cases hst₁
        refine ⟨st, hst, le_of_eq ?_⟩
        simp [Stream.load, Stream.Open, hh, Handler.calls, Handler.holds]
      · rename_i hr
        refine ⟨st₁, hst₁, le_of_eq ?_⟩
        simp [Stream.load, hh, Handler.calls, Handler.holds, hr]
    · intro h
      cases h
  | overflowed sent ref payload st hh _ _ =>
    apply Server.load_le
    · exact fun _ h => h
    · intro ref' st₁ _ hst₁
      refine ⟨st₁, hst₁, ?_⟩
      simp only [Stream.load, hh, Handler.calls, Handler.holds]
      by_cases hr : ref = ref'
      · simp [hr]
      · simp [hr]
    · intro h
      cases h
  | called sent ref notify reason hh =>
    apply Server.load_le
    · intro ref' h
      rw [Server.lookup, ← s.callClose_streams ref notify reason]
      exact h
    · intro ref' st₁ _ hst₁
      rw [Server.getElem?_callClose] at hst₁
      split at hst₁
      · -- the stream the handler has called `close` on
        obtain ⟨st, hst, rfl⟩ := Option.map_eq_some_iff.mp hst₁
        refine ⟨st, hst, ?_⟩
        rw [Stream.load, if_neg (fun hc => Stream.callClose_not_open st notify reason hc.1)]
        exact bot_le
      · rename_i hr
        refine ⟨st₁, hst₁, le_of_eq ?_⟩
        simp [Stream.load, hh, Handler.calls, Handler.holds, hr]
    · intro h
      cases h
  | awaited sent ref hh =>
    exact Server.load_le_of_quiet id rfl rfl (hh ▸ Handler.awaiting_quiet ref)
      Handler.idle_quiet
  | shut ref call call' s₁ hh hc =>
    have hh₁ : s₁.handler = .shutting call := (Server.handler_stepCloser hc).trans hh
    refine le_trans ?_ (Server.load_stepCloser_le id hc)
    refine Server.load_le_of_quiet id rfl rfl (hh₁ ▸ Handler.shutting_quiet call) ?_
    by_cases hret : call' = .returned
    · simpa [hret] using Handler.idle_quiet
    · simpa [hret] using Handler.shutting_quiet call'
  | channelClosed => exact le_rfl
  | closer index ref call call' s₁ hc =>
    have hle : s₁.load id ≤ s.load id := Server.load_stepCloser_le id hc
    exact hle
  | cancelParent => exact le_rfl
  | stream ref action st st' effect hst hs =>
    have hp := Stream.step_progress hs
    refine le_trans ?_ (Server.load_setStream_le id hst hp.queue hp.stays_closing)
    apply Server.load_le
    · intro ref' h
      simp only [Server.lookup] at h ⊢
      split at h
      · rw [lookup_filter_ne] at h
        split at h
        · cases h
        · exact h
      · exact h
    · exact fun ref' st₁ _ hst₁ => ⟨st₁, hst₁, le_rfl⟩
    · exact fun h => h

/-! ### The packets of a conforming client -/

/-- What a conforming client puts on the channel. -/
structure ClientFrame (f : Frame) : Prop where
  wellFormed : f.WellFormed
  shape : (f.kind = packetInfo ∧ f.streamID = 0) ∨
    (f.streamID ≠ 0 ∧ (f.kind = packetConnect ∨ f.kind = packetData ∨ f.kind = packetClose))

theorem Frame.WellFormed.of_fits {kind : UInt8} {payload : List UInt8}
    (hge : packetConnect ≤ kind) (hle : kind ≤ packetInfo) (hf : fits payload = true) :
    (Frame.mk kind id payload).WellFormed :=
  ⟨hge, hle, by simpa [fits] using hf⟩

theorem le_absorb_connect (hk : f.kind = packetConnect) : x ≤ absorb id x f := by
  unfold absorb
  split
  · exact le_rfl
  · rw [if_neg (by rw [hk]; decide), if_neg (by rw [hk]; decide)]
    exact le_sup_left

/-- A handler with nothing in hand takes up a packet for the stream `ref`, which is not the
    stream of `id`. -/
theorem Server.load_of_other {h : Handler} (hidle : s.handler = .idle) (ho : h.opens id = false)
    (hr : ∀ ref, s.lookup id = some ref → h.calls ref = false ∧ h.holds ref = 0) :
    Server.load { s with handler := h } id ≤ s.load id := by
  apply Server.load_le
  · exact fun _ hl => hl
  · intro ref st hl hst
    refine ⟨st, hst, le_of_eq ?_⟩
    rw [Stream.load, Stream.load, (hr ref hl).1, (hr ref hl).2, hidle]
    rfl
  · intro hopens
    rw [ho] at hopens
    cases hopens

/-- Two numbers never lead to the same stream. -/
theorem Server.Valid.lookup_inj (hv : s.Valid) {id id' : UInt32}
    (h : s.lookup id = some ref) (h' : s.lookup id' = some ref) : id = id' := by
  obtain ⟨st, hst, rfl⟩ := hv.keys id ref h
  obtain ⟨st', hst', rfl⟩ := hv.keys id' ref h'
  rw [hst, Option.some.injEq] at hst'
  rw [hst']

/-- A CONNECT is refused or will open an empty queue. -/
theorem Server.load_connect_le (id : UInt32) (hidle : s.handler = .idle)
    (hk : f.kind = packetConnect) :
    (match s.lookup f.streamID with
      | some _ => s.refuse f.streamID closeInvalidInfo
      | none => s.openStream f).load id ≤ absorb id (s.load id) f := by
  have hrefuse : (s.refuse f.streamID closeInvalidInfo).load id ≤ absorb id (s.load id) f :=
    le_trans (Server.load_of_other hidle rfl (fun _ _ => ⟨rfl, rfl⟩)) (le_absorb_connect hk)
  cases hl : s.lookup f.streamID with
  | some ref => exact hrefuse
  | none =>
    simp only
    unfold Server.openStream
    split
    · exact hrefuse
    split
    · exact hrefuse
    by_cases hid : f.streamID = id
    · have hx : s.load id = ⊥ := Server.load_eq_bot (hid ▸ hl) (by rw [hidle]; rfl)
      have hy : Server.load { s with handler := .opening f } id = 0 := by
        have hlookup : Server.lookup { s with handler := .opening f } id = none := hid ▸ hl
        simp [Server.load, Server.mapped, hlookup, hid, Handler.opens]
      rw [hx, hy, absorb, if_neg (not_not.mpr hid), if_neg (by rw [hk]; decide),
        if_neg (by rw [hk]; decide), if_pos hk]
      exact le_sup_right
    · have hopens : (Handler.opening f).opens id = false := by simp [Handler.opens, hid]
      exact le_trans (Server.load_of_other hidle hopens (fun _ _ => ⟨rfl, rfl⟩))
        (le_absorb_connect hk)

/-- A DATA packet is refused or counts for its stream. -/
theorem Server.load_data_le (hv : s.Valid) (id : UInt32)
    (hidle : s.handler = .idle) (hk : f.kind = packetData) :
    (match s.lookup f.streamID with
      | none => s.refuse f.streamID closeInvalidInfo
      | some ref => { s with handler := .enqueueing ref f.payload }).load id ≤
      absorb id (s.load id) f := by
  by_cases hid : f.streamID = id
  · rw [absorb, if_neg (not_not.mpr hid), if_pos hk]
    cases hl : s.lookup f.streamID with
    | none =>
      have hbot : (s.refuse f.streamID closeInvalidInfo).load id = ⊥ :=
        Server.load_eq_bot (hid ▸ hl) rfl
      simp [hbot]
    | some ref =>
      have hlookup : s.lookup id = some ref := hid ▸ hl
      obtain ⟨st, hst, -⟩ := hv.keys id ref hlookup
      have hx : s.load id = if st.Open then (st.write.length : WithBot ℕ) else ⊥ := by
        simp [Server.load, Server.mapped, hlookup, hst, hidle, Handler.opens, Stream.load,
          Handler.calls, Handler.holds]
      have hy : Server.load { s with handler := .enqueueing ref f.payload } id =
          if st.Open then ((st.write.length + 1 : ℕ) : WithBot ℕ) else ⊥ := by
        have hlookup' : Server.lookup { s with handler := .enqueueing ref f.payload } id =
          some ref := hlookup
        simp [Server.load, Server.mapped, hlookup', hst, Handler.opens, Stream.load,
          Handler.calls, Handler.holds]
      simp only
      rw [hx, hy]
      split <;> simp
  · rw [absorb, if_pos hid]
    cases hl : s.lookup f.streamID with
    | none => exact Server.load_of_other hidle rfl (fun _ _ => ⟨rfl, rfl⟩)
    | some ref =>
      refine Server.load_of_other hidle rfl (fun ref' hl' => ⟨rfl, ?_⟩)
      have hne : ref ≠ ref' := by
        rintro rfl
        exact hid (hv.lookup_inj hl hl')
      simp [Handler.holds, hne]

/-- A CLOSE ends its stream. -/
theorem Server.load_close_le (hv : s.Valid) (id : UInt32)
    (hidle : s.handler = .idle) (hk : f.kind = packetClose) :
    (match s.lookup f.streamID with
      | none => s
      | some ref => { s with handler := .calling ref false closeVoluntary }).load id ≤
      absorb id (s.load id) f := by
  by_cases hid : f.streamID = id
  · rw [absorb, if_neg (not_not.mpr hid), if_neg (by rw [hk]; decide), if_pos hk]
    cases hl : s.lookup f.streamID with
    | none => exact le_of_eq (Server.load_eq_bot (hid ▸ hl) (by rw [hidle]; rfl))
    | some ref =>
      have hlookup : Server.lookup { s with handler := .calling ref false closeVoluntary } id =
        some ref := hid ▸ hl
      obtain ⟨st, hst, -⟩ := hv.keys id ref hlookup
      simp [Server.load, Server.mapped, hlookup, hst, Handler.opens, Stream.load, Handler.calls]
  · rw [absorb, if_pos hid]
    cases hl : s.lookup f.streamID with
    | none => exact le_rfl
    | some ref =>
      refine Server.load_of_other hidle rfl (fun ref' hl' => ⟨?_, rfl⟩)
      have hne : ref ≠ ref' := by
        rintro rfl
        exact hid (hv.lookup_inj hl hl')
      simp [Handler.calls, hne]

/-- **Delivery.**  A packet of a conforming client changes the queues as `absorb` says. -/
theorem Server.load_onMessage_le (hv : s.Valid) (id : UInt32)
    (hf : ClientFrame f) (hidle : s.handler = .idle) :
    (s.onMessage f.packet).load id ≤ absorb id (s.load id) f := by
  unfold Server.onMessage
  rw [parsePacket_packet f hf.wellFormed]
  simp only
  rcases hf.shape with ⟨hk, hzero⟩ | ⟨hnz, hk⟩
  · -- the handshake touches no queue
    have habsorb : absorb id (s.load id) f = s.load id := by
      unfold absorb
      split
      · rfl
      · rw [if_neg (by rw [hk]; decide), if_neg (by rw [hk]; decide), if_neg (by rw [hk]; decide)]
    rw [if_pos hzero, habsorb]
    unfold Server.handleHandshake
    split
    · exact Server.load_of_other hidle rfl (fun _ _ => ⟨rfl, rfl⟩)
    split
    · exact le_rfl
    · exact Server.load_of_other hidle rfl (fun _ _ => ⟨rfl, rfl⟩)
  · rw [if_neg hnz]
    by_cases hhand : s.handshaken = true
    · rw [if_neg (by simp [hhand])]
      rcases hk with hk | hk | hk
      · rw [if_pos hk]
        exact Server.load_connect_le id hidle hk
      · rw [if_neg (by rw [hk]; decide), if_pos hk]
        exact Server.load_data_le hv id hidle hk
      · rw [if_neg (by rw [hk]; decide), if_neg (by rw [hk]; decide), if_pos hk]
        exact Server.load_close_le hv id hidle hk
    · -- before the handshake there is no stream
      have hempty : s.streams = [] := hv.handshake (by simpa using hhand)
      have hbot : s.abort.load id = ⊥ :=
        Server.load_eq_bot (by simp [Server.lookup, Server.abort, hempty]) rfl
      rw [if_pos (by simpa using hhand), hbot]
      exact bot_le

end WebVPN.Wisp
