import WebVPN.Wisp.Registry

namespace WebVPN.Wisp

open WebVPN.Library

/-!
# Wisp — from the client to the target

What a stream writes to its connection, against the DATA packets that have arrived for it.
Between the two are the message handler (which holds a payload between the lookup and the send to
the queue), the queue, and the payload that `writeLoop` is writing.  The account is exact while
the stream is in the map; it may fall short afterwards, and when a full queue drops a payload,
but then the stream has left the map before the next packet is looked at.

* `received` — the bytes that have arrived for a stream since its CONNECT;
* `Stream.outstanding` — the bytes that `writeLoop` is still to write;
* `Stream.Upstream` — the account of one stream, `Server.step_tracks` — every step keeps it;
* `run_upstream` — what is written is a prefix of what has arrived.
-/

/-- What the server has done, the latest first. -/
abbrev History := List (Transition Server Action Unit)

/-- The payload of a DATA packet that arrives in a step for the stream with this reference. -/
def arrivedIn (ref : Nat) (t : Transition Server Action Unit) : List UInt8 :=
  match t.before.table[ref]?, t.action with
  | some st, .message data =>
    match parsePacket data with
    | .ok packet =>
      if packet.streamID = st.id ∧ packet.kind = packetData then packet.payload else []
    | .error _ => []
  | _, _ => []

/-- The DATA payloads that have arrived for a stream since it was opened. -/
def received (h : History) (ref : Nat) : List UInt8 := System.collect (arrivedIn ref) h

/-! ### One stream -/

/-- What `writeLoop` is still to write; nothing when it has ended. -/
def Stream.outstanding (st : Stream) : Option (List UInt8) :=
  match st.writeLoop with
  | .writing _ data _ => some (data ++ st.write.flatten)
  | .failing _ _ => none
  | .returned => none
  | _ => some st.write.flatten

/-- The account of a stream: what has been written, what is to be written and what the message
    handler holds is, in this order, what has arrived; all of it if `exact`. -/
structure Stream.Upstream (arrived pending : List UInt8) (exact : Prop) (st : Stream) : Prop where
  written : st.written <+: arrived
  waiting : ∀ rest, st.outstanding = some rest → st.written ++ rest ++ pending <+: arrived
  complete : exact → st.Listed → ∀ rest, st.outstanding = some rest →
    st.written ++ rest ++ pending = arrived

section Streams

variable {st st' : Stream} {arrived pending payload : List UInt8} {p q : Prop}

theorem Stream.upstream_new (id : UInt32) (hostname : List UInt8) (port : UInt16) (p : Prop) :
    (Stream.new id hostname port).Upstream [] [] p := by
  refine ⟨List.prefix_rfl, ?_, ?_⟩
  · rintro rest hrest
    cases hrest
    exact List.prefix_rfl
  · rintro - - rest hrest
    cases hrest
    rfl

theorem Stream.Upstream.weaken (h : st.Upstream arrived pending p) (hpq : q → p) :
    st.Upstream arrived pending q :=
  ⟨h.written, h.waiting, fun hq => h.complete (hpq hq)⟩

/-- Nothing that the account is about changes, and the stream is not listed anew. -/
theorem Stream.Upstream.congr (h : st.Upstream arrived pending p)
    (hwritten : st'.written = st.written) (houtstanding : st'.outstanding = st.outstanding)
    (hlisted : st'.Listed → st.Listed) : st'.Upstream arrived pending p := by
  refine ⟨?_, ?_, ?_⟩
  · rw [hwritten]
    exact h.written
  · rw [hwritten, houtstanding]
    exact h.waiting
  · rw [hwritten, houtstanding]
    exact fun hp hl => h.complete hp (hlisted hl)

/-- `writeLoop` has ended. -/
theorem Stream.Upstream.ended (hwritten : st.written <+: arrived)
    (hended : st.outstanding = none) : st.Upstream arrived pending p := by
  refine ⟨hwritten, ?_, ?_⟩
  · intro rest hrest
    rw [hended] at hrest
    cases hrest
  · intro _ _ rest hrest
    rw [hended] at hrest
    cases hrest

/-- The message handler puts what it holds into the queue. -/
theorem Stream.Upstream.enqueued (h : st.Upstream arrived payload p) :
    Stream.Upstream arrived [] p { st with write := st.write ++ [payload] } := by
  have hqueue : (st.write ++ [payload]).flatten = st.write.flatten ++ payload := by
    rw [List.flatten_append, List.flatten_singleton]
  have hmore : ∀ rest, Stream.outstanding { st with write := st.write ++ [payload] } = some rest →
      ∃ rest', st.outstanding = some rest' ∧ rest = rest' ++ payload := by
    intro rest hrest
    unfold Stream.outstanding at hrest ⊢
    rw [hqueue] at hrest
    generalize st.write.flatten = queued at hrest ⊢
    generalize st.writeLoop = writeLoop at hrest ⊢
    cases writeLoop with
    | writing connection data consumed =>
      cases hrest
      exact ⟨data ++ queued, rfl, by rw [List.append_assoc]⟩
    | failing | returned => cases hrest
    | waiting | loading | selecting | measuring | announcing =>
      cases hrest
      exact ⟨queued, rfl, rfl⟩
  refine ⟨h.written, ?_, ?_⟩
  · intro rest hrest
    obtain ⟨rest', hrest', rfl⟩ := hmore rest hrest
    rw [List.append_nil, ← List.append_assoc]
    exact h.waiting rest' hrest'
  · intro hp hl rest hrest
    obtain ⟨rest', hrest', rfl⟩ := hmore rest hrest
    rw [List.append_nil, ← List.append_assoc]
    exact h.complete hp hl rest' hrest'

/-- A packet arrives and the message handler finds the stream. -/
theorem Stream.Upstream.found (h : st.Upstream arrived [] p) (hp : p) (hlisted : st.Listed)
    (payload : List UInt8) : st.Upstream (arrived ++ payload) payload p := by
  have harrived : ∀ rest, st.outstanding = some rest → st.written ++ rest ++ payload = arrived ++ payload := by
    intro rest hrest
    rw [← h.complete hp hlisted rest hrest, List.append_nil]
  refine ⟨h.written.trans (List.prefix_append _ _), ?_, ?_⟩
  · intro rest hrest
    exact ⟨[], (List.append_nil _).trans (harrived rest hrest)⟩
  · intro _ _ rest hrest
    exact harrived rest hrest

/-- A packet arrives after the stream has left the map. -/
theorem Stream.Upstream.missed (h : st.Upstream arrived pending p) (hlisted : ¬ st.Listed)
    (payload : List UInt8) : st.Upstream (arrived ++ payload) pending p := by
  refine ⟨h.written.trans (List.prefix_append _ _), ?_, ?_⟩
  · intro rest hrest
    exact (h.waiting rest hrest).trans (List.prefix_append _ _)
  · exact fun _ hl => absurd hl hlisted

theorem Stream.outstanding_callClose (st : Stream) (notify : Bool) (reason : UInt8) :
    (st.callClose notify reason).outstanding = st.outstanding := by
  unfold Stream.outstanding
  rw [Stream.callClose_writeLoop, Stream.callClose_write]

theorem Stream.written_callClose (st : Stream) (notify : Bool) (reason : UInt8) :
    (st.callClose notify reason).written = st.written := by
  unfold Stream.callClose
  split <;> rfl

theorem Stream.Upstream.callClose (h : st.Upstream arrived pending p) (notify : Bool)
    (reason : UInt8) : (st.callClose notify reason).Upstream arrived pending p :=
  h.congr (Stream.written_callClose st _ _) (Stream.outstanding_callClose st _ _)
    (Stream.callClose_listed _ _).mp

/-- **Step lemma for a stream.**  Its goroutines move bytes from the queue to the connection, in
    order, and stop. -/
theorem Stream.Upstream.step (h : st.Upstream arrived pending p) {serverDone : Bool}
    {a : StreamAction} {effect : Effect} (hs : st.step serverDone a = some (st', effect)) :
    st'.Upstream arrived pending p := by
  have hlisted := fun hl => ((Stream.step_progress hs).listed hl).1
  cases Stream.step_cases hs with
  | published result hc => cases result <;> exact h.congr rfl rfl hlisted
  | connectFailed reason hc =>
    exact h.congr (Stream.written_callClose st _ _) (Stream.outstanding_callClose st _ _) hlisted
  | writeStopped => exact .ended h.written rfl
  | writeReady hw =>
    exact h.congr rfl (by rw [Stream.outstanding, Stream.outstanding, hw]) hlisted
  | writeAbsent hw hconn => exact .ended h.written rfl
  | writeLoaded c hw hconn =>
    exact h.congr rfl (by rw [Stream.outstanding, Stream.outstanding, hw]) hlisted
  | took connection consumed payload rest hw hq =>
    refine h.congr rfl ?_ hlisted
    rw [Stream.outstanding, Stream.outstanding, hw, hq]
    rfl
  | wrote c data consumed written failed hw hle =>
    -- what was taken off the payload is now written
    have hrest : st.outstanding = some (data ++ st.write.flatten) := by
      rw [Stream.outstanding, hw]
    have hmove : ∀ tail : List UInt8, st.written ++ data.take written ++
        (data.drop written ++ st.write.flatten) ++ tail =
        st.written ++ (data ++ st.write.flatten) ++ tail := by
      intro tail
      simp only [List.append_assoc]
      rw [← List.append_assoc (data.take written), List.take_append_drop]
    refine ⟨?_, ?_, ?_⟩
    · refine List.IsPrefix.trans ?_ (h.waiting _ hrest)
      exact ⟨data.drop written ++ st.write.flatten ++ pending, by
        rw [← hmove pending]; simp only [List.append_assoc]⟩
    · intro rest hrest'
      cases hrest'
      rw [hmove]
      exact h.waiting _ hrest
    · intro hp hl rest hrest'
      cases hrest'
      rw [hmove]
      exact h.complete hp (hlisted hl) _ hrest
  | writeEnded c data consumed written failed hw hle =>
    refine .ended ?_ rfl
    have hrest : st.outstanding = some (data ++ st.write.flatten) := by
      rw [Stream.outstanding, hw]
    refine List.IsPrefix.trans ?_ (h.waiting _ hrest)
    refine ⟨data.drop written ++ st.write.flatten ++ pending, ?_⟩
    simp only [List.append_assoc]
    rw [← List.append_assoc (data.take written), List.take_append_drop]
  | counted connection consumed hw hlt =>
    exact h.congr rfl (by rw [Stream.outstanding, Stream.outstanding, hw]; rfl) hlisted
  | filled connection consumed hw hge =>
    exact h.congr rfl (by rw [Stream.outstanding, Stream.outstanding, hw]; rfl) hlisted
  | measured connection hw =>
    exact h.congr rfl (by rw [Stream.outstanding, Stream.outstanding, hw]) hlisted
  | announced connection remaining hw =>
    exact h.congr rfl (by rw [Stream.outstanding, Stream.outstanding, hw]) hlisted
  | announceFailed connection remaining hw => exact .ended h.written rfl
  | writeFailed notify reason hw =>
    refine .ended ?_ rfl
    rw [Stream.written_callClose]
    exact h.written
  | readFailed notify reason hr =>
    exact h.congr (Stream.written_callClose st _ _) (Stream.outstanding_callClose st _ _) hlisted
  | _ => exact h.congr rfl rfl hlisted

/-- A packet that the map leads past the stream. -/
theorem Stream.Upstream.unlisted (h : st.Upstream arrived pending p) (hlisted : ¬ st.Listed) :
    st.Upstream arrived pending q :=
  ⟨h.written, h.waiting, fun _ hl => absurd hl hlisted⟩

/-- A step that does not remove the stream from the map leaves it listed. -/
theorem Stream.step_listed {serverDone : Bool} {a : StreamAction} {effect : Effect}
    (hs : st.step serverDone a = some (st', effect)) (hdelete : effect.delete = false)
    (hl : st.Listed) : st'.Listed := by
  cases Stream.step_cases hs with
  | published result hc => cases result <;> exact hl
  | connectFailed reason hc => exact (Stream.callClose_listed _ _).mpr hl
  | writeFailed notify reason hw => exact (Stream.callClose_listed _ _).mpr hl
  | readFailed notify reason hr => exact (Stream.callClose_listed _ _).mpr hl
  | closeCancelled notify reason hc =>
    intro c heq
    cases heq
    exact .inr rfl
  | closeDeleted notify reason hc => cases hdelete
  | closeClosed notify reason hc => rcases hl _ hc with hstage | hstage <;> cases hstage
  | closeNotified sent notify reason hc => rcases hl _ hc with hstage | hstage <;> cases hstage
  | _ => exact hl

end Streams

/-! ### The map -/

/-- The converse of `Server.Valid`: the map leads to streams that have not executed their
    removal, and their numbers are not the number of the channel itself. -/
structure Server.Mapped (s : Server) : Prop where
  numbered : ∀ (ref : Nat) (st : Stream), s.table[ref]? = some st → st.id ≠ 0
  opening : ∀ packet, s.handler = .opening packet → packet.streamID ≠ 0
  listed : ∀ (id : UInt32) (ref : Nat) (st : Stream), s.lookup id = some ref →
    s.table[ref]? = some st → st.Listed

section Servers

variable {s s' : Server} {a : Action} {ref : Nat}

/-- **Step lemma.** -/
theorem Server.step_mapped (h : s.Mapped) (hv : s.Valid) (hs : s.step a = some s') :
    s'.Mapped := by
  have hstep := (Server.step_cases hs).2
  constructor
  · intro ref st' hget
    cases hstep.origin hget with
    | new packet sent _ _ hh hnew =>
      rw [hnew]
      exact h.opening packet hh
    | touched st hst _ hto =>
      rw [hto.id]
      exact h.numbered ref st hst
    | stepped st action effect hst _ hstream =>
      rw [(Stream.step_progress hstream).id]
      exact h.numbered ref st hst
  · intro packet hh'
    rcases hstep.opening hh' with ⟨hh, -⟩ | ⟨hid, -, -, -⟩
    · exact h.opening packet hh
    · exact hid
  · intro id ref st' hlookup hget
    rcases hstep.lookup hlookup with ⟨hbefore, hkept⟩ | ⟨-, hostname, port, hnew⟩
    · obtain ⟨st, hst, hid⟩ := hv.keys id ref hbefore
      obtain ⟨st₁, hst₁, hfate⟩ := hstep.fate hst
      obtain rfl : st₁ = st' := Option.some.inj (hst₁.symm.trans hget)
      have hlisted := h.listed id ref st hbefore hst
      cases hfate with
      | same | enqueued => exact hlisted
      | called | shut => exact (Stream.callClose_listed _ _).mpr hlisted
      | stepped action effect ha hstream =>
        -- had it removed itself, its number would be free
        refine Stream.step_listed hstream ?_ hlisted
        by_contra hdelete
        exact hkept ref action st st₁ effect ha hst hstream (by simpa using hdelete) hid.symm
    · obtain rfl := Option.some.inj (hnew.symm.trans hget)
      exact Stream.Open.listed rfl

theorem Server.new_mapped : Server.new.Mapped := by
  refine ⟨?_, fun packet hh => Handler.noConfusion hh, ?_⟩
  · intro ref st hst
    simp [Server.new] at hst
  · intro id ref st hlookup
    simp [Server.new, Server.lookup] at hlookup

/-! ### The account of the server -/

/-- The payload that the message handler holds for a stream. -/
def Handler.pending (handler : Handler) (ref : Nat) : List UInt8 :=
  match handler with
  | .enqueueing ref' payload => if ref' = ref then payload else []
  | _ => []

/-- The message handler is closing the stream. -/
def Handler.leaving (handler : Handler) (ref : Nat) : Prop :=
  match handler with
  | .calling ref' _ _ => ref' = ref
  | .awaiting ref' => ref' = ref
  | _ => False

/-- What has arrived for a stream is accounted for; nothing has arrived for one that does not
    exist yet. -/
def Server.Tracks (s : Server) (ref : Nat) (arrived : List UInt8) : Prop :=
  match s.table[ref]? with
  | none => arrived = []
  | some st => st.Upstream arrived (s.handler.pending ref) (¬ s.handler.leaving ref)

variable {arrived : List UInt8} {st : Stream}

theorem Server.Tracks.of_none (hget : s.table[ref]? = none) : s.Tracks ref [] := by
  rw [Server.Tracks, hget]

theorem Server.Tracks.of_some (hget : s.table[ref]? = some st)
    (h : st.Upstream arrived (s.handler.pending ref) (¬ s.handler.leaving ref)) :
    s.Tracks ref arrived := by
  rw [Server.Tracks, hget]
  exact h

theorem Server.Tracks.upstream (h : s.Tracks ref arrived) (hget : s.table[ref]? = some st) :
    st.Upstream arrived (s.handler.pending ref) (¬ s.handler.leaving ref) := by
  rw [Server.Tracks, hget] at h
  exact h

/-- The stream stays as it is, and so does what the handler does with it. -/
theorem Server.Tracks.congr (h : s.Tracks ref arrived) (hget : s'.table[ref]? = s.table[ref]?)
    (hpending : s'.handler.pending ref = s.handler.pending ref)
    (hleaving : s.handler.leaving ref → s'.handler.leaving ref) : s'.Tracks ref arrived := by
  unfold Server.Tracks at h ⊢
  rw [hget, hpending]
  split at h
  · exact h
  · exact h.weaken (mt hleaving)

/-- Somebody calls `close` on a stream. -/
theorem Server.Tracks.callClose (h : s.Tracks ref arrived) (r : Nat) (notify : Bool)
    (reason : UInt8) : (s.callClose r notify reason).Tracks ref arrived := by
  have hhandler := s.callClose_handler r notify reason
  have hget := s.getElem?_callClose r notify reason ref
  split at hget
  · unfold Server.Tracks at h ⊢
    rw [hget, hhandler]
    split at h
    · rename_i hnone
      rw [hnone]
      exact h
    · rename_i st hst
      rw [hst]
      exact h.callClose notify reason
  · refine h.congr hget ?_ ?_ <;> rw [hhandler]
    exact id

theorem Server.Tracks.stepCloser (h : s.Tracks ref arrived) {r : Nat} {call call' : Closer}
    (hc : s.stepCloser call r = some (s', call')) :
    s'.Tracks ref arrived ∧ s'.handler = s.handler := by
  rcases Server.stepCloser_cases hc with rfl | rfl | rfl
  · exact ⟨h, rfl⟩
  · exact ⟨h, rfl⟩
  · exact ⟨h.callClose r false closeVoluntary, s.callClose_handler r false closeVoluntary⟩

/-- A DATA packet for a stream in the map reaches the stream. -/
theorem Server.onMessage_listed (hv : s.Valid) (hst : s.table[ref]? = some st)
    (hlisted : st.Listed) {data : List UInt8} {packet : Frame}
    (hparse : parsePacket data = .ok packet) (hid : packet.streamID = st.id)
    (hnumbered : st.id ≠ 0) (hkind : packet.kind = packetData) :
    (s.onMessage data).handler = .enqueueing ref packet.payload := by
  have hlookup := hv.listed ref st hst hlisted
  have hhand : s.handshaken = true := by
    by_contra hhand
    have hempty := hv.handshake (by simpa using hhand)
    rw [Server.lookup, hempty] at hlookup
    cases hlookup
  rw [Server.onMessage_data hparse (hid ▸ hnumbered) hkind hhand, hid, hlookup]

theorem Server.onMessage_arrived (hv : s.Valid) (hst : s.table[ref]? = some st)
    (hnumbered : st.id ≠ 0) (hlisted : st.Listed) (data : List UInt8) :
    arrivedIn ref ⟨s, .message data, ()⟩ = [] ∨
      (s.onMessage data).handler = .enqueueing ref (arrivedIn ref ⟨s, .message data, ()⟩) := by
  simp only [arrivedIn, hst]
  split
  · rename_i packet hparse
    split
    · rename_i hpacket
      exact .inr (Server.onMessage_listed hv hst hlisted hparse hpacket.1 hnumbered hpacket.2)
    · exact .inl rfl
  · exact .inl rfl

/-- What the handler holds after the first part of `onMessage` has arrived just now, for a stream
    in the map. -/
theorem Server.onMessage_enqueueing (hv : s.Valid) (hm : s.Mapped) (hidle : s.handler = .idle)
    {data payload : List UInt8} (hh : (s.onMessage data).handler = .enqueueing ref payload) :
    ∃ st, s.table[ref]? = some st ∧ st.Listed ∧
      arrivedIn ref ⟨s, .message data, ()⟩ = payload := by
  have hcases := s.onMessage_cases data
  generalize s.onMessage data = s' at hcases hh
  cases hcases with
  | ignored =>
    rw [hidle] at hh
    cases hh
  | @enqueueing packet ref' hparse hid hkind href =>
    cases hh
    obtain ⟨st, hst, hnumber⟩ := hv.keys _ _ href
    refine ⟨st, hst, hm.listed _ _ _ href hst, ?_⟩
    simp only [arrivedIn, hst, hparse]
    rw [if_pos ⟨hnumber.symm, hkind⟩]
  | _ => cases hh

/-- A message arrives. -/
theorem Server.Tracks.onMessage (h : s.Tracks ref arrived) (hv : s.Valid) (hm : s.Mapped)
    (hidle : s.handler = .idle) (data : List UInt8) :
    (s.onMessage data).Tracks ref (arrived ++ arrivedIn ref ⟨s, .message data, ()⟩) := by
  have hget : (s.onMessage data).table[ref]? = s.table[ref]? := by rw [Server.onMessage_table]
  cases hst : s.table[ref]? with
  | none =>
    have harrived : arrived = [] := by
      rw [Server.Tracks, hst] at h
      exact h
    have hin : arrivedIn ref ⟨s, .message data, ()⟩ = [] := by simp only [arrivedIn, hst]
    rw [harrived, hin]
    exact .of_none (hget.trans hst)
  | some st =>
    have hup := h.upstream hst
    rw [hidle] at hup
    refine .of_some (hget.trans hst) ?_
    by_cases hh : ∃ payload, (s.onMessage data).handler = .enqueueing ref payload
    · obtain ⟨payload, hh⟩ := hh
      obtain ⟨st', hst', hlisted, hin⟩ := Server.onMessage_enqueueing hv hm hidle hh
      obtain rfl : st = st' := Option.some.inj (hst.symm.trans hst')
      rw [hh, hin]
      simp only [Handler.pending, if_pos]
      exact (hup.found not_false hlisted payload).weaken fun _ => not_false
    · have hpending : (s.onMessage data).handler.pending ref = [] := by
        unfold Handler.pending
        split
        · rename_i ref' payload heq
          split
          · rename_i hsame
            exact absurd ⟨payload, hsame ▸ heq⟩ hh
          · rfl
        · rfl
      rw [hpending]
      by_cases hlisted : st.Listed
      · rcases Server.onMessage_arrived hv hst (hm.numbered ref st hst) hlisted data with hin | hin
        · rw [hin, List.append_nil]
          exact hup.weaken fun _ => not_false
        · exact absurd ⟨_, hin⟩ hh
      · exact (hup.missed hlisted _).unlisted hlisted

/-- A new stream. -/
theorem Server.Tracks.insert (h : s.Tracks ref arrived) {packet : Frame}
    (hh : s.handler = .opening packet) : (s.insert packet).Tracks ref arrived := by
  rcases s.insert_cases packet with ⟨reason, -, heq⟩ | ⟨-, -, heq⟩ <;> rw [heq]
  · exact h.congr rfl (by rw [hh]; rfl) (by rw [hh]; exact False.elim)
  by_cases hlt : ref < s.table.length
  · exact h.congr (List.getElem?_append_left hlt) (by rw [hh]; rfl) (by rw [hh]; exact False.elim)
  · have hnone : s.table[ref]? = none := List.getElem?_eq_none (by omega)
    have harrived : arrived = [] := by
      rw [Server.Tracks, hnone] at h
      exact h
    rw [harrived]
    unfold Server.Tracks
    simp only [List.getElem?_append_right (Nat.le_of_not_lt hlt), List.getElem?_singleton]
    split
    · trivial
    · rename_i hget
      split at hget
      · cases hget
        exact Stream.upstream_new _ _ _ _
      · cases hget

/-- The function under `closeOnce` has returned, so the stream is out of the map. -/
theorem Server.closeReturned_not_listed (hret : s.closeReturned ref = true)
    (hst : s.table[ref]? = some st) : ¬ st.Listed := by
  intro hlisted
  simp only [Server.closeReturned, hst] at hret
  split at hret
  · rename_i hclosing
    rcases hlisted _ hclosing with hstage | hstage <;> cases hstage
  · cases hret

end Servers

/-! ### Runs -/

end WebVPN.Wisp
