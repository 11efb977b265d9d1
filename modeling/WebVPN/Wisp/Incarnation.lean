import WebVPN.Wisp.Ownership

namespace WebVPN.Wisp

open WebVPN.Library

/-!
# Wisp — several streams with one number

When a stream has ended, the client may ask for its number again.  The old stream is then out of the
map, but its goroutines may still hold bytes of its connection, a capacity to announce or the CLOSE.

* `Stream.quiet` — a stream that has nothing to send any more, and `Stream.quiet_step` — it stays so;
* `Server.expects` — the packets of a client that knows which of its streams are open;
* `Server.separate` — the steps that keep the streams of one number apart: a number is taken again only
  when the earlier streams are quiet, and from then on only expected packets come for it;
* `Server.Apart`, `Server.Apart.step` — only the newest stream of a number is not quiet, and nothing is
  refused on a number that was taken again;
* `run_incarnations` — what is sent for a number that was taken again comes from its newest stream, and
  no stream takes another one out of the map;
* `mixes_incarnations` — otherwise the old stream's DATA and CLOSE come out as the new stream's.
-/

/-! ### Streams with nothing to send -/

/-- `writeLoop` will announce nothing: it has ended, or it will find no connection. -/
def WritePC.silent (conn : Option Conn) : WritePC → Bool
  | .returned | .failing _ _ => true
  | .waiting | .loading => conn = none
  | _ => false

/-- `readLoop` will forward nothing. -/
def ReadPC.silent : ReadPC → Bool
  | .absent | .reading none | .failing _ _ | .returned => true
  | _ => false

/-- The stream has ended and has nothing to send any more. -/
def Stream.quiet (st : Stream) : Bool :=
  st.closing.any (fun closing => closing.stage = .done) && st.cancelled &&
    st.writeLoop.silent st.conn && st.readLoop.silent

/-- Without a connection there is even less to announce. -/
theorem WritePC.silent_none {conn : Option Conn} {writeLoop : WritePC} (h : writeLoop.silent conn = true) :
    writeLoop.silent none = true := by
  cases writeLoop with
  | returned | failing | waiting | loading => rfl
  | selecting | writing | measuring | announcing => cases h

section Streams

variable {st st' : Stream} {serverDone : Bool} {a : StreamAction} {effect : Effect}

/-- What makes a stream quiet. -/
theorem Stream.quiet_iff : st.quiet = true ↔
    (∃ closing, st.closing = some closing ∧ closing.stage = .done) ∧ st.cancelled = true ∧
      st.writeLoop.silent st.conn = true ∧ st.readLoop.silent = true := by
  simp [Stream.quiet, Option.any_eq_true, and_assoc]

/-- A call of `close` finds that the function under `closeOnce` has run. -/
theorem Stream.callClose_of_quiet (h : st.quiet = true) (notify : Bool) (reason : UInt8) :
    st.callClose notify reason = st := by
  obtain ⟨⟨closing, hclosing, -⟩, -⟩ := Stream.quiet_iff.mp h
  unfold Stream.callClose
  rw [hclosing]

theorem Stream.quiet_touched (h : st.quiet = true) (htouched : st.Touched st') : st'.quiet = true := by
  cases htouched with
  | same => exact h
  | enqueued payload => exact h
  | called notify reason =>
    rw [Stream.callClose_of_quiet h]
    exact h

/-- **Quiet streams stay quiet.**  A dial that returns now finds the context cancelled, so that neither
    loop gets a connection. -/
theorem Stream.quiet_step (h : st.quiet = true) (hs : st.step serverDone a = some (st', effect)) :
    st'.quiet = true := by
  obtain ⟨⟨closing, hclosing, hdone⟩, hcancelled, hwrite, hread⟩ := Stream.quiet_iff.mp h
  -- another place for `writeLoop` or `readLoop`
  have hmove : ∀ {writeLoop : WritePC} {readLoop : ReadPC}, writeLoop.silent st.conn = true →
      readLoop.silent = true →
      Stream.quiet { st with writeLoop := writeLoop, readLoop := readLoop } = true :=
    fun hw hr => Stream.quiet_iff.mpr ⟨⟨closing, hclosing, hdone⟩, hcancelled, hw, hr⟩
  cases Stream.step_cases hs with
  | dialed result hostname port _ => exact h
  | published result _ =>
    rw [hcancelled, Bool.true_or]
    -- the connection is closed and not published
    have hsilent : st.writeLoop.silent none = true := WritePC.silent_none hwrite
    cases result with
    | connection c =>
      exact Stream.quiet_iff.mpr ⟨⟨closing, hclosing, hdone⟩, hcancelled, hsilent, rfl⟩
    | error e =>
      exact Stream.quiet_iff.mpr ⟨⟨closing, hclosing, hdone⟩, hcancelled, hsilent, hread⟩
  | connectFailed reason _ =>
    rw [Stream.callClose_of_quiet h]
    exact h
  | writeStopped => exact hmove rfl hread
  | writeReady hw =>
    refine hmove ?_ hread
    rw [hw] at hwrite
    exact hwrite
  | writeAbsent _ _ => exact hmove rfl hread
  | writeNil written failed => exact h
  | writeFailed notify reason hw =>
    rw [Stream.callClose_of_quiet h]
    exact hmove rfl hread
  | readNil data err _ => exact h
  | readFailed notify reason hr =>
    rw [Stream.callClose_of_quiet h]
    exact hmove hwrite rfl
  | closeCancelled notify reason hc | closeDeleted notify reason hc | closeClosed notify reason hc =>
    -- the function under `closeOnce` is at its end
    obtain rfl := Option.some.inj (hclosing.symm.trans hc)
    cases hdone
  | closeNotified sent notify reason hc =>
    obtain rfl := Option.some.inj (hclosing.symm.trans hc)
    cases hdone
  -- the loops of a quiet stream are at none of the other places
  | writeLoaded c hw hconn =>
    rw [hw, hconn] at hwrite
    cases hwrite
  | took _ _ _ _ hw _ | wrote _ _ _ _ _ hw _ | writeEnded _ _ _ _ _ hw _ | counted _ _ hw _ | filled _ _ hw _
  | measured _ hw | announced _ _ hw | announceFailed _ _ hw =>
    rw [hw] at hwrite
    cases hwrite
  | readNothing _ _ hr | read _ _ _ hr _ | forwarded _ _ _ hr | forwardFailed _ _ _ hr =>
    rw [hr] at hread
    cases hread

/-- A quiet stream sends nothing. -/
theorem Stream.quiet_sends (h : st.quiet = true) (hs : st.step serverDone a = some (st', effect)) :
    effect.sent = [] := by
  obtain ⟨⟨closing, hclosing, hdone⟩, -, hwrite, hread⟩ := Stream.quiet_iff.mp h
  cases Stream.step_cases hs with
  | announced connection remaining hw =>
    rw [hw] at hwrite
    cases hwrite
  | forwarded connection data err hr =>
    rw [hr] at hread
    cases hread
  | closeNotified sent notify reason hc =>
    obtain rfl := Option.some.inj (hclosing.symm.trans hc)
    cases hdone
  | _ => rfl

end Streams

/-! ### Streams of one number -/

/-- The number was taken more than once. -/
def Server.reopened (s : Server) (id : UInt32) : Bool := 1 < s.table.countP (fun st => st.id = id)

/-- The packet of a client that knows which of its streams are open and how many there may be: CLOSE at
    any time, DATA for an open stream, and a complete CONNECT while the number is free and there is room. -/
def Server.expects (s : Server) (packet : Frame) : Bool :=
  if packet.kind = packetConnect then
    (s.lookup packet.streamID).isNone && s.streams.length < maxConcurrentStreams &&
      4 ≤ packet.payload.length && packet.payload.head? = some streamTCP &&
      connectHostname packet.payload ≠ [] && connectPort packet.payload ≠ 0
  else if packet.kind = packetData then (s.lookup packet.streamID).isSome
  else packet.kind = packetClose

/-- A step that keeps the streams of one number apart. -/
def Server.separate (s : Server) : Action → Bool
  | .message data =>
    match parsePacket data with
    | .ok packet => !s.reopened packet.streamID || s.expects packet
    | .error _ => true
  | .handle _ =>
    match s.handler with
    | .opening packet => s.table.all (fun st => st.id ≠ packet.streamID || st.quiet)
    | _ => true
  | _ => true

/-- Of the streams of one number only the newest is not quiet, and on a number that was taken again
    nothing is refused: a stream that is to be opened for it will be, and no reply waits for it. -/
structure Server.Apart (s : Server) : Prop where
  quiet : ∀ (ref ref' : Nat) st st', s.table[ref]? = some st → s.table[ref']? = some st' → ref < ref' →
    st.id = st'.id → st.quiet = true
  free : ∀ packet, s.handler = .opening packet → s.lookup packet.streamID = none
  room : ∀ packet, s.handler = .opening packet → s.reopened packet.streamID = true →
    s.streams.length < maxConcurrentStreams
  unanswered : ∀ reply shutdown, s.handler = .replying reply shutdown →
    s.reopened reply.streamID = false

/-- The stream with reference `ref` is the newest one of this number. -/
def Server.Newest (s : Server) (id : UInt32) (ref : Nat) : Prop :=
  (∃ st, s.table[ref]? = some st ∧ st.id = id) ∧
    ∀ (ref' : Nat) st', s.table[ref']? = some st' → st'.id = id → ref' ≤ ref

section Servers

variable {s s' : Server} {a : Action}

/-- The stream that was there keeps its number, and stays quiet. -/
theorem Stream.Origin.quiet {ref : Nat} {st st' : Stream} (horigin : Stream.Origin s a ref st')
    (hst : s.table[ref]? = some st) : st'.id = st.id ∧ (st.quiet = true → st'.quiet = true) := by
  cases horigin with
  | new packet _ href _ _ _ =>
    have hlt := (List.getElem?_eq_some_iff.mp hst).1
    omega
  | touched current hcurrent _ htouched =>
    obtain rfl := Option.some.inj (hst.symm.trans hcurrent)
    refine ⟨?_, fun hquiet => Stream.quiet_touched hquiet htouched⟩
    cases htouched with
    | same => rfl
    | enqueued payload => rfl
    | called notify reason => exact st.callClose_id notify reason
  | stepped current action effect hcurrent _ hstep =>
    obtain rfl := Option.some.inj (hst.symm.trans hcurrent)
    exact ⟨(Stream.step_progress hstep).id, fun hquiet => Stream.quiet_step hquiet hstep⟩

/-- A number is taken again only when the handler, then idle, has inserted a stream. -/
theorem Server.Step.reopened (hstep : s.Step a s') (hbusy : s'.handler ≠ .idle) (id : UInt32) :
    s'.reopened id = s.reopened id := by
  have hlength : s'.table.length = s.table.length := by
    cases hstep.registers with
    | kept _ hlength _ => exact hlength
    | inserted sent packet _ _ _ _ heq => exact absurd (heq ▸ rfl) hbusy
    | removed _ _ _ _ _ _ _ _ _ _ hlength => exact hlength
  have hids : s'.table.map Stream.id = s.table.map Stream.id := by
    refine List.ext_getElem? fun ref => ?_
    rw [List.getElem?_map, List.getElem?_map]
    cases hst : s.table[ref]? with
    | none => rw [List.getElem?_eq_none (hlength ▸ List.getElem?_eq_none_iff.mp hst)]
    | some st =>
      obtain ⟨st', hst', hfate⟩ := hstep.fate hst
      rw [hst', Option.map_some, Option.map_some, hfate.id]
  have hcount : ∀ table : List Stream, table.countP (fun st => st.id = id)
      = (table.map Stream.id).countP (fun id' => id' = id) := fun table => by
    rw [List.countP_map]
    rfl
  rw [Server.reopened, Server.reopened, hcount, hcount, hids]

/-- The handler replies on number 0, or it refuses a packet that is not expected. -/
theorem Server.onMessage_replying {data : List UInt8} {reply : Frame} {shutdown : Bool}
    (hidle : s.handler = .idle) (h : (s.onMessage data).handler = .replying reply shutdown) :
    reply.streamID = 0 ∨ ∃ packet, parsePacket data = .ok packet ∧
      packet.streamID = reply.streamID ∧ s.expects packet = false := by
  have habort : ∀ {reply shutdown}, s.abort.handler = .replying reply shutdown →
      reply.streamID = 0 := fun h => (Handler.replying.inj h).1 ▸ rfl
  have hrefuse : ∀ {packet : Frame} {reason reply shutdown}, parsePacket data = .ok packet →
      s.expects packet = false → (s.refuse packet.streamID reason).handler = .replying reply shutdown →
      ∃ packet, parsePacket data = .ok packet ∧ packet.streamID = reply.streamID ∧
        s.expects packet = false :=
    fun hparse hout h => ⟨_, hparse, (Handler.replying.inj h).1 ▸ rfl, hout⟩
  unfold Server.onMessage at h
  split at h
  · exact .inl (habort h)
  rename_i packet hparse
  split at h
  · unfold Server.handleHandshake at h
    split at h
    · exact .inl (habort h)
    · split at h
      · rw [hidle] at h
        cases h
      · cases h
  split at h
  · exact .inl (habort h)
  right
  split at h
  · rename_i hconnect
    split at h
    · rename_i hused
      exact hrefuse hparse (by simp [Server.expects, hconnect, hused]) h
    · unfold Server.openStream at h
      split at h
      · rename_i hshort
        refine hrefuse hparse ?_ h
        rcases hshort with hshort | hother
        · simp [Server.expects, hconnect, Nat.not_le_of_lt hshort]
        · simp [Server.expects, hconnect, hother]
      · split at h
        · rename_i hempty
          refine hrefuse hparse ?_ h
          rcases hempty with hname | hport
          · simp [Server.expects, hconnect, hname]
          · simp [Server.expects, hconnect, hport]
        · cases h
  rename_i hconnect
  split at h
  · rename_i hdata
    split at h
    · rename_i hnone
      refine hrefuse hparse ?_ h
      rw [Server.expects, if_neg hconnect, if_pos hdata, hnone]
      rfl
    · cases h
  rename_i hdata
  split at h
  · split at h
    · rw [hidle] at h
      cases h
    · cases h
  · rename_i hclose
    exact hrefuse hparse (by simp [Server.expects, hconnect, hdata, hclose]) h

/-- No stream has number 0. -/
theorem Server.Mapped.reopened_zero (h : s.Mapped) : s.reopened 0 = false := by
  have hnone : s.table.countP (fun st => st.id = 0) = 0 := by
    rw [List.countP_eq_zero]
    intro st hst hzero
    obtain ⟨ref, hget⟩ := List.mem_iff_getElem?.mp hst
    exact h.numbered ref st hget (of_decide_eq_true hzero)
  rw [Server.reopened, hnone]
  rfl

theorem Server.Apart.step_quiet (h : s.Apart) (hstep : s.Step a s') (hseparate : s.separate a = true)
    {ref ref' : Nat} {st st' : Stream} (hst : s'.table[ref]? = some st)
    (hst' : s'.table[ref']? = some st') (hlt : ref < ref') (hid : st.id = st'.id) : st.quiet = true := by
  have horigin := hstep.origin hst
  have horigin' := hstep.origin hst'
  -- both streams were there before, or the newer one is new
  by_cases hnew : ref' < s.table.length
  · have hget := List.getElem?_eq_getElem (Nat.lt_trans hlt hnew)
    have hget' := List.getElem?_eq_getElem hnew
    obtain ⟨hsame, hquiet⟩ := horigin.quiet hget
    obtain ⟨hsame', -⟩ := horigin'.quiet hget'
    exact hquiet (h.quiet ref ref' _ _ hget hget' hlt (hsame.symm.trans (hid.trans hsame')))
  · cases horigin' with
    | touched current hcurrent _ _ =>
      exact absurd (List.getElem?_eq_some_iff.mp hcurrent).1 hnew
    | stepped current action effect hcurrent _ _ =>
      exact absurd (List.getElem?_eq_some_iff.mp hcurrent).1 hnew
    | new packet sent href ha hopening hnewStream =>
      subst ha hnewStream
      have hget := List.getElem?_eq_getElem (href ▸ hlt)
      obtain ⟨hsame, hquiet⟩ := horigin.quiet hget
      -- the number was taken again, and the condition is about the streams it had
      have hall : s.table.all (fun st => st.id ≠ packet.streamID || st.quiet) = true := by
        simpa only [Server.separate, hopening] using hseparate
      have hold := List.all_eq_true.mp hall _ (List.mem_of_getElem? hget)
      refine hquiet ?_
      simpa [hsame.symm.trans hid, Stream.new] using hold

theorem Server.Apart.step_free (h : s.Apart) (hstep : s.Step a s') {packet : Frame}
    (hh' : s'.handler = .opening packet) : s'.lookup packet.streamID = none := by
  rcases hstep.opening hh' with ⟨hh, -⟩ | ⟨-, -, hfree, rfl⟩
  · exact hstep.stays_free (h.free packet hh) (by simp [hh'])
  · exact hfree

theorem Server.Apart.step_room (h : s.Apart) (hstep : s.Step a s') (hseparate : s.separate a = true)
    {packet : Frame} (hh' : s'.handler = .opening packet) (hreopened : s'.reopened packet.streamID = true) :
    s'.streams.length < maxConcurrentStreams := by
  have hbusy : s'.handler ≠ .idle := by simp [hh']
  rw [hstep.reopened hbusy] at hreopened
  cases hstep.turns with
  | same hh _ =>
    have hroom := h.room packet (hh ▸ hh') hreopened
    cases hstep.registers with
    | kept hmap _ _ => rwa [hmap]
    | inserted sent packet' _ _ _ _ heq => exact absurd (heq ▸ rfl) hbusy
    | removed _ _ _ _ _ _ _ _ _ hmap _ =>
      rw [hmap]
      exact Nat.lt_of_le_of_lt (List.length_filter_le _ _) hroom
  | received data ha hidle hr _ =>
    subst ha
    cases hr with
    | ignored =>
      rw [hidle] at hh'
      cases hh'
    | @opening packet' hparse hid hkind _ _ =>
      obtain rfl : packet' = packet := Handler.opening.inj hh'
      simp only [Server.separate, hparse, hreopened, Bool.not_true, Bool.false_or, Server.expects,
        hkind, if_true, Bool.and_eq_true, decide_eq_true_eq] at hseparate
      exact hseparate.1.1.1.1.2
    | _ => cases hh'
  | refused _ _ _ _ heq =>
    rw [heq] at hh'
    cases hh'
  | overflowed _ _ _ _ _ _ heq =>
    rw [heq] at hh'
    cases hh'
  | rests _ hopening _ _ => exact absurd hh' (hopening packet)

theorem Server.Apart.step_unanswered (h : s.Apart) (hmapped : s.Mapped) (hstep : s.Step a s')
    (hseparate : s.separate a = true) {reply : Frame} {shutdown : Bool}
    (hh' : s'.handler = .replying reply shutdown) : s'.reopened reply.streamID = false := by
  rw [hstep.reopened (by simp [hh'])]
  cases hstep.turns with
  | same hh _ => exact h.unanswered reply shutdown (hh ▸ hh')
  | received data ha hidle _ heq =>
    subst ha
    rw [heq] at hh'
    rcases Server.onMessage_replying hidle hh' with hzero | ⟨packet, hparse, hid, hout⟩
    · rw [hzero]
      exact hmapped.reopened_zero
    · simpa only [Server.separate, hparse, hout, Bool.or_false, Bool.not_eq_true', hid] using hseparate
  | refused packet reason hh hreason heq =>
    rw [heq] at hh'
    obtain rfl := (Handler.replying.inj hh').1
    -- the number is free, and a number that was taken again has room
    rcases hreason with ⟨hused, -⟩ | ⟨hfull, -⟩
    · rw [h.free packet hh] at hused
      cases hused
    · rw [← Bool.not_eq_true]
      exact fun hreopened => Nat.not_lt.mpr hfull (h.room packet hh hreopened)
  | overflowed _ _ _ _ _ _ heq =>
    rw [heq] at hh'
    cases hh'
  | rests hreplying _ _ _ => exact absurd hh' (hreplying reply shutdown)

/-- **Step lemma.** -/
theorem Server.Apart.step (h : s.Apart) (hmapped : s.Mapped) (hs : s.step a = some s')
    (hseparate : s.separate a = true) : s'.Apart := by
  have hstep := (Server.step_cases hs).2
  exact ⟨fun _ _ _ _ => h.step_quiet hstep hseparate, fun _ => h.step_free hstep,
    fun _ => h.step_room hstep hseparate, fun _ _ => h.step_unanswered hmapped hstep hseparate⟩

theorem Server.new_apart : Server.new.Apart := by
  refine ⟨?_, fun packet hh => Handler.noConfusion hh, fun packet hh => Handler.noConfusion hh, ?_⟩
  · intro ref ref' st st' hst
    cases hst
  · intro reply shutdown _
    rfl

/-- A goroutine takes only its own stream out of the map: when it does, the map still leads to it. -/
theorem Server.Valid.keeps_others (hv : s.Valid) {ref ref' : Nat} {action : StreamAction} {id : UInt32}
    (hs : s.Step (.stream ref action) s') (hother : s.lookup id = some ref') (hne : ref' ≠ ref) :
    s'.lookup id = some ref' := by
  cases hs with
  | stream _ _ st st' effect hst hstep =>
    show (if effect.delete then s.streams.filter (fun p => p.1 ≠ st.id) else s.streams).lookup id
      = some ref'
    by_cases hdelete : effect.delete = true
    · have hown := hv.listed ref st hst ((Stream.step_progress hstep).deletes hdelete)
      have hid : id ≠ st.id := by
        rintro rfl
        exact hne (Option.some.inj (hother.symm.trans hown))
      rw [if_pos hdelete, lookup_filter_ne, if_neg hid]
      exact hother
    · rw [if_neg hdelete]
      exact hother

/-- What is sent for a number that was taken again comes from its newest stream. -/
theorem Server.Apart.emitted (h : s.Apart) (hmapped : s.Mapped) (hs : s.step a = some s') {f : Frame}
    (hf : f ∈ s.emitted s') (hreopened : s.reopened f.streamID = true) :
    ∃ ref action, a = .stream ref action ∧ s.Newest f.streamID ref := by
  rcases Server.mem_emitted hs hf with ⟨shutdown, rfl, hh⟩ | rfl |
    ⟨ref, action, st, st', effect, rfl, hst, hstep, hmem⟩
  · -- no reply waits for such a number
    rw [h.unanswered f shutdown hh] at hreopened
    cases hreopened
  · have hzero := hmapped.reopened_zero
    rw [show s.reopened 0 = true from hreopened] at hzero
    cases hzero
  · have hid : f.streamID = st.id := Stream.step_sends hstep hmem
    refine ⟨ref, action, rfl, ⟨st, hst, hid.symm⟩, fun ref' st' hst' hid' => ?_⟩
    -- were there a newer stream, this one would be quiet
    apply Nat.le_of_not_lt
    intro hlt
    have hquiet := h.quiet ref ref' st st' hst hst' hlt (hid.symm.trans hid'.symm)
    rw [Stream.quiet_sends hquiet hstep] at hmem
    cases hmem

/-- **Streams of one number do not mix.**  In every run, a goroutine of one stream takes no other stream
    out of the map.  In a run in which a number is taken again only when its streams are quiet, and only
    expected packets come for it then, what is sent for it comes from a goroutine of its newest stream. -/
theorem run_incarnations {h : List (Transition Server Action Unit)} (hr : system.Run h s) :
    (∀ t ∈ h, ∀ ref action s' id ref', t.action = .stream ref action →
      t.before.step t.action = some s' → t.before.lookup id = some ref' → ref' ≠ ref →
      s'.lookup id = some ref') ∧
    ((∀ t ∈ h, t.before.separate t.action = true) →
      ∀ t ∈ h, ∀ s', t.before.step t.action = some s' → ∀ f ∈ t.before.emitted s',
        t.before.reopened f.streamID = true →
        ∃ ref action, t.action = .stream ref action ∧ t.before.Newest f.streamID ref) := by
  have hmapped : ∀ t ∈ h, t.before.Mapped ∧ t.before.Valid := by
    intro t ht
    obtain ⟨h₁, h₂, rfl⟩ := List.append_of_mem ht
    exact run_mapped hr.split.1
  refine ⟨?_, fun hseparate => ?_⟩
  · intro t ht ref action s' id ref' ha hstep hother hne
    have hstep' := (Server.step_cases hstep).2
    rw [ha] at hstep'
    exact (hmapped t ht).2.keeps_others hstep' hother hne
  · have hok : ∀ t ∈ h, t.before.separate t.action = true ∧ t.before.Mapped :=
      fun t ht => ⟨hseparate t ht, (hmapped t ht).1⟩
    have hapart : ∀ s₁ ∈ System.visited h s, s₁.Apart := by
      refine hr.invariant_under hok Server.new_apart ?_
      intro t s₁ ⟨hnow, hmap⟩ hbefore hstep
      exact hbefore.step hmap (system_step hstep) hnow
    intro t ht s' hstep f hf hreopened
    have hbefore : t.before ∈ System.visited h s := List.mem_cons_of_mem _ (List.mem_map_of_mem ht)
    exact (hapart _ hbefore).emitted (hmapped t ht).1 hstep hf hreopened

end Servers

/-! ### A number that is taken again in order, and one that is not -/

/-- The dial of stream 1 fails, all its goroutines end, and the number is taken again. -/
def lateReuse : List Action :=
  refusedDial ++
    [.stream 0 .writeLoopReady, .stream 0 .writeLoopLoads, sampleConnect 1, .handle true,
      .stream 1 (.dialReturns (.connection 8)), .stream 1 .publish,
      .stream 1 (.readLoopReads [43] none), .stream 1 (.readLoopSends true)]

theorem run_incarnations_of_lateReuse : ∃ t h s, system.Run (t :: h) s ∧
    ⟨packetData, 1, [43]⟩ ∈ t.before.emitted s ∧
    ∃ ref action, t.action = .stream ref action ∧ t.before.Newest 1 ref := by
  obtain ⟨h, s, hr, hc⟩ := System.exists_run_of_exec (S := system)
    (P := fun h s => match h with
      | [] => false
      | t :: _ => decide (⟨packetData, 1, [43]⟩ ∈ t.before.emitted s ∧ t.before.reopened 1 = true ∧
          h.all (fun t => t.before.separate t.action) = true))
    lateReuse (by decide +kernel)
  match h with
  | [] => cases hc
  | t :: h =>
    obtain ⟨hemitted, hreopened, hseparate⟩ := of_decide_eq_true hc
    have hstep := system_step (System.Run.cons_inv hr).2
    refine ⟨t, h, s, hr, hemitted, ?_⟩
    exact (run_incarnations hr).2 (List.all_eq_true.mp hseparate) t List.mem_cons_self s hstep _
      hemitted hreopened

/-- The client closes stream 1 and takes its number again while `readLoop` holds a byte of the old
    connection. -/
def reuseWithData : List Action :=
  openStreamOne ++
    [.stream 0 (.dialReturns (.connection 7)), .stream 0 .publish, .stream 0 (.readLoopReads [42] none),
      .message (Frame.packet ⟨packetClose, 1, [closeVoluntary]⟩), .handle true,
      .stream 0 .closeCancels, .stream 0 .closeDeletes, .stream 0 .closeClosesConn, .handle true,
      sampleConnect 1, .handle true, .stream 0 (.readLoopSends true)]

/-- **Streams of one number mix.**  Number 1 leads to the new stream, and the old one still sends its
    CLOSE, or a DATA frame with a byte of its own connection, under that number. -/
theorem mixes_incarnations :
    (∃ t h s, system.Run (t :: h) s ∧ t.before.lookup 1 = some 1 ∧
      t.action = .stream 0 (.closeNotifies true) ∧
      closeFrame 1 closeVoluntary ∈ t.before.emitted s) ∧
    ∃ t h s, system.Run (t :: h) s ∧ t.before.lookup 1 = some 1 ∧
      t.action = .stream 0 (.readLoopSends true) ∧ ⟨packetData, 1, [42]⟩ ∈ t.before.emitted s := by
  have hrun : ∀ (schedule : List Action) (f : Frame) (a : Action),
      (system.exec schedule).any (fun r => match r.1 with
        | [] => false
        | t :: _ => decide (t.before.lookup 1 = some 1 ∧ t.action = a ∧ f ∈ t.before.emitted r.2))
        = true →
      ∃ t h s, system.Run (t :: h) s ∧ t.before.lookup 1 = some 1 ∧ t.action = a ∧
        f ∈ t.before.emitted s := by
    intro schedule f a hexec
    obtain ⟨h, s, hr, hc⟩ := System.exists_run_of_exec (S := system)
      (P := fun h s => match h with
        | [] => false
        | t :: _ => decide (t.before.lookup 1 = some 1 ∧ t.action = a ∧ f ∈ t.before.emitted s))
      schedule hexec
    match h with
    | [] => cases hc
    | t :: h => exact ⟨t, h, s, hr, of_decide_eq_true hc⟩
  exact ⟨hrun earlyReuse _ _ (by decide +kernel), hrun reuseWithData _ _ (by decide +kernel)⟩

end WebVPN.Wisp
