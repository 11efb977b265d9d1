import WebVPN.Wisp.Registry

namespace WebVPN.Wisp

open WebVPN.Library

/-!
# Wisp — what a CLOSE frame means

A CLOSE frame tells the client that a stream number is free.  The server sends it from two
places: the message handler refuses a packet, or the function under `closeOnce` reports the end
of a stream that it has removed from the map.  Neither looks at the map when it sends.

* `Server.orderly` — the steps after which the two sides still agree: a CONNECT, CONTINUE or INFO
  arrives only for a number that is not in use, and a number is taken again only when its last
  stream has reported its end;
* `Server.Agrees`, `Server.step_agrees` — the invariant;
* `run_closesDead` — in a run of such steps a CLOSE is sent only for a number that is not in use;
* `closes_live` — otherwise it may be sent for a stream that stays open.
-/

/-- The stream is out of the map and will still send its CLOSE. -/
def Stream.owesClose (st : Stream) : Bool :=
  match st.closing with
  | some ⟨.closingConn, notify, _⟩ => notify
  | some ⟨.notifying, _, _⟩ => true
  | _ => false

/-- A step that does not make client and server disagree. -/
def Server.orderly (s : Server) : Action → Bool
  | .message data =>
    match parsePacket data with
    | .ok packet =>
      packet.kind = packetData || packet.kind = packetClose || (s.lookup packet.streamID).isNone
    | .error _ => true
  | .handle _ =>
    match s.handler with
    | .opening packet => s.table.all (fun st => st.id ≠ packet.streamID || !st.owesClose)
    | _ => true
  | _ => true

/-- Every CLOSE that is about to be sent is for a number that is not in use. -/
structure Server.Agrees (s : Server) : Prop where
  replying : ∀ reply shutdown, s.handler = .replying reply shutdown →
    reply.kind = packetClose → reply.streamID ≠ 0 → s.lookup reply.streamID = none
  opening : ∀ packet, s.handler = .opening packet → s.lookup packet.streamID = none
  owing : ∀ (ref : Nat) (st : Stream), s.table[ref]? = some st → st.owesClose = true →
    s.lookup st.id = none

section Streams

variable {st st' : Stream} {serverDone : Bool} {a : StreamAction} {effect : Effect}

/-- A call of `close` makes nobody owe a CLOSE. -/
theorem Stream.owesClose_callClose (st : Stream) (notify : Bool) (reason : UInt8) :
    (st.callClose notify reason).owesClose = st.owesClose := by
  unfold Stream.callClose
  split
  · rename_i hnone
    rw [Stream.owesClose, Stream.owesClose, hnone]
  · rfl

/-- A stream owes a CLOSE from its removal on. -/
theorem Stream.step_owesClose (h : st.step serverDone a = some (st', effect))
    (howes : st'.owesClose = true) : st.owesClose = true ∨ effect.delete = true := by
  cases Stream.step_cases h with
  | closeDeleted _ _ _ => exact .inr rfl
  | closeCancelled _ _ _ => cases howes
  | closeClosed notify reason hc =>
    refine .inl ?_
    cases notify with
    | true => rw [Stream.owesClose, hc]
    | false => cases howes
  | closeNotified _ _ _ _ => cases howes
  | published result _ => cases result <;> exact .inl howes
  | connectFailed _ _ => exact .inl ((Stream.owesClose_callClose st _ _).symm.trans howes)
  | writeFailed _ _ _ => exact .inl ((Stream.owesClose_callClose st _ _).symm.trans howes)
  | readFailed _ _ _ => exact .inl ((Stream.owesClose_callClose st _ _).symm.trans howes)
  | _ => exact .inl howes

/-- A stream sends under its own number. -/
theorem Stream.step_sends (hs : st.step serverDone a = some (st', effect)) {f : Frame}
    (hf : f ∈ effect.sent) : f.streamID = st.id := by
  cases Stream.step_cases hs with
  | announced connection remaining hw => exact List.mem_singleton.mp hf ▸ rfl
  | forwarded connection data err hr => exact List.mem_singleton.mp hf ▸ rfl
  | closeNotified sent notify reason hc =>
    cases sent with
    | false => cases hf
    | true => exact List.mem_singleton.mp hf ▸ rfl
  | _ => cases hf

/-- A stream sends a CLOSE only if it owes one. -/
theorem Stream.step_sends_close (h : st.step serverDone a = some (st', effect)) {f : Frame}
    (hf : f ∈ effect.sent) (hkind : f.kind = packetClose) :
    f.streamID = st.id ∧ st.owesClose = true := by
  cases Stream.step_cases h with
  | announced _ _ _ =>
    rw [List.mem_singleton.mp hf] at hkind
    have hne : packetContinue ≠ packetClose := by decide
    exact absurd hkind hne
  | forwarded _ _ _ _ =>
    rw [List.mem_singleton.mp hf] at hkind
    have hne : packetData ≠ packetClose := by decide
    exact absurd hkind hne
  | closeNotified sent notify reason hc =>
    cases sent with
    | false => cases hf
    | true =>
      rw [List.mem_singleton.mp hf]
      exact ⟨rfl, by rw [Stream.owesClose, hc]⟩
  | _ => cases hf

end Streams

section Servers

variable {s s' : Server} {a : Action}

/-- The handler, which is not idle, leaves the map alone. -/
theorem Server.Step.stays_free (h : s.Step a s') {id : UInt32} (hfree : s.lookup id = none)
    (hbusy : s'.handler ≠ .idle) : s'.lookup id = none :=
  (h.free hfree).resolve_right (fun ⟨_, _, _, _, _, hidle⟩ => hbusy hidle)

theorem Server.Agrees.step_replying (h : s.Agrees) (hs : s.Step a s') (horderly : s.orderly a = true)
    {reply : Frame} {shutdown : Bool} (hh' : s'.handler = .replying reply shutdown)
    (hkind : reply.kind = packetClose) (hid : reply.streamID ≠ 0) :
    s'.lookup reply.streamID = none := by
  cases hs.turns with
  | same hh _ =>
    exact hs.stays_free (h.replying reply shutdown (hh ▸ hh') hkind hid) (by simp [hh'])
  | received data ha _ hr _ =>
    subst ha
    cases hr with
    | aborted =>
      cases hh'
      exact absurd rfl hid
    | ignored => exact h.replying reply shutdown hh' hkind hid
    | @refused packet reason hparse hid hlive =>
      cases hh'
      simp only [Server.orderly, hparse, Bool.or_eq_true, decide_eq_true_eq,
        Option.isNone_iff_eq_none] at horderly
      rcases hlive with hnone | ⟨hdata, hclose⟩
      · exact hnone
      · exact horderly.resolve_left (not_or.mpr ⟨hdata, hclose⟩)
    | _ => cases hh'
  | refused packet reason hh _ heq =>
    subst heq
    cases hh'
    exact h.opening packet hh
  | overflowed _ _ _ _ _ _ heq =>
    rw [heq] at hh'
    cases hh'
  | rests hreplying _ _ _ => exact absurd hh' (hreplying reply shutdown)

theorem Server.Agrees.step_opening (h : s.Agrees) (hs : s.Step a s') {packet : Frame}
    (hh' : s'.handler = .opening packet) : s'.lookup packet.streamID = none := by
  rcases hs.opening hh' with ⟨hh, -⟩ | ⟨-, -, hfree, rfl⟩
  · exact hs.stays_free (h.opening packet hh) (by simp [hh'])
  · exact hfree

theorem Server.Agrees.step_owing (h : s.Agrees) (hs : s.Step a s') (horderly : s.orderly a = true)
    {ref : Nat} {st' : Stream} (hget : s'.table[ref]? = some st') (howes : st'.owesClose = true) :
    s'.lookup st'.id = none := by
  -- a number is taken again only when nobody owes a CLOSE for it
  have hstays : ∀ st, s.table[ref]? = some st → st.owesClose = true → s'.lookup st.id = none := by
    intro st hst howes
    rcases hs.free (h.owing ref st hst howes) with hfree | ⟨sent, packet, rfl, hh, hid, -⟩
    · exact hfree
    · simp only [Server.orderly, hh, List.all_eq_true, Bool.or_eq_true, decide_eq_true_eq,
        Bool.not_eq_true'] at horderly
      have hpaid := (horderly st (List.mem_of_getElem? hst)).resolve_left (not_not.mpr hid.symm)
      rw [hpaid] at howes
      cases howes
  cases hs.origin hget with
  | new packet sent _ _ _ hnew =>
    rw [hnew] at howes
    cases howes
  | touched st hst _ hto =>
    rw [hto.id]
    refine hstays st hst ?_
    cases hto with
    | called notify reason => exact (st.owesClose_callClose notify reason).symm.trans howes
    | _ => exact howes
  | stepped st action effect hst ha hstep =>
    rw [(Stream.step_progress hstep).id]
    rcases Stream.step_owesClose hstep howes with howes | hdelete
    · exact hstays st hst howes
    · -- the stream has just removed its own entry
      rw [Option.eq_none_iff_forall_ne_some]
      intro ref' hlookup
      rcases hs.lookup hlookup with ⟨-, hkept⟩ | ⟨⟨sent, ha'⟩, -⟩
      · exact hkept ref action st st' effect ha hst hstep hdelete rfl
      · cases ha.symm.trans ha'

/-- **Step lemma.** -/
theorem Server.step_agrees (h : s.Agrees) (hs : s.step a = some s')
    (horderly : s.orderly a = true) : s'.Agrees := by
  have hstep := (Server.step_cases hs).2
  exact ⟨fun _ _ => h.step_replying hstep horderly, fun _ => h.step_opening hstep,
    fun _ _ => h.step_owing hstep horderly⟩

theorem Server.new_agrees : Server.new.Agrees := by
  refine ⟨?_, fun packet hh => Handler.noConfusion hh, ?_⟩
  · rintro reply shutdown hh hkind -
    cases hh
    exact absurd hkind (by decide)
  · intro ref st hst
    simp [Server.new] at hst

/-- The frames that a step sends. -/
def Server.emitted (s s' : Server) : List Frame := s'.sent.drop s.sent.length

/-- **Who sends.**  A step appends nothing to what was sent, a reply of the message handler, the
    CONTINUE of the handshake, or what a goroutine of a stream sends. -/
theorem Server.step_sent_cases (hs : s.step a = some s') :
    s'.sent = s.sent ∨
      (∃ reply shutdown, a = .handle true ∧ s.handler = .replying reply shutdown ∧
        s'.sent = s.sent ++ [reply]) ∨
      (a = .handle true ∧ s.handler = .announcing ∧
        s'.sent = s.sent ++ [continueFrame 0 initialPacketAllowance]) ∨
      ∃ ref action st st' effect, a = .stream ref action ∧ s.table[ref]? = some st ∧
        st.step s.cancelled action = some (st', effect) ∧ s'.sent = s.sent ++ effect.sent := by
  cases (Server.step_cases hs).2 with
  | received data hidle =>
    left
    have hcases := s.onMessage_cases data
    generalize s.onMessage data = s' at hcases ⊢
    cases hcases <;> rfl
  | replied sent reply shutdown hh =>
    cases sent with
    | false => exact .inl rfl
    | true => exact .inr (.inl ⟨reply, shutdown, rfl, hh, rfl⟩)
  | announced hh => exact .inr (.inr (.inl ⟨rfl, hh, rfl⟩))
  | inserted sent packet hh =>
    left
    rcases s.insert_cases packet with ⟨reason, -, heq⟩ | ⟨-, -, heq⟩ <;> rw [heq]
    rfl
  | called sent ref notify reason hh =>
    left
    obtain ⟨table, heq, -⟩ := s.callClose_frame ref notify reason
    rw [heq]
  | shut ref call call' s₁ _ hc | closer index ref call call' s₁ hc =>
    obtain ⟨cancelled, table, rfl, -, -⟩ := Server.stepCloser_frame hc
    exact .inl rfl
  | stream ref action st st' effect hst hstep =>
    exact .inr (.inr (.inr ⟨ref, action, st, st', effect, rfl, hst, hstep, rfl⟩))
  | _ => exact .inl rfl

theorem Server.emitted_eq {frames : List Frame} (hsent : s'.sent = s.sent ++ frames) :
    s.emitted s' = frames := by
  rw [Server.emitted, hsent, List.drop_left]

/-- What was sent stays sent. -/
theorem Server.step_sent (hs : s.step a = some s') : s'.sent = s.sent ++ s.emitted s' := by
  rcases Server.step_sent_cases hs with hsent | ⟨reply, shutdown, -, -, hsent⟩ | ⟨-, -, hsent⟩ |
    ⟨ref, action, st, st', effect, -, -, -, hsent⟩
  · rw [Server.emitted_eq (hsent.trans (List.append_nil _).symm), List.append_nil]
    exact hsent
  · rw [Server.emitted_eq hsent]
    exact hsent
  · rw [Server.emitted_eq hsent]
    exact hsent
  · rw [Server.emitted_eq hsent]
    exact hsent

theorem Server.mem_emitted (hs : s.step a = some s') {f : Frame} (hf : f ∈ s.emitted s') :
    (∃ shutdown, a = .handle true ∧ s.handler = .replying f shutdown) ∨
      f = continueFrame 0 initialPacketAllowance ∨
      ∃ ref action st st' effect, a = .stream ref action ∧ s.table[ref]? = some st ∧
        st.step s.cancelled action = some (st', effect) ∧ f ∈ effect.sent := by
  rcases Server.step_sent_cases hs with hsent | ⟨reply, shutdown, ha, hh, hsent⟩ | ⟨-, -, hsent⟩ |
    ⟨ref, action, st, st', effect, ha, hst, hstep, hsent⟩
  · rw [Server.emitted_eq (hsent.trans (List.append_nil _).symm)] at hf
    cases hf
  · rw [Server.emitted_eq hsent, List.mem_singleton] at hf
    exact .inl ⟨shutdown, ha, hf ▸ hh⟩
  · rw [Server.emitted_eq hsent, List.mem_singleton] at hf
    exact .inr (.inl hf)
  · rw [Server.emitted_eq hsent] at hf
    exact .inr (.inr ⟨ref, action, st, st', effect, ha, hst, hstep, hf⟩)

/-- A CLOSE that is sent was about to be sent. -/
theorem Server.Agrees.emitted (h : s.Agrees) (hs : s.step a = some s') :
    ∀ f ∈ s.emitted s', f.kind = packetClose → f.streamID ≠ 0 → s.lookup f.streamID = none := by
  intro f hf hkind hne
  rcases Server.mem_emitted hs hf with ⟨shutdown, -, hh⟩ | rfl |
    ⟨ref, action, st, st', effect, rfl, hst, hstep, hmem⟩
  · exact h.replying f shutdown hh hkind hne
  · exact absurd hkind (by decide)
  · obtain ⟨hid, howes⟩ := Stream.step_sends_close hstep hmem hkind
    rw [hid]
    exact h.owing ref st hst howes

/-- **A CLOSE means closed.**  In a run of orderly steps, a CLOSE frame for a stream is sent only
    when the server has no stream under that number. -/
theorem run_closesDead {h : List (Transition Server Action Unit)} (hr : system.Run h s)
    (horderly : ∀ t ∈ h, t.before.orderly t.action = true) :
    ∀ t ∈ h, ∀ s', t.before.step t.action = some s' → ∀ f ∈ t.before.emitted s',
      f.kind = packetClose → f.streamID ≠ 0 → t.before.lookup f.streamID = none := by
  have hagrees : ∀ s₁ ∈ System.visited h s, s₁.Agrees := by
    refine hr.invariant_under horderly Server.new_agrees ?_
    intro t s₁ hok hbefore hstep
    exact Server.step_agrees hbefore (system_step hstep) hok
  intro t ht s' hstep
  have hmem : t.before ∈ System.visited h s :=
    List.mem_cons_of_mem _ (List.mem_map_of_mem ht)
  exact (hagrees _ hmem).emitted hstep

end Servers

/-! ### Streams that end in order, and streams that do not -/

def sampleConnect (id : UInt32) : Action :=
  .message (Frame.packet ⟨packetConnect, id, [streamTCP, 80, 0, 97]⟩)

/-- The handshake, and stream 1 is opened. -/
def openStreamOne : List Action :=
  [.handle true, .message (Frame.packet ⟨packetInfo, 0, [2, 0]⟩), .handle true, sampleConnect 1,
    .handle true]

/-- The dial of stream 1 fails. -/
def refusedDial : List Action :=
  openStreamOne ++
    [.stream 0 (.dialReturns (.error .plain)), .stream 0 .publish, .stream 0 .connectFails,
      .stream 0 .closeCancels, .stream 0 .closeDeletes, .stream 0 .closeClosesConn,
      .stream 0 (.closeNotifies true)]

theorem run_closesDead_of_refusedDial : ∃ t h s, system.Run (t :: h) s ∧
    closeFrame 1 closeUnreachable ∈ t.before.emitted s ∧ t.before.lookup 1 = none := by
  obtain ⟨h, s, hr, hc⟩ := System.exists_run_of_exec (S := system)
    (P := fun h s => match h with
      | [] => false
      | t :: _ => decide (closeFrame 1 closeUnreachable ∈ t.before.emitted s ∧
          h.all (fun t => t.before.orderly t.action) = true))
    refusedDial (by decide +kernel)
  match h with
  | [] => cases hc
  | t :: h =>
    obtain ⟨hemitted, horderly⟩ := of_decide_eq_true hc
    have hstep := system_step (System.Run.cons_inv hr).2
    refine ⟨t, h, s, hr, hemitted, ?_⟩
    exact run_closesDead hr (List.all_eq_true.mp horderly) t List.mem_cons_self s hstep _ hemitted
      rfl (by decide)

/-- Stream 1 is asked for a second time. -/
def secondConnect : List Action := openStreamOne ++ [sampleConnect 1, .handle true]

/-- The target of stream 1 ends, and the client takes the number again before it is told. -/
def earlyReuse : List Action :=
  openStreamOne ++
    [.stream 0 (.dialReturns (.connection 7)), .stream 0 .publish,
      .stream 0 (.readLoopReads [] (some .eof)), .stream 0 .readLoopFails,
      .stream 0 .closeCancels, .stream 0 .closeDeletes, .stream 0 .closeClosesConn,
      sampleConnect 1, .handle true, .stream 0 (.closeNotifies true)]

/-- **A CLOSE for a stream that stays open.**  The server refuses a second CONNECT for stream 1,
    and the CLOSE that it sends is also what it would send if stream 1 had ended.  Or the CLOSE of
    a stream that has ended comes after its number was taken again. -/
theorem closes_live :
    (∃ t h s, system.Run (t :: h) s ∧ closeFrame 1 closeInvalidInfo ∈ t.before.emitted s ∧
      t.before.lookup 1 = some 0 ∧ s.table[0]?.any (fun st => st.closing = none) = true) ∧
    ∃ t h s, system.Run (t :: h) s ∧ closeFrame 1 closeVoluntary ∈ t.before.emitted s ∧
      t.before.lookup 1 = some 1 ∧ s.table[1]?.any (fun st => st.closing = none) = true := by
  have hrun : ∀ (schedule : List Action) (f : Frame) (ref : Nat),
      (system.exec schedule).any (fun r => match r.1 with
        | [] => false
        | t :: _ => decide (f ∈ t.before.emitted r.2 ∧ t.before.lookup 1 = some ref ∧
            r.2.table[ref]?.any (fun st => st.closing = none) = true)) = true →
      ∃ t h s, system.Run (t :: h) s ∧ f ∈ t.before.emitted s ∧ t.before.lookup 1 = some ref ∧
        s.table[ref]?.any (fun st => st.closing = none) = true := by
    intro schedule f ref hexec
    obtain ⟨h, s, hr, hc⟩ := System.exists_run_of_exec (S := system)
      (P := fun h s => match h with
        | [] => false
        | t :: _ => decide (f ∈ t.before.emitted s ∧ t.before.lookup 1 = some ref ∧
            s.table[ref]?.any (fun st => st.closing = none) = true)) schedule hexec
    match h with
    | [] => cases hc
    | t :: h => exact ⟨t, h, s, hr, of_decide_eq_true hc⟩
  exact ⟨hrun secondConnect _ 0 (by decide +kernel), hrun earlyReuse _ 1 (by decide +kernel)⟩

end WebVPN.Wisp
