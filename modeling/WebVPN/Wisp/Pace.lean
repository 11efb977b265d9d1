import WebVPN.Wisp.Agreement
import WebVPN.Wisp.Queue
import WebVPN.Wisp.Upstream

namespace WebVPN.Wisp

open WebVPN.Library

/-!
# Wisp — how credit is handed out

The two ends of the flow control of one stream, each by itself.

* `Frame.onCredit`, `forecast` — what the frames in flight to the client will make of its credit:
  a CONTINUE replaces it, a CLOSE takes it away;
* `Stream.Paced n` — the promise of a stream whose client has `n` packets to its name (credit and
  packets on their way): with the queue and what was written since the last CONTINUE they are a
  full allowance, or a CONTINUE is about to restore it;
* `Server.step_paced` — every step of the server keeps the promise or sends the CONTINUE.
-/

/-! ### The client -/

/-- What a frame of the server does to the credit of stream `id`. -/
def Frame.onCredit (f : Frame) (id : UInt32) (credit : Option Nat) : Option Nat :=
  if f.streamID ≠ id then credit
  else if f.kind = packetContinue then
    match credit, continueValue f with
    | some _, some n => some n
    | _, _ => credit
  else if f.kind = packetClose then none
  else credit

theorem Client.receive_credit (c : Client) (f : Frame) {id : UInt32} (hid : id ≠ 0) :
    (c.receive f).credit id = f.onCredit id (c.credit id) := by
  have hcontinue : packetContinue ≠ packetClose := by decide
  unfold Client.receive Client.granted Frame.onCredit
  by_cases hf : f.streamID = id
  · subst hf
    by_cases hkind : f.kind = packetContinue
    · cases hcredit : c.credit f.streamID with
      | none => simp [hcredit, hkind, hcontinue, hid]
      | some k =>
        cases hvalue : continueValue f with
        | none => simp [hcredit, hkind, hcontinue, hid]
        | some n => simp [hkind, hid, Client.setCredit]
    · by_cases hclose : f.kind = packetClose
      · simp [hclose, hcontinue.symm, Client.setCredit]
      · simp [hkind, hclose]
  · -- the frame is about another stream
    rw [if_pos hf]
    have hne : id ≠ f.streamID := fun heq => hf heq.symm
    split
    · rename_i id' n hgranted
      have hsame : f.streamID = id' := by
        split at hgranted
        · simp only [Option.map_eq_some_iff, Prod.mk.injEq] at hgranted
          obtain ⟨_, -, heq, -⟩ := hgranted
          exact heq
        · cases hgranted
      exact Function.update_of_ne (hsame ▸ hne) _ _
    · split
      · rfl
      · split
        · exact Function.update_of_ne hne _ _
        · rfl

/-- The credit of stream `id` after some frames. -/
def forecast (id : UInt32) (credit : Option Nat) (frames : List Frame) : Option Nat :=
  frames.foldl (fun credit f => f.onCredit id credit) credit

theorem forecast_append (id : UInt32) (credit : Option Nat) (fs gs : List Frame) :
    forecast id credit (fs ++ gs) = forecast id (forecast id credit fs) gs := List.foldl_append

theorem Frame.onCredit_none (f : Frame) (id : UInt32) : f.onCredit id none = none := by
  unfold Frame.onCredit
  repeat' split
  all_goals simp_all

/-- No frame gives credit to a stream that the client does not have. -/
theorem forecast_none (id : UInt32) (fs : List Frame) : forecast id none fs = none := by
  induction fs with
  | nil => rfl
  | cons f rest ih =>
    change forecast id (f.onCredit id none) rest = none
    rw [Frame.onCredit_none]
    exact ih

/-- Only CONTINUE and CLOSE frames of the stream matter. -/
theorem forecast_of_irrelevant {id : UInt32} (credit : Option Nat) {fs : List Frame}
    (hfs : ∀ f ∈ fs, f.streamID = id → f.kind ≠ packetContinue ∧ f.kind ≠ packetClose) :
    forecast id credit fs = credit := by
  induction fs with
  | nil => rfl
  | cons f rest ih =>
    have hf : f.onCredit id credit = credit := by
      unfold Frame.onCredit
      by_cases hid : f.streamID = id
      · obtain ⟨hcontinue, hclose⟩ := hfs f List.mem_cons_self hid
        rw [if_neg (not_not.mpr hid), if_neg hcontinue, if_neg hclose]
      · rw [if_pos hid]
    change forecast id (f.onCredit id credit) rest = credit
    rw [hf]
    exact ih fun g hg => hfs g (List.mem_cons_of_mem _ hg)

/-- The packet that the client has just sent is either missing from the credit it will have, or
    a CONTINUE in flight makes up for it. -/
theorem forecast_spend (id : UInt32) (k : Nat) (fs : List Frame) :
    forecast id (some k) fs = forecast id (some (k + 1)) fs ∨
      ∃ m, forecast id (some (k + 1)) fs = some (m + 1) ∧ forecast id (some k) fs = some m := by
  induction fs generalizing k with
  | nil => exact .inr ⟨k, rfl, rfl⟩
  | cons f rest ih =>
    change forecast id (f.onCredit id (some k)) rest = forecast id (f.onCredit id (some (k + 1))) rest ∨
      ∃ m, forecast id (f.onCredit id (some (k + 1))) rest = some (m + 1) ∧
        forecast id (f.onCredit id (some k)) rest = some m
    have hone : f.onCredit id (some k) = f.onCredit id (some (k + 1)) ∨
        (f.onCredit id (some (k + 1)) = some (k + 1) ∧ f.onCredit id (some k) = some k) := by
      unfold Frame.onCredit
      split
      · exact .inr ⟨rfl, rfl⟩
      split
      · cases continueValue f with
        | none => exact .inr ⟨rfl, rfl⟩
        | some n => exact .inl rfl
      split
      · exact .inl rfl
      · exact .inr ⟨rfl, rfl⟩
    rcases hone with heq | ⟨hmore, hless⟩
    · rw [heq]
      exact .inl rfl
    · rw [hmore, hless]
      exact ih k

/-- Only a CLOSE takes credit away. -/
theorem forecast_lost {id : UInt32} {k : Nat} {fs : List Frame}
    (hnone : forecast id (some k) fs = none) :
    ∃ f ∈ fs, f.kind = packetClose ∧ f.streamID = id := by
  induction fs generalizing k with
  | nil => cases hnone
  | cons f rest ih =>
    have hone : (f.kind = packetClose ∧ f.streamID = id) ∨ ∃ m, f.onCredit id (some k) = some m := by
      unfold Frame.onCredit
      split
      · exact .inr ⟨k, rfl⟩
      rename_i hid
      split
      · cases continueValue f with
        | none => exact .inr ⟨k, rfl⟩
        | some n => exact .inr ⟨n, rfl⟩
      split
      · exact .inl ⟨‹_›, not_not.mp hid⟩
      · exact .inr ⟨k, rfl⟩
    rcases hone with hclose | ⟨m, hm⟩
    · exact ⟨f, List.mem_cons_self, hclose⟩
    · change forecast id (f.onCredit id (some k)) rest = none at hnone
      rw [hm] at hnone
      obtain ⟨g, hg, hclose⟩ := ih hnone
      exact ⟨g, List.mem_cons_of_mem _ hg, hclose⟩

/-- The number that `writeLoop` announces. -/
theorem continueValue_continueFrame (id : UInt32) {remaining : Nat}
    (hle : remaining ≤ initialPacketAllowance) :
    continueValue (continueFrame id remaining) = some remaining := by
  have hsmall : remaining < 2 ^ 32 := by
    have hallowance : initialPacketAllowance = 64 := rfl
    omega
  simp only [continueValue, continueFrame, putUint32]
  rw [uint32_putUint32, UInt32.toNat_ofNat_of_lt' hsmall]

/-- A CONTINUE replaces the credit. -/
theorem forecast_continueFrame (id : UInt32) {remaining k : Nat}
    (hle : remaining ≤ initialPacketAllowance) :
    forecast id (some k) [continueFrame id remaining] = some remaining := by
  change Frame.onCredit (continueFrame id remaining) id (some k) = some remaining
  have hid : (continueFrame id remaining).streamID = id := rfl
  have hkind : (continueFrame id remaining).kind = packetContinue := rfl
  have hvalue := continueValue_continueFrame id hle
  simp only [Frame.onCredit, hid, hkind, hvalue, ne_eq, not_true_eq_false, if_false, if_true]

/-! ### The stream -/

/-- The client has `n` packets to its name, as credit or on their way.  Together with the queue and
    the packets written since the last CONTINUE they make up the allowance, until a CONTINUE is due;
    what is then announced makes up the allowance together with the queue. -/
def Stream.Paced (n : Nat) (st : Stream) : Prop :=
  match st.writeLoop with
  | .waiting => initialPacketAllowance ≤ n + st.write.length
  | .loading => initialPacketAllowance ≤ n + st.write.length
  | .selecting _ consumed =>
    consumed < continueThreshold ∧ initialPacketAllowance ≤ n + st.write.length + consumed
  | .writing _ _ consumed =>
    consumed < continueThreshold ∧ initialPacketAllowance ≤ n + st.write.length + (consumed + 1)
  | .announcing _ remaining =>
    remaining ≤ initialPacketAllowance ∧ initialPacketAllowance ≤ remaining + st.write.length
  | .measuring _ => True
  | .failing _ _ => True
  | .returned => True

section Streams

variable {st st' : Stream} {n n' : Nat}

theorem Stream.Paced.congr (h : st.Paced n) (hloop : st'.writeLoop = st.writeLoop)
    (hqueue : st'.write = st.write) : st'.Paced n := by
  unfold Stream.Paced at h ⊢
  rw [hloop, hqueue]
  exact h

/-- More packets, in the client's name or in the queue, do no harm. -/
theorem Stream.Paced.mono (h : st.Paced n) (hloop : st'.writeLoop = st.writeLoop)
    (hqueue : st.write.length ≤ st'.write.length)
    (hle : n + st.write.length ≤ n' + st'.write.length) : st'.Paced n' := by
  unfold Stream.Paced at h ⊢
  rw [hloop]
  split at h
  · exact le_trans h hle
  · exact le_trans h hle
  · exact ⟨h.1, by omega⟩
  · exact ⟨h.1, by omega⟩
  · exact ⟨h.1, by omega⟩
  · trivial
  · trivial
  · trivial

/-- **Step lemma for a stream.**  It keeps its promise, or sends the CONTINUE that renews it. -/
theorem Stream.Paced.step (h : st.Paced n) {serverDone : Bool} {a : StreamAction}
    {effect : Effect} (hs : st.step serverDone a = some (st', effect)) :
    (st'.Paced n ∧ ∀ f ∈ effect.sent, f.kind ≠ packetContinue) ∨
      ∃ remaining, effect.sent = [continueFrame st.id remaining] ∧
        remaining ≤ initialPacketAllowance ∧ st'.Paced remaining := by
  cases Stream.step_cases hs with
  | published result hc => cases result <;> exact .inl ⟨h.congr rfl rfl, nofun⟩
  | connectFailed reason hc =>
    exact .inl ⟨h.congr (Stream.callClose_writeLoop st _ _) (Stream.callClose_write st _ _), nofun⟩
  | writeStopped => exact .inl ⟨trivial, nofun⟩
  | writeReady hw =>
    rw [Stream.Paced, hw] at h
    exact .inl ⟨h, nofun⟩
  | writeAbsent hw hconn => exact .inl ⟨trivial, nofun⟩
  | writeLoaded c hw hconn =>
    rw [Stream.Paced, hw] at h
    have hpositive : 0 < continueThreshold := by decide
    exact .inl ⟨⟨hpositive, h⟩, nofun⟩
  | took connection consumed payload rest hw hq =>
    rw [Stream.Paced, hw, hq, List.length_cons] at h
    obtain ⟨hlt, hfull⟩ := h
    refine .inl ⟨⟨hlt, ?_⟩, nofun⟩
    change initialPacketAllowance ≤ n + rest.length + (consumed + 1)
    omega
  | writeNil written failed => exact .inl ⟨h, nofun⟩
  | wrote c data consumed written failed hw hle =>
    rw [Stream.Paced, hw] at h
    exact .inl ⟨h, nofun⟩
  | writeEnded c data consumed written failed hw hle => exact .inl ⟨trivial, nofun⟩
  | counted connection consumed hw hlt =>
    rw [Stream.Paced, hw] at h
    exact .inl ⟨⟨hlt, h.2⟩, nofun⟩
  | filled connection consumed hw hge => exact .inl ⟨trivial, nofun⟩
  | measured connection hw =>
    refine .inl ⟨⟨Nat.sub_le _ _, ?_⟩, nofun⟩
    change initialPacketAllowance ≤ initialPacketAllowance - st.write.length + st.write.length
    omega
  | announced connection remaining hw =>
    rw [Stream.Paced, hw] at h
    have hpositive : 0 < continueThreshold := by decide
    exact .inr ⟨remaining, rfl, h.1, hpositive, h.2⟩
  | announceFailed connection remaining hw => exact .inl ⟨trivial, nofun⟩
  | writeFailed notify reason hw => exact .inl ⟨trivial, nofun⟩
  | forwarded connection data err hr =>
    refine .inl ⟨h.congr rfl rfl, ?_⟩
    intro f hf
    rw [List.mem_singleton.mp hf]
    have hne : packetData ≠ packetContinue := by decide
    exact hne
  | readFailed notify reason hr =>
    exact .inl ⟨h.congr (Stream.callClose_writeLoop st _ _) (Stream.callClose_write st _ _), nofun⟩
  | closeNotified sent notify reason hc =>
    refine .inl ⟨h.congr rfl rfl, ?_⟩
    intro f hf
    cases sent with
    | false => cases hf
    | true =>
      rw [List.mem_singleton.mp hf]
      have hne : packetClose ≠ packetContinue := by decide
      exact hne
  | _ => exact .inl ⟨h.congr rfl rfl, nofun⟩

end Streams

/-! ### The server -/

/-- The packets of the stream that the message handler holds, or was holding when it found the
    queue full. -/
def Handler.held (h : Handler) (ref : Nat) : Nat := h.holds ref + (h.calls ref).toNat

theorem Handler.Quiet.held {h : Handler} (hq : h.Quiet) (ref : Nat) : h.held ref = 0 := by
  rw [Handler.held, hq.holds, hq.calls]
  rfl

/-- If the stream is open after a step, it was so before, and its promise is kept or renewed. -/
def Server.Keeps (s s' : Server) (a : Action) (ref : Nat) (st st' : Stream) : Prop :=
  st'.Open → st.Open ∧ ∀ n, st.Paced (n + s.handler.held ref) →
    (st'.Paced (n + s'.handler.held ref) ∧
      ∀ action, a = .stream ref action → ∀ f ∈ s.emitted s', f.kind ≠ packetContinue) ∨
    ∃ remaining, s.emitted s' = [continueFrame st.id remaining] ∧
      remaining ≤ initialPacketAllowance ∧ st'.Paced remaining

/-- A stream after a step was there before, with its promise, or it is new. -/
def Server.PacedBy (s s' : Server) (a : Action) (ref : Nat) (st' : Stream) : Prop :=
  (∃ st, s.table[ref]? = some st ∧ st'.id = st.id ∧ s.Keeps s' a ref st st') ∨
  ∃ packet, s.handler = .opening packet ∧ s'.handler = .idle ∧ ref = s.table.length ∧
    st'.id = packet.streamID ∧ st'.writeLoop = .waiting ∧ st'.write = []

section Servers

variable {s s' : Server} {a : Action} {ref : Nat} {st' : Stream}

/-- The stream is as it was, and the handler holds no less of it. -/
theorem Server.PacedBy.same (hst : s.table[ref]? = some st')
    (hheld : s.handler.held ref ≤ s'.handler.held ref)
    (ha : ∀ action, a ≠ .stream ref action) : s.PacedBy s' a ref st' := by
  refine .inl ⟨st', hst, rfl, fun hopen => ⟨hopen, ?_⟩⟩
  intro n hpaced
  refine .inl ⟨hpaced.mono rfl le_rfl (by omega), ?_⟩
  intro action heq
  exact absurd heq (ha action)

/-- Somebody calls `close`. -/
theorem Server.PacedBy.callClose {r : Nat} {notify : Bool} {reason : UInt8}
    (hst : (s.callClose r notify reason).table[ref]? = some st')
    (hheld : r ≠ ref → s.handler.held ref ≤ s'.handler.held ref)
    (ha : ∀ action, a ≠ .stream ref action) : s.PacedBy s' a ref st' := by
  rw [Server.getElem?_callClose] at hst
  split at hst
  · obtain ⟨st, hget, rfl⟩ := Option.map_eq_some_iff.mp hst
    refine .inl ⟨st, hget, Stream.callClose_id st _ _, ?_⟩
    exact fun hopen => absurd hopen (Stream.callClose_not_open st notify reason)
  · exact .same hst (hheld ‹_›) ha

theorem Server.PacedBy.stepCloser {s₁ : Server} {call call' : Closer} {r : Nat}
    (hc : s.stepCloser call r = some (s₁, call')) (hst : s₁.table[ref]? = some st')
    (hheld : s.handler.held ref ≤ s'.handler.held ref)
    (ha : ∀ action, a ≠ .stream ref action) : s.PacedBy s' a ref st' := by
  rcases Server.stepCloser_cases hc with rfl | rfl | rfl
  · exact .same hst hheld ha
  · exact .same hst hheld ha
  · exact .callClose hst (fun _ => hheld) ha

/-- **Step lemma.**  Every step but the arrival of a message keeps or renews the promises of the
    open streams. -/
theorem Server.step_paced (hs : s.step a = some s') (hmsg : ∀ data, a ≠ .message data)
    (hst' : s'.table[ref]? = some st') : s.PacedBy s' a ref st' := by
  cases (Server.step_cases hs).2 with
  | received data hidle => exact absurd rfl (hmsg data)
  | replied sent reply shutdown hh =>
    refine .same hst' ?_ (by simp)
    rw [hh, (Handler.replying_quiet reply shutdown).held]
    exact Nat.zero_le _
  | announced hh =>
    refine .same hst' ?_ (by simp)
    rw [hh, Handler.announcing_quiet.held]
    exact Nat.zero_le _
  | announceFailed hh =>
    refine .same hst' ?_ (by simp)
    rw [hh, Handler.announcing_quiet.held]
    exact Nat.zero_le _
  | inserted sent packet hh =>
    have hheld : s.handler.held ref = 0 := by
      rw [hh]
      rfl
    rcases s.insert_cases packet with ⟨reason, -, heq⟩ | ⟨-, -, heq⟩ <;> rw [heq] at hst' ⊢
    · exact .same hst' (hheld ▸ Nat.zero_le _) (by simp)
    rw [List.getElem?_append] at hst'
    split at hst'
    · exact .same hst' (hheld ▸ Nat.zero_le _) (by simp)
    · rw [List.getElem?_singleton] at hst'
      split at hst'
      · cases hst'
        exact .inr ⟨packet, hh, rfl, by omega, rfl, rfl, rfl⟩
      · cases hst'
  | enqueued sent r payload st hh hst hroom =>
    rw [Server.getElem?_setStream hst] at hst'
    split at hst'
    · -- the packet moves from the handler into the queue
      rename_i heq
      subst heq
      cases hst'
      refine .inl ⟨st, hst, rfl, fun hopen => ⟨hopen, ?_⟩⟩
      intro n hpaced
      have hheld : s.handler.held r = 1 := by
        rw [hh]
        simp [Handler.held, Handler.holds, Handler.calls]
      refine .inl ⟨hpaced.mono rfl (by simp) ?_, (by simp)⟩
      simp only [List.length_append, List.length_singleton]
      omega
    · rename_i hne
      refine .same hst' ?_ (by simp)
      rw [hh]
      simp [Handler.held, Handler.holds, Handler.calls, hne]
  | overflowed sent r payload st hh hst hfull =>
    refine .same hst' ?_ (by simp)
    rw [hh]
    by_cases heq : r = ref
    · simp [Handler.held, Handler.holds, Handler.calls, heq]
    · simp [Handler.held, Handler.holds, Handler.calls, heq]
  | called sent r notify reason hh =>
    refine .callClose hst' (fun hne => ?_) (by simp)
    rw [hh]
    simp [Handler.held, Handler.holds, Handler.calls, hne]
  | awaited sent r hh =>
    refine .same hst' ?_ (by simp)
    rw [hh, (Handler.awaiting_quiet r).held]
    exact Nat.zero_le _
  | shut r call call' s₁ hh hc =>
    refine .stepCloser hc hst' ?_ (by simp)
    rw [hh, (Handler.shutting_quiet call).held]
    exact Nat.zero_le _
  | channelClosed => exact .same hst' le_rfl (by simp)
  | closer index r call call' s₁ hc =>
    refine .stepCloser hc hst' ?_ (by simp)
    obtain ⟨cancelled, table, rfl, -, -⟩ := Server.stepCloser_frame hc
    exact le_rfl
  | cancelParent => exact .same hst' le_rfl (by simp)
  | stream r action st st₁ effect hst hstep =>
    rw [Server.getElem?_setStream hst] at hst'
    split at hst'
    · rename_i heq
      subst heq
      cases hst'
      have hprogress := Stream.step_progress hstep
      refine .inl ⟨st, hst, hprogress.id, fun hopen => ⟨hprogress.stays_closing hopen, ?_⟩⟩
      intro n hpaced
      simp only [Server.emitted, List.drop_left]
      rcases hpaced.step hstep with ⟨hkept, hquiet⟩ | hrenewed
      · exact .inl ⟨hkept, fun _ _ => hquiet⟩
      · exact .inr hrenewed
    · rename_i hne
      refine .same hst' le_rfl ?_
      intro action' heq
      cases heq
      exact hne rfl

/-- What the handler has to say about a message is that it refuses it. -/
theorem Server.onMessage_reply (hidle : s.handler = .idle) (data : List UInt8) {reply : Frame}
    {shutdown : Bool} (hh : (s.onMessage data).handler = .replying reply shutdown) :
    ∃ id reason, reply = closeFrame id reason := by
  have hcases := s.onMessage_cases data
  generalize s.onMessage data = s' at hcases hh
  cases hcases with
  | ignored =>
    rw [hidle] at hh
    cases hh
  | aborted =>
    cases hh
    exact ⟨0, closeInvalidInfo, rfl⟩
  | refused reason hparse hid hlive =>
    cases hh
    exact ⟨_, reason, rfl⟩
  | _ => cases hh

/-- Without a message the handler takes up no packet, and it has something new to say only when it
    refuses a CONNECT. -/
theorem Server.step_handler (hs : s.step a = some s') (hmsg : ∀ data, a ≠ .message data) :
    s'.handler = s.handler ∨ ((∀ packet, s'.handler ≠ .opening packet) ∧
      ∀ reply shutdown, s'.handler = .replying reply shutdown → ∃ packet reason,
        s.handler = .opening packet ∧ reply = closeFrame packet.streamID reason ∧
        s'.table = s.table) := by
  cases (Server.step_cases hs).2.turns with
  | same hh _ => exact .inl hh
  | received data ha _ _ _ => exact absurd ha (hmsg data)
  | refused packet reason hh _ heq =>
    subst heq
    refine .inr ⟨nofun, ?_⟩
    intro reply shutdown heq
    cases heq
    exact ⟨packet, reason, hh, rfl, rfl⟩
  | overflowed _ _ _ _ _ _ heq => exact heq ▸ .inr ⟨nofun, nofun⟩
  | rests hreplying hopening _ _ =>
    exact .inr ⟨hopening, fun reply shutdown hh => absurd hh (hreplying reply shutdown)⟩

end Servers

end WebVPN.Wisp
