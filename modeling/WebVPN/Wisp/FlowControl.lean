import WebVPN.Wisp.Queue

namespace WebVPN.Wisp

open WebVPN.Library

/-!
# Wisp — flow control of a conforming client

`writeLoop` announces the capacity that is left in the queue *at that moment*.  DATA
packets that are still in flight are not counted, so after a CONTINUE the client may hold
more credit than the queue has room for, and a slow target then makes the server close
the stream of a client that kept to the rules (`linkRun_reaches_full_queue`).

What is true is stated with the projected queue length of a stream:

* `Link.backlog` — the packets in its queue, plus those in flight that will reach it;
* `Link.GrantFits` — the condition: whenever the client's credit for a stream is set, by
  opening it or by CONTINUE(`n`), the new credit and the backlog together fit the queue;
* `linkRun_room` — under this condition every DATA packet for an open stream finds room,
  and no stream is ever closed as throttled.
-/

/-! ### The reasons streams are closed for -/

/-- No thread of the stream closes it, or has closed it, as throttled. -/
structure Stream.Unthrottled (st : Stream) : Prop where
  closing : ∀ c, st.closing = some c → c.reason ≠ closeThrottled
  connect : ∀ reason, st.connect = .failing reason → reason ≠ closeThrottled
  writeLoop : ∀ notify reason, st.writeLoop = .failing notify reason → reason ≠ closeThrottled
  readLoop : ∀ notify reason, st.readLoop = .failing notify reason → reason ≠ closeThrottled

theorem Stream.Unthrottled.callClose {st : Stream} (hu : st.Unthrottled) {notify : Bool}
    {reason : UInt8} (hr : reason ≠ closeThrottled ∨ ¬ st.Open) :
    ∀ c, (st.callClose notify reason).closing = some c → c.reason ≠ closeThrottled := by
  intro c hc
  unfold Stream.callClose at hc
  split at hc
  · rename_i hopen
    cases hc
    exact hr.resolve_right (fun h => h hopen)
  · exact hu.closing c hc

theorem DialError.reason_ne_throttled (e : DialError) : e.reason ≠ closeThrottled := by
  cases e <;> decide

theorem afterRead_ne_throttled {connection : Option Conn} {err : Option ReadError}
    {notify : Bool} {reason : UInt8} (h : afterRead connection err = .failing notify reason) :
    reason ≠ closeThrottled := by
  unfold afterRead at h
  split at h <;> cases h <;> decide

variable {st st' : Stream}

/-- A step that only moves `writeLoop`. -/
theorem Stream.Unthrottled.of_writeLoop (hu : st.Unthrottled)
    (hc : st'.closing = st.closing) (hconn : st'.connect = st.connect)
    (hr : st'.readLoop = st.readLoop)
    (hw : ∀ notify reason, st'.writeLoop = .failing notify reason → reason ≠ closeThrottled) :
    st'.Unthrottled :=
  ⟨hc ▸ hu.closing, hconn ▸ hu.connect, hw, hr ▸ hu.readLoop⟩

/-- A step that only moves `readLoop`. -/
theorem Stream.Unthrottled.of_readLoop (hu : st.Unthrottled)
    (hc : st'.closing = st.closing) (hconn : st'.connect = st.connect)
    (hw : st'.writeLoop = st.writeLoop)
    (hr : ∀ notify reason, st'.readLoop = .failing notify reason → reason ≠ closeThrottled) :
    st'.Unthrottled :=
  ⟨hc ▸ hu.closing, hconn ▸ hu.connect, hw ▸ hu.writeLoop, hr⟩

/-- The goroutines of a stream never give the throttled reason. -/
theorem Stream.step_unthrottled {serverDone : Bool} {a : StreamAction}
    {effect : Effect} (hu : st.Unthrottled) (hs : st.step serverDone a = some (st', effect)) :
    st'.Unthrottled := by
  cases Stream.step_cases hs with
  | dialed => exact ⟨hu.closing, by simp, hu.writeLoop, hu.readLoop⟩
  | published result hc =>
    cases result with
    | connection c => exact ⟨hu.closing, by simp [Stream.publish], hu.writeLoop, by simp [Stream.publish]⟩
    | error e =>
      refine ⟨hu.closing, fun reason h => ?_, hu.writeLoop, hu.readLoop⟩
      cases h
      exact e.reason_ne_throttled
  | connectFailed reason hc =>
    exact ⟨hu.callClose (.inl (hu.connect reason hc)), by simp, by simpa using hu.writeLoop,
      by simpa using hu.readLoop⟩
  | writeNil | readNil => exact hu
  | writeEnded | announceFailed =>
    refine hu.of_writeLoop rfl rfl rfl (fun notify reason h => ?_)
    cases h
    decide
  | writeFailed notify reason hw =>
    exact ⟨hu.callClose (.inl (hu.writeLoop notify reason hw)), by simpa using hu.connect, by simp,
      by simpa using hu.readLoop⟩
  | readNothing | forwarded => exact hu.of_readLoop rfl rfl rfl (fun _ _ h => afterRead_ne_throttled h)
  | read => exact hu.of_readLoop rfl rfl rfl (by simp)
  | forwardFailed =>
    refine hu.of_readLoop rfl rfl rfl (fun notify reason h => ?_)
    cases h
    decide
  | readFailed notify reason hr =>
    exact ⟨hu.callClose (.inl (hu.readLoop notify reason hr)), by simpa using hu.connect,
      by simpa using hu.writeLoop, by simp⟩
  | closeCancelled _ _ hc | closeDeleted _ _ hc | closeClosed _ _ hc | closeNotified _ _ _ hc =>
    refine ⟨fun c h => ?_, hu.connect, hu.writeLoop, hu.readLoop⟩
    cases h
    have hreason := hu.closing _ hc
    exact hreason
  | _ => exact hu.of_writeLoop rfl rfl rfl (by simp)

/-- A stream is closed by the handler, by `Server.Close` or by itself. -/
theorem Stream.Unthrottled.fate {s : Server} {a : Action} {ref : Nat}
    (hu : st.Unthrottled) (hfate : Stream.Fate s a ref st st')
    (hcalling : ∀ notify reason, s.handler = .calling ref notify reason →
      reason ≠ closeThrottled ∨ ¬ st.Open) : st'.Unthrottled := by
  cases hfate with
  | same => exact hu
  | enqueued => exact ⟨hu.closing, hu.connect, hu.writeLoop, hu.readLoop⟩
  | called sent notify reason _ hh =>
    exact ⟨hu.callClose (hcalling notify reason hh), by simpa using hu.connect,
      by simpa using hu.writeLoop, by simpa using hu.readLoop⟩
  | shut =>
    exact ⟨hu.callClose (.inl (by decide)), by simpa using hu.connect, by simpa using hu.writeLoop,
      by simpa using hu.readLoop⟩
  | stepped action effect _ hs => exact Stream.step_unthrottled hu hs

/-- No stream is closed as throttled, and the handler is not about to do so to an open
    stream. -/
structure Server.Unthrottled (s : Server) : Prop where
  streams : ∀ st ∈ s.table, st.Unthrottled
  calling : ∀ ref notify reason st, s.handler = .calling ref notify reason →
    s.table[ref]? = some st → reason ≠ closeThrottled ∨ ¬ st.Open

/-- A DATA packet in the handler's hand finds room when the queues fit. -/
theorem Server.room_of_load {s : Server} (hv : s.Valid)
    (hload : ∀ id, s.load id ≤ (initialPacketAllowance : WithBot ℕ)) {ref : Nat}
    {payload : List UInt8} {st : Stream} (hh : s.handler = .enqueueing ref payload)
    (hst : s.table[ref]? = some st) (hopen : st.Open) :
    st.write.length < initialPacketAllowance := by
  have hl : s.lookup st.id = some ref := hv.listed ref st hst hopen.listed
  have hx : s.load st.id = ((st.write.length + 1 : ℕ) : WithBot ℕ) := by
    simp [Server.load, Server.mapped, hl, hst, hh, hopen, Handler.opens, Stream.load,
      Handler.calls, Handler.holds]
  have hle := hload st.id
  rw [hx] at hle
  exact Nat.cast_le.mp hle

/-- **Step lemma.**  When the queues fit, no step closes an open stream as throttled. -/
theorem Server.step_unthrottled {s s' : Server} {a : Action} (hv : s.Valid)
    (hload : ∀ id, s.load id ≤ (initialPacketAllowance : WithBot ℕ)) (hu : s.Unthrottled)
    (h : s.step a = some s') : s'.Unthrottled := by
  have hstep := (Server.step_cases h).2
  constructor
  · intro st' hst'
    obtain ⟨ref, hget⟩ := List.mem_iff_getElem?.mp hst'
    rcases hstep.new_or_before hget with ⟨_, packet, -, -, -, rfl⟩ | ⟨st, hst, hfate⟩
    · exact ⟨by simp [Stream.new], by simp [Stream.new], by simp [Stream.new], by simp [Stream.new]⟩
    · exact (hu.streams st (List.mem_of_getElem? hst)).fate hfate
        (fun notify reason hh => hu.calling ref notify reason st hh hst)
  · intro ref notify reason st' hh' hget
    cases hstep.turns with
    | same hh _ =>
      -- a stream that is closing does not open again
      rw [hh] at hh'
      rcases hstep.new_or_before hget with ⟨_, packet, -, -, hopening, -⟩ | ⟨st, hst, hfate⟩
      · rw [hh'] at hopening
        cases hopening
      · exact (hu.calling ref notify reason st hh' hst).imp_right (mt hfate.stays_closing)
    | received data _ hidle _ heq =>
      subst heq
      rw [Server.onMessage_calling hidle hh']
      exact .inl (by decide)
    | refused _ _ _ _ heq =>
      rw [heq] at hh'
      cases hh'
    | overflowed ref₀ payload st hh hst hfull heq =>
      -- the queue is full, so the stream is not open
      subst heq
      cases hh'
      obtain rfl : st = st' := Option.some.inj (hst.symm.trans hget)
      exact .inr (fun hopen => hfull (Server.room_of_load hv hload hh hst hopen))
    | rests _ _ hcalling _ => exact absurd hh' (hcalling ref notify reason)

/-! ### The link -/

/-- The projected queue length of stream `id`: its queue and the packets in flight to it. -/
def Link.backlog (l : Link) (id : UInt32) : ℕ :=
  (settle id (l.server.load id) l.uplink).unbotD 0

/-- If this step sets the client's credit for a stream, the new credit and the backlog of
    the stream together fit the queue. -/
def Link.GrantFits (l : Link) : LinkAction → Prop
  | .connect id _ => ∀ n ∈ l.client.allowance, n + l.backlog id ≤ initialPacketAllowance
  | .receive => ∀ f ∈ l.server.sent[l.seen]?, ∀ grant ∈ l.client.granted f,
      grant.2 + l.backlog grant.1 ≤ initialPacketAllowance
  | _ => True

instance (l : Link) : DecidablePred l.GrantFits
  | .connect id _ => inferInstanceAs (Decidable (∀ n ∈ l.client.allowance,
      n + l.backlog id ≤ initialPacketAllowance))
  | .receive => inferInstanceAs (Decidable (∀ f ∈ l.server.sent[l.seen]?,
      ∀ grant ∈ l.client.granted f, grant.2 + l.backlog grant.1 ≤ initialPacketAllowance))
  | .hello | .data _ _ | .close _ | .deliver | .server _ => inferInstanceAs (Decidable True)

/-- The invariant of a link whose grants fit: everything in flight will find room, also
    when the client spends all its credit. -/
structure Link.Safe (l : Link) : Prop where
  valid : l.server.Valid
  frames : ∀ f ∈ l.uplink, ClientFrame f
  room : ∀ id, Fits id (l.server.load id) l.uplink
  credit : ∀ id k, l.client.credit id = some k → k + l.backlog id ≤ initialPacketAllowance
  unthrottled : l.server.Unthrottled

theorem unbotD_le_iff {x : WithBot ℕ} {n : ℕ} : x.unbotD 0 ≤ n ↔ x ≤ (n : WithBot ℕ) := by
  cases x with
  | bot => simp
  | coe m => exact Nat.cast_le.symm

theorem Fits.finish {id : UInt32} {fs : List Frame} {x : WithBot ℕ} (hf : Fits id x fs) :
    settle id x fs ≤ (initialPacketAllowance : WithBot ℕ) := by
  induction fs generalizing x with
  | nil => exact hf
  | cons f rest ih => exact ih hf.2

/-- The server or a delivery makes no queue longer than expected. -/
theorem Link.Safe.of_server {l l' : Link} (hl : l.Safe) (hc : l'.client = l.client)
    (hv : l'.server.Valid) (hframes : ∀ f ∈ l'.uplink, ClientFrame f)
    (hload : ∀ id, Fits id (l'.server.load id) l'.uplink)
    (hsettle : ∀ id, settle id (l'.server.load id) l'.uplink ≤
      settle id (l.server.load id) l.uplink)
    (hu : l'.server.Unthrottled) : l'.Safe where
  valid := hv
  frames := hframes
  room := hload
  credit id k hk := by
    have hold := hl.credit id k (hc ▸ hk)
    have hle : l'.backlog id ≤ l.backlog id := by
      unfold Link.backlog
      exact unbotD_le_iff.mpr (le_trans (hsettle id) (unbotD_le_iff.mp le_rfl))
    omega
  unthrottled := hu

/-- The client puts a packet on the channel: the backlog of its stream changes as `absorb`
    says, and the credit of no other stream changes. -/
theorem Link.Safe.send {l : Link} (hl : l.Safe) {id : UInt32} {credit : Option ℕ} {f : Frame}
    (hf : ClientFrame f) (hid : f.streamID = id)
    (habsorb : absorb id (settle id (l.server.load id) l.uplink) f ≤
      (initialPacketAllowance : WithBot ℕ))
    (hcredit : ∀ k, credit = some k →
      k + (absorb id (settle id (l.server.load id) l.uplink) f).unbotD 0 ≤
        initialPacketAllowance) :
    (l.send (l.client.setCredit id credit) f).Safe where
  valid := hl.valid
  frames g hg := by
    rcases List.mem_append.mp hg with hg | hg
    · exact hl.frames g hg
    · obtain rfl := List.mem_singleton.mp hg
      exact hf
  room id' := by
    refine (hl.room id').concat ?_
    by_cases h : f.streamID = id'
    · rw [← h, hid]; exact habsorb
    · rw [absorb, if_pos h]; exact (hl.room id').finish
  credit id' k hk := by
    have hsettle : settle id' (l.server.load id') (l.uplink ++ [f]) =
        absorb id' (settle id' (l.server.load id') l.uplink) f := settle_concat _ _ _ _
    unfold Link.backlog
    simp only [Link.send, Client.setCredit] at hk ⊢
    rw [hsettle]
    by_cases h : id' = id
    · subst h
      rw [Function.update_self] at hk
      exact hcredit k hk
    · rw [Function.update_of_ne h] at hk
      rw [absorb, if_pos (by rw [hid]; exact fun he => h he.symm)]
      exact hl.credit id' k hk
  unthrottled := hl.unthrottled

/-- The start of a connection is safe. -/
theorem Link.new_safe : Link.new.Safe where
  valid := Server.new_valid
  frames f hf := by cases hf
  room id := by
    rw [show Link.new.server.load id = ⊥ from Server.load_eq_bot rfl rfl]
    exact bot_le
  credit id k hk := by cases hk
  unthrottled := ⟨fun st hst => (by cases hst), fun _ _ _ _ h => by cases h⟩

/-- The credit of a stream is replaced by one that fits. -/
theorem Link.Safe.setCredit {l : Link} (hl : l.Safe) {id : UInt32} {credit : Option ℕ}
    {seen : ℕ} (hcredit : ∀ k, credit = some k → k + l.backlog id ≤ initialPacketAllowance) :
    Link.Safe { l with client := l.client.setCredit id credit, seen := seen } where
  valid := hl.valid
  frames := hl.frames
  room := hl.room
  credit id' k hk := by
    simp only [Client.setCredit] at hk
    by_cases h : id' = id
    · subst h
      rw [Function.update_self] at hk
      exact hcredit k hk
    · rw [Function.update_of_ne h] at hk
      exact hl.credit id' k hk
  unthrottled := hl.unthrottled

/-- What the client learns from a frame of the server. -/
theorem Link.Safe.receive {l : Link} (hl : l.Safe) {f : Frame}
    (hfits : ∀ grant ∈ l.client.granted f,
      grant.2 + l.backlog grant.1 ≤ initialPacketAllowance) :
    Link.Safe { l with client := l.client.receive f, seen := l.seen + 1 } := by
  unfold Client.receive
  split
  · rename_i id n hg
    refine hl.setCredit (fun k hk => ?_)
    cases hk
    exact hfits (id, n) hg
  · split
    · exact ⟨hl.valid, hl.frames, hl.room, hl.credit, hl.unthrottled⟩
    · split
      · exact hl.setCredit (fun k hk => by cases hk)
      · exact ⟨hl.valid, hl.frames, hl.room, hl.credit, hl.unthrottled⟩

/-- **Step lemma.**  A step whose grant fits keeps the link safe. -/
theorem Link.step_safe {l l' : Link} {a : LinkAction} (hl : l.Safe) (hfits : l.GrantFits a)
    (h : l.step a = some l') : l'.Safe := by
  cases Link.step_cases h with
  | hello =>
    -- INFO is on stream 0, which carries no data
    refine ⟨hl.valid, fun f hf => ?_, fun id => ?_, fun id k hk => ?_, hl.unthrottled⟩
    · rcases List.mem_append.mp hf with hf | hf
      · exact hl.frames f hf
      · obtain rfl := List.mem_singleton.mp hf
        exact ⟨.of_fits (by decide) (by decide) (by decide), .inl ⟨rfl, rfl⟩⟩
    · exact (hl.room id).concat (by rw [absorb_info]; exact (hl.room id).finish)
    · have hb : (l.send l.client ⟨packetInfo, 0, [2, 0]⟩).backlog id = l.backlog id := by
        unfold Link.backlog
        simp only [Link.send]
        rw [settle_concat, absorb_info]
      rw [hb]
      exact hl.credit id k hk
  | connect id payload n hallow hid hpayload =>
    have hgrant : n + l.backlog id ≤ initialPacketAllowance := hfits n hallow
    have habsorb : absorb id (settle id (l.server.load id) l.uplink)
        ⟨packetConnect, id, payload⟩ = settle id (l.server.load id) l.uplink ⊔ 0 := by
      simp [absorb, packetConnect, packetData, packetClose]
    refine hl.send ⟨.of_fits (by decide) (by decide) hpayload, .inr ⟨hid, .inl rfl⟩⟩ rfl ?_ ?_
    · rw [habsorb]
      exact sup_le (hl.room id).finish (by simp)
    · intro k hk
      cases hk
      have hsup : (settle id (l.server.load id) l.uplink ⊔ 0).unbotD 0 ≤ l.backlog id :=
        unbotD_le_iff.mpr (sup_le (unbotD_le_iff.mp le_rfl) (by simp))
      rw [habsorb]
      omega
  | data id payload k hcredit hid hpayload =>
    have hold : k + 1 + l.backlog id ≤ initialPacketAllowance := hl.credit id (k + 1) hcredit
    have habsorb : (absorb id (settle id (l.server.load id) l.uplink)
        ⟨packetData, id, payload⟩).unbotD 0 ≤ l.backlog id + 1 := by
      rw [unbotD_le_iff, absorb, if_neg (by simp), if_pos rfl, Nat.cast_add, Nat.cast_one]
      exact add_le_add_left (unbotD_le_iff.mp le_rfl) 1
    refine hl.send ⟨.of_fits (by decide) (by decide) hpayload, .inr ⟨hid, .inr (.inl rfl)⟩⟩
      rfl ?_ ?_
    · exact unbotD_le_iff.mp (by omega)
    · intro k' hk'
      cases hk'
      omega
  | close id hid =>
    have habsorb : absorb id (settle id (l.server.load id) l.uplink)
        (closeFrame id closeVoluntary) = ⊥ := by
      simp [absorb, closeFrame, packetData, packetClose]
    have hwf : (closeFrame id closeVoluntary).WellFormed :=
      Frame.WellFormed.of_fits (by decide) (by decide) (by decide)
    refine hl.send ⟨hwf, .inr ⟨hid, .inr (.inr rfl)⟩⟩ rfl ?_ ?_
    · rw [habsorb]
      exact bot_le
    · intro k hk
      cases hk
  | receive f hf => exact hl.receive (hfits f hf)
  | deliver f rest server hup hs =>
    have hidle : l.server.handler = .idle ∧ server = l.server.onMessage f.packet := by
      obtain ⟨-, hstep⟩ := Server.step_cases hs
      cases hstep with
      | received _ hidle => exact ⟨hidle, rfl⟩
    have hf : ClientFrame f := hl.frames f (by simp [hup])
    have hload : ∀ id, server.load id ≤ absorb id (l.server.load id) f := by
      intro id
      rw [hidle.2]
      exact Server.load_onMessage_le hl.valid id hf hidle.1
    have hroom : ∀ id, Fits id (l.server.load id) (f :: rest) := fun id => hup ▸ hl.room id
    refine hl.of_server rfl (Server.step_valid hl.valid hs)
      (fun g hg => hl.frames g (by simp [hup, hg])) (fun id => (hroom id).2.mono (hload id)) ?_
      (Server.step_unthrottled hl.valid (fun id => (hroom id).start) hl.unthrottled hs)
    intro id
    rw [hup]
    exact settle_mono id rest (hload id)
  | server a server hmsg hs =>
    have hload : ∀ id, server.load id ≤ l.server.load id :=
      fun id => Server.load_step_le hl.valid id hmsg hs
    exact hl.of_server rfl (Server.step_valid hl.valid hs) hl.frames
      (fun id => (hl.room id).mono (hload id)) (fun id => settle_mono id l.uplink (hload id))
      (Server.step_unthrottled hl.valid (fun id => (hl.room id).start) hl.unthrottled hs)

/-! ### Runs -/

/-- **Flow control under fitting grants.**  In every run of client, channel and server in
    which each new credit fits the queue together with the backlog of its stream, every
    DATA packet for an open stream finds room, and no stream is closed as throttled. -/
theorem linkRun_room {h : LinkHistory} {l : Link}
    (hr : linkSystem.Run h l) (hfits : ∀ t ∈ h, t.before.GrantFits t.action) :
    (∀ ref payload st, l.server.handler = .enqueueing ref payload →
      l.server.table[ref]? = some st → st.Open → st.write.length < initialPacketAllowance) ∧
    ∀ st ∈ l.server.table, ∀ c, st.closing = some c → c.reason ≠ closeThrottled := by
  have hsafe : ∀ l' ∈ System.visited h l, l'.Safe := hr.invariant_under hfits Link.new_safe
    (fun _ _ hok hl hs => Link.step_safe hl hok (linkSystem_step hs))
  have hl : l.Safe := hsafe l List.mem_cons_self
  constructor
  · intro ref payload st hh hst hopen
    exact Server.room_of_load hl.valid (fun id => (hl.room id).start) hh hst hopen
  · exact fun st hst => (hl.unthrottled.streams st hst).closing

/-- The handshake and the opening of stream 1, up to the first `select` of `writeLoop`. -/
def uploadOpening : List LinkAction :=
  [.server (.handle true), .hello, .deliver, .server (.handle true), .receive, .receive,
    .connect 1 [streamTCP, 80, 0, 104], .deliver, .server (.handle true),
    .server (.stream 0 (.dialReturns (.connection 7))), .server (.stream 0 .publish),
    .server (.stream 0 .writeLoopReady), .server (.stream 0 .writeLoopLoads)]

/-- `n` DATA packets of the channel are delivered, and each is written to the target at
    once. -/
def drain (n : Nat) : List LinkAction :=
  (List.replicate n [.deliver, .server (.handle true), .server (.stream 0 .writeLoopTakes),
    .server (.stream 0 .writeLoopConsumes)]).flatten

/-- `writeLoop` announces its remaining capacity and the client learns of it. -/
def announce : List LinkAction :=
  [.server (.stream 0 .writeLoopMeasures), .server (.stream 0 (.writeLoopAnnounces true)),
    .receive]

set_option maxRecDepth 100000 in
/-- The client sends 32 packets, waits for the CONTINUE and goes on: its grants fit, and
    the 33rd packet finds room. -/
theorem linkRun_room_of_patient_client :
    ∃ h l, linkSystem.Run h l ∧ (∀ t ∈ h, t.before.GrantFits t.action) ∧
      l.client.credit 1 = some 63 ∧
      ∃ st, l.server.handler = .enqueueing 0 [] ∧ l.server.table[0]? = some st ∧ st.Open ∧
        st.write.length < initialPacketAllowance := by
  obtain ⟨h, l, hr, hc⟩ := System.exists_run_of_exec (S := linkSystem)
    (P := fun h l => decide ((∀ t ∈ h, t.before.GrantFits t.action) ∧
      l.client.credit 1 = some 63 ∧ l.server.handler = .enqueueing 0 [] ∧
      ∃ st : Stream, st ∈ l.server.table[0]? ∧ st.Open))
    (uploadOpening ++ List.replicate 32 (.data 1 []) ++ drain 32 ++ announce ++
      [.data 1 [], .deliver]) (by decide +kernel)
  obtain ⟨hfits, hcredit, hh, st, hst, hopen⟩ := of_decide_eq_true hc
  exact ⟨h, l, hr, hfits, hcredit, st, hh, hst, hopen,
    (linkRun_room hr hfits).1 0 [] st hh hst hopen⟩

set_option maxRecDepth 100000 in
/-- **A conforming client is throttled.**  The client spends its 64 credits at once; the
    server writes the first 32 packets and announces an empty queue while the other 32 are
    in flight; the client sends 64 more, the target accepts nothing, and the 65th of the
    96 packets in flight finds the queue full: the server closes the stream with 0x49. -/
theorem linkRun_reaches_full_queue :
    ∃ h l, linkSystem.Run h l ∧
      (∃ st, l.server.handler = .enqueueing 0 [] ∧ l.server.table[0]? = some st ∧ st.Open ∧
        ¬ st.write.length < initialPacketAllowance) ∧
      ∃ server, l.server.step (.handle true) = some server ∧
        server.handler = .calling 0 true closeThrottled := by
  obtain ⟨h, l, hr, hc⟩ := System.exists_run_of_exec (S := linkSystem)
    (P := fun _ l => decide ((l.server.handler = .enqueueing 0 [] ∧
      ∃ st : Stream, st ∈ l.server.table[0]? ∧ st.Open ∧
        ¬ st.write.length < initialPacketAllowance) ∧
      ∃ server ∈ l.server.step (.handle true),
        server.handler = .calling 0 true closeThrottled))
    (uploadOpening ++ List.replicate 64 (.data 1 []) ++ drain 32 ++ announce ++
      List.replicate 64 (.data 1 []) ++
      (List.replicate 64 [.deliver, .server (.handle true)]).flatten ++ [.deliver])
    (by decide +kernel)
  obtain ⟨⟨hh, st, hst, hfull⟩, hclose⟩ := of_decide_eq_true hc
  exact ⟨h, l, hr, ⟨st, hh, hst, hfull⟩, hclose⟩

end WebVPN.Wisp
