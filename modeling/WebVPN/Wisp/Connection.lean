import WebVPN.Wisp.Server

namespace WebVPN.Wisp

open WebVPN.Library

/-!
# Wisp — the loops and the connection they work on

`connect` replaces a connection that arrives after cancellation by nil, but decides by the
*error* of the dial whether to start `readLoop`.  So a dial that succeeds although the
stream (or the server) has been cancelled in the meantime starts `readLoop` on nil, and
the first read brings the Agent down.

* `Server.ConnPresent` — in every stream both loops work on a connection that is present;
* `Server.PublishesCancelled` — the step that goes wrong: `connect` enters its critical
  section with a connection in hand and a cancelled context;
* `run_connPresent_iff` — a run passes only through states with `ConnPresent` exactly when
  it contains no such step;
* `run_reaches_nil_readLoop` — the schedule that reaches the nil dereference.
-/

/-! ### The property -/

/-- The connection `readLoop` works on, once it runs. -/
def ReadPC.operand : ReadPC → Option (Option Conn)
  | .reading connection => some connection
  | .sending connection _ _ => some connection
  | _ => none

/-- The connection `writeLoop` works on, once it is past its nil check. -/
def WritePC.operand : WritePC → Option (Option Conn)
  | .selecting connection _ => some connection
  | .writing connection _ _ => some connection
  | .measuring connection => some connection
  | .announcing connection _ => some connection
  | _ => none

/-- Neither loop of the stream works on a nil connection. -/
def Stream.ConnPresent (st : Stream) : Prop :=
  st.readLoop.operand ≠ some none ∧ st.writeLoop.operand ≠ some none

instance (st : Stream) : Decidable st.ConnPresent := inferInstanceAs (Decidable (_ ∧ _))

/-- No loop of any stream works on a nil connection. -/
def Server.ConnPresent (s : Server) : Prop := ∀ st ∈ s.table, st.ConnPresent

instance (s : Server) : Decidable s.ConnPresent := inferInstanceAs (Decidable (∀ st ∈ _, _))

/-- `connect` of this stream is about to publish a connection under a cancelled context. -/
def Stream.PublishesCancelled (serverDone : Bool) (st : Stream) (a : StreamAction) : Prop :=
  a = .publish ∧ (st.cancelled || serverDone) = true ∧ ∃ c, st.connect = .dialed (.connection c)

/-- The action lets `connect` publish a connection under a cancelled context. -/
def Server.PublishesCancelled (s : Server) (a : Action) : Prop :=
  ∃ ref st action, a = .stream ref action ∧ s.table[ref]? = some st ∧
    st.PublishesCancelled s.cancelled action

/-! ### Steps of one stream -/

/-- A call of `close` starts no loop. -/
theorem Stream.callClose_connPresent {st : Stream} (notify : Bool) (reason : UInt8)
    (hst : st.ConnPresent) : (st.callClose notify reason).ConnPresent := by
  unfold Stream.callClose
  split
  · exact hst
  · exact hst

/-- What `readLoop` does after a read keeps the connection it works on. -/
theorem operand_afterRead {connection : Option Conn} (hc : connection ≠ none)
    (err : Option ReadError) : (afterRead connection err).operand ≠ some none := by
  unfold afterRead
  split <;> simp [ReadPC.operand, hc]

/-- A step of a stream keeps both loops on a present connection, unless it publishes under
    a cancelled context: `writeLoop` loads only a present connection, and both loops pass theirs on. -/
theorem Stream.step_connPresent {serverDone : Bool} {st st' : Stream} {a : StreamAction}
    {effect : Effect} (hst : st.ConnPresent) (hok : ¬ st.PublishesCancelled serverDone a)
    (hs : st.step serverDone a = some (st', effect)) : st'.ConnPresent := by
  obtain ⟨hread, hwrite⟩ := hst
  cases Stream.step_cases hs with
  | published result hpc =>
    cases result with
    | error e => exact ⟨hread, hwrite⟩
    | connection c =>
      have hctx : (st.cancelled || serverDone) = false := by
        rw [← Bool.not_eq_true]
        intro hctx
        exact hok ⟨rfl, hctx, c, hpc⟩
      refine ⟨?_, hwrite⟩
      simp [Stream.publish, hctx, ReadPC.operand]
  | connectFailed reason _ => exact Stream.callClose_connPresent true reason ⟨hread, hwrite⟩
  | took connection consumed payload rest hpc _ =>
    rw [hpc] at hwrite
    exact ⟨hread, hwrite⟩
  | counted connection consumed hpc _ | filled connection consumed hpc _ | measured connection hpc
  | announced connection remaining hpc =>
    rw [hpc] at hwrite
    exact ⟨hread, hwrite⟩
  | writeStopped | writeReady | writeAbsent | writeLoaded | wrote | writeEnded | announceFailed =>
    exact ⟨hread, by simp [WritePC.operand]⟩
  | writeFailed notify reason _ => exact ⟨by simpa using hread, by simp [WritePC.operand]⟩
  | readNothing c err _ => exact ⟨operand_afterRead (by simp) err, hwrite⟩
  | forwarded connection data err hpc =>
    rw [hpc] at hread
    have hc : connection ≠ none := by simpa [ReadPC.operand] using hread
    exact ⟨operand_afterRead hc err, hwrite⟩
  | read | forwardFailed => exact ⟨by simp [ReadPC.operand], hwrite⟩
  | readFailed notify reason _ => exact ⟨by simp [ReadPC.operand], by simpa using hwrite⟩
  | dialed | writeNil | readNil | closeCancelled | closeDeleted | closeClosed | closeNotified =>
    exact ⟨hread, hwrite⟩

/-- Publishing under a cancelled context starts `readLoop` on nil. -/
theorem Stream.step_of_publishesCancelled {serverDone : Bool} {st st' : Stream}
    {a : StreamAction} {effect : Effect} (hbad : st.PublishesCancelled serverDone a)
    (hs : st.step serverDone a = some (st', effect)) : ¬ st'.ConnPresent := by
  obtain ⟨rfl, hctx, c, hpc⟩ := hbad
  simp only [Stream.step, Stream.stepConnect, hpc, Option.some.injEq, Prod.mk.injEq] at hs
  obtain ⟨rfl, -⟩ := hs
  intro hpresent
  apply hpresent.1
  simp [Stream.publish, hctx, ReadPC.operand]

/-! ### Steps of the server -/

/-- **Step lemma.**  Every step that does not publish under a cancelled context keeps all
    loops on present connections. -/
theorem Server.step_connPresent {s s' : Server} {a : Action} (hs : s.ConnPresent)
    (hok : ¬ s.PublishesCancelled a) (h : s.step a = some s') : s'.ConnPresent := by
  refine (Server.step_cases h).2.streams hs ?_ ?_ ?_
  · intro id hostname port
    simp [Stream.new, Stream.ConnPresent, ReadPC.operand, WritePC.operand]
  · intro st st' hst htouched
    cases htouched with
    | same => exact hst
    | enqueued payload => exact hst
    | called notify reason => exact Stream.callClose_connPresent notify reason hst
  · intro ref st action st' effect ha hget hstep hst
    exact Stream.step_connPresent hst (fun hbad => hok ⟨ref, st, action, ha, hget, hbad⟩) hstep

/-- A step that publishes under a cancelled context leads to a nil `readLoop`. -/
theorem Server.step_of_publishesCancelled {s s' : Server} {a : Action}
    (hbad : s.PublishesCancelled a) (h : s.step a = some s') : ¬ s'.ConnPresent := by
  obtain ⟨ref, st, action, rfl, hst, hbad⟩ := hbad
  obtain ⟨-, hstep⟩ := Server.step_cases h
  cases hstep with
  | stream _ _ st₁ st' effect hst₁ hs =>
    obtain rfl : st = st₁ := by simpa [hst] using hst₁
    intro hpresent
    refine Stream.step_of_publishesCancelled hbad hs (hpresent st' ?_)
    have hlt : ref < s.table.length := (List.getElem?_eq_some_iff.mp hst).1
    exact List.mem_set hlt st'

/-! ### Runs -/

/-- **Exactly when the loops keep a connection.**  A run of the server passes only through
    states in which `readLoop` and `writeLoop` of every stream work on a present
    connection if and only if in no step of the run `connect` enters its critical section
    with a connection in hand while the stream's context is already cancelled. -/
theorem run_connPresent_iff {h : List (Transition Server Action Unit)} {s : Server}
    (hr : system.Run h s) :
    (∀ v ∈ System.visited h s, v.ConnPresent) ↔
      ∀ t ∈ h, ¬ t.before.PublishesCancelled t.action := by
  induction hr with
  | init => simp [System.visited, system, Server.new, Server.ConnPresent]
  | step hr hs ih =>
    rename_i h₀ s₀ s₁ a e
    have hstep : s₀.step a = some s₁ := system_step hs
    constructor
    · intro hall t ht
      rcases List.mem_cons.mp ht with rfl | ht
      · intro hbad
        exact Server.step_of_publishesCancelled hbad hstep (hall s₁ List.mem_cons_self)
      · exact ih.mp (fun v hv => hall v (List.mem_cons_of_mem _ hv)) t ht
    · intro hok v hv
      have hprev : ∀ v ∈ System.visited h₀ s₀, v.ConnPresent :=
        ih.mpr (fun t ht => hok t (List.mem_cons_of_mem _ ht))
      rcases List.mem_cons.mp hv with rfl | hv
      · exact Server.step_connPresent (hprev s₀ List.mem_cons_self)
          (hok _ List.mem_cons_self) hstep
      · exact hprev v hv

/-- The client's first packets: INFO version 2 and CONNECT to port 80 of `h` on stream 1. -/
def openingPackets : List Action :=
  [.handle true,
    .message (Frame.packet ⟨packetInfo, 0, [2, 0]⟩), .handle true,
    .message (Frame.packet ⟨packetConnect, 1, [streamTCP, 80, 0, 104]⟩), .handle true]

/-- A dial that finishes before anything is cancelled: both loops get the connection. -/
theorem run_connPresent_iff_of_timely_dial :
    ∃ h s, system.Run h s ∧ (s.table.map (fun st => (st.readLoop, st.writeLoop)))
        = [(.reading (some 7), .selecting (some 7) 0)] ∧
      ∀ t ∈ h, ¬ t.before.PublishesCancelled t.action := by
  obtain ⟨h, s, hr, hc⟩ := System.exists_run_of_exec (S := system)
    (P := fun h s => decide ((∀ v ∈ System.visited h s, v.ConnPresent) ∧
      (s.table.map (fun st => (st.readLoop, st.writeLoop)))
        = [(.reading (some 7), .selecting (some 7) 0)]))
    (openingPackets ++ [.stream 0 (.dialReturns (.connection 7)), .stream 0 .publish,
      .stream 0 .writeLoopReady, .stream 0 .writeLoopLoads]) (by decide)
  obtain ⟨hpresent, hloops⟩ := of_decide_eq_true hc
  exact ⟨h, s, hr, hloops, (run_connPresent_iff hr).mp hpresent⟩

/-- **The nil `readLoop` is reachable.**  The client closes the stream after the dial has
    returned and before `connect` takes the lock; `readLoop` is started on nil, and its
    first read takes the process down. -/
theorem run_reaches_nil_readLoop :
    ∃ h s, system.Run h s ∧ (∃ st ∈ s.table, st.readLoop = .reading none) ∧
      ¬ s.ConnPresent ∧
      (s.step (.stream 0 (.readLoopReads [] none))).any (fun s' => s'.panicked) = true := by
  obtain ⟨h, s, hr, hc⟩ := System.exists_run_of_exec (S := system)
    (P := fun _ s => decide ((∃ st ∈ s.table, st.readLoop = .reading none) ∧
      ¬ s.ConnPresent ∧
      (s.step (.stream 0 (.readLoopReads [] none))).any (fun s' => s'.panicked) = true))
    (openingPackets ++ [.stream 0 (.dialReturns (.connection 7)),
      .message (Frame.packet ⟨packetClose, 1, [closeVoluntary]⟩), .handle true,
      .stream 0 .closeCancels, .stream 0 .publish]) (by decide)
  exact ⟨h, s, hr, of_decide_eq_true hc⟩

end WebVPN.Wisp
