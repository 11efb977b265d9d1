import WebVPN.Wisp.Packet

namespace WebVPN.Wisp

open WebVPN.Library

/-!
# Wisp — one stream and its goroutines

A `Stream` is the `stream` record of `internal/wisp/server.go` together with the program
counters of the goroutines that work on it:

* `connect` dials, publishes the connection under `connMu` and starts `readLoop`;
* `writeLoop` waits for the connection, drains the bounded write queue into it and
  announces the remaining capacity every `continueThreshold` packets;
* `readLoop` forwards what the connection delivers as DATA frames;
* the function under `closeOnce` cancels the context, removes the stream from the map,
  closes the connection and sends CLOSE.

`Stream.step` executes one atomic piece of one goroutine: a critical section, a channel
operation, a call into the connection, or a call of `sendFrame`.  What the piece does
outside the stream (frames sent, the removal from the map, a nil dereference) is returned
as an `Effect`, and what the environment decides (the result of a dial, of a read, of a
write, whether a send succeeds, which ready case a `select` takes) is part of the action.
-/

/-- A network connection, by identity. -/
abbrev Conn := Nat

/-- The errors a dial can return: one that wraps a `dialError` (only `Blocked` makes one),
    or any other error. -/
inductive DialError
  | blocked
  | plain
deriving DecidableEq, Repr

/-- The close reason `connect` derives from the error (`errors.As`). -/
def DialError.reason : DialError → UInt8
  | .blocked => closeBlocked
  | .plain => closeUnreachable

/-- The result of the dial function: an error, or a connection. -/
inductive DialResult
  | connection (c : Conn)
  | error (e : DialError)
deriving DecidableEq, Repr

/-- Why a read ended: `io.EOF` or anything else. -/
inductive ReadError
  | eof
  | other
deriving DecidableEq, Repr

/-! ### Program counters -/

/-- Where the goroutine running `connect` stands. -/
inductive ConnectPC
  | dialing (hostname : List UInt8) (port : UInt16)
  | dialed (result : DialResult)
  | failing (reason : UInt8)
  | returned
deriving DecidableEq, Repr

/-- Where `writeLoop` stands.  The connection it loaded is kept as the code keeps it, in a
    variable that may be nil. -/
inductive WritePC
  | waiting
  | loading
  | selecting (connection : Option Conn) (consumed : Nat)
  | writing (connection : Option Conn) (data : List UInt8) (consumed : Nat)
  | measuring (connection : Option Conn)
  | announcing (connection : Option Conn) (remaining : Nat)
  | failing (notify : Bool) (reason : UInt8)
  | returned
deriving DecidableEq, Repr

/-- Where `readLoop` stands; `absent` before the goroutine is started. -/
inductive ReadPC
  | absent
  | reading (connection : Option Conn)
  | sending (connection : Option Conn) (data : List UInt8) (err : Option ReadError)
  | failing (notify : Bool) (reason : UInt8)
  | returned
deriving DecidableEq, Repr

/-- How far the function under `closeOnce` has come. -/
inductive CloseStage
  | cancelling
  | deleting
  | closingConn
  | notifying
  | done
deriving DecidableEq, Repr

/-- The one execution of the function under `closeOnce`, with the arguments of the call
    that entered it. -/
structure Closing where
  stage : CloseStage
  notify : Bool
  reason : UInt8
deriving DecidableEq, Repr

/-! ### The stream -/

/-- A stream.  `cancelled` is its own context (the server's context is the parent),
    `closed` lists the connections whose `Close` was called, `written` the bytes the
    connection accepted. -/
structure Stream where
  id : UInt32
  cancelled : Bool
  conn : Option Conn
  connReady : Bool
  write : List (List UInt8)
  closing : Option Closing
  connect : ConnectPC
  writeLoop : WritePC
  readLoop : ReadPC
  closed : List Conn
  written : List UInt8
deriving DecidableEq, Repr

/-- The stream `openStream` allocates, with `connect` and `writeLoop` started. -/
def Stream.new (id : UInt32) (hostname : List UInt8) (port : UInt16) : Stream where
  id := id
  cancelled := false
  conn := none
  connReady := false
  write := []
  closing := none
  connect := .dialing hostname port
  writeLoop := .waiting
  readLoop := .absent
  closed := []
  written := []

/-- A call of `stream.close`: only the first call enters the guarded function. -/
def Stream.callClose (st : Stream) (notify : Bool) (reason : UInt8) : Stream :=
  match st.closing with
  | none => { st with closing := some ⟨.cancelling, notify, reason⟩ }
  | some _ => st

@[simp] theorem Stream.callClose_id (st : Stream) (notify : Bool) (reason : UInt8) :
    (st.callClose notify reason).id = st.id := by
  unfold Stream.callClose; split <;> rfl

@[simp] theorem Stream.callClose_write (st : Stream) (notify : Bool) (reason : UInt8) :
    (st.callClose notify reason).write = st.write := by
  unfold Stream.callClose; split <;> rfl

@[simp] theorem Stream.callClose_readLoop (st : Stream) (notify : Bool) (reason : UInt8) :
    (st.callClose notify reason).readLoop = st.readLoop := by
  unfold Stream.callClose; split <;> rfl

@[simp] theorem Stream.callClose_writeLoop (st : Stream) (notify : Bool) (reason : UInt8) :
    (st.callClose notify reason).writeLoop = st.writeLoop := by
  unfold Stream.callClose; split <;> rfl

@[simp] theorem Stream.callClose_connect (st : Stream) (notify : Bool) (reason : UInt8) :
    (st.callClose notify reason).connect = st.connect := by
  unfold Stream.callClose; split <;> rfl

/-- The stream is open as long as nobody has called `close`. -/
def Stream.Open (st : Stream) : Prop := st.closing = none

instance (st : Stream) : Decidable st.Open := inferInstanceAs (Decidable (_ = _))

/-- What a step of a goroutine does outside its stream. -/
structure Effect where
  sent : List Frame
  delete : Bool
  panic : Bool
deriving DecidableEq, Repr

/-- Nothing happens outside the stream. -/
def Effect.none : Effect := ⟨[], false, false⟩

/-- `sendFrame` was called; the frame goes out when the call succeeds. -/
def Effect.send (sent : Bool) (f : Frame) : Effect := ⟨if sent then [f] else [], false, false⟩

/-- A method was called on a nil connection. -/
def Effect.nilDereference : Effect := ⟨[], false, true⟩

/-! ### Steps -/

/-- One atomic piece of one goroutine of a stream. -/
inductive StreamAction
  | dialReturns (result : DialResult)
  | publish
  | connectFails
  | writeLoopStops
  | writeLoopReady
  | writeLoopLoads
  | writeLoopTakes
  | writeLoopWrites (written : Nat) (failed : Bool)
  | writeLoopConsumes
  | writeLoopMeasures
  | writeLoopAnnounces (sent : Bool)
  | writeLoopFails
  | readLoopReads (data : List UInt8) (err : Option ReadError)
  | readLoopSends (sent : Bool)
  | readLoopFails
  | closeCancels
  | closeDeletes
  | closeClosesConn
  | closeNotifies (sent : Bool)
deriving DecidableEq, Repr

/-- `connect`'s critical section and what follows it up to the next blocking call: a
    connection that arrives after cancellation is closed and replaced by nil, the
    connection is published, and without an error `readLoop` is started on it. -/
def Stream.publish (ctxDone : Bool) (st : Stream) : DialResult → Stream
  | .connection c =>
    let connection := if ctxDone then none else some c
    { st with
      closed := if ctxDone then st.closed ++ [c] else st.closed
      conn := connection
      connReady := true
      connect := .returned
      readLoop := .reading connection }
  | .error e =>
    { st with conn := none, connReady := true, connect := .failing e.reason }

/-- What `readLoop` does after a read whose bytes (if any) have been sent. -/
def afterRead (connection : Option Conn) : Option ReadError → ReadPC
  | none => .reading connection
  | some .eof => .failing true closeVoluntary
  | some .other => .failing true closeNetwork

/-- The frame `writeLoop` announces its remaining capacity with. -/
def continueFrame (id : UInt32) (remaining : Nat) : Frame :=
  ⟨packetContinue, id, putUint32 (UInt32.ofNat remaining)⟩

/-- The frame that reports the end of a stream. -/
def closeFrame (id : UInt32) (reason : UInt8) : Frame := ⟨packetClose, id, [reason]⟩

/-- One step of `writeLoop`. -/
def Stream.stepWrite (serverDone : Bool) (st : Stream) : StreamAction → Option (Stream × Effect)
  | .writeLoopStops =>
    match st.writeLoop with
    | .waiting =>
      if serverDone then some ({ st with writeLoop := .returned }, .none) else none
    | .selecting _ _ =>
      if st.cancelled || serverDone then some ({ st with writeLoop := .returned }, .none)
      else none
    | _ => none
  | .writeLoopReady =>
    match st.writeLoop with
    | .waiting => if st.connReady then some ({ st with writeLoop := .loading }, .none) else none
    | _ => none
  | .writeLoopLoads =>
    match st.writeLoop with
    | .loading =>
      match st.conn with
      | none => some ({ st with writeLoop := .returned }, .none)
      | some c => some ({ st with writeLoop := .selecting (some c) 0 }, .none)
    | _ => none
  | .writeLoopTakes =>
    match st.writeLoop, st.write with
    | .selecting connection consumed, payload :: rest =>
      some ({ st with write := rest, writeLoop := .writing connection payload consumed }, .none)
    | _, _ => none
  | .writeLoopWrites written failed =>
    match st.writeLoop with
    | .writing none (_ :: _) _ => some (st, .nilDereference)
    | .writing (some c) (b :: data) consumed =>
      if (b :: data).length < written then none
      else
        -- `writeAll`: an error or a write without progress ends the stream
        let st' := { st with written := st.written ++ (b :: data).take written }
        if failed || written == 0 then
          some ({ st' with writeLoop := .failing true closeNetwork }, .none)
        else
          some ({ st' with
            writeLoop := .writing (some c) ((b :: data).drop written) consumed }, .none)
    | _ => none
  | .writeLoopConsumes =>
    match st.writeLoop with
    | .writing connection [] consumed =>
      if continueThreshold ≤ consumed + 1 then
        some ({ st with writeLoop := .measuring connection }, .none)
      else some ({ st with writeLoop := .selecting connection (consumed + 1) }, .none)
    | _ => none
  | .writeLoopMeasures =>
    match st.writeLoop with
    | .measuring connection =>
      let remaining := initialPacketAllowance - st.write.length
      some ({ st with writeLoop := .announcing connection remaining }, .none)
    | _ => none
  | .writeLoopAnnounces sent =>
    match st.writeLoop with
    | .announcing connection remaining =>
      some ({ st with writeLoop :=
                if sent then .selecting connection 0 else .failing false closeNetwork },
        .send sent (continueFrame st.id remaining))
    | _ => none
  | .writeLoopFails =>
    match st.writeLoop with
    | .failing notify reason =>
      some ({ st.callClose notify reason with writeLoop := .returned }, .none)
    | _ => none
  | _ => none

/-- One step of `readLoop`. -/
def Stream.stepRead (st : Stream) : StreamAction → Option (Stream × Effect)
  | .readLoopReads data err =>
    match st.readLoop with
    | .reading none => some (st, .nilDereference)
    | .reading (some c) =>
      if readBufferSize < data.length then none
      else if data.length = 0 then some ({ st with readLoop := afterRead (some c) err }, .none)
      else some ({ st with readLoop := .sending (some c) data err }, .none)
    | _ => none
  | .readLoopSends sent =>
    match st.readLoop with
    | .sending connection data err =>
      some ({ st with readLoop :=
                if sent then afterRead connection err else .failing false closeNetwork },
        .send sent ⟨packetData, st.id, data⟩)
    | _ => none
  | .readLoopFails =>
    match st.readLoop with
    | .failing notify reason =>
      some ({ st.callClose notify reason with readLoop := .returned }, .none)
    | _ => none
  | _ => none

/-- One step of the function under `closeOnce`. -/
def Stream.stepClose (st : Stream) : StreamAction → Option (Stream × Effect)
  | .closeCancels =>
    match st.closing with
    | some ⟨.cancelling, notify, reason⟩ =>
      some ({ st with cancelled := true, closing := some ⟨.deleting, notify, reason⟩ }, .none)
    | _ => none
  | .closeDeletes =>
    match st.closing with
    | some ⟨.deleting, notify, reason⟩ =>
      some ({ st with closing := some ⟨.closingConn, notify, reason⟩ }, ⟨[], true, false⟩)
    | _ => none
  | .closeClosesConn =>
    match st.closing with
    | some ⟨.closingConn, notify, reason⟩ =>
      some ({ st with
          closed := st.closed ++ st.conn.toList
          closing := some ⟨if notify then .notifying else .done, notify, reason⟩ }, .none)
    | _ => none
  | .closeNotifies sent =>
    match st.closing with
    | some ⟨.notifying, notify, reason⟩ =>
      some ({ st with closing := some ⟨.done, notify, reason⟩ },
        .send sent (closeFrame st.id reason))
    | _ => none
  | _ => none

/-- One step of `connect`. -/
def Stream.stepConnect (ctxDone : Bool) (st : Stream) : StreamAction → Option (Stream × Effect)
  | .dialReturns result =>
    match st.connect with
    | .dialing _ _ => some ({ st with connect := .dialed result }, .none)
    | _ => none
  | .publish =>
    match st.connect with
    | .dialed result => some (st.publish ctxDone result, .none)
    | _ => none
  | .connectFails =>
    match st.connect with
    | .failing reason => some ({ st.callClose true reason with connect := .returned }, .none)
    | _ => none
  | _ => none

/-- One step of one goroutine of the stream; `serverDone` is the server's context, the
    parent of the stream's own. -/
def Stream.step (serverDone : Bool) (st : Stream) (a : StreamAction) : Option (Stream × Effect) :=
  match a with
  | .dialReturns _ | .publish | .connectFails => st.stepConnect (st.cancelled || serverDone) a
  | .writeLoopStops | .writeLoopReady | .writeLoopLoads | .writeLoopTakes
  | .writeLoopWrites _ _ | .writeLoopConsumes | .writeLoopMeasures | .writeLoopAnnounces _
  | .writeLoopFails => st.stepWrite serverDone a
  | .readLoopReads _ _ | .readLoopSends _ | .readLoopFails => st.stepRead a
  | .closeCancels | .closeDeletes | .closeClosesConn | .closeNotifies _ => st.stepClose a

/-! ### What a step can do

`Stream.Step` lists the steps of all goroutines of a stream once, with their guards.
-/

/-- The ways in which a stream can take a step. -/
inductive Stream.Step (serverDone : Bool) (st : Stream) : StreamAction → Stream → Effect → Prop
  | dialed (result : DialResult) (hostname : List UInt8) (port : UInt16)
      (hc : st.connect = .dialing hostname port) :
      Step serverDone st (.dialReturns result) { st with connect := .dialed result } .none
  | published (result : DialResult) (hc : st.connect = .dialed result) :
      Step serverDone st .publish (st.publish (st.cancelled || serverDone) result) .none
  | connectFailed (reason : UInt8) (hc : st.connect = .failing reason) :
      Step serverDone st .connectFails { st.callClose true reason with connect := .returned } .none
  | writeStopped :
      Step serverDone st .writeLoopStops { st with writeLoop := .returned } .none
  | writeReady (hw : st.writeLoop = .waiting) :
      Step serverDone st .writeLoopReady { st with writeLoop := .loading } .none
  | writeAbsent (hw : st.writeLoop = .loading) (hconn : st.conn = none) :
      Step serverDone st .writeLoopLoads { st with writeLoop := .returned } .none
  | writeLoaded (c : Conn) (hw : st.writeLoop = .loading) (hconn : st.conn = some c) :
      Step serverDone st .writeLoopLoads { st with writeLoop := .selecting (some c) 0 } .none
  | took (connection : Option Conn) (consumed : Nat) (payload : List UInt8)
      (rest : List (List UInt8)) (hw : st.writeLoop = .selecting connection consumed)
      (hq : st.write = payload :: rest) :
      Step serverDone st .writeLoopTakes
        { st with write := rest, writeLoop := .writing connection payload consumed } .none
  | writeNil (written : Nat) (failed : Bool) :
      Step serverDone st (.writeLoopWrites written failed) st .nilDereference
  | wrote (c : Conn) (data : List UInt8) (consumed written : Nat) (failed : Bool)
      (hw : st.writeLoop = .writing (some c) data consumed) (hle : written ≤ data.length) :
      Step serverDone st (.writeLoopWrites written failed)
        { st with
          written := st.written ++ data.take written
          writeLoop := .writing (some c) (data.drop written) consumed } .none
  | writeEnded (c : Conn) (data : List UInt8) (consumed written : Nat) (failed : Bool)
      (hw : st.writeLoop = .writing (some c) data consumed) (hle : written ≤ data.length) :
      Step serverDone st (.writeLoopWrites written failed)
        { st with
          written := st.written ++ data.take written
          writeLoop := .failing true closeNetwork } .none
  | counted (connection : Option Conn) (consumed : Nat)
      (hw : st.writeLoop = .writing connection [] consumed)
      (hlt : consumed + 1 < continueThreshold) :
      Step serverDone st .writeLoopConsumes
        { st with writeLoop := .selecting connection (consumed + 1) } .none
  | filled (connection : Option Conn) (consumed : Nat)
      (hw : st.writeLoop = .writing connection [] consumed)
      (hge : continueThreshold ≤ consumed + 1) :
      Step serverDone st .writeLoopConsumes { st with writeLoop := .measuring connection } .none
  | measured (connection : Option Conn) (hw : st.writeLoop = .measuring connection) :
      Step serverDone st .writeLoopMeasures
        { st with
          writeLoop := .announcing connection (initialPacketAllowance - st.write.length) } .none
  | announced (connection : Option Conn) (remaining : Nat)
      (hw : st.writeLoop = .announcing connection remaining) :
      Step serverDone st (.writeLoopAnnounces true)
        { st with writeLoop := .selecting connection 0 } ⟨[continueFrame st.id remaining], false, false⟩
  | announceFailed (connection : Option Conn) (remaining : Nat)
      (hw : st.writeLoop = .announcing connection remaining) :
      Step serverDone st (.writeLoopAnnounces false)
        { st with writeLoop := .failing false closeNetwork } .none
  | writeFailed (notify : Bool) (reason : UInt8) (hw : st.writeLoop = .failing notify reason) :
      Step serverDone st .writeLoopFails
        { st.callClose notify reason with writeLoop := .returned } .none
  | readNil (data : List UInt8) (err : Option ReadError) (hr : st.readLoop = .reading none) :
      Step serverDone st (.readLoopReads data err) st .nilDereference
  | readNothing (c : Conn) (err : Option ReadError) (hr : st.readLoop = .reading (some c)) :
      Step serverDone st (.readLoopReads [] err)
        { st with readLoop := afterRead (some c) err } .none
  | read (c : Conn) (data : List UInt8) (err : Option ReadError)
      (hr : st.readLoop = .reading (some c)) (hne : data ≠ []) :
      Step serverDone st (.readLoopReads data err)
        { st with readLoop := .sending (some c) data err } .none
  | forwarded (connection : Option Conn) (data : List UInt8) (err : Option ReadError)
      (hr : st.readLoop = .sending connection data err) :
      Step serverDone st (.readLoopSends true)
        { st with readLoop := afterRead connection err } ⟨[⟨packetData, st.id, data⟩], false, false⟩
  | forwardFailed (connection : Option Conn) (data : List UInt8) (err : Option ReadError)
      (hr : st.readLoop = .sending connection data err) :
      Step serverDone st (.readLoopSends false)
        { st with readLoop := .failing false closeNetwork } .none
  | readFailed (notify : Bool) (reason : UInt8) (hr : st.readLoop = .failing notify reason) :
      Step serverDone st .readLoopFails
        { st.callClose notify reason with readLoop := .returned } .none
  | closeCancelled (notify : Bool) (reason : UInt8)
      (hc : st.closing = some ⟨.cancelling, notify, reason⟩) :
      Step serverDone st .closeCancels
        { st with cancelled := true, closing := some ⟨.deleting, notify, reason⟩ } .none
  | closeDeleted (notify : Bool) (reason : UInt8)
      (hc : st.closing = some ⟨.deleting, notify, reason⟩) :
      Step serverDone st .closeDeletes
        { st with closing := some ⟨.closingConn, notify, reason⟩ } ⟨[], true, false⟩
  | closeClosed (notify : Bool) (reason : UInt8)
      (hc : st.closing = some ⟨.closingConn, notify, reason⟩) :
      Step serverDone st .closeClosesConn
        { st with
          closed := st.closed ++ st.conn.toList
          closing := some ⟨if notify then .notifying else .done, notify, reason⟩ } .none
  | closeNotified (sent notify : Bool) (reason : UInt8)
      (hc : st.closing = some ⟨.notifying, notify, reason⟩) :
      Step serverDone st (.closeNotifies sent)
        { st with closing := some ⟨.done, notify, reason⟩ } (.send sent (closeFrame st.id reason))

/-- **Inversion.**  Every step of a stream is one of the listed ones. -/
theorem Stream.step_cases {serverDone : Bool} {st st' : Stream} {a : StreamAction}
    {effect : Effect} (h : st.step serverDone a = some (st', effect)) :
    st.Step serverDone a st' effect := by
  cases a with
  | dialReturns result =>
    simp only [Stream.step, Stream.stepConnect] at h
    split at h <;> cases h
    exact .dialed result _ _ ‹_›
  | publish =>
    simp only [Stream.step, Stream.stepConnect] at h
    split at h <;> cases h
    exact .published _ ‹_›
  | connectFails =>
    simp only [Stream.step, Stream.stepConnect] at h
    split at h <;> cases h
    exact .connectFailed _ ‹_›
  | writeLoopStops =>
    simp only [Stream.step, Stream.stepWrite] at h
    split at h
    · split at h <;> cases h
      exact .writeStopped
    · split at h <;> cases h
      exact .writeStopped
    · cases h
  | writeLoopReady =>
    simp only [Stream.step, Stream.stepWrite] at h
    split at h
    · split at h <;> cases h
      exact .writeReady ‹_›
    · cases h
  | writeLoopLoads =>
    simp only [Stream.step, Stream.stepWrite] at h
    split at h
    · split at h <;> cases h
      · exact .writeAbsent ‹_› ‹_›
      · exact .writeLoaded _ ‹_› ‹_›
    · cases h
  | writeLoopTakes =>
    simp only [Stream.step, Stream.stepWrite] at h
    split at h <;> cases h
    exact .took _ _ _ _ ‹_› ‹_›
  | writeLoopWrites written failed =>
    simp only [Stream.step, Stream.stepWrite] at h
    split at h
    · cases h
      exact .writeNil written failed
    · rename_i c b data consumed hw
      split at h
      · cases h
      · rename_i hle
        split at h <;> cases h
        · exact .writeEnded c _ consumed written failed hw (Nat.le_of_not_lt hle)
        · exact .wrote c _ consumed written failed hw (Nat.le_of_not_lt hle)
    · cases h
  | writeLoopConsumes =>
    simp only [Stream.step, Stream.stepWrite] at h
    split at h
    · split at h <;> cases h
      · exact .filled _ _ ‹_› ‹_›
      · exact .counted _ _ ‹_› (Nat.lt_of_not_le ‹_›)
    · cases h
  | writeLoopMeasures =>
    simp only [Stream.step, Stream.stepWrite] at h
    split at h <;> cases h
    exact .measured _ ‹_›
  | writeLoopAnnounces sent =>
    simp only [Stream.step, Stream.stepWrite] at h
    split at h <;> cases h
    cases sent with
    | true => exact .announced _ _ ‹_›
    | false => exact .announceFailed _ _ ‹_›
  | writeLoopFails =>
    simp only [Stream.step, Stream.stepWrite] at h
    split at h <;> cases h
    exact .writeFailed _ _ ‹_›
  | readLoopReads data err =>
    simp only [Stream.step, Stream.stepRead] at h
    split at h
    · cases h
      exact .readNil data err ‹_›
    · split at h
      · cases h
      split at h
      · rename_i hempty
        cases h
        rw [List.eq_nil_of_length_eq_zero hempty]
        exact .readNothing _ err ‹_›
      · rename_i hempty
        cases h
        exact .read _ data err ‹_› (fun hnil => hempty (by rw [hnil]; rfl))
    · cases h
  | readLoopSends sent =>
    simp only [Stream.step, Stream.stepRead] at h
    split at h <;> cases h
    cases sent with
    | true => exact .forwarded _ _ _ ‹_›
    | false => exact .forwardFailed _ _ _ ‹_›
  | readLoopFails =>
    simp only [Stream.step, Stream.stepRead] at h
    split at h <;> cases h
    exact .readFailed _ _ ‹_›
  | closeCancels =>
    simp only [Stream.step, Stream.stepClose] at h
    split at h <;> cases h
    exact .closeCancelled _ _ ‹_›
  | closeDeletes =>
    simp only [Stream.step, Stream.stepClose] at h
    split at h <;> cases h
    exact .closeDeleted _ _ ‹_›
  | closeClosesConn =>
    simp only [Stream.step, Stream.stepClose] at h
    split at h <;> cases h
    exact .closeClosed _ _ ‹_›
  | closeNotifies sent =>
    simp only [Stream.step, Stream.stepClose] at h
    split at h <;> cases h
    exact .closeNotified sent _ _ ‹_›

end WebVPN.Wisp
