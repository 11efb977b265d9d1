import WebVPN.Library.System
import WebVPN.Browser.Direct

namespace WebVPN.Browser

open WebVPN.Library

/-!
# Browser — the page

`web/src/app.ts`, as far as it opens, restarts and closes direct connections.  The page runs one step at a
time: a user action, or what one of its asynchronous functions does between two waits.

* `Page` — the variable `direct` with the objects it may lead to, the calls of `connect` (`Attempt`) and of
  `restart` (`Restart`) that have not returned, the timers, and the elements of the page that are read or
  that tell the user how it stands;
* `Page.failP2P`, `Page.fail` — the failure handler of the page, and `fail` of a connection, which calls it;
* `Page.step` — the user's actions, the ends of waits, and the events of a peer.
-/

/-! ### The state -/

/-- Who has called `connect`: a service button, the form for a temporary target, or `initialize`. -/
inductive Caller
  | portal
  | temporary
  | initial
deriving DecidableEq, Repr

/-- Where a call of `connect` is: `connectFromPortal` waits for the configuration; `connect` waits for
    `agentOnline`, for `connect` of the connection it has made, for `transport.init` and for `loadRemote`. -/
inductive AttemptPC
  | preparing
  | checking
  | connecting (c : Nat) (stage : Stage)
  | loading (c : Nat)
  | showing (c : Nat)
  | settled
deriving DecidableEq, Repr

/-- A call of `connect`. -/
structure Attempt where
  caller : Caller
  displayName : String
  pc : AttemptPC
deriving DecidableEq, Repr

/-- The connection that the call has made. -/
def Attempt.connection (x : Attempt) : Option Nat :=
  match x.pc with
  | .connecting c _ | .loading c | .showing c => some c
  | _ => none

/-- The call has begun and has not settled. -/
def Attempt.inFlight (x : Attempt) : Bool :=
  match x.pc with
  | .preparing | .settled => false
  | _ => true

/-- Where a call of `restart` is: in its `try` block, in the pause before it calls itself, or on the way
    back from such a call. -/
inductive RestartPC
  | running (stage : Stage)
  | waiting
  | returning
  | returned
deriving DecidableEq, Repr

/-- A call of `restart`; `outer` is the number of calls that wait for it. -/
structure Restart where
  connection : Nat
  outer : Nat
  pc : RestartPC
deriving DecidableEq, Repr

/-- The page.  A timer is that of the connection with this reference. -/
structure Page where
  temporary : Bool
  initialized : Bool
  connections : List Connection
  direct : Option Nat
  attempts : List Attempt
  restarts : List Restart
  timers : List Nat
  status : String
  restartDisabled : Bool
  disconnectDisabled : Bool
  temporaryDisabled : Bool
deriving DecidableEq, Repr

/-- The page as it is loaded; `temporary` says whether it is the entry of a temporary service. -/
def Page.new (temporary : Bool) : Page where
  temporary := temporary
  initialized := false
  connections := []
  direct := none
  attempts := []
  restarts := []
  timers := []
  status := ""
  restartDisabled := true
  disconnectDisabled := true
  temporaryDisabled := false

/-- What a failure belongs to: a call of `connect`, a connection (or a restart of it), or the user's
    input. -/
inductive Work
  | attempt (i : Nat)
  | connection (c : Nat)
  | input
deriving DecidableEq, Repr

/-- A failure that the user is told of. -/
structure Report where
  work : Work
  message : String
deriving DecidableEq, Repr

/-! ### Failures -/

/-- One connection changes. -/
def Page.modify (s : Page) (c : Nat) (f : Connection → Connection) : Page :=
  { s with connections := s.connections.modify c f }

/-- `direct?.close()`. -/
def Page.closeDirect (s : Page) : Page :=
  match s.direct with
  | none => s
  | some c => s.modify c Connection.close

/-- The text of a failure. -/
def p2pFailure (message : String) : String :=
  "当前网络无法建立点对点连接。\n\n" ++
  "可能原因：对称 NAT、运营商 CGNAT 限制、UDP 被阻断，或企业、校园、公共网络防火墙限制。\n\n" ++
  "可尝试：切换至其他网络；使用手机热点；检查 OpenWrt 出站防火墙；使用现有 RustDesk 备用入口。\n\n" ++
  "连接已明确终止；系统不会尝试 TURN、relay 或服务器中继。\n\n" ++
  "详情：" ++ message

/-- `failP2P`. -/
def Page.failP2P (s : Page) (message : String) : Page :=
  { s.closeDirect with
    restartDisabled := true
    disconnectDisabled := true
    status := p2pFailure message }

/-- `fail` of a connection, with `failP2P` as its hook. -/
def Page.fail (s : Page) (c : Nat) (message : String) : Page :=
  (s.modify c Connection.close).failP2P message

/-! ### Calls of `connect` -/

/-- A call of `connect` moves on. -/
def Page.setAttempt (s : Page) (i : Nat) (x : Attempt) (pc : AttemptPC) : Page :=
  { s with attempts := s.attempts.set i { x with pc := pc } }

/-- `connect` up to its first wait, except that the caller puts the call into the list. -/
def Page.enter (s : Page) (displayName : String) : Page :=
  { s.closeDirect with
    restartDisabled := true
    disconnectDisabled := false
    status := "正在连接 " ++ displayName ++ "…" }

/-- A status, if there is one. -/
def Page.setStatus (s : Page) (status : Option String) : Page :=
  { s with status := status.getD s.status }

/-- `connect` has thrown before its `try` block, and its caller goes on. -/
def Page.callerFails (s : Page) (i : Nat) (x : Attempt) (message : String) : Page × Option Report :=
  match x.caller with
  | .portal => (s.setAttempt i x .settled, none)
  | .temporary =>
    ({ (s.failP2P message).setAttempt i x .settled with temporaryDisabled := false },
      some ⟨.attempt i, message⟩)
  | .initial =>
    ({ s.setAttempt i x .settled with status := "无法初始化 WebVPN：" ++ message },
      some ⟨.attempt i, message⟩)

/-- The `catch` block of `connect`, and the answer that the Agent is offline. -/
def Page.attemptFails (s : Page) (i : Nat) (x : Attempt) (message : String) : Page × Option Report :=
  ((s.failP2P message).setAttempt i x .settled, some ⟨.attempt i, message⟩)

/-- One step of a call of `connect`. -/
def Page.stepAttempt (s : Page) (i : Nat) (x : Attempt) (outcome : Outcome) :
    Option (Page × Option Report) :=
  match x.pc, outcome with
  | .preparing, .resolved => some ((s.enter x.displayName).setAttempt i x .checking, none)
  | .preparing, .rejected _ => some (s.setAttempt i x .settled, none)
  | .checking, .online true =>
    let c := s.connections.length
    some ({ s.setAttempt i x (.connecting c .offering) with
      connections := s.connections ++ [Connection.new]
      direct := some c
      status := "正在收集候选" }, none)
  | .checking, .online false => some (s.attemptFails i x "OpenWrt Agent 当前离线")
  | .checking, .rejected message => some (s.callerFails i x message)
  | .connecting c stage, outcome =>
    match s.connections[c]? with
    | none => none
    | some conn =>
      match resumeConnect conn.closed (x.caller = .temporary) stage outcome with
      | none => none
      | some (.next stage' status) => some ((s.setAttempt i x (.connecting c stage')).setStatus status, none)
      | some (.done status) => some ((s.setAttempt i x (.loading c)).setStatus (some status), none)
      | some (.throws message) => some (s.attemptFails i x message)
  | .loading c, .resolved => some (s.setAttempt i x (.showing c), none)
  | .showing _, .resolved => some ({ s.setAttempt i x .settled with restartDisabled := false }, none)
  | .loading _, .rejected message | .showing _, .rejected message => some (s.attemptFails i x message)
  | _, _ => none

/-! ### Calls of `restart` -/

/-- A call of `restart` of a connection. -/
def Page.restart (s : Page) (c : Nat) : Option (Page × Option Report) :=
  match s.connections[c]? with
  | none => none
  | some conn =>
    match conn.restart with
    | .returns => some (s, none)
    | .exhausted => some (s.fail c restartExhausted, some ⟨.connection c, restartExhausted⟩)
    | .starts =>
      some ({ s.modify c Connection.start with
        status := restartStatus conn.start
        restarts := s.restarts ++ [⟨c, 0, .running .offering⟩] }, none)

/-- A call of `restart` moves on. -/
def Page.setRestart (s : Page) (r : Nat) (x : Restart) : Page :=
  { s with restarts := s.restarts.set r x }

/-- The `finally` block; `outer` calls wait for this one. -/
def Page.restartReturns (s : Page) (r : Nat) (x : Restart) : Page :=
  (s.modify x.connection Connection.rest).setRestart r
    { x with pc := if x.outer = 0 then .returned else .returning }

/-- One step of a call of `restart`. -/
def Page.stepRestart (s : Page) (r : Nat) (x : Restart) (outcome : Outcome) :
    Option (Page × Option Report) :=
  match s.connections[x.connection]? with
  | none => none
  | some conn =>
    match x.pc, outcome with
    | .running stage, outcome =>
      match resumeRestart conn.closed stage outcome with
      | none => none
      | some (.next stage' status) =>
        some ((s.setRestart r { x with pc := .running stage' }).setStatus status, none)
      | some (.done status) => some ((s.restartReturns r x).setStatus (some status), none)
      | some (.throws message) =>
        if conn.retries then some (s.setRestart r { x with pc := .waiting }, none)
        else
          some ((s.fail x.connection message).restartReturns r x,
            some ⟨.connection x.connection, message⟩)
    | .waiting, .resolved =>
      -- `this.restarting = false`, and the call of itself
      let s := s.modify x.connection Connection.rest
      let x := { x with outer := x.outer + 1 }
      match conn.rest.restart with
      | .returns => some (s.setRestart r { x with pc := .returning }, none)
      | .exhausted =>
        some ((s.fail x.connection restartExhausted).setRestart r { x with pc := .returning },
          some ⟨.connection x.connection, restartExhausted⟩)
      | .starts =>
        some ({ (s.modify x.connection Connection.start).setRestart r
            { x with pc := .running .offering } with
          status := restartStatus conn.rest.start }, none)
    | .returning, .resolved => some (s.restartReturns r { x with outer := x.outer - 1 }, none)
    | _, _ => none

/-! ### The steps -/

/-- The user's actions, the ends of waits, and the events of peers and timers. -/
inductive Action
  | openService (displayName : String)
  | openTemporary (displayName : String)
  | invalidTarget (message : String)
  | loaded (displayName : String)
  | disconnect
  | logout
  | unload
  | restart
  | attempt (i : Nat) (outcome : Outcome)
  | restarted (r : Nat) (outcome : Outcome)
  | stateChanged (c : Nat)
  | timer (k : Nat) (connected : Bool)
  | relayCandidate (c : Nat)
deriving DecidableEq, Repr

/-- The page calls `connect` itself, without waiting before it. -/
def Page.begin (s : Page) (caller : Caller) (displayName : String) : Page :=
  { s.enter displayName with attempts := s.attempts ++ [⟨caller, displayName, .checking⟩] }

/-- One step of the page. -/
def Page.step (s : Page) : Action → Option (Page × Option Report)
  | .openService displayName =>
    if s.temporary then none
    else some ({ s with attempts := s.attempts ++ [⟨.portal, displayName, .preparing⟩] }, none)
  | .openTemporary displayName =>
    if s.temporary = false ∨ s.temporaryDisabled then none
    else some ({ s.begin .temporary displayName with temporaryDisabled := true }, none)
  | .invalidTarget message =>
    if s.temporary = false ∨ s.temporaryDisabled then none
    else some ({ s.failP2P message with temporaryDisabled := false }, some ⟨.input, message⟩)
  | .loaded displayName =>
    if s.temporary ∨ s.initialized then none
    else some ({ s.begin .initial displayName with initialized := true }, none)
  | .disconnect =>
    if s.disconnectDisabled then none
    else
      some ({ s.closeDirect with
        direct := none
        restartDisabled := true
        disconnectDisabled := true
        status := "已断开。" }, none)
  | .logout => some (s.closeDirect, none)
  | .unload => some (s.closeDirect, none)
  | .restart =>
    if s.restartDisabled then none
    else
      match s.direct with
      | none => some (s, none)
      | some c => s.restart c
  | .attempt i outcome =>
    match s.attempts[i]? with
    | none => none
    | some x => s.stepAttempt i x outcome
  | .restarted r outcome =>
    match s.restarts[r]? with
    | none => none
    | some x => s.stepRestart r x outcome
  | .stateChanged c =>
    match s.connections[c]? with
    | none => none
    | some conn =>
      if conn.closed || !conn.peer then some (s, none) else some ({ s with timers := s.timers ++ [c] }, none)
  | .timer k connected =>
    match s.timers[k]? with
    | none => none
    | some c =>
      match s.connections[c]? with
      | none => none
      | some conn =>
        let s := { s with timers := s.timers.eraseIdx k }
        if conn.peer && !connected then s.restart c else some (s, none)
  | .relayCandidate c =>
    match s.connections[c]? with
    | none => none
    | some conn =>
      -- a closed peer gathers no candidates
      if conn.peer then
        some (s.fail c "检测到被禁止的 relay candidate",
          some ⟨.connection c, "检测到被禁止的 relay candidate"⟩)
      else none

/-- The page as a transition system. -/
def pageSystem (temporary : Bool) : System Page Action (Option Report) where
  init := Page.new temporary
  step := Page.step

end WebVPN.Browser
