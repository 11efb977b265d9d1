import WebVPN.Library.Text

namespace WebVPN.Browser

/-!
# Browser — a direct connection

`DirectConnection` of `web/src/connection.ts`.  Its methods `connect` and `restart` wait many times; what
they do between two waits is one step, and how a wait ends is an argument of the step.

* `Connection` — the object, with the fields that its methods decide on;
* `Stage`, `Outcome` — where a method waits, and how the wait ends;
* `negotiate` — what `connect` and `restart` have in common: `localOffer`, the request, `waitForAnswer` and
  the answer; `resumeConnect`, `resumeRestart` — the two methods;
* `Connection.restart` — what a call of `restart` finds.
-/

/-- How often a connection may be restarted. -/
def maxRestarts : Nat := 2

/-- A `DirectConnection`.  It has one peer in its life, so that `peer` says whether it is set; a closed
    connection has none. -/
structure Connection where
  peer : Bool
  closed : Bool
  restarting : Bool
  restartCount : Nat
  live : peer = true → closed = false
deriving DecidableEq, Repr

/-- A new object whose `connect` has been called: it has closed itself, which does nothing yet, and has
    made its peer. -/
def Connection.new : Connection where
  peer := true
  closed := false
  restarting := false
  restartCount := 0
  live _ := rfl

/-- `close`. -/
def Connection.close (conn : Connection) : Connection where
  peer := false
  closed := true
  restarting := conn.restarting
  restartCount := 0
  live h := by cases h

/-! ### Waiting -/

/-- Where `connect` or `restart` waits: for `createOffer`, `setLocalDescription`, the end of gathering,
    the request for a connection, its status, the pause in between, `setRemoteDescription`; then for the
    channels, their authentication, the temporary target, the peer to be connected again, and for the
    selected pair. -/
inductive Stage
  | offering
  | describing
  | gathering
  | creating
  | polling
  | pausing
  | accepting
  | opening
  | authenticating
  | configuring
  | reconnecting
  | measuring
deriving DecidableEq, Repr

/-- How a wait ends.  `pending`, `answered` and `failed` are the states of a connection request;
    `answered` says whether the answer names a relay, and `elapsed` whether the deadline is over. -/
inductive Outcome
  | resolved
  | rejected (message : String)
  | online (value : Bool)
  | pending
  | answered (relay : Bool)
  | failed (code : Option String)
  | elapsed (late : Bool)
  | measured (lan : Bool)
deriving DecidableEq, Repr

/-- What a method does when it goes on: it waits again, possibly with a new status, returns, or throws. -/
inductive Progress
  | next (stage : Stage) (status : Option String)
  | done (status : String)
  | throws (message : String)
deriving DecidableEq, Repr

/-- `failureMessage`. -/
def failureMessage (code : Option String) : String :=
  match code.getD "agent_rejected" with
  | "invalid_offer" => "Agent 拒绝了无效连接描述"
  | "invalid_capability" => "临时会话授权无效"
  | "service_blocked" => "Agent 未授权该服务"
  | "peer_setup_failed" => "Agent 无法创建 P2P 连接"
  | "restart_rejected" => "Agent 拒绝了 ICE 重启"
  | "negotiation_failed" => "P2P 协商失败"
  | _ => "Agent 拒绝了连接"

/-- The status once the selected pair is known. -/
def directStatus (lan : Bool) : String :=
  "P2P UDP · " ++ if lan then "局域网直连" else "公网映射直连"

/-- The message of `waitForAnswer`. -/
def answerTimeout : String := "等待 OpenWrt Agent 应答超时"

/-- `localOffer`, the request for a connection, `waitForAnswer` and the answer; `after` is what follows.
    The loop of `waitForAnswer` goes on while the connection is not closed. -/
def negotiate (closed : Bool) (after : Progress) : Stage → Outcome → Option Progress
  | .offering, .resolved => some (.next .describing none)
  | .describing, .resolved => some (.next .gathering none)
  | .gathering, .resolved => some (.next .creating none)
  | .creating, .resolved => some (if closed then .throws answerTimeout else .next .polling none)
  | .polling, .pending => some (.next .pausing none)
  | .polling, .answered relay =>
    some (if relay then .throws "连接描述包含被禁止的 relay candidate" else .next .accepting none)
  | .polling, .failed code => some (.throws (failureMessage code))
  | .pausing, .elapsed late =>
    some (if closed || late then .throws answerTimeout else .next .polling none)
  | .pausing, _ => none
  | .accepting, .resolved => some after
  | _, .rejected message => some (.throws message)
  | _, _ => none

/-- `connect`, after a wait. -/
def resumeConnect (closed temporary : Bool) : Stage → Outcome → Option Progress
  | .opening, .resolved => some (.next .authenticating none)
  | .authenticating, .resolved => some (.next (if temporary then .configuring else .measuring) none)
  | .configuring, .resolved => some (.next .measuring none)
  | .measuring, .measured lan => some (.done (directStatus lan))
  | stage, outcome => negotiate closed (.next .opening (some "正在建立 P2P")) stage outcome

/-- The `try` block of `restart`, after a wait. -/
def resumeRestart (closed : Bool) : Stage → Outcome → Option Progress
  | .reconnecting, .resolved => some (.next .measuring none)
  | .measuring, .measured lan => some (.done (directStatus lan))
  | stage, outcome => negotiate closed (.next .reconnecting none) stage outcome

/-! ### Restarting -/

/-- What a call of `restart` finds: nothing to do, no restart left, or a peer to restart. -/
inductive RestartCall
  | returns
  | exhausted
  | starts
deriving DecidableEq, Repr

/-- The guards of `restart`. -/
def Connection.restart (conn : Connection) : RestartCall :=
  if !conn.peer || conn.closed || conn.restarting then .returns
  else if maxRestarts ≤ conn.restartCount then .exhausted
  else .starts

/-- The message when no restart is left. -/
def restartExhausted : String := "ICE 重启次数已耗尽"

/-- `restart` up to its first wait. -/
def Connection.start (conn : Connection) : Connection :=
  { conn with restarting := true, restartCount := conn.restartCount + 1 }

/-- The status when the connection restarts. -/
def restartStatus (conn : Connection) : String :=
  "ICE 重启中（" ++ toString conn.restartCount ++ "/" ++ toString maxRestarts ++ "）"

/-- `this.restarting = false`. -/
def Connection.rest (conn : Connection) : Connection := { conn with restarting := false }

/-- The `catch` block of `restart` tries once more. -/
def Connection.retries (conn : Connection) : Bool := conn.restartCount < maxRestarts && !conn.closed

@[simp] theorem Connection.close_closed (conn : Connection) : conn.close.closed = true := rfl
@[simp] theorem Connection.start_closed (conn : Connection) : conn.start.closed = conn.closed := rfl
@[simp] theorem Connection.rest_closed (conn : Connection) : conn.rest.closed = conn.closed := rfl

end WebVPN.Browser
