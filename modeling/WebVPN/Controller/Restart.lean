import WebVPN.Controller.Requests

namespace WebVPN.Controller

open WebVPN.Library WebVPN.Storage WebVPN.Storage.Store

/-!
# Controller — how long an ICE restart is possible

An ICE restart needs two leases: that of the browser session, which every `Lookup` renews, and
that of the broker entry of the connection it restarts, which nothing renews.  The second one
ends two minutes after the entry was made, so it is the one that decides.

* `Event.createResult` — how `Signals.Create` ended in a step;
* `RestartRequest` — a restart of a connection of the same browser session, with a valid offer;
* `run_restart` — such a restart is accepted exactly while the entry of the connection is alive;
* `restart_refused_after_expiry` — a session that is alive, and a restart that is refused.
-/

/-- The handler that an action moves on. -/
def Action.handler? : Action → Option Nat
  | .offer i _ => some i
  | .commit i _ _ => some i
  | .abandon i => some i
  | _ => none

/-- What `Signals.Create` returned in a step. -/
def Event.createResult (e : Event) : Option (Except String String) :=
  match e.signal with
  | some (_, .rejected _ message) => some (.error message)
  | some (_, .refused _ _ message) => some (.error message)
  | some (_, .created _ id _) => some (.ok id)
  | _ => none

/-- The handler has looked up its browser session and asks to restart a connection of that
    session, which the broker accepted at `created` with the request `previous`. -/
structure RestartRequest (u : Unicode) (earlier : History) (handler : Handler)
    (previous : Signaling.CreateRequest) (created : Int) : Prop where
  restart : handler.input.restartOf ≠ ""
  offer : Signaling.validateDescription u handler.input.offer "offer" = .ok ()
  accepted : .created previous handler.input.restartOf created ∈ signals earlier
  same_session : previous.browserSessionID = handler.input.browserSessionID

section Requests

variable {u : Unicode} {record : Record} {previous request : Signaling.CreateRequest}

/-- Two requests for one session belong together in the eyes of the broker. -/
theorem Grants.continues (hprevious : Grants record previous) (hrequest : Grants record request)
    (events : List Signaling.Event) (id : String) (created : Int) :
    request.continues (Signaling.ledgerEntry events previous id created) = true := by
  have hentry : request.continues (Signaling.ledgerEntry events previous id created) =
      request.continues (previous.entry id created) := rfl
  rw [hentry]
  simp [Signaling.CreateRequest.continues, Signaling.CreateRequest.entry, hprevious.agent,
    hrequest.agent, hprevious.session, hrequest.session, hprevious.service, hrequest.service,
    hprevious.user, hrequest.user, hprevious.capability, hrequest.capability, hprevious.temporary,
    hrequest.temporary]

/-- A request for a session that the broker has seen fails the checks before the lock only by its
    offer. -/
theorem Grants.check (hprevious : Grants record previous) (hrequest : Grants record request)
    (hcheck : previous.check u = .ok ())
    (hoffer : Signaling.validateDescription u request.offer "offer" = .ok ()) :
    request.check u = .ok () := by
  simp only [Signaling.CreateRequest.check, then_eq_ok, reject_eq_ok] at hcheck ⊢
  rw [hprevious.agent, hprevious.session, hprevious.service, hprevious.user,
    hprevious.capability] at hcheck
  rw [hrequest.agent, hrequest.session, hrequest.service, hrequest.user, hrequest.capability]
  exact ⟨hcheck.1, hcheck.2.1, hoffer⟩

end Requests

section Restart

variable {u : Unicode} {sha256 : List UInt8 → Digest} {agents : Table AgentRow.id} {start : Int}
  {h earlier : History} {c : Server} {handler : Handler} {previous : Signaling.CreateRequest}
  {created : Int}

/-- The restart and the connection it restarts are granted by one session. -/
theorem RestartRequest.granted (hr : (controllerSystem u sha256 agents start).Run h c)
    (hrestart : RestartRequest u h handler previous created) (hhandler : handler ∈ c.handlers) :
    ∃ record, Grants record previous ∧ Grants record handler.request := by
  have hbacked := run_backed hr handler hhandler
  obtain ⟨record, ⟨t, ht, session, hsession, rfl⟩, hprevious⟩ := run_granted hr hrestart.accepted
  obtain ⟨record', ⟨t', ht', session', hsession', rfl⟩, hrequest⟩ := hbacked.grants
  have hid : session.record.id = session'.record.id := by
    rw [← hprevious.session, hrestart.same_session, ← hbacked.restart hrestart.restart,
      ← hrequest.session]
    rfl
  have hsame := Session.run_session_unique (run_sessions hr) ht ht' hsession hsession' (.inl hid)
  rw [← hsame] at hrequest
  exact ⟨session.record, hprevious, hrequest⟩

/-- What the restart check finds: the entry of the connection, if that is still alive. -/
theorem RestartRequest.restarts_iff (hr : (controllerSystem u sha256 agents start).Run h c)
    (hids : ((signals h).filterMap Signaling.Event.drawnID).Nodup)
    (hrestart : RestartRequest u h handler previous created) (hhandler : handler ∈ c.handlers)
    (now : Int) :
    handler.request.restarts (Signaling.pruneLocked now c.broker.sessions) = true ↔
      Signaling.Live (signals h) now handler.input.restartOf previous created := by
  have haccounted : Signaling.Accounted u (signals h) c.broker :=
    Signaling.run_accounted (run_broker hr) hids
  obtain ⟨record, hprevious, hrequest⟩ := hrestart.granted hr hhandler
  have hid : handler.request.restartOf = handler.input.restartOf := rfl
  simp only [Signaling.CreateRequest.restarts, hid, hrestart.restart, decide_false, Bool.false_or]
  constructor
  · intro hany
    obtain ⟨entry, hfind, -⟩ := (Option.any_eq_true _ _).mp hany
    obtain ⟨request', created', hlive, -⟩ := (haccounted.find?_prune now _ entry).mp hfind
    -- an ID is given out once, so the live entry is the one of this connection
    obtain ⟨rfl, rfl⟩ := haccounted.created_unique _ _ _ _ _ hlive.1.mem hrestart.accepted
    exact hlive
  · intro hlive
    refine (Option.any_eq_true _ _).mpr ⟨_, (haccounted.find?_prune now _ _).mpr
      ⟨previous, created, hlive, rfl⟩, ?_⟩
    exact hprevious.continues hrequest _ _ _

/-- **An ICE restart lasts as long as the broker entry.**  A browser session that is looked up
    may restart a connection exactly until a lock section of the broker, that of the restart
    included, reads the clock two minutes after the connection was made or later; the lease of
    the session plays no part in it. -/
theorem run_restart {t : Transition Server Action Event} {i : Nat} {result : Except String String}
    (hr : (controllerSystem u sha256 agents start).Run (t :: earlier) c)
    (hids : ((signals (t :: earlier)).filterMap Signaling.Event.drawnID).Nodup)
    (haction : t.action.handler? = some i) (hhandler : t.before.handlers[i]? = some handler)
    (hrestart : RestartRequest u earlier handler previous created)
    (hresult : t.event.createResult = some result) :
    (∃ id, result = .ok id) ↔
      ∃ call, handler.pc = .signaling call ∧
        Signaling.Live (signals earlier) call.now handler.input.restartOf previous created := by
  obtain ⟨hr', hstep⟩ := System.Run.cons_inv hr
  obtain ⟨before, action, event⟩ := t
  have hstep : before.step u sha256 action = some (c, event) := hstep
  have hmem : handler ∈ before.handlers := List.mem_of_getElem? hhandler
  have hids' : ((signals earlier).filterMap Signaling.Event.drawnID).Nodup := by
    refine hids.sublist (List.Sublist.filterMap _ ?_)
    exact ((List.sublist_cons_self _ _).filterMap brokerPart).map _
  cases action with
  | session | signal | connect | logout | finishLogout => cases haction
  | abandon j =>
    have habandon : before.abandon sha256 j = some (c, event) := hstep
    have hsignal : event.signal = none := (Server.abandon_move (u := u) habandon).2
    simp [Event.createResult, hsignal] at hresult
  | offer j raw =>
    cases haction
    obtain ⟨handler', pc, hhandler', -, -, -, rfl⟩ := Server.offer_inv hstep
    rw [hhandler, Option.some.injEq] at hhandler'
    subst hhandler'
    -- the checks before the lock cannot fail, so nothing has been returned yet
    obtain ⟨record, hprevious, hrequest⟩ := hrestart.granted hr' hmem
    have hcheck : handler.request.check u = .ok () :=
      hprevious.check hrequest ((Signaling.run_checked (run_broker hr')).2 _ _ _ hrestart.accepted)
        hrestart.offer
    simp [Event.createResult, Signaling.Broker.beginCreate, hcheck] at hresult
  | commit j index receiver =>
    cases haction
    obtain ⟨handler', call, broker, signal, _, _, hhandler', hpc, hcall, hcommit, -, -, rfl⟩ :=
      Server.commit_inv hstep
    rw [hhandler, Option.some.injEq] at hhandler'
    subst hhandler'
    have hrequest : call.request = handler.request := (run_backed hr' handler hmem).call call hpc
    have hiff := hrestart.restarts_iff hr' hids' hmem call.now
    rw [← hrequest] at hiff
    rcases Signaling.Broker.commit_event hcall hcommit with ⟨rfl, hrestarts⟩ | ⟨rfl, hrestarts⟩
    · cases hresult
      exact ⟨fun _ => ⟨call, hpc, hiff.mp hrestarts⟩, fun _ => ⟨_, rfl⟩⟩
    · cases hresult
      constructor
      · rintro ⟨id, heq⟩
        cases heq
      · rintro ⟨call', hpc', hlive⟩
        rw [hpc] at hpc'
        cases hpc'
        rw [hiff.mpr hlive] at hrestarts
        cases hrestarts

end Restart

/-! ### A browser that restarts its connection

The browser opens a connection to its temporary service and asks for an ICE restart some time
later.
-/

/-- A hash. -/
def sampleSHA256 (_ : List UInt8) : Digest := Vector.replicate 32 7

/-- The ID of the browser session. -/
def sampleSessionID : String := randomID (Vector.replicate 16 4)

/-- The ID of the signaling session. -/
def sampleConnectionID : String := randomID (Vector.replicate 16 5)

/-- The capability. -/
def sampleToken : String := (newToken sampleSHA256 (Vector.replicate 32 3)).1

/-- A request for a connection. -/
def sampleInput : ConnectionRequest where
  serviceID := Session.sampleService.id
  browserSessionID := ""
  capability := ""
  offer := ⟨"offer", "v=0"⟩
  restartOf := ""

/-- A request to restart it. -/
def sampleRestart : ConnectionRequest :=
  { sampleInput with
    browserSessionID := sampleSessionID
    capability := sampleToken
    restartOf := sampleConnectionID }

/-- What the broker was asked for when the connection was made. -/
def samplePrevious : Signaling.CreateRequest where
  agentID := Session.sampleService.agentID
  browserSessionID := sampleSessionID
  serviceID := Session.sampleService.id
  userDigest := Session.sampleOwner
  capabilityDigest := sampleSHA256 []
  offer := ⟨"offer", "v=0"⟩
  restartOf := ""
  temporary := true

/-- A connection, and a restart some seconds later. -/
def restartAfter (seconds : Nat) : List Action :=
  [.session (.createTemporary Session.sampleOwner ⟨Session.sampleService.agentID, "lab", "http"⟩
      (Vector.replicate 16 1) (Vector.replicate 16 2)),
    .connect Session.sampleOwner sampleInput (Vector.replicate 16 4) (Vector.replicate 32 3) 0,
    .offer 0 (Vector.replicate 16 5), .commit 0 0 none,
    .session (.advance (seconds * 10 ^ 9)),
    .connect Session.sampleOwner sampleRestart (Vector.replicate 16 0) (Vector.replicate 32 0) 0,
    .offer 1 (Vector.replicate 16 6), .commit 1 0 none]

/-- The Controller of the example. -/
def sampleController : System Server Action Event :=
  controllerSystem Unicode.ascii sampleSHA256 Session.sampleAgents 0

/-- What is checked of the run: the last step ends the `Signals.Create` of the restart. -/
def endsRestart (result : Except String String) (h : History) (_ : Server) : Bool :=
  match h with
  | [] => false
  | t :: earlier =>
    match t.before.handlers[1]? with
    | none => false
    | some handler =>
      decide (((signals h).filterMap Signaling.Event.drawnID).Nodup ∧
        t.action.handler? = some 1 ∧ handler.input = sampleRestart ∧
        handler.sessionDigest = Session.sampleOwner ∧
        .created samplePrevious sampleConnectionID 0 ∈ signals earlier ∧
        t.event.createResult = some result ∧
        (Session.lookup sampleSHA256 t.before.store sampleSessionID Session.sampleOwner sampleToken
          t.before.broker.clock).2.toOption.map Record.serviceID = some sampleRestart.serviceID)

theorem endsRestart_spec {result : Except String String} {h : History} {c : Server}
    (hr : sampleController.Run h c) (hc : endsRestart result h c = true) :
    ∃ t earlier handler, sampleController.Run (t :: earlier) c ∧
      ((signals (t :: earlier)).filterMap Signaling.Event.drawnID).Nodup ∧
      t.action.handler? = some 1 ∧ t.before.handlers[1]? = some handler ∧
      RestartRequest Unicode.ascii earlier handler samplePrevious 0 ∧
      (∃ record, (Session.lookup sampleSHA256 t.before.store handler.input.browserSessionID
        handler.sessionDigest handler.input.capability t.before.broker.clock).2 = .ok record ∧
        record.serviceID = handler.input.serviceID) ∧
      t.event.createResult = some result := by
  unfold endsRestart at hc
  split at hc
  · cases hc
  · rename_i t earlier
    split at hc
    · cases hc
    · rename_i handler hhandler
      obtain ⟨hids, haction, hinput, huser, haccepted, hresult, hlookup⟩ := of_decide_eq_true hc
      obtain ⟨record, hrecord, hservice⟩ := Option.map_eq_some_iff.mp hlookup
      refine ⟨t, earlier, handler, hr, hids, haction, hhandler, ⟨?_, ?_, ?_, ?_⟩, ?_, hresult⟩
      · rw [hinput]
        decide +kernel
      · rw [hinput]
        decide +kernel
      · rw [hinput]
        exact haccepted
      · rw [hinput]
        rfl
      · have hok : (Session.lookup sampleSHA256 t.before.store sampleSessionID Session.sampleOwner
            sampleToken t.before.broker.clock).2 = .ok record := by
          generalize (Session.lookup sampleSHA256 _ _ _ _ _).2 = outcome at hrecord
          cases outcome with
          | error e => cases hrecord
          | ok found => cases hrecord; rfl
        rw [hinput, huser]
        exact ⟨record, hok, hservice⟩

/-- A restart after one minute is accepted. -/
theorem run_restart_of_oneMinute : ∃ t earlier c handler result,
    sampleController.Run (t :: earlier) c ∧
    t.before.handlers[1]? = some handler ∧
    RestartRequest Unicode.ascii earlier handler samplePrevious 0 ∧
    t.event.createResult = some result ∧
    ∃ call, handler.pc = .signaling call ∧
      Signaling.Live (signals earlier) call.now handler.input.restartOf samplePrevious 0 := by
  obtain ⟨h, c, hr, hc⟩ := System.exists_run_of_exec (S := sampleController)
    (P := endsRestart (.ok (randomID (Vector.replicate 16 6)))) (restartAfter 60)
    (by decide +kernel)
  obtain ⟨t, earlier, handler, hr, hids, haction, hhandler, hrestart, -, hresult⟩ :=
    endsRestart_spec hr hc
  exact ⟨t, earlier, c, handler, _, hr, hhandler, hrestart, hresult,
    (run_restart hr hids haction hhandler hrestart hresult).mp ⟨_, rfl⟩⟩

/-- **A restart after two minutes is refused**, although the session is alive: `Lookup` succeeds
    in the very state in which the broker refuses. -/
theorem restart_refused_after_expiry : ∃ t earlier c handler,
    sampleController.Run (t :: earlier) c ∧
    ((signals (t :: earlier)).filterMap Signaling.Event.drawnID).Nodup ∧
    t.action.handler? = some 1 ∧ t.before.handlers[1]? = some handler ∧
    RestartRequest Unicode.ascii earlier handler samplePrevious 0 ∧
    (∃ record, (Session.lookup sampleSHA256 t.before.store handler.input.browserSessionID
      handler.sessionDigest handler.input.capability t.before.broker.clock).2 = .ok record ∧
      record.serviceID = handler.input.serviceID) ∧
    t.event.createResult = some (.error Signaling.errRestart) := by
  obtain ⟨h, c, hr, hc⟩ := System.exists_run_of_exec (S := sampleController)
    (P := endsRestart (.error Signaling.errRestart)) (restartAfter 120) (by decide +kernel)
  obtain ⟨t, earlier, handler, hspec⟩ := endsRestart_spec hr hc
  exact ⟨t, earlier, c, handler, hspec⟩

end WebVPN.Controller
