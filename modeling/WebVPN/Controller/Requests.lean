import WebVPN.Controller.Server
import WebVPN.Session.SessionLease
import WebVPN.Signaling.HandOff

namespace WebVPN.Controller

open WebVPN.Library WebVPN.Storage WebVPN.Storage.Store

/-!
# Controller — the components in a run, and what stands behind a request

* `Server.Move`, `Server.step_move` — what a step does to store, broker and handlers;
* `run_sessions`, `run_broker` — a run of the Controller is a run of the session service and a
  run of the broker;
* `Handler.Backed`, `run_backed` — behind every handler stands a session that was created for
  its browser;
* `Grants`, `run_granted` — so every offer that the broker has accepted carries the data of
  such a session.
-/

/-- What the Controller has done, the latest first. -/
abbrev History := List (Transition Server Action Event)

/-! ### What a step does -/

/-- Handlers only move on; one that is about to take the lock of the broker has asked for what
    it was meant to ask for. -/
def Server.Keeps (c c' : Server) : Prop :=
  ∀ handler' ∈ c'.handlers, ∃ handler ∈ c.handlers, handler' = { handler with pc := handler'.pc } ∧
    ∀ call, handler'.pc = .signaling call →
      handler.pc = .signaling call ∨ call.request = handler.request

/-- A handler that has just got its session. -/
def Handler.Connected (handler : Handler) (operation : Session.Action) (e : Session.Event) : Prop :=
  handler.pc = .authorized ∧
    ((e.session? = some ⟨handler.record, handler.capability⟩ ∧ handler.input.restartOf = "" ∧
        ∃ raw rawToken delay, operation =
          .create handler.sessionDigest handler.input.serviceID raw rawToken delay) ∨
      (e.found? = some handler.record ∧ operation =
        .lookup handler.input.browserSessionID handler.sessionDigest handler.input.capability))

/-- What a step does to the components and the handlers. -/
inductive Server.Move (u : Unicode) (sha256 : List UInt8 → Digest) (c c' : Server) : Event → Prop
  | response {response : Option Response} (hstore : c'.store = c.store)
      (hbroker : c'.broker = c.broker) (hkeeps : c.Keeps c') :
      Move u sha256 c c' ⟨none, none, response⟩
  | session {operation : Session.Action} {e : Session.Event} {response : Option Response}
      (hstep : c.sessions.step sha256 operation = (c'.sessions, e))
      (hbroker : c'.broker = { c.broker with clock := c'.broker.clock })
      (hhandlers : c.Keeps c' ∨
        ∃ handler, handler.Connected operation e ∧ c'.handlers = c.handlers ++ [handler]) :
      Move u sha256 c c' ⟨some (operation, e), none, response⟩
  | signal {operation : Signaling.Action} {e : Signaling.Event} {response : Option Response}
      (hstep : c.broker.step u operation = some (c'.broker, e)) (hstore : c'.store = c.store)
      (hclock : c'.broker.clock = c.broker.clock) (hkeeps : c.Keeps c')
      (hcreated : ∀ request id now, e = .created request id now →
        ∃ handler ∈ c.handlers, ∃ call, handler.pc = .signaling call ∧ call.request = request) :
      Move u sha256 c c' ⟨none, some (operation, e), response⟩

section Moves

variable {u : Unicode} {sha256 : List UInt8 → Digest} {c c' : Server} {e : Event}

theorem Server.Keeps.refl (c : Server) : c.Keeps c :=
  fun handler hmem => ⟨handler, hmem, rfl, fun _ hpc => .inl hpc⟩

/-- A handler moves on. -/
theorem Server.Keeps.setPc {i : Nat} {handler : Handler} {pc : HandlerPc}
    (hhandlers : c'.handlers = c.handlers.set i { handler with pc := pc })
    (hhandler : c.handlers[i]? = some handler)
    (hcall : ∀ call, pc = .signaling call → call.request = handler.request) : c.Keeps c' := by
  intro handler' hmem
  rw [hhandlers] at hmem
  rcases List.mem_or_eq_of_mem_set hmem with hmem | rfl
  · exact Server.Keeps.refl c handler' hmem
  · exact ⟨handler, List.mem_of_getElem? hhandler, rfl, fun call hpc => .inr (hcall call hpc)⟩

/-- An operation of the broker other than `Create` neither creates an entry nor moves the
    clock. -/
theorem otherSignal_step {operation : Signaling.Action} {b b' : Signaling.Broker}
    {e : Signaling.Event} (hother : otherSignal operation = true)
    (h : b.step u operation = some (b', e)) :
    b'.clock = b.clock ∧ ∀ request id now, e ≠ .created request id now := by
  have hclock := (Signaling.Broker.step_effect h).2
  constructor
  · cases operation with
    | advance | create | commit => cases hother
    | _ => exact hclock.trans (Int.add_zero _)
  · rintro request id now rfl
    obtain ⟨index, receiver, rfl⟩ := Signaling.Broker.step_created h
    cases hother

theorem Server.connect_move (u : Unicode) (sha256 : List UInt8 → Digest) (c : Server) (sessionDigest : Digest) (input : ConnectionRequest)
    (raw : Vector UInt8 16) (rawToken : Vector UInt8 32) (delay : Nat) :
    c.Move u sha256 (c.connect sha256 sessionDigest input raw rawToken delay).1
      (c.connect sha256 sessionDigest input raw rawToken delay).2 := by
  unfold Server.connect
  split
  · rename_i hnew
    unfold Server.connectNew
    split
    · exact .response rfl rfl (Server.Keeps.refl c)
    · simp only
      cases hsession : (c.operate sha256
        (.create sessionDigest input.serviceID raw rawToken delay)).2.session? with
      | none => exact .session rfl rfl (.inl (Server.Keeps.refl c))
      | some result =>
        exact .session rfl rfl (.inr ⟨_, ⟨rfl, .inl ⟨hsession, hnew, raw, rawToken, delay, rfl⟩⟩, rfl⟩)
  · unfold Server.connectRestart
    split
    · exact .response rfl rfl (Server.Keeps.refl c)
    · simp only
      cases hfound : (c.operate sha256
        (.lookup input.browserSessionID sessionDigest input.capability)).2.found? with
      | none => exact .session rfl rfl (.inl (Server.Keeps.refl c))
      | some record =>
        simp only
        split
        · exact .session rfl rfl (.inl (Server.Keeps.refl c))
        · exact .session rfl rfl (.inr ⟨_, ⟨rfl, .inr ⟨hfound, rfl⟩⟩, rfl⟩)

theorem Server.offer_inv {i : Nat} {raw : Vector UInt8 16} (h : c.offer u i raw = some (c', e)) :
    ∃ handler pc, c.handlers[i]? = some handler ∧ handler.pc = .authorized ∧
      (∀ call, pc = .signaling call → call.request = handler.request) ∧
      c' = { c with broker := (c.broker.beginCreate u handler.request raw).1 }.setPc i handler pc ∧
      e = ⟨none, some (.create handler.request raw,
        (c.broker.beginCreate u handler.request raw).2), none⟩ := by
  unfold Server.offer at h
  cases hhandler : c.handlers[i]? with
  | none => simp [hhandler] at h
  | some handler =>
    simp only [hhandler] at h
    split at h
    · cases h
    · rename_i hpc
      cases h
      refine ⟨handler, _, rfl, not_not.mp hpc, ?_, rfl, rfl⟩
      intro call hcall
      split at hcall <;> cases hcall
      rfl

theorem Server.offer_move {i : Nat} {raw : Vector UInt8 16} (h : c.offer u i raw = some (c', e)) :
    c.Move u sha256 c' e := by
  obtain ⟨handler, pc, hhandler, -, hcall, rfl, rfl⟩ := Server.offer_inv h
  have hstep : c.broker.step u (.create handler.request raw) =
      some (c.broker.beginCreate u handler.request raw) := rfl
  have hclock : (c.broker.beginCreate u handler.request raw).1.clock = c.broker.clock :=
    (Signaling.Broker.step_effect hstep).2.trans (Int.add_zero _)
  refine .signal rfl rfl hclock (Server.Keeps.setPc rfl hhandler hcall) ?_
  intro request id now hcreated
  unfold Signaling.Broker.beginCreate at hcreated
  split at hcreated <;> cases hcreated

theorem Server.commit_inv {i index : Nat} {receiver : Option Nat}
    (h : c.commit i index receiver = some (c', e)) :
    ∃ handler call broker signal pc response, c.handlers[i]? = some handler ∧
      handler.pc = .signaling call ∧ c.broker.creating[index]? = some call ∧
      c.broker.commit index receiver = some (broker, signal) ∧ (∀ call, pc ≠ .signaling call) ∧
      c' = { c with broker := broker }.setPc i handler pc ∧
      e = ⟨none, some (.commit index receiver, signal), response⟩ := by
  unfold Server.commit at h
  cases hhandler : c.handlers[i]? with
  | none => simp [hhandler] at h
  | some handler =>
    simp only [hhandler] at h
    cases hpc : handler.pc with
    | authorized | failed | answered => simp [hpc] at h
    | signaling call =>
      simp only [hpc] at h
      split at h
      · cases h
      · rename_i hcall
        rw [not_not] at hcall
        cases hcommit : c.broker.commit index receiver with
        | none => simp [hcommit] at h
        | some result =>
          obtain ⟨broker, signal⟩ := result
          simp only [hcommit] at h
          rcases Signaling.Broker.commit_event hcall hcommit with ⟨rfl, -⟩ | ⟨rfl, -⟩ <;>
          · cases h
            exact ⟨handler, call, broker, _, _, _, rfl, hpc, hcall, rfl,
              fun _ => HandlerPc.noConfusion, rfl, rfl⟩

theorem Server.commit_move {i index : Nat} {receiver : Option Nat}
    (h : c.commit i index receiver = some (c', e)) : c.Move u sha256 c' e := by
  obtain ⟨handler, call, broker, signal, pc, response, hhandler, hpc, hcall, hcommit, hpc', rfl,
    rfl⟩ := Server.commit_inv h
  have hstep : c.broker.step u (.commit index receiver) = some (broker, signal) := hcommit
  have hclock : broker.clock = c.broker.clock :=
    (Signaling.Broker.step_effect hstep).2.trans (Int.add_zero _)
  refine .signal hstep rfl hclock
    (Server.Keeps.setPc rfl hhandler (fun call h => absurd h (hpc' call))) ?_
  intro request id now heq
  -- the entry, if there is one, is for what this handler asked for
  rcases Signaling.Broker.commit_event hcall hcommit with ⟨rfl, -⟩ | ⟨rfl, -⟩
  · cases heq
    exact ⟨handler, List.mem_of_getElem? hhandler, call, hpc, rfl⟩
  · cases heq

theorem Server.abandon_move {i : Nat} (h : c.abandon sha256 i = some (c', e)) :
    c.Move u sha256 c' e ∧ e.signal = none := by
  unfold Server.abandon at h
  cases hhandler : c.handlers[i]? with
  | none => simp [hhandler] at h
  | some handler =>
    simp only [hhandler] at h
    split at h
    · cases h
    · split at h
      · cases h
        exact ⟨.session rfl rfl (.inl (Server.Keeps.setPc rfl hhandler (fun _ h => by cases h))), rfl⟩
      · cases h
        exact ⟨.response rfl rfl (Server.Keeps.setPc rfl hhandler (fun _ h => by cases h)), rfl⟩

/-- **Inversion.** -/
theorem Server.step_move {a : Action} (h : c.step u sha256 a = some (c', e)) :
    c.Move u sha256 c' e := by
  cases a with
  | session operation =>
    cases h
    exact .session rfl rfl (.inl (Server.Keeps.refl c))
  | signal operation =>
    simp only [Server.step] at h
    split at h
    · rename_i hother
      obtain ⟨⟨broker, signal⟩, hstep, heq⟩ := Option.map_eq_some_iff.mp h
      cases heq
      obtain ⟨hclock, hcreated⟩ := otherSignal_step hother hstep
      exact .signal hstep rfl hclock (Server.Keeps.refl c)
        (fun request id now heq => absurd heq (hcreated request id now))
    · cases h
  | connect sessionDigest input raw rawToken delay =>
    have hmove := Server.connect_move u sha256 c sessionDigest input raw rawToken delay
    rw [Option.some.inj h] at hmove
    exact hmove
  | offer i raw => exact Server.offer_move h
  | commit i index receiver => exact Server.commit_move h
  | abandon i => exact (Server.abandon_move h).1
  | logout sessionDigest =>
    cases h
    exact .session rfl rfl (.inl (Server.Keeps.refl c))
  | finishLogout i =>
    simp only [Server.step, Server.finishLogout] at h
    split at h
    · cases h
    · split at h
      · cases h
      · cases h
        exact .session rfl rfl (.inl (Server.Keeps.refl c))

/-- What the broker did in a step. -/
theorem Server.Move.signal_step {operation : Signaling.Action} {signal : Signaling.Event}
    (h : c.Move u sha256 c' e) (hsignal : e.signal = some (operation, signal)) :
    c.broker.step u operation = some (c'.broker, signal) := by
  cases h with
  | response | session => cases hsignal
  | signal hstep _ _ _ _ =>
    cases hsignal
    exact hstep

end Moves

/-! ### The components -/

/-- The step of the session service in a step. -/
def sessionPart (t : Transition Server Action Event) :
    Option (Transition Session.State Session.Action Session.Event) :=
  t.event.session.map (fun p => ⟨t.before.sessions, p.1, p.2⟩)

/-- The step of the broker in a step: what it did, or the time that passed. -/
def brokerPart (t : Transition Server Action Event) :
    Option (Transition Signaling.Broker Signaling.Action Signaling.Event) :=
  match t.event.signal with
  | some p => some ⟨t.before.broker, p.1, p.2⟩
  | none => t.event.session.map (fun p => ⟨t.before.broker, .advance p.1.elapsed, .silent⟩)

/-- What the session service did in a run. -/
def sessionHistory (h : History) : Session.History := h.filterMap sessionPart

/-- What the broker did in a run. -/
def signals (h : History) : List Signaling.Event := (h.filterMap brokerPart).map Transition.event

section Runs

variable {u : Unicode} {sha256 : List UInt8 → Digest} {agents : Table AgentRow.id} {start : Int}
  {h : History} {c : Server}

/-- A run of the Controller is a run of the session service. -/
theorem run_sessions (hr : (controllerSystem u sha256 agents start).Run h c) :
    (Session.storeSystem sha256 agents start).Run (sessionHistory h) c.sessions := by
  refine System.Run.project Server.sessions sessionPart hr rfl ?_ ?_
  · rintro ⟨before, action, event⟩ c' hstep hpart
    cases Server.step_move hstep with
    | response hstore hbroker _ => rw [Server.sessions, Server.sessions, hstore, hbroker]
    | session => cases hpart
    | signal _ hstore hclock _ _ => rw [Server.sessions, Server.sessions, hstore, hclock]
  · rintro ⟨before, action, event⟩ c' v hstep hpart
    cases Server.step_move hstep with
    | response => cases hpart
    | session hstep _ _ =>
      cases hpart
      exact ⟨rfl, congrArg some hstep⟩
    | signal => cases hpart

/-- A run of the Controller is a run of the broker. -/
theorem run_broker (hr : (controllerSystem u sha256 agents start).Run h c) :
    (Signaling.brokerSystem u start).Run (h.filterMap brokerPart) c.broker := by
  refine System.Run.project Server.broker brokerPart hr rfl ?_ ?_
  · rintro ⟨before, action, event⟩ c' hstep hpart
    cases Server.step_move hstep with
    | response _ hbroker _ => exact hbroker
    | session => cases hpart
    | signal => cases hpart
  · rintro ⟨before, action, event⟩ c' v hstep hpart
    cases Server.step_move hstep with
    | response => cases hpart
    | session hstep hbroker _ =>
      cases hpart
      have hclock : c'.broker.clock = before.broker.clock + _ := Session.State.step_clock hstep
      refine ⟨rfl, ?_⟩
      rw [hbroker, hclock]
      rfl
    | signal hstep _ _ _ _ =>
      cases hpart
      exact ⟨rfl, hstep⟩

end Runs

/-! ### What stands behind a request -/

/-- The record of a session that `Create` has made. -/
def Made (sessions : Session.History) (record : Record) : Prop :=
  ∃ t ∈ sessions, ∃ session, t.event.session? = some session ∧ session.record = record

theorem Made.cons {sessions : Session.History} {record : Record} (h : Made sessions record)
    (t : Transition Session.State Session.Action Session.Event) : Made (t :: sessions) record := by
  obtain ⟨t', hmem, hsession⟩ := h
  exact ⟨t', List.mem_cons_of_mem _ hmem, hsession⟩

/-- The handler acts for the browser of a session that was created, and for nothing else. -/
structure Handler.Backed (sessions : Session.History) (handler : Handler) : Prop where
  made : ∃ record, Made sessions record ∧ Session.SameSession handler.record record
  user : handler.record.userDigest = handler.sessionDigest
  restart : handler.input.restartOf ≠ "" → handler.record.id = handler.input.browserSessionID
  call : ∀ call, handler.pc = .signaling call → call.request = handler.request

theorem Handler.Backed.cons {sessions : Session.History} {handler : Handler}
    (h : handler.Backed sessions)
    (t : Transition Session.State Session.Action Session.Event) :
    handler.Backed (t :: sessions) := by
  obtain ⟨record, hmade, hsame⟩ := h.made
  exact { h with made := ⟨record, hmade.cons t, hsame⟩ }

section Backed

variable {u : Unicode} {sha256 : List UInt8 → Digest} {agents : Table AgentRow.id} {start : Int}
  {h : History} {c c' : Server} {t : Transition Server Action Event} {sessions : Session.History}

theorem Server.Keeps.backed (hkeeps : c.Keeps c')
    (h : ∀ handler ∈ c.handlers, handler.Backed sessions) :
    ∀ handler ∈ c'.handlers, handler.Backed sessions := by
  intro handler' hmem
  obtain ⟨handler, hhandler, heq, hcall⟩ := hkeeps handler' hmem
  have hbacked := h handler hhandler
  rw [heq]
  refine ⟨hbacked.made, hbacked.user, hbacked.restart, ?_⟩
  intro call hpc
  rcases hcall call hpc with hpc | hrequest
  · exact hbacked.call call hpc
  · exact hrequest

/-- A handler that has just got its session is backed by it. -/
theorem Handler.Connected.backed {handler : Handler}
    {s s' : Session.State} {operation : Session.Action} {e : Session.Event}
    (hconnected : handler.Connected operation e)
    (hr : (Session.storeSystem sha256 agents start).Run sessions s)
    (hstep : s.step sha256 operation = (s', e)) :
    handler.Backed (⟨s, operation, e⟩ :: sessions) := by
  obtain ⟨hpc, hconnected⟩ := hconnected
  have hcall : ∀ call, handler.pc = .signaling call → call.request = handler.request := by
    intro call hcall
    rw [hpc] at hcall
    cases hcall
  rcases hconnected with ⟨hsession, hnew, raw, rawToken, delay, rfl⟩ | ⟨hfound, rfl⟩
  · -- the session is new
    obtain ⟨user, serviceID, raw', rawToken', delay', target, haction, -, hrecord, -⟩ :=
      Session.State.step_session hstep hsession
    cases haction
    refine ⟨⟨handler.record, ⟨_, List.mem_cons_self, _, hsession, rfl⟩, ?_⟩, ?_, ?_, hcall⟩
    · exact ⟨rfl, rfl, rfl, rfl, rfl, rfl⟩
    · exact congrArg Record.userDigest hrecord
    · exact fun hrestart => absurd hnew hrestart
  · -- the session was looked up
    obtain ⟨hid, huser, t, ht, session, hsession, hsame⟩ :=
      Session.run_lookup_record hr (Session.State.step_found hstep hfound)
    have hmade : Made sessions session.record := ⟨t, ht, session, hsession, rfl⟩
    exact ⟨⟨session.record, hmade.cons _, hsame⟩, huser, fun _ => hid, hcall⟩

theorem sessionHistory_cons_some
    {v : Transition Session.State Session.Action Session.Event} (hpart : sessionPart t = some v) :
    sessionHistory (t :: h) = v :: sessionHistory h :=
  List.filterMap_cons_some hpart

theorem sessionHistory_cons_none
    (hpart : sessionPart t = none) : sessionHistory (t :: h) = sessionHistory h :=
  List.filterMap_cons_none hpart

/-- **Behind every handler stands a session of its browser.** -/
theorem run_backed (hr : (controllerSystem u sha256 agents start).Run h c) :
    ∀ handler ∈ c.handlers, handler.Backed (sessionHistory h) := by
  induction hr with
  | init => exact fun _ hmem => absurd hmem List.not_mem_nil
  | @step h c c' a e hr hstep ih =>
    cases Server.step_move hstep with
    | response _ _ hkeeps =>
      exact hkeeps.backed ih
    | @session operation event _ hsession _ hhandlers =>
      have ih' := fun handler hmem => (ih handler hmem).cons ⟨c.sessions, operation, event⟩
      rcases hhandlers with hkeeps | ⟨new, hconnected, hhandlers⟩
      · exact hkeeps.backed ih'
      · intro handler hmem
        rw [hhandlers, List.mem_append, List.mem_singleton] at hmem
        rcases hmem with hmem | rfl
        · exact ih' handler hmem
        · exact hconnected.backed (run_sessions hr) hsession
    | signal _ _ _ hkeeps _ =>
      rw [sessionHistory_cons_none rfl]
      exact hkeeps.backed ih

/-- The request carries the data of the session. -/
structure Grants (record : Record) (request : Signaling.CreateRequest) : Prop where
  agent : request.agentID = record.agentID
  session : request.browserSessionID = record.id
  service : request.serviceID = record.serviceID
  user : request.userDigest = record.userDigest
  capability : request.capabilityDigest = record.tokenDigest
  temporary : request.temporary = record.temporary

theorem Handler.Backed.grants {handler : Handler} (h : handler.Backed sessions) :
    ∃ record, Made sessions record ∧ Grants record handler.request := by
  obtain ⟨record, hmade, hsame⟩ := h.made
  exact ⟨record, hmade, hsame.agent, hsame.id_eq, hsame.service, h.user.symm.trans hsame.user,
    hsame.token, hsame.temporary⟩

theorem signals_cons_signal {operation : Signaling.Action} {e : Signaling.Event}
    (hsignal : t.event.signal = some (operation, e)) : signals (t :: h) = e :: signals h := by
  have hpart : brokerPart t = some ⟨t.before.broker, operation, e⟩ := by
    rw [brokerPart, hsignal]
  rw [signals, List.filterMap_cons_some hpart]
  rfl

/-- A step that is none of the broker's shows nothing of it, or that time has passed. -/
theorem mem_signals_cons (hsignal : t.event.signal = none)
    {e : Signaling.Event} (he : e ≠ .silent) (hmem : e ∈ signals (t :: h)) : e ∈ signals h := by
  cases hsession : t.event.session with
  | none =>
    have hpart : brokerPart t = none := by rw [brokerPart, hsignal, hsession]; rfl
    rw [signals, List.filterMap_cons_none hpart] at hmem
    exact hmem
  | some p =>
    have hpart : brokerPart t = some ⟨t.before.broker, .advance p.1.elapsed, .silent⟩ := by
      rw [brokerPart, hsignal, hsession]
      rfl
    rw [signals, List.filterMap_cons_some hpart, List.map_cons, List.mem_cons] at hmem
    rcases hmem with rfl | hmem
    · exact absurd rfl he
    · exact hmem

/-- **Every accepted offer is backed by a session.** -/
theorem run_granted (hr : (controllerSystem u sha256 agents start).Run h c)
    {request : Signaling.CreateRequest} {id : String} {now : Int}
    (hcreated : .created request id now ∈ signals h) :
    ∃ record, Made (sessionHistory h) record ∧ Grants record request := by
  induction hr with
  | init => cases hcreated
  | @step h c c' a e hr hstep ih =>
    cases Server.step_move hstep with
    | response _ _ _ =>
      exact ih (mem_signals_cons rfl Signaling.Event.noConfusion hcreated)
    | session _ _ _ =>
      obtain ⟨record, hmade, hgrants⟩ :=
        ih (mem_signals_cons rfl Signaling.Event.noConfusion hcreated)
      exact ⟨record, hmade.cons _, hgrants⟩
    | signal _ _ _ _ hhandler =>
      rw [sessionHistory_cons_none rfl]
      rcases List.mem_cons.mp hcreated with heq | hcreated
      · obtain ⟨handler, hmem, call, hpc, hrequest⟩ := hhandler request id now heq.symm
        have hbacked := run_backed hr handler hmem
        rw [← hrequest, hbacked.call call hpc]
        exact hbacked.grants
      · exact ih hcreated

end Backed

end WebVPN.Controller
