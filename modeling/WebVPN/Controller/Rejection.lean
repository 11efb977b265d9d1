import WebVPN.Controller.Delivery
import WebVPN.Controller.Requests
import WebVPN.Session.Acceptance

namespace WebVPN.Controller

open WebVPN.Library WebVPN.Storage WebVPN.Storage.Store WebVPN.Session

/-!
# Controller — connection requests that are rejected

`createConnection` of `internal/controller/server.go` as one call, put together from the sections at which
other requests can come in between.  A session is created or renewed before the offer is checked, so a
request that is rejected has to leave nothing behind.

* `Server.createConnection` — the handler from the request to its answer;
* `connect_rejected`, `completeConnection_rejected` — the two halves, when they end in an error;
* `createConnection_grants_nothing` — the whole.
-/

/-- What is random or up to the environment in a call: the random bytes, the time that passes at each
    section, and the waiting `Next` that gets the notification. -/
structure Draws where
  sessionID : Vector UInt8 16
  token : Vector UInt8 32
  signalID : Vector UInt8 16
  createDelay : Nat
  signalDelay : Nat
  lockDelay : Nat
  revokeDelay : Nat
  receiver : Option Nat

/-- The status code. -/
def Response.status : Response → Nat
  | .error code _ => code
  | .noContent => 204
  | .connection _ _ _ _ _ => 201

namespace Server

variable (u : Unicode) (sha256 : List UInt8 → Digest) (c : Server)

/-- Time passes. -/
def wait (duration : Nat) : Server := (c.operate sha256 (.advance duration)).1

/-- The answer of a section. -/
def answer (result : Server × Event) : Option (Server × Response) :=
  result.2.response.map (fun response => (result.1, response))

/-- The error path after `Signals.Create`. -/
def rejectOffer (i : Nat) (draws : Draws) : Option (Server × Response) :=
  ((c.wait sha256 draws.revokeDelay).abandon sha256 i).bind answer

/-- `createConnection` from `Signals.Create` on. -/
def completeConnection (i : Nat) (draws : Draws) : Option (Server × Response) :=
  match (c.wait sha256 draws.signalDelay).offer u i draws.signalID with
  | none => none
  | some (c, _) =>
    match (c.handlers[i]?).map Handler.pc with
    | some .failed => c.rejectOffer sha256 i draws
    | _ =>
      -- the call is the last one that has begun
      match (c.wait sha256 draws.lockDelay).commit i 0 draws.receiver with
      | none => none
      | some (c, e) =>
        match e.response with
        | some response => some (c, response)
        | none => c.rejectOffer sha256 i draws

/-- The handler after its first half. -/
def proceed (i : Nat) (draws : Draws) (connected : Server × Event) : Option (Server × Response) :=
  match connected.2.response with
  | some response => some (connected.1, response)
  | none => connected.1.completeConnection u sha256 i draws

/-- `createConnection`; `identity` is what `BrowserFromContext` returns. -/
def createConnection (identity : Option Digest) (body : ByteArray) (draws : Draws) :
    Option (Server × Response) :=
  match identity with
  | none => some (c, .error 401 "authentication required")
  | some sessionDigest =>
    match decodeJSON u body with
    | none => some (c, .error 400 "invalid JSON body")
    | some input =>
      proceed u sha256 c.handlers.length draws
        (c.connect sha256 sessionDigest input draws.sessionID draws.token draws.createDelay)

end Server

/-- A request of an authenticated browser whose body is decoded. -/
theorem createConnection_of_decoded {u : Unicode} (c : Server) (sha256 : List UInt8 → Digest)
    (sessionDigest : Digest) (draws : Draws) {body : ByteArray} {input : ConnectionRequest}
    (h : decodeJSON u body = some input) :
    c.createConnection u sha256 (some sessionDigest) body draws =
      Server.proceed u sha256 c.handlers.length draws
        (c.connect sha256 sessionDigest input draws.sessionID draws.token draws.createDelay) := by
  unfold Server.createConnection
  simp only [h]

section Halves

variable {u : Unicode} {sha256 : List UInt8 → Digest} {c c' : Server} {i : Nat} {draws : Draws}

/-! ### The second half -/

@[simp] theorem wait_store (duration : Nat) : (c.wait sha256 duration).store = c.store := rfl

@[simp] theorem wait_handlers (duration : Nat) : (c.wait sha256 duration).handlers = c.handlers := rfl

@[simp] theorem wait_sessions (duration : Nat) :
    (c.wait sha256 duration).broker.sessions = c.broker.sessions := rfl

@[simp] theorem wait_clock (duration : Nat) :
    (c.wait sha256 duration).broker.clock = c.broker.clock + duration := rfl

/-- The store after the error path: a session that the handler has created is revoked. -/
def Handler.undo (handler : Handler) (store : Store) (time : Int) : Store :=
  if handler.created then (store.revokeBrowserSession handler.record.id handler.sessionDigest time).1
  else store

/-- What a handler has left behind when it answers with an error: the broker has lost entries at most,
    and the store is what the error path makes of it. -/
structure Undone (handler : Handler) (c c' : Server) : Prop where
  entries : ∀ id entry, c'.broker.sessions.find? id = some entry → c.broker.sessions.find? id = some entry
  clock : c.broker.clock ≤ c'.broker.clock
  store : ∃ time, c'.store = handler.undo c.store time

variable {handler : Handler}

variable {response : Response}

theorem rejectOffer_undone (hhandler : c.handlers[i]? = some handler)
    (h : c.rejectOffer sha256 i draws = some (c', response)) : Undone handler c c' := by
  unfold Server.rejectOffer Server.abandon at h
  rw [wait_handlers, hhandler] at h
  simp only at h
  split at h
  · cases h
  · split at h
    · rename_i hcreated
      cases h
      refine ⟨fun _ _ hfind => hfind, ?_, (c.wait sha256 draws.revokeDelay).broker.clock, ?_⟩
      · show c.broker.clock ≤ c.broker.clock + draws.revokeDelay
        omega
      · rw [Handler.undo, if_pos hcreated]
        rfl
    · rename_i hcreated
      cases h
      refine ⟨fun _ _ hfind => hfind, ?_, 0, ?_⟩
      · show c.broker.clock ≤ c.broker.clock + draws.revokeDelay
        omega
      · rw [Handler.undo, if_neg hcreated]
        rfl

/-- `Signals.Create` up to the lock. -/
theorem offer_kept {e : Event} {raw : Vector UInt8 16}
    (hhandler : c.handlers[i]? = some handler) (h : c.offer u i raw = some (c', e)) :
    c'.store = c.store ∧ c'.broker.sessions = c.broker.sessions ∧ c'.broker.clock = c.broker.clock ∧
      ∃ pc, c'.handlers[i]? = some { handler with pc := pc } := by
  obtain ⟨handler', pc, hhandler', -, -, rfl, -⟩ := Server.offer_inv h
  cases hhandler.symm.trans hhandler'
  have hi : i < c.handlers.length := (List.getElem?_eq_some_iff.mp hhandler).1
  refine ⟨rfl, ?_, ?_, pc, List.getElem?_set_self hi⟩
  · show (c.broker.beginCreate u handler.request raw).1.sessions = _
    unfold Signaling.Broker.beginCreate
    split <;> rfl
  · show (c.broker.beginCreate u handler.request raw).1.clock = _
    unfold Signaling.Broker.beginCreate
    split <;> rfl

/-- An entry that a pruned map holds was there before. -/
theorem find?_of_pruneLocked {now : Int} {sessions : Signaling.Sessions} {id : String}
    {entry : Signaling.Entry} (h : (Signaling.pruneLocked now sessions).find? id = some entry) :
    sessions.find? id = some entry := by
  rw [Signaling.pruneLocked, Table.find?_filter, Option.filter_eq_some_iff] at h
  exact h.1

/-- `Signals.Create` under the lock: it succeeds and the browser is answered, or no entry is added. -/
theorem commit_kept {index : Nat} {receiver : Option Nat} {e : Event}
    (hhandler : c.handlers[i]? = some handler) (h : c.commit i index receiver = some (c', e)) :
    (∃ id, e.response = some (.connection id handler.record.id handler.capability
      handler.record.expiresAt handler.record.absoluteExpiresAt)) ∨
    (e.response = none ∧ c'.store = c.store ∧ c'.broker.clock = c.broker.clock ∧
      c'.handlers[i]? = some { handler with pc := .failed } ∧
      ∀ id entry, c'.broker.sessions.find? id = some entry →
        c.broker.sessions.find? id = some entry) := by
  have hi : i < c.handlers.length := (List.getElem?_eq_some_iff.mp hhandler).1
  unfold Server.commit at h
  rw [hhandler] at h
  simp only at h
  split at h
  · rename_i call hpc
    split at h
    · cases h
    · rename_i hcall
      cases hcommit : c.broker.commit index receiver with
      | none =>
        rw [hcommit] at h
        cases h
      | some result =>
        obtain ⟨broker, signal⟩ := result
        rw [hcommit] at h
        obtain ⟨call, -, -, hclock, ⟨rfl, -⟩ | ⟨rfl, -, hmap⟩⟩ := Signaling.Broker.commit_cases hcommit
        · cases h
          exact .inl ⟨_, rfl⟩
        · cases h
          refine .inr ⟨rfl, rfl, hclock, List.getElem?_set_self hi, fun id entry hfind => ?_⟩
          exact find?_of_pruneLocked (hmap ▸ hfind)
  · cases h

/-- **The second half.**  A handler that has its session and answers with an error has undone what it
    did. -/
theorem completeConnection_rejected (hhandler : c.handlers[i]? = some handler)
    (hstatus : response.status ≠ 201)
    (h : c.completeConnection u sha256 i draws = some (c', response)) : Undone handler c c' := by
  unfold Server.completeConnection at h
  cases hoffer : (c.wait sha256 draws.signalDelay).offer u i draws.signalID with
  | none =>
    rw [hoffer] at h
    cases h
  | some offered =>
    obtain ⟨c₁, e₁⟩ := offered
    rw [hoffer] at h
    obtain ⟨hstore, hsessions, hclock, pc, hpc⟩ :=
      offer_kept (show (c.wait sha256 draws.signalDelay).handlers[i]? = _ from hhandler) hoffer
    rw [wait_sessions] at hsessions
    rw [wait_clock] at hclock
    simp only [hpc, Option.map_some] at h
    split at h
    · have hundone := rejectOffer_undone hpc h
      obtain ⟨time, htime⟩ := hundone.store
      refine ⟨fun id entry hfind => ?_, ?_, time, hstore ▸ htime⟩
      · rw [← hsessions]
        exact hundone.entries id entry hfind
      · have := hundone.clock
        omega
    · cases hcommit : (c₁.wait sha256 draws.lockDelay).commit i 0 draws.receiver with
      | none =>
        rw [hcommit] at h
        cases h
      | some committed =>
        rw [hcommit] at h
        obtain ⟨id, hanswer⟩ | ⟨hnone, hstore₂, hclock₂, hpc₂, hentries⟩ :=
          commit_kept (show (c₁.wait sha256 draws.lockDelay).handlers[i]? = _ from hpc) hcommit
        · simp only [hanswer] at h
          cases h
          exact absurd rfl hstatus
        · simp only [hnone] at h
          have hundone := rejectOffer_undone hpc₂ h
          obtain ⟨time, htime⟩ := hundone.store
          rw [wait_store] at hstore₂
          rw [wait_clock] at hclock₂
          refine ⟨fun id entry hfind => ?_, ?_, time, ?_⟩
          · have hbefore := hentries id entry (hundone.entries id entry hfind)
            rw [wait_sessions, hsessions] at hbefore
            exact hbefore
          · have := hundone.clock
            omega
          · rw [htime, hstore₂, hstore]
            rfl

/-! ### The first half -/

/-- A request that leaves nothing behind: whatever `Lookup` accepts afterwards, at any time, it would have
    accepted when the request came, the broker has no new entry, and only sessions of `allowed` are
    renewed. -/
structure GrantsNothing (sha256 : List UInt8 → Digest) (allowed : SessionRow → Prop) (c c' : Server) :
    Prop where
  clock : c.broker.clock ≤ c'.broker.clock
  accepts : ∀ id userDigest token later, c'.broker.clock ≤ later →
    Accepts sha256 c'.store id userDigest token later →
    Accepts sha256 c.store id userDigest token c.broker.clock
  entries : ∀ id entry, c'.broker.sessions.find? id = some entry → c.broker.sessions.find? id = some entry
  expiry : ExpiryKept allowed c.store.sessions c'.store.sessions

variable {allowed : SessionRow → Prop}

theorem GrantsNothing.of_narrowed (hclock : c.broker.clock ≤ c'.broker.clock)
    (hservices : ServicesNarrowed c.broker.clock c.store.services c'.store.services)
    (hsessions : SessionsNarrowed c.broker.clock c.store.sessions c'.store.sessions)
    (hentries : ∀ id entry, c'.broker.sessions.find? id = some entry →
      c.broker.sessions.find? id = some entry)
    (hexpiry : ExpiryKept allowed c.store.sessions c'.store.sessions) :
    GrantsNothing sha256 allowed c c' where
  clock := hclock
  accepts := fun _ _ _ _ hle => Accepts.of_narrowed hservices hsessions (le_trans hclock hle)
  entries := hentries
  expiry := hexpiry

theorem GrantsNothing.refl (c : Server) : GrantsNothing sha256 allowed c c :=
  .of_narrowed (le_refl _) (.refl _) (.refl _) (fun _ _ hfind => hfind) (.refl _ _)

/-- **A new connection.**  The session is revoked when the offer is rejected. -/
theorem connectNew_rejected {sessionDigest : Digest} {input : ConnectionRequest}
    (hstatus : response.status ≠ 201)
    (h : Server.proceed u sha256 c.handlers.length draws
      (c.connectNew sha256 sessionDigest input draws.sessionID draws.token draws.createDelay) =
      some (c', response)) : GrantsNothing sha256 allowed c c' := by
  unfold Server.connectNew at h
  split at h
  · cases h
    exact .refl c
  · obtain ⟨hsame, -⟩ := (authorizedService_spec c.store input.serviceID sessionDigest c.broker.clock).2.2
    have hservices := authorizedService_narrowed c.store input.serviceID sessionDigest c.broker.clock
    have hlater : c.broker.clock ≤ c.broker.clock + draws.createDelay := by omega
    simp only [Server.operate, Server.sessions, Session.State.step, Session.State.after] at h
    obtain ⟨e, heq⟩ | ⟨target, record, hnew, -, hrecord, -, heq⟩ := create_cases sha256 c.store
      sessionDigest input.serviceID draws.sessionID draws.token c.broker.clock
      (c.broker.clock + draws.createDelay)
    · simp only [heq] at h
      cases h
      refine .of_narrowed hlater hservices ?_ (fun _ _ hfind => hfind) ?_
      · show SessionsNarrowed _ _ (c.store.authorizedService input.serviceID sessionDigest
          c.broker.clock).1.sessions
        rw [hsame]
        exact .refl _
      · show ExpiryKept _ _ (c.store.authorizedService input.serviceID sessionDigest
          c.broker.clock).1.sessions
        rw [hsame]
        exact .refl _ _
    · simp only [heq] at h
      have hundone := completeConnection_rejected (List.getElem?_concat_length ..) hstatus h
      obtain ⟨time, htime⟩ := hundone.store
      generalize c.store.authorizedService input.serviceID sessionDigest c.broker.clock = accessed
        at hsame hservices hnew htime
      have huser : record.userDigest = sessionDigest := by rw [hrecord]; rfl
      have hrevoked : c'.store = (Store.revokeBrowserSession
          { accessed.1 with sessions := accessed.1.sessions.cons record.toRow hnew } record.id
          record.userDigest time).1 := by
        rw [huser]
        exact htime
      refine .of_narrowed (le_trans hlater hundone.clock) ?_ ?_ hundone.entries ?_
      · rw [hrevoked]
        exact hservices
      · rw [hrevoked, ← hsame]
        exact revoked_narrowed accessed.1 record hnew time
      · rw [hrevoked, ← hsame]
        exact revoked_expiry allowed accessed.1 record hnew time

/-- **An ICE restart.**  `Lookup` has renewed the session that was presented, and nothing else. -/
theorem connectRestart_rejected {sessionDigest : Digest} {input : ConnectionRequest}
    (hstatus : response.status ≠ 201)
    (h : Server.proceed u sha256 c.handlers.length draws (c.connectRestart sha256 sessionDigest input) =
      some (c', response)) :
    GrantsNothing sha256 (OpenedBy sha256 input.browserSessionID sessionDigest input.capability) c c' := by
  obtain ⟨hservices, hsessions⟩ := lookup_narrowed sha256 c.store input.browserSessionID sessionDigest
    input.capability c.broker.clock
  have hexpiry := lookup_expiry sha256 c.store input.browserSessionID sessionDigest input.capability
    c.broker.clock
  unfold Server.connectRestart at h
  split at h
  · cases h
    exact .refl c
  · simp only [Server.operate, Server.sessions, Session.State.step, Session.State.after] at h
    generalize lookup sha256 c.store input.browserSessionID sessionDigest input.capability c.broker.clock =
      found at h hservices hsessions hexpiry
    obtain ⟨store, outcome⟩ := found
    cases outcome with
    | error e =>
      cases h
      exact .of_narrowed (le_refl _) hservices hsessions (fun _ _ hfind => hfind) hexpiry
    | ok record =>
      simp only [Session.Event.found?] at h
      split at h
      · cases h
        exact .of_narrowed (le_refl _) hservices hsessions (fun _ _ hfind => hfind) hexpiry
      · have hundone := completeConnection_rejected (List.getElem?_concat_length ..) hstatus h
        obtain ⟨time, htime⟩ := hundone.store
        -- the handler has created no session
        have hstore : c'.store = store := htime
        refine .of_narrowed hundone.clock ?_ ?_ hundone.entries ?_
        · rw [hstore]
          exact hservices
        · rw [hstore]
          exact hsessions
        · rw [hstore]
          exact hexpiry

/-! ### Every request is answered -/

/-- There is a blocked call that can take the notification, or none is blocked. -/
theorem exists_notify (b : Signaling.Broker) (agentID : String) :
    ∃ receiver b', b.notify agentID receiver = some b' := by
  unfold Signaling.Broker.notify
  by_cases hblocked : b.calls.any (Signaling.Broker.blockedOn agentID) = true
  · obtain ⟨call, hmem, hcall⟩ := List.any_eq_true.mp hblocked
    obtain ⟨index, hindex⟩ := List.mem_iff_getElem?.mp hmem
    refine ⟨some index, ?_⟩
    simp only [hindex, if_pos hcall]
    exact ⟨_, rfl⟩
  · refine ⟨none, ?_⟩
    simp only [if_neg hblocked]
    split
    · exact ⟨_, rfl⟩
    · exact ⟨_, rfl⟩

theorem exists_commit {b : Signaling.Broker} {index : Nat} {call : Signaling.Creating}
    (hcall : b.creating[index]? = some call) : ∃ receiver result, b.commit index receiver = some result := by
  unfold Signaling.Broker.commit
  simp only [hcall]
  rcases Signaling.createLocked b.sessions call.request call.id call.now with ⟨sessions, outcome⟩
  cases outcome with
  | error message => exact ⟨none, _, rfl⟩
  | ok id =>
    obtain ⟨receiver, b', hnotify⟩ := exists_notify
      { b with sessions := sessions, creating := b.creating.eraseIdx index } call.request.agentID
    refine ⟨receiver, (b', .created call.request id call.now), ?_⟩
    simp only [hnotify]

/-- The error path always answers. -/
theorem exists_rejectOffer (sha256 : List UInt8 → Digest) (hhandler : c.handlers[i]? = some handler)
    (hpc : handler.pc = .failed) (draws : Draws) :
    ∃ answer, c.rejectOffer sha256 i draws = some answer := by
  unfold Server.rejectOffer Server.abandon
  rw [wait_handlers, hhandler]
  simp only [hpc, ne_eq, not_true_eq_false, if_false]
  split
  · exact ⟨_, rfl⟩
  · exact ⟨_, rfl⟩

/-- `Signals.Create` fails before the lock, or its call waits for the lock. -/
theorem exists_offer (hhandler : c.handlers[i]? = some handler)
    (hpc : handler.pc = .authorized) (raw : Vector UInt8 16) :
    ∃ c₁ e pc, c.offer u i raw = some (c₁, e) ∧ c₁.handlers[i]? = some { handler with pc := pc } ∧
      (pc = .failed ∨ ∃ call, pc = .signaling call ∧ c₁.broker.creating[0]? = some call) := by
  have hi : i < c.handlers.length := (List.getElem?_eq_some_iff.mp hhandler).1
  unfold Server.offer
  simp only [hhandler, hpc, ne_eq, not_true_eq_false, if_false]
  unfold Signaling.Broker.beginCreate
  cases handler.request.check u with
  | error message => exact ⟨_, _, _, rfl, List.getElem?_set_self hi, .inl rfl⟩
  | ok _ => exact ⟨_, _, _, rfl, List.getElem?_set_self hi, .inr ⟨_, rfl, rfl⟩⟩

theorem exists_serverCommit (index : Nat) {call : Signaling.Creating}
    (hhandler : c.handlers[i]? = some handler) (hpc : handler.pc = .signaling call)
    (hcall : c.broker.creating[index]? = some call) :
    ∃ receiver c₁ e, c.commit i index receiver = some (c₁, e) := by
  obtain ⟨receiver, ⟨broker, signal⟩, hcommit⟩ := exists_commit hcall
  refine ⟨receiver, ?_⟩
  unfold Server.commit
  simp only [hhandler, hpc, hcall, ne_eq, not_true_eq_false, if_false, hcommit]
  split
  · exact ⟨_, _, rfl⟩
  · exact ⟨_, _, rfl⟩

theorem exists_completeConnection (u : Unicode) (sha256 : List UInt8 → Digest)
    (hhandler : c.handlers[i]? = some handler) (hpc : handler.pc = .authorized) (draws : Draws) :
    ∃ receiver answer, c.completeConnection u sha256 i { draws with receiver := receiver } = some answer := by
  obtain ⟨c₁, e₁, pc, hoffer, hhandler₁, hstage⟩ := exists_offer (u := u)
    (show (c.wait sha256 draws.signalDelay).handlers[i]? = _ from hhandler) hpc draws.signalID
  unfold Server.completeConnection
  simp only [hoffer, hhandler₁, Option.map_some]
  obtain rfl | ⟨call, rfl, hcall⟩ := hstage
  · obtain ⟨answer, hanswer⟩ := exists_rejectOffer sha256 hhandler₁ rfl { draws with receiver := none }
    exact ⟨none, answer, hanswer⟩
  · have hhandler₂ : (c₁.wait sha256 draws.lockDelay).handlers[i]? = _ := hhandler₁
    obtain ⟨receiver, c₂, e₂, hcommit⟩ := exists_serverCommit 0 hhandler₂ rfl hcall
    refine ⟨receiver, ?_⟩
    simp only [hcommit]
    obtain ⟨id, hanswer⟩ | ⟨hnone, -, -, hfailed, -⟩ := commit_kept hhandler₂ hcommit
    · simp only [hanswer]
      exact ⟨_, rfl⟩
    · simp only [hnone]
      exact exists_rejectOffer sha256 hfailed rfl _

/-- The first half answers, or it adds a handler. -/
theorem connect_cases (sha256 : List UInt8 → Digest) (c : Server) (sessionDigest : Digest)
    (input : ConnectionRequest) (raw : Vector UInt8 16) (rawToken : Vector UInt8 32) (delay : Nat) :
    (∃ response, (c.connect sha256 sessionDigest input raw rawToken delay).2.response = some response) ∨
    ((c.connect sha256 sessionDigest input raw rawToken delay).2.response = none ∧
      ∃ handler, (c.connect sha256 sessionDigest input raw rawToken delay).1.handlers[c.handlers.length]? =
        some handler ∧ handler.pc = .authorized) := by
  unfold Server.connect
  split
  · unfold Server.connectNew
    split
    · exact .inl ⟨_, rfl⟩
    · simp only
      split
      · exact .inl ⟨_, rfl⟩
      · exact .inr ⟨rfl, _, List.getElem?_concat_length .., rfl⟩
  · unfold Server.connectRestart
    split
    · exact .inl ⟨_, rfl⟩
    · simp only
      split
      · exact .inl ⟨_, rfl⟩
      · split
        · exact .inl ⟨_, rfl⟩
        · exact .inr ⟨rfl, _, List.getElem?_concat_length .., rfl⟩

/-- **Every request is answered**, when the notification goes to a call that can take it. -/
theorem createConnection_answers (u : Unicode) (sha256 : List UInt8 → Digest) (c : Server)
    (identity : Option Digest) (body : ByteArray) (draws : Draws) :
    ∃ receiver answer, c.createConnection u sha256 identity body { draws with receiver := receiver } =
      some answer := by
  cases identity with
  | none => exact ⟨none, _, rfl⟩
  | some sessionDigest =>
    cases hbody : decodeJSON u body with
    | none =>
      unfold Server.createConnection
      simp only [hbody]
      exact ⟨none, _, rfl⟩
    | some input =>
      simp only [createConnection_of_decoded c sha256 sessionDigest _ hbody]
      unfold Server.proceed
      obtain ⟨response, hresponse⟩ | ⟨hnone, handler, hhandler, hpc⟩ := connect_cases sha256 c sessionDigest
        input draws.sessionID draws.token draws.createDelay
      · simp only [hresponse]
        exact ⟨none, _, rfl⟩
      · simp only [hnone]
        exact exists_completeConnection u sha256 hhandler hpc draws

/-! ### Rejected requests -/

/-- The request presents the ID, the user digest and the capability of this session. -/
def Presenting (u : Unicode) (sha256 : List UInt8 → Digest) (identity : Option Digest) (body : ByteArray)
    (row : SessionRow) : Prop :=
  ∃ sessionDigest input, identity = some sessionDigest ∧ decodeJSON u body = some input ∧
    OpenedBy sha256 input.browserSessionID sessionDigest input.capability row

/-- **Rejected connection requests grant nothing.**  For every state of store and broker and every request
    that is not answered with 201: what `Lookup` accepts later it would have accepted when the request came,
    the broker has no new entry, and no session's expiry changes unless the request presented the ID, the
    user digest and the capability of that session. -/
theorem createConnection_grants_nothing (u : Unicode) (sha256 : List UInt8 → Digest) (c c' : Server)
    (identity : Option Digest) (body : ByteArray) (draws : Draws) (response : Response)
    (h : c.createConnection u sha256 identity body draws = some (c', response))
    (hstatus : response.status ≠ 201) :
    GrantsNothing sha256 (Presenting u sha256 identity body) c c' := by
  cases identity with
  | none =>
    cases h
    exact .refl c
  | some sessionDigest =>
    cases hbody : decodeJSON u body with
    | none =>
      unfold Server.createConnection at h
      simp only [hbody] at h
      cases h
      exact .refl c
    | some input =>
      rw [createConnection_of_decoded c sha256 sessionDigest draws hbody] at h
      unfold Server.connect at h
      split at h
      · exact connectNew_rejected hstatus h
      · have hnothing := connectRestart_rejected hstatus h
        refine { hnothing with expiry := fun id row hrow => ?_ }
        obtain ⟨row', hrow', hexpiry⟩ := hnothing.expiry id row hrow
        exact ⟨row', hrow', hexpiry.imp_right (fun hopened => ⟨sessionDigest, input, rfl, hbody, hopened⟩)⟩

end Halves

/-! A new connection whose offer has no description: the session is created and revoked. -/

/-- An offer without a description. -/
def emptyOffer : ConnectionRequest := { noRequest with serviceID := "router", offer := ⟨"offer", ""⟩ }

/-- The body that carries it. -/
def emptyOfferBody : ByteArray := browserBody "router" ⟨"offer", ""⟩

theorem decodeJSON_emptyOffer (u : Unicode) : decodeJSON u emptyOfferBody = some emptyOffer := by
  have hlimit : ¬ maxJSONBody < emptyOfferBody.size := by decide +kernel
  rw [decodeJSON, if_neg hlimit, emptyOfferBody, browserBody, (decodeJSONBytes_written _ _ _ _ _).1]
  rfl

/-- One Agent with one service. -/
def sampleServer : Server where
  store :=
    { agents := Table.empty.cons ⟨"agent", .active⟩ rfl
      services := Table.empty.cons ⟨"router", "agent", "router", "Router", "https", "router", true, 0,
        none, none, none⟩ rfl
      sessions := Table.empty }
  broker := Signaling.Broker.new 0
  handlers := []
  logouts := []

/-- The random values. -/
def sampleDraws : Draws where
  sessionID := Vector.replicate 16 4
  token := Vector.replicate 32 3
  signalID := Vector.replicate 16 5
  createDelay := 0
  signalDelay := 0
  lockDelay := 0
  revokeDelay := 0
  receiver := none

theorem createConnection_grants_nothing_of_emptyOffer :
    ∃ c', sampleServer.createConnection .ascii (fun _ => Vector.replicate 32 7)
        (some (Vector.replicate 32 1)) emptyOfferBody sampleDraws =
          some (c', .error 400 "invalid connection offer") ∧
      c'.store.sessions.rows.map SessionRow.revokedAt = [some 0] ∧
      GrantsNothing (fun _ => Vector.replicate 32 7)
        (Presenting .ascii (fun _ => Vector.replicate 32 7) (some (Vector.replicate 32 1)) emptyOfferBody)
        sampleServer c' := by
  have hcall := createConnection_of_decoded sampleServer (fun _ => Vector.replicate 32 7)
    (Vector.replicate 32 1) sampleDraws (decodeJSON_emptyOffer .ascii)
  have hresult : (Server.proceed .ascii (fun _ => Vector.replicate 32 7) sampleServer.handlers.length
      sampleDraws (sampleServer.connect (fun _ => Vector.replicate 32 7) (Vector.replicate 32 1) emptyOffer
        sampleDraws.sessionID sampleDraws.token sampleDraws.createDelay)).map (fun answer =>
          (answer.2, answer.1.store.sessions.rows.map SessionRow.revokedAt)) =
        some (.error 400 "invalid connection offer", [some 0]) := by
    decide +kernel
  obtain ⟨⟨c', response⟩, hanswer, hpair⟩ := Option.map_eq_some_iff.mp hresult
  obtain ⟨rfl, hrevoked⟩ := Prod.mk.inj hpair
  refine ⟨c', hcall.trans hanswer, hrevoked, ?_⟩
  exact createConnection_grants_nothing .ascii _ _ _ _ _ _ _ (hcall.trans hanswer) (by decide)

end WebVPN.Controller
