import WebVPN.Browser.Page

namespace WebVPN.Browser

open WebVPN.Library

/-!
# Browser — the restart budget

One `DirectConnection` of `web/src/connection.ts` by itself, from the call of `connect` on: with its
identifiers, every call of `restart` that a click or a timer makes at any time, and what it posts.  The
page makes a new object for every call of `connect`.

* `Direct`, `Direct.step`, `directSystem` — the object, and all orders of its events;
* `RestartRun` — a call of `restart` with the calls that wait for it;
* `Page.restart_eq`, `Page.stepRestart_eq` — the same calls in the model of the page do the same;
* `Direct.Budgeted` — the invariant: what is posted is counted, one attempt is in progress, and the flag
  `restarting` is cleared too early only when nothing is left of the budget;
* `run_restart_budget` — at most two restart offers, one attempt at a time, each for a connection that was
  established.
-/

/-! ### The object -/

/-- What a request for a connection returns. -/
structure CreatedConnection where
  id : String
  browserSessionID : String
  capability : String
deriving DecidableEq, Repr

/-- A call of `restart`: `outer` calls wait for it, and `created` is the signaling ID of its attempt. -/
structure RestartRun where
  outer : Nat
  pc : RestartPC
  created : String
deriving DecidableEq, Repr

/-- An attempt of the call is in progress, or about to be repeated. -/
def RestartRun.inFlight (x : RestartRun) : Bool :=
  match x.pc with
  | .running _ | .waiting => true
  | _ => false

/-- The attempt has not posted its offer. -/
def RestartRun.pending (x : RestartRun) : Bool :=
  match x.pc with
  | .running .offering | .running .describing | .running .gathering => true
  | _ => false

/-- The call after its `finally` block: it goes back to the call that waits for it, if there is one. -/
def RestartRun.ended (x : RestartRun) : RestartRun :=
  { x with pc := if x.outer = 0 then .returned else .returning }

/-- A `DirectConnection`; `connecting` is where `connect` waits, and `timers` counts the timers of its
    peer. -/
structure Direct where
  conn : Connection
  signalID : String
  browserSessionID : String
  capability : String
  serviceID : String
  connecting : Option Stage
  runs : List RestartRun
  timers : Nat
deriving DecidableEq, Repr

/-- What the Controller and the page see. -/
inductive DirectEvent
  | silent
  /-- `connect` has received its signaling ID. -/
  | signaled (id : String)
  /-- `restart` posts its offer. -/
  | posted (serviceID browserSessionID capability restartOf : String)
  /-- A restart has reached the connected state; its signaling ID is kept. -/
  | reconnected (id : String)
  /-- The hook `failed` is called. -/
  | failed (message : String)
deriving DecidableEq, Repr

/-- What happens to the object. -/
inductive DirectAction
  /-- A wait of `connect` ends. -/
  | connect (outcome : Outcome) (created : CreatedConnection)
  /-- The user calls `restart`. -/
  | click
  /-- The peer is in another state; `down` if it is disconnected or has failed. -/
  | stateChanged (down : Bool)
  /-- A timer is due. -/
  | timer (connected : Bool)
  /-- A wait of a call of `restart` ends. -/
  | restarted (r : Nat) (outcome : Outcome) (created : CreatedConnection)
  | relayCandidate
  | close
deriving DecidableEq, Repr

namespace Direct

variable (d : Direct)

/-- `close`. -/
def close : Direct :=
  { d with
    conn := d.conn.close
    signalID := ""
    browserSessionID := ""
    capability := ""
    serviceID := "" }

/-- `connect`, after a wait.  The identifiers are kept before the connection is looked at again. -/
def stepConnect (temporary : Bool) (outcome : Outcome) (created : CreatedConnection) :
    Option (Direct × DirectEvent) :=
  match d.connecting with
  | none => none
  | some stage =>
    match resumeConnect d.conn.closed temporary stage outcome with
    | none => none
    | some progress =>
      let d := { d with
        connecting := match progress with
          | .next stage' _ => some stage'
          | _ => none }
      if stage = .creating ∧ outcome = .resolved then
        some ({ d with
          signalID := created.id
          browserSessionID := created.browserSessionID
          capability := created.capability }, .signaled created.id)
      else some (d, .silent)

/-- A call of `restart`. -/
def restart : Direct × DirectEvent :=
  match d.conn.restart with
  | .returns => (d, .silent)
  | .exhausted => (d.close, .failed restartExhausted)
  | .starts =>
    ({ d with conn := d.conn.start, runs := d.runs ++ [⟨0, .running .offering, ""⟩] }, .silent)

/-- Another state for one call of `restart`. -/
def setRun (r : Nat) (x : RestartRun) : Direct := { d with runs := d.runs.set r x }

/-- `this.restarting = false`. -/
def rest : Direct := { d with conn := d.conn.rest }

/-- The `finally` block. -/
def runReturns (r : Nat) (x : RestartRun) : Direct :=
  (d.setRun r x.ended).rest

/-- The `try` block of `restart` goes on after `stage`. -/
def advance (r : Nat) (x : RestartRun) (stage stage' : Stage) (created : CreatedConnection) :
    Direct × DirectEvent :=
  match stage with
  | .gathering =>
    (d.setRun r { x with pc := .running stage' },
      .posted d.serviceID d.browserSessionID d.capability d.signalID)
  | .creating => (d.setRun r { x with pc := .running stage', created := created.id }, .silent)
  | .reconnecting =>
    ({ d.setRun r { x with pc := .running stage' } with signalID := x.created }, .reconnected x.created)
  | _ => (d.setRun r { x with pc := .running stage' }, .silent)

/-- A call of `restart`, after a wait. -/
def stepRun (r : Nat) (x : RestartRun) (outcome : Outcome) (created : CreatedConnection) :
    Option (Direct × DirectEvent) :=
  match x.pc with
  | .running stage =>
    match resumeRestart d.conn.closed stage outcome with
    | none => none
    | some (.next stage' _) => some (d.advance r x stage stage' created)
    | some (.done _) => some (d.runReturns r x, .silent)
    | some (.throws message) =>
      if d.conn.retries then some (d.setRun r { x with pc := .waiting }, .silent)
      else some (d.close.runReturns r x, .failed message)
  | .waiting =>
    if outcome ≠ .resolved then none
    else
      -- `this.restarting = false`, and the call of itself
      match d.conn.rest.restart with
      | .returns => some (d.rest.setRun r { x with outer := x.outer + 1, pc := .returning }, .silent)
      | .exhausted =>
        some (d.rest.close.setRun r { x with outer := x.outer + 1, pc := .returning },
          .failed restartExhausted)
      | .starts =>
        some ({ d.rest with
          conn := d.conn.rest.start
          runs := d.runs.set r ⟨x.outer + 1, .running .offering, ""⟩ }, .silent)
  | .returning =>
    if outcome ≠ .resolved then none else some (d.runReturns r { x with outer := x.outer - 1 }, .silent)
  | .returned => none

/-- One step of the object. -/
def step (temporary : Bool) : DirectAction → Option (Direct × DirectEvent)
  | .connect outcome created => d.stepConnect temporary outcome created
  | .click => some d.restart
  | .stateChanged down =>
    if d.conn.closed || !d.conn.peer || !down then some (d, .silent)
    else some ({ d with timers := d.timers + 1 }, .silent)
  | .timer connected =>
    if d.timers = 0 then none
    else
      let d := { d with timers := d.timers - 1 }
      if d.conn.peer && !connected then some d.restart else some (d, .silent)
  | .restarted r outcome created =>
    match d.runs[r]? with
    | none => none
    | some x => d.stepRun r x outcome created
  | .relayCandidate => some (d.close, .failed "检测到被禁止的 relay candidate")
  | .close => some (d.close, .silent)

end Direct

/-- A new object whose `connect` has been called for a service. -/
def directSystem (serviceID : String) (temporary : Bool) : System Direct DirectAction DirectEvent where
  init := ⟨Connection.new, "", "", "", serviceID, some .offering, [], 0⟩
  step d a := d.step temporary a

/-! ### The connection of a page -/

/-- The message of a failure. -/
def DirectEvent.failure : DirectEvent → Option String
  | .failed message => some message
  | _ => none

/-- What `restart` shows of itself: its connection, where the call stands, and a failure. -/
structure RestartView where
  conn : Option Connection
  call : Option (Nat × RestartPC)
  failure : Option String

/-- A step of a page, seen from its connection `c` and its call `r`. -/
def Page.restartView (c r : Nat) (result : Page × Option Report) : RestartView where
  conn := result.1.connections[c]?
  call := result.1.restarts[r]?.map (fun x => (x.outer, x.pc))
  failure := result.2.map Report.message

/-- A step of a connection by itself, seen from its call `r`. -/
def Direct.restartView (r : Nat) (result : Direct × DirectEvent) : RestartView where
  conn := some result.1.conn
  call := result.1.runs[r]?.map (fun x => (x.outer, x.pc))
  failure := result.2.failure

section Views

variable {s : Page} {d : Direct} {c : Nat}

/-- The connection is the one that is modified. -/
theorem Page.getElem?_modify {conn : Connection} (hconn : s.connections[c]? = some conn)
    (f : Connection → Connection) : (s.modify c f).connections[c]? = some (f conn) := by
  simp [Page.modify, hconn]

/-- `fail` closes the connection, once or twice. -/
theorem Page.getElem?_fail {conn : Connection} (hconn : s.connections[c]? = some conn)
    (message : String) : (s.fail c message).connections[c]? = some conn.close := by
  have hclose := Page.getElem?_modify hconn Connection.close
  change (s.modify c Connection.close).closeDirect.connections[c]? = _
  unfold Page.closeDirect
  split
  · exact hclose
  · rename_i c' _
    by_cases hc : c' = c
    · subst hc
      exact Page.getElem?_modify hclose Connection.close
    · simpa [Page.modify, hc] using hclose

theorem Page.fail_restarts (s : Page) (c : Nat) (message : String) :
    (s.fail c message).restarts = s.restarts := by
  change (s.modify c Connection.close).closeDirect.restarts = _
  unfold Page.closeDirect
  split <;> rfl

/-- **A call of `restart`** does the same to a connection of a page and to one by itself. -/
theorem Page.restart_eq (hconn : s.connections[c]? = some d.conn) :
    (s.restart c).map (Page.restartView c s.restarts.length) =
      some (Direct.restartView d.runs.length d.restart) := by
  have hfail := Page.getElem?_fail hconn restartExhausted
  have hstart := Page.getElem?_modify hconn Connection.start
  have hkept := Page.fail_restarts s c restartExhausted
  simp only [Page.restart, Direct.restart, hconn]
  cases d.conn.restart with
  | returns => simp [Page.restartView, Direct.restartView, DirectEvent.failure, hconn]
  | exhausted =>
    simp [Page.restartView, Direct.restartView, DirectEvent.failure, hfail, hkept, Direct.close]
  | starts =>
    simp [Page.restartView, Direct.restartView, DirectEvent.failure, ← hstart, Page.modify]

variable {r k : Nat} {x : Restart} {y : RestartRun}

/-- The two calls stand at the same place, and have failed with the same message or not at all. -/
theorem restartView_eq {s' : Page} {d' : Direct} {x' : Restart} {y' : RestartRun}
    {report : Option Report} {event : DirectEvent} (hx : s.restarts[r]? = some x)
    (hy : d.runs[k]? = some y) (hconn : s'.connections[c]? = some d'.conn)
    (hs : s'.restarts = s.restarts.set r x') (hd : d'.runs = d.runs.set k y')
    (houter : x'.outer = y'.outer) (hpc : x'.pc = y'.pc)
    (hfailure : report.map Report.message = event.failure) :
    some (Page.restartView c r (s', report)) = some (Direct.restartView k (d', event)) := by
  have hr := (List.getElem?_eq_some_iff.mp hx).1
  have hk := (List.getElem?_eq_some_iff.mp hy).1
  simp [Page.restartView, Direct.restartView, hconn, hs, hd, hr, hk, houter, hpc, hfailure]

/-- **After each wait** the call does the same to both. -/
theorem Page.stepRestart_eq (hconn : s.connections[x.connection]? = some d.conn)
    (hx : s.restarts[r]? = some x) (hy : d.runs[k]? = some y) (houter : x.outer = y.outer)
    (hpc : x.pc = y.pc) (outcome : Outcome) (created : CreatedConnection) :
    (s.stepRestart r x outcome).map (Page.restartView x.connection r) =
      (d.stepRun k y outcome created).map (Direct.restartView k) := by
  obtain ⟨c, outer, pc⟩ := x
  obtain ⟨_, _, signal⟩ := y
  obtain rfl : outer = _ := houter
  obtain rfl : pc = _ := hpc
  have hrest := Page.getElem?_modify hconn Connection.rest
  simp only [Page.stepRestart, Direct.stepRun, hconn]
  cases pc with
  | running stage =>
    simp only
    cases resumeRestart d.conn.closed stage outcome with
    | none => rfl
    | some progress =>
      cases progress with
      | next stage' status =>
        cases stage <;> exact restartView_eq hx hy hconn rfl rfl rfl rfl rfl
      | done status => exact restartView_eq hx hy hrest rfl rfl rfl rfl rfl
      | throws message =>
        simp only
        split
        · exact restartView_eq hx hy hconn rfl rfl rfl rfl rfl
        · have hfail := Page.getElem?_modify (Page.getElem?_fail hconn message) Connection.rest
          exact restartView_eq hx hy hfail
            (congrArg (List.set · r _) (s.fail_restarts c message)) rfl rfl rfl rfl
  | waiting =>
    cases outcome with
    | resolved =>
      cases d.conn.rest.restart with
      | returns => exact restartView_eq hx hy hrest rfl rfl rfl rfl rfl
      | exhausted =>
        exact restartView_eq hx hy (Page.getElem?_fail hrest restartExhausted)
          (congrArg (List.set · r _) (Page.fail_restarts _ c restartExhausted)) rfl rfl rfl rfl
      | starts =>
        exact restartView_eq hx hy (Page.getElem?_modify hrest Connection.start) rfl rfl rfl rfl rfl
    | _ => rfl
  | returning =>
    cases outcome with
    | resolved => exact restartView_eq hx hy hrest rfl rfl rfl rfl rfl
    | _ => rfl
  | returned => cases outcome <;> rfl

end Views

/-! ### The budget -/

/-- How many offers may have been posted: those that were counted, or all of them once the connection is
    closed and the count is gone. -/
def Direct.bound (d : Direct) : Nat := if d.conn.closed then maxRestarts else d.conn.restartCount

/-- Where the object stands after `posts` restart offers. -/
structure Direct.Budgeted (d : Direct) (posts : Nat) : Prop where
  live : d.conn.closed = false → d.conn.peer = true
  counted : d.conn.restartCount ≤ maxRestarts
  within : posts ≤ d.bound
  room : ∀ (r : Nat) x, d.runs[r]? = some x → x.pending = true → posts < d.bound
  single : ∀ (r r' : Nat) x x', d.runs[r]? = some x → d.runs[r']? = some x' → x.inFlight = true →
    x'.inFlight = true → r = r'
  started : d.conn.closed = false → ∀ (r : Nat) x, d.runs[r]? = some x → x.inFlight = true →
    1 ≤ d.conn.restartCount
  held : d.conn.closed = false → ∀ (r : Nat) x, d.runs[r]? = some x → x.inFlight = true →
    d.conn.restarting = true ∨ maxRestarts ≤ d.conn.restartCount
  nested : d.conn.closed = false → ∀ (r : Nat) x, d.runs[r]? = some x → 1 ≤ x.outer →
    maxRestarts ≤ d.conn.restartCount
  returning : ∀ (r : Nat) x, d.runs[r]? = some x → x.pc = .returning → 1 ≤ x.outer

theorem RestartRun.inFlight_of_pending {x : RestartRun} (h : x.pending = true) : x.inFlight = true := by
  obtain ⟨outer, pc, created⟩ := x
  cases pc with
  | running stage => rfl
  | waiting | returning | returned => cases h

theorem RestartRun.inFlight_ended (x : RestartRun) : x.ended.inFlight = false := by
  obtain ⟨outer, pc, created⟩ := x
  cases outer with
  | zero => rfl
  | succ outer => rfl

theorem RestartRun.pending_ended (x : RestartRun) : x.ended.pending = false := by
  obtain ⟨outer, pc, created⟩ := x
  cases outer with
  | zero => rfl
  | succ outer => rfl

theorem RestartRun.outer_of_ended (x : RestartRun) (h : x.ended.pc = .returning) : 1 ≤ x.ended.outer := by
  obtain ⟨outer, pc, created⟩ := x
  cases outer with
  | zero => cases h
  | succ outer => exact Nat.le_add_left 1 outer

section Budget

variable {d d' : Direct} {posts r : Nat} {e : DirectEvent} {outcome : Outcome}
  {created : CreatedConnection} {x y : RestartRun} {temporary : Bool}

theorem Direct.Budgeted.bound_le (h : d.Budgeted posts) : d.bound ≤ maxRestarts := by
  unfold Direct.bound
  split
  · exact Nat.le_refl _
  · exact h.counted

/-- `close` forgets the count, but no attempt can start any more. -/
theorem Direct.Budgeted.close (h : d.Budgeted posts) : d.close.Budgeted posts where
  live := fun hopen => by cases hopen
  counted := Nat.zero_le _
  within := Nat.le_trans h.within h.bound_le
  room := fun r x hx hpending => Nat.lt_of_lt_of_le (h.room r x hx hpending) h.bound_le
  single := h.single
  started := fun hopen => by cases hopen
  held := fun hopen => by cases hopen
  nested := fun hopen => by cases hopen
  returning := h.returning

/-- The flag may be cleared when no attempt is in progress, or no further one can start. -/
theorem Direct.Budgeted.rest (h : d.Budgeted posts)
    (hidle : d.conn.closed = false → (∀ (r : Nat) x, d.runs[r]? = some x → x.inFlight = false) ∨
      maxRestarts ≤ d.conn.restartCount) : d.rest.Budgeted posts where
  live := h.live
  counted := h.counted
  within := h.within
  room := h.room
  single := h.single
  started := h.started
  held := by
    intro hopen r x hx hflight
    obtain hnone | hfull := hidle hopen
    · rw [hnone r x hx] at hflight
      cases hflight
    · exact .inr hfull
  nested := h.nested
  returning := h.returning

/-- A call of `restart` moves on without starting anything. -/
theorem Direct.Budgeted.setRun (h : d.Budgeted posts)
    (hx : d.runs[r]? = some x) (hflight : y.inFlight = true → x.inFlight = true)
    (hpending : y.pending = true → x.pending = true)
    (houter : d.conn.closed = false → 1 ≤ y.outer → maxRestarts ≤ d.conn.restartCount)
    (hreturning : y.pc = .returning → 1 ≤ y.outer) : (d.setRun r y).Budgeted posts := by
  -- every call is an old one, or the one that has moved on
  have hcases : ∀ (r' : Nat) x', (d.setRun r y).runs[r']? = some x' →
      (r' = r ∧ x' = y) ∨ d.runs[r']? = some x' := by
    intro r' x' hx'
    exact (getElem?_set_cases hx').imp_right And.right
  have hold : ∀ (r' : Nat) x', (d.setRun r y).runs[r']? = some x' → x'.inFlight = true →
      ∃ x₀, d.runs[r']? = some x₀ ∧ x₀.inFlight = true := by
    intro r' x' hx' hflight'
    obtain ⟨rfl, rfl⟩ | hx' := hcases r' x' hx'
    · exact ⟨x, hx, hflight hflight'⟩
    · exact ⟨x', hx', hflight'⟩
  refine ⟨h.live, h.counted, h.within, ?_, ?_, ?_, ?_, ?_, ?_⟩
  · intro r' x' hx' hpending'
    obtain ⟨rfl, rfl⟩ | hx' := hcases r' x' hx'
    · exact h.room _ x hx (hpending hpending')
    · exact h.room r' x' hx' hpending'
  · intro r₁ r₂ x₁ x₂ h₁ h₂ hflight₁ hflight₂
    obtain ⟨y₁, hy₁, hy₁'⟩ := hold r₁ x₁ h₁ hflight₁
    obtain ⟨y₂, hy₂, hy₂'⟩ := hold r₂ x₂ h₂ hflight₂
    exact h.single r₁ r₂ y₁ y₂ hy₁ hy₂ hy₁' hy₂'
  · intro hopen r' x' hx' hflight'
    obtain ⟨x₀, hx₀, hflight₀⟩ := hold r' x' hx' hflight'
    exact h.started hopen r' x₀ hx₀ hflight₀
  · intro hopen r' x' hx' hflight'
    obtain ⟨x₀, hx₀, hflight₀⟩ := hold r' x' hx' hflight'
    exact h.held hopen r' x₀ hx₀ hflight₀
  · intro hopen r' x' hx' houter'
    obtain ⟨rfl, rfl⟩ | hx' := hcases r' x' hx'
    · exact houter hopen houter'
    · exact h.nested hopen r' x' hx' houter'
  · intro r' x' hx' hpc
    obtain ⟨rfl, rfl⟩ | hx' := hcases r' x' hx'
    · exact hreturning hpc
    · exact h.returning r' x' hx' hpc

/-- What a call of `restart` has found when it starts. -/
theorem Connection.restart_starts {conn : Connection} (h : conn.restart = .starts) :
    conn.peer = true ∧ conn.closed = false ∧ conn.restarting = false ∧ conn.restartCount < maxRestarts := by
  unfold Connection.restart at h
  split at h
  · cases h
  · rename_i hnot
    split at h
    · cases h
    · simp only [Bool.or_eq_true, Bool.not_eq_true', not_or, Bool.not_eq_true, Bool.not_eq_false] at hnot
      exact ⟨hnot.1.1, hnot.1.2, hnot.2, by omega⟩

/-- **An attempt starts**, as the only one: no other is in progress, or the flag would be set or the
    budget used up. -/
theorem Direct.Budgeted.start (h : d.Budgeted posts) (hstarts : d.conn.restart = .starts) (outer r : Nat)
    {runs : List RestartRun} (houter : 1 ≤ outer → 1 ≤ d.conn.restartCount)
    (hruns : ∀ (r' : Nat) x, runs[r']? = some x →
      (r' = r ∧ x = ⟨outer, .running .offering, ""⟩) ∨ d.runs[r']? = some x) :
    Direct.Budgeted { d with conn := d.conn.start, runs := runs } posts := by
  obtain ⟨hpeer, hopen, hrest, hcount⟩ := Connection.restart_starts hstarts
  have hidle : ∀ (r' : Nat) x, d.runs[r']? = some x → x.inFlight = true → False := by
    intro r' x hx hflight
    obtain hheld | hfull := h.held hopen r' x hx hflight
    · rw [hrest] at hheld
      cases hheld
    · omega
  have hbound : d.bound = d.conn.restartCount := by
    unfold Direct.bound
    rw [hopen]
    rfl
  have hbound' : Direct.bound { d with conn := d.conn.start, runs := runs } =
      d.conn.restartCount + 1 := by
    unfold Direct.bound
    rw [show ({ d with conn := d.conn.start, runs := runs } : Direct).conn.closed = false from hopen]
    rfl
  have hwithin := h.within
  refine ⟨fun _ => hpeer, hcount, ?_, ?_, ?_, ?_, ?_, ?_, ?_⟩
  · omega
  · intro r' x _ _
    omega
  · intro r₁ r₂ x₁ x₂ h₁ h₂ hflight₁ hflight₂
    obtain ⟨rfl, -⟩ | h₁ := hruns r₁ x₁ h₁
    · obtain ⟨rfl, -⟩ | h₂ := hruns r₂ x₂ h₂
      · rfl
      · exact (hidle r₂ x₂ h₂ hflight₂).elim
    · exact (hidle r₁ x₁ h₁ hflight₁).elim
  · intro _ _ _ _ _
    exact Nat.le_add_left 1 _
  · intro _ _ _ _ _
    exact .inl rfl
  · intro _ r' x hx hx'
    show maxRestarts ≤ d.conn.restartCount + 1
    obtain ⟨rfl, rfl⟩ | hx := hruns r' x hx
    · have := houter hx'
      unfold maxRestarts
      omega
    · have := h.nested hopen r' x hx hx'
      omega
  · intro r' x hx hpc
    obtain ⟨rfl, rfl⟩ | hx := hruns r' x hx
    · cases hpc
    · exact h.returning r' x hx hpc

/-- A call of `restart`, by a click or a timer. -/
theorem Direct.Budgeted.restart (h : d.Budgeted posts) : d.restart.1.Budgeted posts := by
  unfold Direct.restart
  cases hcall : d.conn.restart with
  | returns => exact h
  | exhausted => exact h.close
  | starts =>
    refine h.start hcall 0 d.runs.length (fun hzero => by omega) ?_
    intro r' x hx
    rw [List.getElem?_append] at hx
    split at hx
    · exact .inr hx
    · rw [List.getElem?_singleton] at hx
      split at hx
      · exact .inl ⟨by omega, (Option.some.inj hx).symm⟩
      · cases hx

/-- When the attempt in progress ends, none is in progress: another one would be a second one. -/
theorem Direct.Budgeted.idle (h : d.Budgeted posts)
    (hx : d.runs[r]? = some x) (hflight : x.inFlight = true) (hended : y.inFlight = false) :
    ∀ (r' : Nat) x', (d.setRun r y).runs[r']? = some x' → x'.inFlight = false := by
  intro r' x' hrun
  obtain ⟨-, rfl⟩ | ⟨hne, hrun⟩ := getElem?_set_cases hrun
  · exact hended
  · cases hflight' : x'.inFlight with
    | false => rfl
    | true => exact absurd (h.single r' r x' x hrun hx hflight' hflight) hne

/-- The `finally` block of a call whose attempt was the one in progress, or that has waited for another. -/
theorem Direct.Budgeted.runReturns (h : d.Budgeted posts) (hx : d.runs[r]? = some x)
    (houter : d.conn.closed = false → 1 ≤ y.outer → maxRestarts ≤ d.conn.restartCount)
    (hidle : d.conn.closed = false → x.inFlight = true ∨ maxRestarts ≤ d.conn.restartCount) :
    (d.runReturns r y).Budgeted posts := by
  have hset := h.setRun hx (y := y.ended) (fun hflight => by rw [y.inFlight_ended] at hflight; cases hflight)
    (fun hpending => by rw [y.pending_ended] at hpending; cases hpending) houter y.outer_of_ended
  refine hset.rest (fun hopen => ?_)
  obtain hflight | hfull := hidle hopen
  · exact .inl (h.idle hx hflight y.inFlight_ended)
  · exact .inr hfull

/-- After an offer is posted, the attempt is not before its post again. -/
theorem resumeRestart_next {closed : Bool} {stage stage' : Stage}
    {status : Option String} (h : resumeRestart closed stage outcome = some (.next stage' status))
    (hpending : stage' = .offering ∨ stage' = .describing ∨ stage' = .gathering) :
    stage = .offering ∨ stage = .describing := by
  unfold resumeRestart at h
  obtain rfl | rfl | rfl := hpending
  all_goals
    split at h
    · cases h
    · cases h
    · unfold negotiate at h
      split at h
      all_goals first
        | exact .inl rfl
        | exact .inr rfl
        | cases h
        | split at h <;> cases h

theorem RestartRun.pending_running {outer : Nat} {stage : Stage} {created : String} :
    RestartRun.pending ⟨outer, .running stage, created⟩ = true ↔
      stage = .offering ∨ stage = .describing ∨ stage = .gathering := by
  cases stage <;> simp [RestartRun.pending]

/-- **An offer is posted**: there was room for it, and no other attempt has one to post. -/
theorem Direct.Budgeted.post (h : d.Budgeted posts)
    (hx : d.runs[r]? = some x) (hpending : x.pending = true) (hposted : y.pending = false)
    (houter : y.outer = x.outer) (hpc : y.pc ≠ .returning) : (d.setRun r y).Budgeted (posts + 1) := by
  have hset := h.setRun hx (y := y) (fun _ => RestartRun.inFlight_of_pending hpending)
    (fun hyes => by rw [hposted] at hyes; cases hyes)
    (fun hopen hle => h.nested hopen r x hx (houter ▸ hle)) (fun hreturning => absurd hreturning hpc)
  refine { hset with within := h.room r x hx hpending, room := fun r' x' hx' hpending' => ?_ }
  exfalso
  obtain ⟨-, rfl⟩ | ⟨hne, hrun⟩ := getElem?_set_cases hx'
  · rw [hposted] at hpending'
    cases hpending'
  · exact hne (h.single r' r x' x hrun hx (RestartRun.inFlight_of_pending hpending')
      (RestartRun.inFlight_of_pending hpending))

/-- A restart offer is posted. -/
def DirectEvent.isPost : DirectEvent → Bool
  | .posted _ _ _ _ => true
  | _ => false

/-- The `try` block goes on. -/
theorem Direct.Budgeted.advance (h : d.Budgeted posts) {stage stage' : Stage}
    (created : CreatedConnection) (hx : d.runs[r]? = some x) (hpc : x.pc = .running stage)
    (hnext : stage' = .offering ∨ stage' = .describing ∨ stage' = .gathering →
      stage = .offering ∨ stage = .describing) :
    (d.advance r x stage stage' created).1.Budgeted
      (posts + if (d.advance r x stage stage' created).2.isPost then 1 else 0) := by
  obtain ⟨outer, pc, id⟩ := x
  cases hpc
  have hflight : RestartRun.inFlight ⟨outer, .running stage, id⟩ = true := rfl
  have hmove : ∀ id', (d.setRun r ⟨outer, .running stage', id'⟩).Budgeted posts := by
    intro id'
    refine h.setRun hx (fun _ => hflight) (fun hpending => ?_) (fun hopen hle => ?_)
      (fun hreturning => by cases hreturning)
    · rw [RestartRun.pending_running] at hpending ⊢
      obtain hstage | hstage := hnext hpending
      · exact .inl hstage
      · exact .inr (.inl hstage)
    · exact h.nested hopen r ⟨outer, .running stage, id⟩ hx hle
  cases stage with
  | gathering =>
    refine h.post hx rfl ?_ rfl (by simp)
    cases hpending : RestartRun.pending ⟨outer, .running stage', id⟩ with
    | false => rfl
    | true =>
      obtain hstage | hstage := hnext (RestartRun.pending_running.mp hpending)
      · cases hstage
      · cases hstage
  | creating => exact hmove created.id
  | reconnecting =>
    have hmoved := hmove id
    exact ⟨hmoved.live, hmoved.counted, hmoved.within, hmoved.room, hmoved.single, hmoved.started,
      hmoved.held, hmoved.nested, hmoved.returning⟩
  | offering | describing | polling | pausing | accepting | opening | authenticating | configuring
  | measuring => exact hmove id

/-- A call that has cleared the flag itself finds an open connection. -/
theorem restart_ne_returns {conn : Connection} (hpeer : conn.peer = true) (hopen : conn.closed = false) :
    conn.rest.restart ≠ .returns := by
  unfold Connection.restart Connection.rest
  rw [if_neg (by simp [hpeer, hopen])]
  split
  · exact RestartCall.noConfusion
  · exact RestartCall.noConfusion

/-- A call of `restart`, after a wait. -/
theorem Direct.Budgeted.stepRun (h : d.Budgeted posts) (hx : d.runs[r]? = some x)
    (hs : d.stepRun r x outcome created = some (d', e)) :
    d'.Budgeted (posts + if e.isPost then 1 else 0) := by
  unfold Direct.stepRun at hs
  cases hpc : x.pc with
  | running stage =>
    have hflight : x.inFlight = true := by
      unfold RestartRun.inFlight
      rw [hpc]
    simp only [hpc] at hs
    cases hresume : resumeRestart d.conn.closed stage outcome with
    | none =>
      rw [hresume] at hs
      cases hs
    | some progress =>
      rw [hresume] at hs
      cases progress with
      | next stage' status =>
        have hadvanced := h.advance created hx hpc (resumeRestart_next hresume)
        rw [Option.some.inj hs] at hadvanced
        exact hadvanced
      | done status =>
        cases hs
        exact h.runReturns hx (fun hopen => h.nested hopen r x hx) (fun _ => .inl hflight)
      | throws message =>
        simp only at hs
        split at hs
        · cases hs
          refine h.setRun hx (fun _ => hflight) (fun hpending => by cases hpending)
            (fun hopen => h.nested hopen r x hx) (fun hreturning => by cases hreturning)
        · cases hs
          exact h.close.runReturns hx (fun hopen => by cases hopen) (fun hopen => by cases hopen)
  | waiting =>
    have hflight : x.inFlight = true := by
      unfold RestartRun.inFlight
      rw [hpc]
    simp only [hpc] at hs
    split at hs
    · cases hs
    · -- while the call is on its way to itself, no attempt is in progress
      have hidle : (d.setRun r { x with pc := .returned }).rest.Budgeted posts := by
        refine (h.setRun (y := { x with pc := .returned }) hx (fun hyes => by cases hyes)
          (fun hyes => by cases hyes) (fun hopen => h.nested hopen r x hx)
          (fun hyes => by cases hyes)).rest (fun _ => .inl ?_)
        exact h.idle hx hflight rfl
      have hr : r < d.runs.length := (List.getElem?_eq_some_iff.mp hx).1
      have hx₀ : (d.setRun r { x with pc := .returned }).rest.runs[r]? = some { x with pc := .returned } :=
        List.getElem?_set_self hr
      have hset : ∀ y, (d.runs.set r { x with pc := .returned }).set r y = d.runs.set r y :=
        fun y => List.set_set ..
      cases hcall : d.conn.rest.restart with
      | returns =>
        rw [hcall] at hs
        cases hs
        have hmoved := hidle.setRun (y := { x with outer := x.outer + 1, pc := .returning }) hx₀
          (fun hyes => by cases hyes) (fun hyes => by cases hyes)
          (fun hopen _ => absurd hcall (restart_ne_returns (h.live hopen) hopen))
          (fun _ => Nat.le_add_left 1 x.outer)
        rw [Direct.setRun, show (d.setRun r { x with pc := .returned }).rest.runs.set r _ = d.runs.set r _
          from hset _] at hmoved
        exact hmoved
      | exhausted =>
        rw [hcall] at hs
        cases hs
        have hmoved := hidle.close.setRun (y := { x with outer := x.outer + 1, pc := .returning }) hx₀
          (fun hyes => by cases hyes) (fun hyes => by cases hyes) (fun hopen => by cases hopen)
          (fun _ => Nat.le_add_left 1 x.outer)
        rw [Direct.setRun, show (d.setRun r { x with pc := .returned }).rest.close.runs.set r _ =
          d.runs.set r _ from hset _] at hmoved
        exact hmoved
      | starts =>
        rw [hcall] at hs
        cases hs
        obtain ⟨-, hopen, -, -⟩ := Connection.restart_starts hcall
        refine hidle.start hcall (x.outer + 1) r (fun _ => h.started hopen r x hx hflight) ?_
        intro r' x' hrun
        obtain hnew | ⟨hne, hrun⟩ := getElem?_set_cases hrun
        · exact .inl hnew
        · exact .inr ((List.getElem?_set_ne (Ne.symm hne)).trans hrun)
  | returning =>
    simp only [hpc] at hs
    split at hs
    · cases hs
    · cases hs
      have houter := h.returning r x hx hpc
      exact h.runReturns hx (fun hopen _ => h.nested hopen r x hx houter)
        (fun hopen => .inr (h.nested hopen r x hx houter))
  | returned =>
    simp only [hpc] at hs
    cases hs

/-- Only the connection and the calls of `restart` matter. -/
theorem Direct.Budgeted.congr (h : d.Budgeted posts) (hconn : d'.conn = d.conn)
    (hruns : d'.runs = d.runs) : d'.Budgeted posts := by
  obtain ⟨conn, _, _, _, _, _, runs, _⟩ := d'
  cases hconn
  cases hruns
  exact ⟨h.live, h.counted, h.within, h.room, h.single, h.started, h.held, h.nested, h.returning⟩

theorem stepConnect_same (hs : d.stepConnect temporary outcome created = some (d', e)) :
    d'.conn = d.conn ∧ d'.runs = d.runs ∧ (e = .signaled d'.signalID ∨
      (e = .silent ∧ d'.signalID = d.signalID)) := by
  unfold Direct.stepConnect at hs
  cases hstage : d.connecting with
  | none => simp [hstage] at hs
  | some stage =>
    simp only [hstage] at hs
    cases hresume : resumeConnect d.conn.closed temporary stage outcome with
    | none => simp [hresume] at hs
    | some progress =>
      simp only [hresume] at hs
      split at hs
      · cases hs
        exact ⟨rfl, rfl, .inl rfl⟩
      · cases hs
        exact ⟨rfl, rfl, .inr ⟨rfl, rfl⟩⟩

theorem restart_event (d : Direct) : d.restart.2.isPost = false := by
  unfold Direct.restart
  cases d.conn.restart with
  | returns | exhausted | starts => rfl

/-- **A step keeps the budget.** -/
theorem Direct.Budgeted.step (h : d.Budgeted posts)
    {a : DirectAction} (hs : d.step temporary a = some (d', e)) :
    d'.Budgeted (posts + if e.isPost then 1 else 0) := by
  -- a call of `restart` posts nothing by itself
  have hrestart : ∀ d₁ : Direct, d₁.Budgeted posts → d₁.restart = (d', e) →
      d'.Budgeted (posts + if e.isPost then 1 else 0) := by
    intro d₁ h₁ heq
    have hafter := h₁.restart
    have hevent := restart_event d₁
    rw [heq] at hafter hevent
    rw [hevent]
    exact hafter
  cases a with
  | connect outcome created =>
    obtain ⟨hconn, hruns, hevent⟩ := stepConnect_same hs
    obtain rfl | ⟨rfl, -⟩ := hevent
    · exact h.congr hconn hruns
    · exact h.congr hconn hruns
  | click => exact hrestart d h (Option.some.inj hs)
  | stateChanged down =>
    simp only [Direct.step] at hs
    split at hs
    · cases hs
      exact h
    · cases hs
      exact h.congr rfl rfl
  | timer connected =>
    simp only [Direct.step] at hs
    split at hs
    · cases hs
    · have htimer : Direct.Budgeted { d with timers := d.timers - 1 } posts := h.congr rfl rfl
      split at hs
      · exact hrestart _ htimer (Option.some.inj hs)
      · cases hs
        exact htimer
  | restarted r outcome created =>
    simp only [Direct.step] at hs
    cases hx : d.runs[r]? with
    | none => simp [hx] at hs
    | some x =>
      simp only [hx] at hs
      exact h.stepRun hx hs
  | relayCandidate =>
    cases hs
    exact h.close
  | close =>
    cases hs
    exact h.close

/-! ### The signaling ID -/

/-- What a step does to the signaling ID: the connection is closed, or the ID is the new one of `connect` or
    of a restart that is connected, or it stays.  What is posted carries it. -/
structure Direct.Signals (d d' : Direct) (e : DirectEvent) : Prop where
  closed : d.conn.closed = true → d'.conn.closed = true
  kept : d'.conn.closed = true ∨ e = .signaled d'.signalID ∨ e = .reconnected d'.signalID ∨
    (d'.signalID = d.signalID ∧ ∀ id, e ≠ .signaled id)
  posts : ∀ serviceID browserSessionID capability restartOf,
    e = .posted serviceID browserSessionID capability restartOf → restartOf = d.signalID

/-- Nothing is posted and the ID stays. -/
theorem Direct.Signals.same (hclosed : d'.conn.closed = d.conn.closed)
    (hsignal : d'.signalID = d.signalID) (he : e = .silent) : d.Signals d' e := by
  subst he
  exact ⟨fun h => hclosed.trans h, .inr (.inr (.inr ⟨hsignal, fun _ => DirectEvent.noConfusion⟩)),
    fun _ _ _ _ h => by cases h⟩

theorem Direct.Signals.close (hclosed : d'.conn.closed = true)
    (hpost : e.isPost = false) : d.Signals d' e := by
  refine ⟨fun _ => hclosed, .inl hclosed, fun _ _ _ _ h => ?_⟩
  subst h
  cases hpost

theorem restart_signals (d : Direct) : d.Signals d.restart.1 d.restart.2 := by
  unfold Direct.restart
  cases d.conn.restart with
  | returns => exact .same rfl rfl rfl
  | exhausted => exact .close rfl rfl
  | starts => exact .same rfl rfl rfl

theorem advance_signals (d : Direct) (r : Nat) (x : RestartRun) (stage stage' : Stage)
    (created : CreatedConnection) :
    d.Signals (d.advance r x stage stage' created).1 (d.advance r x stage stage' created).2 := by
  cases stage with
  | gathering =>
    refine ⟨id, .inr (.inr (.inr ⟨rfl, fun _ => DirectEvent.noConfusion⟩)), fun _ _ _ _ h => ?_⟩
    cases h
    rfl
  | reconnecting => exact ⟨id, .inr (.inr (.inl rfl)), fun _ _ _ _ h => by cases h⟩
  | offering | describing | creating | polling | pausing | accepting | opening | authenticating
  | configuring | measuring => exact .same rfl rfl rfl

theorem stepRun_signals (hs : d.stepRun r x outcome created = some (d', e)) : d.Signals d' e := by
  unfold Direct.stepRun at hs
  cases hpc : x.pc with
  | running stage =>
    simp only [hpc] at hs
    cases hresume : resumeRestart d.conn.closed stage outcome with
    | none => simp [hresume] at hs
    | some progress =>
      rw [hresume] at hs
      cases progress with
      | next stage' status =>
        have hsignals := advance_signals d r x stage stage' created
        rw [Option.some.inj hs] at hsignals
        exact hsignals
      | done status =>
        cases hs
        exact .same rfl rfl rfl
      | throws message =>
        simp only at hs
        split at hs
        · cases hs
          exact .same rfl rfl rfl
        · cases hs
          exact .close rfl rfl
  | waiting =>
    simp only [hpc] at hs
    split at hs
    · cases hs
    · cases hcall : d.conn.rest.restart with
      | returns =>
        rw [hcall] at hs
        cases hs
        exact .same rfl rfl rfl
      | exhausted =>
        rw [hcall] at hs
        cases hs
        exact .close rfl rfl
      | starts =>
        rw [hcall] at hs
        cases hs
        exact .same rfl rfl rfl
  | returning =>
    simp only [hpc] at hs
    split at hs
    · cases hs
    · cases hs
      exact .same rfl rfl rfl
  | returned => simp [hpc] at hs

theorem step_signals {a : DirectAction}
    (hs : d.step temporary a = some (d', e)) : d.Signals d' e := by
  cases a with
  | connect outcome created =>
    obtain ⟨hconn, -, hevent⟩ := stepConnect_same hs
    have hclosed : d'.conn.closed = d.conn.closed := by rw [hconn]
    obtain hevent | ⟨hevent, hsame⟩ := hevent
    · refine ⟨fun h => hclosed.trans h, .inr (.inl hevent), fun _ _ _ _ h => ?_⟩
      rw [hevent] at h
      cases h
    · exact .same hclosed hsame hevent
  | click =>
    have hsignals := restart_signals d
    rw [Option.some.inj hs] at hsignals
    exact hsignals
  | stateChanged down =>
    simp only [Direct.step] at hs
    split at hs <;> cases hs <;> exact .same rfl rfl rfl
  | timer connected =>
    simp only [Direct.step] at hs
    split at hs
    · cases hs
    · split at hs
      · have hsignals := restart_signals { d with timers := d.timers - 1 }
        rw [Option.some.inj hs] at hsignals
        exact ⟨hsignals.closed, hsignals.kept, hsignals.posts⟩
      · cases hs
        exact .same rfl rfl rfl
  | restarted r outcome created =>
    simp only [Direct.step] at hs
    cases hx : d.runs[r]? with
    | none => simp [hx] at hs
    | some x =>
      simp only [hx] at hs
      exact stepRun_signals hs
  | relayCandidate =>
    cases hs
    exact .close rfl rfl
  | close =>
    cases hs
    exact .close rfl rfl

end Budget

/-! ### Runs -/

/-- What has happened to the object, the latest first. -/
abbrev DirectHistory := List (Transition Direct DirectAction DirectEvent)

/-- The restart offers that were posted. -/
def DirectHistory.posts (h : DirectHistory) : Nat := h.countP (fun t => t.event.isPost)

/-- The signaling ID of the initial connection, or of a restart that reached the connected state. -/
def DirectHistory.Established (h : DirectHistory) (id : String) : Prop :=
  ∃ t ∈ h, t.event = .signaled id ∨ t.event = .reconnected id

section Runs

variable {serviceID : String} {temporary : Bool} {h : DirectHistory} {d : Direct}

theorem run_budgeted (hrun : (directSystem serviceID temporary).Run h d) :
    d.Budgeted (DirectHistory.posts h) := by
  refine hrun.history_invariant (P := fun h d => d.Budgeted (DirectHistory.posts h)) ?_ ?_
  · exact ⟨fun _ => rfl, Nat.zero_le _, Nat.le_refl _, fun r x hx => by simp [directSystem] at hx,
      fun r r' x x' hx => by simp [directSystem] at hx, fun _ r x hx => by simp [directSystem] at hx,
      fun _ r x hx => by simp [directSystem] at hx, fun _ r x hx => by simp [directSystem] at hx,
      fun r x hx => by simp [directSystem] at hx⟩
  · intro h d a d' e _ hbudgeted hs
    have hstep := hbudgeted.step hs
    rwa [DirectHistory.posts, List.countP_cons]

/-- Once `connect` has received its signaling ID, the object keeps that of an established connection. -/
theorem run_established (hrun : (directSystem serviceID temporary).Run h d) :
    d.conn.closed = false → DirectHistory.Established h d.signalID ∨
      ∀ t ∈ h, ∀ id, t.event ≠ .signaled id := by
  refine hrun.history_invariant (P := fun h d => d.conn.closed = false →
    DirectHistory.Established h d.signalID ∨ ∀ t ∈ h, ∀ id, t.event ≠ .signaled id) ?_ ?_
  · exact fun _ => .inr (fun t ht => absurd ht List.not_mem_nil)
  · intro h d a d' e _ ih hs hopen
    have hsignals := step_signals hs
    have hbefore : d.conn.closed = false := by
      cases hclosed : d.conn.closed with
      | false => rfl
      | true =>
        rw [hsignals.closed hclosed] at hopen
        cases hopen
    obtain hclosed | hnew | hnew | ⟨hsame, hevent⟩ := hsignals.kept
    · rw [hclosed] at hopen
      cases hopen
    · exact .inl ⟨_, List.mem_cons_self, .inl hnew⟩
    · exact .inl ⟨_, List.mem_cons_self, .inr hnew⟩
    · rw [hsame]
      obtain ⟨t, ht, hid⟩ | hnone := ih hbefore
      · exact .inl ⟨t, List.mem_cons_of_mem _ ht, hid⟩
      · exact .inr (List.forall_mem_cons.mpr ⟨hevent, hnone⟩)

/-- **The restart budget.**  In every run at most two restart offers are posted, and no two calls of
    `restart` have an attempt in progress.  What is posted after `connect` has received its signaling ID and
    before the connection is closed carries the ID of the initial connection or of an earlier restart that
    reached the connected state. -/
theorem run_restart_budget (hrun : (directSystem serviceID temporary).Run h d) :
    DirectHistory.posts h ≤ 2 ∧
    (∀ (r r' : Nat) x x', d.runs[r]? = some x → d.runs[r']? = some x' → x.inFlight = true →
      x'.inFlight = true → r = r') ∧
    ∀ later t earlier, h = later ++ t :: earlier → t.before.conn.closed = false →
      (∃ t' ∈ earlier, ∃ id, t'.event = .signaled id) →
      ∀ serviceID browserSessionID capability restartOf,
        t.event = .posted serviceID browserSessionID capability restartOf →
        DirectHistory.Established earlier restartOf := by
  have hbudgeted := run_budgeted hrun
  refine ⟨Nat.le_trans hbudgeted.within hbudgeted.bound_le, hbudgeted.single, ?_⟩
  rintro later t earlier rfl hopen ⟨t', ht', id, hsignaled⟩ _ _ _ restartOf hposted
  obtain ⟨hbefore, d', hs⟩ := hrun.split
  rw [(step_signals hs).posts _ _ _ _ hposted]
  obtain hestablished | hnone := run_established hbefore hopen
  · exact hestablished
  · exact absurd hsignaled (hnone t' ht' id)

end Runs

/-- A connection that is restarted by a timer, while a click does nothing, and by a click once it is
    connected again: the first restart offer is for the initial connection, the second one for the first
    restart. -/
def restartedTwice : List DirectAction :=
  [.connect .resolved ⟨"", "", ""⟩, .connect .resolved ⟨"", "", ""⟩, .connect .resolved ⟨"", "", ""⟩,
    .connect .resolved ⟨"initial", "session", "token"⟩,
    .stateChanged true, .timer false, .click,
    .restarted 0 .resolved ⟨"", "", ""⟩, .restarted 0 .resolved ⟨"", "", ""⟩,
    .restarted 0 .resolved ⟨"", "", ""⟩, .restarted 0 .resolved ⟨"first", "session", "token"⟩,
    .restarted 0 (.answered false) ⟨"", "", ""⟩, .restarted 0 .resolved ⟨"", "", ""⟩,
    .restarted 0 .resolved ⟨"", "", ""⟩, .restarted 0 (.measured true) ⟨"", "", ""⟩, .click,
    .restarted 1 .resolved ⟨"", "", ""⟩, .restarted 1 .resolved ⟨"", "", ""⟩,
    .restarted 1 .resolved ⟨"", "", ""⟩]

theorem run_restart_budget_of_restartedTwice : ∃ h d, (directSystem "router" false).Run h d ∧
    h.filterMap (fun t => match t.event with
      | .posted _ _ _ restartOf => some restartOf
      | _ => none) = ["first", "initial"] ∧ DirectHistory.posts h ≤ 2 := by
  obtain ⟨h, d, hrun, hposts⟩ := System.exists_run_of_exec (S := directSystem "router" false)
    (P := fun h _ => decide (h.filterMap (fun t => match t.event with
      | .posted _ _ _ restartOf => some restartOf
      | _ => none) = ["first", "initial"])) restartedTwice (by decide +kernel)
  exact ⟨h, d, hrun, of_decide_eq_true hposts, (run_restart_budget hrun).1⟩

end WebVPN.Browser
