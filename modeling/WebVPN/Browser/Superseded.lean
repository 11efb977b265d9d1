import WebVPN.Browser.Page

namespace WebVPN.Browser

open WebVPN.Library

/-!
# Browser — superseded connections

The failure of a call of `connect` or `restart` runs `failP2P`, which closes whatever `direct` leads to and
tells the user of a failure.  The call does not ask whether its connection was closed or replaced in the
meantime.  What counts is therefore how its waits end.

* `Superseded` — work whose connection is closed or no longer the one in `direct`, or which the user has
  put something else in place of;
* `Page.endsWell` — how a wait must end for the call that waits to go on without a failure;
* `Page.fresh` — a connection is made only while no other one is open;
* `Page.Change`, `Page.step_change` — what a step may do to the connections and to `direct`;
* `Page.Held`, `Page.Held.step` — the invariant: an open connection is the one in `direct`;
* `run_superseded` — in a run in which connections are made one at a time, superseded work reports no failure
  exactly if its wait ends well, and then leaves the current connection open;
* `closes_successor` — otherwise it closes the current connection.
-/

/-! ### Superseded work -/

/-- Whether the connection with this reference is closed. -/
def Page.closedAt (s : Page) (c : Nat) : Option Bool := s.connections[c]?.map Connection.closed

/-- `direct` leads to the connection, and it is not closed. -/
def Page.Current (s : Page) (c : Nat) : Prop := s.direct = some c ∧ s.closedAt c = some false

/-- The user puts something else in the place of what was: `connect` is entered, or the user
    disconnects or leaves. -/
def Page.yields (s : Page) : Action → Bool
  | .openTemporary _ | .loaded _ | .invalidTarget _ | .disconnect | .logout | .unload => true
  | .attempt i outcome => s.attempts[i]?.any (fun x => x.pc = .preparing) && outcome = .resolved
  | _ => false

/-- Whose work a step does; to enter `connect` is the user's doing. -/
def Page.worker (s : Page) : Action → Option Work
  | .attempt i outcome => if s.yields (.attempt i outcome) then none else some (.attempt i)
  | .restarted r _ => s.restarts[r]?.map (fun x => .connection x.connection)
  | .stateChanged c | .relayCandidate c => some (.connection c)
  | .timer k _ => s.timers[k]?.map .connection
  | .restart => s.direct.map .connection
  | _ => none

/-- The user has put something else in the place of the call while it was in flight. -/
def Withdrawn (h : List (Transition Page Action (Option Report))) (i : Nat) : Prop :=
  ∃ t ∈ h, t.before.attempts[i]?.any Attempt.inFlight = true ∧ t.before.yields t.action = true

/-- The connection was closed or replaced. -/
def Superseded (h : List (Transition Page Action (Option Report))) (s : Page) : Work → Prop
  | .attempt i => Withdrawn h i ∨ ∃ (x : Attempt) (c : Nat), s.attempts[i]? = some x ∧ x.connection = some c ∧ ¬ s.Current c
  | .connection c => ¬ s.Current c
  | .input => False

/-! ### How waits end -/

/-- The ends of a wait that `connect` and `restart` survive: nothing is rejected, the request is neither
    refused nor late, and `waitForAnswer` does not look at a connection that is closed. -/
def Stage.endsWell (closed : Bool) : Stage → Outcome → Bool
  | _, .rejected _ | _, .failed _ | _, .answered true | _, .elapsed true => false
  | .creating, _ | .pausing, _ => !closed
  | _, _ => true

/-- The same for a call of `connect`.  Nobody catches what `connectFromPortal` throws, so that a service
    button may also hear nothing from `agentOnline`. -/
def Page.attemptEndsWell (s : Page) (x : Attempt) (outcome : Outcome) : Bool :=
  match x.pc, outcome with
  | .checking, .online online => online
  | .checking, .rejected _ => x.caller = .portal
  | .connecting c stage, outcome => stage.endsWell ((s.closedAt c).getD true) outcome
  | .loading _, .rejected _ | .showing _, .rejected _ => false
  | _, _ => true

/-- The same for a call of `restart`, which survives anything in the pause before it calls itself. -/
def Page.restartEndsWell (s : Page) (x : Restart) (outcome : Outcome) : Bool :=
  match x.pc with
  | .running stage => stage.endsWell ((s.closedAt x.connection).getD true) outcome
  | _ => true

/-- The wait that ends in this step, if there is one, ends well. -/
def Page.endsWell (s : Page) : Action → Bool
  | .attempt i outcome => s.attempts[i]?.all (fun x => s.attemptEndsWell x outcome)
  | .restarted r outcome => s.restarts[r]?.all (fun x => s.restartEndsWell x outcome)
  | _ => true

/-- A connection is made only while the one in `direct`, if there is one, is closed: no two calls of
    `connect` pass `agentOnline` one after the other. -/
def Page.fresh (s : Page) : Action → Bool
  | .attempt _ (.online true) => s.direct.all (fun c => s.closedAt c ≠ some false)
  | _ => true

section Waits

variable {closed temporary : Bool} {stage : Stage} {outcome : Outcome} {p : Progress}

/-- What `connect` and `restart` have in common throws exactly if a wait ends badly. -/
theorem negotiate_throws_iff {after : Progress} (hafter : ∀ message, after ≠ .throws message)
    (h : negotiate closed after stage outcome = some p) :
    (∃ message, p = .throws message) ↔ stage.endsWell closed outcome = false := by
  cases stage <;> cases outcome <;> simp only [negotiate, Option.some.injEq, reduceCtorEq] at h <;>
    subst h <;> simp [Stage.endsWell, hafter]
  case creating.resolved => cases closed <;> simp
  case polling.answered relay => cases relay <;> simp
  case pausing.elapsed late => cases closed <;> cases late <;> simp

theorem resumeConnect_throws_iff (h : resumeConnect closed temporary stage outcome = some p) :
    (∃ message, p = .throws message) ↔ stage.endsWell closed outcome = false := by
  unfold resumeConnect at h
  split at h
  case h_5 => exact negotiate_throws_iff (fun _ h => by cases h) h
  all_goals
    obtain rfl := Option.some.inj h
    simp [Stage.endsWell]

theorem resumeRestart_throws_iff (h : resumeRestart closed stage outcome = some p) :
    (∃ message, p = .throws message) ↔ stage.endsWell closed outcome = false := by
  unfold resumeRestart at h
  split at h
  case h_3 => exact negotiate_throws_iff (fun _ h => by cases h) h
  all_goals
    obtain rfl := Option.some.inj h
    simp [Stage.endsWell]

end Waits

/-! ### What a step may do -/

section Changes

variable {s s' : Page} {a : Action} {e : Option Report}

/-- `direct` is closed, and no connection is opened. -/
def ClosesDirect (s s' : Page) : Prop :=
  ∀ c, s'.closedAt c = some false → s.closedAt c = some false ∧ s.direct ≠ some c

/-- **What a step may do** to the connections and to `direct`: nothing, but for restarts; it makes a
    connection; it reports a failure; or the user closes `direct`. -/
inductive Page.Change (s : Page) (a : Action) : Page → Option Report → Prop
  | moved (s' : Page) (hclosed : ∀ c, s'.closedAt c = s.closedAt c) (hdirect : s'.direct = s.direct) :
      Change s a s' none
  | created (s' : Page) (i : Nat) (ha : a = .attempt i (.online true))
      (hclosed : ∀ c, s'.closedAt c = if c = s.connections.length then some false else s.closedAt c)
      (hdirect : s'.direct = some s.connections.length) : Change s a s' none
  | failed (s' : Page) (report : Report)
      (hclosed : ∀ c, s'.closedAt c = some false → s.closedAt c = some false)
      (hdirect : s'.direct = s.direct) : Change s a s' (some report)
  | yielded (s' : Page) (hyields : s.yields a = true) (hclosed : ClosesDirect s s')
      (hdirect : s'.direct = none ∨ s'.direct = s.direct) : Change s a s' none

theorem Page.closedAt_congr (h : s'.connections = s.connections) (c : Nat) :
    s'.closedAt c = s.closedAt c := by
  rw [Page.closedAt, h, ← Page.closedAt]

theorem Page.closedAt_eq_some {c : Nat} {conn : Connection} (h : s.connections[c]? = some conn) :
    s.closedAt c = some conn.closed := by
  rw [Page.closedAt, h, Option.map_some]

/-- `start` and `rest` leave `closed` alone. -/
theorem Page.closedAt_modify {f : Connection → Connection} (hf : ∀ conn, (f conn).closed = conn.closed)
    (r c : Nat) : (s.modify r f).closedAt c = s.closedAt c := by
  unfold Page.closedAt Page.modify
  rw [List.getElem?_modify]
  cases s.connections[c]? with
  | none => rfl
  | some conn =>
    by_cases hrc : r = c
    · simp [hrc, hf]
    · simp [hrc]

/-- A connection that is still open is not the one that was closed. -/
theorem Page.open_of_modify_close {r c : Nat} (h : (s.modify r Connection.close).closedAt c = some false) :
    s.closedAt c = some false ∧ c ≠ r := by
  unfold Page.closedAt Page.modify at h
  rw [List.getElem?_modify] at h
  by_cases hrc : r = c
  · subst hrc
    cases hconn : s.connections[r]? with
    | none => simp [hconn] at h
    | some conn => simp [hconn] at h
  · refine ⟨?_, Ne.symm hrc⟩
    unfold Page.closedAt
    cases hconn : s.connections[c]? with
    | none => simp [hconn] at h
    | some conn => simpa [hconn, hrc] using h

@[simp] theorem Page.closeDirect_direct (s : Page) : s.closeDirect.direct = s.direct := by
  unfold Page.closeDirect
  split <;> rfl

/-- What leaves the connections as `direct?.close()` leaves them closes `direct`. -/
theorem ClosesDirect.of_eq (h : s'.connections = s.closeDirect.connections) : ClosesDirect s s' := by
  intro c hopen
  rw [Page.closedAt_congr h] at hopen
  unfold Page.closeDirect at hopen
  split at hopen
  · rename_i hnone
    exact ⟨hopen, by simp [hnone]⟩
  · rename_i r hdirect
    obtain ⟨hbefore, hne⟩ := Page.open_of_modify_close hopen
    refine ⟨hbefore, fun h => hne ?_⟩
    exact Option.some.inj (h.symm.trans hdirect)

/-- `failP2P` opens nothing. -/
theorem Page.Change.failedP2P {report : Report} (hconnections : s'.connections = s.closeDirect.connections)
    (hdirect : s'.direct = s.closeDirect.direct) : s.Change a s' (some report) :=
  .failed s' report (fun c hopen => (ClosesDirect.of_eq hconnections c hopen).1)
    (hdirect.trans s.closeDirect_direct)

/-- `fail` of a connection opens nothing. -/
theorem Page.open_of_fail {r c : Nat} {message : String} (h : (s.fail r message).closedAt c = some false) :
    s.closedAt c = some false :=
  (Page.open_of_modify_close (ClosesDirect.of_eq (s := s.modify r Connection.close) rfl c h).1).1

@[simp] theorem Page.fail_direct (s : Page) (r : Nat) (message : String) :
    (s.fail r message).direct = s.direct := Page.closeDirect_direct _

/-- The step leaves the connections and `direct` alone. -/
theorem Page.Change.same (hconnections : s'.connections = s.connections) (hdirect : s'.direct = s.direct) :
    s.Change a s' none :=
  .moved s' (Page.closedAt_congr hconnections) hdirect

/-- **A step of a call of `connect`.** -/
theorem Page.stepAttempt_change {i : Nat} {x : Attempt} {outcome : Outcome}
    (hx : s.attempts[i]? = some x) (hs : s.stepAttempt i x outcome = some (s', e)) :
    s.Change (.attempt i outcome) s' e := by
  unfold Page.stepAttempt at hs
  split at hs
  case h_1 hpc =>
    -- `connect` is entered
    cases hs
    exact .yielded _ (by simp [Page.yields, hx, hpc]) (.of_eq rfl) (.inr s.closeDirect_direct)
  case h_3 =>
    -- a connection is made
    obtain ⟨rfl, rfl⟩ := Prod.mk.inj (Option.some.inj hs)
    refine .created _ i rfl (fun c => ?_) rfl
    show ((s.connections ++ [Connection.new])[c]?).map Connection.closed = _
    rw [List.getElem?_append, Page.closedAt]
    split <;> split
    · omega
    · rfl
    · rename_i hc
      simp [hc, Connection.new]
    · rw [List.getElem?_eq_none (by simp; omega), List.getElem?_eq_none (by omega)]
  case h_5 =>
    unfold Page.callerFails at hs
    split at hs <;> obtain ⟨rfl, rfl⟩ := Prod.mk.inj (Option.some.inj hs)
    · exact .same rfl rfl
    · exact .failedP2P rfl rfl
    · exact .failed _ _ (fun _ hopen => hopen) rfl
  case h_6 =>
    split at hs
    · cases hs
    · split at hs
      · cases hs
      · cases hs
        exact .same rfl rfl
      · obtain ⟨rfl, rfl⟩ := Prod.mk.inj (Option.some.inj hs)
        exact .same rfl rfl
      · obtain ⟨rfl, rfl⟩ := Prod.mk.inj (Option.some.inj hs)
        exact .failedP2P rfl rfl
  case h_4 | h_9 | h_10 =>
    obtain ⟨rfl, rfl⟩ := Prod.mk.inj (Option.some.inj hs)
    exact .failedP2P rfl rfl
  case h_2 | h_7 | h_8 =>
    obtain ⟨rfl, rfl⟩ := Prod.mk.inj (Option.some.inj hs)
    exact .same rfl rfl
  case h_11 => cases hs

/-- A call of `restart` of a connection. -/
theorem Page.restart_change {s₁ : Page} {c : Nat} (hconnections : s₁.connections = s.connections)
    (hdirect : s₁.direct = s.direct) (hs : s₁.restart c = some (s', e)) : s.Change a s' e := by
  have hclosedAt := Page.closedAt_congr hconnections
  unfold Page.restart at hs
  split at hs
  · cases hs
  · split at hs <;> obtain ⟨rfl, rfl⟩ := Prod.mk.inj (Option.some.inj hs)
    · exact .same hconnections hdirect
    · refine .failed _ _ (fun c' hopen => ?_) ((s₁.fail_direct c _).trans hdirect)
      rw [← hclosedAt]
      exact Page.open_of_fail hopen
    · refine .moved _ (fun c' => ?_) hdirect
      exact (Page.closedAt_modify Connection.start_closed c c').trans (hclosedAt c')

/-- **A step of a call of `restart`.** -/
theorem Page.stepRestart_change {r : Nat} {x : Restart} {outcome : Outcome}
    (hs : s.stepRestart r x outcome = some (s', e)) : s.Change a s' e := by
  have hrest : ∀ c, (s.modify x.connection Connection.rest).closedAt c = s.closedAt c :=
    Page.closedAt_modify Connection.rest_closed x.connection
  unfold Page.stepRestart at hs
  split at hs
  · cases hs
  split at hs
  · split at hs
    · cases hs
    · cases hs
      exact .same rfl rfl
    · obtain ⟨rfl, rfl⟩ := Prod.mk.inj (Option.some.inj hs)
      exact .moved _ hrest rfl
    · rename_i message _
      split at hs <;> obtain ⟨rfl, rfl⟩ := Prod.mk.inj (Option.some.inj hs)
      · exact .same rfl rfl
      · -- the connection fails, and the `finally` block runs
        refine .failed _ _ (fun c hopen => ?_) (s.fail_direct x.connection message)
        have hfail : (s.fail x.connection message).closedAt c = some false :=
          (Page.closedAt_modify Connection.rest_closed x.connection c).symm.trans hopen
        exact Page.open_of_fail hfail
  · split at hs <;> obtain ⟨rfl, rfl⟩ := Prod.mk.inj (Option.some.inj hs)
    · exact .moved _ hrest rfl
    · refine .failed _ _ (fun c hopen => ?_) (Page.fail_direct _ _ restartExhausted)
      have hfail : ((s.modify x.connection Connection.rest).fail x.connection restartExhausted).closedAt c =
          some false := hopen
      rw [← hrest]
      exact Page.open_of_fail hfail
    · exact .moved _ (fun c => (Page.closedAt_modify Connection.start_closed _ c).trans (hrest c)) rfl
  · obtain ⟨rfl, rfl⟩ := Prod.mk.inj (Option.some.inj hs)
    exact .moved _ hrest rfl
  · cases hs

/-- **Inversion.**  Every step makes one of the listed changes. -/
theorem Page.step_change (hs : s.step a = some (s', e)) : s.Change a s' e := by
  cases a with
  | openService | openTemporary | invalidTarget | loaded | disconnect =>
    simp only [Page.step] at hs
    split at hs
    · cases hs
    cases hs
    first
    | exact .same rfl rfl
    | exact .failedP2P rfl rfl
    | exact .yielded _ rfl (.of_eq rfl) (.inl rfl)
    | exact .yielded _ rfl (.of_eq rfl) (.inr s.closeDirect_direct)
  | logout | unload =>
    obtain ⟨rfl, rfl⟩ := Prod.mk.inj (Option.some.inj hs)
    exact .yielded _ rfl (.of_eq rfl) (.inr s.closeDirect_direct)
  | restart =>
    simp only [Page.step] at hs
    split at hs
    · cases hs
    · split at hs
      · cases hs
        exact .same rfl rfl
      · exact Page.restart_change rfl rfl hs
  | attempt i outcome =>
    simp only [Page.step] at hs
    split at hs
    · cases hs
    · exact Page.stepAttempt_change ‹_› hs
  | restarted r outcome =>
    simp only [Page.step] at hs
    split at hs
    · cases hs
    · exact Page.stepRestart_change hs
  | stateChanged c =>
    simp only [Page.step] at hs
    split at hs
    · cases hs
    · split at hs <;> obtain ⟨rfl, rfl⟩ := Prod.mk.inj (Option.some.inj hs) <;> exact .same rfl rfl
  | timer k connected =>
    simp only [Page.step] at hs
    split at hs
    · cases hs
    split at hs
    · cases hs
    split at hs
    · exact Page.restart_change (by rfl) (by rfl) hs
    · obtain ⟨rfl, rfl⟩ := Prod.mk.inj (Option.some.inj hs)
      exact .same rfl rfl
  | relayCandidate c =>
    simp only [Page.step] at hs
    split at hs
    · cases hs
    split at hs
    · obtain ⟨rfl, rfl⟩ := Prod.mk.inj (Option.some.inj hs)
      exact .failed _ _ (fun _ => Page.open_of_fail) (s.fail_direct c _)
    · cases hs

end Changes

/-! ### Who reports a failure -/

section Reports

variable {s s' : Page} {a : Action} {e : Option Report}

/-- A call of `connect` reports a failure exactly if its wait ends badly. -/
theorem Page.stepAttempt_reports {i : Nat} {x : Attempt} {ending : Outcome}
    (hs : s.stepAttempt i x ending = some (s', e)) : e = none ↔ s.attemptEndsWell x ending = true := by
  unfold Page.stepAttempt at hs
  split at hs
  case h_5 hpc =>
    unfold Page.callerFails at hs
    split at hs <;> obtain ⟨rfl, rfl⟩ := Prod.mk.inj (Option.some.inj hs) <;> simp_all [Page.attemptEndsWell]
  case h_6 ending _ _ c stage hpc =>
    split at hs
    · cases hs
    rename_i conn hconn
    have hends : s.attemptEndsWell x ending = stage.endsWell conn.closed ending := by
      simp [Page.attemptEndsWell, hpc, Page.closedAt_eq_some hconn]
    split at hs
    · cases hs
    all_goals
      cases hs
      have hthrows := resumeConnect_throws_iff ‹_›
      simp_all
  case h_11 => cases hs
  all_goals
    obtain ⟨rfl, rfl⟩ := Prod.mk.inj (Option.some.inj hs)
    simp_all [Page.attemptEndsWell, Page.attemptFails]

/-- So does a call of `restart` whose connection is closed: it does not try again. -/
theorem Page.stepRestart_reports {r : Nat} {x : Restart} {ending : Outcome}
    (hclosed : ∀ {conn}, s.connections[x.connection]? = some conn → conn.closed = true)
    (hs : s.stepRestart r x ending = some (s', e)) : e = none ↔ s.restartEndsWell x ending = true := by
  unfold Page.stepRestart at hs
  split at hs
  · cases hs
  rename_i conn hconn
  have hconn' := hclosed hconn
  split at hs
  · rename_i ending _ _ stage hpc
    have hends : s.restartEndsWell x ending = stage.endsWell conn.closed ending := by
      simp [Page.restartEndsWell, hpc, Page.closedAt_eq_some hconn]
    split at hs
    · cases hs
    all_goals have hthrows := resumeRestart_throws_iff ‹_›
    · cases hs
      simp_all
    · obtain ⟨rfl, rfl⟩ := Prod.mk.inj (Option.some.inj hs)
      simp_all
    · rw [if_neg (by simp [Connection.retries, hconn'])] at hs
      cases hs
      simp_all
  · rename_i hpc
    have hreturns : conn.rest.restart = .returns := by simp [Connection.restart, Connection.rest, hconn']
    simp only [hreturns] at hs
    obtain ⟨rfl, rfl⟩ := Prod.mk.inj (Option.some.inj hs)
    simp [Page.restartEndsWell, hpc]
  · rename_i hpc
    obtain ⟨rfl, rfl⟩ := Prod.mk.inj (Option.some.inj hs)
    simp [Page.restartEndsWell, hpc]
  · cases hs

/-- A call of `restart` of a closed connection returns at once. -/
theorem Page.restart_closed {c : Nat} (hclosed : ∀ {conn}, s.connections[c]? = some conn → conn.closed = true)
    (hs : s.restart c = some (s', e)) : e = none := by
  unfold Page.restart at hs
  split at hs
  · cases hs
  rename_i conn hconn
  have hreturns : conn.restart = .returns := by simp [Connection.restart, hclosed hconn]
  rw [hreturns] at hs
  exact (Prod.mk.inj (Option.some.inj hs)).2.symm

/-- **Who reports a failure.**  A step of a call of `connect`, or one for a connection that is not open,
    reports a failure exactly if it is the end of a wait that ends badly. -/
theorem Page.step_reports {work : Work} (hs : s.step a = some (s', e)) (hworker : s.worker a = some work)
    (hclosed : ∀ c, work = .connection c → s.closedAt c ≠ some false) :
    e = none ↔ s.endsWell a = true := by
  -- a connection that exists and is not open is closed
  have hat : ∀ {c conn}, work = .connection c → s.connections[c]? = some conn → conn.closed = true := by
    intro c conn hwork hconn
    have hne := hclosed c hwork
    rw [Page.closedAt_eq_some hconn] at hne
    simpa using hne
  cases a with
  | attempt i ending =>
    simp only [Page.step] at hs
    split at hs
    · cases hs
    · rename_i x hx
      simpa [Page.endsWell, hx] using Page.stepAttempt_reports hs
  | restarted r ending =>
    simp only [Page.step] at hs
    split at hs
    · cases hs
    · rename_i x hx
      have hwork : work = .connection x.connection := by simpa [Page.worker, hx] using hworker.symm
      simpa [Page.endsWell, hx] using Page.stepRestart_reports (hat hwork) hs
  | restart =>
    simp only [Page.step] at hs
    split at hs
    · cases hs
    split at hs
    · simp_all [Page.worker]
    · rename_i c hdirect
      have hwork : work = .connection c := by simpa [Page.worker, hdirect] using hworker.symm
      simp [Page.endsWell, Page.restart_closed (hat hwork) hs]
  | stateChanged c =>
    simp only [Page.step] at hs
    split at hs
    · cases hs
    · split at hs <;> simp_all [Page.endsWell]
  | timer k connected =>
    simp only [Page.step] at hs
    split at hs
    · cases hs
    rename_i c htimer
    have hwork : work = .connection c := by simpa [Page.worker, htimer] using hworker.symm
    split at hs
    · cases hs
    · split at hs
      · simp [Page.endsWell, Page.restart_closed (s := { s with timers := s.timers.eraseIdx k }) (hat hwork) hs]
      · simp_all [Page.endsWell]
  | relayCandidate c =>
    simp only [Page.step] at hs
    split at hs
    · cases hs
    rename_i conn hconn
    split at hs
    · -- a closed connection has no peer
      rename_i hpeer
      have hfalse := conn.live hpeer
      rw [hat (Option.some.inj hworker).symm hconn] at hfalse
      cases hfalse
    · cases hs
  | _ => cases hworker

end Reports

/-! ### The invariant -/

/-- An open connection is the one in `direct`. -/
def Page.Held (s : Page) : Prop := ∀ c, s.closedAt c = some false → s.direct = some c

section Steps

variable {s s' : Page} {a : Action} {e : Option Report}

/-- **Step lemma.**  A step that makes no second connection keeps the invariant. -/
theorem Page.Held.step (h : s.Held) (hfresh : s.fresh a = true) (hs : s.step a = some (s', e)) : s'.Held := by
  intro c hopen
  cases Page.step_change hs with
  | moved hclosed hdirect => exact hdirect.trans (h c ((hclosed c).symm.trans hopen))
  | failed report hclosed hdirect => exact hdirect.trans (h c (hclosed c hopen))
  | yielded hyields hclosed hdirect =>
    obtain ⟨hbefore, hne⟩ := hclosed c hopen
    exact absurd (h c hbefore) hne
  | created i ha hclosed hdirect =>
    rw [hclosed] at hopen
    split at hopen
    · rename_i hc
      rw [hc]
      exact hdirect
    · -- no connection was open before
      subst ha
      simp [Page.fresh, h c hopen, hopen] at hfresh

/-- A step that is not the user's and reports no failure leaves open connections open. -/
theorem Page.step_keeps_open (hs : s.step a = some (s', none)) (hyields : s.yields a = false) {c : Nat}
    (hopen : s.closedAt c = some false) : s'.closedAt c = some false := by
  cases Page.step_change hs with
  | moved hclosed hdirect => exact (hclosed c).trans hopen
  | created i ha hclosed hdirect =>
    rw [hclosed, hopen]
    split <;> rfl
  | yielded hyields' hclosed hdirect =>
    rw [hyields] at hyields'
    cases hyields'

/-- Where a step does somebody's work, the user does nothing. -/
theorem Page.yields_of_worker {work : Work} (hworker : s.worker a = some work) : s.yields a = false := by
  cases a with
  | attempt i outcome =>
    simp only [Page.worker] at hworker
    split at hworker
    · cases hworker
    · exact Bool.eq_false_iff.mpr ‹_›
  | restart | restarted | stateChanged | timer | relayCandidate | openService => rfl
  | _ => cases hworker

/-- **Superseded work.**  Let connections be made one at a time.  Then a step of a call of `connect` or
    `restart`, or of an event of a connection, that was closed or replaced reports no failure exactly if the wait
    that ends in it ends well, and then leaves the open connection in `direct` open. -/
theorem run_superseded {temporary : Bool} {h : List (Transition Page Action (Option Report))}
    (hr : (pageSystem temporary).Run h s) (hfresh : ∀ t ∈ h, t.before.fresh t.action = true) :
    ∀ later t earlier, h = later ++ t :: earlier →
      ∀ s' work, t.before.step t.action = some (s', t.event) → t.before.worker t.action = some work →
        Superseded earlier t.before work →
        (t.event = none ↔ t.before.endsWell t.action = true) ∧
        (t.before.endsWell t.action = true → ∀ c, t.before.Current c → s'.closedAt c = some false) := by
  rintro later t earlier rfl s' work hs hworker hsuperseded
  have hearlier : ∀ t' ∈ earlier, t'.before.fresh t'.action = true :=
    fun t' ht' => hfresh t' (List.mem_append_right _ (List.mem_cons_of_mem _ ht'))
  have hheld : ∀ s₁ ∈ System.visited earlier t.before, s₁.Held := by
    refine hr.split.1.invariant_under hearlier (fun c hopen => ?_) ?_
    · cases hopen
    · intro t' s₁ hok hbefore hstep
      exact hbefore.step hok hstep
  have hreports : t.event = none ↔ t.before.endsWell t.action = true := by
    refine Page.step_reports hs hworker ?_
    rintro c rfl hopen
    exact hsuperseded ⟨hheld _ List.mem_cons_self c hopen, hopen⟩
  refine ⟨hreports, fun hends c hcurrent => ?_⟩
  rw [hreports.mpr hends] at hs
  exact Page.step_keeps_open hs (Page.yields_of_worker hworker) hcurrent.2

end Steps

/-! ### Visits in which something is superseded -/

/-- A service is opened, and its request is pending. -/
def openFirst : List Action :=
  [.openService "first", .attempt 0 .resolved, .attempt 0 (.online true), .attempt 0 .resolved,
    .attempt 0 .resolved, .attempt 0 .resolved, .attempt 0 .resolved]

/-- The Agent answers, and the service is shown. -/
def showFirst : List Action :=
  openFirst ++
    [.attempt 0 (.answered false), .attempt 0 .resolved, .attempt 0 .resolved, .attempt 0 .resolved,
      .attempt 0 (.measured true), .attempt 0 .resolved, .attempt 0 .resolved]

/-- Another service is opened, and its connection is made. -/
def openSecond : List Action :=
  [.openService "second", .attempt 1 .resolved, .attempt 1 (.online true)]

/-- A restart of the first connection is in its pause when another service is opened, and the call for that
    one waits for `agentOnline` when a third is opened and its connection is made.  The pause ends, and the
    second call hears nothing from `agentOnline`. -/
def overtakenTwice : List Action :=
  showFirst ++ [.restart, .restarted 0 (.rejected "offer"), .openService "second", .attempt 1 .resolved,
    .openService "third", .attempt 2 .resolved, .attempt 2 (.online true), .restarted 0 .resolved,
    .attempt 1 (.rejected "fetch")]

theorem run_superseded_of_overtakenTwice : ∃ t u h s, (pageSystem false).Run (t :: u :: h) s ∧
    t.action = .attempt 1 (.rejected "fetch") ∧ Superseded (u :: h) t.before (.attempt 1) ∧ t.event = none ∧
    u.action = .restarted 0 .resolved ∧ Superseded h u.before (.connection 0) ∧ u.event = none ∧
    s.closedAt 1 = some false := by
  obtain ⟨h, s, hr, hc⟩ := System.exists_run_of_exec (S := pageSystem false)
    (P := fun h _ => match h with
      | t :: u :: h => decide (t.action = .attempt 1 (.rejected "fetch") ∧
          (u :: h).any (fun t => t.before.attempts[1]?.any Attempt.inFlight && t.before.yields t.action) = true ∧
          u.action = .restarted 0 .resolved ∧ u.before.direct = some 1 ∧
          t.before.worker t.action = some (.attempt 1) ∧ u.before.worker u.action = some (.connection 0) ∧
          t.before.direct = some 1 ∧ t.before.closedAt 1 = some false ∧
          t.before.endsWell t.action = true ∧ u.before.endsWell u.action = true ∧
          (t :: u :: h).all (fun t => t.before.fresh t.action) = true)
      | _ => false)
    overtakenTwice (by decide +kernel)
  match h with
  | [] | [_] => cases hc
  | t :: u :: h =>
    obtain ⟨haction, hwithdrawn, haction', hdirect', hworker, hworker', hdirect, hopen, hends, hends', hfresh⟩ :=
      of_decide_eq_true hc
    obtain ⟨hr', hstep⟩ := System.Run.cons_inv hr
    have hstep' := (System.Run.cons_inv hr').2
    have hattempt : Superseded (u :: h) t.before (.attempt 1) := by
      obtain ⟨w, hw, hboth⟩ := List.any_eq_true.mp hwithdrawn
      exact .inl ⟨w, hw, Bool.and_eq_true_iff.mp hboth⟩
    have hconnection : Superseded h u.before (.connection 0) := fun hcurrent => by
      simp [Page.Current, hdirect'] at hcurrent
    have hrun := run_superseded hr (List.all_eq_true.mp hfresh)
    obtain ⟨hevent, hkeeps⟩ := hrun [] t (u :: h) rfl s _ hstep hworker hattempt
    obtain ⟨hevent', -⟩ := hrun [t] u h rfl t.before _ hstep' hworker' hconnection
    exact ⟨t, u, h, s, hr, haction, hattempt, hevent.mpr hends, haction', hconnection, hevent'.mpr hends',
      hkeeps hends 1 ⟨hdirect, hopen⟩⟩

/-- Another service is opened while the first request is pending; the first call then finds its
    connection closed. -/
def overtakenAttempt : List Action :=
  openFirst ++ [.attempt 0 .pending] ++ openSecond ++ [.attempt 0 (.elapsed false)]

/-- Another service is opened during a restart of the first connection. -/
def overtakenRestart : List Action :=
  showFirst ++ [.restart, .restarted 0 .resolved, .restarted 0 .resolved, .restarted 0 .resolved,
    .restarted 0 .resolved, .restarted 0 .pending] ++ openSecond ++ [.restarted 0 (.elapsed false)]

/-- The user disconnects while the request is pending. -/
def abandonedAttempt : List Action :=
  openFirst ++ [.attempt 0 .pending, .disconnect, .attempt 0 (.elapsed false)]

/-- **A superseded connection closes its successor.**  The first call of `connect`, or a restart of the
    first connection, fails because its connection was closed; the failure closes the second connection
    and is reported.  After the user has disconnected, it is reported as well. -/
theorem closes_successor :
    (∃ t h s, (pageSystem false).Run (t :: h) s ∧ Superseded h t.before (.attempt 0) ∧
      t.event = some ⟨.attempt 0, answerTimeout⟩ ∧ t.before.Current 1 ∧ s.closedAt 1 = some true) ∧
    (∃ t h s, (pageSystem false).Run (t :: h) s ∧ Superseded h t.before (.connection 0) ∧
      t.event = some ⟨.connection 0, answerTimeout⟩ ∧ t.before.Current 1 ∧ s.closedAt 1 = some true) ∧
    ∃ t h s, (pageSystem false).Run (t :: h) s ∧ Superseded h t.before (.attempt 0) ∧
      t.event = some ⟨.attempt 0, answerTimeout⟩ ∧ t.before.direct = none := by
  -- the first connection is not the one in `direct`
  have hattempt : ∀ {h : List (Transition Page Action (Option Report))} {s : Page},
      (s.attempts[0]?.any (fun x => x.connection = some 0)) = true → s.direct ≠ some 0 →
      Superseded h s (.attempt 0) := by
    intro h s hx hdirect
    cases hget : s.attempts[0]? with
    | none =>
      rw [hget] at hx
      cases hx
    | some x =>
      rw [hget] at hx
      exact .inr ⟨x, 0, hget, of_decide_eq_true hx, fun hcurrent => hdirect hcurrent.1⟩
  refine ⟨?_, ?_, ?_⟩
  · obtain ⟨h, s, hr, hc⟩ := System.exists_run_of_exec (S := pageSystem false)
      (P := fun h s => match h with
        | [] => false
        | t :: _ => decide ((t.before.attempts[0]?.any (fun x => x.connection = some 0)) = true ∧
            t.event = some ⟨.attempt 0, answerTimeout⟩ ∧ t.before.direct = some 1 ∧
            t.before.closedAt 1 = some false ∧ s.closedAt 1 = some true))
      overtakenAttempt (by decide +kernel)
    match h with
    | [] => cases hc
    | t :: h =>
      obtain ⟨hx, hevent, hdirect, hopen, hclosed⟩ := of_decide_eq_true hc
      exact ⟨t, h, s, hr, hattempt hx (by simp [hdirect]), hevent, ⟨hdirect, hopen⟩, hclosed⟩
  · obtain ⟨h, s, hr, hc⟩ := System.exists_run_of_exec (S := pageSystem false)
      (P := fun h s => match h with
        | [] => false
        | t :: _ => decide (t.event = some ⟨.connection 0, answerTimeout⟩ ∧ t.before.direct = some 1 ∧
            t.before.closedAt 1 = some false ∧ s.closedAt 1 = some true))
      overtakenRestart (by decide +kernel)
    match h with
    | [] => cases hc
    | t :: h =>
      obtain ⟨hevent, hdirect, hopen, hclosed⟩ := of_decide_eq_true hc
      have hsuperseded : Superseded h t.before (.connection 0) := fun hcurrent => by
        simp [Page.Current, hdirect] at hcurrent
      exact ⟨t, h, s, hr, hsuperseded, hevent, ⟨hdirect, hopen⟩, hclosed⟩
  · obtain ⟨h, s, hr, hc⟩ := System.exists_run_of_exec (S := pageSystem false)
      (P := fun h _ => match h with
        | [] => false
        | t :: _ => decide ((t.before.attempts[0]?.any (fun x => x.connection = some 0)) = true ∧
            t.event = some ⟨.attempt 0, answerTimeout⟩ ∧ t.before.direct = none))
      abandonedAttempt (by decide +kernel)
    match h with
    | [] => cases hc
    | t :: h =>
      obtain ⟨hx, hevent, hdirect⟩ := of_decide_eq_true hc
      exact ⟨t, h, s, hr, hattempt hx (by simp [hdirect]), hevent, hdirect⟩

end WebVPN.Browser
