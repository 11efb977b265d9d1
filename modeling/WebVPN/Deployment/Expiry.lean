import WebVPN.Agent.Dials
import WebVPN.Deployment.RestartChain

namespace WebVPN.Deployment

open WebVPN.Library WebVPN.Signaling WebVPN.Storage WebVPN.Storage.Store

/-!
# Deployment — the end of a session at the Agent

The store ends a browser session two hours after its creation.  The Agent is not told: a peer
lives as long as its connection, and a CONNECT on one of its channels is dialed at any time.

* `PeerSession` — the session that a peer was made for, `run_peerSession` — that there is one;
* `Ceases` — after the end of a session its peers get no CONNECT, and no dial of theirs is
  still to come when it ends;
* `run_expiry` — then a peer never dials after the end of its session;
* `dials_after_expiry` — otherwise it may.
-/

/-- The end of a session. -/
def expiry (record : Record) : Int := record.createdAt + Session.absoluteTTL

/-- The session of the offer that a peer was made for. -/
def PeerSession (h : History) (p : Nat) (record : Record) : Prop :=
  ∃ later t earlier offer, h = later ++ t :: earlier ∧ t.event.applied? p = some offer ∧
    offer.restartOf = "" ∧
    Controller.Made (Controller.sessionHistory (controllerHistory earlier)) record ∧
    record.id = offer.browserSessionID

/-- The time that passes in a step. -/
def Event.elapsed : Event → Nat
  | .controller e => (e.session.map (fun operation => operation.1.elapsed)).getD 0
  | _ => 0

/-- At every step of the run, for every peer and its session: after the end of the session no
    CONNECT arrives at the peer, and when the session ends no dial of the peer is to come. -/
def Ceases (h : History) : Prop :=
  ∀ later t earlier, h = later ++ t :: earlier → ∀ p record, PeerSession earlier p record →
    (expiry record ≤ t.before.clock → ∀ channel isString data sent,
      t.action = .agent (.message p channel isString data sent) →
      Agent.opensStream data = false) ∧
    (t.before.clock < expiry record → expiry record ≤ t.before.clock + t.event.elapsed →
      ∀ peer, t.before.agent.peers[p]? = some peer → peer.Settled)

section Expiry

variable {env : Agent.Env} {agents : Table AgentRow.id} {start : Int} {h : History}
  {s s' : State} {t : Transition State Action Event} {p : Nat} {record : Record}

/-- The session of a peer stays its session. -/
theorem PeerSession.of_suffix {earlier : History} (hsession : PeerSession earlier p record)
    (hsuffix : earlier <:+ h) : PeerSession h p record := by
  obtain ⟨between, rfl⟩ := hsuffix
  obtain ⟨later, t', earlier', offer, rfl, hrest⟩ := hsession
  exact ⟨between ++ later, t', earlier', offer, by simp, hrest⟩

/-- The session of a peer is known from its beginning. -/
theorem PeerSession.cons_inv (hsession : PeerSession (t :: h) p record) :
    PeerSession h p record ∨ ∃ offer, t.event.applied? p = some offer ∧ offer.restartOf = "" := by
  obtain ⟨later, t', earlier, offer, heq, happlied, hnew, hmade⟩ := hsession
  cases later with
  | nil =>
    cases heq
    exact .inr ⟨offer, happlied, hnew⟩
  | cons u later =>
    cases heq
    exact .inl ⟨later, t', earlier, offer, rfl, happlied, hnew, hmade⟩

/-- An offer of this Agent belongs to a session. -/
theorem Sent.session (hr : (deploymentSystem env agents start).Run h s) {offer : Offer}
    (hsent : Sent env h offer) :
    ∃ record, Controller.Made (Controller.sessionHistory (controllerHistory h)) record ∧
      record.id = offer.browserSessionID := by
  obtain ⟨request, ⟨created, hcreated, heq⟩, -⟩ := hsent
  obtain ⟨record, hmade, hgrants⟩ := Controller.run_granted (run_controller hr) hcreated
  refine ⟨record, hmade, ?_⟩
  rw [heq]
  exact hgrants.session.symm

/-- **Every peer was made for a session.** -/
theorem run_peerSession (hr : (deploymentSystem env agents start).Run h s) :
    ∀ p < s.agent.peers.length, ∃ record, PeerSession h p record := by
  induction hr with
  | init => exact fun p hp => absurd hp (Nat.not_lt_zero p)
  | @step h s s' a e hr hstep ih =>
    have hold : ∀ {t}, ∀ p < s.agent.peers.length, ∃ record, PeerSession (t :: h) p record := by
      intro t p hp
      obtain ⟨record, hsession⟩ := ih p hp
      exact ⟨record, hsession.of_suffix (List.suffix_cons t h)⟩
    intro p hp
    cases State.step_cases hstep with
    | controller => exact hold p hp
    | refused => exact hold p hp
    | lost => exact hold p hp
    | @accepted i created offer agent q e hmail haccepts _ =>
      have hsent := run_mail hr offer (List.mem_of_getElem? hmail)
      cases haccepts with
      | @created digest _ hnew hq heq =>
        by_cases hlast : p = q
        · obtain ⟨record, hmade, hid⟩ := hsent.session hr
          subst hlast
          exact ⟨record, [], _, h, offer, rfl, if_pos rfl, hnew, hmade, hid⟩
        · refine hold p ?_
          rw [heq, List.length_append, List.length_singleton] at hp
          omega
      | restarted _ _ _ _ heq =>
        rw [heq, List.length_set] at hp
        exact hold p hp
    | agent hoffer hagent =>
      refine hold p ?_
      have hpeers := (Agent.Env.step_move hagent).identified
        (fun offer created ha => by rw [ha] at hoffer; cases hoffer) p
      by_contra hge
      rw [List.getElem?_eq_none (Nat.le_of_not_lt hge), List.getElem?_eq_getElem hp] at hpeers
      cases hpeers

/-- A peer that has a session exists. -/
theorem PeerSession.lt (hsession : PeerSession h p record)
    (hr : (deploymentSystem env agents start).Run h s) : p < s.agent.peers.length := by
  obtain ⟨later, t, earlier, offer, heq, happlied, -⟩ := hsession
  have hmem : offer ∈ applied h p := List.mem_filterMap.mpr ⟨t, by simp [heq], happlied⟩
  by_contra hge
  have hnone := run_remembers hr p
  unfold Remembers at hnone
  rw [List.getElem?_eq_none (Nat.le_of_not_lt hge)] at hnone
  rw [hnone] at hmem
  cases hmem

/-- The clock. -/
theorem State.step_clock {a : Action} {e : Event} (hstep : s.step env a = some (s', e)) :
    s'.clock = s.clock + e.elapsed := by
  cases State.step_cases hstep with
  | controller hcontroller =>
    cases Controller.Server.step_move hcontroller with
    | response _ hbroker _ =>
      simp only [State.clock, hbroker]
      exact (Int.add_zero _).symm
    | session hsession _ _ => exact Session.State.step_clock hsession
    | signal _ _ hclock _ _ =>
      simp only [State.clock, hclock]
      exact (Int.add_zero _).symm
  | accepted => exact (Int.add_zero _).symm
  | refused => exact (Int.add_zero _).symm
  | lost => exact (Int.add_zero _).symm
  | agent => exact (Int.add_zero _).symm

/-- A step that takes time is a step of the Controller. -/
theorem State.step_agent_of_elapsed {a : Action} {e : Event} (hstep : s.step env a = some (s', e))
    (he : e.elapsed ≠ 0) : s'.agent = s.agent := by
  cases State.step_cases hstep with
  | controller => rfl
  | accepted => exact absurd rfl he
  | refused => rfl
  | lost => rfl
  | agent => exact absurd rfl he

theorem Ceases.of_cons (hceases : Ceases (t :: h)) : Ceases h := by
  intro later t' earlier heq
  exact hceases (t :: later) t' earlier (by rw [heq]; rfl)

/-- **Run lemma.**  After the end of its session a peer has no dials to come. -/
theorem run_settled (hr : (deploymentSystem env agents start).Run h s) (hceases : Ceases h) :
    ∀ p record, PeerSession h p record → expiry record ≤ s.clock →
      ∀ peer, s.agent.peers[p]? = some peer → peer.Settled := by
  induction hr with
  | init =>
    rintro p record ⟨later, t, earlier, offer, heq, -⟩
    cases later <;> cases heq
  | @step h s s' a e hr hstep ih =>
    have ih := ih hceases.of_cons
    intro p record hsession hexpired
    have hclock := State.step_clock hstep
    rcases hsession.cons_inv with hsession | ⟨offer, happlied, hnew⟩
    · obtain ⟨hquiet, hcrossed⟩ := hceases [] _ h rfl p record hsession
      by_cases hbefore : expiry record ≤ s.clock
      · -- the session has ended before
        have hsettled := ih p record hsession hbefore
        have hlt := hsession.lt hr
        cases State.step_cases hstep with
        | controller => exact hsettled
        | accepted _ haccepts hdial =>
          have hmove : s.agent.Move _ (.offer _ true) _ := .accepted rfl haccepts hdial
          exact hmove.settled hsettled hlt nofun
        | refused => exact hsettled
        | lost => exact hsettled
        | agent hoffer hagent =>
          refine (Agent.Env.step_move hagent).settled hsettled hlt ?_
          intro channel isString data sent ha
          exact hquiet hbefore channel isString data sent (by rw [ha])
      · -- the session ends in this step, and the step takes time
        have helapsed : e.elapsed ≠ 0 := by
          intro hzero
          omega
        rw [State.step_agent_of_elapsed hstep helapsed]
        have hcross : expiry record ≤ s.clock + e.elapsed := hclock ▸ hexpired
        exact hcrossed (Int.not_le.mp hbefore) hcross
    · -- the peer is new, and has no channels yet
      cases State.step_cases hstep with
      | controller | refused | lost | agent => cases happlied
      | @accepted i created offer' agent q e hmail haccepts _ =>
        simp only [Event.applied?] at happlied
        split at happlied
        · rename_i hq
          cases happlied
          subst hq
          cases haccepts with
          | created _ _ hlast heq =>
            rw [heq, hlast, List.getElem?_concat_length]
            intro peer hpeer
            cases hpeer
            exact Agent.Peer.settled_new _ _ _
          | restarted _ hrestart _ _ _ => exact absurd hnew hrestart
        · cases happlied

/-- **The end of a session at the Agent.**  If no CONNECT arrives at a peer after the end of its
    session and no dial of it is to come when the session ends, then whenever a peer dials, its
    session has not ended. -/
theorem run_expiry {later earlier : History}
    (hr : (deploymentSystem env agents start).Run (later ++ t :: earlier) s)
    (hceases : Ceases (later ++ t :: earlier)) {d : Agent.Dial}
    (hdial : t.event = .agent (.dial p d)) :
    (∃ record, PeerSession earlier p record) ∧
      ∀ record, PeerSession earlier p record → t.before.clock < expiry record := by
  obtain ⟨hr', s', hstep⟩ := System.Run.split hr
  have hceases' : Ceases earlier := by
    intro later' t' earlier' heq
    exact hceases (later ++ t :: later') t' earlier' (by rw [heq]; simp)
  -- the peer has a stream that waits for its connection
  have hpeer : ∃ peer, t.before.agent.peers[p]? = some peer ∧ ¬ peer.Settled := by
    obtain ⟨before, action, event⟩ := t
    cases hdial
    cases State.step_cases hstep with
    | agent _ hagent => exact (Agent.Env.step_move hagent).not_settled_of_dial
  obtain ⟨peer, hget, hnot⟩ := hpeer
  refine ⟨run_peerSession hr' p (List.getElem?_eq_some_iff.mp hget).1, ?_⟩
  intro record hsession
  by_contra hexpired
  exact hnot (run_settled hr' hceases' p record hsession (by omega) peer hget)

end Expiry

/-! ### A dial within two hours, and one after them

The browser of `connectOnce` opens a Wisp channel and asks for the service, after one hour or
after two.
-/

/-- The packet that asks for the service. -/
def sampleConnect : List UInt8 :=
  Wisp.Frame.packet ⟨Wisp.packetConnect, 1,
    [Wisp.streamTCP, 80, 0] ++ (Agent.virtualHostname Agent.officeID).toUTF8.data.toList⟩

/-- A connection, a Wisp channel, and after some time a dial. -/
def dialAfter (seconds : Nat) : List Action :=
  connectOnce ++
    [.agent (.channel 0 "wisp-interactive-v2" true),
      .agent (.message 0 0 true ("webvpn-auth-v1:" ++ Controller.sampleToken).toUTF8.data.toList true),
      .agent (.message 0 0 true Agent.authenticatedReady true),
      .agent (.wisp 0 0 (.handle true)),
      .agent (.message 0 0 false (Wisp.Frame.packet ⟨Wisp.packetInfo, 0, [2, 0]⟩) true),
      .agent (.wisp 0 0 (.handle true)),
      .controller (.session (.advance (seconds * 10 ^ 9))),
      .agent (.message 0 0 false sampleConnect true), .agent (.wisp 0 0 (.handle true)),
      .agent (.dial 0 0 0 none (some 7))]

/-- The connection to the target. -/
def sampleDial : Agent.Dial := ⟨.v4 0x0a000005#32, 8080, none⟩

/-- All sessions were created at the start. -/
def createdAtStart (h : History) : Bool :=
  (Controller.sessionHistory (controllerHistory h)).all
    (fun t => t.event.session?.all (fun session => session.record.createdAt = 0))

/-- So the session of every peer was. -/
theorem PeerSession.createdAt {h : History} {p : Nat} {record : Record}
    (hsession : PeerSession h p record) (hstart : createdAtStart h = true) :
    record.createdAt = 0 := by
  obtain ⟨later, t, earlier, offer, rfl, -, -, ⟨u, hu, session, hsome, rfl⟩, -⟩ := hsession
  have hsuffix : earlier <:+ later ++ t :: earlier :=
    (List.suffix_cons t earlier).trans (List.suffix_append _ _)
  have hmem := ((hsuffix.filterMap controllerPart).filterMap Controller.sessionPart).subset hu
  have hall := List.all_eq_true.mp hstart u hmem
  rw [hsome] at hall
  exact of_decide_eq_true hall

theorem run_expiry_of_timelyDial : ∃ t earlier s, sampleDeployment.Run (t :: earlier) s ∧
    t.event = .agent (.dial 0 sampleDial) ∧ Ceases (t :: earlier) ∧
    ∃ record, PeerSession earlier 0 record ∧ t.before.clock < expiry record := by
  obtain ⟨h, s, hr, hc⟩ := System.exists_run_of_exec (S := sampleDeployment)
    (P := fun h _ => decide (h.head?.map Transition.event = some (.agent (.dial 0 sampleDial)) ∧
      createdAtStart h = true ∧
      h.all (fun t => decide (t.before.clock + t.event.elapsed ≤ 3600 * 10 ^ 9)) = true))
    (dialAfter 3600) (by decide +kernel)
  obtain ⟨hhead, hstart, hclock⟩ := of_decide_eq_true hc
  match h with
  | [] => cases hhead
  | t :: earlier =>
    have hdial : t.event = .agent (.dial 0 sampleDial) := Option.some.inj hhead
    -- the clock does not get to the end of the session
    have hceases : Ceases (t :: earlier) := by
      intro later t' earlier' heq p record hsession
      have ht' := List.all_eq_true.mp hclock t' (by simp [heq])
      have hclock' : t'.before.clock + t'.event.elapsed ≤ 3600 * 10 ^ 9 := of_decide_eq_true ht'
      have hsuffix : earlier' <:+ t :: earlier := by
        rw [heq]
        exact (List.suffix_cons t' earlier').trans (List.suffix_append _ _)
      have hcreated := (hsession.of_suffix hsuffix).createdAt hstart
      have hexpiry : expiry record = 7200 * 10 ^ 9 := by rw [expiry, hcreated]; decide
      exact ⟨fun h => by omega, fun _ h => by omega⟩
    refine ⟨t, earlier, s, hr, hdial, hceases, ?_⟩
    have hr' : (deploymentSystem sampleEnv Session.sampleAgents 0).Run ([] ++ t :: earlier) s := hr
    obtain ⟨⟨record, hsession⟩, hlt⟩ := run_expiry hr' hceases hdial
    exact ⟨record, hsession, hlt record hsession⟩

/-- **A dial after the end of the session.**  Two hours after the session was created, the Agent
    dials for a CONNECT that has just arrived. -/
theorem dials_after_expiry : ∃ t earlier s record, sampleDeployment.Run (t :: earlier) s ∧
    t.event = .agent (.dial 0 sampleDial) ∧ PeerSession earlier 0 record ∧
    expiry record ≤ t.before.clock := by
  obtain ⟨h, s, hr, hc⟩ := System.exists_run_of_exec (S := sampleDeployment)
    (P := fun h _ => match h with
      | [] => false
      | t :: earlier => decide (t.event = .agent (.dial 0 sampleDial) ∧
          createdAtStart earlier = true ∧ t.before.clock = 7200 * 10 ^ 9 ∧
          0 < t.before.agent.peers.length))
    (dialAfter 7200) (by decide +kernel)
  match h with
  | [] => cases hc
  | t :: earlier =>
    obtain ⟨hdial, hstart, hclock, hpeers⟩ := of_decide_eq_true hc
    have hr' : sampleDeployment.Run earlier t.before := (System.Run.cons_inv hr).1
    obtain ⟨record, hsession⟩ := run_peerSession hr' 0 hpeers
    refine ⟨t, earlier, s, record, hr, hdial, hsession, ?_⟩
    rw [expiry, hsession.createdAt hstart, hclock]
    decide

end WebVPN.Deployment
