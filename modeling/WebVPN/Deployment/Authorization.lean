import WebVPN.Agent.Authorization
import WebVPN.Deployment.Expiry

namespace WebVPN.Deployment

open WebVPN.Library WebVPN.Signaling WebVPN.Storage WebVPN.Storage.Store

/-!
# Deployment — from the authorization of a user to a dial

The Controller asks once whether a user may use a service, when it creates the browser session.  After that
only the capability of the session counts: the broker carries its digest, the Agent keeps the digest in the
peer, and a data channel has to show the capability.

* `agentPart`, `run_agent` — a run of the deployment is a run of the Agent;
* `PeerGrant`, `run_peerGrant` — every peer has the service and the capability of a session that was granted;
* `run_dial_granted` — behind every dial stand the grant and the capability.
-/

/-- The step of the Agent in a step. -/
def agentPart (t : Transition State Action Event) :
    Option (Transition Agent.Runtime Agent.Action Agent.Event) :=
  match t.action, t.event with
  | .deliver _ created, .delivered offer _ e => some ⟨t.before.agent, .offer offer created, e⟩
  | .agent action, .agent e => some ⟨t.before.agent, action, e⟩
  | _, _ => none

/-- The session was created when the service authorized its user. -/
def Granted (sessions : Session.History) (record : Record) : Prop :=
  ∃ t ∈ sessions, ∃ session, t.event.session? = some session ∧ session.record = record ∧
    (t.before.store.selectAuthorized record.serviceID record.userDigest t.before.clock).isSome = true

/-- The peer was made for this session. -/
structure PeerGrant (env : Agent.Env) (h : History) (peer : Agent.Peer) (record : Record) : Prop where
  granted : Granted (Controller.sessionHistory (controllerHistory h)) record
  agent : record.agentID = env.config.agentID
  service : peer.serviceID = record.serviceID
  temporary : peer.temporary = record.temporary
  capability : peer.capabilityDigest = record.tokenDigest

section Runs

variable {env : Agent.Env} {agents : Table AgentRow.id} {start : Int} {h : History} {s : State}
  {t : Transition State Action Event} {p : Nat} {record : Record} {peer peer' : Agent.Peer}

theorem run_agent (hr : (deploymentSystem env agents start).Run h s) :
    env.system.Run (h.filterMap agentPart) s.agent := by
  refine System.Run.project State.agent agentPart hr rfl ?_ ?_
  · rintro ⟨before, action, event⟩ s' hstep hpart
    cases State.step_cases hstep with
    | controller | lost => rfl
    | accepted | refused | agent => cases hpart
  · rintro ⟨before, action, event⟩ s' v hstep hpart
    have hstep : before.step env action = some (s', event) := hstep
    cases action with
    | controller | lose => cases event <;> cases hpart
    | deliver | agent =>
      simp only [State.step] at hstep
      repeat' split at hstep
      all_goals cases hstep
      cases hpart
      exact ⟨rfl, by assumption⟩

/-- A session that was made was granted. -/
theorem granted_of_made {sha256 : List UInt8 → Digest} {sessions : Session.History} {state : Session.State}
    (hr : (Session.storeSystem sha256 agents start).Run sessions state)
    (hmade : Controller.Made sessions record) : Granted sessions record := by
  obtain ⟨t, ht, session, hsession, rfl⟩ := hmade
  refine ⟨t, ht, session, hsession, rfl, ?_⟩
  obtain ⟨later, earlier, rfl⟩ := List.append_of_mem ht
  obtain ⟨-, _, hstep⟩ := hr.split
  have hstep := Session.storeSystem_step hstep
  obtain ⟨user, serviceID, raw, rawToken, delay, target, haction, hfind, hrecord, -⟩ :=
    Session.State.step_session hstep hsession
  have hkey : target.id = serviceID := Table.key_of_find? hfind
  have hid : session.record.serviceID = serviceID := by rw [hrecord, ← hkey]; rfl
  have huser : session.record.userDigest = user := by rw [hrecord]; rfl
  rw [haction] at hstep
  simp only [Session.State.step, Session.State.after] at hstep
  rcases Session.create_cases sha256 t.before.store user serviceID raw rawToken t.before.clock
    (t.before.clock + delay) with ⟨e, heq⟩ | ⟨_, _, _, hselect, -, -, -⟩
  · rw [heq] at hstep
    rw [← (Prod.mk.inj hstep).2] at hsession
    cases hsession
  · rw [hid, huser, hselect]
    rfl

/-- A step after which the peer is the same, restarts apart. -/
theorem PeerGrant.kept (hgrant : ∃ record, PeerGrant env h peer record)
    (hservice : peer'.serviceID = peer.serviceID) (htemporary : peer'.temporary = peer.temporary)
    (hcapability : peer'.capabilityDigest = peer.capabilityDigest) :
    ∃ record, PeerGrant env (t :: h) peer' record := by
  obtain ⟨record, ⟨w, hw, hsession⟩, hagent, hservice', htemporary', hcapability'⟩ := hgrant
  have hsuffix := ((List.suffix_cons t h).filterMap controllerPart).filterMap Controller.sessionPart
  exact ⟨record, ⟨w, hsuffix.subset hw, hsession⟩, hagent, hservice.trans hservice',
    htemporary.trans htemporary', hcapability.trans hcapability'⟩

/-- The peer of an offer that has just been accepted. -/
theorem Sent.peerGrant (hr : (deploymentSystem env agents start).Run h s) {offer : Offer} {digest : Digest}
    (hsent : Sent env h offer)
    (hdigest : decodeCapabilityDigest offer.capabilityDigest = some digest) :
    ∃ record, PeerGrant env h (Agent.Peer.new offer.serviceID digest offer.temporary) record := by
  obtain ⟨request, ⟨created, hcreated, heq⟩, hagent⟩ := hsent
  have hcontroller := run_controller hr
  obtain ⟨record, hmade, hgrants⟩ := Controller.run_granted hcontroller hcreated
  rw [heq] at hdigest ⊢
  have hcapability : request.capabilityDigest = digest :=
    Option.some.inj ((decodeCapabilityDigest_encodeDigest _).symm.trans hdigest)
  exact ⟨record, granted_of_made (Controller.run_sessions hcontroller) hmade,
    hgrants.agent.symm.trans hagent, hgrants.service, hgrants.temporary,
    hcapability.symm.trans hgrants.capability⟩

/-- **Run lemma.**  Every peer of the Agent was made for a session that was granted. -/
theorem run_peerGrant (hr : (deploymentSystem env agents start).Run h s) :
    ∀ peer ∈ s.agent.peers, ∃ record, PeerGrant env h peer record := by
  induction hr with
  | init => exact fun peer hpeer => absurd hpeer List.not_mem_nil
  | @step h s s' a e hr hstep ih =>
    intro peer hpeer
    cases State.step_cases hstep with
    | controller | refused | lost => exact PeerGrant.kept (ih peer hpeer) rfl rfl rfl
    | @accepted i created offer agent q e hmail haccepts _ =>
      have hsent := run_mail hr offer (List.mem_of_getElem? hmail)
      cases haccepts with
      | created hdigest _ _ heq =>
        rw [heq] at hpeer
        rcases List.mem_append.mp hpeer with hpeer | hpeer
        · exact PeerGrant.kept (ih peer hpeer) rfl rfl rfl
        · rw [List.mem_singleton.mp hpeer]
          exact PeerGrant.kept (hsent.peerGrant hr hdigest) rfl rfl rfl
      | restarted _ _ hcurrent _ heq =>
        rw [heq] at hpeer
        rcases List.mem_or_eq_of_mem_set hpeer with hpeer | rfl
        · exact PeerGrant.kept (ih peer hpeer) rfl rfl rfl
        · exact PeerGrant.kept (ih _ (List.mem_of_getElem? hcurrent)) rfl rfl rfl
    | agent hoffer hagent =>
      obtain ⟨p, hget⟩ := List.mem_iff_getElem?.mp hpeer
      have hsame := (Agent.Env.step_move hagent).identified
        (fun offer created ha => by rw [ha] at hoffer; cases hoffer) p
      rw [hget] at hsame
      generalize hbefore : s.agent.peers[p]? = before at hsame
      cases hsame with
      | some hsame =>
        exact PeerGrant.kept (ih _ (List.mem_of_getElem? hbefore)) hsame.service hsame.temporary
          hsame.capability

variable {steps : List (Transition Agent.Runtime Agent.Action Agent.Event)} {agent : Agent.Runtime}

/-- The capability of a peer never changes. -/
theorem run_capability (hr : env.system.Run steps agent)
    {u : Transition Agent.Runtime Agent.Action Agent.Event} (hu : u ∈ steps)
    (hpeer : u.before.peers[p]? = some peer) (hpeer' : agent.peers[p]? = some peer') :
    peer'.capabilityDigest = peer.capabilityDigest := by
  obtain ⟨later, earlier, rfl⟩ := List.append_of_mem hu
  obtain ⟨current, hcurrent, hsame⟩ := hr.stable
    (P := fun agent => ∃ current, agent.peers[p]? = some current ∧
      current.capabilityDigest = peer.capabilityDigest)
    (fun agent a agent' e ⟨current, hcurrent, hsame⟩ hstep => by
      obtain ⟨next, hnext, hmoved | hmoved⟩ := (Agent.Env.step_cases hstep).next hcurrent
      · exact ⟨next, hnext, hmoved.capabilityDigest.trans hsame⟩
      · exact ⟨next, hnext, hmoved.move.identified.capability.trans hsame⟩)
    ⟨peer, hpeer, rfl⟩
  rw [hpeer'] at hcurrent
  rw [Option.some.inj hcurrent]
  exact hsame

/-- A channel with a Wisp server has shown the capability of its peer. -/
theorem run_shown (hr : env.system.Run steps agent) (hpeer : agent.peers[p]? = some peer)
    {channel : Nat} {server : Wisp.Server} (hchannel : peer.channels[channel]? = some (.wisp server)) :
    ∃ u ∈ steps, ∃ data sent, u.action = .message p channel true data sent ∧
      env.verifyCapability data peer.capabilityDigest = true := by
  have hw : env.WispHistory steps p channel server :=
    ((Agent.run_channelHistories hr).peers p peer hpeer).handlers channel _ hchannel
  obtain ⟨later, r, _, rfl, -, label, -, between, u, earlier, rfl, hpasses, -⟩ := hw.ready
  obtain ⟨shown, data, sent, haction, hshown, -, hverify, -⟩ := hpasses
  have hu : u ∈ later ++ r :: (between ++ u :: earlier) := by simp
  refine ⟨u, hu, data, sent, haction, ?_⟩
  rw [run_capability hr hu hshown hpeer]
  exact hverify

/-- **No dial without a grant.**  Whenever the Agent dials, the dial is the policy's for the service of a
    browser session of this Agent; when that session was created, the service authorized its user; and the
    capability of the session was shown before on the data channel that asked for the dial. -/
theorem run_dial_granted {later earlier : History}
    (hr : (deploymentSystem env agents start).Run (later ++ t :: earlier) s) {d : Agent.Dial}
    (hdial : t.event = .agent (.dial p d)) :
    ∃ peer record channel ref answer network, t.before.agent.peers[p]? = some peer ∧
      PeerGrant env earlier peer record ∧ t.action = .agent (.dial p channel ref answer network) ∧
      (∃ hostname port, env.serviceDial peer answer hostname port = .ok d) ∧
      ∃ u ∈ earlier, ∃ data sent, u.action = .agent (.message p channel true data sent) ∧
        env.verifyCapability data record.tokenDigest = true := by
  obtain ⟨hr', s', hstep⟩ := System.Run.split hr
  obtain ⟨before, action, event⟩ := t
  cases hdial
  cases State.step_cases hstep with
  | agent _ hagent =>
    -- the step is one of a stream that waits for its connection
    cases Agent.Env.step_cases hagent with
    | stepped index peer peer' _ _ hindex hpeer hmoved =>
      generalize he : Agent.Event.dial p d = e at hmoved
      cases hmoved with
      | task _ _ _ _ _ _ _ _ htask => cases htask <;> cases he
      | dialed i channel ref answer network server server' st hostname port hchannel hst hconnect _ =>
        obtain rfl : i = index := Option.some.inj hindex
        cases hd : env.serviceDial peer answer (env.platform.unicode.runes hostname) port <;> rw [hd] at he <;>
          cases he
        obtain ⟨record, hgrant⟩ := run_peerGrant hr' peer (List.mem_of_getElem? hpeer)
        refine ⟨peer, record, channel, ref, answer, network, hpeer, hgrant, rfl, ⟨_, _, hd⟩, ?_⟩
        obtain ⟨u, hu, data, sent, haction, hverify⟩ := run_shown (run_agent hr') hpeer hchannel
        obtain ⟨v, hv, hpart⟩ := List.mem_filterMap.mp hu
        refine ⟨v, hv, data, sent, ?_, hgrant.capability ▸ hverify⟩
        -- a message to the Agent is a step of the Agent in the deployment
        obtain ⟨_, vaction, vevent⟩ := v
        cases vaction <;> cases vevent <;> cases hpart <;> cases haction
        rfl
      | _ => cases he

end Runs

theorem run_dial_granted_of_dialAfter : ∃ t earlier s record, sampleDeployment.Run (t :: earlier) s ∧
    t.event = .agent (.dial 0 sampleDial) ∧
    Granted (Controller.sessionHistory (controllerHistory earlier)) record := by
  obtain ⟨h, s, hr, hc⟩ := System.exists_run_of_exec (S := sampleDeployment)
    (P := fun h _ => decide (h.head?.map Transition.event = some (.agent (.dial 0 sampleDial))))
    (dialAfter 0) (by decide +kernel)
  match h with
  | [] => cases of_decide_eq_true hc
  | t :: earlier =>
    have hdial := Option.some.inj (of_decide_eq_true hc)
    have hr' : sampleDeployment.Run ([] ++ t :: earlier) s := hr
    obtain ⟨_, record, _, _, _, _, _, hgrant, -⟩ := run_dial_granted hr' hdial
    exact ⟨t, earlier, s, record, hr, hdial, hgrant.granted⟩

end WebVPN.Deployment
