import WebVPN.Agent.Containment
import WebVPN.Controller.Restart
import WebVPN.Deployment.System

namespace WebVPN.Deployment

open WebVPN.Library WebVPN.Signaling

/-!
# Deployment — the offers of one peer

An Agent applies an offer to a new peer, or, as an ICE restart, to a peer that it finds through
the ID of an earlier offer.  The capability digest of a peer never changes and a restart has to
carry the same one; the store gives no digest to two sessions.  So all offers of one peer come
from requests for one session.

* `applied`, `restarts` — the offers that were applied to a peer, and those that restart it;
* `PeerHistory`, `run_peerHistory` — what the peer remembers of them;
* `run_restartChain` — they were all made for one browser session, and two of them at most are
  restarts.
-/

/-- The offer that a step applies to a peer. -/
def Event.applied? (p : Nat) : Event → Option Offer
  | .delivered offer (some q) _ => if q = p then some offer else none
  | _ => none

/-- The offers that were applied to a peer, the latest first. -/
def applied (h : History) (p : Nat) : List Offer := h.filterMap (fun t => t.event.applied? p)

/-- The ICE restarts among them. -/
def restarts (h : History) (p : Nat) : List Offer :=
  (applied h p).filter (fun offer => offer.restartOf ≠ "")

/-- The requests are by one user for one session. -/
structure SameAuthorization (r r' : CreateRequest) : Prop where
  user : r.userDigest = r'.userDigest
  session : r.browserSessionID = r'.browserSessionID
  service : r.serviceID = r'.serviceID
  capability : r.capabilityDigest = r'.capabilityDigest
  temporary : r.temporary = r'.temporary

/-- What a peer remembers of the offers that were applied to it. -/
structure PeerHistory (env : Agent.Env) (h : History) (p : Nat) (peer : Agent.Peer) : Prop where
  sent : ∀ offer ∈ applied h p, Sent env h offer
  capability : ∀ offer ∈ applied h p,
    decodeCapabilityDigest offer.capabilityDigest = some peer.capabilityDigest
  count : (restarts h p).length = peer.restartCount
  bound : peer.restartCount ≤ Agent.maxICERestarts

/-- The state of the peers at the end of a run; a peer that is still to come has no offers. -/
def Remembers (env : Agent.Env) (h : History) (peers : List Agent.Peer) (p : Nat) : Prop :=
  match peers[p]? with
  | none => applied h p = []
  | some peer => PeerHistory env h p peer

section Chain

variable {env : Agent.Env} {agents : Table Storage.AgentRow.id} {start : Int} {h : History}
  {s : State} {t : Transition State Action Event} {p : Nat} {peer peer' : Agent.Peer}
  {peers : List Agent.Peer} {offer : Offer}

theorem applied_cons_none (ht : t.event.applied? p = none) : applied (t :: h) p = applied h p :=
  List.filterMap_cons_none ht

theorem applied_cons_some (ht : t.event.applied? p = some offer) :
    applied (t :: h) p = offer :: applied h p :=
  List.filterMap_cons_some ht

/-- A step that applies nothing to the peer. -/
theorem PeerHistory.kept (hpeer : PeerHistory env h p peer) (ht : t.event.applied? p = none)
    (hsame : peer.Identified peer') : PeerHistory env (t :: h) p peer' := by
  have happlied := applied_cons_none (h := h) ht
  refine ⟨?_, ?_, ?_, ?_⟩
  · rw [happlied]
    exact fun offer hmem => (hpeer.sent offer hmem).cons t
  · rw [happlied, hsame.capability]
    exact hpeer.capability
  · rw [restarts, happlied, hsame.restarts]
    exact hpeer.count
  · rw [hsame.restarts]
    exact hpeer.bound

theorem Remembers.kept {peers' : List Agent.Peer} (hpeers : Remembers env h peers p)
    (ht : t.event.applied? p = none) (hsame : Option.Rel Agent.Peer.Identified peers[p]? peers'[p]?) :
    Remembers env (t :: h) peers' p := by
  unfold Remembers at hpeers ⊢
  generalize peers[p]? = old, peers'[p]? = new at hpeers hsame ⊢
  cases hsame with
  | none => rw [applied_cons_none ht]; exact hpeers
  | some hpeer => exact hpeers.kept ht hpeer

/-- The offer that creates a peer. -/
theorem PeerHistory.created {digest : Digest} (hnone : applied h p = [])
    (ht : t.event.applied? p = some offer) (hsent : Sent env h offer)
    (hdigest : decodeCapabilityDigest offer.capabilityDigest = some digest)
    (hnew : offer.restartOf = "") (serviceID : String) (temporary : Bool) :
    PeerHistory env (t :: h) p (Agent.Peer.new serviceID digest temporary) := by
  have happlied : applied (t :: h) p = [offer] := by rw [applied_cons_some ht, hnone]
  refine ⟨?_, ?_, ?_, Nat.zero_le _⟩
  · rw [happlied]
    intro offer' hmem
    rw [List.mem_singleton.mp hmem]
    exact hsent.cons t
  · rw [happlied]
    intro offer' hmem
    rw [List.mem_singleton.mp hmem]
    exact hdigest
  · rw [restarts, happlied]
    simp [hnew, Agent.Peer.new]

/-- An offer that restarts a peer. -/
theorem PeerHistory.restarted (hpeer : PeerHistory env h p peer)
    (ht : t.event.applied? p = some offer) (hsent : Sent env h offer)
    (hdigest : decodeCapabilityDigest offer.capabilityDigest = some peer.capabilityDigest)
    (hrestart : offer.restartOf ≠ "") (hcount : peer.restartCount < Agent.maxICERestarts) :
    PeerHistory env (t :: h) p { peer with restartCount := peer.restartCount + 1 } := by
  have happlied := applied_cons_some (h := h) ht
  refine ⟨?_, ?_, ?_, hcount⟩
  · rw [happlied]
    exact List.forall_mem_cons.mpr ⟨hsent.cons t, fun offer' hmem => (hpeer.sent offer' hmem).cons t⟩
  · rw [happlied]
    exact List.forall_mem_cons.mpr ⟨hdigest, hpeer.capability⟩
  · have hfilter : restarts (t :: h) p = offer :: restarts h p := by
      rw [restarts, happlied, List.filter_cons_of_pos (by simpa using hrestart)]
      rfl
    rw [hfilter, List.length_cons, hpeer.count]

/-- An accepted offer is remembered by the peer that it is applied to. -/
theorem Remembers.accepted {runtime : Agent.Runtime} {q : Nat}
    (hpeers : Remembers env h runtime.peers p) (hq : t.event.applied? q = some offer)
    (hother : ∀ p', p' ≠ q → t.event.applied? p' = none) (hsent : Sent env h offer)
    (haccepts : Agent.Accepts runtime offer q peers) : Remembers env (t :: h) peers p := by
  by_cases hp : p = q
  · subst hp
    unfold Remembers at hpeers ⊢
    cases haccepts with
    | created hdigest hnew hlast heq =>
      rw [heq, hlast, List.getElem?_concat_length]
      rw [hlast, List.getElem?_eq_none (Nat.le_refl _)] at hpeers
      rw [hlast] at hq
      exact PeerHistory.created hpeers hq hsent hdigest hnew _ _
    | restarted hdigest hrestart hpeer hcount heq =>
      have hlt := (List.getElem?_eq_some_iff.mp hpeer).1
      rw [hpeer] at hpeers
      rw [heq, List.getElem?_set_self hlt]
      exact PeerHistory.restarted hpeers hq hsent hdigest hrestart hcount
  · refine hpeers.kept (hother p hp) ?_
    have hsame : peers[p]? = runtime.peers[p]? := by
      cases haccepts with
      | created _ _ hlast heq =>
        rw [heq, List.getElem?_append]
        split
        · rfl
        · rename_i hge
          rw [List.getElem?_eq_none (Nat.le_of_not_lt hge), List.getElem?_eq_none]
          simp only [List.length_singleton]
          omega
      | restarted _ _ _ _ heq => rw [heq, List.getElem?_set_ne (Ne.symm hp)]
    rw [hsame]
    exact Agent.identified_refl _

/-- **Run lemma.** -/
theorem run_remembers (hr : (deploymentSystem env agents start).Run h s) (p : Nat) :
    Remembers env h s.agent.peers p := by
  induction hr with
  | init => rfl
  | @step h s s' a e hr hstep ih =>
    have hrefl := Agent.identified_refl s.agent.peers[p]?
    cases State.step_cases hstep with
    | controller => exact ih.kept rfl hrefl
    | @accepted i created offer agent q e hmail haccepts _ =>
      have hsent := run_mail hr offer (List.mem_of_getElem? hmail)
      exact ih.accepted (if_pos rfl) (fun p' hp => if_neg (Ne.symm hp)) hsent haccepts
    | refused => exact ih.kept rfl hrefl
    | lost => exact ih.kept rfl hrefl
    | agent hoffer hagent =>
      refine ih.kept rfl ((Agent.Env.step_move hagent).identified ?_ p)
      rintro offer created rfl
      cases hoffer

/-- Accepted requests with one capability digest are for one session. -/
theorem run_sameAuthorization (hr : (deploymentSystem env agents start).Run h s)
    {r r' : CreateRequest} {id id' : String} {created created' : Int}
    (hr₁ : .created r id created ∈ signals h) (hr₂ : .created r' id' created' ∈ signals h)
    (hcapability : r.capabilityDigest = r'.capabilityDigest) : SameAuthorization r r' := by
  have hcontroller := run_controller hr
  obtain ⟨_, ⟨t, ht, session, hsession, rfl⟩, hgrants⟩ := Controller.run_granted hcontroller hr₁
  obtain ⟨_, ⟨t', ht', session', hsession', rfl⟩, hgrants'⟩ :=
    Controller.run_granted hcontroller hr₂
  have htoken : session.record.tokenDigest = session'.record.tokenDigest := by
    rw [← hgrants.capability, hcapability, hgrants'.capability]
  have hsame := Session.run_session_unique (Controller.run_sessions hcontroller) ht ht' hsession
    hsession' (.inr htoken)
  rw [← hsame] at hgrants'
  exact ⟨hgrants.user.trans hgrants'.user.symm, hgrants.session.trans hgrants'.session.symm,
    hgrants.service.trans hgrants'.service.symm, hcapability,
    hgrants.temporary.trans hgrants'.temporary.symm⟩

/-- **Restart chains.**  All offers that were ever applied to one peer of the Agent were made by
    requests of one user for one browser session, service, capability and temporary flag, and at
    most two of them are restarts. -/
theorem run_restartChain (hr : (deploymentSystem env agents start).Run h s) (p : Nat) :
    (∀ offer ∈ applied h p, ∃ request, offer.CreatedBy (signals h) request) ∧
    (∀ offer ∈ applied h p, ∀ offer' ∈ applied h p, ∀ request request',
      offer.CreatedBy (signals h) request → offer'.CreatedBy (signals h) request' →
      SameAuthorization request request') ∧
    (restarts h p).length ≤ 2 := by
  have hpeer := run_remembers hr p
  unfold Remembers at hpeer
  split at hpeer
  · -- no offer was applied to a peer that does not exist
    rw [restarts, hpeer]
    exact ⟨nofun, nofun, Nat.zero_le _⟩
  · rename_i peer _
    refine ⟨?_, ?_, ?_⟩
    · intro offer hmem
      obtain ⟨request, hcreated, -⟩ := hpeer.sent offer hmem
      exact ⟨request, hcreated⟩
    · -- the Agent reads the digest of the request, and it is the digest of the peer
      have hdigest : ∀ offer ∈ applied h p, ∀ request, offer.CreatedBy (signals h) request →
          request.capabilityDigest = peer.capabilityDigest := by
        rintro offer hmem request ⟨created, -, heq⟩
        have hdecode := hpeer.capability offer hmem
        rw [heq] at hdecode
        exact Option.some.inj ((decodeCapabilityDigest_encodeDigest _).symm.trans hdecode)
      intro offer hmem offer' hmem' request request' hcreated hcreated'
      have hcapability := (hdigest offer hmem request hcreated).trans
        (hdigest offer' hmem' request' hcreated').symm
      obtain ⟨_, hcreated, -⟩ := hcreated
      obtain ⟨_, hcreated', -⟩ := hcreated'
      exact run_sameAuthorization hr hcreated hcreated' hcapability
    · rw [hpeer.count]
      exact hpeer.bound

end Chain

/-! ### A connection with a restart -/

/-- The Agent with one service. -/
def sampleEnv : Agent.Env := { Agent.officeEnv with sha256 := Controller.sampleSHA256 }

def sampleDeployment : System State Action Event :=
  deploymentSystem sampleEnv Session.sampleAgents 0

/-- What the browser asks for. -/
def sampleInput : Controller.ConnectionRequest :=
  { Controller.sampleInput with serviceID := Agent.officeID }

/-- What the broker is asked for when the connection is made. -/
def sampleRequest : CreateRequest :=
  { Controller.samplePrevious with serviceID := Agent.officeID, temporary := false }

/-- The entry of the connection. -/
def sampleEntry : Entry := sampleRequest.entry Controller.sampleConnectionID 0

/-- A browser makes a connection, and the Agent accepts it. -/
def connectOnce : List Action :=
  [.controller (.session (.createService ⟨Agent.officeID, "wiki", "Wiki", "http", "office"⟩
      (Vector.replicate 16 0))),
    .controller (.connect Session.sampleOwner sampleInput (Vector.replicate 16 4)
      (Vector.replicate 32 3) 0),
    .controller (.offer 0 (Vector.replicate 16 5)), .controller (.commit 0 0 none),
    .controller (.signal (.next Agent.officeID)), .controller (.signal (.scan 0 [sampleEntry])),
    .deliver 0 true, .agent (.negotiated true), .agent .register]

/-- Then it restarts the connection. -/
def connectAndRestart : List Action :=
  let restart : Controller.ConnectionRequest :=
    { Controller.sampleRestart with serviceID := Agent.officeID }
  let request : CreateRequest :=
    { sampleRequest with restartOf := Controller.sampleConnectionID }
  connectOnce ++
    [.controller (.connect Session.sampleOwner restart (Vector.replicate 16 0)
        (Vector.replicate 32 0) 0),
      .controller (.offer 1 (Vector.replicate 16 6)), .controller (.commit 1 0 none),
      .controller (.signal (.next Agent.officeID)),
      .controller (.signal (.scan 1 [request.entry (randomID (Vector.replicate 16 6)) 0,
        { sampleEntry with claimed := true }])),
      .deliver 0 true, .agent (.negotiated true), .agent .register]

theorem run_restartChain_of_restart : ∃ h s, sampleDeployment.Run h s ∧
    (applied h 0).length = 2 ∧ (restarts h 0).length = 1 ∧
    ∀ offer ∈ applied h 0, ∀ offer' ∈ applied h 0, ∀ request request',
      offer.CreatedBy (signals h) request → offer'.CreatedBy (signals h) request' →
      SameAuthorization request request' := by
  obtain ⟨h, s, hr, hc⟩ := System.exists_run_of_exec (S := sampleDeployment)
    (P := fun h _ => decide ((applied h 0).length = 2 ∧ (restarts h 0).length = 1))
    connectAndRestart (by decide +kernel)
  obtain ⟨happlied, hrestarts⟩ := of_decide_eq_true hc
  refine ⟨h, s, hr, happlied, hrestarts, ?_⟩
  exact (run_restartChain hr 0).2.1

end WebVPN.Deployment
