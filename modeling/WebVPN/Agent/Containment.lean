import WebVPN.Agent.Transitions

namespace WebVPN.Agent

open WebVPN.Library WebVPN.Signaling

/-!
# Agent — where dials and pings can go

Whatever offers, control messages and Wisp packets arrive, and whatever the resolver answers
each time, an Agent with an accepted configuration dials and pings only addresses of its
allowlists.

* `Permitted`, `Allowed` — an address lies in a permitted network, in an `allowed_cidrs` list;
* `resolveHost_allowed` — every address that resolution returns is allowed;
* `prepareTemporary_pinned` — what a temporary target is pinned to;
* `Env.step_pinned` — every step keeps the targets and the pending pings inside;
* `run_contained` — the property of every dial and ping of every run.
-/

/-- The address lies in one of the networks an Agent may be configured for. -/
def Permitted (address : Addr) : Prop :=
  ∃ permitted ∈ permittedNetworks, permitted.contains address = true

/-- The address lies in a prefix of an `allowed_cidrs` list. -/
def Allowed (platform : Platform) (allowedCIDRs : List String) (address : Addr) : Prop :=
  ∃ rawPrefix ∈ allowedCIDRs, ∃ p, platform.parsePrefix rawPrefix = some p ∧
    p.contains address = true

section Resolution

variable {platform : Platform} {allowedCIDRs : List String}

/-- Masking the prefixes of a list does not change what they contain. -/
theorem allowed_of_compilePrefixes {address : Addr}
    (h : (compilePrefixes platform allowedCIDRs).any (fun p => p.contains address) = true) :
    Allowed platform allowedCIDRs address := by
  obtain ⟨masked, hmem, hcontains⟩ := List.any_eq_true.mp h
  obtain ⟨p, hp, rfl⟩ := List.mem_map.mp hmem
  obtain ⟨rawPrefix, hraw, hparse⟩ := List.mem_filterMap.mp hp
  rw [Prefix.contains_masked] at hcontains
  exact ⟨rawPrefix, hraw, p, hparse, hcontains⟩

theorem Allowed.permitted {address : Addr} (h : Allowed platform allowedCIDRs address)
    (hvalid : ∀ rawPrefix ∈ allowedCIDRs, validateCIDR platform rawPrefix = .ok ()) :
    Permitted address := by
  obtain ⟨rawPrefix, hraw, p, hparse, hcontains⟩ := h
  exact contains_permitted (hvalid rawPrefix hraw) hparse hcontains

/-- What a successful resolution has checked. -/
theorem resolveHost_checked {answer : Option (List Addr)} {host : String} {prefixes : List Prefix}
    {addresses : List Addr} (h : resolveHost platform answer host prefixes = .ok addresses) :
    addresses ≠ [] ∧ ∀ address ∈ addresses, prefixes.any (fun p => p.contains address) = true := by
  unfold resolveHost at h
  simp only at h
  split at h
  · cases h
  · split at h
    · cases h
    · rename_i hne
      split at h
      · rename_i hall
        cases h
        exact ⟨hne, List.all_eq_true.mp hall⟩
      · cases h

/-- **Resolution checks every answer.**  When `resolveHost` succeeds there is an address, and
    every address it returns is allowed, whatever the resolver said. -/
theorem resolveHost_allowed {answer : Option (List Addr)} {host : String} {addresses : List Addr}
    (h : resolveHost platform answer host (compilePrefixes platform allowedCIDRs) = .ok addresses) :
    addresses ≠ [] ∧ ∀ address ∈ addresses, Allowed platform allowedCIDRs address := by
  obtain ⟨hne, hall⟩ := resolveHost_checked h
  exact ⟨hne, fun address hmem => allowed_of_compilePrefixes (hall address hmem)⟩

end Resolution

/-! ### What the policy dials -/

/-- A compiled policy, as an Agent has it. -/
def Env.Compiled (env : Env) (files : Files) : Prop :=
  compilePolicy env.platform files env.config = .ok env.policy

/-- The address is one a configured service may have. -/
def Env.ServiceAddress (env : Env) (service : ServiceConfig) (address : Addr) : Prop :=
  service ∈ env.config.services ∧ Permitted address ∧
    Allowed env.platform service.allowedCIDRs address

/-- The address is one a temporary target may have. -/
def Env.TemporaryAddress (env : Env) (policy : TemporaryPolicyConfig) (address : Addr) : Prop :=
  env.config.temporary = some policy ∧ Permitted address ∧
    Allowed env.platform policy.allowedCIDRs address

/-- What a temporary target is pinned to when it is prepared while the Agent has the
    addresses `own`. -/
structure Env.Pinned (env : Env) (target : CompiledTemporaryTarget) (own : List Addr) : Prop where
  nonempty : target.addresses ≠ []
  inside : ∃ policy, target.config.port ∈ policy.allowedPorts ∧
    ∀ address ∈ target.addresses, env.TemporaryAddress policy address
  notLoopback : ∀ address ∈ target.addresses, address.isLoopback = false
  notOwn : ∀ address ∈ target.addresses, address ∉ own

section PolicyDials

variable {env : Env} {files : Files} {answer : Option (List Addr)}

/-- The addresses of a compiled service are those of its configuration. -/
theorem service_of_compiled (hpolicy : env.Compiled files) {c : CompiledService}
    (hmem : (∃ id, env.policy.servicesByID.lookup id = some c) ∨
      ∃ host, env.policy.servicesByVirtual.lookup host = some c) :
    c.config ∈ env.config.services ∧
      c.prefixes = compilePrefixes env.platform c.config.allowedCIDRs ∧
      ∀ rawPrefix ∈ c.config.allowedCIDRs, validateCIDR env.platform rawPrefix = .ok () := by
  obtain ⟨compiled, hc⟩ := compilePolicy_compiled hpolicy
  have hin : c ∈ compiled := hc.mem_of_lookup hmem
  have hservice : c.config ∈ env.config.services := by
    rw [← hc.services]
    exact List.mem_map_of_mem hin
  have hvalid : c.config.validate env.platform = .ok () := by
    have haccepted := hc.accepted
    simp only [Config.validate, then_eq_ok] at haccepted
    exact validateServices_validate haccepted.2.2.2.2.2.1 _ hservice
  simp only [ServiceConfig.validate, then_eq_ok, checkAll_eq_ok] at hvalid
  exact ⟨hservice, (hc.sound c hin).prefixes, hvalid.2.2.2.2.2.1⟩

theorem resolve_service (hpolicy : env.Compiled files) {c : CompiledService}
    (hmem : (∃ id, env.policy.servicesByID.lookup id = some c) ∨
      ∃ host, env.policy.servicesByVirtual.lookup host = some c)
    {host : String} {addresses : List Addr}
    (h : resolveHost env.platform answer host c.prefixes = .ok addresses) :
    addresses ≠ [] ∧ ∀ address ∈ addresses, env.ServiceAddress c.config address := by
  obtain ⟨hservice, hprefixes, hvalid⟩ := service_of_compiled hpolicy hmem
  rw [hprefixes] at h
  obtain ⟨hne, hall⟩ := resolveHost_allowed h
  exact ⟨hne, fun address ha => ⟨hservice, (hall address ha).permitted hvalid, hall address ha⟩⟩

theorem headD_mem {α : Type} {l : List α} (hne : l ≠ []) (d : α) : l.headD d ∈ l := by
  cases l with
  | nil => exact absurd rfl hne
  | cons x l => exact List.mem_cons_self

/-- `DialVirtual` dials an address and the port of a configured service. -/
theorem dialVirtual_contained (hpolicy : env.Compiled files)
    {hostname : String} {port : UInt16} {d : Dial}
    (h : env.policy.dialVirtual env.platform answer hostname port = .ok d) :
    ∃ service, env.ServiceAddress service d.address ∧ d.port = service.targetPort := by
  unfold Policy.dialVirtual at h
  split at h
  · cases h
  · rename_i c hlookup
    split at h
    · cases h
    · split at h
      · cases h
      · rename_i addresses hresolve
        cases h
        obtain ⟨hne, hall⟩ := resolve_service hpolicy (.inr ⟨_, hlookup⟩) hresolve
        exact ⟨c.config, hall _ (headD_mem hne _), rfl⟩

/-- `ResolveTarget` returns addresses of the service. -/
theorem resolveTarget_contained (hpolicy : env.Compiled files)
    {serviceID : String} {addresses : List Addr}
    (h : env.policy.resolveTarget env.platform answer serviceID = .ok addresses) :
    ∃ service, ∀ address ∈ addresses, env.ServiceAddress service address := by
  unfold Policy.resolveTarget at h
  split at h
  · cases h
  · rename_i c hlookup
    exact ⟨c.config, (resolve_service hpolicy (.inl ⟨_, hlookup⟩) h).2⟩

/-- The temporary policy of an accepted configuration. -/
theorem temporary_of_compiled (hpolicy : env.Compiled files) {c : CompiledTemporaryPolicy}
    (h : env.policy.temporary = some c) :
    ∃ policy, env.config.temporary = some policy ∧ c = compileTemporary env.platform policy ∧
      ∀ rawPrefix ∈ policy.allowedCIDRs, validateCIDR env.platform rawPrefix = .ok () := by
  obtain ⟨compiled, hc⟩ := compilePolicy_compiled hpolicy
  rw [hc.temporary] at h
  obtain ⟨policy, hpolicy, rfl⟩ := Option.map_eq_some_iff.mp h
  have haccepted := hc.accepted
  simp only [Config.validate, then_eq_ok, hpolicy, withContext_eq_ok,
    TemporaryPolicyConfig.validate, checkAll_eq_ok] at haccepted
  exact ⟨policy, hpolicy, rfl, haccepted.2.2.2.2.2.2.2.1⟩

/-- **Preparation pins a target inside the temporary policy** and outside the Agent: neither
    a loopback address nor one of the Agent's own. -/
theorem prepareTemporary_pinned (hpolicy : env.Compiled files)
    {localAddresses : Option (List Addr)} {files' : Files} {request : TemporaryTarget}
    {target : CompiledTemporaryTarget}
    (h : env.policy.prepareTemporary env.platform answer localAddresses files' request =
      .ok target) :
    ∃ own, localAddresses = some own ∧ env.Pinned target own := by
  obtain ⟨temporary, own, hprepared⟩ := Policy.prepareTemporary_prepared h
  obtain ⟨policy, hconfig, rfl, hvalid⟩ := temporary_of_compiled hpolicy hprepared.enabled
  obtain ⟨hne, hall⟩ := resolveHost_allowed hprepared.resolved
  refine ⟨own, hprepared.listed, hne, ⟨policy, ?_, ?_⟩, ?_, ?_⟩
  · rw [hprepared.config]
    exact hprepared.port
  · intro address hmem
    exact ⟨hconfig, (hall address hmem).permitted hvalid, hall address hmem⟩
  · exact fun address hmem => (hprepared.clean address hmem).1
  · exact fun address hmem => (hprepared.clean address hmem).2

end PolicyDials

/-! ### Targets and pending pings of a peer -/

/-- An address a peer may ping. -/
def Env.PingAddress (env : Env) (temporary : Bool) (address : Addr) : Prop :=
  if temporary then ∃ policy, env.TemporaryAddress policy address
  else ∃ service, env.ServiceAddress service address

/-- A goroutine holds only a target that was prepared, and pings only an address of the
    allowlist. -/
def Env.TaskPinned (env : Env) (events : List Event) (index : Nat) (temporary : Bool) : Task → Prop
  | .storing _ _ target => ∃ own, .prepared index target own ∈ events
  | .pinging _ _ address => env.PingAddress temporary address
  | _ => True

/-- The target of a peer was prepared for it, and its goroutines keep to the allowlist. -/
structure Env.PeerPinned (env : Env) (events : List Event) (index : Nat) (peer : Peer) :
    Prop where
  target : ∀ target, peer.temporaryTarget = some target →
    ∃ own, .prepared index target own ∈ events
  tasks : ∀ task ∈ peer.tasks, env.TaskPinned events index peer.temporary task

/-- What may be seen of a step, given what was seen before. -/
def Env.EventContained (env : Env) (events : List Event) (peers : List Peer) : Event → Prop
  | .dial index d => ∃ peer, peers[index]? = some peer ∧
      if peer.temporary then
        ∃ target, peer.temporaryTarget = some target ∧
          (∃ own, .prepared index target own ∈ events) ∧
          d.address = target.addresses.headD .zero ∧ d.port = target.config.port
      else ∃ service, env.ServiceAddress service d.address ∧ d.port = service.targetPort
  | .ping index address => ∃ peer, peers[index]? = some peer ∧ env.PingAddress peer.temporary address
  | .prepared _ target own => env.Pinned target own
  | _ => True

section Steps

variable {env : Env} {events : List Event} {index : Nat}

variable {event : Event}

theorem Env.TaskPinned.mono {temporary : Bool} {task : Task}
    (h : env.TaskPinned events index temporary task) :
    env.TaskPinned (event :: events) index temporary task := by
  cases task with
  | storing channel id target =>
    obtain ⟨own, hown⟩ := h
    exact ⟨own, List.mem_cons_of_mem _ hown⟩
  | pinging => exact h
  | checking => trivial
  | preparing => trivial
  | diagnosing => trivial
  | replying => trivial
  | finished => trivial

variable {peer : Peer}

theorem Env.PeerPinned.mono (h : env.PeerPinned events index peer) :
    env.PeerPinned (event :: events) index peer where
  target target ht := by
    obtain ⟨own, hown⟩ := h.target target ht
    exact ⟨own, List.mem_cons_of_mem _ hown⟩
  tasks task ht := (h.tasks task ht).mono

variable {peer peer' : Peer}

/-- A step that leaves target and goroutines alone. -/
theorem Env.PeerPinned.congr (h : env.PeerPinned events index peer)
    (htarget : peer'.temporaryTarget = peer.temporaryTarget)
    (htemporary : peer'.temporary = peer.temporary) (htasks : peer'.tasks = peer.tasks) :
    env.PeerPinned events index peer' :=
  ⟨htarget ▸ h.target, by rw [htasks, htemporary]; exact h.tasks⟩

/-- Every preparation that was seen pinned its target. -/
def Env.EventsPinned (env : Env) (events : List Event) : Prop :=
  ∀ index target own, .prepared index target own ∈ events → env.Pinned target own

/-- The addresses of a temporary peer's target. -/
theorem Env.PeerPinned.temporaryAddress (h : env.PeerPinned events index peer)
    (hev : env.EventsPinned events) {target : CompiledTemporaryTarget}
    (ht : peer.temporaryTarget = some target) :
    ∃ policy, ∀ address ∈ target.addresses, env.TemporaryAddress policy address := by
  obtain ⟨own, hown⟩ := h.target target ht
  obtain ⟨policy, -, hall⟩ := (hev index target own hown).inside
  exact ⟨policy, hall⟩

variable {files : Files} {peers : List Peer}

/-- `runDiagnostic` pings only an address of the allowlist. -/
theorem runDiagnostic_pinned (hpolicy : env.Compiled files)
    (h : env.PeerPinned events index peer) (hev : env.EventsPinned events) (channel : Nat)
    (input : ControlInput) (answer : Option (List Addr)) :
    env.TaskPinned events index peer.temporary
      (env.runDiagnostic peer channel input answer) := by
  unfold Env.runDiagnostic
  split
  · -- a name lookup ends in a reply
    simp only
    split <;> trivial
  · cases htemporary : peer.temporary with
    | true =>
      cases htarget : peer.temporaryTarget with
      | none => simp [Env.TaskPinned]
      | some target =>
        obtain ⟨policy, hall⟩ := h.temporaryAddress hev htarget
        cases haddresses : target.addresses with
        | nil => simp [haddresses, Env.TaskPinned]
        | cons address rest =>
          simp only [if_true, haddresses, Env.TaskPinned, Env.PingAddress]
          exact ⟨policy, hall address (by simp [haddresses])⟩
    | false =>
      cases hresolve : env.policy.resolveTarget env.platform answer peer.serviceID with
      | error e => trivial
      | ok addresses =>
        obtain ⟨service, hall⟩ := resolveTarget_contained hpolicy hresolve
        cases addresses with
        | nil => trivial
        | cons address rest =>
          exact ⟨service, hall address List.mem_cons_self⟩

/-- One step of a goroutine. -/
theorem Task.Step.pinned (hpolicy : env.Compiled files)
    {world : World} {task next : Task} (hpeer : peers[index]? = some peer)
    (h : env.PeerPinned events index peer) (hev : env.EventsPinned events)
    (htask : env.TaskPinned events index peer.temporary task)
    (hs : Task.Step env index peer world task peer' next event) :
    env.PeerPinned (event :: events) index peer' ∧
      env.TaskPinned (event :: events) index peer'.temporary next ∧
      env.EventContained events peers event := by
  cases hs with
  | prepared channel input target hprepare =>
    obtain ⟨own, hown, hpinned⟩ := prepareTemporary_pinned hpolicy hprepare
    rw [hown]
    exact ⟨h.mono, ⟨own, List.mem_cons_self⟩, hpinned⟩
  | stored channel id target _ =>
    refine ⟨⟨fun target' ht => ?_, h.mono.tasks⟩, trivial, trivial⟩
    cases ht
    obtain ⟨own, hown⟩ := htask
    exact ⟨own, List.mem_cons_of_mem _ hown⟩
  | diagnosed channel input =>
    exact ⟨h.mono, (runDiagnostic_pinned hpolicy h hev channel input world.answer).mono, trivial⟩
  | pinged => exact ⟨h.mono, trivial, peer, hpeer, htask⟩
  | replied | unsent => exact ⟨h.mono.congr rfl rfl rfl, trivial, trivial⟩
  | configured | unconfigured | refused | late => exact ⟨h.mono, trivial, trivial⟩

/-- A goroutine that is started holds nothing yet. -/
theorem Env.PeerPinned.append (h : env.PeerPinned events index peer) {task : Task}
    {slots : Nat} (htask : env.TaskPinned events index peer.temporary task) :
    env.PeerPinned events index { peer with slots := slots, tasks := peer.tasks ++ [task] } := by
  refine ⟨h.target, fun task' hmem => ?_⟩
  rcases List.mem_append.mp hmem with hmem | hmem
  · exact h.tasks task' hmem
  · rw [List.mem_singleton.mp hmem]
    exact htask

/-- A dial of a Wisp stream goes where the policy of its peer allows. -/
theorem serviceDial_contained (hpolicy : env.Compiled files)
    {answer : Option (List Addr)} {hostname : String} {port : UInt16}
    (hpeer : peers[index]? = some peer) (h : env.PeerPinned events index peer) :
    env.EventContained events peers
      (Env.dialEvent index (env.serviceDial peer answer hostname port)) := by
  cases hdial : env.serviceDial peer answer hostname port with
  | error e => trivial
  | ok d =>
    refine ⟨peer, hpeer, ?_⟩
    unfold Env.serviceDial at hdial
    cases htemporary : peer.temporary with
    | true =>
      simp only [htemporary, if_true, Policy.dialTemporary] at hdial ⊢
      split at hdial
      · cases hdial
      · rename_i target htarget
        split at hdial
        · cases hdial
        · cases hdial
          exact ⟨target, htarget, h.target target htarget, rfl, rfl⟩
    | false =>
      simp only [htemporary, Bool.false_eq_true, if_false] at hdial ⊢
      split at hdial
      · cases hdial
      · exact dialVirtual_contained hpolicy hdial

/-- One step of a peer. -/
theorem Peer.Step.pinned (hpolicy : env.Compiled files)
    {a : Action} (hpeer : peers[index]? = some peer)
    (h : env.PeerPinned events index peer) (hev : env.EventsPinned events)
    (hs : peer.Step env index a peer' event) :
    env.PeerPinned (event :: events) index peer' ∧ env.EventContained events peers event := by
  cases hs with
  | controlled i channel isString data sent _ _ hcontrol =>
    refine ⟨?_, trivial⟩
    cases hcontrol with
    | closed => exact h.mono.congr rfl rfl rfl
    | diagnosing | checking => exact h.mono.append trivial
  | answered i channel isString data sent reply _ _ =>
    refine ⟨?_, trivial⟩
    split
    · exact h.mono
    · exact h.mono.congr rfl rfl rfl
  | task i number world task task' peer₁ _ hget hstep =>
    have htask := h.tasks task (List.mem_of_getElem? hget)
    obtain ⟨h₁, hnext, hcontained⟩ := hstep.pinned hpolicy hpeer h hev htask
    refine ⟨⟨h₁.target, fun task' hmem => ?_⟩, hcontained⟩
    rcases List.mem_or_eq_of_mem_set hmem with hmem | rfl
    · exact h₁.tasks task' hmem
    · exact hnext
  | dialed => exact ⟨h.mono.congr rfl rfl rfl, serviceDial_contained hpolicy hpeer h⟩
  | closeCalled i =>
    have hsame := peer.callClose_unmoved
    exact ⟨h.mono.congr hsame.temporaryTarget hsame.temporary hsame.tasks, trivial⟩
  | _ => exact ⟨h.mono.congr rfl rfl rfl, trivial⟩

/-- All peers keep to their allowlists. -/
def Env.AllPinned (env : Env) (events : List Event) (peers : List Peer) : Prop :=
  ∀ index peer, peers[index]? = some peer → env.PeerPinned events index peer

/-- **Step lemma.**  A step of the Agent keeps all peers inside, and so is what is seen. -/
theorem Env.step_pinned (hpolicy : env.Compiled files) {s s' : Runtime} {a : Action}
    (h : env.AllPinned events s.peers) (hev : env.EventsPinned events)
    (hs : env.step s a = some (s', event)) :
    env.AllPinned (event :: events) s'.peers ∧ env.EventContained events s.peers event := by
  have hstep := Env.step_cases hs
  constructor
  · intro p peer' hget
    cases hstep.origin hget with
    | new serviceID digest temporary _ _ hnew =>
      subst hnew
      exact ⟨fun target ht => (by cases ht), fun task ht => by cases ht⟩
    | unmoved peer hpeer _ hsame =>
      exact (h p peer hpeer).mono.congr hsame.temporaryTarget hsame.temporary hsame.tasks
    | stepped peer hpeer _ hown => exact (hown.pinned hpolicy hpeer (h p peer hpeer) hev).1
  · cases hstep with
    | stepped p peer peer' _ _ _ hpeer hown =>
      exact (hown.pinned hpolicy hpeer (h p peer hpeer) hev).2
    | _ => trivial

end Steps

/-! ### Runs -/

/-- Where a dial or a ping goes, `events` being what was seen before it.

    A dial of a peer of a configured service goes to an address and the port of a configured
    service.  A dial of a temporary peer goes to an address and a port of the temporary
    policy, and neither to a loopback address nor to one that the Agent had when the target
    was prepared. -/
def Env.Contained (env : Env) (events : List Event) (t : Transition Runtime Action Event) : Prop :=
  match t.event with
  | .dial index d => ∃ peer, t.before.peers[index]? = some peer ∧
      if peer.temporary then
        ∃ policy target, peer.temporaryTarget = some target ∧
          env.TemporaryAddress policy d.address ∧ d.port ∈ policy.allowedPorts ∧
          d.address.isLoopback = false ∧
          (∃ own, .prepared index target own ∈ events) ∧
          ∀ own, .prepared index target own ∈ events → d.address ∉ own
      else ∃ service, env.ServiceAddress service d.address ∧ d.port = service.targetPort
  | .ping index address =>
    ∃ peer, t.before.peers[index]? = some peer ∧ env.PingAddress peer.temporary address
  | _ => True

section Runs

variable {env : Env} {files : Files}

/-- What was seen of a run, and its peers, keep to the allowlists. -/
theorem run_pinned (hpolicy : env.Compiled files) {h : History}
    {s : Runtime} (hr : env.system.Run h s) :
    env.AllPinned (h.map Transition.event) s.peers ∧
      env.EventsPinned (h.map Transition.event) := by
  induction hr with
  | init =>
    constructor
    · intro index peer hpeer
      cases hpeer
    · intro index target own hown
      cases hown
  | step hr hs ih =>
    obtain ⟨hall, hev⟩ := ih
    obtain ⟨hall', hcontained⟩ := Env.step_pinned hpolicy hall hev hs
    refine ⟨hall', fun index target own hmem => ?_⟩
    rcases List.mem_cons.mp hmem with heq | hmem
    · simp only at heq
      rw [← heq] at hcontained
      exact hcontained
    · exact hev index target own hmem

/-- **Containment.**  Every dial and every ping of every run of an Agent goes to an address
    of its allowlists, at the port that belongs to it. -/
theorem run_contained (hpolicy : env.Compiled files)
    {h₁ h₂ : History} {t : Transition Runtime Action Event}
    {s : Runtime} (hr : env.system.Run (h₁ ++ t :: h₂) s) :
    env.Contained (h₂.map Transition.event) t := by
  obtain ⟨hr₂, s', hs⟩ := System.Run.split hr
  obtain ⟨hall, hev⟩ := run_pinned hpolicy hr₂
  obtain ⟨-, hcontained⟩ := Env.step_pinned hpolicy hall hev hs
  unfold Env.Contained
  split
  · rename_i index d hevent
    rw [hevent] at hcontained
    obtain ⟨peer, hpeer, hdial⟩ := hcontained
    refine ⟨peer, hpeer, ?_⟩
    split
    · rename_i htemporary
      rw [if_pos htemporary] at hdial
      obtain ⟨target, htarget, ⟨own, hown⟩, haddress, hport⟩ := hdial
      have hpinned := hev index target own hown
      have hmem : d.address ∈ target.addresses := by
        rw [haddress]
        exact headD_mem hpinned.nonempty _
      obtain ⟨policy, hports, hinside⟩ := hpinned.inside
      refine ⟨policy, target, htarget, hinside _ hmem, hport ▸ hports,
        hpinned.notLoopback _ hmem, ⟨own, hown⟩, fun own' hown' => ?_⟩
      exact (hev index target own' hown').notOwn _ hmem
    · rename_i htemporary
      rw [if_neg htemporary] at hdial
      exact hdial
  · rename_i index address hevent
    rw [hevent] at hcontained
    exact hcontained
  · trivial

end Runs

/-! A small Agent, with one service at 10.0.0.5:8080. -/

/-- A platform on which one host is known. -/
def officePlatform : Platform where
  unicode := Unicode.ascii
  quote text := text
  parseURL _ := some ⟨"https", "controller.example", false, "", "", ""⟩
  isAbs _ := false
  parseIP text := if text = "10.0.0.5" then some 0xffff0a000005#128 else none
  parseAddr text := if text = "10.0.0.5" then some (.v4 0x0a000005#32) else none
  parsePrefix text :=
    if text = "10.0.0.0/8" then some (.v4 0x0a000000#32 8 Prefix.eight_le) else none
  splitHostPort _ := none

/-- The Agent's ID. -/
def officeID : String := "AAAAAAAAAAAAAAAAAAAAAA"

/-- A configuration with one service. -/
def officeConfig : Config where
  controllerURL := "https://controller.example"
  agentID := officeID
  privateKeyFile := "/etc/webvpn/agent.key"
  stunURLs := ["stun:stun.example.org"]
  services := [⟨officeID, "wiki", "http", "10.0.0.5", 8080, ["10.0.0.0/8"], none⟩]
  temporary := none

/-- No file can be read. -/
def officeFiles : Files := ⟨fun _ => none, fun _ => false⟩

/-- An Agent with the policy of its configuration. -/
def Env.ofConfig (platform : Platform) (files : Files) (config : Config) : Env where
  platform := platform
  config := config
  policy := (compilePolicy platform files config).toOption.getD ⟨[], [], none⟩
  sha256 _ := Vector.replicate 32 0
  decodeControl := Agent.decodeControl platform.unicode

theorem Env.ofConfig_compiled {platform : Platform} {files : Files} {config : Config}
    (h : (compilePolicy platform files config).isOk = true) :
    (Env.ofConfig platform files config).Compiled files := by
  unfold Env.Compiled Env.ofConfig
  cases hcompile : compilePolicy platform files config with
  | error e =>
    rw [hcompile] at h
    cases h
  | ok policy => rfl

/-- The Agent with this configuration. -/
def officeEnv : Env := .ofConfig officePlatform officeFiles officeConfig

theorem officeEnv_compiled : officeEnv.Compiled officeFiles :=
  Env.ofConfig_compiled (by decide +kernel)

/-- A browser connects, opens a Wisp channel and asks for the service. -/
def officeVisit : List Action :=
  let token := String.ofList (List.replicate 43 'A')
  let connect := (virtualHostname officeID).toUTF8.data.toList
  [.offer ⟨"offer-1", officeID, officeID, token, ⟨"offer", "v=0"⟩, "", false⟩ true,
    .negotiated true, .register, .channel 0 "wisp-interactive-v2" true,
    .message 0 0 true ("webvpn-auth-v1:" ++ token).toUTF8.data.toList true,
    .message 0 0 true authenticatedReady true,
    .wisp 0 0 (.handle true),
    .message 0 0 false (Wisp.Frame.packet ⟨Wisp.packetInfo, 0, [2, 0]⟩) true,
    .wisp 0 0 (.handle true),
    .message 0 0 false
      (Wisp.Frame.packet ⟨Wisp.packetConnect, 1, [Wisp.streamTCP, 80, 0] ++ connect⟩) true,
    .wisp 0 0 (.handle true), .dial 0 0 0 none (some 7)]

/-- The visit ends in a dial to 10.0.0.5:8080, and that is where it may go. -/
theorem run_contained_of_visit :
    officeEnv.Compiled officeFiles ∧ ∃ t h s, officeEnv.system.Run (t :: h) s ∧
      t.event = .dial 0 ⟨.v4 0x0a000005#32, 8080, none⟩ ∧
      officeEnv.Contained (h.map Transition.event) t := by
  refine ⟨officeEnv_compiled, ?_⟩
  obtain ⟨h, s, hr, hc⟩ := System.exists_run_of_exec (S := officeEnv.system)
    (P := fun h _ => decide (h.head?.map Transition.event =
      some (.dial 0 ⟨.v4 0x0a000005#32, 8080, none⟩))) officeVisit (by decide +kernel)
  cases h with
  | nil => simp at hc
  | cons t h =>
    have hevent : t.event = .dial 0 ⟨.v4 0x0a000005#32, 8080, none⟩ := by simpa using hc
    have hr' : officeEnv.system.Run ([] ++ t :: h) s := hr
    exact ⟨t, h, s, hr, hevent, run_contained officeEnv_compiled hr'⟩

end WebVPN.Agent
