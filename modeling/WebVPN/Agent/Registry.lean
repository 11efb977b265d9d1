import WebVPN.Agent.Containment

namespace WebVPN.Agent

open WebVPN.Library WebVPN.Signaling

/-!
# Agent — the map from signaling ids to peers

`addAlias` writes an id into two maps under two locks, the aliases of the peer and
`Runtime.peers`; `peer.close` reads the first map once and then deletes from the second what it has
read.  An entry that is written after that is never deleted.

* `Peer.removes` — the `close` of this peer, if there ever is one, will delete the entry of this id;
* `Registered` — every entry of the map is of this kind, and its id is an alias of the peer;
* `run_registry` — if no entry is written behind the back of a `close`, then between calls the map
  has no closed peer and no id that its peer does not know;
* `registered_after_close` — a peer that is closed while its offer is negotiated stays in the map.
-/

/-- No offer is being accepted, and no `close` has begun without having ended. -/
def Runtime.Quiet (s : Runtime) : Prop :=
  s.accepting = .idle ∧ ∀ peer ∈ s.peers, peer.closing = none ∨ peer.closing = some .done

instance (s : Runtime) : Decidable s.Quiet := inferInstanceAs (Decidable (_ ∧ _))

/-- Every entry of the map leads to a peer that is not closed and has the id among its aliases. -/
def Runtime.Tidy (s : Runtime) : Prop :=
  ∀ e ∈ s.registry, (s.peers[e.2]?).any (fun peer => peer.closing = none ∧ e.1 ∈ peer.aliases) = true

instance (s : Runtime) : Decidable s.Tidy := inferInstanceAs (Decidable (∀ _ ∈ _, _))

/-- A `close` that is still to delete from the map will delete this id. -/
def Peer.removes (peer : Peer) (id : String) : Bool :=
  match peer.closing with
  | none => true
  | some .cancelled => true
  | some (.collected aliases) => id ∈ aliases
  | some .done => false

/-- `addAlias` does not write an entry that the `close` of its peer has missed. -/
def Timely (t : Transition Runtime Action Event) : Bool :=
  match t.action, t.before.accepting with
  | .register, .registering index id => (t.before.peers[index]?).all (fun peer => peer.removes id)
  | _, _ => true

/-! ### One step of a peer -/

/-- What an entry of the map needs of its peer is kept. -/
structure Peer.Keeps (peer peer' : Peer) : Prop where
  aliases : ∀ id ∈ peer.aliases, id ∈ peer'.aliases
  removes : ∀ id ∈ peer.aliases, peer.removes id = true → peer'.removes id = true

variable {peer peer' : Peer}

/-- A step that touches neither the aliases nor `close`. -/
theorem Peer.Keeps.frame (haliases : peer'.aliases = peer.aliases)
    (hclosing : peer'.closing = peer.closing) : peer.Keeps peer' where
  aliases id hid := haliases ▸ hid
  removes id _ h := by rwa [Peer.removes, hclosing]

/-- A call of `close` deletes nothing yet. -/
theorem Peer.callClose_keeps (peer : Peer) : peer.Keeps peer.callClose := by
  unfold Peer.callClose
  split
  · exact ⟨fun id hid => hid, fun id _ _ => rfl⟩
  · exact .frame rfl rfl

theorem Task.Step.keeps {env : Env} {index : Nat} {world : World}
    {task task' : Task} {e : Event} (h : Task.Step env index peer world task peer' task' e) :
    peer.Keeps peer' := by
  cases h <;> exact .frame rfl rfl

theorem Peer.Step.keeps {env : Env} {index : Nat} {a : Action} {e : Event}
    (h : peer.Step env index a peer' e) : peer.Keeps peer' := by
  cases h with
  | controlled i channel isString data sent peer' _ hcontrol =>
    cases hcontrol <;> exact .frame rfl rfl
  | answered i channel isString data sent reply _ _ => cases sent <;> exact .frame rfl rfl
  | task i number world task task' peer₁ e _ hstep => exact ⟨hstep.keeps.aliases, hstep.keeps.removes⟩
  | closeCalled i => exact peer.callClose_keeps
  | _ => exact .frame rfl rfl

/-! ### One step of the Agent -/

/-- Every entry of the map will be deleted by the `close` of its peer, and an id is an alias before it
    is an entry. -/
structure Registered (s : Runtime) : Prop where
  entries : ∀ e ∈ s.registry, ∃ peer, s.peers[e.2]? = some peer ∧ e.1 ∈ peer.aliases ∧
    peer.removes e.1 = true
  registering : ∀ index id, s.accepting = .registering index id →
    ∃ peer, s.peers[index]? = some peer ∧ id ∈ peer.aliases

section Steps

variable {env : Env} {s s' : Runtime} {a : Action} {e : Event}

/-- A peer moves on. -/
theorem Registered.move (h : Registered s) {index : Nat} {peer peer' : Peer}
    (hpeer : s.peers[index]? = some peer) (hpeers : s'.peers = s.peers.set index peer')
    (hkeeps : peer.Keeps peer') (hregistry : ∀ e ∈ s'.registry, e ∈ s.registry)
    (haccepting : ∀ i id, s'.accepting = .registering i id → s.accepting = .registering i id) :
    Registered s' := by
  have hlt : index < s.peers.length := (List.getElem?_eq_some_iff.mp hpeer).1
  -- what a peer had before, it or its next state has now
  have hnow : ∀ (i : Nat) (current : Peer), s.peers[i]? = some current →
      ∃ current', s'.peers[i]? = some current' ∧ current.Keeps current' := by
    intro i current hcurrent
    rw [hpeers]
    by_cases hi : index = i
    · subst hi
      rw [hpeer] at hcurrent
      obtain rfl := Option.some.inj hcurrent
      exact ⟨peer', List.getElem?_set_self hlt, hkeeps⟩
    · exact ⟨current, (List.getElem?_set_ne hi).trans hcurrent, .frame rfl rfl⟩
  refine ⟨fun e he => ?_, fun i id hi => ?_⟩
  · obtain ⟨current, hcurrent, halias, hremoves⟩ := h.entries e (hregistry e he)
    obtain ⟨current', hcurrent', hkept⟩ := hnow e.2 current hcurrent
    exact ⟨current', hcurrent', hkept.aliases e.1 halias, hkept.removes e.1 halias hremoves⟩
  · obtain ⟨current, hcurrent, halias⟩ := h.registering i id (haccepting i id hi)
    obtain ⟨current', hcurrent', hkept⟩ := hnow i current hcurrent
    exact ⟨current', hcurrent', hkept.aliases id halias⟩

/-- An offer is accepted. -/
theorem Registered.accept (h : Registered s) {offer : Offer} {p : Nat} {peers : List Peer}
    (haccepts : Accepts s offer p peers) :
    Registered { s with peers := peers, accepting := .negotiating p offer } := by
  cases haccepts with
  | created _ _ _ hpeers =>
    refine ⟨fun e he => ?_, fun i id hi => by cases hi⟩
    obtain ⟨current, hcurrent, halias, hremoves⟩ := h.entries e he
    have hlt : e.2 < s.peers.length := (List.getElem?_eq_some_iff.mp hcurrent).1
    refine ⟨current, ?_, halias, hremoves⟩
    rw [hpeers, List.getElem?_append_left hlt]
    exact hcurrent
  | restarted _ _ hpeer _ hpeers =>
    exact h.move hpeer hpeers (.frame rfl rfl) (fun _ he => he) (fun i id hi => by cases hi)

/-- `close` deletes the entries of the aliases that it has read. -/
theorem Registered.delete (h : Registered s) {index : Nat} {peer : Peer} {aliases : List String}
    (hpeer : s.peers[index]? = some peer) (hclosing : peer.closing = some (.collected aliases)) :
    Registered { s with
      peers := s.peers.set index { peer with closing := some .done }
      registry := s.registry.filter (fun e => ¬ (e.1 ∈ aliases ∧ e.2 = index)) } := by
  have hlt : index < s.peers.length := (List.getElem?_eq_some_iff.mp hpeer).1
  refine ⟨fun e he => ?_, fun i id hi => ?_⟩
  · obtain ⟨hmem, hkept⟩ := List.mem_filter.mp he
    obtain ⟨current, hcurrent, halias, hremoves⟩ := h.entries e hmem
    -- an entry of this peer would be among the aliases that were read
    have hother : index ≠ e.2 := by
      rintro rfl
      rw [hpeer] at hcurrent
      obtain rfl := Option.some.inj hcurrent
      rw [Peer.removes, hclosing] at hremoves
      simp only [decide_eq_true_eq] at hremoves hkept
      exact hkept ⟨hremoves, trivial⟩
    exact ⟨current, (List.getElem?_set_ne hother).trans hcurrent, halias, hremoves⟩
  · obtain ⟨current, hcurrent, halias⟩ := h.registering i id hi
    by_cases hi' : index = i
    · subst hi'
      rw [hpeer] at hcurrent
      obtain rfl := Option.some.inj hcurrent
      exact ⟨_, List.getElem?_set_self hlt, halias⟩
    · exact ⟨current, (List.getElem?_set_ne hi').trans hcurrent, halias⟩

/-- **Step lemma.** -/
theorem Registered.step (h : Registered s) (hs : env.step s a = some (s', e))
    (htimely : Timely ⟨s, a, e⟩ = true) : Registered s' := by
  cases Env.step_cases hs with
  | offerRefused offer created code => exact h
  | offerAccepted offer created p peers _ haccepts => exact h.accept haccepts
  | negotiated index offer peer haccepting hpeer =>
    have hlt : index < s.peers.length := (List.getElem?_eq_some_iff.mp hpeer).1
    have hkeeps : peer.Keeps { peer with aliases := offer.id :: peer.aliases } :=
      ⟨fun id hid => List.mem_cons_of_mem _ hid, fun id _ hremoves => hremoves⟩
    have hmoved : Registered { s with
        peers := s.peers.set index { peer with aliases := offer.id :: peer.aliases } } :=
      h.move hpeer rfl hkeeps (fun _ he => he) (fun i id hi => hi)
    refine ⟨hmoved.entries, fun i id hi => ?_⟩
    obtain ⟨rfl, rfl⟩ := Accepting.registering.inj hi
    exact ⟨_, List.getElem?_set_self hlt, List.mem_cons_self⟩
  | negotiationFailed index offer peer _ hpeer =>
    refine h.move hpeer rfl ?_ (fun _ he => he) (fun i id hi => by cases hi)
    split
    · exact peer.callClose_keeps
    · exact .frame rfl rfl
  | registered index id haccepting =>
    refine ⟨fun e he => ?_, fun i id' hi => by cases hi⟩
    rcases List.mem_cons.mp he with rfl | he
    · -- the condition: `close` has not read the aliases without this one
      obtain ⟨peer, hpeer, halias⟩ := h.registering index id haccepting
      refine ⟨peer, hpeer, halias, ?_⟩
      simpa [Timely, haccepting, hpeer] using htimely
    · exact h.entries e (List.mem_filter.mp he).1
  | collected index peer hpeer hclosing =>
    refine h.move hpeer rfl ⟨fun id hid => hid, fun id hid _ => ?_⟩ (fun _ he => he)
      (fun i id hi => hi)
    simpa [Peer.removes] using hid
  | deleted index peer aliases hpeer hclosing => exact h.delete hpeer hclosing
  | stepped index peer peer' _ _ _ hpeer hstep =>
    exact h.move hpeer rfl hstep.keeps (fun _ he => he) (fun i id hi => hi)

/-- Between calls, the entries of the map are tidy. -/
theorem Registered.tidy (h : Registered s) (hquiet : s.Quiet) : s.Tidy := by
  intro e he
  obtain ⟨peer, hpeer, halias, hremoves⟩ := h.entries e he
  rw [hpeer, Option.any_some]
  rcases hquiet.2 peer (List.mem_of_getElem? hpeer) with hopen | hdone
  · simp [hopen, halias]
  · rw [Peer.removes, hdone] at hremoves
    exact absurd hremoves Bool.false_ne_true

end Steps

/-! ### Runs -/

/-- **The map of peers.**  In every run in which `addAlias` writes no entry that the `close` of its peer
    has missed, every state between calls has no closed peer in the map, and every id of the map is
    an alias of its peer. -/
theorem run_registry {env : Env} {h : History} {s : Runtime}
    (hr : env.system.Run h s) (htimely : ∀ t ∈ h, Timely t = true) :
    ∀ s' ∈ System.visited h s, s'.Quiet → s'.Tidy := by
  have hinit : Registered env.system.init :=
    ⟨fun e he => absurd he List.not_mem_nil, fun i id hi => by cases hi⟩
  have hinvariant : ∀ s' ∈ System.visited h s, Registered s' :=
    hr.invariant_under htimely hinit (fun t s' hok hbefore hs => hbefore.step hs hok)
  intro s' hs' hquiet
  exact (hinvariant s' hs').tidy hquiet

/-- A browser connects, restarts, and goes away. -/
def officeCall : List Action :=
  let token := String.ofList (List.replicate 43 'A')
  [.offer ⟨"offer-1", officeID, officeID, token, ⟨"offer", "v=0"⟩, "", false⟩ true,
    .negotiated true, .register,
    .offer ⟨"offer-2", officeID, officeID, token, ⟨"offer", "v=0"⟩, "offer-1", false⟩ true,
    .negotiated true, .closePeer 0, .register, .stepClose 0, .stepClose 0]

/-- The `close` of this run begins while the second id is being registered, and deletes both. -/
theorem run_registry_of_call :
    ∃ h s, officeEnv.system.Run h s ∧ (∀ t ∈ h, Timely t = true) ∧ s.Quiet ∧ s.Tidy ∧
      s.peers.map Peer.aliases = [["offer-2", "offer-1"]] := by
  obtain ⟨h, s, hr, hc⟩ := System.exists_run_of_exec (S := officeEnv.system)
    (P := fun h s => (∀ t ∈ h, Timely t = true) ∧ s.Quiet ∧
      s.peers.map Peer.aliases = [["offer-2", "offer-1"]]) officeCall (by decide +kernel)
  obtain ⟨htimely, hquiet, haliases⟩ := of_decide_eq_true hc
  exact ⟨h, s, hr, htimely, hquiet, run_registry hr htimely s List.mem_cons_self hquiet, haliases⟩

/-- The connection fails after the offer was negotiated and before the id is registered. -/
def officeLoss : List Action :=
  let token := String.ofList (List.replicate 43 'A')
  [.offer ⟨"offer-1", officeID, officeID, token, ⟨"offer", "v=0"⟩, "", false⟩ true,
    .closePeer 0, .stepClose 0, .stepClose 0, .negotiated true, .register]

/-- **A closed peer in the map.**  Its `close` has read the aliases before there were any, and nothing
    will delete the entry. -/
theorem registered_after_close :
    ∃ h s, officeEnv.system.Run h s ∧ s.Quiet ∧ ¬ s.Tidy ∧ s.registry = [("offer-1", 0)] ∧
      s.peers.map Peer.closing = [some .done] := by
  obtain ⟨h, s, hr, hc⟩ := System.exists_run_of_exec (S := officeEnv.system)
    (P := fun _ s => s.Quiet ∧ ¬ s.Tidy ∧ s.registry = [("offer-1", 0)] ∧
      s.peers.map Peer.closing = [some .done]) officeLoss (by decide +kernel)
  exact ⟨h, s, hr, of_decide_eq_true hc⟩

end WebVPN.Agent
