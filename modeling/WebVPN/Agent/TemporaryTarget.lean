import WebVPN.Agent.Containment

namespace WebVPN.Agent

open WebVPN.Library WebVPN.Signaling

/-!
# Agent — the target of a temporary peer

Any number of `temporary_target` requests may run at the same time.  Each looks whether the target
is set, resolves its host for as long as that takes, and looks again under the lock before it
stores; meanwhile streams dial and diagnostics ping.

* `Env.Prepared` — a goroutine has resolved a target, with the answers of that moment;
* `Env.Unassigned`, `Env.Assigned` — before and after the one assignment: who has made it, and that
  only this goroutine confirms it, once;
* `Env.TargetHistory.step` — every step keeps to it;
* `run_temporaryTarget` — one confirmation, one target, and every dial goes to its addresses.
-/

/-- The answer that confirms a temporary target. -/
def Reply.confirms (reply : Reply) : Bool := reply.type = "temporary_result" && reply.code = "ok"

/-- A goroutine that is about to confirm one. -/
def Task.confirms : Task → Bool
  | .replying _ reply => reply.confirms
  | _ => false

/-- A step in which the peer confirms one. -/
def confirmsIn (p : Nat) (t : Transition Runtime Action Event) : Bool :=
  match t.event with
  | .reply q reply => q = p && reply.confirms
  | _ => false

theorem confirmsIn_eq_false {p : Nat} {t : Transition Runtime Action Event}
    (h : ∀ reply, t.event = .reply p reply → reply.confirms = false) : confirmsIn p t = false := by
  unfold confirmsIn
  split
  · rename_i q reply hevent
    by_cases hq : q = p
    · subst hq
      simp [h reply hevent]
    · simp [hq]
  · rfl

section History

variable (env : Env) (h : History) (p : Nat)

/-- Goroutine `n` of the peer has prepared the target in some step, from the request it serves and
    with the answers that the resolver and the system gave in that step. -/
def Env.Prepared (n : Nat) (target : CompiledTemporaryTarget) : Prop :=
  ∃ later w earlier peer world channel input, h = later ++ w :: earlier ∧
    w.action = .task p n world ∧ w.before.peers[p]? = some peer ∧
    peer.tasks[n]? = some (.preparing channel input) ∧
    env.policy.prepareTemporary env.platform world.answer world.localAddresses world.files
      (Env.requestedTarget peer input) = .ok target

/-- No target yet, and nobody has confirmed one or is about to. -/
structure Env.Unassigned (peer : Peer) : Prop where
  stored : peer.temporaryTarget = none
  pending : ∀ (m : Nat) task, peer.tasks[m]? = some task → task.confirms = false
  confirmed : h.countP (confirmsIn p) = 0

/-- The target of goroutine `n`.  No other goroutine confirms one, and this one does it once. -/
structure Env.Assigned (peer : Peer) (n : Nat) (target : CompiledTemporaryTarget) : Prop where
  stored : peer.temporaryTarget = some target
  prepared : env.Prepared h p n target
  pending : ∀ (m : Nat) task, peer.tasks[m]? = some task → task.confirms = true → m = n
  confirmed : ∀ t ∈ h, confirmsIn p t = true → ∃ world, t.action = .task p n world
  once : h.countP (confirmsIn p) = 0 ∨
    (h.countP (confirmsIn p) = 1 ∧ peer.tasks[n]? = some .finished)

/-- What a run has done to the target of a peer. -/
structure Env.TargetHistory (peer : Peer) : Prop where
  storing : ∀ (m : Nat) channel id target, peer.tasks[m]? = some (.storing channel id target) →
    env.Prepared h p m target
  stage : Env.Unassigned h p peer ∨ ∃ n target, env.Assigned h p peer n target

end History

section Steps

variable {env : Env} {h : History} {p n : Nat} {peer peer' : Peer}
  {t : Transition Runtime Action Event} {target : CompiledTemporaryTarget}

theorem Env.Prepared.mono (hprepared : env.Prepared h p n target) : env.Prepared (t :: h) p n target := by
  obtain ⟨later, w, earlier, peer, world, channel, input, rfl, hw⟩ := hprepared
  exact ⟨t :: later, w, earlier, peer, world, channel, input, rfl, hw⟩

/-- A peer that was just made. -/
theorem Env.TargetHistory.new (env : Env) (hquiet : h.countP (confirmsIn p) = 0) (serviceID : String)
    (digest : Digest) (temporary : Bool) :
    env.TargetHistory h p (Peer.new serviceID digest temporary) where
  storing m channel id target hm := by simp [Peer.new] at hm
  stage := .inl ⟨rfl, fun m task hm => by simp [Peer.new] at hm, hquiet⟩

/-- The goroutines go on as they were; a new one is neither storing nor confirming. -/
structure Peer.KeepsTasks (peer peer' : Peer) : Prop where
  old : ∀ (m : Nat) task, peer.tasks[m]? = some task → peer'.tasks[m]? = some task
  new : ∀ (m : Nat) task, peer'.tasks[m]? = some task → peer.tasks[m]? = some task ∨
    (task.confirms = false ∧ ∀ channel id target, task ≠ .storing channel id target)

theorem Peer.KeepsTasks.of_eq (htasks : peer'.tasks = peer.tasks) : peer.KeepsTasks peer' where
  old m task hm := by rwa [htasks]
  new m task hm := .inl (by rwa [htasks] at hm)

/-- A goroutine is started. -/
theorem Peer.KeepsTasks.append {task : Task} (htasks : peer'.tasks = peer.tasks ++ [task])
    (hconfirms : task.confirms = false)
    (hstoring : ∀ channel id target, task ≠ .storing channel id target) : peer.KeepsTasks peer' where
  old m task' hm := by
    have hlt : m < peer.tasks.length := (List.getElem?_eq_some_iff.mp hm).1
    rw [htasks, List.getElem?_append_left hlt, hm]
  new m task' hm := by
    rw [htasks] at hm
    by_cases hlt : m < peer.tasks.length
    · rw [List.getElem?_append_left hlt] at hm
      exact .inl hm
    · rw [List.getElem?_append_right (by omega), List.getElem?_singleton] at hm
      split at hm
      · obtain rfl := Option.some.inj hm
        exact .inr ⟨hconfirms, hstoring⟩
      · cases hm

/-- A step that confirms no target and stores none.  A goroutine that is new or has moved on is about to
    store only what it has prepared, and one that has finished stays so. -/
theorem Env.TargetHistory.quiet (hh : env.TargetHistory h p peer)
    (htarget : peer'.temporaryTarget = peer.temporaryTarget)
    (hnew : ∀ (m : Nat) task, peer'.tasks[m]? = some task → peer.tasks[m]? = some task ∨
      (task.confirms = false ∧ ∀ channel id target, task = .storing channel id target →
        env.Prepared (t :: h) p m target))
    (hfinished : ∀ m : Nat, peer.tasks[m]? = some .finished → peer'.tasks[m]? = some .finished)
    (hquiet : confirmsIn p t = false) : env.TargetHistory (t :: h) p peer' := by
  have hcount : (t :: h).countP (confirmsIn p) = h.countP (confirmsIn p) := by simp [hquiet]
  refine ⟨fun m channel id target hm => ?_, ?_⟩
  · rcases hnew m _ hm with hold | ⟨-, hstoring⟩
    · exact (hh.storing m channel id target hold).mono
    · exact hstoring channel id target rfl
  rcases hh.stage with hun | ⟨n, target, has⟩
  · refine .inl ⟨htarget.trans hun.stored, fun m task hm => ?_, hcount.trans hun.confirmed⟩
    rcases hnew m task hm with hold | ⟨hconfirms, -⟩
    · exact hun.pending m task hold
    · exact hconfirms
  · refine .inr ⟨n, target, htarget.trans has.stored, has.prepared.mono, fun m task hm hc => ?_,
      fun t' ht' hc => ?_, ?_⟩
    · rcases hnew m task hm with hold | ⟨hconfirms, -⟩
      · exact has.pending m task hold hc
      · rw [hc] at hconfirms
        cases hconfirms
    · rcases List.mem_cons.mp ht' with rfl | ht'
      · rw [hquiet] at hc
        cases hc
      · exact has.confirmed t' ht' hc
    · rw [hcount]
      rcases has.once with hnone | ⟨hone, hended⟩
      · exact .inl hnone
      · exact .inr ⟨hone, hfinished n hended⟩

/-- A step outside the goroutines. -/
theorem Env.TargetHistory.frame (hh : env.TargetHistory h p peer)
    (htarget : peer'.temporaryTarget = peer.temporaryTarget) (htasks : peer.KeepsTasks peer')
    (hquiet : confirmsIn p t = false) : env.TargetHistory (t :: h) p peer' := by
  refine hh.quiet htarget (fun m task hm => ?_) (fun m hm => htasks.old m _ hm) hquiet
  rcases htasks.new m task hm with hold | ⟨hconfirms, hnot⟩
  · exact .inl hold
  · exact .inr ⟨hconfirms, fun channel id target heq => absurd heq (hnot channel id target)⟩

/-- A goroutine moves on, and neither stores nor confirms. -/
theorem Env.TargetHistory.setTask (hh : env.TargetHistory h p peer) {task task' : Task}
    (hn : peer.tasks[n]? = some task) (hunfinished : task ≠ .finished)
    (htasks : peer'.tasks = peer.tasks.set n task')
    (htarget : peer'.temporaryTarget = peer.temporaryTarget) (hconfirms : task'.confirms = false)
    (hstoring : ∀ channel id target, task' = .storing channel id target →
      env.Prepared (t :: h) p n target)
    (hquiet : confirmsIn p t = false) : env.TargetHistory (t :: h) p peer' := by
  refine hh.quiet htarget (fun m current hm => ?_) (fun m hm => ?_) hquiet
  · rw [htasks] at hm
    by_cases hmn : n = m
    · subst hmn
      rw [List.getElem?_set_self (List.getElem?_eq_some_iff.mp hn).1] at hm
      obtain rfl := Option.some.inj hm
      exact .inr ⟨hconfirms, hstoring⟩
    · rw [List.getElem?_set_ne hmn] at hm
      exact .inl hm
  · -- a goroutine that has finished is not the one that moves
    have hmn : n ≠ m := by
      rintro rfl
      exact hunfinished (Option.some.inj (hn.symm.trans hm))
    rw [htasks, List.getElem?_set_ne hmn, hm]

/-- The goroutine that finds no target stores its own. -/
theorem Env.TargetHistory.store (hh : env.TargetHistory h p peer) {channel : Nat} {id : String}
    (hn : peer.tasks[n]? = some (.storing channel id target)) (hnone : peer.temporaryTarget = none)
    (htasks : peer'.tasks = peer.tasks.set n (.replying channel (.temporary id "ok")))
    (htarget : peer'.temporaryTarget = some target) (hquiet : confirmsIn p t = false) :
    env.TargetHistory (t :: h) p peer' := by
  have hprepared : env.Prepared h p n target := hh.storing n channel id target hn
  have hother : ∀ (m : Nat) current, m ≠ n → peer'.tasks[m]? = some current →
      peer.tasks[m]? = some current := by
    intro m current hmn hm
    rwa [htasks, List.getElem?_set_ne hmn.symm] at hm
  have hself : ∀ current, peer'.tasks[n]? = some current →
      current = .replying channel (.temporary id "ok") := by
    intro current hm
    rw [htasks, List.getElem?_set_self (List.getElem?_eq_some_iff.mp hn).1] at hm
    exact (Option.some.inj hm).symm
  have hun : Env.Unassigned h p peer := by
    rcases hh.stage with hun | ⟨_, _, has⟩
    · exact hun
    · rw [has.stored] at hnone
      cases hnone
  refine ⟨fun m channel' id' target' hm => ?_, .inr ⟨n, target, htarget, hprepared.mono,
    fun m task hm hc => ?_, fun t' ht' hc => ?_, .inl ?_⟩⟩
  · by_cases hmn : m = n
    · subst hmn
      cases hself _ hm
    · exact (hh.storing m channel' id' target' (hother m _ hmn hm)).mono
  · -- whoever is about to confirm is the one who has just stored
    by_contra hmn
    rw [hun.pending m task (hother m task hmn hm)] at hc
    cases hc
  · have hpos : 0 < (t :: h).countP (confirmsIn p) := List.countP_pos_iff.mpr ⟨t', ht', hc⟩
    simp [hquiet, hun.confirmed] at hpos
  · simp [hquiet, hun.confirmed]

/-- The goroutine that is about to confirm does so. -/
theorem Env.TargetHistory.confirm (hh : env.TargetHistory h p peer) {channel : Nat} {reply : Reply}
    {world : World} (hn : peer.tasks[n]? = some (.replying channel reply))
    (hconfirms : reply.confirms = true) (htasks : peer'.tasks = peer.tasks.set n .finished)
    (htarget : peer'.temporaryTarget = peer.temporaryTarget) (ht : t.action = .task p n world)
    (hevent : t.event = .reply p reply) : env.TargetHistory (t :: h) p peer' := by
  have hlt : n < peer.tasks.length := (List.getElem?_eq_some_iff.mp hn).1
  have hother : ∀ (m : Nat) current, current ≠ .finished → peer'.tasks[m]? = some current →
      peer.tasks[m]? = some current := by
    intro m current hunfinished hm
    rw [htasks] at hm
    by_cases hmn : n = m
    · subst hmn
      rw [List.getElem?_set_self hlt] at hm
      exact absurd (Option.some.inj hm).symm hunfinished
    · rwa [List.getElem?_set_ne hmn] at hm
  have hcount : (t :: h).countP (confirmsIn p) = h.countP (confirmsIn p) + 1 := by
    simp [confirmsIn, hevent, hconfirms]
  refine ⟨fun m channel' id target hm => ?_, ?_⟩
  · exact (hh.storing m channel' id target (hother m _ (by simp) hm)).mono
  rcases hh.stage with hun | ⟨k, target, has⟩
  · have hquiet : reply.confirms = false := hun.pending n _ hn
    rw [hconfirms] at hquiet
    cases hquiet
  obtain rfl : n = k := has.pending n _ hn hconfirms
  refine .inr ⟨n, target, htarget.trans has.stored, has.prepared.mono, fun m task hm hc => ?_,
    fun t' ht' hc => ?_, .inr ⟨?_, ?_⟩⟩
  · refine has.pending m task (hother m task ?_ hm) hc
    rintro rfl
    cases hc
  · rcases List.mem_cons.mp ht' with rfl | ht'
    · exact ⟨world, ht⟩
    · exact has.confirmed t' ht' hc
  · -- a first confirmation would have finished the goroutine
    rcases has.once with hnone | ⟨-, hfinished⟩
    · rw [hcount, hnone]
    · cases hn.symm.trans hfinished
  · rw [htasks, List.getElem?_set_self hlt]

theorem diagnosticCode_ne_ok (e : PolicyError) : diagnosticCode e ≠ "ok" := by
  cases e <;> simp [diagnosticCode]

/-- A temporary result with another code confirms nothing. -/
theorem Reply.confirms_temporary {id code : String} (hcode : code ≠ "ok") :
    (Reply.temporary id code).confirms = false := by
  simp [Reply.confirms, Reply.temporary, hcode]

/-- Nor does the result of a diagnostic. -/
theorem Reply.confirms_diagnostic (id code : String) (addresses : List Addr) (rtt : Option Nat) :
    ({ Reply.diagnostic id code with addresses := addresses, rtt := rtt } : Reply).confirms = false := by
  simp [Reply.confirms, Reply.diagnostic]

/-- **Goroutines.**  Each step of a goroutine continues the history. -/
theorem Env.TargetHistory.task (hh : env.TargetHistory h p peer) {task task' : Task} {world : World}
    {peer₁ : Peer} (hn : peer.tasks[n]? = some task)
    (hstep : Task.Step env p peer world task peer₁ task' t.event) (ht : t.action = .task p n world)
    (hbefore : t.before.peers[p]? = some peer) :
    env.TargetHistory (t :: h) p { peer₁ with tasks := peer₁.tasks.set n task' } := by
  obtain ⟨before, action, event⟩ := t
  obtain rfl : action = .task p n world := ht
  have hsilent : ∀ e : Event, (∀ reply, e ≠ .reply p reply) →
      confirmsIn p (⟨before, .task p n world, e⟩ : Transition Runtime Action Event) = false :=
    fun e he => confirmsIn_eq_false (fun reply heq => absurd heq (he reply))
  cases hstep with
  | configured channel input target _ =>
    exact hh.setTask hn (by simp) rfl rfl (Reply.confirms_temporary (by decide)) (by simp)
      (hsilent _ (by simp))
  | unconfigured channel input _ =>
    exact hh.setTask hn (by simp) rfl rfl rfl (by simp) (hsilent _ (by simp))
  | refused channel input e _ =>
    exact hh.setTask hn (by simp) rfl rfl (Reply.confirms_temporary (diagnosticCode_ne_ok e))
      (by simp) (hsilent _ (by simp))
  | prepared channel input target hprepare =>
    refine hh.setTask hn (by simp) rfl rfl rfl (fun channel' id target' heq => ?_)
      (hsilent _ (by simp))
    obtain ⟨rfl, rfl, rfl⟩ := Task.storing.inj heq
    exact ⟨[], _, h, peer, world, channel, input, rfl, rfl, hbefore, hn, hprepare⟩
  | late channel id target target' _ =>
    exact hh.setTask hn (by simp) rfl rfl (Reply.confirms_temporary (by decide)) (by simp)
      (hsilent _ (by simp))
  | stored channel id target hnone =>
    exact hh.store hn hnone rfl rfl (hsilent _ (by simp))
  | diagnosed channel input =>
    rcases env.runDiagnostic_cases peer channel input world.answer with
      ⟨code, addresses, heq⟩ | ⟨address, heq⟩
    · rw [heq]
      exact hh.setTask hn (by simp) rfl rfl (Reply.confirms_diagnostic input.id code addresses none)
        (by simp) (hsilent _ (by simp))
    · rw [heq]
      exact hh.setTask hn (by simp) rfl rfl rfl (by simp) (hsilent _ (by simp))
  | pinged channel id address code rtt _ =>
    exact hh.setTask hn (by simp) rfl rfl (Reply.confirms_diagnostic id code [] rtt) (by simp)
      (hsilent _ (by simp))
  | replied channel reply _ =>
    cases hconfirms : reply.confirms with
    | true => exact hh.confirm hn hconfirms rfl rfl rfl rfl
    | false =>
      refine hh.setTask hn (by simp) rfl rfl rfl (by simp) (confirmsIn_eq_false ?_)
      rintro _ ⟨⟩
      exact hconfirms
  | unsent channel reply _ =>
    cases hconfirms : reply.confirms with
    | true => exact hh.confirm hn hconfirms rfl rfl rfl rfl
    | false =>
      refine hh.setTask hn (by simp) rfl rfl rfl (by simp) (confirmsIn_eq_false ?_)
      rintro _ ⟨⟩
      exact hconfirms

end Steps

/-! ### Peers and the Agent -/

section Peers

variable {env : Env} {h : History} {p : Nat} {peer peer' : Peer}
  {s : Runtime} {a : Action} {e : Event}

/-- A control message stores nothing by itself. -/
theorem Controlled.keeps {channel : Nat} {data : List UInt8} {reply? : Option Reply}
    (h : Controlled env peer channel data (peer', reply?)) :
    peer'.temporaryTarget = peer.temporaryTarget ∧ peer.KeepsTasks peer' := by
  cases h with
  | closed => exact ⟨rfl, .of_eq rfl⟩
  | answered => exact ⟨rfl, .of_eq rfl⟩
  | diagnosing => exact ⟨rfl, .append rfl rfl (by simp)⟩
  | checking => exact ⟨rfl, .append rfl rfl (by simp)⟩

/-- **Peers.**  Each step of the peer continues its history. -/
theorem Env.TargetHistory.step (hh : env.TargetHistory h p peer) (ha : a.peer? = some p)
    (hpeer : s.peers[p]? = some peer) (hstep : peer.Step env p a peer' e) :
    env.TargetHistory (⟨s, a, e⟩ :: h) p peer' := by
  have hsilent : ∀ e : Event, (∀ reply, e ≠ .reply p reply) →
      confirmsIn p (⟨s, a, e⟩ : Transition Runtime Action Event) = false :=
    fun e he => confirmsIn_eq_false (fun reply heq => absurd heq (he reply))
  cases hstep with
  | controlled i channel isString data sent peer' _ hcontrol =>
    exact hh.frame hcontrol.keeps.1 hcontrol.keeps.2 (hsilent _ (by simp))
  | answered i channel isString data sent reply _ hcode =>
    have hquiet : confirmsIn p (⟨s, .message i channel isString data sent, .reply p reply⟩ :
        Transition Runtime Action Event) = false := by
      simp [confirmsIn, Reply.confirms, hcode]
    cases sent <;> exact hh.frame rfl (.of_eq rfl) hquiet
  | task i number world task task' peer₁ _ htask hstep =>
    obtain rfl : i = p := Option.some.inj ha
    exact hh.task htask hstep rfl hpeer
  | dialed => exact hh.frame rfl (.of_eq rfl) (hsilent _ (dialEvent_ne_reply _ _ _))
  | closeCalled i =>
    exact hh.frame peer.callClose_unmoved.temporaryTarget (.of_eq peer.callClose_unmoved.tasks)
      (hsilent _ (by simp))
  | _ => exact hh.frame rfl (.of_eq rfl) (hsilent _ (by simp))

end Peers

/-- Every peer has its history, and a peer that is still to come has confirmed nothing. -/
structure Env.TargetHistories (env : Env) (h : History) (s : Runtime) :
    Prop where
  peers : ∀ (p : Nat) peer, s.peers[p]? = some peer → env.TargetHistory h p peer
  future : ∀ p : Nat, s.peers.length ≤ p → h.countP (confirmsIn p) = 0

section Agents

variable {env : Env} {h : History} {s s' : Runtime} {a : Action}
  {e : Event}

/-- **Step lemma.** -/
theorem Env.TargetHistories.step (hh : env.TargetHistories h s) (hs : env.step s a = some (s', e)) :
    env.TargetHistories (⟨s, a, e⟩ :: h) s' := by
  have hstep := Env.step_cases hs
  -- a peer confirms in its own steps only
  have hsilent : ∀ q, a.peer? ≠ some q →
      confirmsIn q (⟨s, a, e⟩ : Transition Runtime Action Event) = false :=
    fun q hq => confirmsIn_eq_false (fun reply heq => absurd (hstep.reply_peer heq) hq)
  refine ⟨fun p peer' hget => ?_, fun p hp => ?_⟩
  · cases hstep.origin hget with
    | new serviceID digest temporary hge ha hnew =>
      subst hnew
      refine .new env ?_ serviceID digest temporary
      simp [hsilent p (by simp [ha]), hh.future p hge]
    | unmoved peer hpeer ha hsame =>
      exact (hh.peers p peer hpeer).frame hsame.temporaryTarget (.of_eq hsame.tasks) (hsilent p ha)
    | stepped peer hpeer ha hstep => exact (hh.peers p peer hpeer).step ha hpeer hstep
  · have hge : s.peers.length ≤ p := hstep.length_le.trans hp
    have ha : a.peer? ≠ some p := fun heq => absurd (hstep.peer_lt heq) (by omega)
    simp [hsilent p ha, hh.future p hge]

end Agents

/-! ### Runs -/

/-- The authority under which a browser asks for the target. -/
def Env.names (env : Env) (target : CompiledTemporaryTarget) (hostname : String) (port : UInt16) :
    Bool :=
  env.platform.unicode.equalFold hostname target.virtual &&
    port == temporaryVirtualPort target.config.kind

/-- What `DialTemporary` comes to.  Without a target it is blocked; with one it connects to the first
    of the pinned addresses, or it is blocked because the stream asks for something else. -/
def Env.DialsTarget (env : Env) (hostname : String) (port : UInt16) (outcome : Except PolicyError Dial) :
    Option CompiledTemporaryTarget → Prop
  | none => outcome = .error errBlocked
  | some target =>
    if env.names target hostname port then
      ∃ address, target.addresses.head? = some address ∧
        outcome = .ok ⟨address, target.config.port, target.tls⟩
    else outcome = .error errBlocked

/-- The stream with reference `ref` of a Wisp channel waits for a dial of this authority. -/
def Env.Asks (env : Env) (peer : Peer) (channel ref : Nat) (hostname : String) (port : UInt16) : Prop :=
  ∃ server st bytes, peer.channels[channel]? = some (.wisp server) ∧ server.table[ref]? = some st ∧
    st.connect = .dialing bytes port ∧ hostname = env.platform.unicode.runes bytes

/-- A target that was prepared has addresses. -/
theorem Env.Prepared.addresses {env : Env} {h : History} {p n : Nat}
    {target : CompiledTemporaryTarget} (hprepared : env.Prepared h p n target) :
    ∃ address, target.addresses.head? = some address := by
  obtain ⟨_, _, _, _, _, _, _, -, -, -, -, hprepare⟩ := hprepared
  obtain ⟨temporary, own, hchecked⟩ := Policy.prepareTemporary_prepared hprepare
  obtain ⟨hne, -⟩ := resolveHost_checked hchecked.resolved
  exact ⟨target.addresses.head hne, List.head?_eq_some_head hne⟩

theorem Env.serviceDial_temporary (env : Env) {peer : Peer} (htemporary : peer.temporary = true)
    (haddresses : ∀ target, peer.temporaryTarget = some target →
      ∃ address, target.addresses.head? = some address)
    (answer : Option (List Addr)) (hostname : String) (port : UInt16) :
    env.DialsTarget hostname port (env.serviceDial peer answer hostname port) peer.temporaryTarget := by
  rw [Env.serviceDial, if_pos htemporary]
  cases htarget : peer.temporaryTarget with
  | none => rfl
  | some target =>
    obtain ⟨address, hhead⟩ := haddresses target htarget
    cases hnames : env.names target hostname port with
    | false =>
      have hother : env.platform.unicode.equalFold hostname target.virtual = false ∨
          port ≠ temporaryVirtualPort target.config.kind := by
        simpa [Env.names, Classical.or_iff_not_imp_left] using hnames
      simp [Env.DialsTarget, hnames, Policy.dialTemporary, hother]
    | true =>
      obtain ⟨hfold, rfl⟩ : env.platform.unicode.equalFold hostname target.virtual = true ∧
          port = temporaryVirtualPort target.config.kind := by
        simpa [Env.names] using hnames
      simp [Env.DialsTarget, hnames, Policy.dialTemporary, hfold, hhead]

/-- The peer has this target. -/
def HasTarget (p : Nat) (target : CompiledTemporaryTarget) (s : Runtime) : Prop :=
  ∃ peer, s.peers[p]? = some peer ∧ peer.temporaryTarget = some target

section Runs

variable {env : Env} {h : History} {s : Runtime}

theorem run_targetHistories (hr : env.system.Run h s) : env.TargetHistories h s := by
  refine hr.history_invariant (P := fun h s => env.TargetHistories h s) ⟨?_, ?_⟩ ?_
  · intro p peer hpeer
    cases hpeer
  · exact fun p _ => rfl
  · exact fun h s a s' e _ hh hs => hh.step hs

/-- A target stays. -/
theorem Peer.Step.target {index : Nat} {peer peer' : Peer} {a : Action} {e : Event}
    {target : CompiledTemporaryTarget} (h : peer.Step env index a peer' e)
    (htarget : peer.temporaryTarget = some target) : peer'.temporaryTarget = some target := by
  cases h with
  | controlled i channel isString data sent peer' _ hcontrol => exact hcontrol.keeps.1.trans htarget
  | answered i channel isString data sent reply _ _ => cases sent <;> exact htarget
  | task i number world task task' peer₁ e _ hstep =>
    cases hstep with
    | stored channel id target' hnone =>
      rw [hnone] at htarget
      cases htarget
    | _ => exact htarget
  | closeCalled i => exact peer.callClose_unmoved.temporaryTarget.trans htarget
  | _ => exact htarget

theorem Env.step_target {s s' : Runtime} {a : Action} {e : Event} {p : Nat}
    {target : CompiledTemporaryTarget} (htarget : HasTarget p target s)
    (hs : env.step s a = some (s', e)) : HasTarget p target s' := by
  obtain ⟨peer, hpeer, htarget⟩ := htarget
  obtain ⟨peer', hpeer', hsame | hstep⟩ := (Env.step_cases hs).next hpeer
  · exact ⟨peer', hpeer', hsame.temporaryTarget.trans htarget⟩
  · exact ⟨peer', hpeer', hstep.target htarget⟩

/-- What a run makes of the target of a peer. -/
structure Env.TargetSetOnce (env : Env) (h : History) (s : Runtime)
    (p : Nat) : Prop where
  /-- At most one request is confirmed, and then there is a target. -/
  once : h.countP (confirmsIn p) ≤ 1
  confirmed : ∀ t ∈ h, confirmsIn p t = true → ∃ target, HasTarget p target s
  /-- The target was prepared for one request, and a confirmation is for that request. -/
  prepared : ∀ target, HasTarget p target s → ∃ n, env.Prepared h p n target ∧
    ∀ t ∈ h, confirmsIn p t = true → ∃ world, t.action = .task p n world
  /-- It never changes. -/
  kept : ∀ h₁ t h₂ target, h = h₁ ++ t :: h₂ → HasTarget p target t.before → HasTarget p target s
  /-- The dials of a temporary peer go by the target it has in that moment. -/
  dials : ∀ t ∈ h, ∀ peer channel ref answer network, t.before.peers[p]? = some peer →
    peer.temporary = true → t.action = .dial p channel ref answer network →
    ∃ hostname port outcome, env.Asks peer channel ref hostname port ∧
      env.DialsTarget hostname port outcome peer.temporaryTarget ∧ t.event = Env.dialEvent p outcome

/-- **A temporary target is set once.** -/
theorem run_temporaryTarget (hr : env.system.Run h s) (p : Nat) : env.TargetSetOnce h s p := by
  have hh := run_targetHistories hr
  refine ⟨?_, fun t ht hc => ?_, fun target htarget => ?_, fun h₁ t h₂ target heq htarget => ?_,
    fun t ht peer channel ref answer network hpeer htemporary haction => ?_⟩
  · by_cases hlt : p < s.peers.length
    · rcases (hh.peers p _ (List.getElem?_eq_getElem hlt)).stage with hun | ⟨n, target, has⟩
      · rw [hun.confirmed]
        exact Nat.zero_le 1
      · rcases has.once with hnone | ⟨hone, -⟩
        · rw [hnone]
          exact Nat.zero_le 1
        · exact hone.le
    · rw [hh.future p (by omega)]
      exact Nat.zero_le 1
  · have hpos : 0 < h.countP (confirmsIn p) := List.countP_pos_iff.mpr ⟨t, ht, hc⟩
    have hlt : p < s.peers.length := by
      by_contra hge
      rw [hh.future p (by omega)] at hpos
      exact absurd hpos (by omega)
    have hpeer := List.getElem?_eq_getElem hlt
    rcases (hh.peers p _ hpeer).stage with hun | ⟨n, target, has⟩
    · rw [hun.confirmed] at hpos
      exact absurd hpos (by omega)
    · exact ⟨target, _, hpeer, has.stored⟩
  · obtain ⟨peer, hpeer, hstored⟩ := htarget
    rcases (hh.peers p peer hpeer).stage with hun | ⟨n, target', has⟩
    · rw [hun.stored] at hstored
      cases hstored
    · obtain rfl : target' = target := Option.some.inj (has.stored.symm.trans hstored)
      exact ⟨n, has.prepared, has.confirmed⟩
  · subst heq
    exact hr.stable (fun s a s' e hs hstep => Env.step_target hs hstep) htarget
  · obtain ⟨h₁, h₂, rfl⟩ := List.append_of_mem ht
    obtain ⟨hr₂, s', hs⟩ := hr.split
    -- the target the peer has now was prepared, so it has an address
    have haddresses : ∀ target, peer.temporaryTarget = some target →
        ∃ address, target.addresses.head? = some address := by
      intro target htarget
      rcases ((run_targetHistories hr₂).peers p peer hpeer).stage with hun | ⟨n, target', has⟩
      · rw [hun.stored] at htarget
        cases htarget
      · obtain rfl : target' = target := Option.some.inj (has.stored.symm.trans htarget)
        exact has.prepared.addresses
    obtain ⟨before, action, event⟩ := t
    obtain rfl : action = .dial p channel ref answer network := haction
    have hs' : env.step before (.dial p channel ref answer network) = some (s', event) := hs
    cases Env.step_cases hs' with
    | stepped index current current' _ _ hindex hcurrent hstep =>
      obtain rfl : p = index := Option.some.inj hindex
      obtain rfl : peer = current := Option.some.inj (hpeer.symm.trans hcurrent)
      cases hstep with
      | dialed _ _ _ _ _ server server' st bytes port hchannel hst hconnect _ =>
        exact ⟨_, port, _, ⟨server, st, bytes, hchannel, hst, hconnect, rfl⟩,
          env.serviceDial_temporary htemporary haddresses answer _ _, rfl⟩

end Runs

/-! An Agent that accepts temporary targets in 10.0.0.0/8. -/

/-- A configuration that allows temporary targets. -/
def visitorConfig : Config := { officeConfig with temporary := some ⟨["10.0.0.0/8"], [8080], []⟩ }

/-- The control message that this Agent reads from any data. -/
def visitorRequest : ControlInput := ⟨"temporary_target", "1", "", "printer.lan", 8080, "http"⟩

/-- Every control message is this request. -/
def visitorEnv : Env :=
  { Env.ofConfig officePlatform officeFiles visitorConfig with decodeControl _ := some visitorRequest }

/-- Two requests for one name run at the same time, and the resolver answers each differently.  The
    first stream dials before there is a target, the second one afterwards. -/
def visitorRace : List Action :=
  let token := String.ofList (List.replicate 43 'A')
  let authority := (virtualHostname officeID).toUTF8.data.toList
  let auth := ("webvpn-auth-v1:" ++ token).toUTF8.data.toList
  let connect (stream : UInt32) : List UInt8 :=
    Wisp.Frame.packet ⟨Wisp.packetConnect, stream, [Wisp.streamTCP, 80, 0] ++ authority⟩
  let world (answer : Addr) : World := ⟨some [answer], some [], officeFiles, none, true⟩
  [.offer ⟨"offer-1", officeID, officeID, token, ⟨"offer", "v=0"⟩, "", true⟩ true,
    .negotiated true, .register,
    .channel 0 controlLabel true, .message 0 0 true auth true,
    .channel 0 "wisp-interactive-v2" true, .message 0 1 true auth true,
    .message 0 1 true authenticatedReady true, .wisp 0 1 (.handle true),
    .message 0 1 false (Wisp.Frame.packet ⟨Wisp.packetInfo, 0, [2, 0]⟩) true,
    .wisp 0 1 (.handle true),
    .message 0 0 true [] true, .message 0 0 true [] true,
    .task 0 0 (world (.v4 0x0a000005#32)), .task 0 1 (world (.v4 0x0a000006#32)),
    .task 0 0 (world (.v4 0x0a000005#32)), .task 0 1 (world (.v4 0x0a000006#32)),
    .message 0 1 false (connect 1) true, .wisp 0 1 (.handle true), .dial 0 1 0 none (some 7),
    .task 0 1 (world (.v4 0x0a000006#32)), .task 0 0 (world (.v4 0x0a000005#32)),
    .task 0 1 (world (.v4 0x0a000006#32)), .task 0 0 (world (.v4 0x0a000005#32)),
    .message 0 1 false (connect 2) true, .wisp 0 1 (.handle true),
    .dial 0 1 1 (some [.v4 0x0a000005#32]) (some 8)]

/-- The second request stores first, and what it has resolved is what is dialed. -/
theorem run_temporaryTarget_of_race :
    ∃ h s, visitorEnv.system.Run h s ∧ visitorEnv.TargetSetOnce h s 0 ∧
      h.countP (confirmsIn 0) = 1 ∧
      (h.head?.map Transition.event) = some (.dial 0 ⟨.v4 0x0a000006#32, 8080, none⟩) := by
  obtain ⟨h, s, hr, hc⟩ := System.exists_run_of_exec (S := visitorEnv.system)
    (P := fun h _ => h.countP (confirmsIn 0) = 1 ∧
      (h.head?.map Transition.event) = some (.dial 0 ⟨.v4 0x0a000006#32, 8080, none⟩))
    visitorRace (by decide +kernel)
  exact ⟨h, s, hr, run_temporaryTarget hr 0, of_decide_eq_true hc⟩

end WebVPN.Agent
