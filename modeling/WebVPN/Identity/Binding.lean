import WebVPN.Identity.Calls

namespace WebVPN.Identity

open WebVPN.Library WebVPN.Storage IdentityStore

/-!
# Identity — one Agent for each code

A binding code is used up and an Agent is inserted in one transaction, which may fail at any of its
statements; codes are raced for, and a key may be registered already.

* `exec_bound` — what a statement does to the codes and the Agents;
* `bind_trace`, `redeem_trace`, `saveCode_trace` — the statements of the calls;
* `Correspondence` — used codes and Agents, one to one;
* `run_binding` — the correspondence in every state that is reached, where a code comes from, and
  that a `Bind` that fails changes nothing.
-/

/-! ### What a statement does -/

/-- A code that is used up. -/
def Redeemed (digest : Digest) (s : State) : Prop :=
  ∃ row, s.store.codes.find? digest = some row ∧ row.consumedAt ≠ none

/-- The row of a new Agent. -/
def Agent.row (agent : Agent) : AgentRow :=
  ⟨agent.id, agent.displayName, agent.publicKey, .active, unix agent.createdAt⟩

/-- The code that a statement has used up, and the Agent that it has inserted. -/
def boundBy : (statement : Statement) × Response statement → List (Digest × Agent)
  | ⟨.consumeBindingCode digest agent _ _, .ok ()⟩ => [(digest, agent)]
  | _ => []

/-- The codes and the Agents are as they were. -/
def SameBindings (s s' : State) : Prop :=
  s'.store.agents = s.store.agents ∧ ∀ digest, Redeemed digest s' ↔ Redeemed digest s

/-- One more code is used up, and there is one more Agent. -/
def OneMore (digest : Digest) (agent : Agent) (s s' : State) : Prop :=
  s'.store.agents.rows = agent.row :: s.store.agents.rows ∧ ¬ Redeemed digest s ∧
    ∀ digest', Redeemed digest' s' ↔ digest' = digest ∨ Redeemed digest' s

theorem SameBindings.rfl {s : State} : SameBindings s s := ⟨.refl _, fun _ => .rfl⟩

/-- A new code is not used. -/
theorem saveCode_same {s : State} {row : CodeRow} (hunused : row.consumedAt = none)
    (hfree : s.store.codes.find? row.digest = none) :
    SameBindings s { s with store := { s.store with codes := s.store.codes.cons row hfree } } := by
  refine ⟨.refl _, fun digest => ⟨?_, ?_⟩⟩
  · rintro ⟨row', hrow', hused⟩
    rw [Table.find?_cons] at hrow'
    split at hrow'
    · cases hrow'
      exact absurd hunused hused
    · exact ⟨row', hrow', hused⟩
  · rintro ⟨row', hrow', hused⟩
    exact ⟨row', Table.find?_cons_of_some hrow' row hfree, hused⟩

/-- The update of the transaction, for a code that is not used. -/
theorem redeemCode_redeemed {s s' : State} {digest : Digest} {now : Int} {row : CodeRow}
    (hcodes : s'.store.codes = (s.store.redeemCode digest now).1.codes)
    (hrow : s.store.codes.find? digest = some row) (hunused : row.consumedAt = none)
    (hlive : unix now < row.expiresAt) (digest' : Digest) :
    Redeemed digest' s' ↔ digest' = digest ∨ Redeemed digest' s := by
  unfold Redeemed
  rw [hcodes]
  by_cases hdigest : digest' = digest
  · subst hdigest
    have hmatch : redeemable digest' now row = true := by
      simp only [redeemable, Bool.and_eq_true, decide_eq_true_eq]
      exact ⟨⟨Table.key_of_find? hrow, hunused⟩, hlive⟩
    refine ⟨fun _ => .inl rfl, fun _ => ⟨{ row with consumedAt := some (unix now) }, ?_, by simp⟩⟩
    simp only [redeemCode, Table.find?_update, hrow, Option.map_some, if_pos hmatch]
  · simp only [redeemCode, hdigest, false_or]
    rw [Table.find?_update_of_ne _ _ _ (fun _ => redeemable_digest) hdigest]

/-- **One statement.**  It is the transaction of a `Bind` and has bound an Agent, or the codes and the
    Agents are as they were. -/
theorem exec_bound (statement : Statement) (s : State) :
    (boundBy ⟨statement, (exec statement s).2⟩ = [] ∧ SameBindings s (exec statement s).1) ∨
    ∃ digest agent, boundBy ⟨statement, (exec statement s).2⟩ = [(digest, agent)] ∧
      OneMore digest agent s (exec statement s).1 := by
  cases statement with
  | clock => exact .inl ⟨rfl, .rfl⟩
  | agentPublicKey agentID => exact .inl ⟨rfl, .rfl⟩
  | saveNonce agentID digest expiresAt =>
    refine .inl ⟨rfl, ?_⟩
    simp only [exec, State.on]
    rcases saveNonce_cases s.store agentID digest expiresAt with ⟨e, heq⟩ | ⟨hfree, heq⟩
    · rw [heq]
      exact .rfl
    · rw [heq]
      exact .rfl
  | consumeNonce agentID digest now => exact .inl ⟨rfl, .rfl⟩
  | saveBindingCode digest expiresAt createdAt =>
    refine .inl ⟨rfl, ?_⟩
    simp only [exec, State.on]
    rcases saveBindingCode_cases s.store digest expiresAt createdAt with ⟨e, heq⟩ | ⟨hfree, heq⟩
    · rw [heq]
      exact .rfl
    · rw [heq]
      exact saveCode_same rfl hfree
  | consumeBindingCode digest agent now failure =>
    simp only [exec, State.on]
    rcases consumeBindingCode_cases s.store digest agent now failure with
      ⟨e, heq⟩ | ⟨row, hnew, hrow, hunused, hlive, heq⟩
    · rw [heq]
      exact .inl ⟨rfl, .rfl⟩
    · rw [heq]
      refine .inr ⟨digest, agent, rfl, rfl, ?_, ?_⟩
      · rintro ⟨row', hrow', hused⟩
        cases hrow.symm.trans hrow'
        exact hused hunused
      · exact redeemCode_redeemed rfl hrow hunused hlive

/-! ### The statements of the calls -/

section Traces

variable {p : Primitives} {l : List ((s : Statement) × Response s)}

/-- How `Bind` ends: at a check of its own, or with the transaction. -/
theorem bind_trace {code displayName : String} {publicKey : List UInt8} {raw : Vector UInt8 16}
    {failure : Option TxStatement} {outcome : Except BindError Agent}
    (h : Program.Trace ((Call.bind code displayName publicKey raw failure).program p) l
      (.ret (.bound outcome))) :
    (∃ e, outcome = .error e ∧ l = []) ∨
    ∃ digest agent now response, l = [⟨.clock, now⟩,
        ⟨.consumeBindingCode digest agent now failure, response⟩] ∧
      ((response = .ok () ∧ outcome = .ok agent) ∨
        ∃ e e', response = .error e ∧ outcome = .error e') := by
  obtain ⟨l₁, l₂, outcome', rfl, h₁, h₂⟩ := Program.Trace.of_bind h
  obtain ⟨rfl, heq⟩ := Program.Trace.of_ret h₂
  cases heq
  rw [List.append_nil]
  unfold bindProgram at h₁
  -- a check that fails ends the call before the first statement
  have hchecked : ∀ {e : BindError}, Program.Trace (pure (.error e)) l₁ (.ret outcome) →
      ∃ e, outcome = .error e ∧ l₁ = [] := by
    intro e hend
    obtain ⟨rfl, hret⟩ := Program.Trace.of_ret hend
    cases hret
    exact ⟨e, rfl, rfl⟩
  split at h₁
  · exact .inl (hchecked h₁)
  · rename_i digest _
    split at h₁
    · exact .inl (hchecked h₁)
    · split at h₁
      · exact .inl (hchecked h₁)
      · obtain ⟨now, l₂, rfl, hclock⟩ := Program.Trace.of_call h₁
        obtain ⟨response, l₃, rfl, hend⟩ := Program.Trace.of_call hclock
        refine .inr ⟨digest, _, now, response, ?_⟩
        rcases response with (_ | _ | _ | _) | _
        all_goals
          obtain ⟨rfl, hret⟩ := Program.Trace.of_ret hend
          cases hret
        · exact ⟨rfl, .inr ⟨_, _, rfl, rfl⟩⟩
        · exact ⟨rfl, .inr ⟨_, _, rfl, rfl⟩⟩
        · exact ⟨rfl, .inr ⟨_, _, rfl, rfl⟩⟩
        · exact ⟨rfl, .inr ⟨_, _, rfl, rfl⟩⟩
        · exact ⟨rfl, .inl ⟨rfl, rfl⟩⟩

/-- **A code is used up by a `Bind`** that was given it, and has read the clock. -/
theorem redeem_trace {call : Call} {digest : Digest} {agent : Agent} {now : Int}
    {failure : Option TxStatement}
    {next : Response (.consumeBindingCode digest agent now failure) → Program Response Answer}
    (h : Program.Trace (call.program p) l (.call (.consumeBindingCode digest agent now failure) next)) :
    ∃ code displayName publicKey raw, call = .bind code displayName publicKey raw failure ∧
      bindingDigest p code = some digest ∧ l = [⟨.clock, now⟩] := by
  have hmakes := (program_only p call).of_trace h
  cases call with
  | bind code displayName publicKey raw failure' =>
    simp only [Call.program, bindProgram] at h
    split at h
    · exact absurd h Program.Trace.not_to_call
    · rename_i digest' hdigest
      split at h
      · exact absurd h Program.Trace.not_to_call
      · split at h
        · exact absurd h Program.Trace.not_to_call
        · rcases Program.Trace.to_call h with ⟨-, hclock⟩ | ⟨now', l₁, rfl, hredeem⟩
          · cases hclock
          rcases Program.Trace.to_call hredeem with ⟨rfl, heq⟩ | ⟨response, l₂, rfl, hend⟩
          · cases heq
            exact ⟨code, displayName, publicKey, raw, rfl, hdigest, rfl⟩
          · rcases response with (_ | _ | _ | _) | _ <;> exact absurd hend Program.Trace.not_to_call
  | _ => simp [Call.makes] at hmakes

/-- **A code is saved by an `Issue`** that has drawn it. -/
theorem saveCode_trace {call : Call} {digest : Digest} {expiresAt createdAt : Int}
    {next : Response (.saveBindingCode digest expiresAt createdAt) → Program Response Answer}
    (h : Program.Trace (call.program p) l (.call (.saveBindingCode digest expiresAt createdAt) next)) :
    ∃ raw issuedAt, call = .issueCode raw ∧ bindingDigest p (encodeRaw raw.toList) = some digest ∧
      expiresAt = issuedAt + defaultTTL ∧ createdAt = issuedAt ∧ l = [⟨.clock, issuedAt⟩] := by
  have hmakes := (program_only p call).of_trace h
  cases call with
  | issueCode raw =>
    simp only [Call.program, issueCodeProgram] at h
    split at h
    · exact absurd h Program.Trace.not_to_call
    · rename_i digest' hdigest
      rcases Program.Trace.to_call h with ⟨-, hclock⟩ | ⟨issuedAt, l₁, rfl, hsave⟩
      · cases hclock
      rcases Program.Trace.to_call hsave with ⟨rfl, heq⟩ | ⟨response, l₂, rfl, hend⟩
      · cases heq
        exact ⟨raw, _, rfl, hdigest, rfl, rfl, rfl⟩
      · cases response <;> exact absurd hend Program.Trace.not_to_call
  | _ => simp [Call.makes] at hmakes

end Traces

/-! ### Interleavings -/

section Runs

variable {p : Primitives} {start : Int} {h later earlier : History}
  {t : Taken}
  {pool : Pool Response Call Answer State} {failure : Option TxStatement} {digest : Digest}
  {agent : Agent}

/-- The codes used up in a run, each with the Agent that was inserted. -/
def bindings (h : History) : List (Digest × Agent) :=
  System.collect (fun t => t.event.elim [] (fun e => boundBy e.2)) h

/-- **One to one.**  No code is listed twice and no Agent is, the listed codes are the used ones, and
    the listed Agents are the rows of the table. -/
structure Correspondence (h : History) (s : State) : Prop where
  codes : ((bindings h).map Prod.fst).Nodup
  agentIDs : ((bindings h).map (fun binding => binding.2.id)).Nodup
  redeemed : ∀ digest, digest ∈ (bindings h).map Prod.fst ↔ Redeemed digest s
  agents : s.store.agents.rows = ((bindings h).map (fun binding => binding.2.row)).reverse

/-- A step that binds nothing. -/
theorem Correspondence.same {s s' : State} (hc : Correspondence h s) (hbound : bindings (t :: h) = bindings h)
    (hsame : SameBindings s s') : Correspondence (t :: h) s' := by
  obtain ⟨hagents, hredeemed⟩ := hsame
  refine ⟨?_, ?_, fun digest => ?_, ?_⟩
  · rw [hbound]
    exact hc.codes
  · rw [hbound]
    exact hc.agentIDs
  · rw [hbound, hredeemed]
    exact hc.redeemed digest
  · rw [hbound, hagents]
    exact hc.agents

/-- A step that binds an Agent. -/
theorem Correspondence.more {s s' : State} (hc : Correspondence h s)
    (hbound : bindings (t :: h) = bindings h ++ [(digest, agent)])
    (hmore : OneMore digest agent s s') : Correspondence (t :: h) s' := by
  obtain ⟨hagents, hfresh, hredeemed⟩ := hmore
  -- the IDs of the Agents are unique because they are the key of the table
  have hrows : s'.store.agents.rows =
      ((bindings (t :: h)).map (fun binding => binding.2.row)).reverse := by
    rw [hagents, hbound, hc.agents]
    simp
  have hids : ((bindings (t :: h)).map (fun binding => binding.2.id)).reverse =
      s'.store.agents.rows.map AgentRow.id := by
    rw [hrows, List.map_reverse, List.map_map]
    rfl
  refine ⟨?_, ?_, fun digest' => ?_, hrows⟩
  · rw [hbound, List.map_append, List.nodup_append]
    refine ⟨hc.codes, List.nodup_singleton _, ?_⟩
    rintro digest' hmem _ hlast rfl
    rw [List.mem_singleton.mp hlast] at hmem
    exact hfresh ((hc.redeemed digest).mp hmem)
  · rw [← List.nodup_reverse, hids]
    exact s'.store.agents.nodup
  · rw [hbound, hredeemed, ← hc.redeemed]
    simp [or_comm]

theorem run_correspondence (hr : (identitySystem p start).Run h pool) :
    Correspondence h pool.shared := by
  refine hr.history_invariant (P := fun h pool => Correspondence h pool.shared) ?_ ?_
  · refine ⟨List.nodup_nil, List.nodup_nil, fun digest => ⟨nofun, ?_⟩, rfl⟩
    rintro ⟨row, hempty, -⟩
    cases hempty
  intro h pool a pool' e _ ih hs
  have hstep : bindings (⟨pool, a, e⟩ :: h) = bindings h ++ e.elim [] (fun e => boundBy e.2) :=
    System.collect_cons _ _ _
  rcases Machine.step_shared hs with ⟨i, statement, rfl, hshared⟩ | ⟨rfl, hsame | ⟨d, hdrift⟩⟩
  · rw [hshared]
    rcases exec_bound statement pool.shared with ⟨hnone, hsame⟩ | ⟨digest, agent, hone, hmore⟩
    · refine ih.same ?_ hsame
      rw [hstep]
      show bindings h ++ boundBy ⟨statement, (exec statement pool.shared).2⟩ = bindings h
      rw [hnone, List.append_nil]
    · refine ih.more ?_ hmore
      rw [hstep]
      show bindings h ++ boundBy ⟨statement, (exec statement pool.shared).2⟩ = _
      rw [hone]
  · rw [hsame]
    exact ih.same (by rw [hstep]; simp) .rfl
  · rw [hdrift]
    exact ih.same (by rw [hstep]; simp) .rfl

/-- The store has a code with this expiry. -/
def HasCode (digest : Digest) (expires : Int) (s : State) : Prop :=
  ∃ row, s.store.codes.find? digest = some row ∧ row.expiresAt = expires

/-- The statement has saved it. -/
def SavesCode (digest : Digest) (expires : Int) (x : (statement : Statement) × Response statement) :
    Prop :=
  ∃ expiresAt createdAt, x = ⟨.saveBindingCode digest expiresAt createdAt, .ok ()⟩ ∧
    expires = unix expiresAt

/-- A code in the store was there before, with the same expiry, or it has just been saved. -/
theorem Effect.code {s s' : State} {x : (statement : Statement) × Response statement}
    (h : Effect s x s') {expires : Int} (hcode : HasCode digest expires s') :
    HasCode digest expires s ∨ SavesCode digest expires x := by
  obtain ⟨row, hrow, rfl⟩ := hcode
  cases h with
  | codeSaved digest' expiresAt createdAt hfree =>
    rw [Table.find?_cons] at hrow
    by_cases hdigest : digest' = digest
    · subst hdigest
      rw [if_pos rfl] at hrow
      cases hrow
      exact .inr ⟨expiresAt, createdAt, rfl, rfl⟩
    · rw [if_neg hdigest] at hrow
      exact .inl ⟨row, hrow, rfl⟩
  | agentBound digest' agent now failure row' hnew _ _ _ =>
    rw [redeemCode, Table.find?_update, Option.map_eq_some_iff] at hrow
    obtain ⟨old, hold, rfl⟩ := hrow
    refine .inl ⟨old, hold, ?_⟩
    split <;> rfl
  | _ => exact .inl ⟨row, hrow, rfl⟩

/-- **Where a binding comes from.**  The code was in the store, not used and not expired; it is the
    code that the `Bind` was given, and an earlier `Issue` has saved it. -/
structure Provenance (p : Primitives)
    (t : Taken)
    (earlier : History) (i : Nat) (digest : Digest) (now : Int) (failure : Option TxStatement) :
    Prop where
  live : ∃ row, t.before.shared.store.codes.find? digest = some row ∧ row.consumedAt = none ∧
    unix now < row.expiresAt
  bind : ∃ code displayName publicKey raw rest, t.before.threads[i]? =
      some ⟨.bind code displayName publicKey raw failure, rest⟩ ∧
    bindingDigest p code = some digest ∧ Machine.executed earlier i = [⟨.clock, now⟩]
  issue : ∃ between w before j raw rest issuedAt, earlier = between ++ w :: before ∧
    w.before.threads[j]? = some ⟨.issueCode raw, rest⟩ ∧
    bindingDigest p (encodeRaw raw.toList) = some digest ∧
    Machine.executed before j = [⟨.clock, issuedAt⟩] ∧
    w.event = some (j, ⟨.saveBindingCode digest (issuedAt + defaultTTL) issuedAt, .ok ()⟩) ∧
    now < issuedAt + defaultTTL

theorem run_redeemed (hr : (identitySystem p start).Run (later ++ t :: earlier) pool) {i : Nat}
    {now : Int}
    (ht : t.event = some (i, ⟨.consumeBindingCode digest agent now failure, .ok ()⟩)) :
    Provenance p t earlier i digest now failure := by
  have hok : (t.before.shared.store.consumeBindingCode digest agent now failure).2 = .ok () :=
    Machine.run_executed hr ht
  rcases consumeBindingCode_cases t.before.shared.store digest agent now failure with
    ⟨e, heq⟩ | ⟨row, -, hrow, hunused, hlive, -⟩
  · rw [heq] at hok
    cases hok
  obtain ⟨call, next, hi, htrace⟩ := Machine.run_statement hr ht
  obtain ⟨code, displayName, publicKey, raw, rfl, hdigest, hclock⟩ := redeem_trace htrace
  refine ⟨⟨row, hrow, hunused, hlive⟩,
    ⟨code, displayName, publicKey, raw, _, hi, hdigest, hclock⟩, ?_⟩
  -- the code came into the store in an earlier step
  have hbefore := (System.Run.split hr).1
  have hnone : ¬ HasCode digest row.expiresAt ⟨start, emptyStore⟩ := by
    rintro ⟨_, hempty, -⟩
    cases hempty
  obtain ⟨between, w, before, j, e, rfl, hw, expiresAt, createdAt, rfl, hexpires⟩ :=
    Machine.run_origin hbefore hnone (Q := SavesCode digest row.expiresAt)
      (fun statement s => (exec_effect statement s).code) (fun _ _ hcode => hcode) ⟨row, hrow, rfl⟩
  obtain ⟨call', next', hj, htrace'⟩ := Machine.run_statement hbefore hw
  obtain ⟨raw', issuedAt, rfl, hdigest', rfl, rfl, hclock'⟩ := saveCode_trace htrace'
  rw [hexpires] at hlive
  exact ⟨between, w, before, j, raw', _, createdAt, rfl, hj, hdigest', hclock', hw,
    lt_of_unix_lt hlive⟩

/-- A `Bind` that ends with an error has changed nothing. -/
theorem run_bind_error (hr : (identitySystem p start).Run h pool) {i : Nat}
    {code displayName : String} {publicKey : List UInt8} {raw : Vector UInt8 16}
    {e : BindError}
    (hthread : pool.threads[i]? = some ⟨.bind code displayName publicKey raw failure,
      some (.ret (.bound (.error e)))⟩) {x : (s : Statement) × Response s}
    (hsplit : h = later ++ t :: earlier) (ht : t.event = some (i, x)) :
    (exec x.1 t.before.shared).1 = t.before.shared := by
  have hmem : x ∈ Machine.executed h i := by
    rw [hsplit]
    exact Machine.executed_mem ht
  have hresponse : (exec x.1 t.before.shared).2 = x.2 := by
    rw [hsplit] at hr
    exact Machine.run_executed hr ht
  rcases bind_trace (Machine.run_trace hr hthread) with ⟨e', -, hnone⟩ |
    ⟨digest, agent, now, response, hexecuted, ⟨-, hok⟩ | ⟨e₁, -, rfl, -⟩⟩
  · rw [hnone] at hmem
    cases hmem
  · cases hok
  · rw [hexecuted, List.mem_pair] at hmem
    rcases hmem with rfl | rfl
    · rfl
    · -- the transaction has failed, and was rolled back
      rcases consumeBindingCode_cases t.before.shared.store digest agent now failure with
        ⟨e₂, heq⟩ | ⟨row, hnew, -, -, -, heq⟩
      · simp only [exec, State.on, heq]
      · simp only [exec, State.on, heq] at hresponse
        cases hresponse

/-- A `Bind` that succeeds has bound the Agent that it returns. -/
theorem run_bind_ok (hr : (identitySystem p start).Run h pool) {i : Nat}
    {code displayName : String} {publicKey : List UInt8} {raw : Vector UInt8 16}
    (hthread : pool.threads[i]? = some ⟨.bind code displayName publicKey raw failure,
      some (.ret (.bound (.ok agent)))⟩) : ∃ digest, (digest, agent) ∈ bindings h := by
  rcases bind_trace (Machine.run_trace hr hthread) with ⟨e', herror, -⟩ |
    ⟨digest, agent', now, response, hexecuted, ⟨rfl, hok⟩ | ⟨e₁, e₂, -, herror⟩⟩
  · cases herror
  · cases hok
    have hlast : ⟨.consumeBindingCode digest agent now failure, .ok ()⟩ ∈ Machine.executed h i := by
      rw [hexecuted]
      simp
    obtain ⟨later, t, earlier, rfl, ht⟩ := Machine.mem_executed hlast
    refine ⟨digest, List.mem_flatMap.mpr ⟨t, by simp, ?_⟩⟩
    rw [ht]
    exact List.mem_singleton_self _
  · cases herror

/-- **Binding is atomic and single-use.**  In every interleaving: used codes and Agents correspond one
    to one; every binding has used an issued code before its expiry; a `Bind` that fails has changed
    nothing, and one that succeeds has bound its Agent. -/
theorem run_binding (hr : (identitySystem p start).Run h pool) :
    Correspondence h pool.shared ∧
    (∀ later t earlier i digest agent now failure, h = later ++ t :: earlier →
      t.event = some (i, ⟨.consumeBindingCode digest agent now failure, .ok ()⟩) →
      Provenance p t earlier i digest now failure) ∧
    (∀ (i : Nat) code displayName publicKey raw failure e, pool.threads[i]? =
        some ⟨.bind code displayName publicKey raw failure, some (.ret (.bound (.error e)))⟩ →
      ∀ later t earlier x, h = later ++ t :: earlier → t.event = some (i, x) →
        (exec x.1 t.before.shared).1 = t.before.shared) ∧
    ∀ (i : Nat) code displayName publicKey raw failure agent, pool.threads[i]? =
        some ⟨.bind code displayName publicKey raw failure, some (.ret (.bound (.ok agent)))⟩ →
      ∃ digest, (digest, agent) ∈ bindings h := by
  refine ⟨run_correspondence hr, ?_, ?_, ?_⟩
  · rintro later t earlier i digest agent now failure rfl ht
    exact run_redeemed hr ht
  · intro i code displayName publicKey raw failure e hthread later t earlier x hsplit ht
    exact run_bind_error hr hthread hsplit ht
  · intro i code displayName publicKey raw failure agent hthread
    exact run_bind_ok hr hthread

end Runs

/-! ### Races, a registered key and a failing commit

Two codes are issued.  Two calls race for the first one; the second one is then tried with the key
that the winner has registered, with a commit that fails, and at last with success. -/

/-- Two codes, each presented more than once. -/
def bindCalls : List Call :=
  let first := encodeRaw (List.replicate 32 3)
  let second := encodeRaw (List.replicate 32 4)
  [.issueCode (Vector.replicate 32 3), .issueCode (Vector.replicate 32 4),
    .bind first "one" (List.replicate 32 7) (Vector.replicate 16 1) none,
    .bind first "two" (List.replicate 32 8) (Vector.replicate 16 2) none,
    .bind second "three" (List.replicate 32 8) (Vector.replicate 16 3) none,
    .bind second "four" (List.replicate 32 9) (Vector.replicate 16 4) (some .commit),
    .bind second "five" (List.replicate 32 9) (Vector.replicate 16 5) none]

/-- The calls overlap. -/
def bindSchedule : List (Machine.Action Call Int) :=
  bindCalls.map .start ++ [0, 0, 1, 1, 2, 3, 3, 2, 4, 4, 5, 5, 6, 6].map .step

/-- How the `Bind` calls have ended. -/
def bindOutcomes (pool : Pool Response Call Answer State) : List (Except BindError String) :=
  pool.threads.filterMap (fun thread =>
    match thread with
    | ⟨.bind _ _ _ _ _, some (.ret (.bound outcome))⟩ => some (outcome.map Agent.displayName)
    | _ => none)

theorem run_binding_of_race :
    ∃ h pool, (identitySystem samplePrimitives 0).Run h pool ∧
    bindOutcomes pool = [.error .invalidCode, .ok "two", .error .database, .error .database,
      .ok "five"] ∧
    (bindings h).map (fun binding => binding.2.displayName) = ["two", "five"] ∧
    Correspondence h pool.shared := by
  obtain ⟨h, pool, hr, hc⟩ := System.exists_run_of_exec (S := identitySystem samplePrimitives 0)
    (P := fun h pool => bindOutcomes pool = [.error .invalidCode, .ok "two", .error .database,
        .error .database, .ok "five"] ∧
      (bindings h).map (fun binding => binding.2.displayName) = ["two", "five"])
    bindSchedule (by decide +kernel)
  obtain ⟨houtcomes, hbindings⟩ := of_decide_eq_true hc
  exact ⟨h, pool, hr, houtcomes, hbindings, (run_binding hr).1⟩

end WebVPN.Identity
