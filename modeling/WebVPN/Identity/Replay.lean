import WebVPN.Identity.Calls

namespace WebVPN.Identity

open WebVPN.Library WebVPN.Storage IdentityStore

/-!
# Identity — no request is accepted twice

A nonce is saved by one statement and used up by another; anything may happen in between, and the
same request may be verified by many calls at once.

* `Effect.nonce`, `Effect.used`, `Effect.agent` — what a statement does to a nonce and to an Agent;
* `verify_trace`, `save_trace` — the statements of a `Verify` that succeeds, and where a nonce comes
  from;
* `run_nonce` — every nonce in the store was saved by an `Issue`;
* `run_noReplay` — what stands behind an accepted request, and that no nonce is accepted twice.
-/

/-! ### What a statement does to a row -/

section Rows

variable {s s' : State} {x : (statement : Statement) × Response statement} {agentID : String}

/-- An Agent stays as it is. -/
theorem Effect.agent (h : Effect s x s') {row : AgentRow}
    (hrow : s.store.agents.find? agentID = some row) :
    s'.store.agents.find? agentID = some row := by
  cases h with
  | agentBound digest agent now failure code hnew _ _ _ => exact Table.find?_cons_of_some hrow _ hnew
  | _ => exact hrow

/-- A key comes from the row of an active Agent. -/
theorem agentPublicKey_row {store : IdentityStore} {key : PublicKey}
    (h : store.agentPublicKey agentID = some key) :
    ∃ row, store.agents.find? agentID = some row ∧ row.state = .active ∧ row.publicKey = key := by
  obtain ⟨row, hrow, rfl⟩ := Option.map_eq_some_iff.mp h
  obtain ⟨hfind, hactive⟩ := Option.filter_eq_some_iff.mp hrow
  exact ⟨row, hfind, of_decide_eq_true hactive, rfl⟩

/-- The store has a nonce of the Agent, with this expiry. -/
def HasNonce (digest : Digest) (agentID : String) (expiresAt : Int) (s : State) : Prop :=
  ∃ row, s.store.nonces.find? digest = some row ∧ row.agentID = agentID ∧ row.expiresAt = expiresAt

/-- The statement has saved it. -/
def SavesNonce (digest : Digest) (agentID : String) (expires : Int)
    (x : (statement : Statement) × Response statement) : Prop :=
  ∃ expiresAt, x = ⟨.saveNonce agentID digest expiresAt, .ok ()⟩ ∧ expires = unix expiresAt

/-- A nonce in the store was there before, for the same Agent and with the same expiry, or it has
    just been saved. -/
theorem Effect.nonce (h : Effect s x s') {digest : Digest} {expires : Int}
    (hnonce : HasNonce digest agentID expires s') :
    HasNonce digest agentID expires s ∨ SavesNonce digest agentID expires x := by
  obtain ⟨row, hrow, rfl, rfl⟩ := hnonce
  cases h with
  | nonceSaved agentID digest' expiresAt hfree =>
    rw [Table.find?_cons] at hrow
    by_cases hdigest : digest' = digest
    · subst hdigest
      rw [if_pos rfl] at hrow
      cases hrow
      exact .inr ⟨expiresAt, rfl, rfl⟩
    · rw [if_neg hdigest] at hrow
      exact .inl ⟨row, hrow, rfl, rfl⟩
  | nonceUsed agentID digest' now row' _ _ _ _ =>
    rw [consumeNonce, Table.find?_update, Option.map_eq_some_iff] at hrow
    obtain ⟨old, hold, rfl⟩ := hrow
    refine .inl ⟨old, hold, ?_, ?_⟩
    · split <;> rfl
    · split <;> rfl
  | _ => exact .inl ⟨row, hrow, rfl, rfl⟩

/-- A nonce that is used up. -/
def Used (digest : Digest) (s : State) : Prop :=
  ∃ row, s.store.nonces.find? digest = some row ∧ row.consumedAt ≠ none

/-- A used nonce stays used. -/
theorem Effect.used (h : Effect s x s') {digest : Digest} (hused : Used digest s) :
    Used digest s' := by
  obtain ⟨row, hrow, hconsumed⟩ := hused
  cases h with
  | nonceSaved agentID digest' expiresAt hfree =>
    exact ⟨row, Table.find?_cons_of_some hrow _ hfree, hconsumed⟩
  | nonceUsed agentID digest' now row' _ _ _ _ =>
    -- the `WHERE` clause leaves a used nonce alone
    have hnot : ¬ consumable agentID digest' now row = true := by
      simp only [consumable, Bool.and_eq_true, decide_eq_true_eq]
      exact fun hmatch => hconsumed hmatch.1.2
    refine ⟨row, ?_, hconsumed⟩
    rw [consumeNonce, Table.find?_update, hrow, Option.map_some, if_neg hnot]
  | _ => exact ⟨row, hrow, hconsumed⟩

end Rows

/-! ### The statements of the calls -/

section Traces

variable {p : Primitives} {l : List ((s : Statement) × Response s)}

theorem useNonce_trace {signed : SignedRequest} {body : List UInt8}
    {outcome : Except AuthError (List UInt8 × SignedRequest)}
    (h : Program.Trace (useNonceProgram p signed body) l (.ret outcome)) :
    ∃ consumedAt response, l = [⟨.clock, consumedAt⟩,
        ⟨.consumeNonce signed.agentID (nonceDigest p signed.nonce) consumedAt, response⟩] ∧
      ((response = .ok () ∧ outcome = .ok (body, signed)) ∨
        ∃ e, response = .error e ∧ outcome = .error .nonceUsed) := by
  obtain ⟨consumedAt, l₁, rfl, hclock⟩ := Program.Trace.of_call h
  obtain ⟨response, l₂, rfl, hused⟩ := Program.Trace.of_call hclock
  cases response with
  | error e =>
    obtain ⟨rfl, hret⟩ := Program.Trace.of_ret hused
    cases hret
    exact ⟨consumedAt, _, rfl, .inr ⟨e, rfl, rfl⟩⟩
  | ok _ =>
    obtain ⟨rfl, hret⟩ := Program.Trace.of_ret hused
    cases hret
    exact ⟨consumedAt, _, rfl, .inl ⟨rfl, rfl⟩⟩

/-- How `Verify` ends: before the nonce with an error of its own, or with the statement that uses the
    nonce up. -/
theorem verify_trace {request : Request} {outcome : Except AuthError (List UInt8 × SignedRequest)}
    (h : Program.Trace ((Call.verify request).program p) l (.ret (.verified outcome))) :
    (∃ e, outcome = .error e ∧ ∀ agentID digest now r, ⟨.consumeNonce agentID digest now, r⟩ ∉ l) ∨
    ∃ signed body key verifiedAt consumedAt response, parseSignedRequest request = .ok signed ∧
      request.readBody = .ok body ∧
      verify p key signed request.method request.requestURI body verifiedAt = .ok () ∧
      l = [⟨.agentPublicKey signed.agentID, some key⟩, ⟨.clock, verifiedAt⟩, ⟨.clock, consumedAt⟩,
        ⟨.consumeNonce signed.agentID (nonceDigest p signed.nonce) consumedAt, response⟩] ∧
      ((response = .ok () ∧ outcome = .ok (body, signed)) ∨
        ∃ e, response = .error e ∧ outcome = .error .nonceUsed) := by
  obtain ⟨l₁, l₂, outcome', rfl, h₁, h₂⟩ := Program.Trace.of_bind h
  obtain ⟨rfl, heq⟩ := Program.Trace.of_ret h₂
  cases heq
  unfold verifyProgram at h₁
  cases hparse : parseSignedRequest request with
  | error e =>
    rw [hparse] at h₁
    obtain ⟨rfl, hret⟩ := Program.Trace.of_ret h₁
    cases hret
    exact .inl ⟨e, rfl, by simp⟩
  | ok signed =>
  cases hbody : request.readBody with
  | error e =>
    simp only [hparse, hbody] at h₁
    obtain ⟨rfl, hret⟩ := Program.Trace.of_ret h₁
    cases hret
    exact .inl ⟨e, rfl, by simp⟩
  | ok body =>
  simp only [hparse, hbody] at h₁
  obtain ⟨key, l₂, rfl, hkey⟩ := Program.Trace.of_call h₁
  cases key with
  | none =>
    obtain ⟨rfl, hret⟩ := Program.Trace.of_ret hkey
    cases hret
    refine .inl ⟨_, rfl, ?_⟩
    simp
  | some key =>
  obtain ⟨verifiedAt, l₃, rfl, hclock⟩ := Program.Trace.of_call hkey
  simp only [Program.bind] at hclock
  cases hverify : verify p key signed request.method request.requestURI body verifiedAt with
  | error e =>
    rw [hverify] at hclock
    obtain ⟨rfl, hret⟩ := Program.Trace.of_ret hclock
    cases hret
    refine .inl ⟨_, rfl, ?_⟩
    simp
  | ok _ =>
    rw [hverify] at hclock
    obtain ⟨consumedAt, response, rfl, houtcome⟩ := useNonce_trace hclock
    exact .inr ⟨signed, body, key, verifiedAt, consumedAt, response, rfl, rfl, hverify, rfl, houtcome⟩

/-- **A nonce is saved by an `Issue`** that has read the clock and nothing else. -/
theorem save_trace {call : Call} {agentID : String} {digest : Digest} {expiresAt : Int}
    {next : Response (.saveNonce agentID digest expiresAt) → Program Response Answer}
    (h : Program.Trace (call.program p) l (.call (.saveNonce agentID digest expiresAt) next)) :
    ∃ raw issuedAt, call = .issue agentID raw ∧ digest = nonceDigest p (encodeRaw raw.toList) ∧
      expiresAt = issuedAt + challengeTTL ∧ l = [⟨.clock, issuedAt⟩] := by
  have hmakes := (program_only p call).of_trace h
  cases call with
  | issue agentID' raw =>
    by_cases hvalid : validOpaqueID agentID' 16 = false
    · simp only [Call.program, issueProgram, if_pos hvalid] at h
      exact absurd h Program.Trace.not_to_call
    simp only [Call.program, issueProgram, if_neg hvalid] at h
    rcases Program.Trace.to_call h with ⟨-, hclock⟩ | ⟨issuedAt, l₁, rfl, hsave⟩
    · cases hclock
    rcases Program.Trace.to_call hsave with ⟨rfl, heq⟩ | ⟨response, l₂, rfl, hend⟩
    · cases heq
      exact ⟨raw, issuedAt, rfl, rfl, rfl, rfl⟩
    · rcases response with (_ | _ | _ | _) | _ <;> exact absurd hend Program.Trace.not_to_call
  | verify request =>
    obtain hclock | ⟨_, hkey⟩ | ⟨_, _, _, huse⟩ := hmakes
    · cases hclock
    · cases hkey
    · cases huse
  | issueCode raw =>
    obtain hclock | ⟨_, _, _, -, hsave⟩ := hmakes
    · cases hclock
    · cases hsave
  | bind code displayName publicKey raw failure =>
    obtain hclock | ⟨_, _, _, _, -, huse⟩ := hmakes
    · cases hclock
    · cases huse

end Traces

/-! ### Interleavings -/

section Runs

variable {p : Primitives} {start : Int} {agents : Table AgentRow.id} {h later earlier : History}
  {t : Taken}
  {pool : Pool Response Call Answer State}

/-- Every nonce in the store was saved in some step, with the expiry that the row has. -/
theorem run_nonce (hr : (agentSystem p start agents).Run h pool) :
    ∀ digest row, pool.shared.store.nonces.find? digest = some row →
      ∃ later w earlier j expiresAt, h = later ++ w :: earlier ∧
        w.event = some (j, ⟨.saveNonce row.agentID digest expiresAt, .ok ()⟩) ∧
        row.expiresAt = unix expiresAt := by
  intro digest row hrow
  have hnone : ¬ HasNonce digest row.agentID row.expiresAt
      ⟨start, { emptyStore with agents := agents }⟩ := by
    rintro ⟨_, hempty, -⟩
    cases hempty
  obtain ⟨later, w, earlier, j, e, hsplit, hw, expiresAt, he, hexpires⟩ := Machine.run_origin hr hnone
    (Q := SavesNonce digest row.agentID row.expiresAt)
    (fun statement s => (exec_effect statement s).nonce) (fun _ _ hnonce => hnonce)
    ⟨row, hrow, rfl, rfl⟩
  exact ⟨later, w, earlier, j, expiresAt, hsplit, he ▸ hw, hexpires⟩

/-- What a statement that used a nonce up found in the store, and that the nonce is used from then
    on. -/
theorem run_used (hr : (agentSystem p start agents).Run (later ++ t :: earlier) pool) {i : Nat}
    {agentID : String} {digest : Digest} {now : Int}
    (ht : t.event = some (i, ⟨.consumeNonce agentID digest now, .ok ()⟩)) :
    (∃ row, t.before.shared.store.nonces.find? digest = some row ∧ row.agentID = agentID ∧
      row.consumedAt = none ∧ unix now < row.expiresAt) ∧ Used digest pool.shared := by
  have hok : (t.before.shared.store.consumeNonce agentID digest now).2 = .ok () :=
    Machine.run_executed hr ht
  rcases consumeNonce_cases t.before.shared.store agentID digest now with
    ⟨e, heq⟩ | ⟨row, hrow, hagent, hunused, hlive, -, hfind⟩
  · rw [heq] at hok
    cases hok
  · refine ⟨⟨row, hrow, hagent, hunused, hlive⟩, ?_⟩
    exact Machine.run_established (P := Used digest)
      (fun statement s => (exec_effect statement s).used) (fun _ _ hused => hused) hr ht
      ⟨_, hfind, nofun⟩

/-- The nonces that a call draws or presents. -/
def Call.nonces : Call → List String
  | .issue _ raw => [encodeRaw raw.toList]
  | .verify request => [request.get "X-WebVPN-Nonce"]
  | .issueCode _ => []
  | .bind _ _ _ _ _ => []

/-- The digests of the nonces of a run do not collide. -/
def NoCollisions (p : Primitives) (pool : Pool Response Call Answer State) : Prop :=
  ∀ a ∈ pool.threads, ∀ b ∈ pool.threads, ∀ n ∈ a.call.nonces, ∀ m ∈ b.call.nonces,
    nonceDigest p n = nonceDigest p m → n = m

/-- What stands behind a request that thread `i` has accepted. -/
structure Acceptance (p : Primitives) (h : History) (i : Nat) (request : Request)
    (signed : SignedRequest) where
  key : PublicKey
  verifiedAt : Int
  consumedAt : Int
  issuedAt : Int
  issuer : Nat
  raw : Vector UInt8 32
  later : History
  between : History
  earlier : History
  use : Taken
  save : Taken
  split : h = later ++ use :: (between ++ save :: earlier)
  -- the statements of the thread: the key of the Agent, two readings of the clock, and the nonce
  statements : Machine.executed (between ++ save :: earlier) i =
    [⟨.agentPublicKey signed.agentID, some key⟩, ⟨.clock, verifiedAt⟩, ⟨.clock, consumedAt⟩]
  used : use.event =
    some (i, ⟨.consumeNonce signed.agentID (nonceDigest p signed.nonce) consumedAt, .ok ()⟩)
  active : ∃ row, use.before.shared.store.agents.find? signed.agentID = some row ∧
    row.state = .active ∧ row.publicKey = key
  notEarly : -maxClockSkew ≤ verifiedAt - signed.issuedAt
  notLate : verifiedAt - signed.issuedAt ≤ maxClockSkew
  signature : p.ed25519Verify key (canonicalMessage p signed.agentID signed.nonce signed.issuedAt
    request.method request.requestURI request.body.bytes) signed.signature = true
  -- the nonce: saved by an `Issue` for the same Agent, and not expired when it was used
  saved : save.event = some (issuer, ⟨.saveNonce signed.agentID (nonceDigest p signed.nonce)
    (issuedAt + challengeTTL), .ok ()⟩)
  issue : ∃ rest, save.before.threads[issuer]? = some ⟨.issue signed.agentID raw, rest⟩
  nonce : signed.nonce = encodeRaw raw.toList
  clock : Machine.executed earlier issuer = [⟨.clock, issuedAt⟩]
  unexpired : consumedAt < issuedAt + challengeTTL

theorem run_accepted (hr : (agentSystem p start agents).Run h pool) (hcollide : NoCollisions p pool)
    {i : Nat} {request : Request} {body : List UInt8} {signed : SignedRequest}
    (hthread : pool.threads[i]? =
      some ⟨.verify request, some (.ret (.verified (.ok (body, signed))))⟩) :
    parseSignedRequest request = .ok signed ∧ body = request.body.bytes ∧
      Nonempty (Acceptance p h i request signed) := by
  rcases verify_trace (Machine.run_trace hr hthread) with ⟨e, herror, -⟩ |
    ⟨signed', body', key, verifiedAt, consumedAt, response, hparse, hbody, hverify, hexecuted,
      ⟨rfl, hok⟩ | ⟨-, -, herror⟩⟩
  · cases herror
  swap
  · cases herror
  cases hok
  obtain ⟨hearly, hlate, hsignature⟩ := verify_ok hverify
  rw [readBody_ok hbody] at hsignature
  refine ⟨hparse, readBody_ok hbody, ?_⟩
  -- the step that used the nonce up, and what the store held in it
  have hlast : Machine.executed h i =
      ([⟨.agentPublicKey signed.agentID, some key⟩, ⟨.clock, verifiedAt⟩, ⟨.clock, consumedAt⟩] :
        List ((s : Statement) × Response s)) ++
      [⟨.consumeNonce signed.agentID (nonceDigest p signed.nonce) consumedAt, .ok ()⟩] := hexecuted
  obtain ⟨later, use, before, rfl, huse, hstatements⟩ := Machine.executed_last hlast
  have hbefore := (System.Run.split hr).1
  obtain ⟨⟨row, hrow, hagent, -, hlive⟩, -⟩ := run_used hr huse
  have hactive : ∃ row, use.before.shared.store.agents.find? signed.agentID = some row ∧
      row.state = .active ∧ row.publicKey = key := by
    have hread : ⟨.agentPublicKey signed.agentID, some key⟩ ∈ Machine.executed before i := by
      rw [hstatements]
      exact List.mem_cons_self
    obtain ⟨later', t, earlier', rfl, ht⟩ := Machine.mem_executed hread
    obtain ⟨agent, hagent, hstate, hkey⟩ := agentPublicKey_row (Machine.run_executed hbefore ht)
    refine ⟨agent, ?_, hstate, hkey⟩
    exact Machine.run_stable (P := fun s => s.store.agents.find? signed.agentID = some agent)
      (fun statement s => (exec_effect statement s).agent) (fun _ _ hrow => hrow) hbefore hagent
  -- the step that saved the nonce, and the call that made it
  obtain ⟨between, save, earlier, issuer, expiresAt, rfl, hsave, hexpires⟩ :=
    run_nonce hbefore _ row hrow
  rw [hagent] at hsave
  obtain ⟨call, next, hissuer, htrace⟩ := Machine.run_statement hbefore hsave
  obtain ⟨raw, issuedAt, rfl, hdigest, rfl, hclock⟩ := save_trace htrace
  have hnonce : signed.nonce = encodeRaw raw.toList := by
    obtain ⟨thread, hthread', hcall⟩ := Machine.run_call hbefore hissuer
    obtain ⟨thread'', hthread'', hcall'⟩ := Machine.run_call hr hthread'
    refine hcollide _ (List.mem_of_getElem? hthread) _ (List.mem_of_getElem? hthread'') _ ?_ _ ?_
      hdigest
    · rw [(parseSignedRequest_ok hparse).2.1]
      exact List.mem_singleton_self _
    · rw [hcall', hcall]
      exact List.mem_singleton_self _
  have hunexpired : consumedAt < issuedAt + challengeTTL := by
    rw [hexpires] at hlive
    exact lt_of_unix_lt hlive
  exact ⟨⟨key, verifiedAt, consumedAt, issuedAt, issuer, raw, later, between, earlier, use, save, rfl,
    hstatements, huse, hactive, hearly, hlate, hsignature, hsave, ⟨_, hissuer⟩, hnonce, hclock,
    hunexpired⟩⟩

/-- **A nonce is used once.** -/
theorem run_once {later' earlier' : History}
    {t' : Taken}
    (hr : (agentSystem p start agents).Run h pool) (hsplit : h = later ++ t :: earlier)
    (hsplit' : h = later' ++ t' :: earlier') {i j : Nat} {agentID agentID' : String}
    {digest : Digest} {now now' : Int}
    (ht : t.event = some (i, ⟨.consumeNonce agentID digest now, .ok ()⟩))
    (ht' : t'.event = some (j, ⟨.consumeNonce agentID' digest now', .ok ()⟩)) : i = j := by
  -- the later of two uses would have found the nonce used
  have hordered : ∀ {later m earlier : History}
      {u v : Taken} {k l : Nat} {agentID agentID' : String}
      {now now' : Int}, (agentSystem p start agents).Run (later ++ u :: (m ++ v :: earlier)) pool →
      u.event = some (k, ⟨.consumeNonce agentID digest now, .ok ()⟩) →
      v.event = some (l, ⟨.consumeNonce agentID' digest now', .ok ()⟩) → False := by
    intro later m earlier u v k l agentID agentID' now now' hr hu hv
    obtain ⟨⟨row, hrow, -, hunused, -⟩, -⟩ := run_used hr hu
    obtain ⟨-, row', hrow', hused⟩ := run_used (System.Run.split hr).1 hv
    cases hrow.symm.trans hrow'
    exact hused hunused
  rcases System.order (hsplit.symm.trans hsplit') with ⟨m, rfl⟩ | ⟨rfl, -⟩ | ⟨m, rfl⟩
  · rw [hsplit] at hr
    exact (hordered hr ht ht').elim
  · rw [ht] at ht'
    cases ht'
    rfl
  · rw [hsplit'] at hr
    exact (hordered hr ht' ht).elim

/-- A step of a `Verify` other than a use of the nonce leaves the store and the clock as they are. -/
theorem run_verify_step {i : Nat} {request : Request}
    {rest : Option (Program Response Answer)} {x : (s : Statement) × Response s}
    (hr : (agentSystem p start agents).Run (later ++ t :: earlier) pool)
    (hthread : pool.threads[i]? = some ⟨.verify request, rest⟩) (ht : t.event = some (i, x))
    (hunused : ∀ agentID digest now, x ≠ ⟨.consumeNonce agentID digest now, .ok ()⟩) :
    (exec x.1 t.before.shared).1 = t.before.shared := by
  have hresponse : (exec x.1 t.before.shared).2 = x.2 := Machine.run_executed hr ht
  have hmakes : (Call.verify request).makes p x.1 := Machine.run_only (program_only p) hr ht hthread
  obtain ⟨statement, response⟩ := x
  obtain hclock | ⟨_, hkey⟩ | ⟨agentID, digest, now, huse⟩ := hmakes
  · cases hclock
    rfl
  · cases hkey
    rfl
  · cases huse
    rcases consumeNonce_cases t.before.shared.store agentID digest now with
      ⟨e, heq⟩ | ⟨row, -, -, -, -, hok, -⟩
    · simp only [exec, State.on, heq]
    · cases hok.symm.trans hresponse
      exact absurd rfl (hunused agentID digest now)

/-- **No replay.**  In every interleaving: an accepted request has an `Acceptance`; two accepted
    requests with the same nonce are one; and a `Verify` that ends with an error, or has not come to
    its nonce, has left all nonces as they were. -/
theorem run_noReplay (hr : (agentSystem p start agents).Run h pool) (hcollide : NoCollisions p pool) :
    (∀ (i : Nat) request body signed,
      pool.threads[i]? = some ⟨.verify request, some (.ret (.verified (.ok (body, signed))))⟩ →
      parseSignedRequest request = .ok signed ∧ body = request.body.bytes ∧
        Nonempty (Acceptance p h i request signed)) ∧
    (∀ (i j : Nat) request request' body body' signed signed',
      pool.threads[i]? = some ⟨.verify request, some (.ret (.verified (.ok (body, signed))))⟩ →
      pool.threads[j]? = some ⟨.verify request', some (.ret (.verified (.ok (body', signed'))))⟩ →
      signed.nonce = signed'.nonce → i = j) ∧
    ∀ (i : Nat) request rest, pool.threads[i]? = some ⟨.verify request, rest⟩ →
      ((∃ e, rest = some (.ret (.verified (.error e)))) ∨
        ∀ agentID digest now r, ⟨.consumeNonce agentID digest now, r⟩ ∉ Machine.executed h i) →
      ∀ later t earlier x, h = later ++ t :: earlier → t.event = some (i, x) →
        (exec x.1 t.before.shared).1 = t.before.shared := by
  refine ⟨fun i request body signed => run_accepted hr hcollide, ?_, ?_⟩
  · intro i j request request' body body' signed signed' hi hj hnonce
    obtain ⟨-, -, ⟨first⟩⟩ := run_accepted hr hcollide hi
    obtain ⟨-, -, ⟨second⟩⟩ := run_accepted hr hcollide hj
    have hused := second.used
    rw [← hnonce] at hused
    exact run_once hr first.split second.split first.used hused
  · intro i request rest hthread hfails later t earlier x hsplit ht
    have hmem : x ∈ Machine.executed h i := by
      rw [hsplit]
      exact Machine.executed_mem ht
    rw [hsplit] at hr
    refine run_verify_step hr hthread ht ?_
    rintro agentID digest now rfl
    rcases hfails with ⟨e, rfl⟩ | hbefore
    · rw [← hsplit] at hr
      rcases verify_trace (Machine.run_trace hr hthread) with ⟨e', -, hnever⟩ |
        ⟨signed, body, key, verifiedAt, consumedAt, response, -, -, -, hexecuted,
          ⟨-, hok⟩ | ⟨e', rfl, -⟩⟩
      · exact hnever agentID digest now _ hmem
      · cases hok
      · rw [hexecuted] at hmem
        simp at hmem
    · exact hbefore agentID digest now _ hmem

end Runs

/-! ### A request sent twice

An Agent is bound, asks for a challenge and signs a request, which two calls verify at the same
time.  Another Agent has been revoked before. -/

/-- An Agents table with a revoked Agent. -/
def revokedAgents : Table AgentRow.id :=
  Table.empty.cons ⟨randomID (Vector.replicate 16 9), "old", Vector.replicate 32 9, .revoked, 0⟩ rfl

def sampleAgentID : String := randomID (Vector.replicate 16 1)

/-- A request of this Agent. -/
def signedRequest : Request where
  method := "POST"
  requestURI := "/api/v1/agent/offers"
  headers :=
    [("X-WebVPN-Agent-ID", sampleAgentID), ("X-WebVPN-Nonce", encodeRaw (List.replicate 32 2)),
      ("X-WebVPN-Issued-At", "60"), ("X-WebVPN-Signature", encodeRaw (List.replicate 64 7))]
  body := ⟨[], none⟩

/-- An Agent is bound, and its request is sent twice. -/
def replayCalls : List Call :=
  [.issueCode (Vector.replicate 32 3),
    .bind (encodeRaw (List.replicate 32 3)) "agent" (List.replicate 32 7) (Vector.replicate 16 1) none,
    .issue sampleAgentID (Vector.replicate 32 2), .verify signedRequest, .verify signedRequest]

/-- The two copies are verified at the same time. -/
def replaySchedule : List (Machine.Action Call Int) :=
  replayCalls.map .start ++ [0, 0, 1, 1, 2, 2, 3, 4, 3, 4, 3, 4, 4, 3].map .step

/-- The second `Verify` has succeeded, and the first one has not. -/
def replayed (pool : Pool Response Call Answer State) : Bool :=
  (pool.threads.map Thread.call = replayCalls) &&
    match (pool.threads[3]? : Option (Thread Response Call Answer)),
      (pool.threads[4]? : Option (Thread Response Call Answer)) with
    | some ⟨.verify _, some (.ret (.verified (.error .nonceUsed)))⟩,
        some ⟨.verify _, some (.ret (.verified (.ok _)))⟩ => true
    | _, _ => false

/-- These calls draw and present one nonce. -/
theorem replayCalls_nonces :
    ∀ call ∈ replayCalls, ∀ n ∈ call.nonces, n = encodeRaw (List.replicate 32 2) := by
  decide +kernel

theorem run_noReplay_of_twice :
    ∃ h pool, (agentSystem samplePrimitives 0 revokedAgents).Run h pool ∧ NoCollisions samplePrimitives pool ∧
    (∃ request, pool.threads[3]? = some ⟨.verify request, some (.ret (.verified (.error .nonceUsed)))⟩ ∧
      ∀ later t earlier x, h = later ++ t :: earlier → t.event = some (3, x) →
        (exec x.1 t.before.shared).1 = t.before.shared) ∧
    ∃ request body signed,
      pool.threads[4]? = some ⟨.verify request, some (.ret (.verified (.ok (body, signed))))⟩ ∧
      Nonempty (Acceptance samplePrimitives h 4 request signed) ∧
      ∀ (j : Nat) request' body' signed', signed.nonce = signed'.nonce →
        pool.threads[j]? = some ⟨.verify request', some (.ret (.verified (.ok (body', signed'))))⟩ →
        j = 4 := by
  obtain ⟨h, pool, hr, hc⟩ := System.exists_run_of_exec (S := agentSystem samplePrimitives 0 revokedAgents)
    (P := fun _ pool => replayed pool) replaySchedule (by decide +kernel)
  rw [replayed, Bool.and_eq_true, decide_eq_true_eq] at hc
  obtain ⟨hcalls, hanswers⟩ := hc
  have hmem : ∀ thread ∈ pool.threads, ∀ n ∈ thread.call.nonces,
      n = encodeRaw (List.replicate 32 2) := by
    intro thread hthread
    refine replayCalls_nonces thread.call ?_
    rw [← hcalls]
    exact List.mem_map_of_mem hthread
  have hcollide : NoCollisions samplePrimitives pool := by
    intro a ha b hb n hn m hm _
    rw [hmem a ha n hn, hmem b hb m hm]
  obtain ⟨haccepted, honce, hfailed⟩ := run_noReplay hr hcollide
  split at hanswers
  · rename_i first second request' outcome h₃ h₄
    exact ⟨h, pool, hr, hcollide, ⟨_, h₃, hfailed 3 _ _ h₃ (.inl ⟨_, rfl⟩)⟩, _, _, _, h₄,
      (haccepted 4 _ _ _ h₄).2.2, fun j request' body' signed' hnonce hj =>
        (honce 4 j _ _ _ _ _ _ h₄ hj hnonce).symm⟩
  · cases hanswers

end WebVPN.Identity
