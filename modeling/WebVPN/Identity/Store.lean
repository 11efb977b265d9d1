import WebVPN.Identity.Signature

namespace WebVPN.Identity

open WebVPN.Library WebVPN.Storage

/-!
# Identity — Agents, nonces and binding codes in the store

The statements of `internal/storage/sqlite_store.go` on the tables `agents`, `agent_nonces` and
`binding_codes`.  Of an Agent only the last time it was seen is left out.

* `saveNonce`, `consumeNonce` — each a single statement;
* `Transaction` — what a transaction has changed so far; the deferred `Rollback` drops it unless
  `Commit` has succeeded;
* `consumeBindingCode` — the transaction that binds an Agent.  It may fail at any of its statements.
-/

/-- A row of `agents`. -/
structure AgentRow where
  id : String
  displayName : String
  publicKey : PublicKey
  state : AgentState
  createdAt : Int
deriving DecidableEq, Repr

/-- A row of `agent_nonces`. -/
structure NonceRow where
  digest : Digest
  agentID : String
  expiresAt : Int
  consumedAt : Option Int
deriving DecidableEq, Repr

/-- A row of `binding_codes`. -/
structure CodeRow where
  digest : Digest
  expiresAt : Int
  consumedAt : Option Int
  createdAt : Int
deriving DecidableEq, Repr

/-- The tables of the identity service. -/
structure IdentityStore where
  agents : Table AgentRow.id
  nonces : Table NonceRow.digest
  codes : Table CodeRow.digest

/-- The sentinel errors of the packages, and every other failure of a statement. -/
inductive StoreError
  | agentNotFound
  | nonceUsed
  | invalidCode
  | database
deriving DecidableEq, Repr

/-- An Agent as the binding service sees it. -/
structure Agent where
  id : String
  displayName : String
  publicKey : PublicKey
  createdAt : Int
deriving DecidableEq, Repr

namespace IdentityStore

variable (store : IdentityStore)

/-! ### Agents and nonces -/

/-- The Agent, unless it is revoked. -/
def activeAgent (agentID : String) : Option AgentRow :=
  (store.agents.find? agentID).filter (fun row => row.state = .active)

/-- `AgentPublicKey`. -/
def agentPublicKey (agentID : String) : Option PublicKey :=
  (store.activeAgent agentID).map AgentRow.publicKey

/-- `SaveNonce`: the insertion selects the active Agent, and the digest is the primary key. -/
def saveNonce (agentID : String) (digest : Digest) (expiresAt : Int) :
    IdentityStore × Except StoreError Unit :=
  match store.activeAgent agentID with
  | none => (store, .error .agentNotFound)
  | some agent =>
    if h : store.nonces.find? digest = none then
      ({ store with nonces := store.nonces.cons ⟨digest, agent.id, unix expiresAt, none⟩ h }, .ok ())
    else (store, .error .database)

/-- The `WHERE` clause of `ConsumeNonce`. -/
def consumable (agentID : String) (digest : Digest) (now : Int) (row : NonceRow) : Bool :=
  row.digest = digest && row.agentID = agentID && row.consumedAt = none && unix now < row.expiresAt

/-- `ConsumeNonce`. -/
def consumeNonce (agentID : String) (digest : Digest) (now : Int) :
    IdentityStore × Except StoreError Unit :=
  ({ store with
      nonces := store.nonces.update (consumable agentID digest now)
        (fun row => { row with consumedAt := some (unix now) }) (fun _ => rfl) },
    if store.nonces.rows.countP (consumable agentID digest now) = 1 then .ok ()
    else .error .nonceUsed)

/-! ### Binding codes -/

/-- `SaveBindingCode`. -/
def saveBindingCode (digest : Digest) (expiresAt createdAt : Int) :
    IdentityStore × Except StoreError Unit :=
  if h : store.codes.find? digest = none then
    ({ store with codes := store.codes.cons ⟨digest, unix expiresAt, none, unix createdAt⟩ h }, .ok ())
  else (store, .error .database)

/-- The `WHERE` clause of the update of `binding_codes`. -/
def redeemable (digest : Digest) (now : Int) (row : CodeRow) : Bool :=
  row.digest = digest && row.consumedAt = none && unix now < row.expiresAt

/-- `UPDATE binding_codes SET consumed_at = ? WHERE …`, with the number of rows it changed. -/
def redeemCode (digest : Digest) (now : Int) : IdentityStore × Nat :=
  ({ store with
      codes := store.codes.update (redeemable digest now)
        (fun row => { row with consumedAt := some (unix now) }) (fun _ => rfl) },
    store.codes.rows.countP (redeemable digest now))

/-- `INSERT INTO agents`: ID and key are unique, the name has 1 to 80 characters. -/
def insertAgent (agent : Agent) : Except StoreError IdentityStore :=
  if h : store.agents.find? agent.id = none then
    if store.agents.rows.any (fun row => row.publicKey = agent.publicKey) ∨
        ¬ (1 ≤ agent.displayName.length ∧ agent.displayName.length ≤ 80) then .error .database
    else .ok { store with
      agents := store.agents.cons
        ⟨agent.id, agent.displayName, agent.publicKey, .active, unix agent.createdAt⟩ h }
  else .error .database

end IdentityStore

/-- A transaction: the store at its `BEGIN`, and with its changes. -/
structure Transaction where
  base : IdentityStore
  working : IdentityStore
  committed : Bool

/-- The deferred `Rollback`, which does nothing after a `Commit`. -/
def Transaction.rollback (tx : Transaction) : IdentityStore :=
  if tx.committed then tx.working else tx.base

/-- The statements of `ConsumeBindingCode`, each of which may fail. -/
inductive TxStatement
  | begin
  | update
  | rowsAffected
  | insert
  | commit
deriving DecidableEq, Repr

/-- `ConsumeBindingCode` between `BEGIN` and the deferred `Rollback`; `failure` is the statement that
    fails, if any does. -/
def Transaction.consume (tx : Transaction) (digest : Digest) (agent : Agent) (now : Int)
    (failure : Option TxStatement) : Transaction × Except StoreError Unit :=
  if failure = some .update then (tx, .error .database)
  else
    let (working, updated) := tx.working.redeemCode digest now
    let tx := { tx with working := working }
    if failure = some .rowsAffected ∨ updated ≠ 1 then (tx, .error .invalidCode)
    else if failure = some .insert then (tx, .error .database)
    else
      match tx.working.insertAgent agent with
      | .error e => (tx, .error e)
      | .ok working =>
        let tx := { tx with working := working }
        if failure = some .commit then (tx, .error .database)
        else ({ tx with committed := true }, .ok ())

/-- `ConsumeBindingCode`. -/
def IdentityStore.consumeBindingCode (store : IdentityStore) (digest : Digest) (agent : Agent)
    (now : Int) (failure : Option TxStatement) : IdentityStore × Except StoreError Unit :=
  if failure = some .begin then (store, .error .database)
  else
    let (tx, outcome) := Transaction.consume ⟨store, store, false⟩ digest agent now failure
    (tx.rollback, outcome)

/-! ### What the statements do -/

namespace IdentityStore

variable {store : IdentityStore} {agentID : String} {digest : Digest} {now : Int} {agent : Agent}
  {failure : Option TxStatement}

/-- `SaveNonce` fails, or it inserts a nonce for an active Agent under a new digest. -/
theorem saveNonce_cases (store : IdentityStore) (agentID : String) (digest : Digest)
    (expiresAt : Int) :
    (∃ e, store.saveNonce agentID digest expiresAt = (store, .error e)) ∨
    ∃ h, store.saveNonce agentID digest expiresAt =
      ({ store with nonces := store.nonces.cons ⟨digest, agentID, unix expiresAt, none⟩ h }, .ok ()) := by
  unfold saveNonce
  cases hagent : store.activeAgent agentID with
  | none => exact .inl ⟨_, rfl⟩
  | some row =>
    have hid : row.id = agentID := Table.key_of_find? (Option.filter_eq_some_iff.mp hagent).1
    by_cases h : store.nonces.find? digest = none
    · exact .inr ⟨h, by simp only [dif_pos h, hid]⟩
    · exact .inl ⟨.database, by simp only [dif_neg h]⟩

theorem consumable_digest {row : NonceRow} (h : consumable agentID digest now row = true) :
    row.digest = digest := by
  simp only [consumable, Bool.and_eq_true, decide_eq_true_eq] at h
  exact h.1.1.1

/-- `ConsumeNonce` fails and changes nothing, or it uses up a nonce of the Agent that was neither used
    nor expired. -/
theorem consumeNonce_cases (store : IdentityStore) (agentID : String) (digest : Digest) (now : Int) :
    (∃ e, store.consumeNonce agentID digest now = (store, .error e)) ∨
    ∃ row, store.nonces.find? digest = some row ∧ row.agentID = agentID ∧ row.consumedAt = none ∧
      unix now < row.expiresAt ∧
      (store.consumeNonce agentID digest now).2 = .ok () ∧
      (store.consumeNonce agentID digest now).1.nonces.find? digest =
        some { row with consumedAt := some (unix now) } := by
  unfold consumeNonce
  rw [Table.countP_eq _ (fun r => consumable_digest)]
  by_cases hany : (store.nonces.find? digest).any (consumable agentID digest now) = true
  · obtain ⟨row, hrow, hmatch⟩ := (Option.any_eq_true _ _).mp hany
    refine .inr ⟨row, hrow, ?_⟩
    rw [if_pos hany, Table.find?_update, hrow, Option.map_some, if_pos hmatch]
    simp only [consumable, Bool.and_eq_true, decide_eq_true_eq] at hmatch
    obtain ⟨⟨⟨-, hagent⟩, hunused⟩, hlive⟩ := hmatch
    exact ⟨hagent, hunused, hlive, rfl, rfl⟩
  · have hnone : ∀ r ∈ store.nonces.rows, consumable agentID digest now r = false := by
      intro r hr
      refine Bool.eq_false_iff.mpr (fun hmatch => hany ?_)
      rw [Table.find?_eq_some_iff.mpr ⟨hr, consumable_digest hmatch⟩]
      exact hmatch
    rw [if_neg hany, Table.update_eq_self hnone]
    exact .inl ⟨_, rfl⟩

theorem saveBindingCode_cases (store : IdentityStore) (digest : Digest)
    (expiresAt createdAt : Int) :
    (∃ e, store.saveBindingCode digest expiresAt createdAt = (store, .error e)) ∨
    ∃ h, store.saveBindingCode digest expiresAt createdAt =
      ({ store with codes := store.codes.cons ⟨digest, unix expiresAt, none, unix createdAt⟩ h },
        .ok ()) := by
  unfold saveBindingCode
  by_cases h : store.codes.find? digest = none
  · rw [dif_pos h]
    exact .inr ⟨h, rfl⟩
  · rw [dif_neg h]
    exact .inl ⟨_, rfl⟩

theorem insertAgent_ok {store' : IdentityStore} (h : store.insertAgent agent = .ok store') :
    ∃ hnew, store' = { store with
      agents := store.agents.cons
        ⟨agent.id, agent.displayName, agent.publicKey, .active, unix agent.createdAt⟩ hnew } := by
  unfold insertAgent at h
  by_cases hnew : store.agents.find? agent.id = none
  · rw [dif_pos hnew] at h
    split at h
    · cases h
    · cases h
      exact ⟨hnew, rfl⟩
  · rw [dif_neg hnew] at h
    cases h

theorem redeemable_digest {row : CodeRow} (h : redeemable digest now row = true) :
    row.digest = digest := by
  simp only [redeemable, Bool.and_eq_true, decide_eq_true_eq] at h
  exact h.1.1

/-- The update changes one row exactly if the code is known, not used and not expired. -/
theorem redeemCode_count (h : (store.redeemCode digest now).2 = 1) :
    ∃ row, store.codes.find? digest = some row ∧ row.consumedAt = none ∧
      unix now < row.expiresAt := by
  simp only [redeemCode, Table.countP_eq _ (fun r => redeemable_digest)] at h
  by_cases hany : (store.codes.find? digest).any (redeemable digest now) = true
  · obtain ⟨row, hrow, hmatch⟩ := (Option.any_eq_true _ _).mp hany
    simp only [redeemable, Bool.and_eq_true, decide_eq_true_eq] at hmatch
    exact ⟨row, hrow, hmatch.1.2, hmatch.2⟩
  · rw [if_neg hany] at h
    cases h

/-- **`ConsumeBindingCode` is all or nothing.**  It fails and leaves the store as it was, whichever
    statement failed; or it has used a code that was known, not used and not expired, and inserted
    the Agent. -/
theorem consumeBindingCode_cases (store : IdentityStore) (digest : Digest) (agent : Agent) (now : Int)
    (failure : Option TxStatement) :
    (∃ e, store.consumeBindingCode digest agent now failure = (store, .error e)) ∨
    ∃ row hnew, store.codes.find? digest = some row ∧ row.consumedAt = none ∧
      unix now < row.expiresAt ∧
      store.consumeBindingCode digest agent now failure =
        ({ store with
            codes := (store.redeemCode digest now).1.codes
            agents := store.agents.cons
              ⟨agent.id, agent.displayName, agent.publicKey, .active, unix agent.createdAt⟩ hnew },
          .ok ()) := by
  unfold consumeBindingCode Transaction.consume
  by_cases hbegin : failure = some .begin
  · rw [if_pos hbegin]
    exact .inl ⟨_, rfl⟩
  rw [if_neg hbegin]
  by_cases hupdate : failure = some .update
  · simp only [if_pos hupdate]
    exact .inl ⟨_, rfl⟩
  simp only [if_neg hupdate]
  by_cases hcount : failure = some .rowsAffected ∨ (store.redeemCode digest now).2 ≠ 1
  · simp only [if_pos hcount]
    exact .inl ⟨_, rfl⟩
  simp only [if_neg hcount]
  rw [not_or, not_not] at hcount
  by_cases hinsert : failure = some .insert
  · simp only [if_pos hinsert]
    exact .inl ⟨_, rfl⟩
  simp only [if_neg hinsert]
  cases hagent : (store.redeemCode digest now).1.insertAgent agent with
  | error e => exact .inl ⟨e, rfl⟩
  | ok working =>
    by_cases hcommit : failure = some .commit
    · simp only [if_pos hcommit]
      exact .inl ⟨_, rfl⟩
    obtain ⟨row, hrow, hunused, hlive⟩ := redeemCode_count hcount.2
    obtain ⟨hnew, rfl⟩ := insertAgent_ok hagent
    simp only [if_neg hcommit]
    exact .inr ⟨row, hnew, hrow, hunused, hlive, rfl⟩

end IdentityStore

end WebVPN.Identity
