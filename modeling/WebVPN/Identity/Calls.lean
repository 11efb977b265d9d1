import WebVPN.Identity.Store
import WebVPN.Library.Concurrent

namespace WebVPN.Identity

open WebVPN.Library WebVPN.Storage IdentityStore

/-!
# Identity — challenges, authentication and binding, statement by statement

The calls of `internal/identity` and `internal/binding` as programs over single statements and
readings of the clock.  `ConsumeBindingCode` is a transaction and counts as one statement.

* `Effect`, `exec_effect` — what a statement can do to the store;
* `issueProgram`, `verifyProgram` — `ChallengeIssuer.Issue` and `AgentAuthenticator.Verify`;
* `issueCodeProgram`, `bindProgram` — `Service.Issue` and `Service.Bind` of the binding service;
* `identityMachine` — all their interleavings.  The clock may be set to any time at any point.
-/

/-- The clock and the database. -/
structure State where
  clock : Int
  store : IdentityStore

/-- What a call asks of the clock or of the database. -/
inductive Statement
  | clock
  | agentPublicKey (agentID : String)
  | saveNonce (agentID : String) (digest : Digest) (expiresAt : Int)
  | consumeNonce (agentID : String) (digest : Digest) (now : Int)
  | saveBindingCode (digest : Digest) (expiresAt createdAt : Int)
  | consumeBindingCode (digest : Digest) (agent : Agent) (now : Int) (failure : Option TxStatement)
deriving DecidableEq

/-- What it gets. -/
@[reducible] def Response : Statement → Type
  | .clock => Int
  | .agentPublicKey _ => Option PublicKey
  | .saveNonce _ _ _ => Except StoreError Unit
  | .consumeNonce _ _ _ => Except StoreError Unit
  | .saveBindingCode _ _ _ => Except StoreError Unit
  | .consumeBindingCode _ _ _ _ => Except StoreError Unit

/-- A statement that changes the store. -/
def State.on {α : Type} (s : State) (result : IdentityStore × α) : State × α :=
  ({ s with store := result.1 }, result.2)

/-- A statement is executed. -/
def exec : (statement : Statement) → State → State × Response statement
  | .clock, s => (s, s.clock)
  | .agentPublicKey agentID, s => (s, s.store.agentPublicKey agentID)
  | .saveNonce agentID digest expiresAt, s => s.on (s.store.saveNonce agentID digest expiresAt)
  | .consumeNonce agentID digest now, s => s.on (s.store.consumeNonce agentID digest now)
  | .saveBindingCode digest expiresAt createdAt, s =>
    s.on (s.store.saveBindingCode digest expiresAt createdAt)
  | .consumeBindingCode digest agent now failure, s =>
    s.on (s.store.consumeBindingCode digest agent now failure)

/-- What a statement does: nothing, if it only reads or fails; otherwise it adds a row, or changes one
    and possibly adds another. -/
inductive Effect (s : State) : (statement : Statement) × Response statement → State → Prop
  | none (x : (statement : Statement) × Response statement) : Effect s x s
  | nonceSaved (agentID : String) (digest : Digest) (expiresAt : Int)
      (hfree : s.store.nonces.find? digest = .none) :
      Effect s ⟨.saveNonce agentID digest expiresAt, .ok ()⟩
        { s with store := { s.store with
            nonces := s.store.nonces.cons ⟨digest, agentID, unix expiresAt, .none⟩ hfree } }
  | nonceUsed (agentID : String) (digest : Digest) (now : Int) (row : NonceRow)
      (hrow : s.store.nonces.find? digest = some row) (hagent : row.agentID = agentID)
      (hunused : row.consumedAt = .none) (hlive : unix now < row.expiresAt) :
      Effect s ⟨.consumeNonce agentID digest now, .ok ()⟩
        { s with store := (s.store.consumeNonce agentID digest now).1 }
  | codeSaved (digest : Digest) (expiresAt createdAt : Int)
      (hfree : s.store.codes.find? digest = .none) :
      Effect s ⟨.saveBindingCode digest expiresAt createdAt, .ok ()⟩
        { s with store := { s.store with
            codes := s.store.codes.cons ⟨digest, unix expiresAt, .none, unix createdAt⟩ hfree } }
  | agentBound (digest : Digest) (agent : Agent) (now : Int) (failure : Option TxStatement)
      (row : CodeRow) (hnew : s.store.agents.find? agent.id = .none)
      (hrow : s.store.codes.find? digest = some row) (hunused : row.consumedAt = .none)
      (hlive : unix now < row.expiresAt) :
      Effect s ⟨.consumeBindingCode digest agent now failure, .ok ()⟩
        { s with store := { s.store with
            codes := (s.store.redeemCode digest now).1.codes
            agents := s.store.agents.cons
              ⟨agent.id, agent.displayName, agent.publicKey, .active, unix agent.createdAt⟩ hnew } }

/-- **One statement.** -/
theorem exec_effect (statement : Statement) (s : State) :
    Effect s ⟨statement, (exec statement s).2⟩ (exec statement s).1 := by
  cases statement with
  | clock => exact .none _
  | agentPublicKey agentID => exact .none _
  | saveNonce agentID digest expiresAt =>
    simp only [exec, State.on]
    rcases saveNonce_cases s.store agentID digest expiresAt with ⟨e, heq⟩ | ⟨hfree, heq⟩
    · rw [heq]
      exact .none _
    · rw [heq]
      exact .nonceSaved agentID digest expiresAt hfree
  | consumeNonce agentID digest now =>
    simp only [exec, State.on]
    rcases consumeNonce_cases s.store agentID digest now with
      ⟨e, heq⟩ | ⟨row, hrow, hagent, hunused, hlive, hok, -⟩
    · rw [heq]
      exact .none _
    · rw [hok]
      exact .nonceUsed agentID digest now row hrow hagent hunused hlive
  | saveBindingCode digest expiresAt createdAt =>
    simp only [exec, State.on]
    rcases saveBindingCode_cases s.store digest expiresAt createdAt with ⟨e, heq⟩ | ⟨hfree, heq⟩
    · rw [heq]
      exact .none _
    · rw [heq]
      exact .codeSaved digest expiresAt createdAt hfree
  | consumeBindingCode digest agent now failure =>
    simp only [exec, State.on]
    rcases consumeBindingCode_cases s.store digest agent now failure with
      ⟨e, heq⟩ | ⟨row, hnew, hrow, hunused, hlive, heq⟩
    · rw [heq]
      exact .none _
    · rw [heq]
      exact .agentBound digest agent now failure row hnew hrow hunused hlive

/-- Make one statement. -/
abbrev query (statement : Statement) : Program Response (Response statement) :=
  Program.perform statement

section Programs

variable (p : Primitives)

/-! ### Challenges -/

/-- How long a challenge is valid. -/
def challengeTTL : Int := 2 * minute

/-- `ChallengeIssuer.Issue`: the nonce and its expiry. -/
def issueProgram (agentID : String) (raw : Vector UInt8 32) :
    Program Response (Except AuthError (String × Int)) :=
  if validOpaqueID agentID 16 = false then return .error .agentNotFound
  else do
    let plain := encodeRaw raw.toList
    let now ← query .clock
    let expiresAt := now + challengeTTL
    match ← query (.saveNonce agentID (nonceDigest p plain) expiresAt) with
    | .error .agentNotFound => return .error .agentNotFound
    | .error _ => return .error .database
    | .ok () => return .ok (plain, expiresAt)

/-- The last step of `AgentAuthenticator.Verify`. -/
def useNonceProgram (signed : SignedRequest) (body : List UInt8) :
    Program Response (Except AuthError (List UInt8 × SignedRequest)) := do
  let now ← query .clock
  match ← query (.consumeNonce signed.agentID (nonceDigest p signed.nonce) now) with
  | .error _ => return .error .nonceUsed
  | .ok () => return .ok (body, signed)

/-- `AgentAuthenticator.Verify` once the request is parsed and the body read. -/
def authenticateProgram (request : Request) (signed : SignedRequest) (body : List UInt8) :
    Program Response (Except AuthError (List UInt8 × SignedRequest)) := do
  match ← query (.agentPublicKey signed.agentID) with
  | none => return .error .agentNotFound
  | some publicKey =>
    let now ← query .clock
    match verify p publicKey signed request.method request.requestURI body now with
    | .error e => return .error e
    | .ok () => useNonceProgram p signed body

/-- `AgentAuthenticator.Verify`. -/
def verifyProgram (request : Request) :
    Program Response (Except AuthError (List UInt8 × SignedRequest)) :=
  match parseSignedRequest request with
  | .error e => return .error e
  | .ok signed =>
    match request.readBody with
    | .error e => return .error e
    | .ok body => authenticateProgram p request signed body

/-! ### Binding -/

/-- How binding fails: "binding code is invalid, expired, or already used", the text of a check, or
    an error of the database as it is. -/
inductive BindError
  | invalidCode
  | invalid (message : String)
  | database
deriving DecidableEq, Repr

/-- How long a binding code is valid. -/
def defaultTTL : Int := 10 * minute

/-- `bindingDigest`. -/
def bindingDigest (value : String) : Option Digest :=
  match rawDecode urlAlphabet value.toList with
  | some raw =>
    if raw.length = 32 then some (p.sha256 (utf8 ("scwebvpn-binding-v1\x00" ++ value))) else none
  | none => none

/-- `Service.Issue`: the code and its expiry. -/
def issueCodeProgram (raw : Vector UInt8 32) : Program Response (Except BindError (String × Int)) :=
  let plain := encodeRaw raw.toList
  match bindingDigest p plain with
  | none => return .error .invalidCode
  | some digest => do
    let now ← query .clock
    let expiresAt := now + defaultTTL
    match ← query (.saveBindingCode digest expiresAt now) with
    | .error _ => return .error .database
    | .ok () => return .ok (plain, expiresAt)

/-- The name of an Agent, without the space around it. -/
def checkedName (displayName : String) : Option String :=
  let trimmed := String.ofList (trimSpace displayName.toList)
  if trimmed = "" ∨ 80 < trimmed.utf8ByteSize ∨ containsAny trimmed.toList ['\r', '\n', '\x00'] then
    none
  else some trimmed

/-- `Service.Bind`; `raw` is the random ID and `failure` the statement of the transaction that
    fails, if any does. -/
def bindProgram (code displayName : String) (publicKey : List UInt8) (raw : Vector UInt8 16)
    (failure : Option TxStatement) : Program Response (Except BindError Agent) :=
  match bindingDigest p code with
  | none => return .error .invalidCode
  | some digest =>
    match checkedName displayName with
    | none => return .error (.invalid "display name must contain 1 to 80 safe bytes")
    | some displayName =>
      match PublicKey.ofBytes publicKey with
      | none => return .error (.invalid "invalid Ed25519 public key")
      | some publicKey => do
        let now ← query .clock
        let agent : Agent := ⟨randomID raw, displayName, publicKey, now⟩
        match ← query (.consumeBindingCode digest agent now failure) with
        | .error .invalidCode => return .error .invalidCode
        | .error _ => return .error .database
        | .ok () => return .ok agent

end Programs

/-! ### Calls -/

/-- The calls of the identity service. -/
inductive Call
  | issue (agentID : String) (raw : Vector UInt8 32)
  | verify (request : Request)
  | issueCode (raw : Vector UInt8 32)
  | bind (code displayName : String) (publicKey : List UInt8) (raw : Vector UInt8 16)
    (failure : Option TxStatement)
deriving DecidableEq

/-- What a call returns. -/
inductive Answer
  | issued (outcome : Except AuthError (String × Int))
  | verified (outcome : Except AuthError (List UInt8 × SignedRequest))
  | codeIssued (outcome : Except BindError (String × Int))
  | bound (outcome : Except BindError Agent)
deriving DecidableEq

/-- A call as a program. -/
def Call.program (p : Primitives) : Call → Program Response Answer
  | .issue agentID raw => do return .issued (← issueProgram p agentID raw)
  | .verify request => do return .verified (← verifyProgram p request)
  | .issueCode raw => do return .codeIssued (← issueCodeProgram p raw)
  | .bind code displayName publicKey raw failure => do
    return .bound (← bindProgram p code displayName publicKey raw failure)

/-- The statements that a call may make. -/
def Call.makes (p : Primitives) : Call → Statement → Prop
  | .issue agentID raw, s => s = .clock ∨
      ∃ expiresAt, s = .saveNonce agentID (nonceDigest p (encodeRaw raw.toList)) expiresAt
  | .verify _, s => s = .clock ∨ (∃ agentID, s = .agentPublicKey agentID) ∨
      ∃ agentID digest now, s = .consumeNonce agentID digest now
  | .issueCode raw, s => s = .clock ∨ ∃ digest expiresAt createdAt,
      bindingDigest p (encodeRaw raw.toList) = some digest ∧
      s = .saveBindingCode digest expiresAt createdAt
  | .bind code _ _ _ _, s => s = .clock ∨ ∃ digest agent now failure,
      bindingDigest p code = some digest ∧ s = .consumeBindingCode digest agent now failure

theorem useNonceProgram_only (p : Primitives) (request : Request) (signed : SignedRequest)
    (body : List UInt8) : (useNonceProgram p signed body).Only ((Call.verify request).makes p) := by
  refine .call (.inl rfl) (fun now => .call (.inr (.inr ⟨_, _, _, rfl⟩)) (fun response => ?_))
  cases response <;> exact .ret _

theorem authenticateProgram_only (p : Primitives) (request : Request) (signed : SignedRequest)
    (body : List UInt8) :
    (authenticateProgram p request signed body).Only ((Call.verify request).makes p) := by
  refine .call (.inr (.inl ⟨_, rfl⟩)) (fun key => ?_)
  cases key with
  | none => exact .ret _
  | some key =>
    refine .call (.inl rfl) (fun now => ?_)
    have hchecked : (match verify p key signed request.method request.requestURI body now with
        | .error e => pure (Except.error e)
        | .ok () => useNonceProgram p signed body).Only ((Call.verify request).makes p) := by
      split
      · exact .ret _
      · exact useNonceProgram_only p request signed body
    exact hchecked

theorem program_only (p : Primitives) (call : Call) : (call.program p).Only (call.makes p) := by
  cases call with
  | issue agentID raw =>
    refine Program.Only.bind ?_ (fun _ => .ret _)
    unfold issueProgram
    split
    · exact .ret _
    · refine .call (.inl rfl) (fun now => .call (.inr ⟨_, rfl⟩) (fun response => ?_))
      rcases response with (_ | _ | _ | _) | _ <;> exact .ret _
  | verify request =>
    refine Program.Only.bind ?_ (fun _ => .ret _)
    unfold verifyProgram
    split
    · exact .ret _
    · split
      · exact .ret _
      · exact authenticateProgram_only p request _ _
  | issueCode raw =>
    refine Program.Only.bind ?_ (fun _ => .ret _)
    unfold issueCodeProgram
    simp only
    split
    · exact .ret _
    · rename_i digest hdigest
      refine .call (.inl rfl) (fun now => .call (.inr ⟨digest, _, _, hdigest, rfl⟩) ?_)
      intro response
      cases response <;> exact .ret _
  | bind code displayName publicKey raw failure =>
    refine Program.Only.bind ?_ (fun _ => .ret _)
    unfold bindProgram
    split
    · exact .ret _
    · rename_i digest hdigest
      split
      · exact .ret _
      · split
        · exact .ret _
        · refine .call (.inl rfl) (fun now => .call (.inr ⟨digest, _, _, _, hdigest, rfl⟩) ?_)
          intro response
          rcases response with (_ | _ | _ | _) | _ <;> exact .ret _

/-- Any number of calls, one statement at a time; in between the clock may be set. -/
def identityMachine (p : Primitives) : Machine Response Call Answer Int State where
  exec := exec
  program := Call.program p
  drift time s := { s with clock := time }

/-- The store after the migrations. -/
def emptyStore : IdentityStore := ⟨Table.empty, Table.empty, Table.empty⟩

/-- Interleavings that start with these Agents, and with no nonce and no code. -/
abbrev agentSystem (p : Primitives) (start : Int) (agents : Table AgentRow.id) :=
  (identityMachine p).system ⟨start, { emptyStore with agents := agents }⟩

/-- Interleavings that start with the empty store. -/
abbrev identitySystem (p : Primitives) (start : Int) := agentSystem p start Table.empty

/-- A recorded step, and all of them, the latest first. -/
abbrev Taken := Machine.Taken Response Call Answer Int State
/-- What the calls have done, the latest first. -/
abbrev History := List Taken

/-- A digest that tells apart the values of small runs, and a signature that starts with the key. -/
def samplePrimitives : Primitives where
  sha256 bytes := Vector.replicate 32 (bytes.foldl (fun n byte => 3 * n + byte) 0)
  ed25519Verify key _ signature := key.toList.isPrefixOf signature
  toUpper := id

end WebVPN.Identity
