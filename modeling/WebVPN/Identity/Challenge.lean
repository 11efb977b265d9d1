import WebVPN.Identity.Calls
import WebVPN.Identity.Canonical

namespace WebVPN.Identity

open WebVPN.Library WebVPN.Storage IdentityStore

/-!
# Identity — a challenge and the request that answers it

`Verify` accepts the request that `signedJSON` builds with the nonce of `Issue`, as long as the nonce lives
and the clocks agree (`challenge_answered`).
-/

section Challenge

variable {p : Primitives} {client : ControllerClient} {key : PublicKey} {raw : Vector UInt8 32} {s : State}
  {nonce method uri : String} {body : List UInt8} {issuedAt : Int} {row : NonceRow}

/-- The nonce waits for a request of this Agent. -/
structure Waits (p : Primitives) (store : IdentityStore) (agentID nonce : String) (row : NonceRow) : Prop where
  stored : store.nonces.find? (nonceDigest p nonce) = some row
  agent : row.agentID = agentID
  unused : row.consumedAt = none

/-- A new nonce for an active Agent is stored. -/
theorem issueProgram_run (hkey : s.store.agentPublicKey client.agentID = some key)
    (hfree : s.store.nonces.find? (nonceDigest p (encodeRaw raw.toList)) = none) :
    ∃ store row, (issueProgram p client.agentID raw).run exec s =
        (⟨s.clock, store⟩, .ok (encodeRaw raw.toList, s.clock + challengeTTL)) ∧
      store.agentPublicKey client.agentID = some key ∧
      Waits p store client.agentID (encodeRaw raw.toList) row ∧ row.expiresAt = unix (s.clock + challengeTTL) := by
  obtain ⟨agent, hagent, hpublic⟩ := Option.map_eq_some_iff.mp hkey
  have hid : agent.id = client.agentID := Table.key_of_find? (Option.filter_eq_some_iff.mp hagent).1
  have hvalid : ¬ validOpaqueID client.agentID 16 = false := by simp [client.valid]
  simp only [issueProgram, if_neg hvalid, Program.run_bind, Program.run_perform, exec, State.on, saveNonce,
    hagent, dif_pos hfree]
  exact ⟨_, _, rfl, hkey, ⟨(Table.find?_cons (h := hfree) ..).trans (if_pos rfl), hid, rfl⟩, rfl⟩

/-- The nonce is used up unless it has expired. -/
theorem Waits.consumeNonce {store : IdentityStore} (hwaits : Waits p store client.agentID nonce row)
    (now : Int) : (store.consumeNonce client.agentID (nonceDigest p nonce) now).2 =
      if unix now < row.expiresAt then .ok () else .error .nonceUsed := by
  have hdigest : row.digest = nonceDigest p nonce := Table.key_of_find? hwaits.stored
  simp only [IdentityStore.consumeNonce, Table.countP_eq _ (fun r => consumable_digest), hwaits.stored]
  simp [consumable, hdigest, hwaits.agent, hwaits.unused]

/-- **`Verify`** of a request by this client. -/
theorem verifyProgram_run (hkey : s.store.agentPublicKey client.agentID = some key)
    (hsign : ∀ message, p.ed25519Verify key message (client.sign message).toList = true)
    (hnonce : validOpaqueID nonce 32 = true) (htime : int64 (unix issuedAt) = some (unix issuedAt))
    (hmethod : method ≠ "") (hbody : body.length ≤ maxSignedBody)
    (hwaits : Waits p s.store client.agentID nonce row) :
    (∃ result, ((verifyProgram p (client.signed p nonce issuedAt method uri body)).run exec s).2 =
      .ok (body, result)) ↔ InWindow issuedAt s.clock ∧ unix s.clock < row.expiresAt := by
  have hsame : (client.signed p nonce issuedAt method uri body).method = method := if_neg hmethod
  have huri : (client.signed p nonce issuedAt method uri body).requestURI = uri := rfl
  simp only [verifyProgram, client.parseSignedRequest_signed hnonce htime,
    ControllerClient.readBody_signed hbody, authenticateProgram, Program.run_bind, Program.run_perform, exec,
    hkey, hsame]
  rw [verify_eq, huri, hsign]
  by_cases hwindow : InWindow issuedAt s.clock
  · rw [if_pos hwindow, if_neg (by decide)]
    simp only [useNonceProgram, Program.run_bind, Program.run_perform, exec, State.on, hwaits.consumeNonce]
    by_cases hlive : unix s.clock < row.expiresAt
    · simp [hwindow, hlive]
    · simp [hlive]
  · simp [hwindow]

end Challenge

/-- **A challenge is answered.**  `Issue` gives an active Agent a nonce, and the request that the Agent
    signs with it is accepted exactly when the clock of the Controller is within 90 seconds of the second in
    which the request was signed, and less than two minutes after the challenge, in whole seconds. -/
theorem challenge_answered (p : Primitives) (client : ControllerClient) (key : PublicKey)
    (hsign : ∀ message, p.ed25519Verify key message (client.sign message).toList = true)
    (raw : Vector UInt8 32) (s : State) (hkey : s.store.agentPublicKey client.agentID = some key)
    (hfree : s.store.nonces.find? (nonceDigest p (encodeRaw raw.toList)) = none) :
    ∃ store, (issueProgram p client.agentID raw).run exec s =
        (⟨s.clock, store⟩, .ok (encodeRaw raw.toList, s.clock + challengeTTL)) ∧
      ∀ (operation method uri : String) (body : List UInt8) (issuedAt now : Int) (request : Request),
        client.signedJSON p (.ok (encodeRaw raw.toList)) operation method (some body) (some uri) issuedAt =
          .ok request →
        method ≠ "" → int64 (unix issuedAt) = some (unix issuedAt) → body.length ≤ maxSignedBody →
        ((∃ signed, ((verifyProgram p request).run exec ⟨now, store⟩).2 = .ok (body, signed)) ↔
          InWindow issuedAt now ∧ unix now < unix (s.clock + challengeTTL)) := by
  obtain ⟨store, row, hissue, hkey', hwaits, hexpires⟩ := issueProgram_run hkey hfree
  refine ⟨store, hissue, fun operation method uri body issuedAt now request hrequest hmethod htime hbody => ?_⟩
  obtain ⟨_, _, _, hanswer, hencoded, huri, hnonce, rfl⟩ := ControllerClient.signedJSON_ok hrequest
  cases hanswer
  cases hencoded
  cases huri
  rw [← hexpires]
  exact verifyProgram_run (s := ⟨now, store⟩) hkey' hsign hnonce htime hmethod hbody hwaits

/-- The Controller reads `pollRequest` a minute after the challenge. -/
theorem challenge_answered_of_poll : ∃ store signed,
    ((verifyProgram samplePrimitives (pollRequest samplePrimitives)).run exec ⟨60 * second, store⟩).2 =
      .ok ([123, 125], signed) := by
  have hnonce : encodeRaw (Vector.replicate 32 (0 : UInt8)).toList = sampleNonce := by decide +kernel
  let agent : AgentRow := ⟨sampleClient.agentID, "agent", Vector.replicate 32 0, .active, 0⟩
  obtain ⟨store, -, hanswer⟩ := challenge_answered samplePrimitives sampleClient (Vector.replicate 32 0)
    (fun _ => rfl) (Vector.replicate 32 0) ⟨0, { emptyStore with agents := Table.empty.cons agent rfl }⟩
    rfl rfl
  exact ⟨store, (hanswer "poll" "POST" "/api/v1/agent/offers/next" [123, 125] (second / 2) (60 * second) _
    (hnonce ▸ signedJSON_post samplePrimitives _) (by decide) (by decide +kernel) (by decide)).mpr
    (by decide +kernel)⟩

end WebVPN.Identity
