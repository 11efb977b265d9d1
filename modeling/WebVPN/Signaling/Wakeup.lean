import WebVPN.Signaling.HandOff

namespace WebVPN.Signaling

open WebVPN.Library

/-!
# Signaling — wake-ups

`Next` looks for an offer, releases the lock and then waits on the notification channel of
its Agent, which holds one token.  `Create` drops its token when the channel is full.

* `LostWakeup` — a call is blocked while an offer for its Agent is there and no token is;
* `Broker.Turn`, `Broker.step_turn` — what a step does to the calls and the tokens;
* `Attended`, `Broker.attended_step` — with at most one waiting call for each Agent, an
  offer that waits has a token or nobody waits for it;
* `run_attended` — no wake-up is lost in a run in which no two calls for one Agent wait;
* `run_loses_wakeup` — with two of them, one is.
-/

/-- A call is blocked on the channel of its Agent, the channel is empty, and there is a live
    offer for the Agent that nobody has claimed. -/
def LostWakeup (b : Broker) : Prop :=
  ∃ call ∈ b.calls, call.pc = .blocked ∧ call.agentID ∉ b.tokens ∧
    ∃ e ∈ b.sessions.rows, e.offeredTo call.agentID = true ∧ b.clock - e.createdAt < sessionTTL

instance (b : Broker) : Decidable (LostWakeup b) :=
  inferInstanceAs (Decidable (∃ call ∈ b.calls, _))

/-- The Agent for which `Next` has looked in vain. -/
def Event.idleAgent : Event → Option String
  | .idle agentID _ => some agentID
  | _ => none

/-- No call ends its search in vain while another call for the same Agent waits. -/
def Unaccompanied (t : Transition Broker Action Event) : Prop :=
  ∀ agentID ∈ t.event.idleAgent,
    ∀ call ∈ t.before.calls, call.waiting = true → call.agentID ≠ agentID

instance (t : Transition Broker Action Event) : Decidable (Unaccompanied t) :=
  inferInstanceAs (Decidable (∀ agentID ∈ t.event.idleAgent, _))

/-! ### What a step does to the calls -/

/-- What a step does to the `Next` calls and to the tokens. -/
inductive Broker.Turn (b : Broker) : Event → List NextCall → List String → Prop
  | keep {e : Event} (hcreated : ∀ request id now, e ≠ .created request id now)
      (hidle : ∀ agentID now, e ≠ .idle agentID now) : Turn b e b.calls b.tokens
  | next (agentID : String) : Turn b .silent (b.calls ++ [⟨agentID, .scanning⟩]) b.tokens
  /-- `Create` wakes a blocked call. -/
  | wake {i : Nat} {call : NextCall} (hcall : b.calls[i]? = some call) (hpc : call.pc = .blocked)
      {request : CreateRequest} (hagent : call.agentID = request.agentID) (id : String) (now : Int) :
      Turn b (.created request id now) (b.calls.set i { call with pc := .scanning }) b.tokens
  /-- Nobody is blocked, and the channel holds a token afterwards. -/
  | token {request : CreateRequest} (id : String) (now : Int) {tokens : List String}
      (hblocked : ∀ call ∈ b.calls, call.agentID = request.agentID → call.pc ≠ .blocked)
      (htoken : request.agentID ∈ tokens) (hkeep : ∀ agentID ∈ b.tokens, agentID ∈ tokens) :
      Turn b (.created request id now) b.calls tokens
  | offered {i : Nat} {call : NextCall} (hcall : b.calls[i]? = some call) (offer : Offer)
      (now : Int) :
      Turn b (.offered call.agentID offer now) (b.calls.set i { call with pc := .returned }) b.tokens
  | idle {i : Nat} {call : NextCall} (hcall : b.calls[i]? = some call) (now : Int) :
      Turn b (.idle call.agentID now) (b.calls.set i { call with pc := .unlocked }) b.tokens
  /-- A call takes the token. -/
  | received {i : Nat} {call : NextCall} (hcall : b.calls[i]? = some call)
      (hpc : call.pc = .unlocked) :
      Turn b .silent (b.calls.set i { call with pc := .scanning }) (b.tokens.erase call.agentID)
  | blocked {i : Nat} {call : NextCall} (hcall : b.calls[i]? = some call)
      (hpc : call.pc = .unlocked) (htoken : call.agentID ∉ b.tokens) :
      Turn b .silent (b.calls.set i { call with pc := .blocked }) b.tokens
  | cancelled {i : Nat} {call : NextCall} (hcall : b.calls[i]? = some call) :
      Turn b .silent (b.calls.set i { call with pc := .returned }) b.tokens

section Turns

variable {u : Unicode} {b b' : Broker} {e : Event}

theorem Broker.notify_turn {b₀ : Broker} {request : CreateRequest} {receiver : Option Nat}
    (h : b₀.notify request.agentID receiver = some b') (hcalls : b₀.calls = b.calls)
    (htokens : b₀.tokens = b.tokens) (id : String) (now : Int) :
    b.Turn (.created request id now) b'.calls b'.tokens := by
  unfold Broker.notify at h
  cases receiver with
  | some i =>
    simp only at h
    split at h
    · cases h
    · rename_i call hcall
      split at h
      · rename_i hblocked
        cases h
        simp only [Broker.blockedOn, Bool.and_eq_true, decide_eq_true_eq] at hblocked
        rw [hcalls] at hcall
        simp only [hcalls, htokens]
        exact .wake hcall hblocked.2 hblocked.1 id now
      · cases h
  | none =>
    simp only at h
    split at h
    · cases h
    · rename_i hnone
      have hblocked : ∀ call ∈ b.calls, call.agentID = request.agentID → call.pc ≠ .blocked := by
        intro call hcall hagent hpc
        apply hnone
        rw [hcalls, List.any_eq_true]
        exact ⟨call, hcall, by simp [Broker.blockedOn, hagent, hpc]⟩
      split at h
      · rename_i htoken
        cases h
        rw [hcalls]
        rw [htokens] at htoken ⊢
        exact .token id now hblocked htoken (fun _ h => h)
      · cases h
        simp only [hcalls, htokens]
        exact .token id now hblocked List.mem_cons_self (fun _ h => List.mem_cons_of_mem _ h)

/-- **Inversion.**  What a step does to the calls and the tokens. -/
theorem Broker.step_turn {a : Action} (h : b.step u a = some (b', e)) :
    b.Turn e b'.calls b'.tokens := by
  cases a with
  | advance duration =>
    cases h
    exact .keep (by simp) (by simp)
  | create request raw =>
    simp only [Broker.step, Broker.beginCreate] at h
    split at h <;> cases h <;> exact .keep (by simp) (by simp)
  | commit index receiver =>
    simp only [Broker.step, Broker.commit] at h
    split at h
    · cases h
    · split at h
      · cases h
        exact .keep (by simp) (by simp)
      · split at h
        · cases h
        · rename_i hnotify
          cases h
          exact Broker.notify_turn (b := b) hnotify rfl rfl _ _
  | next agentID =>
    cases h
    exact .next agentID
  | scan index order =>
    simp only [Broker.step, Broker.scan] at h
    split at h
    · cases h
    · rename_i call hcall
      split at h
      · cases h
      · split at h
        · cases h
          exact .offered hcall _ _
        · cases h
          exact .idle hcall _
  | receive index =>
    simp only [Broker.step, Option.map_eq_some_iff, Prod.mk.injEq] at h
    obtain ⟨b₁, hreceive, rfl, rfl⟩ := h
    unfold Broker.receive at hreceive
    split at hreceive
    · cases hreceive
    · rename_i call hcall
      split at hreceive
      · cases hreceive
      · rename_i hpc
        rw [not_not] at hpc
        split at hreceive
        · cases hreceive
          exact .received hcall hpc
        · rename_i htoken
          cases hreceive
          exact .blocked hcall hpc htoken
  | cancel index =>
    simp only [Broker.step, Option.map_eq_some_iff, Prod.mk.injEq] at h
    obtain ⟨b₁, hcancel, rfl, rfl⟩ := h
    unfold Broker.cancel at hcancel
    split at hcancel
    · cases hcancel
    · rename_i call hcall
      split at hcancel
      · cases hcancel
        exact .cancelled hcall
      · cases hcancel
  | finish agentID sessionID result =>
    simp only [Broker.step, Broker.finish] at h
    split at h <;> cases h <;> exact .keep (by simp) (by simp)
  | status sessionID userDigest =>
    cases h
    exact .keep (by simp) (by simp)

end Turns

/-! ### What a step does to the offers that wait -/

/-- Some offer for the Agent waits to be claimed. -/
def Sessions.offersTo (sessions : Sessions) (agentID : String) : Prop :=
  ∃ e ∈ sessions.rows, e.offeredTo agentID = true

section Offers

variable {u : Unicode} {b : Broker} {agentID : String}

theorem offersTo_of_prune {sessions : Sessions} {now : Int}
    (h : (pruneLocked now sessions).offersTo agentID) : sessions.offersTo agentID := by
  obtain ⟨e, he, hoffered⟩ := h
  exact ⟨e, (Table.mem_filter.mp he).1, hoffered⟩

/-- A claimed entry is not offered. -/
theorem Entry.offeredTo_of_claimed {e : Entry} (h : e.claimed = true) :
    e.offeredTo agentID = false := by
  simp [Entry.offeredTo, h]

/-- Only `Create` adds an offer that waits. -/
theorem Broker.Effect.offersTo {e : Event} {sessions : Sessions} {creating : List Creating}
    (heffect : b.Effect u e sessions creating) (h : sessions.offersTo agentID) :
    b.sessions.offersTo agentID ∨ ∃ request id now, e = .created request id now ∧
      request.agentID = agentID := by
  cases heffect with
  | silent hnow hdrawn => exact .inl h
  | drawn id hcheck => exact .inl h
  | @created index c hc hrestarts =>
    obtain ⟨x, hx, hoffered⟩ := h
    rcases Table.mem_put.mp hx with rfl | ⟨hx, -⟩
    · refine .inr ⟨_, _, _, rfl, ?_⟩
      simp only [Entry.offeredTo, Bool.and_eq_true, decide_eq_true_eq] at hoffered
      exact hoffered.1.1.1
    · exact .inl (offersTo_of_prune ⟨x, hx, hoffered⟩)
  | refused hc hrestarts => exact .inl (offersTo_of_prune h)
  | @offered _ selected hmem hoffered =>
    obtain ⟨x, hx, hoffers⟩ := h
    obtain ⟨y, hy, rfl⟩ := Table.mem_update.mp hx
    -- the claimed entry does not count
    by_cases hid : y.id = selected.id
    · simp only [hid, decide_true, if_true] at hoffers
      rw [Entry.offeredTo_of_claimed rfl] at hoffers
      cases hoffers
    · simp only [hid, decide_false, Bool.false_eq_true, if_false] at hoffers
      exact .inl (offersTo_of_prune ⟨y, hy, hoffers⟩)
  | idle hnone => exact .inl (offersTo_of_prune h)
  | @finished agentID' sessionID result hcheck =>
    rcases finishLocked_cases b.sessions b.clock agentID' sessionID result with
      ⟨current, hfind, -, hclaimed, -, -, heq⟩ | ⟨current, -, -, -, heq⟩ | ⟨-, heq⟩
    · simp only [heq] at h
      obtain ⟨x, hx, hoffers⟩ := h
      obtain ⟨y, hy, rfl⟩ := Table.mem_update.mp hx
      by_cases hid : y.id = sessionID
      · -- the finished entry had been claimed
        have hsame : y = current := by
          have hy' := Table.find?_eq_some_iff.mpr ⟨hy, hid⟩
          rw [hfind] at hy'
          exact (Option.some.inj hy').symm
        have hfinish : (y.finish result).claimed = true := by
          rw [hsame, Entry.finish]
          cases result.answer <;> exact hclaimed
        simp only [hid, decide_true, if_true] at hoffers
        rw [Entry.offeredTo_of_claimed hfinish] at hoffers
        cases hoffers
      · simp only [hid, decide_false, Bool.false_eq_true, if_false] at hoffers
        exact .inl (offersTo_of_prune ⟨y, hy, hoffers⟩)
    · rw [heq] at h
      exact .inl (offersTo_of_prune h)
    · rw [heq] at h
      exact .inl (offersTo_of_prune h)
  | status => exact .inl (offersTo_of_prune h)

end Offers

/-! ### One waiting call for each Agent -/

/-- At most one call waits for each Agent. -/
def Alone (calls : List NextCall) : Prop :=
  ∀ (i j : Nat) (c c' : NextCall), calls[i]? = some c → calls[j]? = some c' → c.waiting = true → c'.waiting = true →
    c.agentID = c'.agentID → i = j

/-- A call that waits knows of every offer that waits: a blocked call has none, and a call
    that is about to wait finds the token if there is one. -/
structure Attended (b : Broker) : Prop where
  alone : Alone b.calls
  blocked : ∀ call ∈ b.calls, call.pc = .blocked → ¬ b.sessions.offersTo call.agentID
  unlocked : ∀ call ∈ b.calls, call.pc = .unlocked → b.sessions.offersTo call.agentID →
    call.agentID ∈ b.tokens

theorem Alone.set {calls : List NextCall} (h : Alone calls) {i : Nat} {c : NextCall}
    (hc : c.waiting = true → ∀ j c', calls[j]? = some c' → c'.waiting = true →
      c'.agentID = c.agentID → j = i) : Alone (calls.set i c) := by
  intro j k c₁ c₂ h₁ h₂ hw₁ hw₂ hagent
  rw [List.getElem?_set] at h₁ h₂
  by_cases hj : i = j
  · by_cases hk : i = k
    · exact hj.symm.trans hk
    · rw [if_neg hk] at h₂
      rw [if_pos hj] at h₁
      obtain ⟨-, rfl⟩ : _ ∧ c = c₁ := by simpa using h₁
      exact absurd (hc hw₁ k c₂ h₂ hw₂ hagent.symm).symm hk
  · rw [if_neg hj] at h₁
    by_cases hk : i = k
    · rw [if_pos hk] at h₂
      obtain ⟨-, rfl⟩ : _ ∧ c = c₂ := by simpa using h₂
      exact absurd (hc hw₂ j c₁ h₁ hw₁ hagent).symm hj
    · rw [if_neg hk] at h₂
      exact h j k c₁ c₂ h₁ h₂ hw₁ hw₂ hagent

section Attended

variable {u : Unicode} {b b' : Broker} {e : Event} {agentID : String}

/-- **A step that changes one call.**  Another call that waits keeps what it knew, as long as
    no offer for its Agent is new and the token of its Agent is not taken. -/
theorem Attended.set (h : Attended b) {i : Nat} {c : NextCall} (hcalls : b'.calls = b.calls.set i c)
    (halone : c.waiting = true → ∀ j c', b.calls[j]? = some c' → c'.waiting = true →
      c'.agentID = c.agentID → j = i)
    (hothers : ∀ j c', b.calls[j]? = some c' → j ≠ i → c'.waiting = true →
      (b'.sessions.offersTo c'.agentID → b.sessions.offersTo c'.agentID) ∧
        (c'.agentID ∈ b.tokens → c'.agentID ∈ b'.tokens))
    (hblocked : c.pc = .blocked → ¬ b'.sessions.offersTo c.agentID)
    (hunlocked : c.pc = .unlocked → b'.sessions.offersTo c.agentID → c.agentID ∈ b'.tokens) :
    Attended b' := by
  have hcases : ∀ c' ∈ b'.calls, c'.waiting = true → c' = c ∨ (c' ∈ b.calls ∧
      (b'.sessions.offersTo c'.agentID → b.sessions.offersTo c'.agentID) ∧
        (c'.agentID ∈ b.tokens → c'.agentID ∈ b'.tokens)) := by
    intro c' hc' hw
    rw [hcalls] at hc'
    obtain ⟨j, hj⟩ := List.getElem?_of_mem hc'
    rw [List.getElem?_set] at hj
    by_cases hij : i = j
    · rw [if_pos hij] at hj
      obtain ⟨-, rfl⟩ : _ ∧ c = c' := by simpa using hj
      exact .inl rfl
    · rw [if_neg hij] at hj
      exact .inr ⟨List.mem_of_getElem? hj, hothers j c' hj (fun heq => hij heq.symm) hw⟩
  constructor
  · rw [hcalls]
    exact h.alone.set halone
  · intro c' hc' hpc
    rcases hcases c' hc' (by simp [NextCall.waiting, hpc]) with rfl | ⟨hmem, hoffers, -⟩
    · exact hblocked hpc
    · exact fun hnew => h.blocked c' hmem hpc (hoffers hnew)
  · intro c' hc' hpc hnew
    rcases hcases c' hc' (by simp [NextCall.waiting, hpc]) with rfl | ⟨hmem, hoffers, htokens⟩
    · exact hunlocked hpc hnew
    · exact htokens (h.unlocked c' hmem hpc (hoffers hnew))

/-- The changed call does not wait. -/
theorem Attended.set_of_not_waiting (h : Attended b) {i : Nat} {c : NextCall}
    (hcalls : b'.calls = b.calls.set i c) (hc : c.waiting = false)
    (hothers : ∀ j c', b.calls[j]? = some c' → j ≠ i → c'.waiting = true →
      (b'.sessions.offersTo c'.agentID → b.sessions.offersTo c'.agentID) ∧
        (c'.agentID ∈ b.tokens → c'.agentID ∈ b'.tokens)) : Attended b' := by
  obtain ⟨hunlocked, hblocked⟩ : c.pc ≠ .unlocked ∧ c.pc ≠ .blocked := by
    simpa [NextCall.waiting] using hc
  refine h.set hcalls ?_ hothers (fun hpc => absurd hpc hblocked) (fun hpc => absurd hpc hunlocked)
  intro hw
  rw [hc] at hw
  cases hw

/-- A step that leaves the calls and the tokens alone and adds no offer. -/
theorem Attended.keep (h : Attended b) (hcalls : b'.calls = b.calls) (htokens : b'.tokens = b.tokens)
    (hsame : ∀ agentID, b'.sessions.offersTo agentID → b.sessions.offersTo agentID) : Attended b' := by
  constructor
  · rw [hcalls]; exact h.alone
  · rw [hcalls]; exact fun c hc hpc hnew => h.blocked c hc hpc (hsame _ hnew)
  · rw [hcalls, htokens]; exact fun c hc hpc hnew => h.unlocked c hc hpc (hsame _ hnew)

/-- A new call of `Next` does not wait yet. -/
theorem Attended.next (h : Attended b)
    (hcalls : b'.calls = b.calls ++ [⟨agentID, .scanning⟩]) (htokens : b'.tokens = b.tokens)
    (hsame : ∀ agentID, b'.sessions.offersTo agentID → b.sessions.offersTo agentID) : Attended b' := by
  have hold : ∀ {i : Nat} {c : NextCall}, b'.calls[i]? = some c → c.waiting = true →
      b.calls[i]? = some c := by
    intro i c hi hw
    rw [hcalls, List.getElem?_append] at hi
    split at hi
    · exact hi
    · rw [List.getElem?_singleton] at hi
      split at hi <;> cases hi
      cases hw
  have hmem : ∀ c ∈ b'.calls, c.waiting = true → c ∈ b.calls := by
    intro c hc hw
    obtain ⟨i, hi⟩ := List.getElem?_of_mem hc
    exact List.mem_of_getElem? (hold hi hw)
  constructor
  · exact fun i j c c' hi hj hw hw' => h.alone i j c c' (hold hi hw) (hold hj hw') hw hw'
  · intro c hc hpc hnew
    exact h.blocked c (hmem c hc (by simp [NextCall.waiting, hpc])) hpc (hsame _ hnew)
  · intro c hc hpc hnew
    rw [htokens]
    exact h.unlocked c (hmem c hc (by simp [NextCall.waiting, hpc])) hpc (hsame _ hnew)

/-- `Create` finds nobody blocked and leaves a token. -/
theorem Attended.token (h : Attended b) (hcalls : b'.calls = b.calls)
    (hblocked : ∀ call ∈ b.calls, call.agentID = agentID → call.pc ≠ .blocked)
    (htoken : agentID ∈ b'.tokens) (hkeep : ∀ agentID ∈ b.tokens, agentID ∈ b'.tokens)
    (hother : ∀ agentID', agentID' ≠ agentID → b'.sessions.offersTo agentID' →
      b.sessions.offersTo agentID') : Attended b' := by
  constructor
  · rw [hcalls]; exact h.alone
  · rw [hcalls]
    intro c hc hpc hnew
    exact h.blocked c hc hpc (hother _ (fun heq => hblocked c hc heq hpc) hnew)
  · rw [hcalls]
    intro c hc hpc hnew
    by_cases heq : c.agentID = agentID
    · rw [heq]; exact htoken
    · exact hkeep _ (h.unlocked c hc hpc (hother _ heq hnew))

/-- A search in vain leaves no offer for its Agent. -/
theorem Broker.Effect.not_offersTo_of_idle {now : Int} {sessions : Sessions}
    {creating : List Creating} (h : b.Effect u (.idle agentID now) sessions creating) :
    ¬ sessions.offersTo agentID := by
  rintro ⟨x, hx, hoffered⟩
  cases h with
  | silent hnow hdrawn => cases hnow
  | idle hnone =>
    rw [hnone x hx] at hoffered
    cases hoffered

/-- **Step.**  A step keeps every waiting call attended, unless it leaves a second call for
    the same Agent waiting. -/
theorem Broker.attended_step {a : Action} (h : Attended b) (hs : b.step u a = some (b', e))
    (hidle : Unaccompanied ⟨b, a, e⟩) : Attended b' := by
  have heffect := (Broker.step_effect hs).1
  have hturn := Broker.step_turn hs
  -- an offer that is new was created by this step
  have hold : ∀ agentID, b'.sessions.offersTo agentID →
      (∀ request id now, e = .created request id now → request.agentID ≠ agentID) →
      b.sessions.offersTo agentID := by
    intro agentID hnew hcreated
    rcases heffect.offersTo hnew with hold | ⟨request, id, now, heq, hagent⟩
    · exact hold
    · exact absurd hagent (hcreated request id now heq)
  -- two calls for one Agent do not wait at once
  have hapart : ∀ {i j : Nat} {call c' : NextCall}, b.calls[i]? = some call → call.waiting = true →
      b.calls[j]? = some c' → j ≠ i → c'.waiting = true → c'.agentID ≠ call.agentID :=
    fun hcall hw hj hji hw' heq => hji (h.alone _ _ _ _ hj hcall hw' hw heq)
  generalize hcalls : b'.calls = calls at hturn
  generalize htokens : b'.tokens = tokens at hturn
  cases hturn with
  | keep hcreated hnotIdle =>
    exact h.keep hcalls htokens
      (fun agentID hnew => hold agentID hnew (fun _ _ _ heq => absurd heq (hcreated _ _ _)))
  | next agentID => exact h.next hcalls htokens (fun agentID hnew => hold agentID hnew nofun)
  | @wake i call hcall hpc request hagent id now =>
    refine h.set_of_not_waiting hcalls rfl ?_
    intro j c' hj hji hw
    refine ⟨fun hnew => hold _ hnew ?_, fun hin => by rw [htokens]; exact hin⟩
    rintro request' id' now' heq
    cases heq
    rw [← hagent]
    exact (hapart hcall (by simp [NextCall.waiting, hpc]) hj hji hw).symm
  | @token request id now tokens hblocked htoken hkeep =>
    subst htokens
    refine h.token hcalls hblocked htoken hkeep (fun agentID hne hnew => hold agentID hnew ?_)
    rintro request' id' now' heq
    cases heq
    exact hne.symm
  | @offered i call hcall offer now =>
    refine h.set_of_not_waiting hcalls rfl ?_
    intro j c' _ _ _
    exact ⟨fun hnew => hold _ hnew nofun, fun hin => by rw [htokens]; exact hin⟩
  | @idle i call hcall now =>
    have hnobody := hidle call.agentID rfl
    refine h.set hcalls ?_ ?_ (fun hpc => by cases hpc)
      (fun _ hnew => absurd hnew heffect.not_offersTo_of_idle)
    · intro _ j c' hj hw hagent
      exact absurd hagent (hnobody c' (List.mem_of_getElem? hj) hw)
    · intro j c' _ _ _
      exact ⟨fun hnew => hold _ hnew nofun, fun hin => by rw [htokens]; exact hin⟩
  | @received i call hcall hpc =>
    refine h.set_of_not_waiting hcalls rfl ?_
    intro j c' hj hji hw
    refine ⟨fun hnew => hold _ hnew nofun, fun hin => ?_⟩
    have hne := hapart hcall (by simp [NextCall.waiting, hpc]) hj hji hw
    rw [htokens]
    exact (List.mem_erase_of_ne hne).mpr hin
  | @blocked i call hcall hpc htoken =>
    refine h.set hcalls ?_ ?_ ?_ (fun hpc => by cases hpc)
    · intro _ j c' hj hw hagent
      by_contra hji
      exact hapart hcall (by simp [NextCall.waiting, hpc]) hj hji hw hagent
    · intro j c' _ _ _
      exact ⟨fun hnew => hold _ hnew nofun, fun hin => by rw [htokens]; exact hin⟩
    · -- a waiting offer would have left a token
      intro _ hnew
      exact htoken (h.unlocked call (List.mem_of_getElem? hcall) hpc (hold _ hnew nofun))
  | @cancelled i call hcall =>
    refine h.set_of_not_waiting hcalls rfl ?_
    intro j c' _ _ _
    exact ⟨fun hnew => hold _ hnew nofun, fun hin => by rw [htokens]; exact hin⟩

theorem attended_new (start : Int) : Attended (Broker.new start) := by
  constructor <;> simp [Broker.new, Alone]

/-- **No wake-up is lost** in a run in which no call starts to wait while another call for the
    same Agent does. -/
theorem run_attended {start : Int} {h : History}
    (hr : (brokerSystem u start).Run h b) (hcalls : ∀ t ∈ h, Unaccompanied t) :
    ∀ b' ∈ System.visited h b, ¬ LostWakeup b' := by
  have hattended : ∀ b' ∈ System.visited h b, Attended b' :=
    hr.invariant_under hcalls (attended_new start)
      (fun t b' hidle hbefore hs => Broker.attended_step hbefore hs hidle)
  rintro b' hb' ⟨call, hcall, hpc, -, e, he, hoffered, -⟩
  exact (hattended b' hb').blocked call hcall hpc ⟨e, he, hoffered⟩

end Attended

/-! Two browsers, and an Agent that polls twice. -/

/-- Two calls of the Agent find nothing; then two offers are created, and the second token is
    dropped.  One call takes the token and the first offer, the other one blocks. -/
def twoPolls : List Action :=
  [.next sampleID, .next sampleID, .scan 0 [], .scan 1 [],
    .create sampleRequest (Vector.replicate 16 0), .commit 0 none,
    .create sampleRequest (Vector.replicate 16 1), .commit 0 none,
    .receive 0,
    .scan 0 [sampleRequest.entry (randomID (Vector.replicate 16 1)) 0,
      sampleRequest.entry (randomID (Vector.replicate 16 0)) 0],
    .receive 1]

/-- **A wake-up is lost.**  The second call is blocked on an empty channel, and the first
    offer has not been claimed. -/
theorem run_loses_wakeup :
    ∃ h b, (brokerSystem Unicode.ascii 0).Run h b ∧ LostWakeup b := by
  obtain ⟨h, b, hr, hc⟩ := System.exists_run_of_exec (S := brokerSystem Unicode.ascii 0)
    (P := fun _ b => decide (LostWakeup b)) twoPolls (by decide +kernel)
  exact ⟨h, b, hr, of_decide_eq_true hc⟩

/-- One call at a time: it finds nothing, waits, is woken by `Create` and gets the offer. -/
def onePoll : List Action :=
  [.next sampleID, .scan 0 [], .receive 0, .create sampleRequest (Vector.replicate 16 0),
    .commit 0 (some 0), .scan 0 [sampleRequest.entry sampleID 0]]

theorem run_attended_of_onePoll : ∃ h b, (brokerSystem Unicode.ascii 0).Run h b ∧
    h.head?.map Transition.event = some (.offered sampleID (sampleRequest.toOffer sampleID) 0) ∧
    (∀ t ∈ h, Unaccompanied t) ∧ ∀ b' ∈ System.visited h b, ¬ LostWakeup b' := by
  obtain ⟨h, b, hr, hc⟩ := System.exists_run_of_exec (S := brokerSystem Unicode.ascii 0)
    (P := fun h _ => decide (h.head?.map Transition.event =
        some (.offered sampleID (sampleRequest.toOffer sampleID) 0) ∧ ∀ t ∈ h, Unaccompanied t))
    onePoll (by decide +kernel)
  obtain ⟨hhead, hcalls⟩ := of_decide_eq_true hc
  exact ⟨h, b, hr, hhead, hcalls, run_attended hr hcalls⟩

end WebVPN.Signaling
