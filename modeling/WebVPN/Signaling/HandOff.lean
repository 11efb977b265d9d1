import WebVPN.Signaling.Broker

namespace WebVPN.Signaling

open WebVPN.Library

/-!
# Signaling — routing and hand-off

What the broker tells its callers is a function of what it told them before: the map of
sessions can be read off the history of events.

* `Broker.Effect`, `Broker.step_effect` — what one step does to the map, event by event;
* `LiveSince`, `ledgerEntry` — the entry of an ID according to the history;
* `Accounted`, `Broker.Effect.accounted`, `run_accounted` — the map agrees with the history, after one
  step and after every run;
* `Routed`, `run_handOff` — what every `Next`, `Finish`, `Status` and restart returns;
* `malformed_after_expiry` — the one way in which an expired ID is not reported as missing.
-/

/-! ### Selection -/

/-- The loop in `Next` keeps an entry that may be offered, unless there is none. -/
theorem foldl_preferEarlier (agentID : String) (order : List Entry) (selected : Option Entry) :
    (∀ e, order.foldl (preferEarlier agentID) selected = some e →
      (e ∈ order ∧ e.offeredTo agentID = true) ∨ selected = some e) ∧
    (order.foldl (preferEarlier agentID) selected = none →
      selected = none ∧ ∀ e ∈ order, e.offeredTo agentID = false) := by
  induction order generalizing selected with
  | nil => simp
  | cons current order ih =>
    obtain ⟨hsome, hnone⟩ := ih (preferEarlier agentID selected current)
    rw [List.foldl_cons]
    constructor
    · intro e he
      rcases hsome e he with ⟨hmem, hoffered⟩ | hselected
      · exact .inl ⟨List.mem_cons_of_mem _ hmem, hoffered⟩
      · unfold preferEarlier at hselected
        split at hselected
        · rename_i hprefer
          cases hselected
          exact .inl ⟨List.mem_cons_self, hprefer.1⟩
        · exact .inr hselected
    · intro he
      obtain ⟨hselected, hrest⟩ := hnone he
      unfold preferEarlier at hselected
      split at hselected
      · cases hselected
      · rename_i hprefer
        subst hselected
        have hcurrent : current.offeredTo agentID = false := by simpa using hprefer
        exact ⟨rfl, List.forall_mem_cons.mpr ⟨hcurrent, hrest⟩⟩

theorem selectNext_some {agentID : String} {order : List Entry} {e : Entry}
    (h : selectNext agentID order = some e) : e ∈ order ∧ e.offeredTo agentID = true := by
  rcases (foldl_preferEarlier agentID order none).1 e h with hmem | hnone
  · exact hmem
  · cases hnone

theorem selectNext_none {agentID : String} {order : List Entry}
    (h : selectNext agentID order = none) : ∀ e ∈ order, e.offeredTo agentID = false :=
  ((foldl_preferEarlier agentID order none).2 h).2

/-! ### What a step does -/

/-- What a step does to the map of sessions and to the `Create` calls under way. -/
inductive Broker.Effect (u : Unicode) (b : Broker) : Event → Sessions → List Creating → Prop
  | silent {e : Event} (hnow : e.now = none) (hdrawn : ∀ id, e ≠ .drawn id) :
      Effect u b e b.sessions b.creating
  | drawn {request : CreateRequest} (id : String) (hcheck : request.check u = .ok ()) :
      Effect u b (.drawn id) b.sessions (⟨request, id, b.clock⟩ :: b.creating)
  | created {index : Nat} {c : Creating} (hc : b.creating[index]? = some c)
      (hrestarts : c.request.restarts (pruneLocked c.now b.sessions) = true) :
      Effect u b (.created c.request c.id c.now)
        ((pruneLocked c.now b.sessions).put (c.request.entry c.id c.now))
        (b.creating.eraseIdx index)
  | refused {index : Nat} {c : Creating} (hc : b.creating[index]? = some c)
      (hrestarts : c.request.restarts (pruneLocked c.now b.sessions) = false) :
      Effect u b (.refused c.request c.now errRestart) (pruneLocked c.now b.sessions)
        (b.creating.eraseIdx index)
  | offered {agentID : String} {selected : Entry}
      (hmem : (pruneLocked b.clock b.sessions).find? selected.id = some selected)
      (hoffered : selected.offeredTo agentID = true) :
      Effect u b (.offered agentID selected.toOffer b.clock)
        (claim (pruneLocked b.clock b.sessions) selected.id) b.creating
  | idle {agentID : String}
      (hnone : ∀ e ∈ (pruneLocked b.clock b.sessions).rows, e.offeredTo agentID = false) :
      Effect u b (.idle agentID b.clock) (pruneLocked b.clock b.sessions) b.creating
  | finished {agentID sessionID : String} {result : Result} (hcheck : result.check u = .ok ()) :
      Effect u b
        (.finished agentID sessionID result b.clock
          (finishLocked b.sessions b.clock agentID sessionID result).2)
        (finishLocked b.sessions b.clock agentID sessionID result).1 b.creating
  | status {sessionID : String} {userDigest : Digest} :
      Effect u b
        (.status sessionID userDigest b.clock
          (statusLocked b.sessions b.clock sessionID userDigest).2)
        (pruneLocked b.clock b.sessions) b.creating

theorem statusLocked_sessions (sessions : Sessions) (now : Int) (sessionID : String)
    (userDigest : Digest) :
    (statusLocked sessions now sessionID userDigest).1 = pruneLocked now sessions := by
  unfold statusLocked
  simp only
  split
  · rfl
  · split <;> rfl

section Steps

variable {u : Unicode} {b b' : Broker} {e : Event} {receiver : Option Nat} {index : Nat}

/-- The notification touches neither the map nor the `Create` calls. -/
theorem Broker.notify_frame {agentID : String} (h : b.notify agentID receiver = some b') :
    b'.sessions = b.sessions ∧ b'.creating = b.creating ∧ b'.clock = b.clock := by
  unfold Broker.notify at h
  split at h
  · split at h
    · cases h
    · split at h
      · cases h; exact ⟨rfl, rfl, rfl⟩
      · cases h
  · split at h
    · cases h
    · split at h <;> cases h <;> exact ⟨rfl, rfl, rfl⟩

/-- **Inversion of `Create` under its lock.** -/
theorem Broker.commit_cases (h : b.commit index receiver = some (b', e)) :
    ∃ call, b.creating[index]? = some call ∧ b'.creating = b.creating.eraseIdx index ∧
      b'.clock = b.clock ∧
      ((e = .created call.request call.id call.now ∧
          call.request.restarts (pruneLocked call.now b.sessions) = true ∧
          b'.sessions = (pruneLocked call.now b.sessions).put (call.request.entry call.id call.now)) ∨
        (e = .refused call.request call.now errRestart ∧
          call.request.restarts (pruneLocked call.now b.sessions) = false ∧
          b'.sessions = pruneLocked call.now b.sessions)) := by
  unfold Broker.commit at h
  cases hc : b.creating[index]? with
  | none => simp [hc] at h
  | some call =>
    refine ⟨call, rfl, ?_⟩
    simp only [hc, createLocked] at h
    by_cases hrestarts : call.request.restarts (pruneLocked call.now b.sessions) = true
    · simp only [hrestarts, if_true] at h
      split at h
      · cases h
      · rename_i b₁ hnotify
        cases h
        obtain ⟨hsessions, hcreating, hclock⟩ := Broker.notify_frame hnotify
        exact ⟨hcreating, hclock, .inl ⟨rfl, hrestarts, hsessions⟩⟩
    · rw [Bool.not_eq_true] at hrestarts
      simp only [hrestarts, Bool.false_eq_true, if_false, Option.some.injEq, Prod.mk.injEq] at h
      obtain ⟨rfl, rfl⟩ := h
      exact ⟨rfl, rfl, .inr ⟨rfl, hrestarts, rfl⟩⟩

theorem Broker.commit_effect (h : b.commit index receiver = some (b', e)) :
    b.Effect u e b'.sessions b'.creating ∧ b'.clock = b.clock := by
  obtain ⟨call, hcall, hcreating, hclock, ⟨rfl, hrestarts, hsessions⟩ | ⟨rfl, hrestarts, hsessions⟩⟩ :=
    Broker.commit_cases h <;> rw [hsessions, hcreating]
  · exact ⟨.created hcall hrestarts, hclock⟩
  · exact ⟨.refused hcall hrestarts, hclock⟩

/-- How `Create` ends under its lock. -/
theorem Broker.commit_event {call : Creating}
    (hcall : b.creating[index]? = some call) (h : b.commit index receiver = some (b', e)) :
    (e = .created call.request call.id call.now ∧
        call.request.restarts (pruneLocked call.now b.sessions) = true) ∨
      (e = .refused call.request call.now errRestart ∧
        call.request.restarts (pruneLocked call.now b.sessions) = false) := by
  obtain ⟨call', hcall', -, -, hends⟩ := Broker.commit_cases h
  obtain rfl : call = call' := Option.some.inj (hcall.symm.trans hcall')
  exact hends.imp (fun hcreated => ⟨hcreated.1, hcreated.2.1⟩) (fun hrefused => ⟨hrefused.1, hrefused.2.1⟩)

theorem Broker.scan_effect {order : List Entry} (h : b.scan index order = some (b', e)) :
    b.Effect u e b'.sessions b'.creating ∧ b'.clock = b.clock := by
  unfold Broker.scan at h
  cases hcall : b.calls[index]? with
  | none => simp [hcall] at h
  | some call =>
    simp only [hcall] at h
    split at h
    · cases h
    · rename_i hguard
      rw [not_or, not_not, Bool.not_eq_false, List.isPerm_iff] at hguard
      cases hselect : selectNext call.agentID order with
      | some selected =>
        simp only [hselect, Option.some.injEq, Prod.mk.injEq] at h
        obtain ⟨rfl, rfl⟩ := h
        obtain ⟨hmem, hoffered⟩ := selectNext_some hselect
        have hfind := Table.find?_eq_some_iff.mpr ⟨hguard.2.mem_iff.mp hmem, rfl⟩
        exact ⟨.offered hfind hoffered, rfl⟩
      | none =>
        simp only [hselect, Option.some.injEq, Prod.mk.injEq] at h
        obtain ⟨rfl, rfl⟩ := h
        refine ⟨.idle ?_, rfl⟩
        intro e he
        exact selectNext_none hselect e (hguard.2.mem_iff.mpr he)

/-- The time that passes during a step. -/
def Action.elapsed : Action → Nat
  | .advance duration => duration
  | _ => 0

/-- **Inversion.**  What a step does to the map and to the clock. -/
theorem Broker.step_effect {a : Action} (h : b.step u a = some (b', e)) :
    b.Effect u e b'.sessions b'.creating ∧ b'.clock = b.clock + a.elapsed := by
  cases a with
  | advance duration =>
    cases h
    exact ⟨.silent rfl nofun, rfl⟩
  | create request raw =>
    simp only [Broker.step, Broker.beginCreate] at h
    cases hcheck : request.check u with
    | error message =>
      rw [hcheck] at h
      cases h
      exact ⟨.silent rfl nofun, (Int.add_zero _).symm⟩
    | ok =>
      rw [hcheck] at h
      cases h
      exact ⟨.drawn _ hcheck, (Int.add_zero _).symm⟩
  | commit index receiver =>
    obtain ⟨heffect, hclock⟩ := Broker.commit_effect h
    exact ⟨heffect, hclock.trans (Int.add_zero _).symm⟩
  | next agentID =>
    cases h
    exact ⟨.silent rfl nofun, (Int.add_zero _).symm⟩
  | scan call order =>
    obtain ⟨heffect, hclock⟩ := Broker.scan_effect h
    exact ⟨heffect, hclock.trans (Int.add_zero _).symm⟩
  | receive call =>
    simp only [Broker.step, Option.map_eq_some_iff, Prod.mk.injEq] at h
    obtain ⟨b₁, hreceive, rfl, rfl⟩ := h
    unfold Broker.receive at hreceive
    split at hreceive
    · cases hreceive
    · split at hreceive
      · cases hreceive
      · split at hreceive <;> cases hreceive <;> exact ⟨.silent rfl nofun, (Int.add_zero _).symm⟩
  | cancel call =>
    simp only [Broker.step, Option.map_eq_some_iff, Prod.mk.injEq] at h
    obtain ⟨b₁, hcancel, rfl, rfl⟩ := h
    unfold Broker.cancel at hcancel
    split at hcancel
    · cases hcancel
    · split at hcancel
      · cases hcancel; exact ⟨.silent rfl nofun, (Int.add_zero _).symm⟩
      · cases hcancel
  | finish agentID sessionID result =>
    simp only [Broker.step, Broker.finish] at h
    cases hcheck : result.check u with
    | error message =>
      rw [hcheck] at h
      cases h
      exact ⟨.silent rfl nofun, (Int.add_zero _).symm⟩
    | ok =>
      rw [hcheck] at h
      cases h
      exact ⟨.finished hcheck, (Int.add_zero _).symm⟩
  | status sessionID userDigest =>
    simp only [Broker.step, Broker.status, Option.some.injEq, Prod.mk.injEq] at h
    obtain ⟨rfl, rfl⟩ := h
    simp only [statusLocked_sessions]
    exact ⟨.status, (Int.add_zero _).symm⟩

theorem Broker.step_clock_le {a : Action} (h : b.step u a = some (b', e)) : b.clock ≤ b'.clock := by
  rw [(Broker.step_effect h).2]
  exact Int.le_add_of_nonneg_right (Int.natCast_nonneg _)

/-- Only `Create` under its lock makes an entry. -/
theorem Broker.step_created {a : Action} {request : CreateRequest} {id : String} {now : Int}
    (h : b.step u a = some (b', .created request id now)) :
    ∃ index receiver, a = .commit index receiver := by
  cases a with
  | commit index receiver => exact ⟨index, receiver, rfl⟩
  | advance | next | status => cases h
  | create request raw =>
    simp only [Broker.step, Broker.beginCreate] at h
    split at h <;> cases h
  | scan call order =>
    simp only [Broker.step, Broker.scan] at h
    split at h
    · cases h
    · split at h
      · cases h
      · split at h <;> cases h
  | receive call =>
    simp only [Broker.step, Option.map_eq_some_iff, Prod.mk.injEq, reduceCtorEq, and_false,
      exists_false] at h
  | cancel call =>
    simp only [Broker.step, Option.map_eq_some_iff, Prod.mk.injEq, reduceCtorEq, and_false,
      exists_false] at h
  | finish agentID sessionID result =>
    simp only [Broker.step, Broker.finish] at h
    split at h <;> cases h

end Steps

/-! ### What the history says of an ID -/

/-- The event hands the session to an Agent. -/
def Event.offers (id : String) : Event → Bool
  | .offered _ offer _ => offer.id = id
  | _ => false

/-- The result that the event gives to the session. -/
def Event.result (id : String) : Event → Option Result
  | .finished _ sessionID result _ (.ok ()) => if sessionID = id then some result else none
  | _ => none

/-- The ID that `Create` has drawn. -/
def Event.drawnID : Event → Option String
  | .drawn id => some id
  | _ => none

/-- The results given to a session, the latest first. -/
def results (events : List Event) (id : String) : List Result := events.filterMap (Event.result id)

/-- The session was created at `created`, and no lock section since has read the clock at or
    after its expiry. -/
def LiveSince : List Event → String → CreateRequest → Int → Prop
  | [], _, _, _ => False
  | e :: earlier, id, request, created =>
    e = .created request id created ∨
      (LiveSince earlier id request created ∧ ∀ now ∈ e.now, now < created + sessionTTL)

/-- The entry of a session: as it was created, claimed if it has been offered, with the result
    it has been given. -/
def ledgerEntry (events : List Event) (request : CreateRequest) (id : String) (created : Int) :
    Entry :=
  { request.entry id created with
    claimed := events.any (Event.offers id)
    answer := (results events id).head?.bind Result.answer
    failureCode := ((results events id).head?.map Result.failureCode).getD "" }

theorem results_cons (e : Event) (events : List Event) (id : String) :
    results (e :: events) id = (e.result id).toList ++ results events id := by
  unfold results
  rw [List.filterMap_cons]
  cases e.result id <;> rfl

theorem LiveSince.mem {events : List Event} {id : String} {request : CreateRequest}
    {created : Int} (h : LiveSince events id request created) :
    .created request id created ∈ events := by
  induction events with
  | nil => cases h
  | cons e earlier ih =>
    rcases h with rfl | ⟨h, -⟩
    · exact List.mem_cons_self
    · exact List.mem_cons_of_mem _ (ih h)

theorem liveSince_cons {e : Event} (he : ∀ request id now, e ≠ .created request id now)
    {events : List Event} {id : String} {request : CreateRequest} {created : Int} :
    LiveSince (e :: events) id request created ↔
      LiveSince events id request created ∧ ∀ now ∈ e.now, now < created + sessionTTL := by
  constructor
  · rintro (h | h)
    · exact absurd h (he _ _ _)
    · exact h
  · exact .inr

/-- A validated result has an answer or a failure code, not both. -/
theorem Result.check_eq_ok {u : Unicode} {result : Result} (h : result.check u = .ok ()) :
    ¬ (result.answer = none ↔ result.failureCode = "") := by
  simp only [Result.check, then_eq_ok, reject_eq_ok] at h
  exact h.1

/-- **The map agrees with the history.** -/
structure Accounted (u : Unicode) (events : List Event) (b : Broker) : Prop where
  creating_drawn : ∀ c ∈ b.creating, .drawn c.id ∈ events
  creating_nodup : (b.creating.map Creating.id).Nodup
  creating_fresh : ∀ c ∈ b.creating, ∀ request now, .created request c.id now ∉ events
  created_drawn : ∀ request id now, .created request id now ∈ events → .drawn id ∈ events
  created_unique : ∀ id request now request' now', .created request id now ∈ events →
    .created request' id now' ∈ events → request = request' ∧ now = now'
  offered_created : ∀ id, events.any (Event.offers id) = true →
    ∃ request now, .created request id now ∈ events
  finished_created : ∀ id, ∀ result ∈ results events id,
    (∃ request now, .created request id now ∈ events) ∧ result.check u = .ok ()
  offered_once : ∀ id, events.countP (Event.offers id) ≤ 1
  finished_once : ∀ id, (results events id).length ≤ 1
  readings : ∀ e ∈ events, ∀ now ∈ e.now, now ≤ b.clock
  creating_readings : ∀ c ∈ b.creating, c.now ≤ b.clock
  entry_iff : ∀ id e, b.sessions.find? id = some e ↔
    ∃ request created, LiveSince events id request created ∧
      e = ledgerEntry events request id created

section Accounting

variable {u : Unicode} {events : List Event} {b b' : Broker} {e : Event}

/-- The pruning of the lock section that an event comes from. -/
def sweep (e : Event) (sessions : Sessions) : Sessions :=
  match e.now with
  | none => sessions
  | some now => pruneLocked now sessions

theorem Accounted.find?_sweep (h : Accounted u events b) (e : Event) (id : String) (x : Entry) :
    (sweep e b.sessions).find? id = some x ↔ ∃ request created,
      (LiveSince events id request created ∧ ∀ now ∈ e.now, now < created + sessionTTL) ∧
        x = ledgerEntry events request id created := by
  unfold sweep
  cases hnow : e.now with
  | none => simp [h.entry_iff]
  | some now =>
    simp only [pruneLocked, Table.find?_filter, Option.filter_eq_some_iff, h.entry_iff,
      decide_eq_true_eq, Option.mem_def, Option.some.injEq, forall_eq']
    constructor
    · rintro ⟨⟨request, created, hlive, rfl⟩, hlt⟩
      have hlt' : now - created < sessionTTL := hlt
      exact ⟨request, created, ⟨hlive, by omega⟩, rfl⟩
    · rintro ⟨request, created, ⟨hlive, hlt⟩, rfl⟩
      refine ⟨⟨request, created, hlive, rfl⟩, ?_⟩
      show now - created < sessionTTL
      omega

/-- **A further event.**  It may create a session whose ID was drawn and not used, offer one that has
    not been offered, and give a result to one that has none. -/
theorem Accounted.grow (h : Accounted u events b)
    (hcreated : ∀ request id now, e = .created request id now → .drawn id ∈ events ∧
      (∀ request now, .created request id now ∉ events) ∧ ∀ c ∈ b'.creating, c.id ≠ id)
    (hcreating : b'.creating.Sublist b.creating) (hclock : b.clock ≤ b'.clock)
    (hnow : ∀ now ∈ e.now, now ≤ b.clock)
    (hoffers : ∀ id, e.offers id = true → (∃ request now, .created request id now ∈ events) ∧
      events.any (Event.offers id) = false)
    (hresult : ∀ id result, e.result id = some result →
      (∃ request now, .created request id now ∈ events) ∧ result.check u = .ok () ∧
        results events id = [])
    (hentry : ∀ id x, b'.sessions.find? id = some x ↔ ∃ request created,
      LiveSince (e :: events) id request created ∧ x = ledgerEntry (e :: events) request id created) :
    Accounted u (e :: events) b' := by
  constructor
  case creating_drawn =>
    intro c hc
    exact List.mem_cons_of_mem _ (h.creating_drawn c (hcreating.subset hc))
  case creating_nodup => exact h.creating_nodup.sublist (hcreating.map _)
  case creating_fresh =>
    intro c hc request now hin
    rcases List.mem_cons.mp hin with heq | hin
    · exact (hcreated _ _ _ heq.symm).2.2 c hc rfl
    · exact h.creating_fresh c (hcreating.subset hc) request now hin
  case created_drawn =>
    intro request id now hin
    rcases List.mem_cons.mp hin with heq | hin
    · exact List.mem_cons_of_mem _ (hcreated _ _ _ heq.symm).1
    · exact List.mem_cons_of_mem _ (h.created_drawn request id now hin)
  case created_unique =>
    intro id request now request' now' hin hin'
    rcases List.mem_cons.mp hin with heq | hin <;> rcases List.mem_cons.mp hin' with heq' | hin'
    · cases heq.trans heq'.symm
      exact ⟨rfl, rfl⟩
    · exact absurd hin' ((hcreated _ _ _ heq.symm).2.1 _ _)
    · exact absurd hin ((hcreated _ _ _ heq'.symm).2.1 _ _)
    · exact h.created_unique id request now request' now' hin hin'
  case offered_created =>
    intro id hany
    rw [List.any_cons, Bool.or_eq_true] at hany
    obtain ⟨request, now, hin⟩ : ∃ request now, .created request id now ∈ events := by
      rcases hany with he | hany
      · exact (hoffers id he).1
      · exact h.offered_created id hany
    exact ⟨request, now, List.mem_cons_of_mem _ hin⟩
  case finished_created =>
    intro id result hin
    rw [results_cons] at hin
    have hold : (∃ request now, .created request id now ∈ events) ∧ result.check u = .ok () := by
      cases he : e.result id with
      | none =>
        rw [he] at hin
        exact h.finished_created id result hin
      | some result' =>
        rw [he] at hin
        obtain ⟨hexists, hcheck, -⟩ := hresult id result' he
        rcases List.mem_cons.mp hin with rfl | hin
        · exact ⟨hexists, hcheck⟩
        · exact h.finished_created id result hin
    obtain ⟨⟨request, now, hcr⟩, hcheck⟩ := hold
    exact ⟨⟨request, now, List.mem_cons_of_mem _ hcr⟩, hcheck⟩
  case offered_once =>
    intro id
    by_cases he : e.offers id = true
    · have hzero : events.countP (Event.offers id) = 0 := by simpa using (hoffers id he).2
      simp [he, hzero]
    · simpa [he] using h.offered_once id
  case finished_once =>
    intro id
    rw [results_cons]
    cases he : e.result id with
    | none => exact h.finished_once id
    | some result => simp [(hresult id result he).2.2]
  case readings =>
    intro e' hin now hnow'
    rcases List.mem_cons.mp hin with rfl | hin
    · exact (hnow now hnow').trans hclock
    · exact (h.readings e' hin now hnow').trans hclock
  case creating_readings =>
    intro c hc
    exact (h.creating_readings c (hcreating.subset hc)).trans hclock
  case entry_iff => exact hentry

/-- An event that creates nothing may change the surviving entries by `f`, as the ledger does. -/
theorem Accounted.entry_map (h : Accounted u events b)
    (hcreated : ∀ request id now, e ≠ .created request id now) (f : Entry → Entry)
    (hfind : ∀ id, b'.sessions.find? id = ((sweep e b.sessions).find? id).map f)
    (hledger : ∀ id request created, LiveSince events id request created →
      (∀ now ∈ e.now, now < created + sessionTTL) →
      ledgerEntry (e :: events) request id created = f (ledgerEntry events request id created))
    (id : String) (x : Entry) : b'.sessions.find? id = some x ↔ ∃ request created,
      LiveSince (e :: events) id request created ∧ x = ledgerEntry (e :: events) request id created := by
  rw [hfind, Option.map_eq_some_iff]
  constructor
  · rintro ⟨y, hy, rfl⟩
    obtain ⟨request, created, hlive, rfl⟩ := (h.find?_sweep e id y).mp hy
    exact ⟨request, created, (liveSince_cons hcreated).mpr hlive,
      (hledger id request created hlive.1 hlive.2).symm⟩
  · rintro ⟨request, created, hlive, rfl⟩
    have hlive' := (liveSince_cons hcreated).mp hlive
    exact ⟨_, (h.find?_sweep e id _).mpr ⟨request, created, hlive', rfl⟩,
      (hledger id request created hlive'.1 hlive'.2).symm⟩

/-- The ledger does not change with an event that neither offers nor finishes. -/
theorem ledgerEntry_cons {e : Event} {id : String} (hoffers : e.offers id = false)
    (hresult : e.result id = none) (events : List Event) (request : CreateRequest)
    (created : Int) :
    ledgerEntry (e :: events) request id created = ledgerEntry events request id created := by
  simp [ledgerEntry, results_cons, hoffers, hresult]

/-- An event that does no more than prune. -/
theorem Accounted.plain (h : Accounted u events b)
    (hcreated : ∀ request id now, e ≠ .created request id now)
    (hoffers : ∀ id, e.offers id = false) (hresult : ∀ id, e.result id = none)
    (hcreating : b'.creating.Sublist b.creating) (hclock : b.clock ≤ b'.clock)
    (hnow : ∀ now ∈ e.now, now ≤ b.clock) (hsessions : b'.sessions = sweep e b.sessions) :
    Accounted u (e :: events) b' := by
  refine h.grow (fun _ _ _ he => absurd he (hcreated _ _ _)) hcreating hclock hnow ?_ ?_
    (h.entry_map hcreated id ?_ ?_)
  · intro id he
    rw [hoffers] at he
    cases he
  · intro id result he
    rw [hresult] at he
    cases he
  · intro id
    rw [hsessions, Option.map_id_fun, id_eq]
  · intro id request created _ _
    exact ledgerEntry_cons (hoffers id) (hresult id) events request created

/-- `Create` has drawn an ID that was not drawn before. -/
theorem Accounted.drawn (h : Accounted u events b) {c : Creating} (hfresh : .drawn c.id ∉ events)
    (hnow : c.now ≤ b.clock) (hsessions : b'.sessions = b.sessions)
    (hcreating : b'.creating = c :: b.creating) (hclock : b.clock ≤ b'.clock) :
    Accounted u (.drawn c.id :: events) b' := by
  have hb : Accounted u (.drawn c.id :: events) b :=
    h.plain nofun (fun _ => rfl) (fun _ => rfl) (List.Sublist.refl _) (le_refl _) nofun rfl
  constructor
  case creating_drawn =>
    rw [hcreating]
    exact List.forall_mem_cons.mpr ⟨List.mem_cons_self, hb.creating_drawn⟩
  case creating_nodup =>
    rw [hcreating, List.map_cons, List.nodup_cons]
    refine ⟨?_, hb.creating_nodup⟩
    rw [List.mem_map]
    rintro ⟨c', hc', heq⟩
    rw [← heq] at hfresh
    exact hfresh (h.creating_drawn c' hc')
  case creating_fresh =>
    rw [hcreating]
    refine List.forall_mem_cons.mpr ⟨?_, hb.creating_fresh⟩
    intro request now hin
    rcases List.mem_cons.mp hin with heq | hin
    · cases heq
    · exact hfresh (h.created_drawn request c.id now hin)
  case creating_readings =>
    rw [hcreating]
    refine List.forall_mem_cons.mpr ⟨hnow.trans hclock, ?_⟩
    exact fun c' hc' => (hb.creating_readings c' hc').trans hclock
  case readings => exact fun e he now hnow => (hb.readings e he now hnow).trans hclock
  case entry_iff => rw [hsessions]; exact hb.entry_iff
  case created_drawn => exact hb.created_drawn
  case created_unique => exact hb.created_unique
  case offered_created => exact hb.offered_created
  case finished_created => exact hb.finished_created
  case offered_once => exact hb.offered_once
  case finished_once => exact hb.finished_once

/-- Nothing has happened to a session that is not yet created. -/
theorem Accounted.ledgerEntry_fresh (h : Accounted u events b) {id : String}
    (hfresh : ∀ request now, .created request id now ∉ events) (request : CreateRequest)
    (created : Int) : ledgerEntry events request id created = request.entry id created := by
  have hoffers : events.any (Event.offers id) = false := by
    rw [← Bool.not_eq_true]
    intro hany
    obtain ⟨request, now, hin⟩ := h.offered_created id hany
    exact hfresh request now hin
  have hresults : results events id = [] := by
    apply List.eq_nil_iff_forall_not_mem.mpr
    intro result hin
    obtain ⟨⟨request, now, hcr⟩, -⟩ := h.finished_created id result hin
    exact hfresh request now hcr
  unfold ledgerEntry
  rw [hoffers, hresults]
  rfl

/-- `Create` enters a session under its ID. -/
theorem Accounted.created (h : Accounted u events b) {index : Nat} {c : Creating}
    (hc : b.creating[index]? = some c)
    (hsessions : b'.sessions = (pruneLocked c.now b.sessions).put (c.request.entry c.id c.now))
    (hcreating : b'.creating = b.creating.eraseIdx index) (hclock : b.clock ≤ b'.clock) :
    Accounted u (.created c.request c.id c.now :: events) b' := by
  have hcmem : c ∈ b.creating := List.mem_of_getElem? hc
  have hfresh := h.creating_fresh c hcmem
  -- the other calls have other IDs
  have hother : ∀ c' ∈ b'.creating, c'.id ≠ c.id := by
    intro c' hc' heq
    rw [hcreating, List.mem_eraseIdx_iff_getElem?] at hc'
    obtain ⟨j, hj, hget⟩ := hc'
    have hget' : (b.creating.map Creating.id)[j]? = (b.creating.map Creating.id)[index]? := by
      rw [List.getElem?_map, List.getElem?_map, hget, hc, Option.map_some, Option.map_some, heq]
    have hlt : j < (b.creating.map Creating.id).length := by
      rw [List.length_map]
      exact (List.getElem?_eq_some_iff.mp hget).1
    exact hj ((List.getElem?_inj hlt h.creating_nodup).mp hget')
  refine h.grow ?_ (hcreating ▸ List.eraseIdx_sublist _ _) hclock ?_ nofun nofun (fun id x => ?_)
  · rintro _ _ _ ⟨⟩
    exact ⟨h.creating_drawn c hcmem, hfresh, hother⟩
  · rintro _ ⟨⟩
    exact h.creating_readings c hcmem
  · have hledger : ∀ request created,
        ledgerEntry (.created c.request c.id c.now :: events) request id created =
          ledgerEntry events request id created :=
      fun request created => ledgerEntry_cons rfl rfl events request created
    have hsweep := h.find?_sweep (.created c.request c.id c.now) id x
    rw [hsessions, Table.find?_put]
    by_cases hid : c.id = id
    · subst hid
      have hentry := h.ledgerEntry_fresh hfresh c.request c.now
      rw [if_pos (show (c.request.entry c.id c.now).id = c.id from rfl), Option.some.injEq]
      constructor
      · rintro rfl
        exact ⟨c.request, c.now, .inl rfl, by rw [hledger, hentry]⟩
      · rintro ⟨request, created, heq | ⟨hlive, -⟩, rfl⟩
        · cases heq
          rw [hledger, hentry]
        · exact absurd hlive.mem (hfresh _ _)
    · rw [if_neg (show ¬ (c.request.entry c.id c.now).id = id from hid)]
      refine hsweep.trans ?_
      constructor
      · rintro ⟨request, created, hlive, rfl⟩
        exact ⟨request, created, .inr hlive, (hledger _ _).symm⟩
      · rintro ⟨request, created, heq | hlive, rfl⟩
        · cases heq
          exact absurd rfl hid
        · exact ⟨request, created, hlive, hledger _ _⟩

/-- `Next` hands out a session that has not been handed out. -/
theorem Accounted.offered (h : Accounted u events b) {agentID : String} {selected : Entry}
    (hfind : (pruneLocked b.clock b.sessions).find? selected.id = some selected)
    (hoffered : selected.offeredTo agentID = true)
    (hsessions : b'.sessions = claim (pruneLocked b.clock b.sessions) selected.id)
    (hcreating : b'.creating = b.creating) (hclock : b.clock ≤ b'.clock) :
    Accounted u (.offered agentID selected.toOffer b.clock :: events) b' := by
  obtain ⟨request, created, hlive, hentry⟩ :=
    (h.find?_sweep (.offered agentID selected.toOffer b.clock) selected.id selected).mp hfind
  have hunclaimed : events.any (Event.offers selected.id) = false := by
    have hclaimed : selected.claimed = events.any (Event.offers selected.id) := by rw [hentry]; rfl
    rw [← hclaimed]
    simp only [Entry.offeredTo, Bool.and_eq_true] at hoffered
    simpa using hoffered.1.1.2
  refine h.grow nofun (hcreating ▸ List.Sublist.refl _) hclock ?_ ?_ nofun
    (h.entry_map nofun (fun x => if x.id = selected.id then { x with claimed := true } else x) ?_ ?_)
  · rintro _ ⟨⟩
    exact le_refl _
  · intro id he
    have hid : selected.id = id := of_decide_eq_true he
    subst hid
    exact ⟨⟨request, created, hlive.1.mem⟩, hunclaimed⟩
  · intro id
    rw [hsessions, claim, Table.find?_update]
    simp only [decide_eq_true_eq]
    rfl
  · intro id request created _ _
    have hid : (ledgerEntry events request id created).id = id := rfl
    by_cases heq : id = selected.id
    · subst heq
      simp [ledgerEntry, CreateRequest.entry, results_cons, Event.offers, Event.result,
        Entry.toOffer]
    · simp only [hid, if_neg heq]
      refine ledgerEntry_cons ?_ rfl events request created
      exact decide_eq_false (fun hsame => heq hsame.symm)

/-- `Finish` either only prunes, or gives a claimed session of the Agent its first result. -/
theorem finishLocked_cases (sessions : Sessions) (now : Int) (agentID sessionID : String)
    (result : Result) :
    (∃ current, (pruneLocked now sessions).find? sessionID = some current ∧
      current.agentID = agentID ∧ current.claimed = true ∧ current.answer = none ∧
      current.failureCode = "" ∧
      finishLocked sessions now agentID sessionID result =
        ((pruneLocked now sessions).update (fun e => e.id = sessionID) (fun e => e.finish result)
          (fun e => e.finish_id result), .ok ())) ∨
    (∃ current, (pruneLocked now sessions).find? sessionID = some current ∧
      current.agentID = agentID ∧
      (current.claimed = false ∨ current.answer ≠ none ∨ current.failureCode ≠ "") ∧
      finishLocked sessions now agentID sessionID result =
        (pruneLocked now sessions, .error .alreadyClaimed)) ∨
    ((∀ current, (pruneLocked now sessions).find? sessionID = some current →
        current.agentID ≠ agentID) ∧
      finishLocked sessions now agentID sessionID result =
        (pruneLocked now sessions, .error .notFound)) := by
  cases hfind : (pruneLocked now sessions).find? sessionID with
  | none =>
    refine .inr (.inr ⟨nofun, ?_⟩)
    simp only [finishLocked, hfind]
  | some current =>
    by_cases hagent : current.agentID = agentID
    · by_cases hdone : current.claimed = false ∨ current.answer ≠ none ∨ current.failureCode ≠ ""
      · refine .inr (.inl ⟨current, rfl, hagent, hdone, ?_⟩)
        simp only [finishLocked, hfind]
        rw [if_neg (not_not.mpr hagent), if_pos hdone]
      · have hupdate : finishLocked sessions now agentID sessionID result =
            ((pruneLocked now sessions).update (fun e => e.id = sessionID)
              (fun e => e.finish result) (fun e => e.finish_id result), .ok ()) := by
          simp only [finishLocked, hfind]
          rw [if_neg (not_not.mpr hagent), if_neg hdone]
        simp only [not_or, Bool.not_eq_false, not_not] at hdone
        exact .inl ⟨current, rfl, hagent, hdone.1, hdone.2.1, hdone.2.2, hupdate⟩
    · refine .inr (.inr ⟨?_, ?_⟩)
      · rintro _ ⟨⟩
        exact hagent
      · simp only [finishLocked, hfind]
        rw [if_pos hagent]

/-- An entry without a result has been given none. -/
theorem Accounted.results_eq_nil_iff (h : Accounted u events b) (request : CreateRequest)
    (id : String) (created : Int) :
    results events id = [] ↔ (ledgerEntry events request id created).answer = none ∧
      (ledgerEntry events request id created).failureCode = "" := by
  constructor
  · intro hnil
    simp [ledgerEntry, hnil]
  · rintro ⟨hanswer, hcode⟩
    cases hresults : results events id with
    | nil => rfl
    | cons result rest =>
      have hcheck := (h.finished_created id result (by rw [hresults]; exact List.mem_cons_self)).2
      simp only [ledgerEntry, hresults, List.head?_cons, Option.bind_some, Option.map_some,
        Option.getD_some] at hanswer hcode
      exact absurd (iff_of_true hanswer hcode) (Result.check_eq_ok hcheck)

theorem Accounted.finished (h : Accounted u events b) {agentID sessionID : String}
    {result : Result} (hcheck : result.check u = .ok ())
    (hsessions : b'.sessions = (finishLocked b.sessions b.clock agentID sessionID result).1)
    (hcreating : b'.creating = b.creating) (hclock : b.clock ≤ b'.clock) :
    Accounted u (.finished agentID sessionID result b.clock
      (finishLocked b.sessions b.clock agentID sessionID result).2 :: events) b' := by
  have hsub : b'.creating.Sublist b.creating := hcreating ▸ List.Sublist.refl _
  have hnow : ∀ now ∈ some b.clock, now ≤ b.clock := fun _ hnow => (Option.some.inj hnow).ge
  rcases finishLocked_cases b.sessions b.clock agentID sessionID result with
    ⟨current, hfind, -, -, hanswer, hcode, heq⟩ | ⟨current, -, -, -, heq⟩ | ⟨-, heq⟩
  · rw [heq] at hsessions ⊢
    obtain ⟨request, created, hlive, hentry⟩ := (h.find?_sweep
      (.finished agentID sessionID result b.clock (.ok ())) sessionID current).mp hfind
    have hresults : results events sessionID = [] := by
      rw [h.results_eq_nil_iff request sessionID created, ← hentry]
      exact ⟨hanswer, hcode⟩
    refine h.grow (by simp) hsub hclock hnow (by simp [Event.offers]) ?_
      (h.entry_map (by simp) (fun x => if x.id = sessionID then x.finish result else x) ?_ ?_)
    · intro id result' he
      simp only [Event.result, Option.ite_none_right_eq_some, Option.some.injEq] at he
      obtain ⟨rfl, rfl⟩ := he
      exact ⟨⟨request, created, hlive.1.mem⟩, hcheck, hresults⟩
    · intro id
      rw [hsessions, Table.find?_update]
      simp only [decide_eq_true_eq]
      rfl
    · intro id request' created' _ _
      have hid : (ledgerEntry events request' id created').id = id := rfl
      by_cases hsame : id = sessionID
      · subst hsame
        have hexactly := Result.check_eq_ok hcheck
        simp only [hid, if_true]
        unfold ledgerEntry Entry.finish
        cases hresult : result.answer with
        | none =>
          simp [results_cons, Event.offers, Event.result, hresult, hresults]
        | some answer =>
          have hempty : result.failureCode = "" := by simpa [hresult] using hexactly
          simp [results_cons, Event.offers, Event.result, hresult, hempty, hresults]
      · simp only [hid, if_neg hsame]
        refine ledgerEntry_cons rfl ?_ events request' created'
        exact if_neg (fun heq => hsame heq.symm)
  · rw [heq] at hsessions ⊢
    exact h.plain (by simp) (fun _ => rfl) (fun _ => rfl) hsub hclock hnow hsessions
  · rw [heq] at hsessions ⊢
    exact h.plain (by simp) (fun _ => rfl) (fun _ => rfl) hsub hclock hnow hsessions

/-- **Step.**  Every step keeps the map in agreement with the history, as long as the IDs
    drawn are distinct. -/
theorem Broker.Effect.accounted (h : Accounted u events b)
    (heffect : b.Effect u e b'.sessions b'.creating) (hclock : b.clock ≤ b'.clock)
    (hids : ((e :: events).filterMap Event.drawnID).Nodup) : Accounted u (e :: events) b' := by
  generalize hsessions : b'.sessions = sessions at heffect
  generalize hcreating : b'.creating = creating at heffect
  have hclockReading : ∀ now ∈ some b.clock, now ≤ b.clock :=
    fun _ hnow => (Option.some.inj hnow).ge
  cases heffect with
  | silent hnow hdrawn =>
    have hsilent : ∀ now ∈ e.now, now ≤ b.clock := by
      rw [hnow]
      exact nofun
    refine h.plain ?_ ?_ ?_ (hcreating ▸ List.Sublist.refl _) hclock hsilent ?_
    · rintro request id now rfl
      cases hnow
    · intro id
      cases e <;> first | rfl | cases hnow
    · intro id
      cases e <;> first | rfl | cases hnow
    · rw [hsessions, sweep, hnow]
  | @drawn request id hcheck =>
    have hfresh : .drawn id ∉ events := by
      intro hin
      have hmem : id ∈ events.filterMap Event.drawnID := List.mem_filterMap.mpr ⟨_, hin, rfl⟩
      exact (List.nodup_cons.mp hids).1 hmem
    exact h.drawn (c := ⟨request, id, b.clock⟩) hfresh (le_refl _) hsessions hcreating hclock
  | created hc hrestarts => exact h.created hc hsessions hcreating hclock
  | @refused index c hc hrestarts =>
    have hreading : ∀ now ∈ some c.now, now ≤ b.clock := by
      rintro _ ⟨⟩
      exact h.creating_readings c (List.mem_of_getElem? hc)
    exact h.plain nofun (fun _ => rfl) (fun _ => rfl)
      (hcreating ▸ List.eraseIdx_sublist _ _) hclock hreading hsessions
  | offered hmem hoffered => exact h.offered hmem hoffered hsessions hcreating hclock
  | idle hnone =>
    exact h.plain nofun (fun _ => rfl) (fun _ => rfl) (hcreating ▸ List.Sublist.refl _) hclock
      hclockReading hsessions
  | finished hcheck => exact h.finished hcheck hsessions hcreating hclock
  | status =>
    exact h.plain nofun (fun _ => rfl) (fun _ => rfl) (hcreating ▸ List.Sublist.refl _) hclock
      hclockReading hsessions

/-- **Run.**  In every run with distinct IDs the map agrees with the history. -/
theorem run_accounted {start : Int} {h : History}
    (hr : (brokerSystem u start).Run h b)
    (hids : ((h.map Transition.event).filterMap Event.drawnID).Nodup) :
    Accounted u (h.map Transition.event) b := by
  induction hr with
  | init =>
    constructor <;> simp [brokerSystem, Broker.new, results, LiveSince]
  | @step h b b' a e hr hs ih =>
    have hids' : ((h.map Transition.event).filterMap Event.drawnID).Nodup :=
      hids.sublist ((List.sublist_cons_self _ _).filterMap _)
    exact (Broker.step_effect hs).1.accounted (ih hids') (Broker.step_clock_le hs) hids

end Accounting

/-- Whatever is under way or was created has passed the checks of `Create`. -/
theorem run_checked {u : Unicode} {start : Int} {h : History}
    {b : Broker} (hr : (brokerSystem u start).Run h b) :
    (∀ c ∈ b.creating, c.request.check u = .ok ()) ∧
      ∀ request id now, .created request id now ∈ h.map Transition.event →
        request.check u = .ok () := by
  induction hr with
  | init => simp [brokerSystem, Broker.new]
  | @step h b b' a e hr hs ih =>
    obtain ⟨hcreating, hcreated⟩ := ih
    have heffect := (Broker.step_effect hs).1
    have herase : ∀ index, ∀ c ∈ b.creating.eraseIdx index, c.request.check u = .ok () :=
      fun index c hc => hcreating c (List.mem_of_mem_eraseIdx hc)
    have hother : (∀ request id now, e ≠ .created request id now) → ∀ request id now,
        .created request id now ∈ (⟨b, a, e⟩ :: h : History).map
          Transition.event → request.check u = .ok () := by
      intro he request id now hmem
      rcases List.mem_cons.mp hmem with heq | hmem
      · exact absurd heq.symm (he request id now)
      · exact hcreated request id now hmem
    generalize b'.sessions = sessions, b'.creating = creating at heffect
    cases heffect with
    | silent hnow _ =>
      refine ⟨hcreating, hother ?_⟩
      rintro request id now rfl
      cases hnow
    | drawn id hcheck =>
      exact ⟨List.forall_mem_cons.mpr ⟨hcheck, hcreating⟩, hother (fun _ _ _ => Event.noConfusion)⟩
    | @created index c hc hrestarts =>
      refine ⟨herase index, ?_⟩
      intro request id now hmem
      rcases List.mem_cons.mp hmem with heq | hmem
      · cases heq
        exact hcreating c (List.mem_of_getElem? hc)
      · exact hcreated request id now hmem
    | refused => exact ⟨herase _, hother (fun _ _ _ => Event.noConfusion)⟩
    | offered => exact ⟨hcreating, hother (fun _ _ _ => Event.noConfusion)⟩
    | idle => exact ⟨hcreating, hother (fun _ _ _ => Event.noConfusion)⟩
    | finished => exact ⟨hcreating, hother (fun _ _ _ => Event.noConfusion)⟩
    | status => exact ⟨hcreating, hother (fun _ _ _ => Event.noConfusion)⟩

/-! ### Routing and hand-off -/

/-- In the eyes of a lock section that reads `now`: the session was created with `request` at
    `created` and has not expired. -/
def Live (earlier : List Event) (now : Int) (id : String) (request : CreateRequest)
    (created : Int) : Prop :=
  LiveSince earlier id request created ∧ now < created + sessionTTL

/-- The offer that `Create` was given. -/
def CreateRequest.toOffer (request : CreateRequest) (id : String) : Offer where
  id := id
  browserSessionID := request.browserSessionID
  serviceID := request.serviceID
  capabilityDigest := encodeDigest request.capabilityDigest
  offer := request.offer
  restartOf := request.restartOf
  temporary := request.temporary

/-- The status that goes with the results given so far. -/
def statusOf (given : List Result) : Status :=
  match given.head? with
  | none => ⟨"pending", none, ""⟩
  | some result =>
    match result.answer with
    | some answer => ⟨"answered", some answer, ""⟩
    | none => ⟨"failed", none, result.failureCode⟩

/-- No lock section has read a later time. -/
def Latest (earlier : List Event) (now : Int) : Prop := ∀ e ∈ earlier, ∀ now' ∈ e.now, now' ≤ now

/-- What an operation returns, given what happened before it. -/
def Routed (u : Unicode) (earlier : List Event) : Event → Prop
  | .offered agentID offer now =>
    Latest earlier now ∧ earlier.any (Event.offers offer.id) = false ∧
      ∃ request created, Live earlier now offer.id request created ∧
        request.agentID = agentID ∧ offer = request.toOffer offer.id
  | .finished agentID id result now outcome =>
    Latest earlier now ∧ result.check u = .ok () ∧
      (outcome = .ok () ↔ ∃ request created, Live earlier now id request created ∧
        request.agentID = agentID ∧ earlier.any (Event.offers id) = true ∧
        results earlier id = []) ∧
      (outcome = .error .notFound ↔ ¬ ∃ request created, Live earlier now id request created ∧
        request.agentID = agentID)
  | .status id userDigest now outcome =>
    Latest earlier now ∧
      (∀ status, outcome = .ok status ↔ ∃ request created,
        Live earlier now id request created ∧ request.userDigest = userDigest ∧
        status = statusOf (results earlier id)) ∧
      (outcome = .error .notFound ↔ ¬ ∃ request created,
        Live earlier now id request created ∧ request.userDigest = userDigest)
  | .created request _ now =>
    request.restartOf ≠ "" → ∃ previous created,
      Live earlier now request.restartOf previous created ∧
        previous.agentID = request.agentID ∧
        previous.browserSessionID = request.browserSessionID ∧
        previous.serviceID = request.serviceID ∧ previous.userDigest = request.userDigest ∧
        previous.capabilityDigest = request.capabilityDigest ∧
        previous.temporary = request.temporary
  | _ => True

/-- An operation does not know an ID: `Finish` and `Status` say so, `Next` returns something
    else, and `Create` accepts no restart of it. -/
def ReportsMissing (id : String) : Event → Prop
  | .offered _ offer _ => offer.id ≠ id
  | .finished _ sessionID _ _ outcome => sessionID = id → outcome = .error .notFound
  | .status sessionID _ _ outcome => sessionID = id → outcome = .error .notFound
  | .created request _ _ => request.restartOf ≠ "" → request.restartOf ≠ id
  | _ => True

/-- What holds of a run of the broker. -/
structure HandOff (u : Unicode) (h : History) (b : Broker) :
    Prop where
  routed : ∀ later t earlier, h = later ++ t :: earlier →
    Routed u (earlier.map Transition.event) t.event
  offered_once : ∀ id, (h.map Transition.event).countP (Event.offers id) ≤ 1
  finished_once : ∀ id, (results (h.map Transition.event) id).length ≤ 1
  entries : ∀ id e, b.sessions.find? id = some e ↔ ∃ request created,
    LiveSince (h.map Transition.event) id request created ∧
      e = ledgerEntry (h.map Transition.event) request id created
  expired : ∀ later t earlier, h = later ++ t :: earlier → ∀ request id created,
    .created request id created ∈ earlier.map Transition.event →
    ((∀ now ∈ t.event.now, created + sessionTTL ≤ now) ∨
      ¬ LiveSince (earlier.map Transition.event) id request created) →
    ReportsMissing id t.event

section HandOff

variable {u : Unicode} {earlier : List Event} {b : Broker}

/-- The entries that a lock section sees. -/
theorem Accounted.find?_prune (h : Accounted u earlier b) (now : Int) (id : String) (x : Entry) :
    (pruneLocked now b.sessions).find? id = some x ↔ ∃ request created,
      Live earlier now id request created ∧ x = ledgerEntry earlier request id created := by
  have hsweep := h.find?_sweep (.idle "" now) id x
  simpa [sweep, Event.now, Live] using hsweep

theorem Accounted.status_ledgerEntry (h : Accounted u earlier b) (request : CreateRequest)
    (id : String) (created : Int) :
    (ledgerEntry earlier request id created).status = statusOf (results earlier id) := by
  unfold ledgerEntry statusOf Entry.status
  cases hresults : results earlier id with
  | nil => simp
  | cons result rest =>
    have hcheck := (h.finished_created id result (by rw [hresults]; exact List.mem_cons_self)).2
    have hexactly := Result.check_eq_ok hcheck
    cases hanswer : result.answer with
    | some answer => simp [hanswer]
    | none =>
      have hcode : result.failureCode ≠ "" := by simpa [hanswer] using hexactly
      simp [hanswer, hcode]

theorem Accounted.finished_routed (h : Accounted u earlier b) (agentID sessionID : String)
    {result : Result} (hcheck : result.check u = .ok ()) :
    Routed u earlier (.finished agentID sessionID result b.clock
      (finishLocked b.sessions b.clock agentID sessionID result).2) := by
  refine ⟨h.readings, hcheck, ?_⟩
  have hfind := h.find?_prune b.clock sessionID
  rcases finishLocked_cases b.sessions b.clock agentID sessionID result with
    ⟨current, hcurrent, hagent, hclaimed, hanswer, hcode, heq⟩ |
    ⟨current, hcurrent, hagent, hdone, heq⟩ | ⟨hnone, heq⟩
  · rw [heq]
    obtain ⟨request, created, hlive, rfl⟩ := (hfind current).mp hcurrent
    have hresults := (h.results_eq_nil_iff request sessionID created).mpr ⟨hanswer, hcode⟩
    exact ⟨iff_of_true rfl ⟨request, created, hlive, hagent, hclaimed, hresults⟩,
      iff_of_false nofun (fun hno => hno ⟨request, created, hlive, hagent⟩)⟩
  · rw [heq]
    obtain ⟨request, created, hlive, rfl⟩ := (hfind current).mp hcurrent
    refine ⟨iff_of_false nofun ?_,
      iff_of_false nofun (fun hno => hno ⟨request, created, hlive, hagent⟩)⟩
    rintro ⟨request', created', -, -, hoffered, hresults⟩
    -- the entry is claimed and has no result, against `hdone`
    obtain ⟨hanswer, hcode⟩ := (h.results_eq_nil_iff request sessionID created).mp hresults
    have hclaimed : (ledgerEntry earlier request sessionID created).claimed = true := hoffered
    simp [hanswer, hcode, hclaimed] at hdone
  · rw [heq]
    have hno : ¬ ∃ request created, Live earlier b.clock sessionID request created ∧
        request.agentID = agentID := by
      rintro ⟨request, created, hlive, hagent⟩
      exact hnone _ ((hfind _).mpr ⟨request, created, hlive, rfl⟩) hagent
    refine ⟨iff_of_false nofun ?_, iff_of_true rfl hno⟩
    rintro ⟨request, created, hlive, hagent, -⟩
    exact hno ⟨request, created, hlive, hagent⟩

theorem Accounted.status_routed (h : Accounted u earlier b) (sessionID : String)
    (userDigest : Digest) :
    Routed u earlier (.status sessionID userDigest b.clock
      (statusLocked b.sessions b.clock sessionID userDigest).2) := by
  refine ⟨h.readings, ?_⟩
  have hfind := h.find?_prune b.clock sessionID
  have houtcome : (∃ request created, Live earlier b.clock sessionID request created ∧
        request.userDigest = userDigest ∧
        (statusLocked b.sessions b.clock sessionID userDigest).2 =
          .ok (statusOf (results earlier sessionID))) ∨
      ((¬ ∃ request created, Live earlier b.clock sessionID request created ∧
        request.userDigest = userDigest) ∧
        (statusLocked b.sessions b.clock sessionID userDigest).2 = .error .notFound) := by
    unfold statusLocked
    cases hcurrent : (pruneLocked b.clock b.sessions).find? sessionID with
    | none =>
      refine .inr ⟨?_, by simp only [hcurrent]⟩
      rintro ⟨request, created, hlive, -⟩
      rw [(hfind _).mpr ⟨request, created, hlive, rfl⟩] at hcurrent
      cases hcurrent
    | some current =>
      obtain ⟨request, created, hlive, rfl⟩ := (hfind current).mp hcurrent
      have huser : (ledgerEntry earlier request sessionID created).userDigest =
        request.userDigest := rfl
      by_cases hsame : request.userDigest = userDigest
      · refine .inl ⟨request, created, hlive, hsame, ?_⟩
        simp only [hcurrent, huser, hsame, ne_eq, not_true_eq_false, if_false,
          h.status_ledgerEntry]
      · refine .inr ⟨?_, by simp only [hcurrent, huser, ne_eq, hsame, not_false_eq_true, if_true]⟩
        rintro ⟨request', created', hlive', hsame'⟩
        obtain ⟨rfl, -⟩ := h.created_unique sessionID _ _ _ _ hlive.1.mem hlive'.1.mem
        exact hsame hsame'
  rcases houtcome with ⟨request, created, hlive, hsame, heq⟩ | ⟨hno, heq⟩
  · rw [heq]
    refine ⟨fun status => ?_, iff_of_false (by simp) (fun hno => hno ⟨request, created, hlive, hsame⟩)⟩
    rw [Except.ok.injEq]
    constructor
    · rintro rfl
      exact ⟨request, created, hlive, hsame, rfl⟩
    · rintro ⟨_, _, _, _, rfl⟩
      rfl
  · rw [heq]
    refine ⟨fun status => iff_of_false (by simp) ?_, iff_of_true rfl hno⟩
    rintro ⟨request, created, hlive, hsame, -⟩
    exact hno ⟨request, created, hlive, hsame⟩

/-- What one operation returns. -/
theorem Broker.Effect.routed (h : Accounted u earlier b) {e : Event} {sessions : Sessions}
    {creating : List Creating} (heffect : b.Effect u e sessions creating) :
    Routed u earlier e := by
  cases heffect with
  | silent hnow hdrawn => cases e <;> trivial
  | drawn id hcheck => trivial
  | @created index c hc hrestarts =>
    intro hrestart
    simp only [CreateRequest.restarts, hrestart, decide_false, Bool.false_or, Option.any_eq_true]
      at hrestarts
    obtain ⟨previous, hprevious, hcontinues⟩ := hrestarts
    obtain ⟨request, created, hlive, rfl⟩ :=
      (h.find?_prune c.now c.request.restartOf previous).mp hprevious
    refine ⟨request, created, hlive, ?_⟩
    simp only [CreateRequest.continues, Bool.and_eq_true, decide_eq_true_eq, and_assoc]
      at hcontinues
    exact hcontinues
  | refused hc hrestarts => trivial
  | @offered agentID selected hmem hoffered =>
    obtain ⟨request, created, hlive, hentry⟩ := (h.find?_prune b.clock _ _).mp hmem
    simp only [Entry.offeredTo, Bool.and_eq_true, decide_eq_true_eq, Bool.not_eq_true'] at hoffered
    have hclaimed : selected.claimed = earlier.any (Event.offers selected.id) := by rw [hentry]; rfl
    have hagent : selected.agentID = request.agentID := by rw [hentry]; rfl
    refine ⟨h.readings, hclaimed.symm.trans hoffered.1.1.2, request, created, hlive,
      hagent.symm.trans hoffered.1.1.1, ?_⟩
    rw [hentry]
    rfl
  | idle hnone => trivial
  | finished hcheck => exact h.finished_routed _ _ hcheck
  | status => exact h.status_routed _ _

/-- An operation that follows its routing does not know an expired ID. -/
theorem Accounted.reportsMissing (h : Accounted u earlier b) {e : Event} (hrouted : Routed u earlier e)
    {request : CreateRequest} {id : String} {created : Int}
    (hcreated : .created request id created ∈ earlier)
    (hexpired : (∀ now ∈ e.now, created + sessionTTL ≤ now) ∨ ¬ LiveSince earlier id request created) :
    ReportsMissing id e := by
  have hdead : ∀ now ∈ e.now, ∀ request' created', ¬ Live earlier now id request' created' := by
    rintro now hnow request' created' ⟨hlive, hlt⟩
    obtain ⟨rfl, rfl⟩ := h.created_unique id _ _ _ _ hcreated hlive.mem
    rcases hexpired with hexpired | hexpired
    · have hle := hexpired now hnow
      omega
    · exact hexpired hlive
  cases e with
  | offered agentID offer now =>
    rintro rfl
    obtain ⟨-, -, request', created', hlive, -⟩ := hrouted
    exact hdead now rfl request' created' hlive
  | finished agentID sessionID result now outcome =>
    rintro rfl
    refine hrouted.2.2.2.mpr ?_
    rintro ⟨request', created', hlive, -⟩
    exact hdead now rfl request' created' hlive
  | status sessionID userDigest now outcome =>
    rintro rfl
    refine hrouted.2.2.mpr ?_
    rintro ⟨request', created', hlive, -⟩
    exact hdead now rfl request' created' hlive
  | created request' id' now =>
    rintro hrestart rfl
    obtain ⟨previous, created', hlive, -⟩ := hrouted hrestart
    exact hdead now rfl previous created' hlive
  | _ => trivial

/-- **Routing and exactly-once hand-off.**  In every run with distinct IDs: `Next` returns a
    session at most once, only to its Agent, and as it was created; `Finish` succeeds for that
    Agent only, after the hand-off, once, with a validated result; `Status` answers the user
    who created the session, with the result given so far; and an operation that reaches the
    map does not know an expired ID. -/
theorem run_handOff {start : Int} {h : History}
    (hr : (brokerSystem u start).Run h b)
    (hids : ((h.map Transition.event).filterMap Event.drawnID).Nodup) : HandOff u h b := by
  have hsplit : ∀ later t earlier, h = later ++ t :: earlier →
      Accounted u (earlier.map Transition.event) t.before ∧
        Routed u (earlier.map Transition.event) t.event := by
    rintro later t earlier rfl
    obtain ⟨hr', b', hs⟩ := hr.split
    have hids' : ((earlier.map Transition.event).filterMap Event.drawnID).Nodup := by
      refine hids.sublist ((List.Sublist.map _ ?_).filterMap _)
      exact (List.sublist_cons_self _ _).trans (List.sublist_append_right _ _)
    have haccounted := run_accounted hr' hids'
    exact ⟨haccounted, (Broker.step_effect hs).1.routed haccounted⟩
  have haccounted := run_accounted hr hids
  refine ⟨?_, haccounted.offered_once, haccounted.finished_once, haccounted.entry_iff, ?_⟩
  · exact fun later t earlier heq => (hsplit later t earlier heq).2
  · intro later t earlier heq request id created hcreated hexpired
    obtain ⟨hbefore, hrouted⟩ := hsplit later t earlier heq
    exact hbefore.reportsMissing hrouted hcreated hexpired

end HandOff

/-! A browser, its Agent and one session. -/

def sampleID : String := "AAAAAAAAAAAAAAAAAAAAAA"

def sampleRequest : CreateRequest where
  agentID := sampleID
  browserSessionID := sampleID
  serviceID := sampleID
  userDigest := Vector.replicate 32 1
  capabilityDigest := Vector.replicate 32 2
  offer := ⟨"offer", "v=0"⟩
  restartOf := ""
  temporary := false

def sampleAnswer : Result := ⟨some ⟨"answer", "v=0"⟩, ""⟩

/-- The offer is fetched and answered. -/
def answeredVisit : List Action :=
  [.create sampleRequest (Vector.replicate 16 0), .commit 0 none, .next sampleID,
    .scan 0 [sampleRequest.entry sampleID 0], .finish sampleID sampleID sampleAnswer,
    .status sampleID (Vector.replicate 32 1)]

/-- The run above, in which `Status` reports the answer. -/
theorem run_handOff_of_answeredVisit : ∃ h b, (brokerSystem Unicode.ascii 0).Run h b ∧
    ((h.map Transition.event).filterMap Event.drawnID).Nodup ∧
    h.head?.map Transition.event = some (.status sampleID (Vector.replicate 32 1) 0
      (.ok ⟨"answered", some ⟨"answer", "v=0"⟩, ""⟩)) ∧ HandOff Unicode.ascii h b := by
  obtain ⟨h, b, hr, hc⟩ := System.exists_run_of_exec (S := brokerSystem Unicode.ascii 0)
    (P := fun h _ => decide (((h.map Transition.event).filterMap Event.drawnID).Nodup ∧
      h.head?.map Transition.event = some (.status sampleID (Vector.replicate 32 1) 0
        (.ok ⟨"answered", some ⟨"answer", "v=0"⟩, ""⟩)))) answeredVisit (by decide +kernel)
  obtain ⟨hids, hhead⟩ := of_decide_eq_true hc
  exact ⟨h, b, hr, hids, hhead, run_handOff hr hids⟩

/-- **An expired ID is not always reported as missing.**  Two minutes after its creation
    `Finish` still complains about the result, because it looks at the result first. -/
theorem malformed_after_expiry : ∃ t h b, (brokerSystem Unicode.ascii 0).Run (t :: h) b ∧
    (((t :: h).map Transition.event).filterMap Event.drawnID).Nodup ∧
    .created sampleRequest sampleID 0 ∈ h.map Transition.event ∧
    0 + sessionTTL ≤ t.before.clock ∧ t.action = .finish sampleID sampleID ⟨none, ""⟩ ∧
    t.event = .malformed sampleID sampleID ⟨none, ""⟩
      "exactly one of answer or failure_code is required" := by
  obtain ⟨h, b, hr, hc⟩ := System.exists_run_of_exec (S := brokerSystem Unicode.ascii 0)
    (P := fun h _ => match h with
      | [] => false
      | t :: h => decide ((((t :: h).map Transition.event).filterMap Event.drawnID).Nodup ∧
          .created sampleRequest sampleID 0 ∈ h.map Transition.event ∧
          0 + sessionTTL ≤ t.before.clock ∧ t.action = .finish sampleID sampleID ⟨none, ""⟩ ∧
          t.event = .malformed sampleID sampleID ⟨none, ""⟩
            "exactly one of answer or failure_code is required"))
    [.create sampleRequest (Vector.replicate 16 0), .commit 0 none, .advance (120 * 10 ^ 9),
      .finish sampleID sampleID ⟨none, ""⟩] (by decide +kernel)
  cases h with
  | nil => cases hc
  | cons t h => exact ⟨t, h, b, hr, of_decide_eq_true hc⟩

end WebVPN.Signaling
