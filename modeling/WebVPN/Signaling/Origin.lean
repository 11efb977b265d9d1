import WebVPN.Signaling.HandOff

namespace WebVPN.Signaling

open WebVPN.Library

/-!
# Signaling — where an offer comes from

Every offer that `Next` returns was made by a `Create` call for the Agent that gets it.  Unlike
the full account of `Accounted`, this does not depend on the IDs being distinct.

* `Offer.CreatedBy` — the offer was made by a request that the broker accepted;
* `run_entries` — every entry of the map was made so, and nothing that identifies it has changed;
* `run_createdBy` — so was every offer that was handed out.
-/

/-- The offer is the offer of a request that `Create` has accepted. -/
def Offer.CreatedBy (events : List Event) (offer : Offer) (request : CreateRequest) : Prop :=
  ∃ created, .created request offer.id created ∈ events ∧
    offer = (request.entry offer.id created).toOffer

theorem Offer.CreatedBy.mono {events events' : List Event} {offer : Offer}
    {request : CreateRequest} (h : offer.CreatedBy events request) (hsub : events ⊆ events') :
    offer.CreatedBy events' request := by
  obtain ⟨created, hcreated, heq⟩ := h
  exact ⟨created, hsub hcreated, heq⟩

/-- The entry was made by a request that `Create` has accepted. -/
def Entry.CreatedBy (events : List Event) (entry : Entry) : Prop :=
  ∃ request, entry.toOffer.CreatedBy events request ∧ entry.agentID = request.agentID

section Origin

variable {u : Unicode} {start : Int} {b : Broker} {events : List Event} {e : Event}
  {sessions : Sessions} {creating : List Creating}

/-- Claiming and finishing an entry leave alone what identifies it. -/
theorem Entry.CreatedBy.congr {entry entry' : Entry} (h : entry.CreatedBy events)
    (hoffer : entry'.toOffer = entry.toOffer) (hagent : entry'.agentID = entry.agentID) :
    entry'.CreatedBy events := by
  obtain ⟨request, hcreated, heq⟩ := h
  exact ⟨request, hoffer ▸ hcreated, hagent.trans heq⟩

/-- What the map holds after a step was there before, up to claims and results, or has just been
    created. -/
theorem Broker.Effect.entry_inv (h : b.Effect u e sessions creating) {entry : Entry}
    (hmem : entry ∈ sessions.rows) :
    (∃ entry' ∈ b.sessions.rows, entry.toOffer = entry'.toOffer ∧
      entry.agentID = entry'.agentID) ∨
    ∃ request id created, e = .created request id created ∧ entry = request.entry id created := by
  have hlive : ∀ {now entry'}, entry' ∈ (pruneLocked now b.sessions).rows →
      entry' ∈ b.sessions.rows := fun h => (Table.mem_filter.mp h).1
  cases h with
  | silent => exact .inl ⟨entry, hmem, rfl, rfl⟩
  | drawn => exact .inl ⟨entry, hmem, rfl, rfl⟩
  | created hc hrestarts =>
    rcases Table.mem_put.mp hmem with rfl | ⟨hmem, -⟩
    · exact .inr ⟨_, _, _, rfl, rfl⟩
    · exact .inl ⟨entry, hlive hmem, rfl, rfl⟩
  | refused => exact .inl ⟨entry, hlive hmem, rfl, rfl⟩
  | offered hfind hoffered =>
    obtain ⟨entry', hmem', rfl⟩ := Table.mem_update.mp hmem
    refine .inl ⟨entry', hlive hmem', ?_⟩
    split <;> exact ⟨rfl, rfl⟩
  | idle => exact .inl ⟨entry, hlive hmem, rfl, rfl⟩
  | @finished agentID sessionID result hcheck =>
    rcases finishLocked_cases b.sessions b.clock agentID sessionID result with
      ⟨-, -, -, -, -, -, heq⟩ | ⟨-, -, -, -, heq⟩ | ⟨-, heq⟩ <;> simp only [heq] at hmem
    · obtain ⟨entry', hmem', rfl⟩ := Table.mem_update.mp hmem
      refine .inl ⟨entry', hlive hmem', ?_⟩
      unfold Entry.finish
      split
      · split <;> exact ⟨rfl, rfl⟩
      · exact ⟨rfl, rfl⟩
    · exact .inl ⟨entry, hlive hmem, rfl, rfl⟩
    · exact .inl ⟨entry, hlive hmem, rfl, rfl⟩
  | status => exact .inl ⟨entry, hlive hmem, rfl, rfl⟩

/-- An offer that is handed out comes from an entry for the Agent that gets it. -/
theorem Broker.Effect.offered_inv {agentID : String} {offer : Offer} {now : Int}
    (h : b.Effect u (.offered agentID offer now) sessions creating) :
    ∃ entry ∈ b.sessions.rows, entry.agentID = agentID ∧ offer = entry.toOffer := by
  cases h with
  | silent hnow => cases hnow
  | @offered agentID selected hfind hoffered =>
    refine ⟨selected, (Table.mem_filter.mp (Table.find?_eq_some_iff.mp hfind).1).1, ?_, rfl⟩
    simp only [Entry.offeredTo, Bool.and_eq_true, decide_eq_true_eq] at hoffered
    exact hoffered.1.1.1

/-- **Run lemma.**  Every entry was made by a request that was accepted. -/
theorem run_entries {h : History}
    (hr : (brokerSystem u start).Run h b) :
    ∀ entry ∈ b.sessions.rows, entry.CreatedBy (h.map Transition.event) := by
  induction hr with
  | init => exact fun _ hmem => absurd hmem List.not_mem_nil
  | @step h b b' a e hr hstep ih =>
    intro entry hmem
    rcases (Broker.step_effect hstep).1.entry_inv hmem with
      ⟨entry', hmem', hoffer, hagent⟩ | ⟨request, id, created, rfl, rfl⟩
    · obtain ⟨request, hcreated, heq⟩ := (ih entry' hmem').congr hoffer hagent
      exact ⟨request, hcreated.mono (List.subset_cons_self _ _), heq⟩
    · exact ⟨request, ⟨created, List.mem_cons_self, rfl⟩, rfl⟩

/-- **Every offer that was handed out was made for the Agent that got it.** -/
theorem run_createdBy {h : History}
    (hr : (brokerSystem u start).Run h b) {agentID : String} {offer : Offer} {now : Int}
    (hoffered : .offered agentID offer now ∈ h.map Transition.event) :
    ∃ request, offer.CreatedBy (h.map Transition.event) request ∧ request.agentID = agentID := by
  induction hr with
  | init => cases hoffered
  | @step h b b' a e hr hstep ih =>
    rcases List.mem_cons.mp hoffered with rfl | hoffered
    · obtain ⟨entry, hmem, rfl, rfl⟩ := (Broker.step_effect hstep).1.offered_inv
      obtain ⟨request, hcreated, heq⟩ := run_entries hr entry hmem
      exact ⟨request, hcreated.mono (List.subset_cons_self _ _), heq.symm⟩
    · obtain ⟨request, hcreated, heq⟩ := ih hoffered
      exact ⟨request, hcreated.mono (List.subset_cons_self _ _), heq⟩

end Origin

end WebVPN.Signaling
