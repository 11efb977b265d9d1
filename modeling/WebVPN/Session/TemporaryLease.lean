import WebVPN.Session.Steps

namespace WebVPN.Session

open WebVPN.Library WebVPN.Catalog WebVPN.Storage WebVPN.Storage.Store

/-!
# Session — the lease of a temporary service

A temporary service is leased to its owner: 30 minutes after the last access, two hours in
all, unless the owner revokes it.  Expiry and revocation clear the column that marks the row
as temporary, so what keeps a dead temporary service from passing for a persistent one is
the flag `enabled` alone.

* `temporaryLease` — the lease, read off the history since the creation;
* `LeasedRow` — how the row in the table stands to the lease;
* `LeasedRow.step`, `run_leasedRow` — every step keeps that relation, so every run does;
* `run_temporaryLease` — the lease decides who gets the service; a lease that has ended has
  ended for good; and the service is never listed.
-/

/-- The lease of a temporary service, from the steps since its creation. -/
def temporaryLease (owner : Digest) (id : String) (created : Int) (since : History) : Lease :=
  Lease.read (unix created) (fun t => (t.event.accessTo id).map unix)
    (fun t => t.event = .temporariesRevoked owner) since

section Rows

variable (service : Service) (owner : Digest) (created : Int)

/-- The row of a temporary service whose lease has not been seen to end. -/
def activeRow (lease : Lease) : ServiceRow :=
  { temporaryRow service owner created with expiresAt := some (lease.expiry leaseTerms) }

/-- The row is active and carries the deadline of the lease, or it is disabled and the lease has
    ended.  (An active row may be past its deadline: it waits for the next sweep.) -/
def LeasedRow (lease : Lease) (now : Int) (row : ServiceRow) : Prop :=
  (row = activeRow service owner created lease ∧ lease.revoked = false) ∨
    (row = disable (temporaryRow service owner created) ∧ ¬ lease.InForce leaseTerms (unix now))

variable {service owner created}

variable {now : Int}

variable {lease : Lease}

variable {row : ServiceRow}

theorem LeasedRow.id_eq
    (h : LeasedRow service owner created lease now row) : row.id = service.id := by
  rcases h with ⟨rfl, -⟩ | ⟨rfl, -⟩ <;> rfl

/-- The deadline of a new lease is half an hour away. -/
theorem LeasedRow.new (now : Int) :
    LeasedRow service owner created (temporaryLease owner service.id created []) now
      (temporaryRow service owner created) := by
  refine .inl ⟨?_, rfl⟩
  have hexpiry : (temporaryLease owner service.id created []).expiry leaseTerms =
      unix created + 1800 := by
    simp [temporaryLease, Lease.read, Lease.expiry, leaseTerms]
  rw [activeRow, hexpiry]
  rfl

/-- Whom the row authorizes: the owner, while the lease is in force. -/
theorem LeasedRow.authorizes_iff (hgranted : lease.granted = unix created)
    (h : LeasedRow service owner created lease now row) (owner' : Digest) :
    authorizes owner' now row = true ↔ owner' = owner ∧ lease.InForce leaseTerms (unix now) := by
  rcases h with ⟨rfl, hrevoked⟩ | ⟨rfl, hended⟩
  · have habsolute : lease.InForce leaseTerms (unix now) → unix now < unix created + 7200 := by
      intro h
      have h' := h.2.1
      rw [hgranted] at h'
      exact h'
    rw [Lease.inForce_iff] at habsolute ⊢
    simp only [authorizes, activeRow, temporaryRow, Bool.and_eq_true, Bool.or_eq_true,
      decide_eq_true_eq, Option.any_some, Option.some.injEq, reduceCtorEq, false_or, true_and]
    constructor
    · rintro ⟨⟨howner, hexpires⟩, -⟩
      exact ⟨howner.symm, hrevoked, hexpires⟩
    · rintro ⟨rfl, hforce⟩
      exact ⟨⟨rfl, hforce.2⟩, habsolute hforce⟩
  · constructor
    · intro h
      cases h
    · rintro ⟨-, hforce⟩
      exact absurd hforce hended

/-- A row that authorizes its owner is read as the service that was created. -/
theorem LeasedRow.toService_eq {owner' : Digest}
    (h : LeasedRow service owner created lease now row) (htemporary : service.temporary = true)
    (henabled : service.enabled = true) (hauthorizes : authorizes owner' now row = true) :
    row.toService = service := by
  rcases h with ⟨rfl, -⟩ | ⟨rfl, -⟩
  · obtain ⟨id, agentID, slug, displayName, kind, policyRef, enabled, temporary⟩ := service
    cases htemporary
    cases henabled
    rfl
  · cases hauthorizes

/-! ### One step -/

variable {row row' : ServiceRow} {since : History} {t : Transition State Action Event} {now' : Int}

theorem temporaryLease_kept {id : String} (haccess : t.event.accessTo id = none) :
    temporaryLease owner id created (t :: since) =
      { temporaryLease owner id created since with
        revoked := decide (t.event = .temporariesRevoked owner) ||
          (temporaryLease owner id created since).revoked } :=
  Lease.read_cons_kept _ _ _ (by rw [haccess]; rfl) since

theorem temporaryLease_renewed {id : String} (haccess : t.event.accessTo id = some now) :
    temporaryLease owner id created (t :: since) =
      ⟨unix created, unix now, decide (t.event = .temporariesRevoked owner) ||
        (temporaryLease owner id created since).revoked⟩ :=
  Lease.read_cons_renewed _ _ _ (by rw [haccess]; rfl) since

/-- Without an access, a lease that has ended stays ended. -/
theorem not_inForce_kept {id : String} (haccess : t.event.accessTo id = none) (hle : now ≤ now')
    (h : ¬ (temporaryLease owner id created since).InForce leaseTerms (unix now)) :
    ¬ (temporaryLease owner id created (t :: since)).InForce leaseTerms (unix now') := by
  rw [temporaryLease_kept haccess]
  rintro ⟨hrevoked, hlimits⟩
  have hrevoked' : (temporaryLease owner id created since).revoked = false :=
    (Bool.or_eq_false_iff.mp hrevoked).2
  exact Lease.not_inForce_mono _ _ (unix_mono hle) h ⟨hrevoked', hlimits⟩

/-- **Step lemma.**  Whatever a step does to the row, the row still stands to the lease as
    `LeasedRow` says. -/
theorem LeasedRow.step (hle : t.before.clock ≤ now')
    (h : LeasedRow service owner created (temporaryLease owner service.id created since)
      t.before.clock row)
    (hstep : ServiceStep t.before.clock t.event row row') :
    LeasedRow service owner created (temporaryLease owner service.id created (t :: since)) now'
      row' := by
  have hid := h.id_eq
  cases hstep with
  | keep haccess hrevoke =>
    rcases h with ⟨rfl, hrevoked⟩ | ⟨rfl, hended⟩
    · -- an access would have renewed the row, a revocation would have disabled it
      have hnone : t.event.accessTo service.id = none := by
        rw [Option.eq_none_iff_forall_ne_some]
        intro now hnow
        cases (haccess now hnow).1
      have hnot : decide (t.event = .temporariesRevoked owner) = false := by
        rw [decide_eq_false_iff_not]
        intro heq
        cases hrevoke owner heq rfl
      rw [temporaryLease_kept hnone, hnot, Bool.false_or]
      exact .inl ⟨rfl, hrevoked⟩
    · have hnone : t.event.accessTo service.id = none := by
        rw [Option.eq_none_iff_forall_ne_some]
        intro now hnow
        cases (haccess now hnow).2
      exact .inr ⟨rfl, not_inForce_kept hnone hle hended⟩
  | expired hdue haccess hrevoke =>
    rcases h with ⟨rfl, hrevoked⟩ | ⟨rfl, hended⟩
    · refine .inr ⟨rfl, not_inForce_kept haccess hle ?_⟩
      intro hforce
      -- the sweep looks at both deadlines; a lease in force has passed neither
      have hauthorizes : authorizes owner t.before.clock (activeRow service owner created
          (temporaryLease owner service.id created since)) = true :=
        (LeasedRow.authorizes_iff rfl (.inl ⟨rfl, hrevoked⟩) owner).mpr ⟨rfl, hforce⟩
      rw [due_eq_false_of_authorizes hauthorizes] at hdue
      cases hdue
    · cases hdue
  | @renewed owner' hauthorizes howner haccess =>
    rcases h with ⟨rfl, hrevoked⟩ | ⟨rfl, hended⟩
    · have hnot : decide (t.event = .temporariesRevoked owner) = false := by
        rw [decide_eq_false_iff_not]
        intro heq
        rw [heq] at haccess
        cases haccess
      rw [hid] at haccess
      rw [temporaryLease_renewed haccess, hnot, Bool.false_or]
      refine .inl ⟨?_, hrevoked⟩
      rw [leaseRow, if_pos ⟨hauthorizes, by rw [howner]; exact Option.some_ne_none owner'⟩]
      rfl
    · cases howner
  | @revoked owner' heq howner henabled =>
    rcases h with ⟨rfl, hrevoked⟩ | ⟨rfl, hended⟩
    · cases howner
      have hnone : t.event.accessTo service.id = none := by rw [heq]; rfl
      refine .inr ⟨rfl, ?_⟩
      rw [temporaryLease_kept hnone, decide_eq_true heq, Bool.true_or]
      rintro ⟨hrevoked, -⟩
      cases hrevoked
    · cases henabled

/-- A step after the end of the lease is no access, and neither renews nor enables the row. -/
theorem LeasedRow.step_of_ended
    (h : LeasedRow service owner created (temporaryLease owner service.id created since)
      t.before.clock row)
    (hended : ¬ (temporaryLease owner service.id created since).InForce leaseTerms
      (unix t.before.clock))
    (hstep : ServiceStep t.before.clock t.event row row') :
    t.event.accessTo service.id = none ∧ (row' = row ∨ row' = disable row) := by
  have hid := h.id_eq
  have hunauthorized : ∀ owner', ¬ authorizes owner' t.before.clock row = true := by
    intro owner' hauthorizes
    exact hended ((LeasedRow.authorizes_iff rfl h owner').mp hauthorizes).2
  cases hstep with
  | keep haccess hrevoke =>
    refine ⟨?_, .inl rfl⟩
    rw [Option.eq_none_iff_forall_ne_some]
    intro now hnow
    rw [← hid] at hnow
    -- a row that is enabled and has no owner would authorize everybody
    refine hunauthorized owner ?_
    simp [authorizes, haccess now hnow]
  | expired _ haccess _ => exact ⟨hid ▸ haccess, .inr rfl⟩
  | renewed hauthorizes _ _ => exact absurd hauthorizes (hunauthorized _)
  | revoked heq _ _ =>
    refine ⟨?_, .inr rfl⟩
    rw [heq]
    rfl

/-- Neither an active nor a dead temporary service passes for a persistent one. -/
theorem LeasedRow.not_persistent (h : LeasedRow service owner created lease now row) :
    ¬ (row.enabled = true ∧ row.ownerDigest = none) := by
  rintro ⟨henabled, howner⟩
  rcases h with ⟨rfl, -⟩ | ⟨rfl, -⟩
  · cases howner
  · cases henabled

end Rows

/-! ### Runs -/

section Runs

variable {sha256 : List UInt8 → Digest} {agents : Table AgentRow.id} {start : Int}
  {since later earlier : History} {t u : Transition State Action Event} {s : State}
  {owner : Digest} {created : Int} {service : Service}

/-- **Run lemma.**  From its creation on, the row of a temporary service is there and stands to
    the lease as `LeasedRow` says. -/
theorem run_leasedRow (hr : (storeSystem sha256 agents start).Run (since ++ t :: earlier) s)
    (hcreated : t.event = .temporaryCreated owner created (.ok service)) :
    ∃ row, s.store.services.find? service.id = some row ∧
      LeasedRow service owner created (temporaryLease owner service.id created since) s.clock
        row := by
  induction since generalizing s with
  | nil =>
    have hstep := storeSystem_step hr.cons_inv.2
    rw [hcreated] at hstep
    obtain ⟨rfl, -, -, hfind⟩ := State.step_temporaryCreated hstep
    exact ⟨_, hfind, LeasedRow.new s.clock⟩
  | cons u since ih =>
    obtain ⟨hr', hstep⟩ := System.Run.cons_inv hr
    obtain ⟨row, hfind, hrow⟩ := ih hr'
    have hstep := storeSystem_step hstep
    have hfind' : u.before.store.services.find? row.id = some row := by rw [hrow.id_eq, hfind]
    obtain ⟨row', hfind'', hservice⟩ := State.step_service hfind' hstep
    refine ⟨row', ?_, hrow.step (State.step_clock_le hstep) hservice⟩
    rw [← hrow.id_eq]
    exact hfind''

/-- One step after the end of the lease: it does not return the service, and the lease stays
    ended. -/
theorem run_step_of_ended
    (hr : (storeSystem sha256 agents start).Run (u :: (since ++ t :: earlier)) s)
    (hcreated : t.event = .temporaryCreated owner created (.ok service))
    (hended : ¬ (temporaryLease owner service.id created since).InForce leaseTerms
      (unix u.before.clock)) :
    u.event.returns service.id = false ∧
      ¬ (temporaryLease owner service.id created (u :: since)).InForce leaseTerms (unix s.clock) ∧
      ∃ row row', u.before.store.services.find? service.id = some row ∧
        s.store.services.find? service.id = some row' ∧ (row' = row ∨ row' = disable row) := by
  obtain ⟨hr', hstep⟩ := System.Run.cons_inv hr
  obtain ⟨row, hfind, hrow⟩ := run_leasedRow hr' hcreated
  have hstep := storeSystem_step hstep
  have hid := hrow.id_eq
  have hfind' : u.before.store.services.find? row.id = some row := by rw [hid, hfind]
  obtain ⟨row', hfind'', hservice⟩ := State.step_service hfind' hstep
  obtain ⟨haccess, hsame⟩ := hrow.step_of_ended hended hservice
  refine ⟨?_, not_inForce_kept haccess (State.step_clock_le hstep) hended, row, row', hfind, ?_,
    hsame⟩
  · rw [Bool.eq_false_iff]
    intro hreturns
    rw [← hid] at hreturns haccess
    rcases State.step_returns hstep hfind' hreturns with hsome | hpersistent
    · rw [haccess] at hsome
      cases hsome
    · exact hrow.not_persistent hpersistent
  · rw [← hid]
    exact hfind''

/-- All steps after the end of the lease. -/
theorem run_of_ended {after before : History}
    (hr : (storeSystem sha256 agents start).Run (after ++ u :: (before ++ t :: earlier)) s)
    (hcreated : t.event = .temporaryCreated owner created (.ok service))
    (hended : ¬ (temporaryLease owner service.id created before).InForce leaseTerms
      (unix u.before.clock)) :
    (∀ w ∈ after ++ [u], w.event.returns service.id = false) ∧
      ¬ (temporaryLease owner service.id created (after ++ u :: before)).InForce leaseTerms
        (unix s.clock) ∧
      ∃ row row', u.before.store.services.find? service.id = some row ∧
        s.store.services.find? service.id = some row' ∧ (row' = row ∨ row' = disable row) := by
  induction after generalizing s with
  | nil =>
    obtain ⟨hreturns, hended', hrows⟩ := run_step_of_ended hr hcreated hended
    exact ⟨by simpa using hreturns, hended', hrows⟩
  | cons w after ih =>
    obtain ⟨hreturns, hended', row, row', hfind, hfind', hsame⟩ := ih (System.Run.cons_inv hr).1
    have hr' : (storeSystem sha256 agents start).Run
        (w :: ((after ++ u :: before) ++ t :: earlier)) s := by
      rw [List.append_assoc]
      exact hr
    obtain ⟨hreturns', hended'', row₁, row₂, hfind₁, hfind₂, hsame'⟩ :=
      run_step_of_ended hr' hcreated hended'
    have hrow : row₁ = row' := Option.some.inj (hfind₁.symm.trans hfind')
    subst hrow
    refine ⟨List.forall_mem_cons.mpr ⟨hreturns', hreturns⟩, hended'', row, row₂, hfind, hfind₂, ?_⟩
    -- disabling twice is disabling once
    rcases hsame with rfl | rfl
    · exact hsame'
    · rcases hsame' with rfl | rfl
      · exact .inr rfl
      · exact .inr rfl

/-- **The lease of a temporary service.**  In every run after its creation by `owner`:
    `AuthorizedService` returns it to the owner while the lease is in force, and otherwise to
    nobody; once the lease has ended no operation returns the service, and its row is neither
    renewed nor enabled again; and `ListServices` never returns it. -/
theorem run_temporaryLease
    (hr : (storeSystem sha256 agents start).Run (later ++ t :: earlier) s)
    (hcreated : t.event = .temporaryCreated owner created (.ok service)) :
    (∀ owner' found, (s.store.authorizedService service.id owner' s.clock).2 = .ok found ↔
      found = service ∧ owner' = owner ∧
        (temporaryLease owner service.id created later).InForce leaseTerms (unix s.clock)) ∧
    (∀ after u before, later = after ++ u :: before →
      ¬ (temporaryLease owner service.id created before).InForce leaseTerms
        (unix u.before.clock) →
      (∀ w ∈ after ++ [u], w.event.returns service.id = false) ∧
      ∃ row row', u.before.store.services.find? service.id = some row ∧
        s.store.services.find? service.id = some row' ∧ (row' = row ∨ row' = disable row)) ∧
    (∀ listed ∈ s.store.listServices, listed.id ≠ service.id) := by
  obtain ⟨row, hfind, hrow⟩ := run_leasedRow hr hcreated
  refine ⟨?_, ?_, ?_⟩
  · intro owner' found
    have hiff := hrow.authorizes_iff rfl owner'
    rw [(authorizedService_spec s.store service.id owner' s.clock).1, selectAuthorized, hfind,
      Option.filter_some]
    by_cases hauthorizes : authorizes owner' s.clock row = true
    · obtain ⟨-, _, hstep⟩ := System.Run.split hr
      have hstep := storeSystem_step hstep
      rw [hcreated] at hstep
      obtain ⟨-, htemporary, henabled, -⟩ := State.step_temporaryCreated hstep
      rw [if_pos hauthorizes]
      simp only [← hiff, hauthorizes, and_true, Except.ok.injEq,
        hrow.toService_eq htemporary henabled hauthorizes]
      exact eq_comm
    · rw [if_neg hauthorizes]
      simp only [← hiff, hauthorizes, and_false, reduceCtorEq]
  · rintro after u before rfl hended
    rw [List.append_assoc, List.cons_append] at hr
    obtain ⟨hreturns, -, hrows⟩ := run_of_ended hr hcreated hended
    exact ⟨hreturns, hrows⟩
  · intro listed hlisted hid
    obtain ⟨row', hfind', hpersistent⟩ := mem_listServices hlisted
    rw [hid, hfind] at hfind'
    cases hfind'
    exact hrow.not_persistent hpersistent

end Runs

/-! ### A lease that is used once

The service is created at time 0 and used after ten minutes.
-/

def sampleOwner : Digest := Vector.replicate 32 1

def sampleAgents : Table AgentRow.id :=
  Table.empty.cons ⟨randomID (Vector.replicate 16 0), .active⟩ rfl

def sampleService : Service where
  id := randomID (Vector.replicate 16 1)
  agentID := randomID (Vector.replicate 16 0)
  slug := randomTemporarySlug (Vector.replicate 16 2)
  displayName := "lab"
  kind := "http"
  policyRef := "temporary"
  enabled := true
  temporary := true

/-- A digest that tells tokens apart by their last byte. -/
def sampleHash (bytes : List UInt8) : Digest := Vector.replicate 32 (bytes.getLastD 0)

/-- The digest function plays no part in what happens to services. -/
def sampleSystem : System State Action Event := storeSystem (fun _ => Digest.zero) sampleAgents 0

theorem run_temporaryLease_of_use : ∃ t u v s, sampleSystem.Run [v, u, t] s ∧
    t.event = .temporaryCreated sampleOwner 0 (.ok sampleService) ∧
    v.event = .authorized sampleOwner (600 * 10 ^ 9) (.ok sampleService) ∧
    (s.store.authorizedService sampleService.id sampleOwner s.clock).2 = .ok sampleService ∧
    ∀ listed ∈ s.store.listServices, listed.id ≠ sampleService.id := by
  obtain ⟨h, s, hr, hc⟩ := System.exists_run_of_exec (S := sampleSystem)
    (P := fun h s => System.latest (fun v => System.latest (fun u => System.latest (fun t earlier =>
      earlier.isEmpty && decide (t.event = .temporaryCreated sampleOwner 0 (.ok sampleService) ∧
        v.event = .authorized sampleOwner (600 * 10 ^ 9) (.ok sampleService) ∧
        (temporaryLease sampleOwner sampleService.id 0 [v, u]).InForce leaseTerms
          (unix s.clock))))) h)
    [.createTemporary sampleOwner ⟨sampleService.agentID, "lab", "http"⟩ (Vector.replicate 16 1)
      (Vector.replicate 16 2), .advance (600 * 10 ^ 9),
      .authorizedService sampleService.id sampleOwner] (by decide +kernel)
  obtain ⟨v, _, rfl, hv⟩ := System.exists_of_latest hc
  obtain ⟨u, _, rfl, hu⟩ := System.exists_of_latest hv
  obtain ⟨t, earlier, rfl, ht⟩ := System.exists_of_latest hu
  obtain ⟨hfirst, hlease⟩ := Bool.and_eq_true_iff.mp ht
  obtain rfl := List.isEmpty_iff.mp hfirst
  obtain ⟨hcreated, haccess, hforce⟩ := of_decide_eq_true hlease
  have hr' : sampleSystem.Run ([v, u] ++ t :: []) s := hr
  have hlaw := run_temporaryLease hr' hcreated
  exact ⟨t, u, v, s, hr, hcreated, haccess, (hlaw.1 _ _).mpr ⟨rfl, rfl, hforce⟩, hlaw.2.2⟩

end WebVPN.Session
